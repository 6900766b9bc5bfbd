import GrammarCheck.Proofs.LibraryFailure

/-!
# The stages of opening

Opening goes through the location of a library file three times: the file is fingerprinted, mapped,
and searched for the entry point. All of it is done through the canonical path, which is found
first. So once the path has a canonical path, what comes of opening is told by the entry at one
location, and the messages name that location.

* `Exports`, `findExport?_eq_some_iff` — which entry point a symbol stands for.
* `LibraryGrammar.ofFile_eq_error_iff_entry` — the failures that are left once the path is resolved,
  by the entry at the location.
* `OpensInStages`, `LibraryGrammar.ofFile_stages` — the stages in their order, and the grammar that
  comes out of the last one.
-/

namespace GrammarCheck

/-! ### Exported symbols -/

/-- **A symbol and its entry point.** The symbol is the name of an export, or that name with its
terminator. A name has no zero character of its own. -/
def Exports (entries : List (String × EntryPoint)) (symbol : String) (entry : EntryPoint) : Prop :=
  ∃ exported, (symbol = exported ∨ symbol = exported ++ "\x00") ∧ '\x00' ∉ exported.toList ∧
    entries.lookup exported = some entry

section Symbols

variable {symbol exported : String}

/-- A zero character at the end is dropped. -/
theorem exportedName?_of_terminated {front : List Char} (h : symbol.toList = front ++ ['\x00']) :
    exportedName? symbol = if '\x00' ∈ front then none else some (String.ofList front) := by
  simp [exportedName?, h]

/-- Without one the symbol is the name. -/
theorem exportedName?_of_unterminated (h : ∀ front, symbol.toList ≠ front ++ ['\x00']) :
    exportedName? symbol = if '\x00' ∈ symbol.toList then none else some symbol := by
  unfold exportedName?
  split
  next rest hreverse =>
    exact absurd (by simpa using congrArg List.reverse hreverse) (h rest.reverse)
  next => simp

/-- The name of a symbol is the symbol, up to one zero character at its end, and has no other. -/
theorem exportedName?_eq_some_iff :
    exportedName? symbol = some exported ↔
      (symbol = exported ∨ symbol = exported ++ "\x00") ∧ '\x00' ∉ exported.toList := by
  by_cases hend : ∃ front, symbol.toList = front ++ ['\x00']
  case pos =>
    obtain ⟨front, hfront⟩ := hend
    have hsymbol : symbol = String.ofList front ++ "\x00" := by
      rw [← String.toList_inj, hfront]
      simp
    rw [exportedName?_of_terminated hfront]
    constructor
    · intro h
      split at h
      · exact absurd h nofun
      next hnul =>
        obtain rfl := Option.some.inj h
        exact ⟨Or.inr hsymbol, by simpa using hnul⟩
    · rintro ⟨rfl | happend, hnul⟩
      -- the symbol is no name itself: it has the zero character at its end
      · exact absurd (by simp [hfront]) hnul
      · obtain rfl : exported = String.ofList front :=
          (String.append_left_inj "\x00").mp (happend.symm.trans hsymbol)
        rw [if_neg (by simpa using hnul)]
  case neg =>
    rw [exportedName?_of_unterminated (not_exists.mp hend)]
    constructor
    · intro h
      split at h
      · exact absurd h nofun
      next hnul =>
        obtain rfl := Option.some.inj h
        exact ⟨Or.inl rfl, hnul⟩
    · rintro ⟨rfl | rfl, hnul⟩
      · rw [if_neg hnul]
      · exact absurd ⟨exported.toList, by simp⟩ hend

theorem findExport?_eq_some_iff {entries : List (String × EntryPoint)} {entry : EntryPoint} :
    findExport? entries symbol = some entry ↔ Exports entries symbol entry := by
  simp only [findExport?, Option.bind_eq_some_iff, exportedName?_eq_some_iff, Exports, and_assoc]

theorem findExport?_eq_none_iff {entries : List (String × EntryPoint)} :
    findExport? entries symbol = none ↔ ∀ entry, ¬ Exports entries symbol entry := by
  simp only [Option.eq_none_iff_forall_ne_some, ne_eq, findExport?_eq_some_iff]

end Symbols

/-! ### Failures at a location -/

namespace LibraryGrammar

variable {fs : FileSystem} {p : Path} {loc : Location} {name : String}

/-- **What is left to fail.** Once the path is resolved there is one location, and the entry there
tells what fails: there is no regular file, or the file is rejected, or it does not export the
symbol. -/
theorem ofFile_eq_error_iff_entry {e : LibraryError} (hcanonical : fs.canonicalize p = .ok loc.path)
    (haccess : fs.access loc.path = .ok loc) :
    ofFile fs p name = .error e ↔
      (∃ cause, fs.read loc.path = .error cause ∧ e = .unreadable loc.path cause) ∨
      (∃ content reason, fs.entry? loc = some (.file content (.rejected reason)) ∧
        e = .unusable loc.path (loc.path.display ++ ": " ++ reason)) ∨
      ∃ content entries, fs.entry? loc = some (.file content (.exporting entries)) ∧
        (∀ entry, ¬ Exports entries (symbolName name) entry) ∧
        e = .missingSymbol loc.path (symbolName name) := by
  -- reading and mapping both find the location, so both see the entry there
  have hread (content : List UInt8) :
      fs.read loc.path = .ok content ↔ ∃ image, fs.entry? loc = some (.file content image) := by
    simp [FileSystem.read_eq_ok_iff, haccess]
  have himage (image : Image) :
      fs.image? loc.path = some image ↔ ∃ content, fs.entry? loc = some (.file content image) := by
    simp [FileSystem.image?_eq_some_iff, haccess]
  rw [ofFile_eq_error_iff]
  constructor
  · intro h
    cases h with
    | unresolved resolved => exact absurd (resolved.symm.trans hcanonical) nofun
    -- every other stage works with the canonical path, which is that of the location
    | @unread canonical cause resolved read =>
      obtain rfl := Except.ok.inj (resolved.symm.trans hcanonical)
      exact Or.inl ⟨cause, read, rfl⟩
    | @unmapped canonical content reason resolved read mapped =>
      obtain rfl := Except.ok.inj (resolved.symm.trans hcanonical)
      obtain ⟨content, hentry⟩ := (himage _).mp mapped
      exact Or.inr (Or.inl ⟨content, reason, hentry, rfl⟩)
    | @unexported canonical content entries resolved read mapped exported =>
      obtain rfl := Except.ok.inj (resolved.symm.trans hcanonical)
      obtain ⟨content, hentry⟩ := (himage _).mp mapped
      exact Or.inr (Or.inr ⟨content, entries, hentry, findExport?_eq_none_iff.mp exported, rfl⟩)
  · rintro (⟨cause, hunread, rfl⟩ | ⟨content, reason, hentry, rfl⟩ |
      ⟨content, entries, hentry, hnone, rfl⟩)
    · exact .unread hcanonical hunread
    · exact .unmapped hcanonical ((hread _).mpr ⟨_, hentry⟩) ((himage _).mpr ⟨_, hentry⟩)
    · exact .unexported hcanonical ((hread _).mpr ⟨_, hentry⟩) ((himage _).mpr ⟨_, hentry⟩)
        (findExport?_eq_none_iff.mpr hnone)

/-- **The error that names the given path.** It says that the path does not resolve. A path that is
its own canonical path is named by the stage after that as well. -/
theorem ofFile_eq_unreadable_iff {cause : IoError} :
    ofFile fs p name = .error (.unreadable p cause) ↔
      fs.canonicalize p = .error cause ∨
        fs.canonicalize p = .ok p ∧ fs.read p = .error cause := by
  rw [ofFile_eq_error_iff]
  constructor
  · intro h
    cases h with
    | unresolved resolved => exact Or.inl resolved
    | unread resolved read => exact Or.inr ⟨resolved, read⟩
  · rintro (hresolve | ⟨hresolve, hread⟩)
    · exact .unresolved hresolve
    · exact .unread hresolve hread

end LibraryGrammar

/-! ### The stages -/

/-- **A grammar opened at a location.** It shows the path of the location, the fingerprint of the
content there, and the name it was asked for under. Its handle gives what the entry point
returns. -/
structure OpenedAt (fs : FileSystem) (loc : Location) (content : List UInt8) (entry : EntryPoint)
    (name : String) (g : LibraryGrammar) : Prop where
  path_eq : g.path = loc.path
  isAbsolute_path : g.path.isAbsolute
  resolveLibrary_path : resolveLibrary fs g.path = .ok g.path
  fingerprint_eq : g.fingerprint = Digest.fingerprint content
  name_eq : g.name = name
  displayName_eq : g.displayName = displayName name
  handle_name : g.handle.name = displayName name
  handle_language? : g.handle.language? = entry.returns?
  isAbsent_handle : g.handle.isAbsent ↔ entry.returns? = none

/-- **The stages at a location.** What comes of opening the file at a location under a name. Each
stage is told for the entries that pass the stages before it. -/
structure OpensInStages (fs : FileSystem) (loc : Location) (name : String)
    (result : Except LibraryError LibraryGrammar) : Prop where
  unreadable_iff {cause} :
    result = .error (.unreadable loc.path cause) ↔ fs.read loc.path = .error cause
  read_iff {content} :
    fs.read loc.path = .ok content ↔ ∃ image, fs.entry? loc = some (.file content image)
  unusable_iff {content image} (hentry : fs.entry? loc = some (.file content image)) :
    (∃ reason, result = .error (.unusable loc.path reason)) ↔ ∃ reason, image = .rejected reason
  missingSymbol_iff {content entries}
    (hentry : fs.entry? loc = some (.file content (.exporting entries))) :
    result = .error (.missingSymbol loc.path (symbolName name)) ↔
      ∀ entry, ¬ Exports entries (symbolName name) entry
  opened {content entries entry}
    (hentry : fs.entry? loc = some (.file content (.exporting entries)))
    (hexports : Exports entries (symbolName name) entry) :
    ∃ g, result = .ok g ∧ OpenedAt fs loc content entry name g

namespace LibraryGrammar

variable {fs : FileSystem} {p : Path} {loc : Location} {name : String}

/-- A grammar from a library file that opens is the one of the location its path leads to. -/
theorem exists_openedAt {content : List UInt8} {entries : List (String × EntryPoint)}
    {entry : EntryPoint} (hcanonical : fs.canonicalize p = .ok loc.path)
    (haccess : fs.access loc.path = .ok loc)
    (hentry : fs.entry? loc = some (.file content (.exporting entries)))
    (hexports : Exports entries (symbolName name) entry) :
    ∃ g, ofFile fs p name = .ok g ∧ OpenedAt fs loc content entry name g := by
  refine ⟨⟨name, GrammarCheck.displayName name, loc.path, Digest.fingerprint content, entry⟩,
    ofFile_eq_ok_iff.mpr ⟨loc, content, entries, hcanonical, haccess, hentry, rfl,
      findExport?_eq_some_iff.mpr hexports, rfl, rfl⟩, ?_⟩
  exact
    { path_eq := rfl
      isAbsolute_path := loc.isAbsolute_path
      -- a canonical path is its own canonical path
      resolveLibrary_path :=
        resolveLibrary_eq_ok_iff.mpr (FileSystem.canonicalize_canonical hcanonical)
      fingerprint_eq := rfl
      name_eq := rfl
      displayName_eq := rfl
      handle_name := rfl
      handle_language? := rfl
      isAbsent_handle := Option.isNone_iff_eq_none }

/-- What is opened at a location goes through the stages, each told by the entry there. -/
theorem opensInStages (hcanonical : fs.canonicalize p = .ok loc.path)
    (haccess : fs.access loc.path = .ok loc) :
    OpensInStages fs loc name (ofFile fs p name) where
  unreadable_iff {cause} := by
    rw [ofFile_eq_error_iff_entry hcanonical haccess]
    simp
  read_iff := by simp [FileSystem.read_eq_ok_iff, haccess]
  unusable_iff {content image} hentry := by
    simp only [ofFile_eq_error_iff_entry hcanonical haccess, hentry]
    constructor
    -- errors of the other stages have another shape
    · rintro ⟨_, ⟨_, -, h⟩ | ⟨_, reason, h, -⟩ | ⟨_, _, -, -, h⟩⟩
      · exact absurd h nofun
      · exact ⟨reason, (Entry.file.inj (Option.some.inj h)).2⟩
      · exact absurd h nofun
    · rintro ⟨reason, rfl⟩
      exact ⟨_, Or.inr (Or.inl ⟨content, reason, rfl, rfl⟩)⟩
  missingSymbol_iff {content entries} hentry := by
    rw [ofFile_eq_error_iff_entry hcanonical haccess, hentry]
    constructor
    · rintro (⟨_, -, h⟩ | ⟨_, _, -, h⟩ | ⟨_, _, h, hnone, -⟩)
      · exact absurd h nofun
      · exact absurd h nofun
      · obtain rfl := Image.exporting.inj (Entry.file.inj (Option.some.inj h)).2
        exact hnone
    · exact fun hnone => Or.inr (Or.inr ⟨content, entries, rfl, hnone, rfl⟩)
  opened := exists_openedAt hcanonical haccess

/-- **Opening, stage by stage.** A path that does not resolve fails with an error that names the
path as it is given. Reading is the only other stage with such an error, and it names the given path
only if that is the canonical path already. A path that resolves has one location: its canonical
path is the path of the location, and both paths lead there. The file at the location is then read,
mapped and searched, with errors that name the canonical path, and a file that exports the symbol
gives a grammar. -/
theorem ofFile_stages (fs : FileSystem) (p : Path) (name : String) :
    (∀ cause, ofFile fs p name = .error (.unreadable p cause) ↔
      fs.canonicalize p = .error cause ∨
        fs.canonicalize p = .ok p ∧ fs.read p = .error cause) ∧
    ∀ canonical, fs.canonicalize p = .ok canonical →
      ∃ loc : Location, canonical = loc.path ∧ fs.resolve p = .ok loc ∧
        fs.resolve canonical = .ok loc ∧ OpensInStages fs loc name (ofFile fs p name) := by
  refine ⟨fun cause => ofFile_eq_unreadable_iff, fun canonical hcanonical => ?_⟩
  obtain ⟨loc, hresolve, rfl, haccess⟩ := FileSystem.exists_location_of_canonicalize hcanonical
  exact ⟨loc, rfl, hresolve, FileSystem.resolve_of_access haccess,
    opensInStages hcanonical haccess⟩

/-- Two entry points, one of them returning nothing. -/
private def stagedExports : List (String × EntryPoint) :=
  [("tree_sitter_zig", ⟨some ⟨"zig", 14, 1, 0⟩⟩), ("tree_sitter_c_sharp", ⟨none⟩)]

/-- A library file that exports the entry points, with a rejected file beside it; links to the
library, to nothing, and to itself. The working directory holds the files. -/
private def stagedLibrary : FileSystem where
  entries :=
    [([(Path.ofText "lib").bytes], .directory),
     ([(Path.ofText "zig.so").bytes, (Path.ofText "lib").bytes],
      .file [0] (.exporting stagedExports)),
     ([(Path.ofText "bad.so").bytes, (Path.ofText "lib").bytes],
      .file [] (.rejected "file too short")),
     ([(Path.ofText "link").bytes], .symlink (.ofText "lib/./zig.so")),
     ([(Path.ofText "chain").bytes], .symlink (.ofText "/lib/../link")),
     ([(Path.ofText "dangling").bytes], .symlink (.ofText "nowhere")),
     ([(Path.ofText "loop").bytes], .symlink (.ofText "loop"))]
  workingDirectory := .ofText "/lib"

/-- Every stage is met. A link in a circle and a link to nothing do not resolve, a directory cannot
be read, one file cannot be mapped, and one does not export the symbol of every name. Through a
chain of links the library opens, also under a name whose symbol brings its own terminator, and
under the name of the entry point that returns nothing. -/
theorem ofFile_stages_chain :
    let result (path name : String) := ofFile stagedLibrary (.ofText path) name
    result "../loop" "zig" = .error (.unreadable (.ofText "../loop") .tooManyLinks) ∧
      result "/dangling" "zig" = .error (.unreadable (.ofText "/dangling") .notFound) ∧
      result "." "zig" = .error (.unreadable (.ofText "/lib") .isADirectory) ∧
      (∃ reason, result "bad.so" "zig" = .error (.unusable (.ofText "/lib/bad.so") reason)) ∧
      result "../chain" "rust" =
        .error (.missingSymbol (.ofText "/lib/zig.so") "tree_sitter_rust") ∧
      (∃ g, result "../chain" "zig\x00" = .ok g ∧ g.path = .ofText "/lib/zig.so" ∧
        g.handle.language? = some ⟨"zig", 14, 1, 0⟩) ∧
      ∃ g, result "zig.so" "C-Sharp" = .ok g ∧ g.handle.name = "C-Sharp" ∧ g.handle.isAbsent := by
  intro result
  -- the location of a path that resolves, and the stages there
  have hstages (path name : String) (loc : Location)
      (h : stagedLibrary.canonicalize (.ofText path) = .ok loc.path)
      (hresolve : stagedLibrary.resolve (.ofText path) = .ok loc) :
      OpensInStages stagedLibrary loc name (result path name) := by
    obtain ⟨loc', -, hresolve', -, hopens⟩ :=
      (ofFile_stages stagedLibrary (.ofText path) name).2 _ h
    obtain rfl := Except.ok.inj (hresolve.symm.trans hresolve')
    exact hopens
  let library : Location := [(Path.ofText "zig.so").bytes, (Path.ofText "lib").bytes]
  have hchain (name : String) : OpensInStages stagedLibrary library name (result "../chain" name) :=
    hstages "../chain" name library rfl rfl
  have hzig : Exports stagedExports (symbolName "zig\x00") ⟨some ⟨"zig", 14, 1, 0⟩⟩ :=
    ⟨"tree_sitter_zig", Or.inr (by decide), by decide, rfl⟩
  have hsharp : Exports stagedExports (symbolName "C-Sharp") ⟨none⟩ :=
    ⟨"tree_sitter_c_sharp", Or.inl (by decide), by decide, by decide⟩
  have hrust : ∀ entry, ¬ Exports stagedExports (symbolName "rust") entry :=
    findExport?_eq_none_iff.mp (by decide)
  refine ⟨?_, ?_, ?_, ?_, ?_, ?_, ?_⟩
  · exact ((ofFile_stages stagedLibrary (.ofText "../loop") "zig").1 _).mpr (Or.inl rfl)
  · exact ((ofFile_stages stagedLibrary (.ofText "/dangling") "zig").1 _).mpr (Or.inl rfl)
  · exact (hstages "." "zig" [(Path.ofText "lib").bytes] rfl rfl).unreadable_iff.mpr rfl
  · exact ((hstages "bad.so" "zig" [(Path.ofText "bad.so").bytes, (Path.ofText "lib").bytes] rfl
      rfl).unusable_iff rfl).mpr ⟨_, rfl⟩
  · exact ((hchain "rust").missingSymbol_iff rfl).mpr hrust
  · obtain ⟨g, hopen, hg⟩ := (hchain "zig\x00").opened rfl hzig
    exact ⟨g, hopen, hg.path_eq, hg.handle_language?⟩
  · obtain ⟨g, hopen, hg⟩ := (hstages "zig.so" "C-Sharp" library rfl rfl).opened rfl hsharp
    exact ⟨g, hopen, hg.handle_name.trans (by decide), hg.isAbsent_handle.mpr rfl⟩

end LibraryGrammar

end GrammarCheck
