import GrammarCheck.Check
import GrammarCheck.Proofs.Walking

/-!
# The artifact of a library case

A library case shows the fingerprint of its file however far the library got. There are two ways
to that fingerprint. A library file that opens is fingerprinted through its canonical path, before
it is mapped; for one that does not open, the path is read again as it was given. Both read the
file at the location that the path resolves to.

* `read_eq_ok_iff`, `LibraryGrammar.ofFile_eq_ok_iff` — what reading and opening succeed with, in
  terms of the entry at the location that is found.
* `Case.artifact?_run` — running a grammar does not change the artifact.
* `artifact?_openLibrary` — both ways are the fingerprint of the file as it is read through the
  given path.
* `artifact?_libraryCase` — the artifact by what the path resolves to.
-/

namespace GrammarCheck

/-! ### Reading and opening -/

namespace FileSystem

variable {fs : FileSystem} {p : Path}

/-- A path is read when it leads to a regular file, with the content of that file. -/
theorem read_eq_ok_iff {content : List UInt8} :
    fs.read p = .ok content ↔
      ∃ loc image, fs.access p = .ok loc ∧ fs.entry? loc = some (.file content image) := by
  unfold read
  cases haccess : fs.access p with
  | error e => simp [bind, Except.bind]
  | ok loc =>
    simp only [bind, Except.bind, Except.ok.injEq]
    constructor
    · intro h
      split at h
      · next image hentry =>
        obtain rfl := Except.ok.inj h
        exact ⟨loc, image, rfl, hentry⟩
      · exact absurd h (by simp)
      · exact absurd h (by simp)
    · rintro ⟨_, image, rfl, hentry⟩
      rw [hentry]

/-- The dynamic loader sees the image of the file that a path leads to. -/
theorem image?_eq_some_iff {image : Image} :
    fs.image? p = some image ↔
      ∃ loc content, fs.access p = .ok loc ∧ fs.entry? loc = some (.file content image) := by
  unfold image?
  cases haccess : fs.access p with
  | error e => simp
  | ok loc =>
    simp only [Except.ok.injEq]
    constructor
    · intro h
      split at h
      · next content _ hentry =>
        obtain rfl := Option.some.inj h
        exact ⟨loc, content, rfl, hentry⟩
      · exact absurd h (by simp)
    · rintro ⟨_, content, rfl, hentry⟩
      rw [hentry]

end FileSystem

theorem bind_eq_ok_iff {ε α β : Type} {x : Except ε α} {f : α → Except ε β} {b : β} :
    (x >>= f) = .ok b ↔ ∃ a, x = .ok a ∧ f a = .ok b := by
  cases x <;> simp [bind, Except.bind]

theorem mapError_eq_ok_iff {ε ε' α : Type} {x : Except ε α} {f : ε → ε'} {a : α} :
    x.mapError f = .ok a ↔ x = .ok a := by
  cases x with
  | ok b => exact ⟨fun h => congrArg _ (Except.ok.inj h), fun h => congrArg _ (Except.ok.inj h)⟩
  | error e => exact iff_of_false nofun nofun

theorem fingerprintFile_eq_ok_iff {fs : FileSystem} {p : Path} {fingerprint : String} :
    fingerprintFile fs p = .ok fingerprint ↔
      ∃ content, fs.read p = .ok content ∧ fingerprint = Digest.fingerprint content := by
  unfold fingerprintFile
  cases fs.read p with
  | ok content => simp [eq_comm]
  | error e => simp

theorem exportsOf_eq_ok_iff {fs : FileSystem} {p : Path} {entries : List (String × EntryPoint)} :
    exportsOf fs p = .ok entries ↔ fs.image? p = some (.exporting entries) := by
  unfold exportsOf
  split <;> simp_all

theorem entryPointOf_eq_ok_iff {p : Path} {entries : List (String × EntryPoint)} {symbol : String}
    {entry : EntryPoint} :
    entryPointOf p entries symbol = .ok entry ↔ findExport? entries symbol = some entry := by
  unfold entryPointOf
  cases findExport? entries symbol <;> simp

theorem resolveLibrary_eq_ok_iff {fs : FileSystem} {p canonical : Path} :
    resolveLibrary fs p = .ok canonical ↔ fs.canonicalize p = .ok canonical :=
  mapError_eq_ok_iff

/-- **Opening a library file.** A path opens as the grammar of a name when it resolves to a regular
file that exports the entry point of the name. The grammar shows the canonical path of the location
and the fingerprint of the file. -/
theorem LibraryGrammar.ofFile_eq_ok_iff {fs : FileSystem} {p : Path} {name : String}
    {g : LibraryGrammar} :
    LibraryGrammar.ofFile fs p name = .ok g ↔
      ∃ loc content entries, fs.canonicalize p = .ok g.path ∧ fs.access g.path = .ok loc ∧
        fs.entry? loc = some (.file content (.exporting entries)) ∧
        g.fingerprint = Digest.fingerprint content ∧
        findExport? entries (symbolName name) = some g.entry ∧
        g.name = name ∧ g.displayName = GrammarCheck.displayName name := by
  simp only [LibraryGrammar.ofFile, bind_eq_ok_iff, resolveLibrary_eq_ok_iff,
    fingerprintFile_eq_ok_iff, exportsOf_eq_ok_iff, entryPointOf_eq_ok_iff,
    FileSystem.read_eq_ok_iff, FileSystem.image?_eq_some_iff]
  constructor
  · rintro ⟨canonical, hcanonical, _, ⟨content, ⟨loc, image, haccess, hentry⟩, rfl⟩, entries,
      ⟨loc', content', haccess', hentry'⟩, entry, hexport, hg⟩
    obtain rfl := Except.ok.inj hg
    -- both calls find the same location, so they see one file
    obtain rfl := Except.ok.inj (haccess.symm.trans haccess')
    obtain ⟨rfl, rfl⟩ := Entry.file.inj (Option.some.inj (hentry.symm.trans hentry'))
    exact ⟨loc, content, entries, hcanonical, haccess, hentry, rfl, hexport, rfl, rfl⟩
  · rintro ⟨loc, content, entries, hcanonical, haccess, hentry, hfingerprint, hexport, rfl,
      hdisplay⟩
    refine ⟨g.path, hcanonical, _, ⟨content, ⟨loc, _, haccess, hentry⟩, rfl⟩, entries,
      ⟨loc, content, haccess, hentry⟩, g.entry, hexport, ?_⟩
    rw [← hfingerprint, ← hdisplay]
    rfl

/-- The item of a library file has the name the file is asked for under, whether it opens or not. -/
theorem name_openLibrary (fs : FileSystem) (l : NamedLibrary) :
    (openLibrary fs l).name = l.name := by
  unfold openLibrary
  split
  · next g hopen =>
    obtain ⟨_, _, _, _, _, _, _, _, hname, _⟩ := LibraryGrammar.ofFile_eq_ok_iff.mp hopen
    exact hname
  · rfl

/-- A library file that opens shows the fingerprint that reading the given path gives. -/
theorem LibraryGrammar.fingerprintFile_of_ofFile {fs : FileSystem} {p : Path} {name : String}
    {g : LibraryGrammar} (h : LibraryGrammar.ofFile fs p name = .ok g)
    (hshort : p.bytes.length < FileSystem.pathLimit) :
    fingerprintFile fs p = .ok g.fingerprint := by
  obtain ⟨loc, content, entries, hcanonical, haccess, hentry, hfingerprint, -⟩ :=
    LibraryGrammar.ofFile_eq_ok_iff.mp h
  obtain ⟨loc', hresolve, -, haccess'⟩ := FileSystem.exists_location_of_canonicalize hcanonical
  obtain rfl := Except.ok.inj (haccess.symm.trans haccess')
  refine fingerprintFile_eq_ok_iff.mpr ⟨content, ?_, hfingerprint⟩
  rw [← FileSystem.access_eq_resolve hshort] at hresolve
  exact FileSystem.read_eq_ok_iff.mpr ⟨loc, _, hresolve, hentry⟩

/-! ### Cases -/

namespace Case

@[simp] theorem artifact?_fail (c : Case) (message : String) (detail? : Option String) :
    (c.fail message detail?).artifact? = c.artifact? := rfl

@[simp] theorem artifact?_failWith (c : Case) (e : LoadError) :
    (c.failWith e).artifact? = c.artifact? := rfl

@[simp] theorem artifact?_pass (c : Case) (g : LoadedGrammar) :
    (c.pass g).artifact? = c.artifact? := rfl

@[simp] theorem artifact?_withSample (c : Case) (displayName : String) (strict : Bool)
    (summary? : Option ParseSummary) :
    (c.withSample displayName strict summary?).artifact? = c.artifact? := by
  unfold withSample
  simp only
  split
  · rw [artifact?_fail]
  · rfl

/-- Whether a grammar loads and what becomes of the sample makes no difference to the artifact. -/
theorem artifact?_run (runtime : Runtime) (loader : Loader) (options : CaseOptions) (p : Provider) :
    (Case.run runtime loader options p).artifact? = p.artifact? := by
  unfold Case.run
  simp only
  split
  · rw [artifact?_failWith]
  · split
    · rw [artifact?_pass]
    · rw [artifact?_withSample, artifact?_pass]

end Case

variable {fs : FileSystem} {l : NamedLibrary}

/-- Both ways to the artifact of a library case are the same as reading the file through the given
path. -/
theorem artifact?_openLibrary (runtime : Runtime) (loader : Loader) (options : CaseOptions)
    (hshort : l.path.bytes.length < FileSystem.pathLimit) :
    ((openLibrary fs l).case runtime loader options).artifact? =
      (fingerprintFile fs l.path).toOption := by
  unfold openLibrary
  split
  · next g hopen =>
    -- the file opens, and the case keeps the fingerprint it was opened with
    rw [PlannedItem.case, Case.artifact?_run, LibraryGrammar.fingerprintFile_of_ofFile hopen hshort]
    rfl
  · -- the file does not open, and the given path is read once more
    rfl

/-- **The artifact of a library case.** It is the fingerprint of the regular file that the path
resolves to, and there is none if the path resolves to a directory or not at all. It does not matter
whether the file can be mapped, exports the entry point, loads, or parses the sample. A path at the
limit on its length is resolved but cannot be read. -/
theorem artifact?_libraryCase (fs : FileSystem) (l : NamedLibrary) (runtime : Runtime)
    (loader : Loader) (options : CaseOptions)
    (hshort : l.path.bytes.length < FileSystem.pathLimit) :
    (∀ loc content image, fs.resolve l.path = .ok loc →
      fs.entry? loc = some (.file content image) →
      ((openLibrary fs l).case runtime loader options).artifact? =
        some (Digest.fingerprint content)) ∧
    (∀ loc, fs.resolve l.path = .ok loc → fs.entry? loc = some .directory →
      ((openLibrary fs l).case runtime loader options).artifact? = none) ∧
    (∀ e, fs.resolve l.path = .error e →
      ((openLibrary fs l).case runtime loader options).artifact? = none) := by
  have hread : fs.access l.path = fs.resolve l.path := FileSystem.access_eq_resolve hshort
  simp only [artifact?_openLibrary runtime loader options hshort]
  refine ⟨?_, ?_, ?_⟩
  -- a regular file
  · intro loc content image hresolve hentry
    rw [fingerprintFile_eq_ok_iff.mpr ⟨content, FileSystem.read_eq_ok_iff.mpr
      ⟨loc, image, hread.trans hresolve, hentry⟩, rfl⟩]
    rfl
  -- a directory
  · intro loc hresolve hentry
    unfold fingerprintFile FileSystem.read
    rw [hread, hresolve]
    simp only [bind, Except.bind, hentry]
    rfl
  -- nothing at all
  · intro e hresolve
    unfold fingerprintFile FileSystem.read
    rw [hread, hresolve]
    rfl

/-- A library file that cannot be mapped, a link to it, and a link that leads nowhere. -/
private def linkedLibrary : FileSystem where
  entries :=
    [([(Path.ofText "lib").bytes], .directory),
     ([(Path.ofText "a.so").bytes, (Path.ofText "lib").bytes],
      .file [0x7f, 0x45] (.rejected "file too short")),
     ([(Path.ofText "link").bytes], .symlink (.ofText "lib/./a.so")),
     ([(Path.ofText "lost").bytes], .symlink (.ofText "lib/b.so"))]
  workingDirectory := .ofText "/lib"

/-- The file has its artifact through the link too; the directory and the lost link have none. -/
theorem artifact?_linkedLibrary :
    let artifact? (path : String) : Option String :=
      ((openLibrary linkedLibrary ⟨"a", .ofText path⟩).case ⟨fun _ _ => none⟩ AbiRange.supported
        {}).artifact?
    artifact? "../link" = some (Digest.fingerprint [0x7f, 0x45]) ∧
      artifact? "/lib/." = none ∧ artifact? "/lost" = none :=
  ⟨(artifact?_libraryCase linkedLibrary ⟨"a", .ofText "../link"⟩ ⟨fun _ _ => none⟩
      AbiRange.supported {} (by decide)).1 _ _ _ rfl rfl,
    (artifact?_libraryCase linkedLibrary ⟨"a", .ofText "/lib/."⟩ ⟨fun _ _ => none⟩
      AbiRange.supported {} (by decide)).2.1 _ rfl rfl,
    (artifact?_libraryCase linkedLibrary ⟨"a", .ofText "/lost"⟩ ⟨fun _ _ => none⟩
      AbiRange.supported {} (by decide)).2.2 .notFound rfl⟩

end GrammarCheck
