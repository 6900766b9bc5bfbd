import GrammarCheck.Proofs.Building
import GrammarCheck.Proofs.Discovery
import GrammarCheck.Proofs.FileName
import GrammarCheck.Proofs.Selection

/-!
# Library files given by directory and by value

The library files of a directory can be given all at once, or one by one as values: the texts of
their paths. A value is cut at its first equals sign, before anything is known of its path. The name
of a library file holds no equals sign, but the path of its directory may.

* `NamedLibrary.parse_eq_ok_iff` — the library file that a value gives.
* `NamedLibrary.parse_eq_ok_iff_notMem` — a path is read as a path exactly if it has no equals sign.
* `exists_value_of_mem_discover` — what a directory offers has a value, with an equals sign only if
  the directory has one.
* `discover_read_back` — a directory without an equals sign can be given by the values of what it
  offers.
-/

namespace GrammarCheck

/-! ### Values -/

theorem Path.ofText_inj {s t : String} : ofText s = ofText t ↔ s = t := by
  refine ⟨fun h => ?_, fun h => h ▸ rfl⟩
  exact Option.some.inj ((text?_eq_some_iff.mpr rfl).symm.trans (text?_eq_some_iff.mpr h))

namespace NamedLibrary

variable {value : String} {l : NamedLibrary}

theorem ofPath?_eq_some_iff {p : Path} :
    ofPath? p = some l ↔ grammarName? p = some l.name ∧ p = l.path := by
  obtain ⟨name, path⟩ := l
  simp [ofPath?]

/-- **Reading a value.** A value gives the library file of an assignment, in which neither side is
empty, or else of the path that it is. -/
theorem parse_eq_ok_iff :
    parse value = .ok l ↔
      (∃ name path : String, value.toList = name.toList ++ '=' :: path.toList ∧
        '=' ∉ name.toList ∧ name ≠ "" ∧ path ≠ "" ∧ l = ⟨Text.lower name, .ofText path⟩) ∨
      '=' ∉ value.toList ∧ ofPath? (.ofText value) = some l := by
  unfold parse
  cases hcut : Text.cut? '=' value with
  | none =>
    have hnot := Text.cut?_eq_none_iff.mp hcut
    constructor
    · intro h
      refine Or.inr ⟨hnot, ?_⟩
      cases hpath : ofPath? (.ofText value) with
      | none => simp [hpath] at h
      | some l' => simpa [hpath] using h
    · rintro (⟨name, path, hvalue, -⟩ | ⟨-, hpath⟩)
      · exact absurd (hvalue ▸ List.mem_append_right _ (List.mem_cons_self ..)) hnot
      · rw [hpath]
  | some sides =>
    obtain ⟨name, path⟩ := sides
    obtain ⟨hvalue, hname⟩ := Text.cut?_eq_some_iff.mp hcut
    have hmem : '=' ∈ value.toList :=
      hvalue ▸ List.mem_append_right _ (List.mem_cons_self ..)
    constructor
    · intro h
      refine Or.inl ⟨name, path, hvalue, hname, ?_⟩
      by_cases hempty : name = "" ∨ path = ""
      · simp [hempty] at h
      · simp only [hempty, if_false] at h
        exact ⟨fun h => hempty (Or.inl h), fun h => hempty (Or.inr h), (Except.ok.inj h).symm⟩
    · rintro (⟨name', path', hvalue', hname', hnonempty, hnonempty', rfl⟩ | ⟨hnot, -⟩)
      -- there is one cut only
      · have hcut' := hcut.symm.trans (Text.cut?_eq_some_iff.mpr ⟨hvalue', hname'⟩)
        obtain ⟨rfl, rfl⟩ := Prod.mk.inj (Option.some.inj hcut')
        exact if_neg (not_or.mpr ⟨hnonempty, hnonempty'⟩)
      · exact absurd hmem hnot

/-- **Reading a path.** The value that spells the path of a library file is read as that library
file exactly if it holds no equals sign. -/
theorem parse_eq_ok_iff_notMem (h : ofPath? (.ofText value) = some l) :
    parse value = .ok l ↔ '=' ∉ value.toList := by
  rw [parse_eq_ok_iff]
  constructor
  · rintro (⟨name, path, hvalue, -, -, -, rfl⟩ | ⟨hnot, -⟩)
    -- what follows an equals sign in a value is shorter than the value
    · have hpath : value = path := Path.ofText_inj.mp (ofPath?_eq_some_iff.mp h).2
      have hlength := congrArg List.length hvalue
      rw [hpath, List.length_append, List.length_cons] at hlength
      omega
    · exact hnot
  · exact fun hnot => Or.inr ⟨hnot, h⟩

end NamedLibrary

/-! ### Values of what a directory offers -/

/-- What a directory offers is among its library files. -/
theorem exists_file_of_mem_discover {fs : FileSystem} {dir : Path} {l : NamedLibrary}
    (h : l ∈ discover fs dir) :
    ∃ loc name, fs.directory? dir = some loc ∧ fs.isRegularFile (name :: loc) = true ∧
      NamedLibrary.ofPath? (dir.join name) = some l := by
  unfold discover at h
  split at h
  · exact absurd h List.not_mem_nil
  · next loc hdirectory =>
    obtain ⟨name, hfile, hpath⟩ :=
      mem_libraryFilesIn_iff.mp (NamedLibrary.mem_offered_iff.mp h).1
    exact ⟨loc, name, hdirectory, hfile, hpath⟩

/-- The path of what a directory offers gives its name. -/
theorem grammarName?_of_mem_discover {fs : FileSystem} {dir : Path} {l : NamedLibrary}
    (h : l ∈ discover fs dir) : grammarName? l.path = some l.name := by
  obtain ⟨loc, name, -, -, hpath⟩ := exists_file_of_mem_discover h
  obtain ⟨hname, hjoin⟩ := NamedLibrary.ofPath?_eq_some_iff.mp hpath
  exact hjoin ▸ hname

theorem isDirectory_of_discover {fs : FileSystem} {dir : Path} (h : discover fs dir ≠ []) :
    fs.isDirectory dir = true := by
  obtain ⟨l, hl⟩ := List.exists_mem_of_ne_nil _ h
  obtain ⟨loc, -, hdirectory, -⟩ := exists_file_of_mem_discover hl
  rw [FileSystem.isDirectory, hdirectory]
  rfl

theorem Path.join_encode (dir text : String) :
    ∃ between ∈ ["", "/"],
      (Path.ofText dir).join (Text.Utf8.encode text) = .ofText (dir ++ between ++ text) := by
  have hslash : Text.Utf8.encode "/" = [slash] := by decide
  unfold join
  split
  · refine ⟨"", List.mem_cons_self .., ?_⟩
    rw [ofText, ofText, Text.Utf8.encode_append, String.append_empty]
  · refine ⟨"/", List.mem_cons_of_mem _ (List.mem_cons_self ..), ?_⟩
    rw [ofText, ofText, Text.Utf8.encode_append, Text.Utf8.encode_append, hslash,
      List.append_assoc, List.singleton_append]

/-- **What a directory offers has a value.** The value holds an equals sign only if the directory
does, since the names of library files hold none. -/
theorem exists_value_of_mem_discover {fs : FileSystem} (hfs : fs.Spelled) {dir : String}
    {l : NamedLibrary} (h : l ∈ discover fs (.ofText dir)) :
    ∃ value, l.path = .ofText value ∧ NamedLibrary.ofPath? (.ofText value) = some l ∧
      ('=' ∈ value.toList ↔ '=' ∈ dir.toList) := by
  obtain ⟨loc, name, -, hfile, hpath⟩ := exists_file_of_mem_discover h
  obtain ⟨hname, hjoin⟩ := NamedLibrary.ofPath?_eq_some_iff.mp hpath
  obtain ⟨content, image, hentry⟩ := FileSystem.isRegularFile_iff.mp hfile
  have hspelled : (Path.Step.down name).Spelled :=
    hfs.of_entry? hentry name (List.mem_cons_self ..)
  obtain ⟨text, rfl, hchars⟩ := exists_text_of_grammarName? (Path.fileName?_join _ hspelled) hname
  obtain ⟨between, hbetween, hvalue⟩ := Path.join_encode dir text
  refine ⟨dir ++ between ++ text, hjoin.symm.trans hvalue, hvalue ▸ hpath, ?_⟩
  have hnotBetween : '=' ∉ between.toList := by
    have hnone : ∀ s ∈ ["", "/"], '=' ∉ s.toList := by decide
    exact hnone between hbetween
  have hnotText : '=' ∉ text.toList := fun hmem =>
    absurd (hchars _ hmem) (by decide)
  simp [hnotBetween, hnotText]

/-! ### Plans -/

/-- The values of what a directory offers, in order: the texts of the paths. -/
def discoveredValues (fs : FileSystem) (dir : Path) : List String :=
  (discover fs dir).filterMap (·.path.text?)

/-- The steps of the values are those of the library files that they are the values of. -/
theorem map_libraryStep_discoveredValues {fs : FileSystem} (hfs : fs.Spelled) {dir : String}
    (hdir : '=' ∉ dir.toList) :
    (discoveredValues fs (.ofText dir)).map libraryStep =
      (discover fs (.ofText dir)).map fun l => .ok (.library l) := by
  rw [discoveredValues, List.map_filterMap, ← List.filterMap_eq_map]
  refine List.filterMap_congr fun l hl => ?_
  obtain ⟨value, hvalue, hpath, hequals⟩ := exists_value_of_mem_discover hfs hl
  have hparse : NamedLibrary.parse value = .ok l :=
    (NamedLibrary.parse_eq_ok_iff_notMem hpath).mpr (mt hequals.mp hdir)
  rw [Path.text?_eq_some_iff.mpr hvalue, Option.map_some, libraryStep, hparse]
  rfl

/-- The request with the values of what a directory offers in place of the directory. -/
def Request.withValuesOf (fs : FileSystem) (r : Request) (dir : Path) : Request :=
  { r with libraryDir? := none, libraries := r.libraries ++ discoveredValues fs dir }

/-- A directory that offers something and its values select by name what the request does: neither
request is without a selection. -/
theorem Request.names_withValuesOf {fs : FileSystem} {r : Request} {dir : Path}
    (hr : r.libraryDir? = some dir) (hvalues : discoveredValues fs dir ≠ []) :
    (r.withValuesOf fs dir).names = r.names := by
  have hdirectory : r.isExplicit = true := by simp [isExplicit, hr]
  have hlibraries : (r.withValuesOf fs dir).isExplicit = true := by
    simp [isExplicit, withValuesOf, hvalues]
  simp only [names, hdirectory, hlibraries, Bool.not_true, Bool.false_and, Bool.false_eq_true,
    if_false]
  rfl

/-- **Giving a directory by values.** The steps that the directory adds are those of the values,
which come after the other values. -/
theorem Request.planSteps_withValuesOf [Build] {fs : FileSystem} (hfs : fs.Spelled) {r : Request}
    {dir : String} (hdir : '=' ∉ dir.toList) (hr : r.libraryDir? = some (.ofText dir))
    (hfound : discover fs (.ofText dir) ≠ []) :
    (r.withValuesOf fs (.ofText dir)).planSteps fs = r.planSteps fs := by
  have hvalues := map_libraryStep_discoveredValues hfs hdir
  have hnonempty : discoveredValues fs (.ofText dir) ≠ [] := by
    intro hnone
    rw [hnone, List.map_nil] at hvalues
    exact hfound (List.map_eq_nil_iff.mp hvalues.symm)
  have hnamed : (r.withValuesOf fs (.ofText dir)).namedPlanning.steps = r.namedPlanning.steps :=
    steps_namedPlanning_congr rfl rfl (congrArg _ (names_withValuesOf hr hnonempty))
  have hdirectory : r.directorySteps fs =
      (discover fs (.ofText dir)).map fun l => .ok (.library l) := by
    simp only [directorySteps, hr, isDirectory_of_discover hfound, if_true]
  have hlibraries : (r.withValuesOf fs (.ofText dir)).librarySteps =
      r.librarySteps ++ r.directorySteps fs := by
    rw [hdirectory, ← hvalues]
    exact List.map_append
  have hnone : (r.withValuesOf fs (.ofText dir)).directorySteps fs = [] := rfl
  rw [planSteps, planSteps, hnamed, hlibraries, hnone, List.append_nil, List.append_assoc]

/-- **Directories and values.** What a directory offers is read back from the texts of the paths
exactly if the path of the directory holds no equals sign. If so, a request with that directory has
the plan of the request that is given these texts instead, after its own values. -/
theorem discover_read_back [Build] (fs : FileSystem) (hfs : fs.Spelled) (dir : String) :
    (∀ l ∈ discover fs (.ofText dir), ∃ value, l.path.text? = some value ∧
      (NamedLibrary.parse value = .ok l ↔ '=' ∉ dir.toList)) ∧
    ('=' ∉ dir.toList → ∀ r : Request, r.libraryDir? = some (.ofText dir) →
      discover fs (.ofText dir) ≠ [] → plan fs r = plan fs (r.withValuesOf fs (.ofText dir))) := by
  refine ⟨fun l hl => ?_, fun hdir r hr hfound => ?_⟩
  · obtain ⟨value, hvalue, hpath, hequals⟩ := exists_value_of_mem_discover hfs hl
    refine ⟨value, Path.text?_eq_some_iff.mpr hvalue, ?_⟩
    rw [NamedLibrary.parse_eq_ok_iff_notMem hpath, hequals]
  · rw [plan, plan, targets, targets, Request.planSteps_withValuesOf hfs hdir hr hfound]

attribute [local instance] Build.withoutCairo

/-- Two library files in a directory, and one in a directory that is named like an assignment. -/
private def offeringFiles : FileSystem :=
  [(Path.ofText "grammars/zig.so", .file [1] (.rejected "file too short")),
   (Path.ofText "grammars/libtree-sitter-C.SO", .file [2] (.rejected "file too short")),
   (Path.ofText "a=b/cairo.so", .file [3] (.rejected "file too short"))].foldl
    (fun fs e => fs.create e.1 e.2) (.empty (.ofText "/"))

private theorem spelled_offeringFiles : offeringFiles.Spelled :=
  FileSystem.spelled_foldl_create _ _

/-- The two library files of the first directory can be given by their paths. -/
theorem discover_read_back_grammars :
    NamedLibrary.parse "grammars/libtree-sitter-C.SO" =
        .ok ⟨"c", .ofText "grammars/libtree-sitter-C.SO"⟩ ∧
      plan offeringFiles { libraryDir? := some (.ofText "grammars") } =
        plan offeringFiles
          { libraries := ["grammars/libtree-sitter-C.SO", "grammars/zig.so"] } := by
  have hfound : discover offeringFiles (.ofText "grammars") =
      [⟨"c", .ofText "grammars/libtree-sitter-C.SO"⟩, ⟨"zig", .ofText "grammars/zig.so"⟩] := by
    have hdirectory : offeringFiles.directory? (.ofText "grammars") =
      some [(Path.ofText "grammars").bytes] := rfl
    rw [discover_of_pairwise_le hdirectory (by decide +kernel)]
    decide +kernel
  have hvalues : discoveredValues offeringFiles (.ofText "grammars") =
      ["grammars/libtree-sitter-C.SO", "grammars/zig.so"] := by
    rw [discoveredValues, hfound]
    decide +kernel
  have hback := discover_read_back offeringFiles spelled_offeringFiles "grammars"
  rw [hfound] at hback
  refine ⟨?_, ?_⟩
  · obtain ⟨value, hvalue, hparse⟩ := hback.1 _ (List.mem_cons_self ..)
    obtain rfl := Path.ofText_inj.mp (Path.text?_eq_some_iff.mp hvalue)
    exact hparse.mpr (by decide)
  · have hplan := hback.2 (by decide) { libraryDir? := some (.ofText "grammars") } rfl (by simp)
    rw [Request.withValuesOf, hvalues] at hplan
    exact hplan

/-- The library file of the other directory cannot: its path is read as an assignment to the name
`a`, and the file at what is left of the path is not there. -/
theorem discover_not_read_back :
    offeringFiles.Spelled ∧
      discover offeringFiles (.ofText "a=b") = [⟨"cairo", .ofText "a=b/cairo.so"⟩] ∧
      NamedLibrary.parse "a=b/cairo.so" = .ok ⟨"a", .ofText "b/cairo.so"⟩ ∧
      plan offeringFiles { libraryDir? := some (.ofText "a=b") } ≠
        plan offeringFiles { libraries := ["a=b/cairo.so"] } := by
  have hfound : discover offeringFiles (.ofText "a=b") = [⟨"cairo", .ofText "a=b/cairo.so"⟩] := by
    have hdirectory : offeringFiles.directory? (.ofText "a=b") =
      some [(Path.ofText "a=b").bytes] := rfl
    rw [discover_of_pairwise_le hdirectory (by decide +kernel)]
    decide +kernel
  refine ⟨spelled_offeringFiles, hfound, by decide, fun h => ?_⟩
  -- the two plans hold a case each, under different names
  have hdirectory : targets offeringFiles { libraryDir? := some (.ofText "a=b") } =
      .ok [.library ⟨"cairo", .ofText "a=b/cairo.so"⟩] := by
    rw [targets, Request.planSteps, Request.directorySteps]
    simp only [hfound]
    decide +kernel
  have hnames := congrArg (·.map (List.map PlannedItem.name)) h
  rw [plan, hdirectory] at hnames
  exact absurd hnames (by decide +kernel)

end GrammarCheck
