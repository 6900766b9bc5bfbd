import GrammarCheck.Proofs.Coherence

/-!
# Libraries that fail

A library file gives a loaded grammar after seven steps, and each of them may fail: its path is
resolved, the file is read and mapped, the entry point is looked up and called, and the version and
the node kinds of the language are looked at. The first four belong to the planning, the others to
the run of the case. All of these failures read the same in a report.

* `OpenFails`, `LibraryGrammar.ofFile_eq_error_iff` — the steps at which a library file fails to
  open, with the error of each.
* `LibraryFails`, `loads_or_libraryFails` — these steps and those of loading (`LoadFails`), for a
  library file. It fails or it gives a loaded grammar.
* `case_of_libraryFails` — the case of a library file that fails, whatever the cause.
-/

namespace GrammarCheck

theorem bind_eq_error_iff {ε α β : Type} {x : Except ε α} {f : α → Except ε β} {e : ε} :
    (x >>= f) = .error e ↔ x = .error e ∨ ∃ a, x = .ok a ∧ f a = .error e := by
  cases x <;> simp [bind, Except.bind]

/-! ### Opening -/

/-- **Where opening fails.** `OpenFails fs p name e` says which step of opening the library file at
`p` under the grammar's name fails with `e`. The steps before it succeed, and from the second on
they work with the canonical path. -/
inductive OpenFails (fs : FileSystem) (p : Path) (name : String) : LibraryError → Prop
  | unresolved {e} (resolved : fs.canonicalize p = .error e) : OpenFails fs p name (.unreadable p e)
  | unread {canonical e} (resolved : fs.canonicalize p = .ok canonical)
      (read : fs.read canonical = .error e) : OpenFails fs p name (.unreadable canonical e)
  | unmapped {canonical content reason} (resolved : fs.canonicalize p = .ok canonical)
      (read : fs.read canonical = .ok content)
      (mapped : fs.image? canonical = some (.rejected reason)) :
      OpenFails fs p name (.unusable canonical (canonical.display ++ ": " ++ reason))
  | unexported {canonical content entries} (resolved : fs.canonicalize p = .ok canonical)
      (read : fs.read canonical = .ok content)
      (mapped : fs.image? canonical = some (.exporting entries))
      (exported : findExport? entries (symbolName name) = none) :
      OpenFails fs p name (.missingSymbol canonical (symbolName name))

section Steps

variable {fs : FileSystem} {p : Path} {e : LibraryError}

theorem resolveLibrary_eq_error_iff :
    resolveLibrary fs p = .error e ↔
      ∃ cause, fs.canonicalize p = .error cause ∧ e = .unreadable p cause :=
  mapError_eq_error_iff

theorem fingerprintFile_eq_error_iff :
    fingerprintFile fs p = .error e ↔
      ∃ cause, fs.read p = .error cause ∧ e = .unreadable p cause := by
  unfold fingerprintFile
  cases fs.read p <;> simp [eq_comm]

/-- What can be read can be mapped or is rejected, so there is an image. -/
theorem exportsOf_eq_error_iff {content : List UInt8} (hread : fs.read p = .ok content) :
    exportsOf fs p = .error e ↔
      ∃ reason, fs.image? p = some (.rejected reason) ∧
        e = .unusable p (p.display ++ ": " ++ reason) := by
  obtain ⟨loc, image, haccess, hentry⟩ := FileSystem.read_eq_ok_iff.mp hread
  have himage : fs.image? p = some image :=
    FileSystem.image?_eq_some_iff.mpr ⟨loc, content, haccess, hentry⟩
  rw [exportsOf, himage]
  cases image <;> simp [eq_comm]

theorem entryPointOf_eq_error_iff {entries : List (String × EntryPoint)} {symbol : String} :
    entryPointOf p entries symbol = .error e ↔
      findExport? entries symbol = none ∧ e = .missingSymbol p symbol := by
  unfold entryPointOf
  cases findExport? entries symbol <;> simp [eq_comm]

/-- A library file fails to open at one of the four steps. -/
theorem LibraryGrammar.ofFile_eq_error_iff {name : String} :
    LibraryGrammar.ofFile fs p name = .error e ↔ OpenFails fs p name e := by
  simp only [LibraryGrammar.ofFile, bind_eq_error_iff, resolveLibrary_eq_error_iff,
    resolveLibrary_eq_ok_iff, fingerprintFile_eq_error_iff, fingerprintFile_eq_ok_iff]
  constructor
  · rintro (⟨cause, hresolve, rfl⟩ | ⟨canonical, hresolve, ⟨cause, hread, rfl⟩ |
      ⟨_, ⟨content, hread, rfl⟩, hrest⟩⟩)
    · exact .unresolved hresolve
    · exact .unread hresolve hread
    -- the file has been read, and what is left works with its image
    · rw [exportsOf_eq_error_iff hread] at hrest
      rcases hrest with ⟨reason, himage, rfl⟩ | ⟨entries, hexports, hentry⟩
      · exact .unmapped hresolve hread himage
      · rw [exportsOf_eq_ok_iff] at hexports
        rcases hentry with hentry | ⟨entry, -, hnone⟩
        · obtain ⟨hexport, rfl⟩ := entryPointOf_eq_error_iff.mp hentry
          exact .unexported hresolve hread hexports hexport
        · exact absurd hnone (by simp [pure, Except.pure])
  · intro h
    cases h with
    | @unresolved cause resolved => exact Or.inl ⟨cause, resolved, rfl⟩
    | @unread canonical cause resolved read =>
      exact Or.inr ⟨canonical, resolved, Or.inl ⟨cause, read, rfl⟩⟩
    | @unmapped canonical content reason resolved read mapped =>
      refine Or.inr ⟨canonical, resolved, Or.inr ⟨_, ⟨content, read, rfl⟩, Or.inl ?_⟩⟩
      exact (exportsOf_eq_error_iff read).mpr ⟨reason, mapped, rfl⟩
    | @unexported canonical content entries resolved read mapped exported =>
      refine Or.inr ⟨canonical, resolved, Or.inr ⟨_, ⟨content, read, rfl⟩, Or.inr ?_⟩⟩
      exact ⟨entries, exportsOf_eq_ok_iff.mpr mapped,
        Or.inl (entryPointOf_eq_error_iff.mpr ⟨exported, rfl⟩)⟩

end Steps

/-! ### Library files -/

/-- **Where a library file fails.** `LibraryFails fs range l cause` says that the library file does
not open, or that its handle does not load. -/
inductive LibraryFails (fs : FileSystem) (range : AbiRange) (l : NamedLibrary) :
    LoadFailure → Prop
  | opening {e} (fails : OpenFails fs l.path l.name e) : LibraryFails fs range l (.library e)
  | loading {g cause} (opens : LibraryGrammar.ofFile fs l.path l.name = .ok g)
      (fails : LoadFails range g.handle cause) : LibraryFails fs range l cause

/-- A library file that does not fail gives a loaded grammar. -/
theorem loads_or_libraryFails (fs : FileSystem) (range : AbiRange) (l : NamedLibrary) :
    (∃ g loaded, LibraryGrammar.ofFile fs l.path l.name = .ok g ∧
      load range g.handle = .ok loaded) ∨ ∃ cause, LibraryFails fs range l cause := by
  cases hopen : LibraryGrammar.ofFile fs l.path l.name with
  | error e => exact Or.inr ⟨_, .opening (LibraryGrammar.ofFile_eq_error_iff.mp hopen)⟩
  | ok g =>
    cases hload : load range g.handle with
    | ok loaded => exact Or.inl ⟨g, loaded, rfl, hload⟩
    | error e => exact Or.inr ⟨_, .loading hopen (load_eq_error_iff.mp hload).2⟩

/-! ### Cases -/

/-- **One shape.** Whether it fails in the planning or in the run, the case of a library file that
fails is that of its cause under its display name. -/
theorem ofError_of_libraryFails {fs : FileSystem} {range : AbiRange} {l : NamedLibrary}
    {cause : LoadFailure} (runtime : Runtime) (options : CaseOptions)
    (h : LibraryFails fs range l cause) :
    { (openLibrary fs l).case runtime range options with artifact? := none } =
      Case.ofError l.name ⟨displayName l.name, cause⟩ := by
  cases h with
  | opening fails =>
    -- the planning builds the case itself
    rw [openLibrary, LibraryGrammar.ofFile_eq_error_iff.mpr fails]
    rfl
  | @loading g cause opens fails =>
    -- the display name was kept when the file was opened, and the handle carries it
    obtain ⟨_, _, _, _, _, _, _, _, hname, hdisplay⟩ := LibraryGrammar.ofFile_eq_ok_iff.mp opens
    have hload : range.loader.load (Provider.library g).handle =
        .error ⟨displayName l.name, cause⟩ := load_eq_error_iff.mpr ⟨hdisplay.symm, fails⟩
    rw [openLibrary, opens]
    simp only [PlannedItem.case, Case.run_of_load_error hload]
    rw [← hname]
    rfl

/-- **Failing to load.** A library file either gives a loaded grammar or fails for a cause. If it
fails, at whatever step, the case has its name and has failed with the message of its display name
and the text of the cause; nothing was measured. Apart from the artifact it is the case of the load
error itself. A grammar from anywhere that does not load is told in the same way as its error. -/
theorem case_of_libraryFails (fs : FileSystem) (range : AbiRange) (l : NamedLibrary)
    (runtime : Runtime) (options : CaseOptions) :
    ((∃ g loaded, LibraryGrammar.ofFile fs l.path l.name = .ok g ∧
      load range g.handle = .ok loaded) ∨ ∃ cause, LibraryFails fs range l cause) ∧
    (∀ cause, LibraryFails fs range l cause →
      let c := (openLibrary fs l).case runtime range options
      c.name = l.name ∧ c.status = .failed ∧
        c.message? = some ("Error loading " ++ displayName l.name ++ " grammar") ∧
        c.detail? = some cause.message ∧
        c.abiVersion? = none ∧ c.nodeKindCount? = none ∧ c.sample? = none ∧
        { c with artifact? := none } = Case.ofError l.name ⟨displayName l.name, cause⟩) ∧
    (∀ (loader : Loader) (p : Provider) (e : LoadError) (name : String),
      loader.load p.handle = .error e →
      let c := Case.run runtime loader options p
      c.status = (Case.ofError name e).status ∧ c.message? = (Case.ofError name e).message? ∧
        c.detail? = (Case.ofError name e).detail?) := by
  refine ⟨loads_or_libraryFails fs range l, ?_, ?_⟩
  · intro cause h c
    have hshape : { c with artifact? := none } = Case.ofError l.name ⟨displayName l.name, cause⟩ :=
      ofError_of_libraryFails runtime options h
    -- every field but the artifact is read off the shape
    exact ⟨congrArg Case.name hshape, congrArg Case.status hshape, congrArg Case.message? hshape,
      congrArg Case.detail? hshape, congrArg Case.abiVersion? hshape,
      congrArg Case.nodeKindCount? hshape, congrArg Case.sample? hshape, hshape⟩
  · intro loader p e name hload c
    have hcase : c = { Case.ofError p.name e with artifact? := p.artifact? } :=
      Case.run_of_load_error hload
    rw [hcase]
    exact ⟨rfl, rfl, rfl⟩

attribute [local instance] Build.withoutCairo

/-- A library file whose entry point returns nothing. -/
private def hollowLibrary : FileSystem where
  entries :=
    [([(Path.ofText "zig.so").bytes], .file [0] (.exporting [("tree_sitter_zig", ⟨none⟩)]))]
  workingDirectory := .ofText "/"

/-- The file opens and fails to load; without the file it fails to open. Both are told alike, and so
is Cairo, which is bundled without a parser. -/
theorem case_of_libraryFails_hollow :
    let caseAt (path : String) : Case :=
      (openLibrary hollowLibrary ⟨"zig", .ofText path⟩).case ⟨fun _ _ => none⟩ AbiRange.supported {}
    LibraryFails hollowLibrary .supported ⟨"zig", .ofText "zig.so"⟩ .nullHandle ∧
      (caseAt "zig.so").message? = some "Error loading Zig grammar" ∧
      (caseAt "zig.so").detail? = some "language handle is null" ∧
      (caseAt "rust.so").message? = some "Error loading Zig grammar" ∧
      (caseAt "rust.so").detail? =
        some "cannot read grammar library 'rust.so': No such file or directory (os error 2)" ∧
      (Case.run ⟨fun _ _ => none⟩ AbiRange.supported {} (.bundled cairo)).message? =
        some "Error loading Cairo grammar" := by
  have hopens : LibraryGrammar.ofFile hollowLibrary (.ofText "zig.so") "zig" =
      .ok ⟨"zig", "Zig", .ofText "/zig.so", Digest.fingerprint [0], ⟨none⟩⟩ :=
    LibraryGrammar.ofFile_eq_ok_iff.mpr ⟨_, [0], _, rfl, rfl, rfl, rfl, by decide, rfl, by decide⟩
  have hload : LibraryFails hollowLibrary .supported ⟨"zig", .ofText "zig.so"⟩ .nullHandle :=
    .loading hopens (.absent rfl)
  have hopen : LibraryFails hollowLibrary .supported ⟨"zig", .ofText "rust.so"⟩
      (.library (.unreadable (.ofText "rust.so") .notFound)) :=
    .opening (.unresolved rfl)
  have hmessage : "Error loading " ++ displayName "zig" ++ " grammar" =
      "Error loading Zig grammar" := by
    decide
  have hcairo : load .supported (Provider.bundled cairo).handle = .error ⟨"Cairo", .nullHandle⟩ :=
    rfl
  have hfails := (case_of_libraryFails hollowLibrary .supported ⟨"zig", .ofText "zig.so"⟩
    ⟨fun _ _ => none⟩ {}).2.1 _ hload
  have hfails' := (case_of_libraryFails hollowLibrary .supported ⟨"zig", .ofText "rust.so"⟩
    ⟨fun _ _ => none⟩ {}).2.1 _ hopen
  have hrun := (case_of_libraryFails hollowLibrary .supported ⟨"zig", .ofText "zig.so"⟩
    ⟨fun _ _ => none⟩ {}).2.2 AbiRange.supported (.bundled cairo) _ "cairo" hcairo
  exact ⟨hload, hfails.2.2.1.trans (congrArg some hmessage), hfails.2.2.2.1,
    hfails'.2.2.1.trans (congrArg some hmessage), hfails'.2.2.2.1.trans (by decide), hrun.2.1⟩

end GrammarCheck
