import GrammarCheck.Proofs.Coherence
import GrammarCheck.Proofs.Discovery
import Mathlib.Data.Set.Defs

/-!
# Library files are isolated from one another

Two states of the file system are `SameShape changed` when they differ at most in what the regular
files at the locations of `changed` hold. No walk looks into a file, so everything that is found by
walking is the same in both.

* `SameShape.walk_eq` — every walk leads to the same place, or fails for the same reason. Resolving,
  canonical paths, directories and discovery follow.
* `SameShape.openLibrary_eq` — a library file outside of `changed` opens alike.
* `check_isolates` — a check of the two states fails alike or gives reports with the same cases,
  except for those of the library files that are changed.
-/

namespace GrammarCheck

/-- Two states differ at most in the content and the image of regular files, at the locations of
`changed`. -/
structure SameShape (changed : Set Location) (fs fs' : FileSystem) : Prop where
  workingDirectory : fs.workingDirectory = fs'.workingDirectory
  entry : ∀ loc, fs.entry? loc = fs'.entry? loc ∨
    (loc ∈ changed ∧ fs.isRegularFile loc = true ∧ fs'.isRegularFile loc = true)

namespace SameShape

variable {changed : Set Location} {fs fs' : FileSystem}

/-- At each location the two states hold the same entry, or a regular file each. -/
theorem entry_cases (h : SameShape changed fs fs') (loc : Location) :
    fs.entry? loc = fs'.entry? loc ∨
      ∃ content image content' image', fs.entry? loc = some (.file content image) ∧
        fs'.entry? loc = some (.file content' image') := by
  rcases h.entry loc with heq | ⟨-, hregular, hregular'⟩
  · exact Or.inl heq
  · obtain ⟨content, image, hentry⟩ := FileSystem.isRegularFile_iff.mp hregular
    obtain ⟨content', image', hentry'⟩ := FileSystem.isRegularFile_iff.mp hregular'
    exact Or.inr ⟨content, image, content', image', hentry, hentry'⟩

theorem entry_eq (h : SameShape changed fs fs') {loc : Location} (hloc : loc ∉ changed) :
    fs.entry? loc = fs'.entry? loc :=
  (h.entry loc).resolve_right fun hchanged => hloc hchanged.1

/-! ### Walks -/

/-- A walk up to the first link does not look into files. -/
private theorem walkUntilLink_eq (h : SameShape changed fs fs')
    (room : Location → List Path.Step → Bool)
    (follow : Location → Path → List Path.Step → Except IoError Location) (here : Location)
    (steps : List Path.Step) :
    fs.walkUntilLink room follow here steps = fs'.walkUntilLink room follow here steps := by
  induction steps generalizing here with
  | nil => rfl
  | cons step rest ih =>
    unfold FileSystem.walkUntilLink
    split
    · rfl
    · rcases h.entry_cases here with heq | ⟨_, _, _, _, hfile, hfile'⟩
      · rw [heq]
        split
        · cases step with
          | stay => exact ih here
          | up => exact ih here.tail
          | down name =>
            simp only
            split
            · rfl
            · split
              · rfl
              · rcases h.entry_cases (name :: here) with heq | ⟨_, _, _, _, hfile, hfile'⟩
                · rw [heq]
                  split
                  · rfl
                  · rfl
                  · exact ih (name :: here)
                -- a file may be stepped into, though nothing can follow
                · rw [hfile, hfile']
                  exact ih (name :: here)
        · rfl
        · rfl
      · -- a file is no place to stand in, whatever it holds
        rw [hfile, hfile']

/-- **Walks do not look into files.** -/
theorem walk_eq (h : SameShape changed fs fs') (room : Location → List Path.Step → Bool)
    (links : Nat) (here : Location) (steps : List Path.Step) :
    fs.walk room links here steps = fs'.walk room links here steps := by
  induction links generalizing here steps with
  | zero =>
    rw [FileSystem.walk, FileSystem.walk]
    exact h.walkUntilLink_eq room _ here steps
  | succ links ih =>
    -- what follows a link is a walk that may step into one link less
    rw [FileSystem.walk, FileSystem.walk]
    simp only [ih]
    exact h.walkUntilLink_eq room _ here steps

theorem locationOf_eq (h : SameShape changed fs fs') (room : Location → List Path.Step → Bool)
    (p : Path) : fs.locationOf room p = fs'.locationOf room p := by
  unfold FileSystem.locationOf FileSystem.stepsFromRoot
  rw [h.workingDirectory, h.walk_eq]

theorem resolve_eq (h : SameShape changed fs fs') (p : Path) : fs.resolve p = fs'.resolve p :=
  h.locationOf_eq _ p

theorem canonicalize_eq (h : SameShape changed fs fs') (p : Path) :
    fs.canonicalize p = fs'.canonicalize p := by
  rw [FileSystem.canonicalize, h.locationOf_eq, ← FileSystem.canonicalize]

theorem access_eq (h : SameShape changed fs fs') (p : Path) : fs.access p = fs'.access p := by
  unfold FileSystem.access
  rw [h.resolve_eq]

/-! ### Directories -/

theorem isRegularFile_eq (h : SameShape changed fs fs') (loc : Location) :
    fs.isRegularFile loc = fs'.isRegularFile loc := by
  unfold FileSystem.isRegularFile
  rcases h.entry_cases loc with heq | ⟨_, _, _, _, hfile, hfile'⟩
  · rw [heq]
  · rw [hfile, hfile']

theorem directory?_eq (h : SameShape changed fs fs') (p : Path) :
    fs.directory? p = fs'.directory? p := by
  unfold FileSystem.directory?
  rw [h.access_eq]
  split
  · next loc _ =>
    rcases h.entry_cases loc with heq | ⟨_, _, _, _, hfile, hfile'⟩
    · rw [heq]
    · -- a regular file is no directory in either state
      rw [hfile, hfile']
      simp
  · rfl

theorem discover_eq (h : SameShape changed fs fs') (dir : Path) :
    discover fs dir = discover fs' dir :=
  discover_congr (h.directory?_eq dir) h.isRegularFile_eq

/-- What a request asks for depends on the command line and on the names in a directory only. -/
theorem targets_eq [Build] (h : SameShape changed fs fs') (r : Request) :
    targets fs r = targets fs' r := by
  unfold targets Request.planSteps Request.directorySteps FileSystem.isDirectory
  simp only [h.directory?_eq, h.discover_eq]

/-! ### Files -/

theorem read_eq (h : SameShape changed fs fs') {p : Path}
    (hp : ∀ loc, fs.access p = .ok loc → loc ∉ changed) : fs.read p = fs'.read p := by
  unfold FileSystem.read
  rw [← h.access_eq]
  cases haccess : fs.access p with
  | error e => rfl
  | ok loc =>
    simp only [bind, Except.bind]
    rw [h.entry_eq (hp loc haccess)]

theorem image?_eq (h : SameShape changed fs fs') {p : Path}
    (hp : ∀ loc, fs.access p = .ok loc → loc ∉ changed) : fs.image? p = fs'.image? p := by
  unfold FileSystem.image?
  rw [← h.access_eq]
  split
  · next loc haccess => rw [h.entry_eq (hp loc haccess)]
  · rfl

/-! ### Library files -/

/-- A library file that does not resolve into `changed` opens alike, or fails to open alike. -/
theorem openLibrary_eq (h : SameShape changed fs fs') {l : NamedLibrary}
    (hl : ∀ loc, fs.resolve l.path = .ok loc → loc ∉ changed) :
    openLibrary fs l = openLibrary fs' l := by
  -- reading the given path matters only if the library file does not open
  have hgiven : fs.read l.path = fs'.read l.path :=
    h.read_eq fun loc haccess => hl loc (FileSystem.resolve_of_access haccess)
  have hopen :
      LibraryGrammar.ofFile fs l.path l.name = LibraryGrammar.ofFile fs' l.path l.name := by
    have hcanonical : resolveLibrary fs l.path = resolveLibrary fs' l.path := by
      unfold resolveLibrary
      rw [h.canonicalize_eq]
    unfold LibraryGrammar.ofFile
    rw [← hcanonical]
    cases hfound : resolveLibrary fs l.path with
    | error e => rfl
    | ok canonical =>
      -- the canonical path is read through at the location that the given path resolves to
      obtain ⟨loc, hresolve, -, haccess⟩ :=
        FileSystem.exists_location_of_canonicalize (resolveLibrary_eq_ok_iff.mp hfound)
      have hplace : ∀ loc, fs.access canonical = .ok loc → loc ∉ changed := by
        intro loc' haccess'
        obtain rfl := Except.ok.inj (haccess.symm.trans haccess')
        exact hl loc hresolve
      have hfingerprint : fingerprintFile fs canonical = fingerprintFile fs' canonical := by
        unfold fingerprintFile
        rw [h.read_eq hplace]
      have hexports : exportsOf fs canonical = exportsOf fs' canonical := by
        unfold exportsOf
        rw [h.image?_eq hplace]
      simp only [bind, Except.bind]
      rw [hfingerprint, hexports]
  unfold openLibrary brokenCase fingerprintFile
  rw [hopen, hgiven]

/-- The sample is read alike if its file is not changed. -/
theorem readOptions_eq (h : SameShape changed fs fs') {r : Request}
    (hsample : ∀ p loc, r.sample? = some p → fs.resolve p = .ok loc → loc ∉ changed) :
    readOptions fs r = readOptions fs' r := by
  unfold readOptions FileSystem.readText
  cases hp : r.sample? with
  | none => rfl
  | some p =>
    simp only
    rw [h.read_eq fun loc haccess => hsample p loc hp (FileSystem.resolve_of_access haccess)]

end SameShape

/-! ### Names of cases -/

@[simp] theorem PlannedItem.name_case (runtime : Runtime) (loader : Loader) (options : CaseOptions)
    (item : PlannedItem) : (item.case runtime loader options).name = item.name := by
  cases item with
  | grammar p => exact Case.name_run runtime loader options p
  | broken c => rfl

/-- An item has the name of its target, whether a library file opens or not. -/
theorem Target.name_item (fs : FileSystem) (t : Target) : (t.item fs).name = t.name := by
  cases t with
  | bundled g => rfl
  | library l => exact name_openLibrary fs l

/-! ### Runtimes -/

/-- Runtimes that parse the sample alike under the language of a grammar give it the same case. -/
theorem Case.run_congr {runtime runtime' : Runtime} {range : AbiRange} {options : CaseOptions}
    {p : Provider}
    (hparse : ∀ language text, p.handle.language? = some language → options.sample? = some text →
      runtime.parse? language text = runtime'.parse? language text) :
    Case.run runtime range options p = Case.run runtime' range options p := by
  unfold Case.run
  simp only
  cases hload : range.loader.load p.handle with
  | error e => rfl
  | ok g =>
    cases hsample : options.sample? with
    | none => rfl
    | some text =>
      simp only [LoadedGrammar.parse?, hparse g.language text (language_of_load hload) hsample]

/-- The two runtimes parse the sample of a request alike under every grammar that is planned in both
states. -/
def ParseAlike [Build] (host host' : Host) (r : Request) : Prop :=
  ∀ p text items items' g language, r.sample? = some p → host.files.readText p = .ok text →
    plan host.files r = .ok items → plan host'.files r = .ok items' →
    .grammar g ∈ items → .grammar g ∈ items' → g.handle.language? = some language →
    host.runtime.parse? language text = host'.runtime.parse? language text

/-- The target is a library file whose path resolves to one of the locations. -/
def Target.ReadsFrom (fs : FileSystem) (changed : Set Location) (t : Target) : Prop :=
  ∃ l loc, t = .library l ∧ fs.resolve l.path = .ok loc ∧ loc ∈ changed

theorem SameShape.item_eq {changed : Set Location} {fs fs' : FileSystem}
    (h : SameShape changed fs fs') {t : Target} (ht : ¬ t.ReadsFrom fs changed) :
    t.item fs = t.item fs' := by
  cases t with
  | bundled g => rfl
  | library l => exact h.openLibrary_eq fun loc hresolve hloc => ht ⟨l, loc, rfl, hresolve, hloc⟩

/-- The case of a target. -/
def Target.case (host : Host) (options : CaseOptions) (t : Target) : Case :=
  (t.item host.files).case host.runtime AbiRange.supported options

/-- A check whose sample can be read is decided by its targets: it has one case for each. -/
theorem check_eq_map_targets [Build] {host : Host} {r : Request} {options : CaseOptions}
    (hread : readOptions host.files r = .ok options) :
    check host r =
      (targets host.files r).map fun ts => .ofCases (ts.map (Target.case host options)) := by
  unfold check plan
  rw [hread]
  cases targets host.files r with
  | error e => rfl
  | ok ts =>
    simp only [bind, Except.bind, Except.map, pure, Except.pure, List.map_map]
    rfl

/-- The text of the sample is read from the file that the request names. -/
theorem readOptions_sample {fs : FileSystem} {r : Request} {options : CaseOptions} {text : String}
    (h : readOptions fs r = .ok options) (htext : options.sample? = some text) :
    ∃ p, r.sample? = some p ∧ fs.readText p = .ok text := by
  unfold readOptions at h
  split at h
  · obtain rfl := Except.ok.inj h
    exact absurd htext (by simp)
  · next p hp =>
    split at h
    · next text' hread =>
      obtain rfl := Except.ok.inj h
      obtain rfl := Option.some.inj htext
      exact ⟨p, hp, hread⟩
    · exact absurd h (by simp)

/-- A target that reads none of the changed files has the same case in both states. -/
theorem SameShape.case_eq [Build] {changed : Set Location} {host host' : Host} {r : Request}
    {options : CaseOptions} {ts : List Target} {t : Target}
    (h : SameShape changed host.files host'.files) (hparse : ParseAlike host host' r)
    (hread : readOptions host.files r = .ok options) (hts : targets host.files r = .ok ts)
    (ht : t ∈ ts) (hunchanged : ¬ t.ReadsFrom host.files changed) :
    t.case host options = t.case host' options := by
  have hplan : plan host.files r = .ok (ts.map (Target.item host.files)) := by
    rw [plan, hts]
    rfl
  have hplan' : plan host'.files r = .ok (ts.map (Target.item host'.files)) := by
    rw [plan, ← h.targets_eq, hts]
    rfl
  have hitem := h.item_eq hunchanged
  unfold Target.case
  rw [← hitem]
  cases hg : t.item host.files with
  | broken c => rfl
  | grammar g =>
    -- the same grammar is planned in both states, so the sample is parsed alike with it
    refine Case.run_congr fun language text hlanguage htext => ?_
    obtain ⟨p, hp, hptext⟩ := readOptions_sample hread htext
    refine hparse p text _ _ g language hp hptext hplan hplan' ?_ ?_ hlanguage
    · exact List.mem_map.mpr ⟨t, ht, hg⟩
    · exact List.mem_map.mpr ⟨t, ht, hitem ▸ hg⟩

/-- **Isolation of library files.** Let two states differ at most in the content and the image of
some regular files, the sample not among them. A request is refused alike in both, or it has one
case for each target in both. The two cases of a target have the same name, and they are equal
unless the target is a library file whose path resolves to one of the files that differ. -/
theorem check_isolates [Build] (changed : Set Location) (host host' : Host) (r : Request)
    (hshape : SameShape changed host.files host'.files)
    (hsample : ∀ p loc, r.sample? = some p → host.files.resolve p = .ok loc → loc ∉ changed)
    (hparse : ParseAlike host host' r) :
    (∃ e, check host r = .error e ∧ check host' r = .error e) ∨
    (∃ ts report report', targets host.files r = .ok ts ∧ targets host'.files r = .ok ts ∧
      check host r = .ok report ∧ check host' r = .ok report' ∧
      report.cases.length = ts.length ∧ report'.cases.length = ts.length ∧
      ∀ (i : Nat) t c c', ts[i]? = some t →
        report.cases[i]? = some c → report'.cases[i]? = some c' →
        c.name = t.name ∧ c'.name = t.name ∧
        (¬ t.ReadsFrom host.files changed → c = c')) := by
  have hoptions := hshape.readOptions_eq hsample
  have htargets := hshape.targets_eq r
  cases hread : readOptions host.files r with
  | error e =>
    -- the sample cannot be read, for the same reason in both states
    refine Or.inl ⟨e, ?_, ?_⟩
    · rw [check, hread]
      rfl
    · rw [check, ← hoptions, hread]
      rfl
  | ok options =>
    have hcheck := check_eq_map_targets hread
    have hcheck' := check_eq_map_targets (hoptions.symm.trans hread)
    cases hts : targets host.files r with
    | error e =>
      -- the planning refuses, at the same step in both states
      refine Or.inl ⟨e, ?_, ?_⟩
      · rw [hcheck, hts]
        rfl
      · rw [hcheck', ← htargets, hts]
        rfl
    | ok ts =>
      rw [hts] at hcheck
      rw [← htargets, hts] at hcheck'
      refine Or.inr ⟨ts, _, _, rfl, htargets.symm.trans hts, hcheck, hcheck', ?_⟩
      simp only [Report.cases_ofCases, List.length_map, List.getElem?_map, true_and]
      -- the cases at one place are those of one target in the two states
      intro i t c c' ht hc hc'
      rw [ht] at hc hc'
      obtain rfl := Option.some.inj hc
      obtain rfl := Option.some.inj hc'
      refine ⟨?_, ?_, fun hunchanged => ?_⟩
      · rw [Target.case, PlannedItem.name_case, Target.name_item]
      · rw [Target.case, PlannedItem.name_case, Target.name_item]
      · exact hshape.case_eq hparse hread hts (List.mem_of_getElem? ht) hunchanged

attribute [local instance] Build.withoutCairo

/-- A host with an entry at `/a.so`, a link to it, another library file and a sample. -/
private def hostWith (entry : Entry) : Host where
  files :=
    { entries :=
        [([(Path.ofText "a.so").bytes], entry),
         ([(Path.ofText "link").bytes], .symlink (.ofText "a.so")),
         ([(Path.ofText "b.so").bytes], .file [1] (.exporting [("tree_sitter_b", ⟨none⟩)])),
         ([(Path.ofText "sample").bytes], .file [] (.rejected "file too short"))]
      workingDirectory := .ofText "/" }
  runtime := ⟨fun _ _ => none⟩

private def intactHost : Host :=
  hostWith (.file [0] (.exporting []))

private def damagedHost : Host :=
  hostWith (.file [] (.rejected "file too short"))

private def libraryRequest : Request where
  grammars := ["Rust"]
  libraries := ["a=/link", "b=b.so"]
  sample? := some (.ofText "sample")

/-- A library file that is damaged between two checks does not change the case of another one. -/
theorem check_isolates_damagedLibrary :
    ∃ report report', check intactHost libraryRequest = .ok report ∧
      check damagedHost libraryRequest = .ok report' ∧
      report.cases.length = 3 ∧ report'.cases.length = 3 ∧
      report.cases[2]? = report'.cases[2]? := by
  have hshape : SameShape {[(Path.ofText "a.so").bytes]} intactHost.files damagedHost.files := by
    refine ⟨rfl, fun loc => ?_⟩
    by_cases hloc : loc = [(Path.ofText "a.so").bytes]
    · subst hloc
      exact Or.inr ⟨rfl, rfl, rfl⟩
    · -- elsewhere the two lists of entries agree
      refine Or.inl ?_
      cases loc with
      | nil => rfl
      | cons name above =>
        have hne : ((name :: above) == [(Path.ofText "a.so").bytes]) = false := by simpa using hloc
        simp only [FileSystem.entry?, intactHost, damagedHost, hostWith, List.lookup_cons, hne]
  have htargets : targets intactHost.files libraryRequest =
      .ok [.bundled (.linked "rust" "Rust" 15 355), .library ⟨"a", .ofText "/link"⟩,
        .library ⟨"b", .ofText "b.so"⟩] := rfl
  have hcheck := @check_eq_map_targets _ intactHost libraryRequest ⟨some "", false⟩ rfl
  rw [htargets] at hcheck
  obtain ⟨e, herror, -⟩ |
    ⟨ts, report, report', hts, -, hreport, hreport', hlength, hlength', hcases⟩ :=
    check_isolates {[(Path.ofText "a.so").bytes]} intactHost damagedHost libraryRequest hshape
      (by
        intro p loc hp hloc
        obtain rfl := Option.some.inj hp
        obtain rfl := Except.ok.inj hloc
        decide)
      (fun _ _ _ _ _ _ _ _ _ _ _ _ _ => rfl)
  · exact absurd (hcheck.symm.trans herror) (by simp [Except.map])
  · obtain rfl := Except.ok.inj (htargets.symm.trans hts)
    refine ⟨report, report', hreport, hreport', hlength, hlength', ?_⟩
    have hlt : 2 < report.cases.length := by
      rw [hlength]
      decide
    have hlt' : 2 < report'.cases.length := by
      rw [hlength']
      decide
    have hc := List.getElem?_eq_getElem hlt
    have hc' := List.getElem?_eq_getElem hlt'
    obtain ⟨-, -, heq⟩ := hcases 2 _ _ _ rfl hc hc'
    rw [hc, hc', heq ?_]
    -- the other library file stands at a location of its own
    rintro ⟨l, loc, hl, hresolve, hloc⟩
    obtain rfl := Target.library.inj hl
    obtain rfl := Except.ok.inj hresolve
    exact absurd hloc (by decide)

end GrammarCheck
