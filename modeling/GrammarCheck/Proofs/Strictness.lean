import GrammarCheck.Proofs.Verdict

/-!
# What strictness changes

A strict check and a check that is not strict read the same sample, plan the same targets and
measure the same. They differ in the cases that would pass although the sample does not parse
cleanly: the strict check fails them.

* `Alike` — two checks that are refused for the same reason, or have cases that are related one by
  one; `alike_check` gives it from the cases of each target.
* `Case.Hardens`, `Case.hardens_run` — what strictness makes of a case.
* `Report.failed_le` — failures that stay failures are not fewer.
* `check_strict` — what strictness makes of a check, and what a sample makes of one that is not
  strict.
-/

namespace GrammarCheck

/-- No parse is given up: the parser of the runtime gives a tree for every text, under every
language whose version it takes. -/
def Runtime.FinishesParses (runtime : Runtime) : Prop :=
  ∀ language source, runtimeAccepts language.abiVersion.toNat = true →
    (runtime.parse? language source).isSome

/-- What has loaded is parsed with. -/
theorem Runtime.FinishesParses.isSome_parse? {runtime : Runtime} (h : runtime.FinishesParses)
    {range : AbiRange} {handle : Handle} {g : LoadedGrammar} (hload : load range handle = .ok g)
    (source : String) : (runtime.parse? g.language source).isSome := by
  obtain ⟨-, -, hversion, hrange, -⟩ := load_eq_ok_iff.mp hload
  exact h g.language source (hversion ▸ AbiRange.runtimeAccepts_of_contains hrange)

/-! ### Strict cases -/

namespace Case

/-- **What strictness makes of a case.** Everything that was measured stays. The case stays the same
as a whole, unless it would pass with a sample that has errors: then the strict one fails. -/
structure Hardens (lenient strict : Case) : Prop where
  name_eq : strict.name = lenient.name
  artifact_eq : strict.artifact? = lenient.artifact?
  abiVersion_eq : strict.abiVersion? = lenient.abiVersion?
  nodeKindCount_eq : strict.nodeKindCount? = lenient.nodeKindCount?
  sample_eq : strict.sample? = lenient.sample?
  eq_or_failed :
    if lenient.status = .passed ∧ lenient.sample?.any ParseSummary.hasError then
      strict.status = .failed
    else strict = lenient

/-- A case that has failed already is not touched. -/
theorem hardens_self {c : Case} (hfailed : c.status = .failed) : Hardens c c where
  name_eq := rfl
  artifact_eq := rfl
  abiVersion_eq := rfl
  nodeKindCount_eq := rfl
  sample_eq := rfl
  eq_or_failed := by rw [if_neg fun hpassed => ne_passed_of_failed hfailed hpassed.1]

/-- Strictness does not undo a failure. -/
theorem Hardens.failed {lenient strict : Case} (h : Hardens lenient strict)
    (hfailed : lenient.status = .failed) : strict.status = .failed := by
  have heq := h.eq_or_failed
  rw [if_neg fun hpassed => ne_passed_of_failed hfailed hpassed.1] at heq
  rw [heq, hfailed]

variable {runtime : Runtime} {loader : Loader} {options : CaseOptions} {p : Provider}
  {g : LoadedGrammar}

/-- A case that is not strict passes exactly if the grammar loads, whatever the sample. -/
theorem status_run_of_not_strict (hstrict : options.strict = false) :
    (run runtime loader options p).status =
      if (loader.load p.handle).toOption.isSome then .passed else .failed := by
  cases h : loader.load p.handle with
  | error e =>
    rw [run_of_load_error h]
    rfl
  | ok g =>
    rw [run_of_load_ok h, hstrict]
    rfl

/-- **Strict runs.** -/
theorem hardens_run
    (hparse : ∀ g source, loader.load p.handle = .ok g → options.sample? = some source →
      (runtime.parse? g.language source).isSome) :
    Hardens (run runtime loader { options with strict := false } p)
      (run runtime loader { options with strict := true } p) := by
  cases h : loader.load p.handle with
  | error e =>
    rw [run_of_load_error h, run_of_load_error h]
    exact hardens_self rfl
  | ok g =>
    have hlenient : run runtime loader { options with strict := false } p =
        loaded runtime options p g := by
      rw [run_of_load_ok h]
      rfl
    have hspoils : spoils runtime options g =
        (loaded runtime options p g).sample?.any ParseSummary.hasError :=
      spoils_eq_any (hparse g · h)
    constructor
    case name_eq => rw [name_run, name_run]
    case artifact_eq => rw [artifact?_run, artifact?_run]
    case abiVersion_eq => rw [abiVersion?_run, abiVersion?_run]
    case nodeKindCount_eq => rw [nodeKindCount?_run, nodeKindCount?_run]
    case sample_eq => rw [sample?_run, sample?_run]
    case eq_or_failed =>
      rw [hlenient, ← hspoils]
      -- the strict case is taken back exactly if the sample spoils it
      split
      · next hspoiled => exact (failed_run_iff h).mpr ⟨rfl, hspoiled.2⟩
      · next hclean =>
        rw [run_of_load_ok h, if_neg]
        · rfl
        · exact fun hspoiled => hclean ⟨rfl, hspoiled⟩

end Case

/-- **Strict targets.** -/
theorem Target.hardens_case {host : Host} (hfinishes : host.runtime.FinishesParses)
    (options : CaseOptions) (t : Target) :
    Case.Hardens (t.case host { options with strict := false })
      (t.case host { options with strict := true }) := by
  rw [Target.case, Target.case]
  rcases t.item_cases host.files with ⟨p, hp⟩ | ⟨l, e, hbroken⟩
  · rw [hp]
    exact Case.hardens_run fun g source hload _ => hfinishes.isSome_parse? hload source
  · -- a library file that did not open failed before there was a sample
    rw [hbroken]
    exact Case.hardens_self rfl

/-- The status of a case that is not strict does not depend on the sample. -/
theorem Target.status_case_of_not_strict {host : Host} {options options' : CaseOptions}
    (hstrict : options.strict = false) (hstrict' : options'.strict = false) (t : Target) :
    (t.case host options).status = (t.case host options').status := by
  rw [Target.case, Target.case]
  rcases t.item_cases host.files with ⟨p, hp⟩ | ⟨l, e, hbroken⟩
  · rw [hp, PlannedItem.case, PlannedItem.case, Case.status_run_of_not_strict hstrict,
      Case.status_run_of_not_strict hstrict']
  · rw [hbroken]
    rfl

/-! ### Reports that are compared -/

/-- Failures that stay failures are not fewer. -/
theorem Report.failed_le {cs cs' : List Case}
    (h : List.Forall₂ (fun c c' => c.status = .failed → c'.status = .failed) cs cs') :
    (ofCases cs).failed ≤ (ofCases cs').failed := by
  rw [failed_ofCases, failed_ofCases]
  induction h with
  | nil => exact Nat.le_refl _
  | @cons c c' cs cs' hc _ ih =>
    rw [List.countP_cons, List.countP_cons]
    refine Nat.add_le_add ih ?_
    by_cases hfailed : c.status = .failed
    · simp [hfailed, hc hfailed]
    · simp [hfailed]

theorem Report.exitCode_le {r r' : Report} (h : r.failed ≤ r'.failed) :
    r.exitCode ≤ r'.exitCode := by
  unfold exitCode
  split
  · next hfailed => rw [if_pos (Nat.lt_of_lt_of_le hfailed h)]
  · exact Nat.zero_le _

/-- Two checks are alike up to a relation between cases: they are refused for the same reason, or
give reports whose cases are related one by one. -/
inductive Alike (related : Case → Case → Prop) :
    Except RequestError Report → Except RequestError Report → Prop
  | refused (e : RequestError) : Alike related (.error e) (.error e)
  | reported {report report' : Report} (cases : List.Forall₂ related report.cases report'.cases) :
      Alike related (.ok report) (.ok report')

/-- Requests with the same targets, whose samples can be read, are checked alike if the cases of
each target are related. -/
theorem alike_check [Build] {related : Case → Case → Prop} {host : Host} {r r' : Request}
    {options options' : CaseOptions} (hread : readOptions host.files r = .ok options)
    (hread' : readOptions host.files r' = .ok options')
    (htargets : targets host.files r = targets host.files r')
    (hcase : ∀ t : Target, related (t.case host options) (t.case host options')) :
    Alike related (check host r) (check host r') := by
  rw [check_eq_map_targets hread, check_eq_map_targets hread', ← htargets]
  cases targets host.files r with
  | error e => exact .refused e
  | ok ts =>
    refine .reported ?_
    rw [Report.cases_ofCases, Report.cases_ofCases, List.forall₂_map_left_iff,
      List.forall₂_map_right_iff, List.forall₂_same]
    exact fun t _ => hcase t

/-- What is read for a request does not depend on its strictness. -/
theorem readOptions_with_strict (fs : FileSystem) (r : Request) (strict : Bool) :
    readOptions fs { r with strict } =
      (readOptions fs r).map fun options => { options with strict } := by
  unfold readOptions
  cases r.sample? with
  | none => rfl
  | some p =>
    simp only
    cases fs.readText p <;> rfl

/-! ### Strict checks -/

/-- **Strict checks.** -/
theorem alike_check_strict [Build] {host : Host} (hfinishes : host.runtime.FinishesParses)
    (r : Request) :
    Alike Case.Hardens (check host { r with strict := false })
      (check host { r with strict := true }) := by
  have hread := readOptions_with_strict host.files r
  cases hoptions : readOptions host.files r with
  | error e =>
    -- the sample cannot be read, and that is looked at before anything else
    simp only [hoptions] at hread
    rw [check, check, hread, hread]
    exact .refused e
  | ok options =>
    rw [hoptions] at hread
    exact alike_check (hread false) (hread true) rfl fun t => t.hardens_case hfinishes options

/-- The counts of the report of a check are those of its cases. -/
theorem eq_ofCases_of_check [Build] {host : Host} {r : Request} {report : Report}
    (h : check host r = .ok report) : report = .ofCases report.cases := by
  obtain ⟨options, ts, -, -, rfl⟩ := check_eq_ok_iff.mp h
  rw [Report.cases_ofCases]

/-- A strict check does not count fewer failures. -/
theorem failed_le_of_check [Build] {host : Host} (hfinishes : host.runtime.FinishesParses)
    {r : Request} {lenient strict : Report}
    (hlenient : check host { r with strict := false } = .ok lenient)
    (hstrict : check host { r with strict := true } = .ok strict) :
    lenient.failed ≤ strict.failed := by
  have halike := alike_check_strict hfinishes r
  rw [hlenient, hstrict] at halike
  obtain _ | hcases := halike
  rw [eq_ofCases_of_check hlenient, eq_ofCases_of_check hstrict]
  exact Report.failed_le (hcases.imp fun _ _ hhardens => hhardens.failed)

/-- **What strictness makes of a check.** A strict check is refused for the same reason as one that
is not strict, or its cases are the same one by one, except that those which would pass with a
sample that has errors fail. So neither the failures that are counted nor the exit code become less.
Without strictness a sample that can be read changes the status of no case. -/
theorem check_strict [Build] (host : Host) (r : Request)
    (hfinishes : host.runtime.FinishesParses) :
    Alike Case.Hardens (check host { r with strict := false })
      (check host { r with strict := true }) ∧
    (∀ lenient strict, check host { r with strict := false } = .ok lenient →
      check host { r with strict := true } = .ok strict → lenient.failed ≤ strict.failed) ∧
    (∀ filter asJson, (runCheck host filter { r with strict := false } asJson).code ≤
      (runCheck host filter { r with strict := true } asJson).code) ∧
    ∀ p text, host.files.readText p = .ok text →
      Alike (fun c c' => c.status = c'.status)
        (check host { r with sample? := some p, strict := false })
        (check host { r with sample? := none, strict := false }) := by
  have halike := alike_check_strict hfinishes r
  refine ⟨halike, fun _ _ => failed_le_of_check hfinishes, ?_, ?_⟩
  · intro filter asJson
    unfold runCheck
    generalize hlenient : check host { r with strict := false } = lenient at halike ⊢
    generalize hstrict : check host { r with strict := true } = strict at halike ⊢
    cases halike with
    | refused e => exact Nat.le_refl 1
    | reported => exact Report.exitCode_le (failed_le_of_check hfinishes hlenient hstrict)
  · intro p text htext
    have hread : readOptions host.files { r with sample? := some p, strict := false } =
        .ok { sample? := some text, strict := false } := by
      simp only [readOptions, htext]
    exact alike_check hread rfl rfl fun t => t.status_case_of_not_strict rfl rfl

/-- A host with a sample that is a lone keyword. Its parser finds an error in that, and in nothing
else. -/
private def keywordHost : Host where
  files :=
    { entries := [([(Path.ofText "a.rs").bytes], .file [0x66, 0x6e] (.rejected "file too short"))]
      workingDirectory := .ofText "/" }
  runtime :=
    { parse? _ source :=
        if source = "fn" then
          some ⟨"source_file", .mk ⟨true, false, false, ⟨0, 0⟩⟩
            [.mk ⟨true, true, false, ⟨0, 0⟩⟩ [.mk ⟨false, false, false, ⟨0, 0⟩⟩ []]]⟩
        else some ⟨"source_file", .mk ⟨false, false, false, ⟨0, 0⟩⟩ []⟩ }

private def keywordRequest : Request where
  grammars := ["rust", "cairo"]
  sample? := some (.ofText "a.rs")

/-- Strictness fails Rust, which would pass, and leaves Cairo, which fails by itself. -/
theorem check_strict_keyword :
    ∃ lenient strict, check keywordHost { keywordRequest with strict := false } = .ok lenient ∧
      check keywordHost { keywordRequest with strict := true } = .ok strict ∧
      List.Forall₂ Case.Hardens lenient.cases strict.cases ∧
      lenient.cases.map Case.status = [.passed, .failed] ∧
      strict.cases.map Case.status = [.failed, .failed] ∧ lenient.failed ≤ strict.failed := by
  have hfinishes : keywordHost.runtime.FinishesParses := by
    intro language source _
    simp only [keywordHost]
    split <;> rfl
  have hlenient : check keywordHost { keywordRequest with strict := false } = .ok (.ofCases _) :=
    check_eq_ok_iff.mpr ⟨{ sample? := some "fn" }, [.bundled (.linked "rust" "Rust" 15 355),
      .bundled cairo], rfl, rfl, rfl⟩
  have hstrict : check keywordHost { keywordRequest with strict := true } = .ok (.ofCases _) :=
    check_eq_ok_iff.mpr ⟨{ sample? := some "fn", strict := true },
      [.bundled (.linked "rust" "Rust" 15 355), .bundled cairo], rfl, rfl, rfl⟩
  obtain ⟨halike, hfailed, -⟩ := check_strict keywordHost keywordRequest hfinishes
  rw [hlenient, hstrict] at halike
  obtain _ | hcases := halike
  refine ⟨_, _, hlenient, hstrict, hcases, ?_, ?_, hfailed _ _ hlenient hstrict⟩
  · rw [Report.cases_ofCases]
    rfl
  · rw [Report.cases_ofCases]
    rfl

end GrammarCheck
