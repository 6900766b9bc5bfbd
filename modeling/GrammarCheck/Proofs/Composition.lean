import GrammarCheck.Check
import GrammarCheck.Proofs.Tally

/-!
# Runs are put together from their parts

A run goes through a sequence of grammars and pushes a case for each. No case looks at the report
that it is pushed to or at another case, so a failure changes nothing before or after it: a run of
two sequences, one after the other, is the two runs, and the order of the grammars matters to the
order of the cases only. A check goes through its plan in the same way. Where everything in the plan
has opened, it is the run of the grammars that were planned.

* `runAll_append` — what a run goes on with is pushed to what there is.
* `cases_runAll_append`, `failed_runAll_append`, `exitCode_runAll_append` — two runs as one.
* `counts_runAll_of_perm` — the order of the grammars.
* `check_eq_runAll` — a check of a plan without failures to open is a run.
* `runAll_compositional` — all of this for every loader.
-/

namespace GrammarCheck

namespace Report

/-- Cases are pushed one part after the other. -/
theorem pushAll_append (r : Report) (cs ds : List Case) :
    r.pushAll (cs ++ ds) = (r.pushAll cs).pushAll ds :=
  List.foldl_append

/-- A run that fails as often as two runs together fails if one of them does. -/
theorem exitCode_eq_max {r s t : Report} (h : r.failed = s.failed + t.failed) :
    r.exitCode = max s.exitCode t.exitCode := by
  unfold exitCode
  rw [h]
  by_cases hs : 0 < s.failed
  · -- one failure is enough, and no exit code is greater than one
    rw [if_pos (Nat.add_pos_left hs _), if_pos hs]
    split <;> rfl
  · have hzero : s.failed = 0 := Nat.eq_zero_of_not_pos hs
    rw [hzero, Nat.zero_add, if_neg (Nat.lt_irrefl 0), Nat.zero_max]

theorem exitCode_congr {r s : Report} (h : r.failed = s.failed) : r.exitCode = s.exitCode := by
  rw [exitCode, exitCode, h]

end Report

section Runs

variable (runtime : Runtime) (loader : Loader) (options : CaseOptions) (ps qs : List Provider)

/-! ### Two runs as one -/

@[simp] theorem cases_runAll :
    (runAll runtime loader options ps).cases = ps.map (Case.run runtime loader options) :=
  Report.cases_ofCases _

/-- **Going on with a run.** The cases of further grammars are pushed to the report that there is,
which they leave as it is. -/
theorem runAll_append :
    runAll runtime loader options (ps ++ qs) =
      (runAll runtime loader options ps).pushAll (qs.map (Case.run runtime loader options)) := by
  rw [runAll, List.map_append, Report.ofCases, Report.pushAll_append]
  rfl

theorem cases_runAll_append :
    (runAll runtime loader options (ps ++ qs)).cases =
      (runAll runtime loader options ps).cases ++ (runAll runtime loader options qs).cases := by
  rw [runAll_append, Report.cases_pushAll, cases_runAll runtime loader options qs]

theorem passed_runAll_append :
    (runAll runtime loader options (ps ++ qs)).passed =
      (runAll runtime loader options ps).passed + (runAll runtime loader options qs).passed := by
  let run := Case.run runtime loader options
  calc (runAll runtime loader options (ps ++ qs)).passed
      = ((ps ++ qs).map run).countP (·.status = .passed) := Report.passed_ofCases _
    _ = (ps.map run).countP (·.status = .passed) + (qs.map run).countP (·.status = .passed) := by
        rw [List.map_append, List.countP_append]
    _ = (runAll runtime loader options ps).passed + (runAll runtime loader options qs).passed := by
        rw [runAll, runAll, Report.passed_ofCases, Report.passed_ofCases]

theorem failed_runAll_append :
    (runAll runtime loader options (ps ++ qs)).failed =
      (runAll runtime loader options ps).failed + (runAll runtime loader options qs).failed := by
  let run := Case.run runtime loader options
  calc (runAll runtime loader options (ps ++ qs)).failed
      = ((ps ++ qs).map run).countP (·.status = .failed) := Report.failed_ofCases _
    _ = (ps.map run).countP (·.status = .failed) + (qs.map run).countP (·.status = .failed) := by
        rw [List.map_append, List.countP_append]
    _ = (runAll runtime loader options ps).failed + (runAll runtime loader options qs).failed := by
        rw [runAll, runAll, Report.failed_ofCases, Report.failed_ofCases]

theorem exitCode_runAll_append :
    (runAll runtime loader options (ps ++ qs)).exitCode =
      max (runAll runtime loader options ps).exitCode
        (runAll runtime loader options qs).exitCode :=
  Report.exitCode_eq_max (failed_runAll_append runtime loader options ps qs)

/-! ### The order of the grammars -/

variable {ps qs}

/-- **The order does not count.** A run of the same grammars in another order has the same
counts. -/
theorem counts_runAll_of_perm (h : ps.Perm qs) :
    (runAll runtime loader options ps).passed = (runAll runtime loader options qs).passed ∧
      (runAll runtime loader options ps).failed = (runAll runtime loader options qs).failed := by
  have hcases := h.map (Case.run runtime loader options)
  constructor
  · rw [runAll, runAll, Report.passed_ofCases, Report.passed_ofCases, hcases.countP_eq]
  · rw [runAll, runAll, Report.failed_ofCases, Report.failed_ofCases, hcases.countP_eq]

end Runs

/-! ### Checks as runs -/

/-- A check pushes a case for each item of its plan, in order. -/
theorem check_eq_of_plan [Build] {host : Host} {r : Request} {options : CaseOptions}
    {items : List PlannedItem} (hread : readOptions host.files r = .ok options)
    (hplan : plan host.files r = .ok items) :
    check host r =
      .ok (.ofCases (items.map (PlannedItem.case host.runtime AbiRange.supported options))) := by
  rw [check, hread, hplan]
  rfl

/-- **A check as a run.** If everything in the plan has opened, the report of the check is that of
the run of the grammars in the plan. -/
theorem check_eq_runAll [Build] {host : Host} {r : Request} {options : CaseOptions}
    {ps : List Provider}
    (hread : readOptions host.files r = .ok options)
    (hplan : plan host.files r = .ok (ps.map .grammar)) :
    check host r = .ok (runAll host.runtime AbiRange.supported options ps) := by
  rw [check_eq_of_plan hread hplan, List.map_map, runAll]
  rfl

/-! ### Composition -/

/-- **Runs compose.** With every loader, two sequences of grammars that are run as one give the
cases of the two runs, one after the other, the sums of their counts and the greater of their exit
codes. The case at each place is that of the grammar at this place, whatever stands around it.
Another order of the grammars gives the same cases in another order, the same counts and the same
exit code. And a check whose plan holds grammars only, since everything in it has opened, reports
what their run does. -/
theorem runAll_compositional [Build] (runtime : Runtime) (loader : Loader) (options : CaseOptions) :
    (∀ ps qs : List Provider,
      let both := runAll runtime loader options (ps ++ qs)
      let first := runAll runtime loader options ps
      let second := runAll runtime loader options qs
      both.cases = first.cases ++ second.cases ∧
      both.passed = first.passed + second.passed ∧
      both.failed = first.failed + second.failed ∧
      both.exitCode = max first.exitCode second.exitCode) ∧
    (∀ (ps : List Provider) (i : Nat),
      (runAll runtime loader options ps).cases[i]? =
        ps[i]?.map (Case.run runtime loader options)) ∧
    (∀ ps qs : List Provider, ps.Perm qs →
      let report := runAll runtime loader options ps
      let report' := runAll runtime loader options qs
      report.cases.Perm report'.cases ∧
      report.passed = report'.passed ∧
      report.failed = report'.failed ∧
      report.exitCode = report'.exitCode) ∧
    (∀ (files : FileSystem) (r : Request) (ps : List Provider),
      readOptions files r = .ok options → plan files r = .ok (ps.map .grammar) →
      check ⟨files, runtime⟩ r = .ok (runAll runtime AbiRange.supported options ps)) := by
  refine ⟨fun ps qs => ?_, fun ps i => ?_, fun ps qs h => ?_, fun files r ps hread hplan => ?_⟩
  · exact ⟨cases_runAll_append runtime loader options ps qs,
      passed_runAll_append runtime loader options ps qs,
      failed_runAll_append runtime loader options ps qs,
      exitCode_runAll_append runtime loader options ps qs⟩
  · rw [cases_runAll, List.getElem?_map]
  · obtain ⟨hpassed, hfailed⟩ := counts_runAll_of_perm runtime loader options h
    refine ⟨?_, hpassed, hfailed, Report.exitCode_congr hfailed⟩
    rw [cases_runAll, cases_runAll]
    exact h.map _
  · exact check_eq_runAll hread hplan

attribute [local instance] Build.withoutCairo

/-- A host with a sample in which Rust finds an error and every other grammar finds none. -/
private def mixedHost : Host where
  files :=
    { entries := [([(Path.ofText "a.rs").bytes], .file [0x66, 0x6e] (.rejected "file too short"))]
      workingDirectory := .ofText "/" }
  runtime :=
    { parse? language _ :=
        some ⟨"source_file", .mk ⟨language.tables = "rust", false, false, ⟨0, 0⟩⟩ []⟩ }

private def mixedRequest : Request where
  grammars := ["rust", "cairo", "python"]
  sample? := some (.ofText "a.rs")
  strict := true

/-- Rust fails with its sample and Cairo without an entry point, and Python passes after them as it
does alone. -/
theorem runAll_compositional_mixed :
    let run := runAll mixedHost.runtime AbiRange.supported { sample? := some "fn", strict := true }
    let failing : List Provider := [.bundled (.linked "rust" "Rust" 15 355), .bundled cairo]
    let passing : List Provider := [.bundled (.linked "python" "Python" 15 274)]
    check mixedHost mixedRequest = .ok (run (failing ++ passing)) ∧
      (run (failing ++ passing)).failed = 2 ∧ (run (failing ++ passing)).exitCode = 1 ∧
      (run passing).exitCode = 0 ∧
      (run (failing ++ passing)).cases[2]? = (run passing).cases[0]? ∧
      (run (passing ++ failing)).cases.Perm (run (failing ++ passing)).cases := by
  intro run failing passing
  obtain ⟨happend, hplace, hperm, hcheck⟩ := runAll_compositional mixedHost.runtime
    AbiRange.supported { sample? := some "fn", strict := true }
  obtain ⟨-, -, hfailed, hcode⟩ := happend failing passing
  refine ⟨hcheck mixedHost.files mixedRequest (failing ++ passing) rfl rfl, ?_, ?_, rfl, ?_, ?_⟩
  · exact hfailed.trans rfl
  · exact hcode.trans rfl
  · exact (hplace (failing ++ passing) 2).trans (hplace passing 0).symm
  · exact (hperm (passing ++ failing) (failing ++ passing) List.perm_append_comm).1

end GrammarCheck
