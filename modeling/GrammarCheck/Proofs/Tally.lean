import GrammarCheck.Report

/-!
# The tally of a report

A report keeps two counts beside its cases, and what is shown of a run reads the counts: the last
line of the text, the JSON, and the exit code. That the counts are those of the cases is an
invariant of the reports that are built by pushing. The report without a case has it, and a push
keeps it, since of the three statuses each is counted in one place or in none.

* `Report.Tallies` — the invariant.
* `Report.Tallies.push`, `Report.tallies_ofCases` — a push keeps it, so any number of pushes do.
* `Report.Tallies.passed_add_failed_add_notRun` — the cases that are counted, and the rest of them.
* `Report.Tallies.exitCode_eq` — the exit code as a statement on the cases.
* `Report.pushes_tallied` — what a report says after any sequence of pushes.
-/

namespace GrammarCheck

/-- Every case has one of the three statuses. -/
theorem Case.countP_status (cs : List Case) :
    cs.countP (·.status = .passed) + cs.countP (·.status = .failed) +
      cs.countP (·.status = .notRun) = cs.length := by
  induction cs with
  | nil => rfl
  | cons c cs ih =>
    -- the head adds one to the count of the status that it has, and nothing to the other two
    have hhead : (if c.status = .passed then 1 else 0) + (if c.status = .failed then 1 else 0) +
        (if c.status = .notRun then 1 else 0) = 1 := by
      cases c.status <;> rfl
    simp only [List.countP_cons, List.length_cons, decide_eq_true_eq]
    omega

namespace Report

/-! ### The invariant -/

/-- **The tally is right.** The counts of a report are those of its own cases. -/
structure Tallies (r : Report) : Prop where
  passed_eq : r.passed = r.cases.countP (·.status = .passed)
  failed_eq : r.failed = r.cases.countP (·.status = .failed)

theorem tallies_empty : empty.Tallies :=
  ⟨rfl, rfl⟩

/-- **One push.** It counts its case if that has passed or failed, and nothing else. -/
theorem Tallies.push {r : Report} (h : r.Tallies) (c : Case) : (r.push c).Tallies := by
  constructor
  case passed_eq =>
    calc (r.push c).passed
        = r.passed + [c].countP (·.status = .passed) := by
          cases hstatus : c.status <;> simp [Report.push, hstatus]
      _ = r.cases.countP (·.status = .passed) + [c].countP (·.status = .passed) := by
          rw [h.passed_eq]
      _ = (r.push c).cases.countP (·.status = .passed) := by
          rw [cases_push, List.countP_append]
  case failed_eq =>
    calc (r.push c).failed
        = r.failed + [c].countP (·.status = .failed) := by
          cases hstatus : c.status <;> simp [Report.push, hstatus]
      _ = r.cases.countP (·.status = .failed) + [c].countP (·.status = .failed) := by
          rw [h.failed_eq]
      _ = (r.push c).cases.countP (·.status = .failed) := by
          rw [cases_push, List.countP_append]

/-- **Any number of pushes.** -/
theorem Tallies.pushAll {r : Report} (h : r.Tallies) (cs : List Case) : (r.pushAll cs).Tallies := by
  -- the report that the pushes start from changes with each of them
  induction cs generalizing r with
  | nil => exact h
  | cons c cs ih => exact ih (h.push c)

theorem tallies_ofCases (cs : List Case) : (ofCases cs).Tallies :=
  tallies_empty.pushAll cs

@[simp] theorem passed_ofCases (cs : List Case) :
    (ofCases cs).passed = cs.countP (·.status = .passed) := by
  rw [(tallies_ofCases cs).passed_eq, cases_ofCases]

@[simp] theorem failed_ofCases (cs : List Case) :
    (ofCases cs).failed = cs.countP (·.status = .failed) := by
  rw [(tallies_ofCases cs).failed_eq, cases_ofCases]

/-! ### What the counts say of the cases -/

namespace Tallies

variable {r : Report} (h : r.Tallies)

include h

/-- The cases that were not run are those that neither count has. -/
theorem passed_add_failed_add_notRun :
    r.passed + r.failed + r.cases.countP (·.status = .notRun) = r.cases.length := by
  rw [h.passed_eq, h.failed_eq]
  exact Case.countP_status r.cases

/-- The counts add up to the number of cases exactly if every case was run. -/
theorem passed_add_failed_eq_iff :
    r.passed + r.failed = r.cases.length ↔ ∀ c ∈ r.cases, c.status ≠ .notRun := by
  have hnone : r.cases.countP (·.status = .notRun) = 0 ↔ ∀ c ∈ r.cases, c.status ≠ .notRun := by
    simp only [List.countP_eq_zero, decide_eq_true_eq, ne_eq]
  rw [← hnone, ← h.passed_add_failed_add_notRun]
  omega

/-- The exit code tells whether a case has failed. -/
theorem exitCode_eq : r.exitCode = if ∃ c ∈ r.cases, c.status = .failed then 1 else 0 := by
  simp only [exitCode, h.failed_eq, List.countP_pos_iff, decide_eq_true_eq]

end Tallies

theorem exitCode_ofCases (cs : List Case) :
    (ofCases cs).exitCode = if ∃ c ∈ cs, c.status = .failed then 1 else 0 := by
  rw [(tallies_ofCases cs).exitCode_eq, cases_ofCases]

/-- **What a report says of what was pushed.** Its cases are those that were pushed, in their order,
whatever they hold. Its counts are those of the cases that have passed and of those that have
failed; together they are no more than the cases, and as many exactly if no case was left out of the
run. The exit code is one if a case has failed, and zero otherwise. -/
theorem pushes_tallied (cs : List Case) :
    let r := empty.pushAll cs
    r.cases = cs ∧
    r.passed = cs.countP (·.status = .passed) ∧
    r.failed = cs.countP (·.status = .failed) ∧
    r.passed + r.failed ≤ r.cases.length ∧
    (r.passed + r.failed = r.cases.length ↔ ∀ c ∈ cs, c.status ≠ .notRun) ∧
    r.exitCode = if ∃ c ∈ cs, c.status = .failed then 1 else 0 := by
  intro r
  have htallies : r.Tallies := tallies_empty.pushAll cs
  have hcases : r.cases = cs := cases_ofCases cs
  refine ⟨hcases, ?_, ?_, ?_, ?_, ?_⟩
  · rw [htallies.passed_eq, hcases]
  · rw [htallies.failed_eq, hcases]
  · have hcount := htallies.passed_add_failed_add_notRun
    omega
  · rw [htallies.passed_add_failed_eq_iff, hcases]
  · rw [htallies.exitCode_eq, hcases]

end Report

end GrammarCheck
