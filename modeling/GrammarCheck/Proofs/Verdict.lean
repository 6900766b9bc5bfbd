import GrammarCheck.Program
import GrammarCheck.Proofs.Isolation
import GrammarCheck.Proofs.Planning
import GrammarCheck.Proofs.Tally

/-!
# The verdict of a check

A report counts the cases that have passed and those that have failed while they are pushed, and the
exit code looks at one of the two counts only. In the report of a check that is enough, because
every case has either passed or failed; and a check that looks at nothing at all is one that was
asked for an empty directory alone.

* `Report.passed_add_failed_ofCases`, `Report.exitCode_eq_of_run` — the counts and the exit code if
  every case has passed or failed.
* `Target.passed_or_failed_case` — the case of a target is run, whatever becomes of it.
* `targets_eq_nil_iff` — when a request asks for nothing.
* `check_verdict` — the counts and the exit code of a check, and when its report is empty.
-/

namespace GrammarCheck

/-! ### Counts -/

namespace Report

section Run

variable {cs : List Case} (hrun : ∀ c ∈ cs, c.status = .passed ∨ c.status = .failed)

include hrun

/-- If every case has passed or failed, each is counted once. -/
theorem passed_add_failed_ofCases : (ofCases cs).passed + (ofCases cs).failed = cs.length := by
  have hcount := (tallies_ofCases cs).passed_add_failed_eq_iff
  rw [cases_ofCases] at hcount
  refine hcount.mpr fun c hc hstatus => ?_
  rcases hrun c hc with h | h
  · exact absurd (h.symm.trans hstatus) nofun
  · exact absurd (h.symm.trans hstatus) nofun

/-- If every case has passed or failed, the exit code tells whether all have passed. -/
theorem exitCode_eq_of_run :
    (ofCases cs).exitCode = if ∀ c ∈ cs, c.status = .passed then 0 else 1 := by
  rw [exitCode_ofCases]
  by_cases hfailed : ∃ c ∈ cs, c.status = .failed
  · obtain ⟨c, hc, hstatus⟩ := hfailed
    rw [if_pos ⟨c, hc, hstatus⟩, if_neg]
    exact fun hpassed => Case.ne_passed_of_failed hstatus (hpassed c hc)
  · rw [if_neg hfailed, if_pos]
    exact fun c hc => (hrun c hc).resolve_right fun h => hfailed ⟨c, hc, h⟩

end Run

end Report

/-! ### The cases of a check -/

/-- The item of a target is a grammar, or the failed case of a library file. -/
theorem Target.item_cases (fs : FileSystem) (t : Target) :
    (∃ p, t.item fs = .grammar p) ∨ ∃ l e, t.item fs = .broken (brokenCase fs l e) := by
  cases t with
  | bundled g => exact Or.inl ⟨_, rfl⟩
  | library l =>
    rw [item, openLibrary]
    split
    · exact Or.inl ⟨_, rfl⟩
    · exact Or.inr ⟨l, _, rfl⟩

/-- **The case of a target is run.** It has passed or failed, also if it stands for a library file
that did not open. -/
theorem Target.passed_or_failed_case (host : Host) (options : CaseOptions) (t : Target) :
    (t.case host options).status = .passed ∨ (t.case host options).status = .failed := by
  rw [Target.case]
  rcases t.item_cases host.files with ⟨p, hp⟩ | ⟨l, e, hbroken⟩
  · rw [hp]
    exact (Case.verdict_run _ _ options p).imp And.left And.left
  · rw [hbroken]
    exact Or.inr rfl

/-- A check that is not refused reports the cases of its targets. -/
theorem check_eq_ok_iff [Build] {host : Host} {r : Request} {report : Report} :
    check host r = .ok report ↔
      ∃ options ts, readOptions host.files r = .ok options ∧ targets host.files r = .ok ts ∧
        report = .ofCases (ts.map (Target.case host options)) := by
  cases hread : readOptions host.files r with
  | error e => simp [check, hread, bind, Except.bind]
  | ok options =>
    rw [check_eq_map_targets hread]
    cases targets host.files r <;> simp [Except.map, eq_comm]

/-! ### Requests that ask for nothing -/

namespace Request

variable {r : Request}

theorem linkedSelection_eq_nil_iff [Build] : r.linkedSelection = [] ↔ r.all = false := by
  constructor
  · intro h
    by_contra hall
    -- Rust is linked, and no library file can stand in for it
    have hrust : Grammar.linked "rust" "Rust" 15 355 ∈ r.linkedSelection :=
      mem_linkedSelection.mpr ⟨by simpa using hall, List.mem_cons_of_mem _ (by decide), by decide,
        fun hcairo => absurd hcairo.2 (by decide)⟩
    rw [h] at hrust
    exact absurd hrust (by simp)
  · intro hall
    rw [linkedSelection, if_neg (by simp [hall])]

/-- No name is selected if there are no grammars and something else is asked for. -/
theorem selection_eq_nil_iff :
    r.selection = [] ↔
      r.grammars = [] ∧ (r.all = true ∨ r.libraries ≠ [] ∨ r.libraryDir?.isSome) := by
  rw [← names_eq_selection]
  unfold names isExplicit
  cases r.grammars <;> cases r.all <;> cases r.libraries <;> cases r.libraryDir? <;> simp

/-- The first three segments are empty if nothing of what they are made of is asked for. -/
theorem grammarItems_eq_nil_iff [Build] {fs : FileSystem} {named : List Grammar}
    (hnamed : named.map Grammar.name = r.freshNames) :
    r.grammarItems fs named = [] ↔
      r.cairoLibrary? = none ∧ r.all = false ∧ r.selection = [] := by
  have hfresh : named = [] ↔ r.freshNames = [] := by
    rw [← hnamed, List.map_eq_nil_iff]
  rw [grammarItems, List.append_eq_nil_iff, List.map_eq_nil_iff, List.map_eq_nil_iff,
    List.append_eq_nil_iff, linkedSelection_eq_nil_iff, hfresh, Option.toList_eq_nil_iff]
  refine and_congr_right fun hcairo => and_congr_right fun hall => ?_
  -- nothing is planned before the names, so the first of them would be fresh
  have hearlier : r.earlierNames = [] := by
    rw [earlierNames, hcairo, linkedSelection_eq_nil_iff.mpr hall]
    rfl
  constructor
  · intro hnil
    refine List.eq_nil_iff_forall_not_mem.mpr fun name hname => ?_
    have hmem := lower_mem_names hname
    rw [hearlier, hnil] at hmem
    exact absurd hmem (by simp)
  · intro hnil
    rw [freshNames, hnil]
    rfl

end Request

/-- **Asking for nothing.** A request that is not refused has no target exactly if it asks for a
directory without library files, and for nothing else. -/
theorem targets_eq_nil_iff [Build] {fs : FileSystem} {r : Request} {ts : List Target}
    (h : targets fs r = .ok ts) :
    ts = [] ↔ r.all = false ∧ r.grammars = [] ∧ r.libraries = [] ∧ r.cairoLibrary? = none ∧
      ∃ dir, r.libraryDir? = some dir ∧ discover fs dir = [] := by
  obtain ⟨named, files, hnamed, -, hfiles, hitems⟩ := Request.items_of_targets h
  have hlibraries : files = [] ↔ r.libraries = [] := by
    rw [← List.length_eq_zero_iff, ← hfiles.length_eq, List.length_eq_zero_iff]
  rw [← List.map_eq_nil_iff (f := Target.item fs), hitems, List.append_eq_nil_iff,
    List.append_eq_nil_iff, Request.grammarItems_eq_nil_iff hnamed, List.map_eq_nil_iff,
    List.map_eq_nil_iff, hlibraries, Request.selection_eq_nil_iff]
  constructor
  · rintro ⟨⟨⟨hcairo, hall, hgrammars, hother⟩, hlibraries⟩, hdirectory⟩
    -- no name is selected, neither by itself nor by default, so something else is asked for
    rcases hother with hother | hother | hdir
    · exact absurd (hall.symm.trans hother) nofun
    · exact absurd hlibraries hother
    · obtain ⟨dir, hdir⟩ := Option.isSome_iff_exists.mp hdir
      refine ⟨hall, hgrammars, hlibraries, hcairo, dir, hdir, ?_⟩
      simpa [hdir] using hdirectory
  · rintro ⟨hall, hgrammars, hlibraries, hcairo, dir, hdir, hdiscover⟩
    have hother : r.all = true ∨ r.libraries ≠ [] ∨ r.libraryDir?.isSome :=
      Or.inr (Or.inr (Option.isSome_iff_exists.mpr ⟨dir, hdir⟩))
    exact ⟨⟨⟨hcairo, hall, hgrammars, hother⟩, hlibraries⟩, by simp [hdir, hdiscover]⟩

/-- **The verdict.** In the report of a check that is not refused every case has passed or failed
and is counted once. The program ends with zero if every case has passed and with one otherwise, in
whichever form the report is written. The report is empty exactly if the request asks for a
directory without library files, and for nothing else. -/
theorem check_verdict [Build] {host : Host} {r : Request} {report : Report}
    (h : check host r = .ok report) :
    (∀ c ∈ report.cases, c.status ≠ .notRun) ∧
    report.passed + report.failed = report.cases.length ∧
    (∀ filter asJson, (runCheck host filter r asJson).code =
      if ∀ c ∈ report.cases, c.status = .passed then 0 else 1) ∧
    (report.cases = [] ↔ r.all = false ∧ r.grammars = [] ∧ r.libraries = [] ∧
      r.cairoLibrary? = none ∧ ∃ dir, r.libraryDir? = some dir ∧ discover host.files dir = []) := by
  obtain ⟨options, ts, -, hts, rfl⟩ := check_eq_ok_iff.mp h
  have hrun : ∀ c ∈ ts.map (Target.case host options), c.status = .passed ∨ c.status = .failed := by
    intro c hc
    obtain ⟨t, -, rfl⟩ := List.mem_map.mp hc
    exact t.passed_or_failed_case host options
  have hcode : ∀ filter asJson, (runCheck host filter r asJson).code =
      (Report.ofCases (ts.map (Target.case host options))).exitCode := by
    intro filter asJson
    rw [runCheck, h]
  rw [Report.cases_ofCases]
  refine ⟨?_, Report.passed_add_failed_ofCases hrun, ?_, ?_⟩
  · intro c hc hstatus
    rcases hrun c hc with hpassed | hfailed
    · exact absurd (hpassed.symm.trans hstatus) nofun
    · exact absurd (hfailed.symm.trans hstatus) nofun
  · intro filter asJson
    rw [hcode, Report.exitCode_eq_of_run hrun]
  · rw [List.map_eq_nil_iff]
    exact targets_eq_nil_iff hts

/-- A host without any file. -/
private def bareHost : Host where
  files := .bare
  runtime := ⟨fun _ _ => none⟩

/-- An empty directory gives an empty report and the exit code zero; Cairo, which is checked when
nothing is asked for, fails. -/
theorem check_verdict_emptyDirectory :
    let emptyRequest : Request := { libraryDir? := some (.ofText "/") }
    (∃ report, check bareHost emptyRequest = .ok report ∧ report.cases = []) ∧
      (runCheck bareHost .standard emptyRequest true).code = 0 ∧
      (∃ report, check bareHost {} = .ok report ∧ report.passed + report.failed = 1) ∧
      (runCheck bareHost .standard {} false).code = 1 := by
  intro emptyRequest
  have hnothing : (targets bareHost.files emptyRequest).toOption = some [] := by
    decide +kernel
  have hempty : check bareHost emptyRequest = .ok (.ofCases []) :=
    check_eq_ok_iff.mpr ⟨{}, [], rfl, toOption_eq_some_iff.mp hnothing, rfl⟩
  have hcairo : check bareHost {} =
      .ok (.ofCases [(Target.bundled cairo).case bareHost {}]) :=
    check_eq_ok_iff.mpr ⟨{}, [.bundled cairo], rfl, rfl, rfl⟩
  obtain ⟨-, -, hcode, hnil⟩ := check_verdict hempty
  obtain ⟨-, hcount, hcode', -⟩ := check_verdict hcairo
  have hdiscover : discover bareHost.files (.ofText "/") = [] := by
    decide +kernel
  refine ⟨⟨_, hempty, hnil.mpr ⟨rfl, rfl, rfl, rfl, _, rfl, hdiscover⟩⟩, ?_,
    ⟨_, hcairo, hcount.trans rfl⟩, ?_⟩
  · rw [hcode, if_pos (by simp [Report.cases_ofCases])]
  · rw [hcode', if_neg]
    rw [Report.cases_ofCases]
    decide

end GrammarCheck
