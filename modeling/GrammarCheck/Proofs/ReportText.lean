import GrammarCheck.Proofs.Lines
import GrammarCheck.Proofs.Tally
import Mathlib.Data.List.Forall2

/-!
# Reading the text of a report

The text of a report has a line for each case and a last one with the counts. The lines are written
one after the other with line breaks between them, so they can be told apart as long as nothing that
a case shows breaks its line. What a reader then takes from a line is what it begins with, and for a
case that has passed how it ends; and the lines that begin alike can be counted, whatever the report
says of its counts.

* `Case.line_eq` — the parts of the line of a case.
* `Status.marks_line_iff`, `Case.isSuffix_line_iff` — how a line begins, and how it ends.
* `Case.ShownBy` — what the line of a case shows.
* `Report.countP_marks_lines` — the lines that begin alike are as many as the cases of that status.
* `Report.text_shows` — the text of a report shows its cases and their numbers.
-/

namespace GrammarCheck

/-! ### Parts of lines -/

namespace Text

/-- A number does not break a line. -/
theorem newline_notMem_decimal (n : Nat) : '\n' ∉ (decimal n).toList := by
  intro h
  rw [decimal, String.toList_ofList] at h
  have hdigit := Nat.isDigit_of_mem_toDigits (by decide) (by decide) h
  exact absurd hdigit (by decide)

theorem isPrefix_append (s t : String) : s.toList <+: (s ++ t).toList := by
  rw [String.toList_append]
  exact List.prefix_append _ _

theorem isSuffix_append (s t : String) : t.toList <:+ (s ++ t).toList := by
  rw [String.toList_append]
  exact List.suffix_append _ _

end Text

/-! ### The line of a case -/

/-- What the line of a case begins with, in front of the name of the case. -/
def Status.mark : Status → String
  | passed => "PASS  "
  | failed => "FAIL  "
  | notRun => "SKIP  "

/-- The line begins with the mark of a status. -/
def Status.marks (s : Status) (line : String) : Bool :=
  s.mark.toList.isPrefixOf line.toList

namespace Case

/-- What the line of a case says after the name of the case. -/
def remark (c : Case) : String :=
  match c.status with
  | .passed =>
    " (ABI " ++ Text.decimal (c.abiVersion?.getD 0) ++ ", "
      ++ Text.decimal (c.nodeKindCount?.getD 0) ++ " node kinds)"
      ++ (c.sample?.map ParseSummary.verdict).getD ""
  | .failed =>
    ": " ++ c.message?.getD "" ++ (c.detail?.map fun detail => " (" ++ detail ++ ")").getD ""
  | .notRun => ""

/-- The line of a case is its mark, its name and the remark. -/
theorem line_eq (c : Case) : c.line = c.status.mark ++ c.name ++ c.remark := by
  unfold line remark
  cases c.status with
  | passed => simp only [Status.mark, String.append_assoc]
  | failed => simp only [Status.mark, String.append_assoc]
  | notRun => simp only [Status.mark, String.append_empty]

/-- Nothing that a case shows breaks its line. -/
structure OnOneLine (c : Case) : Prop where
  name : '\n' ∉ c.name.toList
  message : ∀ message ∈ c.message?, '\n' ∉ message.toList
  detail : ∀ detail ∈ c.detail?, '\n' ∉ detail.toList

instance (c : Case) : Decidable c.OnOneLine :=
  decidable_of_iff
    ('\n' ∉ c.name.toList ∧ (∀ message ∈ c.message?, '\n' ∉ message.toList) ∧
      ∀ detail ∈ c.detail?, '\n' ∉ detail.toList)
    ⟨fun h => ⟨h.1, h.2.1, h.2.2⟩, fun h => ⟨h.name, h.message, h.detail⟩⟩

theorem newline_notMem_remark {c : Case} (h : c.OnOneLine) : '\n' ∉ c.remark.toList := by
  unfold remark
  cases c.status with
  | passed =>
    -- what is shown of a passed case are numbers and words that are fixed
    have hverdict : '\n' ∉ ((c.sample?.map ParseSummary.verdict).getD "").toList := by
      cases c.sample? with
      | none => decide
      | some s =>
        simp only [Option.map_some, Option.getD_some, ParseSummary.verdict]
        split <;> decide
    simp only [String.toList_append, List.mem_append, not_or]
    refine ⟨⟨⟨⟨⟨?_, ?_⟩, ?_⟩, ?_⟩, ?_⟩, hverdict⟩
    · decide
    · exact Text.newline_notMem_decimal _
    · decide
    · exact Text.newline_notMem_decimal _
    · decide
  | failed =>
    have hmessage : '\n' ∉ (c.message?.getD "").toList := by
      cases hc : c.message? with
      | none => decide
      | some message => exact h.message message hc
    have hdetail : '\n' ∉ ((c.detail?.map fun detail => " (" ++ detail ++ ")").getD "").toList := by
      cases hc : c.detail? with
      | none => decide
      | some detail =>
        simp only [Option.map_some, Option.getD_some, String.toList_append, List.mem_append, not_or]
        refine ⟨⟨?_, h.detail detail hc⟩, ?_⟩ <;> decide
    simp only [String.toList_append, List.mem_append, not_or]
    refine ⟨⟨?_, hmessage⟩, hdetail⟩
    decide
  | notRun => exact List.not_mem_nil

theorem newline_notMem_line {c : Case} (h : c.OnOneLine) : '\n' ∉ c.line.toList := by
  have hmark : '\n' ∉ c.status.mark.toList := by
    cases c.status <;> decide
  simp only [line_eq, String.toList_append, List.mem_append, not_or]
  exact ⟨⟨hmark, h.name⟩, newline_notMem_remark h⟩

/-! ### How a line begins -/

theorem start_isPrefix_line (c : Case) :
    (c.status.mark ++ c.name).toList <+: c.line.toList := by
  rw [line_eq]
  exact Text.isPrefix_append _ _

end Case

theorem Status.mark_injective : Function.Injective Status.mark := by
  intro s t h
  cases s <;> cases t <;> simp_all [mark]

/-- No mark is the beginning of another one. -/
theorem Status.eq_of_mark_isPrefix {s t : Status} (h : s.mark.toList <+: t.mark.toList) :
    s = t := by
  -- marks are of one length, so one that is the beginning of another is all of it
  have hlength : ∀ s : Status, s.mark.toList.length = 6 := by
    intro s
    cases s <;> rfl
  have hmark : s.mark.toList = t.mark.toList :=
    h.eq_of_length ((hlength s).trans (hlength t).symm)
  exact mark_injective (String.toList_inj.mp hmark)

/-- **Marks.** The line of a case begins with the mark of its status, and of no other one, whatever
the case is called. -/
theorem Status.marks_line_iff {s : Status} {c : Case} : s.marks c.line = true ↔ c.status = s := by
  have hown : c.status.mark.toList <+: c.line.toList :=
    (Text.isPrefix_append _ _).trans c.start_isPrefix_line
  rw [marks, List.isPrefixOf_iff_prefix]
  constructor
  · intro h
    -- of two beginnings of one line, one is the beginning of the other
    rcases List.prefix_or_prefix_of_prefix h hown with hle | hle
    · exact (eq_of_mark_isPrefix hle).symm
    · exact eq_of_mark_isPrefix hle
  · rintro rfl
    exact hown

/-! ### How a line ends -/

namespace Case

/-- How the line of a case ends if the case has passed. -/
def ending (c : Case) : String :=
  (c.sample?.map ParseSummary.verdict).getD " node kinds)"

/-- The last words of a line that tells of a sample, with errors or without. -/
def lastWords (hasError : Bool) : String :=
  if hasError then ", sample has syntax errors" else ", sample ok"

/-- The ways in which the line of a passed case may end. -/
def endings : List String :=
  [" node kinds)", lastWords false, lastWords true]

theorem ending_mem_endings (c : Case) : c.ending ∈ endings := by
  unfold ending
  cases c.sample? with
  | none => exact List.mem_cons_self ..
  | some s =>
    have hwords : ∀ hasError, lastWords hasError ∈ endings := by decide
    exact hwords s.hasError

/-- None of the endings is the end of another one. -/
theorem eq_of_endings_isSuffix :
    ∀ w ∈ endings, ∀ w' ∈ endings, w.toList <:+ w'.toList → w = w' := by
  decide

theorem ending_isSuffix_line {c : Case} (hpassed : c.status = .passed) :
    c.ending.toList <:+ c.line.toList := by
  unfold ending line
  rw [hpassed]
  cases c.sample? with
  | none =>
    simp only [Option.map_none, Option.getD_none, String.append_empty]
    exact Text.isSuffix_append _ _
  | some s =>
    simp only [Option.map_some, Option.getD_some]
    exact Text.isSuffix_append _ _

/-- **Endings.** The line of a passed case ends in one of the three ways only. -/
theorem isSuffix_line_iff {c : Case} (hpassed : c.status = .passed) {w : String}
    (hw : w ∈ endings) : w.toList <:+ c.line.toList ↔ c.ending = w := by
  have hown := ending_isSuffix_line hpassed
  constructor
  · intro h
    -- of two ends of one line, one is the end of the other
    rcases List.suffix_or_suffix_of_suffix h hown with hle | hle
    · exact (eq_of_endings_isSuffix w hw _ c.ending_mem_endings hle).symm
    · exact eq_of_endings_isSuffix _ c.ending_mem_endings w hw hle
  · rintro rfl
    exact hown

/-- The last words tell of a sample exactly if there is one, and whether it has errors. -/
theorem ending_eq_lastWords_iff {c : Case} {hasError : Bool} :
    c.ending = lastWords hasError ↔ ∃ s, c.sample? = some s ∧ s.hasError = hasError := by
  unfold ending
  cases c.sample? with
  | none =>
    -- without a sample the line ends with the node kinds
    have hkinds : ∀ hasError, " node kinds)" ≠ lastWords hasError := by decide
    exact iff_of_false (hkinds hasError) nofun
  | some s =>
    have hinj : ∀ b b', lastWords b = lastWords b' → b = b' := by decide
    constructor
    · intro h
      exact ⟨s, rfl, hinj _ _ h⟩
    · rintro ⟨s', hs, rfl⟩
      rw [← Option.some.inj hs]
      rfl

/-- **The sample in a line.** -/
theorem lastWords_isSuffix_line_iff {c : Case} (hpassed : c.status = .passed) (hasError : Bool) :
    (lastWords hasError).toList <:+ c.line.toList ↔
      ∃ s, c.sample? = some s ∧ s.hasError = hasError := by
  have hmem : lastWords hasError ∈ endings := by
    cases hasError <;> decide
  rw [isSuffix_line_iff hpassed hmem, ending_eq_lastWords_iff]

/-- **What the line of a case shows:** the mark of its status and its name; and if the case has
passed, in the last words, what became of the sample. -/
structure ShownBy (c : Case) (line : String) : Prop where
  starts : (c.status.mark ++ c.name).toList <+: line.toList
  ok_iff : c.status = .passed →
    (", sample ok".toList <:+ line.toList ↔ ∃ s, c.sample? = some s ∧ s.hasError = false)
  errors_iff : c.status = .passed →
    (", sample has syntax errors".toList <:+ line.toList ↔
      ∃ s, c.sample? = some s ∧ s.hasError = true)

theorem shownBy_line (c : Case) : c.ShownBy c.line := by
  constructor
  case starts => exact c.start_isPrefix_line
  case ok_iff => exact fun hpassed => lastWords_isSuffix_line_iff hpassed false
  case errors_iff => exact fun hpassed => lastWords_isSuffix_line_iff hpassed true

end Case

/-! ### The lines of a report -/

namespace Report

/-- **The lines of a report are read back** from its text. -/
theorem linesOf_text {r : Report} (h : ∀ c ∈ r.cases, c.OnOneLine) :
    Text.linesOf r.text = r.lines := by
  have htotals : '\n' ∉ r.totals.toList := by
    simp only [totals, String.toList_append, List.mem_append, not_or]
    refine ⟨⟨⟨Text.newline_notMem_decimal _, ?_⟩, Text.newline_notMem_decimal _⟩, ?_⟩ <;> decide
  refine Text.linesOf_intercalate ?_ (List.append_ne_nil_of_right_ne_nil _ (List.cons_ne_nil _ _))
  intro line hline
  rcases List.mem_append.mp hline with hcase | hlast
  · obtain ⟨c, hc, rfl⟩ := List.mem_map.mp hcase
    exact Case.newline_notMem_line (h c hc)
  · rwa [List.mem_singleton.mp hlast]

theorem linesOf_text_ofCases {cs : List Case} (h : ∀ c ∈ cs, c.OnOneLine) :
    Text.linesOf (ofCases cs).text = (ofCases cs).lines := by
  refine linesOf_text fun c hc => h c ?_
  rwa [cases_ofCases] at hc

/-- The last line begins with a digit, so it has no mark. -/
theorem marks_totals (s : Status) (r : Report) : s.marks r.totals = false := by
  -- a mark begins with a letter, and the line with the digits of a number
  obtain ⟨m, mark, hmark, hm⟩ : ∃ m mark, s.mark.toList = m :: mark ∧ m.isDigit = false := by
    cases s <;> exact ⟨_, _, rfl, rfl⟩
  obtain ⟨d, digits, hdigits⟩ : ∃ d digits, Nat.toDigits 10 r.passed = d :: digits :=
    List.exists_cons_of_ne_nil Nat.toDigits_ne_nil
  have hd : d.isDigit = true :=
    Nat.isDigit_of_mem_toDigits (by decide) (by decide) (hdigits ▸ List.mem_cons_self ..)
  rw [Status.marks, Bool.eq_false_iff, ne_eq, List.isPrefixOf_iff_prefix, hmark]
  simp only [totals, Text.decimal, String.toList_append, String.toList_ofList, hdigits,
    List.cons_append, List.cons_prefix_cons]
  rintro ⟨rfl, -⟩
  exact Bool.false_ne_true (hm.symm.trans hd)

/-- **Counting lines.** The lines that begin with a mark are as many as the cases of its status. -/
theorem countP_marks_lines (s : Status) (r : Report) :
    r.lines.countP s.marks = r.cases.countP (·.status = s) := by
  have hcases : (r.cases.map Case.line).countP s.marks = r.cases.countP (·.status = s) := by
    rw [List.countP_map]
    refine List.countP_congr fun c _ => ?_
    rw [Function.comp_apply, Status.marks_line_iff, decide_eq_true_eq]
  rw [lines, List.countP_append, hcases, List.countP_singleton, marks_totals]
  rfl

/-- **The text of a report is faithful.** Whatever cases are pushed to the empty report, as long as
none of them shows a line break, the lines of the text are one for each case, in order, and a last
one. The line of a case begins with its status and its name, and if the case has passed it ends with
what became of the sample, if there is one. The last line gives two numbers, which are those of the
lines that begin like that of a passed case, and of those that begin like that of a failed one. -/
theorem text_shows (cs : List Case) (h : ∀ c ∈ cs, c.OnOneLine) :
    let lines := Text.linesOf (empty.pushAll cs).text
    ∃ shown last, lines = shown ++ [last] ∧
      List.Forall₂ Case.ShownBy cs shown ∧
      last = Text.decimal (lines.countP Status.passed.marks) ++ " passed, " ++
        Text.decimal (lines.countP Status.failed.marks) ++ " failed" := by
  intro lines
  have hlines : lines = (ofCases cs).lines := linesOf_text_ofCases h
  refine ⟨cs.map Case.line, (ofCases cs).totals, ?_, ?_, ?_⟩
  · rw [hlines, Report.lines, cases_ofCases]
  · rw [List.forall₂_map_right_iff, List.forall₂_same]
    exact fun c _ => c.shownBy_line
  · -- the counts are those of the cases, and so are the lines
    rw [hlines, countP_marks_lines, countP_marks_lines, cases_ofCases, totals, passed_ofCases,
      failed_ofCases]

/-- Cases that are called what the lines of other cases begin with, or end with. -/
private def misleadingCases : List Case :=
  [{ name := "FAIL  c", status := .passed, abiVersion? := some 14, nodeKindCount? := some 3 },
   { name := "go", status := .failed, message? := some "PASS  go", detail? := some ", sample ok" },
   { name := "PASS  " },
   { name := "c, sample ok", status := .passed, sample? := some ⟨"source_file", true, none, 2⟩ }]

/-- What the cases are called misleads nobody: two have passed, and one has failed. -/
theorem text_shows_misleadingCases :
    let lines := Text.linesOf (empty.pushAll misleadingCases).text
    (∀ c ∈ misleadingCases, c.OnOneLine) ∧
    ∃ shown, lines = shown ++ ["2 passed, 1 failed"] ∧
      List.Forall₂ Case.ShownBy misleadingCases shown := by
  intro lines
  have hcases : ∀ c ∈ misleadingCases, c.OnOneLine := by
    decide
  obtain ⟨shown, last, hlines, hshown, hlast⟩ := text_shows misleadingCases hcases
  have hcounts : ∀ s : Status, lines.countP s.marks = misleadingCases.countP (·.status = s) := by
    intro s
    have hread : lines = (ofCases misleadingCases).lines := linesOf_text_ofCases hcases
    rw [hread, countP_marks_lines, cases_ofCases]
  rw [hcounts, hcounts] at hlast
  obtain rfl : last = "2 passed, 1 failed" := hlast.trans (by decide)
  exact ⟨hcases, shown, hlines, hshown⟩

end Report

end GrammarCheck
