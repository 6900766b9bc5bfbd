import Mathlib.Data.List.TakeWhile

/-!
# The lines of a text

A reader tells the lines of a text apart by its line breaks. Lines that are written down one after
the other are read back as long as none of them holds a line break itself, whether the breaks stand
between the lines or after each of them.

* `Text.linesOf` — the lines of a text.
* `Text.linesOf_intercalate` — lines with breaks between them are read back.
* `Text.linesOf_line_append` — a line with a break after it is read before the rest.
* `Text.head?_linesOf` — the first line is what precedes the first break.
-/

namespace GrammarCheck.Text

/-- The lines of a text are what its line breaks separate. -/
def linesOf (s : String) : List String :=
  (s.toList.splitOn '\n').map String.ofList

/-- **Lines are read back.** A text that is made up of lines has these lines, if there is a line and
none of them holds a line break. -/
theorem linesOf_intercalate {lines : List String} (hlines : ∀ line ∈ lines, '\n' ∉ line.toList)
    (hne : lines ≠ []) : linesOf ("\n".intercalate lines) = lines := by
  -- on lists of characters a split undoes a join, as long as no line can be split by itself
  have htext : ("\n".intercalate lines).toList = ['\n'].intercalate (lines.map String.toList) :=
    String.toList_intercalate
  have hfree : ∀ l ∈ lines.map String.toList, '\n' ∉ l := by
    intro l hl
    obtain ⟨line, hline, rfl⟩ := List.mem_map.mp hl
    exact hlines line hline
  have hne' : lines.map String.toList ≠ [] := by
    rwa [Ne, List.map_eq_nil_iff]
  rw [linesOf, htext, List.splitOn_intercalate _ hfree hne', List.map_map]
  simp only [Function.comp_def, String.ofList_toList, List.map_id']

/-- A line that ends in a line break is read as it is, and then the rest. -/
theorem linesOf_line_append {line : String} (h : '\n' ∉ line.toList) (rest : String) :
    linesOf (line ++ "\n" ++ rest) = line :: linesOf rest := by
  have htext : (line ++ "\n" ++ rest).toList = line.toList ++ '\n' :: rest.toList := by
    rw [String.toList_append, String.toList_append, List.append_assoc]
    rfl
  have hfree : ∀ c ∈ line.toList, (c == '\n') = false := by
    intro c hc
    exact beq_eq_false_iff_ne.mpr fun heq => h (heq ▸ hc)
  rw [linesOf, htext, List.splitOn,
    List.splitOnP_append_cons_of_forall_mem hfree '\n' (beq_self_eq_true _), List.map_cons,
    String.ofList_toList]
  rfl

/-- The first line is what precedes the first line break. -/
theorem head?_linesOf (s : String) :
    (linesOf s).head? = some (String.ofList (s.toList.takeWhile (· ≠ '\n'))) := by
  have hchars : ∀ cs : List Char,
      (cs.splitOn '\n').head? = some (cs.takeWhile (· ≠ '\n')) := by
    intro cs
    induction cs with
    | nil => rfl
    | cons c cs ih =>
      rw [List.splitOn, List.splitOnP_cons_eq_if_modifyHead]
      by_cases hc : c = '\n'
      · simp [hc]
      · rw [if_neg (by simpa using hc), List.head?_modifyHead]
        rw [List.splitOn] at ih
        simp [ih, hc]
  rw [linesOf, List.head?_map, hchars, Option.map_some]

end GrammarCheck.Text
