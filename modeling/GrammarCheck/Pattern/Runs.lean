import GrammarCheck.Pattern.CharSet

/-!
# Sets of characters as runs

A set of code points consists of runs: intervals in ascending order that neither overlap nor touch.

* `Runs.ofIntervals`: the runs of what lies in some interval of a list.
* `CharSet.runs`: the runs of a set.
-/

namespace GrammarCheck.Pattern

/-- Closed intervals of code points, by their first and their last one. -/
abbrev Runs := List (Nat × Nat)

namespace Runs

/-- Runs with an interval before them that starts no later. What it overlaps or touches becomes one
run with it. -/
def join (i : Nat × Nat) : Runs → Runs
  | [] => [i]
  | r :: rest => if r.1 ≤ i.2 + 1 then join (i.1, max i.2 r.2) rest else i :: r :: rest

/-- The runs of what lies in some interval of a list. -/
def ofIntervals (intervals : List (Nat × Nat)) : Runs :=
  (intervals.mergeSort fun a b => a.1 ≤ b.1).foldr join []

/-- The last code point. -/
def lastCodePoint : Nat := 0x10ffff

/-- The runs of what is left out from `start` on. -/
def gapsFrom (start : Nat) : Runs → Runs
  | [] => if start ≤ lastCodePoint then [(start, lastCodePoint)] else []
  | r :: rest =>
    if start < r.1 then (start, r.1 - 1) :: gapsFrom (r.2 + 1) rest else gapsFrom (r.2 + 1) rest

/-- The runs of what is left out. -/
def compl (a : Runs) : Runs := gapsFrom 0 a

/-- The runs of what is in one of two. -/
def union (a b : Runs) : Runs := ofIntervals (a ++ b)

/-- The runs of what is in both of two. -/
def inter (a b : Runs) : Runs := compl (union (compl a) (compl b))

/-- The code points that are equal to others but for case. -/
def withVariants : List Nat :=
  Text.foldRanges.flatMap fun r =>
    (List.range (r.last + 1 - r.first)).flatMap fun k =>
      if r.covers (r.first + k) then [r.first + k, r.image (r.first + k)] else []

/-- The runs with all that a member has for variants. -/
def withAll (variants : Nat → List Nat) (a : Runs) : Runs :=
  union a
    (((withVariants.filter (Text.inIntervals a)).flatMap variants).map fun n => (n, n))

end Runs

/-- The intervals of a stretch. -/
def stretchIntervals (s : Text.Stretch) : List (Nat × Nat) :=
  if s.step = 1 then [(s.first, s.last)]
  else
    ((List.range (s.last + 1 - s.first)).filter fun k => s.covers (s.first + k)).map fun k =>
      (s.first + k, s.first + k)

/-- The runs of a general category. -/
def categoryRuns (g : Text.Category) : Runs :=
  let ofCategories (gs : List Text.Category) : Runs :=
    Runs.ofIntervals (gs.flatMap fun g => g.stretches.flatMap stretchIntervals)
  match g with
  | .unassigned => (ofCategories Text.Category.assigned).compl
  | g => ofCategories [g]

/-- The runs of a set. -/
def CharSet.runs : CharSet → Runs
  | empty => []
  | interval first last => if first ≤ last then [(first, last)] else []
  | table intervals => .ofIntervals intervals
  | category g => categoryRuns g
  | union a b => a.runs.union b.runs
  | inter a b => a.runs.inter b.runs
  | diff a b => a.runs.inter b.runs.compl
  | compl a => a.runs.compl
  | anyCase a => a.runs.withAll Text.caseVariants
  | anyAsciiCase a => a.runs.withAll asciiVariants

end GrammarCheck.Pattern
