import GrammarCheck.Pattern.Matcher
import GrammarCheck.Pattern.Runs

/-!
# The room that a pattern takes

Before a search, a matcher is laid out in steps that each take one byte of a text, from the last
byte of a character back to its first; what is repeated is laid out as often as it is counted. The
room for that is limited.

* `pieces`: an interval of characters, cut so that the bytes of a piece do not depend on each other.
* `CharSet.room`, `Matcher.room`: the room of a set and of a matcher, in bytes.
-/

namespace GrammarCheck.Pattern

/-- The room of one step. -/
def stepRoom : Nat := 32

/-- The room of a link from one step to several. -/
def linkRoom : Nat := 4

/-! ### Pieces -/

/-- The last code points of one, two and three bytes, and those before and at the end of the
surrogates. -/
def borders : List Nat := [0x7f, 0x7ff, 0xd7ff, 0xdfff, 0xffff]

/-- The sizes of the blocks of characters that differ only in their last one, two or three bytes.
Each byte after the first takes six bits. -/
def blocks : List Nat := [1 <<< 6, 1 <<< 12, 1 <<< 18]

/-- The code point after which an interval is cut: at a border, else at the first start or the last
end of a block within it. -/
def cutAfter? (first last : Nat) : Option Nat :=
  (borders.find? fun b => decide (first ≤ b) && decide (b < last)) <|>
    blocks.findSome? fun block =>
      if last ≤ 0x7f ∨ first / block = last / block then none
      else if first % block ≠ 0 then some ((first / block + 1) * block - 1)
      else if last % block ≠ block - 1 then some (last / block * block - 1)
      else none

/-- The pieces of an interval. -/
def pieces (first last : Nat) : List (Nat × Nat) :=
  match cutAfter? first last with
  | none => [(first, last)]
  | some cut =>
    if first ≤ cut ∧ cut < last then pieces first cut ++ pieces (cut + 1) last
    else [(first, last)]
termination_by last - first

/-- The intervals of the bytes of a piece, from the first byte on. Surrogates have none. -/
def byteIntervals (piece : Nat × Nat) : List (UInt8 × UInt8) :=
  if 0xd800 ≤ piece.1 ∧ piece.1 ≤ 0xdfff then []
  else
    (String.utf8EncodeChar (Char.ofNat piece.1)).zip
      (String.utf8EncodeChar (Char.ofNat piece.2))

/-! ### Sets -/

/-- The number of entries of the second list after what it has in common with the first. -/
def unshared [DecidableEq α] : List α → List α → Nat
  | x :: xs, y :: ys => if x = y then unshared xs ys else ys.length + 1
  | _, ys => ys.length

/-- The number of steps for lists in order, of which neighbours share what they begin with. -/
def sharedSteps [DecidableEq α] (before : List α) : List (List α) → Nat
  | [] => 0
  | l :: rest => unshared before l + sharedSteps l rest

/-- The room of runs that go beyond ASCII. -/
def Runs.room (rs : Runs) : Nat :=
  let laidOut := (rs.flatMap fun r => (pieces r.1 r.2).map byteIntervals).filter (· ≠ [])
  stepRoom * (2 + sharedSteps [] laidOut) + linkRoom * laidOut.length

/-- The room of a set. One character takes a step for each of its bytes, and a set in ASCII one step
for all of it. -/
def CharSet.room (s : CharSet) : Nat :=
  match s.runs with
  | [] => stepRoom
  | rs@(r :: rest) =>
    if rest = [] ∧ r.1 = r.2 then stepRoom * (byteIntervals r).length
    else if rs.all fun r => r.2 ≤ 0x7f then 2 * stepRoom + 2 * linkRoom * rs.length
    else rs.room

/-! ### Matchers -/

/-- The matcher matches nothing but the empty text. -/
def Matcher.isEmptyOnly : Matcher → Bool
  | empty => true
  | one _ => false
  | look _ => true
  | seq a b => a.isEmptyOnly && b.isEmptyOnly
  | either a b => a.isEmptyOnly && b.isEmptyOnly
  | repetition _ most? m => most? == some 0 || m.isEmptyOnly
  | capture m => m.isEmptyOnly

/-- The room of a matcher. The empty text takes none, and what matches it alone is laid out once at
most. -/
def Matcher.room : Matcher → Nat
  | empty => 0
  | one s => s.room
  | look _ => stepRoom
  | seq a b => a.room + b.room
  | either a b => a.room + b.room + stepRoom + linkRoom
  | repetition least most? m =>
    let branch := stepRoom + 2 * linkRoom
    let cap (n : Nat) : Nat := if m.isEmptyOnly then min n 1 else n
    match most? with
    | some most => cap most * m.room + (cap most - cap least) * branch
    | none => cap (max least 1) * m.room + branch
  | capture m => m.room + 2 * stepRoom

/-- The room for what is around a pattern: a search that starts anywhere, and its end. -/
def frameRoom : Nat := 6 * stepRoom + 4 * linkRoom

/-- The room that there is. -/
def roomLimit : Nat := 10485760

/-- There is room for the matcher. -/
def Matcher.fits (m : Matcher) : Bool :=
  m.room + frameRoom ≤ roomLimit

end GrammarCheck.Pattern
