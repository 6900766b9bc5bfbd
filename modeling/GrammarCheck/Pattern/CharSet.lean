import GrammarCheck.Text.Category
import GrammarCheck.Text.CaseContext
import GrammarCheck.Text.Folding
import GrammarCheck.Text.Layout

/-!
# Sets of characters

A pattern asks for one character out of a set. Sets are built from intervals of code points and from
general categories, and are told apart only by their members.

* `CharSet.has`: whether a set has a code point.
* `CharSet.digits`, `CharSet.spaces`, `CharSet.word`: the sets with letters of their own.
-/

namespace GrammarCheck.Pattern

/-- A set of code points, by how it is built. -/
inductive CharSet where
  | empty
  | interval (first last : Nat)
  | table (intervals : List (Nat × Nat))
  | category (g : Text.Category)
  | union (a b : CharSet)
  | inter (a b : CharSet)
  | diff (a b : CharSet)
  | compl (a : CharSet)
  | anyCase (a : CharSet)
  | anyAsciiCase (a : CharSet)
  deriving Repr, DecidableEq

namespace CharSet

/-- The letters of ASCII that are equal to a code point but for case. -/
def asciiVariants (n : Nat) : List Nat :=
  if n < 0x80 then (Text.caseVariants n).filter (· < 0x80) else [n]

/-- The set has the code point. A set in any case has all that are equal to a member but for
case. -/
def has (s : CharSet) (n : Nat) : Bool :=
  match s with
  | empty => false
  | interval first last => decide (first ≤ n) && decide (n ≤ last)
  | table intervals => Text.inIntervals intervals n
  | category g => g.has n
  | union a b => a.has n || b.has n
  | inter a b => a.has n && b.has n
  | diff a b => a.has n && !b.has n
  | compl a => !a.has n
  | anyCase a => (Text.caseVariants n).any fun m => a.has m
  | anyAsciiCase a => (asciiVariants n).any fun m => a.has m

/-- The set of one character. -/
def single (c : Char) : CharSet :=
  .interval c.toNat c.toNat

/-- All that is in one of the sets. -/
def unions (sets : List CharSet) : CharSet :=
  sets.foldr .union .empty

/-- All that is in exactly one of two sets. -/
def symmDiff (a b : CharSet) : CharSet :=
  .union (.diff a b) (.diff b a)

/-- The set of several categories. -/
def categories (gs : List Text.Category) : CharSet :=
  unions (gs.map .category)

/-- The set, or what it leaves out. -/
def negateIf (negated : Bool) (s : CharSet) : CharSet :=
  if negated then .compl s else s

/-! ### Sets of their own -/

/-- All code points. -/
def all : CharSet := .interval 0 0x10ffff

/-- The decimal digits. -/
def digits : CharSet := .category .decimalNumber

/-- White space. -/
def spaces : CharSet := .table Text.whiteSpaceIntervals

/-- What words are made of: letters, marks, decimal digits, letters that stand for numbers,
connectors, the two characters that join letters, and the letters in circles and squares. -/
def word : CharSet :=
  .union
    (.table [(0x200c, 0x200d), (0x24b6, 0x24e9), (0x1f130, 0x1f149), (0x1f150, 0x1f169),
      (0x1f170, 0x1f189)])
    (categories (Text.Category.letters ++ Text.Category.marks
      ++ [.decimalNumber, .letterNumber, .connectorPunctuation]))

/-- The decimal digits of ASCII. -/
def asciiDigits : CharSet := .interval 0x30 0x39

/-- The white space of ASCII. -/
def asciiSpaces : CharSet := .table [(0x09, 0x0d), (0x20, 0x20)]

/-- What words are made of in ASCII. -/
def asciiWord : CharSet := .table [(0x30, 0x39), (0x41, 0x5a), (0x5f, 0x5f), (0x61, 0x7a)]

end CharSet

end GrammarCheck.Pattern
