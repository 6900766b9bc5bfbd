import GrammarCheck.Text.CaseContext

/-!
# Columns and white space

* `padRight`: a text widened to a column.
* `hangingIndent`: a text with all its lines but the first moved to a column.
* `trim`: a text without the white space at its ends.
* `cut?`: what precedes and what follows the first occurrence of a character.
-/

namespace GrammarCheck.Text

/-- The text with spaces after it, up to a width in characters. A longer text is not cut. -/
def padRight (width : Nat) (s : String) : String :=
  s ++ String.ofList (List.replicate (width - s.length) ' ')

/-- The text with every line after the first moved to the right by a number of spaces. -/
def hangingIndent (width : Nat) (s : String) : String :=
  String.ofList
    (s.toList.flatMap fun c => if c = '\n' then c :: List.replicate width ' ' else [c])

/-- The intervals of white space: what separates words and lines in any script. -/
def whiteSpaceIntervals : List (Nat × Nat) :=
  [(0x0009, 0x000d), (0x0020, 0x0020), (0x0085, 0x0085), (0x00a0, 0x00a0), (0x1680, 0x1680),
   (0x2000, 0x200a), (0x2028, 0x2029), (0x202f, 0x202f), (0x205f, 0x205f), (0x3000, 0x3000)]

/-- The character is white space. -/
def isWhiteSpace (c : Char) : Bool :=
  inIntervals whiteSpaceIntervals c.toNat

/-- The text without the white space at its start and end. -/
def trim (s : String) : String :=
  String.ofList ((s.toList.dropWhile isWhiteSpace).reverse.dropWhile isWhiteSpace).reverse

/-- What precedes and what follows the first occurrence of a character in a text. -/
def cut? (separator : Char) (s : String) : Option (String × String) :=
  match s.toList.dropWhile (· ≠ separator) with
  | [] => none
  | _ :: after => some (String.ofList (s.toList.takeWhile (· ≠ separator)), String.ofList after)

end GrammarCheck.Text
