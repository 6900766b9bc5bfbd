import GrammarCheck.Text.Numeral

/-!
# What is wrong with a pattern

A pattern that cannot be read is shown with marks under the part that is at fault. If the pattern
has several lines, the lines are numbered and stand between two rules.

* `Fault`: what can be wrong.
* `Problem`: a fault and the part of the pattern it is in.
* `Problem.report`: how a problem is shown.
-/

namespace GrammarCheck.Pattern

/-- A part of a pattern, from the place of its first character to the place after its last one. -/
structure Span where
  start : Nat
  stop : Nat
  deriving Repr, DecidableEq

/-- What can be wrong with a pattern. -/
inductive Fault where
  | classEscapeInvalid
  | classRangeInvalid
  | classRangeLiteral
  | classUnclosed
  | decimalEmpty
  | decimalInvalid
  | escapeHexEmpty
  | escapeHexInvalid
  | escapeHexInvalidDigit
  | escapeUnexpectedEnd
  | escapeUnrecognized
  | flagDanglingNegation
  | flagDuplicate
  | flagRepeatedNegation
  | flagUnexpectedEnd
  | flagUnrecognized
  | groupNameDuplicate
  | groupNameEmpty
  | groupNameInvalid
  | groupNameUnexpectedEnd
  | groupUnclosed
  | groupUnopened
  | nestedTooDeep
  | repetitionCountInvalid
  | repetitionCountEmpty
  | repetitionCountUnclosed
  | repetitionMissing
  | wordBoundaryUnclosed
  | wordBoundaryUnrecognized
  | wordBoundaryUnexpectedEnd
  | propertyInvalid
  | backreference
  | lookAround
  | unicodeNotAllowed
  | invalidUtf8
  | propertyNotFound
  | propertyValueNotFound
  deriving Repr, DecidableEq

/-- How deep groups, classes, repetitions, sequences and alternatives may be nested. -/
def nestLimit : Nat := 250

/-- The text of a fault. -/
def Fault.message : Fault → String
  | classEscapeInvalid => "invalid escape sequence found in character class"
  | classRangeInvalid => "invalid character class range, the start must be <= the end"
  | classRangeLiteral => "invalid range boundary, must be a literal"
  | classUnclosed => "unclosed character class"
  | decimalEmpty => "decimal literal empty"
  | decimalInvalid => "decimal literal invalid"
  | escapeHexEmpty => "hexadecimal literal empty"
  | escapeHexInvalid => "hexadecimal literal is not a Unicode scalar value"
  | escapeHexInvalidDigit => "invalid hexadecimal digit"
  | escapeUnexpectedEnd =>
    "incomplete escape sequence, reached end of pattern prematurely"
  | escapeUnrecognized => "unrecognized escape sequence"
  | flagDanglingNegation => "dangling flag negation operator"
  | flagDuplicate => "duplicate flag"
  | flagRepeatedNegation => "flag negation operator repeated"
  | flagUnexpectedEnd => "expected flag but got end of regex"
  | flagUnrecognized => "unrecognized flag"
  | groupNameDuplicate => "duplicate capture group name"
  | groupNameEmpty => "empty capture group name"
  | groupNameInvalid => "invalid capture group character"
  | groupNameUnexpectedEnd => "unclosed capture group name"
  | groupUnclosed => "unclosed group"
  | groupUnopened => "unopened group"
  | nestedTooDeep =>
    "exceed the maximum number of nested parentheses/brackets (" ++ Text.decimal nestLimit ++ ")"
  | repetitionCountInvalid =>
    "invalid repetition count range, the start must be <= the end"
  | repetitionCountEmpty => "repetition quantifier expects a valid decimal"
  | repetitionCountUnclosed => "unclosed counted repetition"
  | repetitionMissing => "repetition operator missing expression"
  | wordBoundaryUnclosed =>
    "special word boundary assertion is either unclosed or contains an invalid character"
  | wordBoundaryUnrecognized =>
    "unrecognized special word boundary assertion, valid choices are: start, end, start-half or "
      ++ "end-half"
  | wordBoundaryUnexpectedEnd =>
    "found either the beginning of a special word boundary or a bounded repetition on a \\b with "
      ++ "an opening brace, but no closing brace"
  | propertyInvalid => "invalid Unicode character class"
  | backreference => "backreferences are not supported"
  | lookAround => "look-around, including look-ahead and look-behind, is not supported"
  | unicodeNotAllowed => "Unicode not allowed here"
  | invalidUtf8 => "pattern can match invalid UTF-8"
  | propertyNotFound => "Unicode property not found"
  | propertyValueNotFound => "Unicode property value not found"

/-- A fault and the part of the pattern it is in. Some faults are in a part because of an earlier
one. -/
structure Problem where
  fault : Fault
  span : Span
  earlier? : Option Span := none
  deriving Repr, DecidableEq

/-! ### Lines and columns -/

/-- The number of the line of a place, from zero. -/
def lineOf (pattern : List Char) (place : Nat) : Nat :=
  (pattern.take place).count '\n'

/-- The column of a place in its line, from zero. -/
def columnOf (pattern : List Char) (place : Nat) : Nat :=
  ((pattern.take place).reverse.takeWhile (· ≠ '\n')).length

/-- The part is on one line. -/
def Span.isOnOneLine (pattern : List Char) (s : Span) : Bool :=
  lineOf pattern s.start == lineOf pattern s.stop

/-- The lines of a pattern as they are shown: a line break at the end begins no line, and a return
before a line break belongs to it. -/
def shownLines (pattern : List Char) : List (List Char) :=
  let lines := pattern.splitOn '\n'
  let last := lines.getLastD []
  (lines.dropLast.map fun line => if line.getLast? = some '\r' then line.dropLast else line)
    ++ (if last = [] then [] else [last])

/-! ### The report -/

/-- The order in which parts are marked. -/
def Span.before (a b : Span) : Bool :=
  decide (a.start < b.start) || a.start == b.start && decide (a.stop ≤ b.stop)

/-- The parts that a problem marks, in order. -/
def Problem.spans (p : Problem) : List Span :=
  match p.earlier? with
  | none => [p.span]
  | some e => if p.span.before e then [p.span, e] else [e, p.span]

/-- Marks under parts of one line. `column` is where the marks have come to. -/
def marksFrom (pattern : List Char) (column : Nat) : List Span → List Char
  | [] => []
  | s :: rest =>
    let start := columnOf pattern s.start
    let width := max 1 (columnOf pattern s.stop - start)
    List.replicate (start - column) ' ' ++ List.replicate width '^'
      ++ marksFrom pattern (max column start + width) rest

/-- The width of the line numbers. A pattern on one line has none. -/
def numberWidth (pattern : List Char) : Nat :=
  let lines := (shownLines pattern).length + if pattern.getLast? = some '\n' then 1 else 0
  if lines ≤ 1 then 0 else (Text.decimal lines).length

/-- A line number before its line, or the indent of a pattern without line numbers. -/
def lineLabel (width number : Nat) : String :=
  if width = 0 then "    "
  else
    let digits := Text.decimal number
    String.ofList (List.replicate (width - digits.length) ' ') ++ digits ++ ": "

/-- A line of the pattern, with the marks under it if any part on it is at fault. -/
def Problem.lineWithMarks (p : Problem) (pattern : List Char) (index : Nat) (line : List Char) :
    String :=
  let width := numberWidth pattern
  let spans := p.spans.filter fun s => s.isOnOneLine pattern && lineOf pattern s.start == index
  let indent := if width = 0 then 4 else width + 2
  lineLabel width (index + 1) ++ String.ofList line ++ "\n"
    ++ (if spans = [] then ""
        else String.ofList (List.replicate indent ' ' ++ marksFrom pattern 0 spans) ++ "\n")

/-- All lines of the pattern, with marks. -/
def Problem.marked (p : Problem) (pattern : List Char) : String :=
  String.join ((shownLines pattern).mapIdx (p.lineWithMarks pattern))

/-- Where a part that goes over several lines starts and ends. -/
def Span.extent (pattern : List Char) (s : Span) : String :=
  "on line " ++ Text.decimal (lineOf pattern s.start + 1)
    ++ " (column " ++ Text.decimal (columnOf pattern s.start + 1)
    ++ ") through line " ++ Text.decimal (lineOf pattern s.stop + 1)
    ++ " (column " ++ Text.decimal (columnOf pattern s.stop) ++ ")"

/-- The rule above and below a pattern of several lines. -/
def rule : String :=
  String.ofList (List.replicate 79 '~') ++ "\n"

/-- How a problem of a pattern is shown. -/
def Problem.report (p : Problem) (pattern : List Char) : String :=
  "regex parse error:\n"
    ++ (if '\n' ∈ pattern then
          let long := p.spans.filter fun s => !s.isOnOneLine pattern
          rule ++ p.marked pattern ++ rule
            ++ (if long = [] then ""
                else "\n".intercalate (long.map (Span.extent pattern)) ++ "\n")
        else p.marked pattern)
    ++ "error: " ++ p.fault.message

end GrammarCheck.Pattern
