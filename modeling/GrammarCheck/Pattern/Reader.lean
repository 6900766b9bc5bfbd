import GrammarCheck.Pattern.Expression
import GrammarCheck.Text.Layout

/-!
# Reading along a pattern

A pattern is read from left to right, one character at a time. In a spaced pattern white space and
comments between the parts are passed over; a comment goes from a number sign to the end of its
line.

* `Reader`: how far a pattern is read.
* `Read`: steps of reading, which may meet a problem.
-/

namespace GrammarCheck.Pattern

/-- How far a pattern is read: what is left of it, the place of the first character left, whether
the pattern is spaced, and the groups named so far. -/
structure Reader where
  rest : List Char
  place : Nat := 0
  spaced : Bool := false
  names : List (String × Span) := []

/-- A step of reading. -/
abbrev Read := StateT Reader (Except Problem)

namespace Read

/-- Reading stops at a problem with a part of the pattern. -/
def fail (fault : Fault) (start stop : Nat) : Read α :=
  throw { fault, span := ⟨start, stop⟩ }

/-- The place of the character that comes next. -/
def place : Read Nat := return (← get).place

/-- The character that comes next. -/
def next? : Read (Option Char) := return (← get).rest.head?

/-- The pattern is read to its end. -/
def atEnd : Read Bool := return (← get).rest.isEmpty

/-- The pattern goes on with the given characters. -/
def goesOnWith (cs : List Char) : Read Bool := return cs.isPrefixOf (← get).rest

/-- The reader that is `n` characters further on. -/
def advance (n : Nat) : Read Unit :=
  modify fun r => { r with rest := r.rest.drop n, place := r.place + min n r.rest.length }

/-- Passes over one character. The answer is whether another one follows. -/
def step : Read Bool := do
  advance 1
  return !(← atEnd)

/-- The number of characters of white space and comments that a text begins with. -/
def spaceLength (inComment : Bool) : List Char → Nat
  | [] => 0
  | c :: rest =>
    if inComment then 1 + spaceLength (c != '\n') rest
    else if Text.isWhiteSpace c then 1 + spaceLength false rest
    else if c = '#' then 1 + spaceLength true rest
    else 0

/-- Passes over white space and comments if the pattern is spaced. -/
def skipSpace : Read Unit := do
  let r ← get
  if r.spaced then advance (spaceLength false r.rest)

/-- Passes over one character and the white space after it. The answer is whether another character
follows. -/
def stepOverSpace : Read Bool := do
  if ← step then
    skipSpace
    return !(← atEnd)
  else return false

/-- Passes over the given characters if the pattern goes on with them. -/
def stepIf (cs : List Char) : Read Bool := do
  if ← goesOnWith cs then
    advance cs.length
    return true
  else return false

/-- The character after the next one, past white space and the sign of a comment if the pattern is
spaced. -/
def secondPastSpace? : Read (Option Char) := do
  let r ← get
  let after := r.rest.tail
  if !r.spaced then return after.head?
  else
    match after.dropWhile Text.isWhiteSpace with
    | '#' :: comment => return (comment.dropWhile Text.isWhiteSpace).head? <|> after.head?
    | c :: _ => return some c
    | [] => return after.head?

/-- Reads characters as long as they are of a kind. With `overSpace` the space after each is passed
over. `fuel` bounds their number. -/
def takeWhile (kind : Char → Bool) (overSpace : Bool) : Nat → Read (List Char)
  | 0 => return []
  | fuel + 1 => do
    match ← next? with
    | some c =>
      if kind c then
        if overSpace then discard stepOverSpace else discard step
        return c :: (← takeWhile kind overSpace fuel)
      else return []
    | none => return []

/-- A bound for the number of characters that can still be read. -/
def fuel : Read Nat := return (← get).rest.length + 1

/-- The value of digits in a base up to sixteen. -/
def valueOf (base : Nat) (digits : List Char) : Nat :=
  digits.foldl
    (fun n c =>
      let d :=
        if c.isDigit then c.toNat - '0'.toNat
        else c.toLower.toNat - 'a'.toNat + 10
      n * base + d)
    0

/-- Reads a decimal number with white space around it. A number that is missing or has more than
thirty-two bits is a problem that the reader may pass by. -/
def decimal : Read (Except Problem Nat) := do
  discard (takeWhile Text.isWhiteSpace false (← fuel))
  let start ← place
  let digits ← takeWhile Char.isDigit true (← fuel)
  let stop ← place
  discard (takeWhile Text.isWhiteSpace true (← fuel))
  if digits = [] then return .error { fault := .decimalEmpty, span := ⟨start, stop⟩ }
  else
    let n := valueOf 10 digits
    if n < UInt32.size then return .ok n
    else return .error { fault := .decimalInvalid, span := ⟨start, stop⟩ }

end Read

end GrammarCheck.Pattern
