import GrammarCheck.Text.Utf8

/-!
# Control sequences in text

A terminal takes some characters as commands: control characters, and sequences that an escape
character opens. Text that does not go to a terminal is written without them.

Within a sequence white space still shows. It suspends the sequence: what follows shows as well,
until the next control character takes the sequence up again. Sequences that carry a string of their
own show nothing until they end.

* `ControlSequence.next`: how a character goes on with a sequence.
* `withoutControls`: the part of a text that shows.
-/

namespace GrammarCheck.Text

/-- How far a sequence has come. `none` is plain text. A command that an escape opens may have
intermediate characters; `control` is a control sequence, `device` a device string, which has a head
in three stages before its body; `hidden` is a string that nobody shows; `system` is a system
command. -/
inductive ControlSequence where
  | none
  | escape
  | intermediate
  | control
  | deviceHead
  | deviceParameter
  | deviceIntermediate
  | hidden
  | system
  deriving Repr, DecidableEq

namespace ControlSequence

/-- The white space that shows wherever no string is carried. -/
def isBlank (c : Char) : Bool :=
  c == '\t' || c == '\n' || c == '\x0c' || c == '\r'

/-- A control character of ASCII, the one that deletes included. -/
def isControl (c : Char) : Bool :=
  c.toNat < 0x20 || c == '\x7f'

/-- A character from which intermediate characters are taken: a space or one of the signs after
it. -/
def isIntermediate (c : Char) : Bool :=
  0x20 ≤ c.toNat && c.toNat < 0x30

/-- A character that ends a control sequence. -/
def isFinal (c : Char) : Bool :=
  0x40 ≤ c.toNat

/-- What follows an escape character. -/
def afterEscape (c : Char) : ControlSequence :=
  if isIntermediate c then intermediate
  else if c = '[' then control
  else if c = ']' then system
  else if c = 'P' then deviceHead
  else if c = 'X' ∨ c = '^' ∨ c = '_' then hidden
  else none

/-- How a character that is neither a control character nor beyond ASCII goes on with a sequence. -/
def afterPrintable (c : Char) : ControlSequence → ControlSequence
  | none => none
  | escape => afterEscape c
  | intermediate => if isIntermediate c then intermediate else none
  | control => if isFinal c then none else control
  | deviceHead =>
    if isFinal c then hidden else if isIntermediate c then deviceIntermediate else deviceParameter
  | deviceParameter =>
    if isIntermediate c then deviceIntermediate
    else if c.toNat < 0x3c then deviceParameter
    else hidden
  | deviceIntermediate => if isIntermediate c then deviceIntermediate else hidden
  | hidden => hidden
  | system => system

/-- The byte that ends a hidden string, wherever it comes in the encoding of a character. -/
def stringEnd : UInt8 := 0x9c

/-- How a character goes on with a sequence. Two control characters break every sequence off, and an
escape opens a new one; a bell ends a system command. -/
def next (s : ControlSequence) (c : Char) : ControlSequence :=
  if c = '\x18' ∨ c = '\x1a' then none
  else if c = '\x1b' then escape
  else if isControl c then (if s = system ∧ c = '\x07' then none else s)
  else if c.toNat < 0x80 then afterPrintable c s
  else if s = hidden ∧ stringEnd ∈ String.utf8EncodeChar c then none
  else s

/-- The character shows within the sequence. -/
def shows (c : Char) : ControlSequence → Bool
  | none => isBlank c || !isControl c
  | escape => isBlank c
  | intermediate => isBlank c
  | control => isBlank c
  | deviceHead => false
  | deviceParameter => false
  | deviceIntermediate => false
  | hidden => false
  | system => false

end ControlSequence

/-- The characters that show, given the sequence that is under way and whether it is suspended. A
character beyond ASCII ends a suspended sequence. -/
def shownCharacters (s : ControlSequence) (suspended : Bool) : List Char → List Char
  | [] => []
  | c :: rest =>
    if suspended then
      if ControlSequence.none.shows c then
        c :: shownCharacters (if c.toNat < 0x80 then s else .none) true rest
      else shownCharacters (s.next c) false rest
    else if s.shows c then c :: shownCharacters s true rest
    else shownCharacters (s.next c) false rest

/-- The part of a text that shows. -/
def withoutControls (s : String) : String :=
  String.ofList (shownCharacters .none false s.toList)

end GrammarCheck.Text
