import GrammarCheck.Pattern.Reader

/-!
# Escapes

A backslash takes the meaning of a sign away, or gives a letter one: a character by its number, a
class of characters, a property, or a condition on the place.

* `Read.escape`: reads an escape.
-/

namespace GrammarCheck.Pattern

namespace Read

/-! ### Characters by number -/

/-- The digits of base sixteen. -/
def isHexDigit (c : Char) : Bool :=
  c.isDigit || ('a' ≤ c && c ≤ 'f') || ('A' ≤ c && c ≤ 'F')

/-- The character of a number, if there is one. -/
def charOf? (n : Nat) : Option Char :=
  if h : n.isValidChar then some (Char.ofNatAux n h) else none

/-- Reads exactly `n` digits, with the white space after each. -/
def hexDigits : Nat → Read (List Char)
  | 0 => return []
  | n + 1 => do
    match ← next? with
    | none =>
      let here ← place
      fail .escapeUnexpectedEnd here here
    | some c =>
      if isHexDigit c then
        discard stepOverSpace
        return c :: (← hexDigits n)
      else
        let here ← place
        fail .escapeHexInvalidDigit here (here + 1)

/-- The place where a number of a fixed length is said to start. -/
def literalOf (start stop : Nat) (number : Nat) (isByte : Bool) : Read Literal :=
  match charOf? number with
  | some char => return { span := ⟨start, stop⟩, char, isByte }
  | none => fail .escapeHexInvalid start stop

/-- Reads a character by a number of `n` digits, from an escape that starts at `start`. -/
def fixedHex (start n : Nat) : Read Literal := do
  let first ← place
  let digits ← hexDigits n
  let stop ← place
  let l ← literalOf first stop (valueOf 16 digits) (n == 2)
  return { l with span := ⟨start, stop⟩ }

/-- Reads the digits of a number in braces; the reader is at the opening brace or at a digit. -/
def bracedDigits : Nat → Read (List Char)
  | 0 => return []
  | fuel + 1 => do
    if ← stepOverSpace then
      match ← next? with
      | some '}' => return []
      | some c =>
        if isHexDigit c then return c :: (← bracedDigits fuel)
        else
          let here ← place
          fail .escapeHexInvalidDigit here (here + 1)
      | none => return []
    else return []

/-- Reads a character by a number in braces, from an escape that starts at `start`. -/
def bracedHex (start : Nat) : Read Literal := do
  let brace ← place
  let digits ← bracedDigits (← fuel)
  let closing ← place
  if ← atEnd then fail .escapeUnexpectedEnd brace closing
  else
    discard stepOverSpace
    let stop ← place
    if digits = [] then fail .escapeHexEmpty brace stop
    else
      let l ← literalOf (brace + 1) closing (valueOf 16 digits) false
      return { l with span := ⟨start, stop⟩ }

/-- Reads a character by its number, which has `n` digits unless it is in braces. -/
def hex (start n : Nat) : Read Literal := do
  if ← stepOverSpace then
    match ← next? with
    | some '{' => bracedHex start
    | _ => fixedHex start n
  else
    let here ← place
    fail .escapeUnexpectedEnd here here

/-! ### Properties -/

/-- Reads the name in braces; the reader is at the opening brace. -/
def bracedName : Nat → Read (List Char)
  | 0 => return []
  | fuel + 1 => do
    if ← stepOverSpace then
      match ← next? with
      | some '}' => return []
      | some c => return c :: (← bracedName fuel)
      | none => return []
    else return []

/-- What precedes and what follows the first occurrence of a separator. -/
def cutAt? (separator : List Char) : List Char → Option (List Char × List Char)
  | [] => none
  | c :: rest =>
    if separator.isPrefixOf (c :: rest) then some ([], (c :: rest).drop separator.length)
    else (cutAt? separator rest).map fun (before, after) => (c :: before, after)

/-- The property that a name in braces stands for. Three signs may stand between a name and a value;
they mean the same. -/
def propertyOf (name : List Char) : Property :=
  match cutAt? ['!', '='] name <|> cutAt? [':'] name <|> cutAt? ['='] name with
  | some (before, after) => .valued (String.ofList before) (String.ofList after)
  | none => .named (String.ofList name)

/-- Reads a property after its letter: one letter, or a name in braces. -/
def property : Read Property := do
  if ← stepOverSpace then
    match ← next? with
    | some '{' =>
      let name ← bracedName (← fuel)
      if ← atEnd then
        let here ← place
        fail .escapeUnexpectedEnd here here
      else
        discard step
        return propertyOf name
    | some '\\' =>
      let here ← place
      fail .propertyInvalid here (here + 1)
    | some c =>
      discard stepOverSpace
      return .named (String.singleton c)
    | none => return .named ""
  else
    let here ← place
    fail .escapeUnexpectedEnd here here

/-! ### Word boundaries -/

/-- The characters in the name of a word boundary. -/
def isBoundaryLetter (c : Char) : Bool :=
  c.isAlpha || c == '-'

/-- Reads the name of a word boundary in braces, if there is one. Braces around anything but letters
are left for the count of a repetition. -/
def namedBoundary? (start : Nat) : Read (Option Boundary) := do
  let before ← get
  let brace ← place
  if !(← stepOverSpace) then
    fail .wordBoundaryUnexpectedEnd start (← place)
  else if !((← next?).any isBoundaryLetter) then
    set before
    return none
  else
    let first ← place
    let name ← takeWhile isBoundaryLetter true (← fuel)
    let stop ← place
    if (← next?) ≠ some '}' then fail .wordBoundaryUnclosed brace stop
    else
      discard step
      match String.ofList name with
      | "start" => return some .wordStart
      | "end" => return some .wordEnd
      | "start-half" => return some .wordStartHalf
      | "end-half" => return some .wordEndHalf
      | _ => fail .wordBoundaryUnrecognized first stop

/-- Reads what follows the letter of a word boundary. -/
def wordBoundary (start : Nat) : Read Expression := do
  let kind ←
    if ← goesOnWith ['{'] then pure ((← namedBoundary? start).getD .word) else pure .word
  return .boundary ⟨start, ← place⟩ kind

/-! ### All escapes -/

/-- The signs that mean something in a pattern. -/
def isMeta (c : Char) : Bool :=
  "\\.+*?()|[]\x7b\x7d^$#&-~".toList.contains c

/-- The characters that may be escaped to stand for themselves: the ASCII characters other than
letters, digits and angle brackets. -/
def isEscapable (c : Char) : Bool :=
  isMeta c || (c.toNat < 0x80 && !c.isAlphanum && c != '<' && c != '>')

/-- The character that an escaped letter stands for. -/
def controlOf? : Char → Option Char
  | 'a' => some '\x07'
  | 'f' => some '\x0c'
  | 't' => some '\t'
  | 'n' => some '\n'
  | 'r' => some '\r'
  | 'v' => some '\x0b'
  | _ => none

/-- The condition that an escaped letter stands for. -/
def boundaryOf? : Char → Option Boundary
  | 'A' => some .textStart
  | 'z' => some .textEnd
  | 'B' => some .notWord
  | '<' => some .wordStart
  | '>' => some .wordEnd
  | _ => none

/-- The class that an escaped letter stands for. A capital stands for what the class leaves out. -/
def shortClassOf? (c : Char) : Option (ShortClass × Bool) :=
  match c with
  | 'd' => some (.digit, false)
  | 's' => some (.space, false)
  | 'w' => some (.word, false)
  | 'D' => some (.digit, true)
  | 'S' => some (.space, true)
  | 'W' => some (.word, true)
  | _ => none

/-- The number of digits of a character by number, by its letter. -/
def hexLengthOf? : Char → Option Nat
  | 'x' => some 2
  | 'u' => some 4
  | 'U' => some 8
  | _ => none

/-- Reads an escape whose character has no reading of its own. -/
def plainEscape (start : Nat) (c : Char) : Read Expression := do
  discard step
  let stop ← place
  let literal (char : Char) : Expression := .literal { span := ⟨start, stop⟩, char }
  if isEscapable c then return literal c
  else if c = 'b' then wordBoundary start
  else
    match controlOf? c, boundaryOf? c with
    | some char, _ => return literal char
    | none, some kind => return .boundary ⟨start, stop⟩ kind
    | none, none => fail .escapeUnrecognized start stop

/-- Reads an escape; the reader is at the backslash. -/
def escape : Read Expression := do
  let start ← place
  if !(← step) then fail .escapeUnexpectedEnd start (← place)
  else
    let c := (← next?).getD '\\'
    if c.isDigit then fail .backreference start ((← place) + 1)
    else if let some n := hexLengthOf? c then return .literal (← hex start n)
    else if c = 'p' ∨ c = 'P' then
      let p ← property
      return .property ⟨start, ← place⟩ p (c == 'P')
    else if let some (kind, negated) := shortClassOf? c then
      discard step
      return .short ⟨start, ← place⟩ kind negated
    else plainEscape start c

end Read

end GrammarCheck.Pattern
