import GrammarCheck.Pattern.Bracket
import GrammarCheck.Pattern.Property

/-!
# The form of a pattern

A pattern is a choice between sequences; a sequence consists of parts, each of which may be
repeated, and a group is a pattern in parentheses. Options switched inside a group hold to its end.

* `Expression.ofPattern`: the expression that a pattern spells, or what is wrong with it.
-/

namespace GrammarCheck.Pattern

namespace Read

/-! ### Names of groups -/

/-- The characters in the name of a group. It starts with a letter or an underscore. -/
def isNameCharacter (first : Bool) (c : Char) : Bool :=
  c == '_' || CharSet.alphabetic.has c.toNat
    || (!first && (c == '.' || c == '[' || c == ']' || CharSet.numeric.has c.toNat))

/-- Reads the characters of a name up to the angle bracket that closes it. -/
def nameCharacters (first : Bool) : Nat → Read (List Char)
  | 0 => return []
  | fuel + 1 => do
    match ← next? with
    | some '>' => return []
    | some c =>
      if isNameCharacter first c then
        discard step
        return c :: (← nameCharacters false fuel)
      else
        let here ← place
        fail .groupNameInvalid here (here + 1)
    | none => return []

/-- Reads the name of a group, which must be new. -/
def groupName : Read Unit := do
  let start ← place
  let name ← nameCharacters true (← fuel)
  let stop ← place
  if ← atEnd then fail .groupNameUnexpectedEnd stop stop
  else
    discard step
    if name = [] then fail .groupNameEmpty start start
    else
      let name := String.ofList name
      match (← get).names.lookup name with
      | some earlier =>
        throw { fault := .groupNameDuplicate, span := ⟨start, stop⟩, earlier? := some earlier }
      | none => modify fun r => { r with names := (name, ⟨start, stop⟩) :: r.names }

/-! ### Options -/

/-- The option that a letter stands for. -/
def flagOf? : Char → Option Flag
  | 'i' => some .ignoreCase
  | 'm' => some .byLine
  | 's' => some .dotAll
  | 'U' => some .swapGreed
  | 'u' => some .unicode
  | 'R' => some .returns
  | 'x' => some .spaced
  | _ => none

/-- Reads options up to the sign that ends them. `flags` are the options read so far, `minus?` the
place of the sign that switches off what follows it, and `dangling` says that nothing has followed
it yet. -/
def flagList (flags : List (Flag × Bool × Span)) (minus? : Option Span) (dangling : Bool) :
    Nat → Read Switches
  | 0 => return []
  | fuel + 1 => do
    let here ← place
    let span : Span := ⟨here, here + 1⟩
    let require (more : Bool) : Read Unit := do
      if !more then fail .flagUnexpectedEnd (here + 1) (here + 1)
    match ← next? with
    | none => fail .flagUnexpectedEnd here here
    | some '-' =>
      match minus? with
      | some earlier => throw { fault := .flagRepeatedNegation, span, earlier? := some earlier }
      | none =>
        require (← step)
        flagList flags (some span) true fuel
    | some c =>
      if c = ':' ∨ c = ')' then
        match minus?, dangling with
        | some minus, true => fail .flagDanglingNegation minus.start minus.stop
        | _, _ => return flags.reverse.map fun (flag, on, _) => (flag, on)
      else
        match flagOf? c with
        | none => fail .flagUnrecognized here (here + 1)
        | some flag =>
          match flags.lookup flag with
          | some (_, earlier) =>
            throw { fault := .flagDuplicate, span, earlier? := some earlier }
          | none =>
            require (← step)
            flagList ((flag, minus?.isNone, span) :: flags) minus? false fuel

/-! ### Groups -/

/-- What an opening parenthesis begins: options for what follows, or a group. -/
inductive Opening where
  | switch (s : Switches)
  | group (captures : Bool) (s : Switches)

/-- Passes over the sign of a condition on what is around the place, if there is one. -/
def lookAround : Read Bool := do
  if ← stepIf "?=".toList then return true
  else if ← stepIf "?!".toList then return true
  else if ← stepIf "?<=".toList then return true
  else stepIf "?<!".toList

/-- Reads an opening parenthesis and the signs that belong to it. -/
def opening : Read Opening := do
  let start ← place
  discard step
  skipSpace
  if ← lookAround then fail .lookAround start (← place)
  else
    let inner ← place
    let named ← do if ← stepIf "?P<".toList then pure true else stepIf "?<".toList
    if named then
      groupName
      return .group true []
    else if ← stepIf ['?'] then
      if ← atEnd then fail .groupUnclosed start (start + 1)
      else
        let s ← flagList [] none false (← fuel)
        let closes := (← next?) == some ')'
        discard step
        if !closes then return .group false s
        else if s = [] then fail .repetitionMissing inner inner
        else return .switch s
    else return .group true []

/-! ### Repetitions -/

/-- Takes the last part of a sequence, for a sign that repeats it. The parts come last first. -/
def lastPart (items : List Expression) : Read (Expression × List Expression) := do
  let here ← place
  match items with
  | [] => fail .repetitionMissing here here
  | .switch _ _ :: _ => fail .repetitionMissing here here
  | .empty :: _ => fail .repetitionMissing here here
  | e :: rest => return (e, rest)

/-- Reads the sign that makes a repetition stop early. It decides nothing about what matches. -/
def haste : Read Unit := do
  if (← next?) = some '?' then discard step

/-- Reads a sign that repeats the last part. -/
def repetitionSign (least : Nat) (most? : Option Nat) (items : List Expression) :
    Read (List Expression) := do
  let (e, rest) ← lastPart items
  discard step
  haste
  return .repetition ⟨e.span.start, ← place⟩ least most? e :: rest

/-- A missing number in a count is a problem of the count. -/
def countOf (number : Except Problem Nat) : Read Nat :=
  match number with
  | .ok n => return n
  | .error p =>
    throw (if p.fault = .decimalEmpty then { p with fault := .repetitionCountEmpty } else p)

/-- Reads the numbers of a count, from the one read first. -/
def countRange (start : Nat) (first : Except Problem Nat) : Read (Nat × Option Nat) := do
  if (← next?) = some ',' then
    if !(← stepOverSpace) then fail .repetitionCountUnclosed start (← place)
    else if (← next?) = some '}' then return (← countOf first, none)
    else
      let least ← countOf first
      return (least, some (← countOf (← decimal)))
  else
    let n ← countOf first
    return (n, some n)

/-- Reads a count in braces that repeats the last part. -/
def repetitionCount (items : List Expression) : Read (List Expression) := do
  let start ← place
  let (e, rest) ← lastPart items
  let unclosed : Read Unit := do fail .repetitionCountUnclosed start (← place)
  if !(← stepOverSpace) then unclosed
  let first ← decimal
  if ← atEnd then unclosed
  let (least, most?) ← countRange start first
  if (← next?) ≠ some '}' then unclosed
  if ← stepOverSpace then haste
  let stop ← place
  if most?.all (least ≤ ·) then return .repetition ⟨e.span.start, stop⟩ least most? e :: rest
  else fail .repetitionCountInvalid start stop

/-! ### Parts -/

/-- Reads a part that begins with no sign of its own, or with one that stands for a character or a
place. -/
def simplePart : Read Expression := do
  let start ← place
  let span : Span := ⟨start, start + 1⟩
  match ← next? with
  | some '\\' => escape
  | some '.' => discard step; return .dot span
  | some '^' => discard step; return .boundary span .lineStart
  | some '$' => discard step; return .boundary span .lineEnd
  | next => discard step; return .literal { span, char := next.getD '\\' }

/-- Switches whether the pattern is spaced, as options say. -/
def switchSpaced (s : Switches) : Read Unit :=
  match s.lookup .spaced with
  | some on => modify fun r => { r with spaced := on }
  | none => return ()

/-- Reads a pattern, or what is in a group up to its closing parenthesis. `branches` are the
sequences before the one that is read, and `items` the parts of that one; both come last first.
`origin` and `start` are the places where the pattern and the sequence begin. -/
def branches (fuel : Nat) (inGroup : Bool) (origin start : Nat)
    (done items : List Expression) : Read Expression :=
  match fuel with
  | 0 => return .empty
  | fuel + 1 => do
    skipSpace
    let here ← place
    let whole : Expression :=
      .ofBranches ⟨origin, here⟩ ((Expression.ofItems ⟨start, here⟩ items.reverse :: done).reverse)
    match ← next? with
    | none => return whole
    | some ')' =>
      if inGroup then return whole else fail .groupUnopened here (here + 1)
    | some '|' =>
      discard step
      branches fuel inGroup origin (here + 1)
        (Expression.ofItems ⟨start, here⟩ items.reverse :: done) []
    | some '(' =>
      match ← opening with
      | .switch s =>
        switchSpaced s
        branches fuel inGroup origin start done (.switch ⟨here, ← place⟩ s :: items)
      | .group captures s =>
        let outer := (← get).spaced
        switchSpaced s
        let inner ← place
        let e ← branches fuel true inner inner [] []
        if ← atEnd then fail .groupUnclosed here (here + 1)
        else
          modify fun r => { r with spaced := outer }
          discard step
          branches fuel inGroup origin start done (.group ⟨here, ← place⟩ captures s e :: items)
    | some '[' =>
      let set ← bracketed
      branches fuel inGroup origin start done (set :: items)
    | some '?' => branches fuel inGroup origin start done (← repetitionSign 0 (some 1) items)
    | some '*' => branches fuel inGroup origin start done (← repetitionSign 0 none items)
    | some '+' => branches fuel inGroup origin start done (← repetitionSign 1 none items)
    | some '{' => branches fuel inGroup origin start done (← repetitionCount items)
    | some _ =>
      let part ← simplePart
      branches fuel inGroup origin start done (part :: items)

end Read

/-- The expression that a pattern spells, or what is wrong with it. -/
def Expression.ofPattern (pattern : List Char) : Except Problem Expression := do
  let (e, _) ← (Read.branches (pattern.length + 1) false 0 0 [] []).run { rest := pattern }
  match e.firstTooDeep? nestLimit with
  | some span => throw { fault := .nestedTooDeep, span }
  | none => return e

end GrammarCheck.Pattern
