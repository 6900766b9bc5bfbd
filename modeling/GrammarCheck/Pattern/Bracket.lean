import GrammarCheck.Pattern.Escape

/-!
# Sets in brackets

Between brackets stand characters, ranges of characters, classes, and further brackets; what stands
side by side is united. Three signs, each written twice, combine what is before them with what is
after them, from left to right.

* `Read.bracketed`: reads a set in brackets.
-/

namespace GrammarCheck.Pattern

/-- The class that a name in brackets stands for. -/
def NamedClass.ofName? : String → Option NamedClass
  | "alnum" => some .alnum
  | "alpha" => some .alpha
  | "ascii" => some .ascii
  | "blank" => some .blank
  | "cntrl" => some .cntrl
  | "digit" => some .digit
  | "graph" => some .graph
  | "lower" => some .lower
  | "print" => some .print
  | "punct" => some .punct
  | "space" => some .space
  | "upper" => some .upper
  | "word" => some .word
  | "xdigit" => some .xdigit
  | _ => none

namespace Read

/-! ### Items -/

/-- Reads a class with a name between colons, in brackets of its own. What is spelled otherwise is
no such class and is left. -/
def namedClass? : Read (Option ClassSet) := do
  let r ← get
  match r.rest with
  | '[' :: ':' :: body =>
    let negated := body.head? == some '^'
    let body := if negated then body.tail else body
    let name := body.takeWhile (· ≠ ':')
    match body.dropWhile (· ≠ ':'), NamedClass.ofName? (String.ofList name) with
    | ':' :: ']' :: _, some kind =>
      let start := r.place
      advance (name.length + if negated then 5 else 4)
      return some (.named ⟨start, ← place⟩ kind negated)
    | _, _ => return none
  | _ => return none

/-- Reads one character or an escape. -/
def bracketItem : Read Expression := do
  match ← next? with
  | some '\\' => escape
  | next =>
    let start ← place
    discard step
    return .literal { span := ⟨start, start + 1⟩, char := next.getD '\\' }

/-- What is read as an item of a set. -/
def itemOf : Expression → Read ClassSet
  | .literal l => return .literal l
  | .short s kind negated => return .short s kind negated
  | .property s p negated => return .property s p negated
  | e => fail .classEscapeInvalid e.span.start e.span.stop

/-- What is read as an end of a range. -/
def literalEnd : Expression → Read Literal
  | .literal l => return l
  | e => fail .classRangeLiteral e.span.start e.span.stop

/-- Reads an item or a range of a set that was opened at `opening`. A hyphen before a closing
bracket or before another hyphen makes no range. -/
def itemOrRange (opening : Span) : Read ClassSet := do
  let first ← bracketItem
  skipSpace
  let unclosed : Read ClassSet := fail .classUnclosed opening.start opening.stop
  match ← next? with
  | none => unclosed
  | some '-' =>
    let after ← secondPastSpace?
    if after = some ']' ∨ after = some '-' then itemOf first
    else if !(← stepOverSpace) then unclosed
    else
      let last ← bracketItem
      let a ← literalEnd first
      let b ← literalEnd last
      if a.char ≤ b.char then return .range a b
      else fail .classRangeInvalid first.span.start last.span.stop
  | some _ => itemOf first

/-! ### Openings -/

/-- Reads the hyphens that a set may begin with. They stand for themselves. -/
def leadingHyphens (start : Nat) : Nat → Read (List ClassSet)
  | 0 => return []
  | fuel + 1 => do
    if (← next?) = some '-' then
      let here ← place
      if ← stepOverSpace then
        let hyphen : ClassSet := .literal { span := ⟨here, here + 1⟩, char := '-' }
        return hyphen :: (← leadingHyphens start fuel)
      else fail .classUnclosed start start
    else return []

/-- Reads the opening bracket of a set, the sign that negates it, and the hyphens or the closing
bracket that stand for themselves because they come first. -/
def bracketOpening : Read (Span × Bool × List ClassSet) := do
  let start ← place
  let require (more : Bool) : Read Unit := do
    if !more then fail .classUnclosed start (← place)
  require (← stepOverSpace)
  let negated := (← next?) == some '^'
  if negated then require (← stepOverSpace)
  let hyphens ← leadingHyphens start (← fuel)
  if hyphens = [] ∧ (← next?) = some ']' then
    let here ← place
    require (← stepOverSpace)
    let bracket : ClassSet := .literal { span := ⟨here, here + 1⟩, char := ']' }
    return (⟨start, ← place⟩, negated, [bracket])
  else return (⟨start, ← place⟩, negated, hyphens)

/-! ### Sets -/

/-- What a sign for a combination stands for. -/
def operation? : Read (Option SetOperation) := do
  if ← stepIf ['&', '&'] then return some .intersection
  else if ← stepIf ['-', '-'] then return some .difference
  else if ← stepIf ['~', '~'] then return some .symmetricDifference
  else return none

/-- The set of the items read since a combination sign, combined with what was before it. The items
come last first. -/
def combined (before? : Option (SetOperation × ClassSet)) (items : List ClassSet) : ClassSet :=
  let set := ClassSet.ofItems items.reverse
  match before? with
  | none => set
  | some (kind, before) => .operation ⟨before.span.start, set.span.stop⟩ kind before set

/-- Reads a set from behind its opening to its closing bracket. -/
def bracketBody (fuel : Nat) (opening : Span) (negated : Bool)
    (before? : Option (SetOperation × ClassSet)) (items : List ClassSet) : Read ClassSet :=
  match fuel with
  | 0 => fail .classUnclosed opening.start opening.stop
  | fuel + 1 => do
    skipSpace
    match ← next? with
    | none => fail .classUnclosed opening.start opening.stop
    | some ']' =>
      discard step
      return .bracketed ⟨opening.start, ← place⟩ negated (combined before? items)
    | some '[' =>
      match ← namedClass? with
      | some named => bracketBody fuel opening negated before? (named :: items)
      | none =>
        let (inner, innerNegated, first) ← bracketOpening
        let set ← bracketBody fuel inner innerNegated none first.reverse
        bracketBody fuel opening negated before? (set :: items)
    | some _ =>
      match ← operation? with
      | some kind => bracketBody fuel opening negated (some (kind, combined before? items)) []
      | none =>
        let item ← itemOrRange opening
        bracketBody fuel opening negated before? (item :: items)

/-- Reads a set in brackets; the reader is at the opening bracket. -/
def bracketed : Read Expression := do
  let (opening, negated, first) ← bracketOpening
  match ← bracketBody (← fuel) opening negated none first.reverse with
  | .bracketed s negated set => return .bracketed s negated set
  | _ => return .empty

end Read

end GrammarCheck.Pattern
