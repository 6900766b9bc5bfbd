import GrammarCheck.Pattern.Fault

/-!
# Patterns as they are written

An expression is a pattern as it is spelled: nothing is decided yet about case, lines or the kind of
characters. What has an extent of its own carries its part of the pattern.

* `Flag`: the options that a pattern can switch.
* `ClassSet`: what stands between brackets.
* `Expression`: a pattern.
* `Expression.firstTooDeep?`: where a pattern is nested too deep.
-/

namespace GrammarCheck.Pattern

/-- The options that a pattern can switch on and off. -/
inductive Flag where
  | ignoreCase
  | byLine
  | dotAll
  | swapGreed
  | unicode
  | returns
  | spaced
  deriving Repr, DecidableEq

/-- Options with what they are switched to. -/
abbrev Switches := List (Flag × Bool)

/-- A character that stands for itself. One that is written as a byte, in two hexadecimal digits, is
taken as a byte where characters are bytes. -/
structure Literal where
  span : Span
  char : Char
  isByte : Bool := false
  deriving Repr, DecidableEq

/-- The classes with a letter of their own. -/
inductive ShortClass where
  | digit
  | space
  | word
  deriving Repr, DecidableEq

/-- The classes with a name in brackets. -/
inductive NamedClass where
  | alnum
  | alpha
  | ascii
  | blank
  | cntrl
  | digit
  | graph
  | lower
  | print
  | punct
  | space
  | upper
  | word
  | xdigit
  deriving Repr, DecidableEq

/-- A property of characters: by one name, or by the name of a property and one of its values. -/
inductive Property where
  | named (name : String)
  | valued (name value : String)
  deriving Repr, DecidableEq

/-- What combines two sets in brackets. -/
inductive SetOperation where
  | intersection
  | difference
  | symmetricDifference
  deriving Repr, DecidableEq

/-- What stands between brackets. `join` puts two parts of one list side by side; `several` is such
a list with its extent. -/
inductive ClassSet where
  | empty
  | literal (l : Literal)
  | range (first last : Literal)
  | short (span : Span) (kind : ShortClass) (negated : Bool)
  | named (span : Span) (kind : NamedClass) (negated : Bool)
  | property (span : Span) (p : Property) (negated : Bool)
  | join (a b : ClassSet)
  | several (span : Span) (items : ClassSet)
  | operation (span : Span) (kind : SetOperation) (a b : ClassSet)
  | bracketed (span : Span) (negated : Bool) (set : ClassSet)
  deriving Repr, DecidableEq

/-- The conditions on a place in the text. -/
inductive Boundary where
  | lineStart
  | lineEnd
  | textStart
  | textEnd
  | word
  | notWord
  | wordStart
  | wordEnd
  | wordStartHalf
  | wordEndHalf
  deriving Repr, DecidableEq

/-- A pattern as it is written. `join` puts two parts of one list side by side, in a sequence or as
alternatives; `sequence` and `alternatives` are such lists with their extent. -/
inductive Expression where
  | empty
  | switch (span : Span) (s : Switches)
  | literal (l : Literal)
  | dot (span : Span)
  | boundary (span : Span) (kind : Boundary)
  | short (span : Span) (kind : ShortClass) (negated : Bool)
  | property (span : Span) (p : Property) (negated : Bool)
  | bracketed (span : Span) (negated : Bool) (set : ClassSet)
  | repetition (span : Span) (least : Nat) (most? : Option Nat) (e : Expression)
  | group (span : Span) (captures : Bool) (s : Switches) (e : Expression)
  | join (a b : Expression)
  | sequence (span : Span) (items : Expression)
  | alternatives (span : Span) (items : Expression)
  deriving Repr, DecidableEq

/-! ### Extents -/

/-- The part of the pattern that a set in brackets takes. -/
def ClassSet.span : ClassSet → Span
  | empty => ⟨0, 0⟩
  | literal l => l.span
  | range first last => ⟨first.span.start, last.span.stop⟩
  | short s _ _ => s
  | named s _ _ => s
  | property s _ _ => s
  | join a b => ⟨a.span.start, b.span.stop⟩
  | several s _ => s
  | operation s _ _ _ => s
  | bracketed s _ _ => s

/-- The part of the pattern that an expression takes. -/
def Expression.span : Expression → Span
  | empty => ⟨0, 0⟩
  | switch s _ => s
  | literal l => l.span
  | dot s => s
  | boundary s _ => s
  | short s _ _ => s
  | property s _ _ => s
  | bracketed s _ _ => s
  | repetition s _ _ _ => s
  | group s _ _ _ => s
  | join a b => ⟨a.span.start, b.span.stop⟩
  | sequence s _ => s
  | alternatives s _ => s

/-! ### Lists -/

/-- The set of the items between brackets: an item alone is itself. -/
def ClassSet.ofItems : List ClassSet → ClassSet
  | [] => .empty
  | [a] => a
  | items@(a :: _ :: _) =>
    let stop := (items.getLastD a).span.stop
    .several ⟨a.span.start, stop⟩ (items.foldr join .empty)

/-- The expression of items in a row: an item alone is itself. -/
def Expression.ofItems (span : Span) : List Expression → Expression
  | [] => .empty
  | [e] => e
  | items => .sequence span (items.foldr join .empty)

/-- The expression of branches: a branch alone is itself. -/
def Expression.ofBranches (span : Span) : List Expression → Expression
  | [] => .empty
  | [e] => e
  | branches => .alternatives span (branches.foldr join .empty)

/-! ### Depth -/

/-- The first part of a set, from the outside, that is nested deeper than `room` levels. -/
def ClassSet.firstTooDeep? (room : Nat) : ClassSet → Option Span
  | join a b => a.firstTooDeep? room <|> b.firstTooDeep? room
  | several s items =>
    match room with
    | 0 => some s
    | room + 1 => items.firstTooDeep? room
  | operation s _ a b =>
    match room with
    | 0 => some s
    | room + 1 => a.firstTooDeep? room <|> b.firstTooDeep? room
  | bracketed s _ set =>
    match room with
    | 0 => some s
    | room + 1 => set.firstTooDeep? room
  | empty => none
  | literal _ => none
  | range _ _ => none
  | short _ _ _ => none
  | named _ _ _ => none
  | property _ _ _ => none

/-- The first part of an expression, from the outside, that is nested deeper than `room` levels. -/
def Expression.firstTooDeep? (room : Nat) : Expression → Option Span
  | join a b => a.firstTooDeep? room <|> b.firstTooDeep? room
  | bracketed s _ set =>
    match room with
    | 0 => some s
    | room + 1 => set.firstTooDeep? room
  | repetition s _ _ e =>
    match room with
    | 0 => some s
    | room + 1 => e.firstTooDeep? room
  | group s _ _ e =>
    match room with
    | 0 => some s
    | room + 1 => e.firstTooDeep? room
  | sequence s items =>
    match room with
    | 0 => some s
    | room + 1 => items.firstTooDeep? room
  | alternatives s branches =>
    match room with
    | 0 => some s
    | room + 1 => branches.firstTooDeep? room
  | empty => none
  | switch _ _ => none
  | literal _ => none
  | dot _ => none
  | boundary _ _ => none
  | short _ _ _ => none
  | property _ _ _ => none

end GrammarCheck.Pattern
