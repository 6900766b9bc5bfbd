import GrammarCheck.Pattern.CharSet
import GrammarCheck.Pattern.Expression

/-!
# Matching

A matcher is a pattern with all its options decided. It matches parts of a text; whether it matches
somewhere is found by following all places where a match may have come to at once.

* `Matcher.ends`: the places where matches from given places may end.
* `Matcher.matchesIn`: whether a matcher matches anywhere in a text.
-/

namespace GrammarCheck.Pattern

/-- The characters that break lines: a feed alone, or a return as well, with or without a feed. -/
inductive LineBreak where
  | feed
  | returnOrFeed
  deriving Repr, DecidableEq

/-- The conditions on a place, with all options decided. The letters of words may be those of ASCII
alone. -/
inductive Look where
  | textStart
  | textEnd
  | lineStart (b : LineBreak)
  | lineEnd (b : LineBreak)
  | word (ascii : Bool)
  | notWord (ascii : Bool)
  | wordStart (ascii : Bool)
  | wordEnd (ascii : Bool)
  | wordStartHalf (ascii : Bool)
  | wordEndHalf (ascii : Bool)
  deriving Repr, DecidableEq

/-- A pattern with all its options decided. -/
inductive Matcher where
  | empty
  | one (s : CharSet)
  | look (l : Look)
  | seq (a b : Matcher)
  | either (a b : Matcher)
  | repetition (least : Nat) (most? : Option Nat) (m : Matcher)
  | capture (m : Matcher)
  deriving Repr, DecidableEq

/-! ### Places -/

namespace Look

/-- The character belongs to words. -/
def isWord (ascii : Bool) (c : Char) : Bool :=
  (if ascii then CharSet.asciiWord else CharSet.word).has c.toNat

/-- The condition holds between two characters, of which one is missing at an end of the text. -/
def holds (before? after? : Option Char) : Look → Bool
  | textStart => before?.isNone
  | textEnd => after?.isNone
  | lineStart .feed => before?.all (· == '\n')
  | lineEnd .feed => after?.all (· == '\n')
  | lineStart .returnOrFeed =>
    before?.all fun c => c == '\n' || (c == '\r' && after? != some '\n')
  | lineEnd .returnOrFeed =>
    after?.all fun c => c == '\r' || (c == '\n' && before? != some '\r')
  | word ascii => before?.any (isWord ascii) != after?.any (isWord ascii)
  | notWord ascii => before?.any (isWord ascii) == after?.any (isWord ascii)
  | wordStart ascii => !before?.any (isWord ascii) && after?.any (isWord ascii)
  | wordEnd ascii => before?.any (isWord ascii) && !after?.any (isWord ascii)
  | wordStartHalf ascii => !before?.any (isWord ascii)
  | wordEndHalf ascii => !after?.any (isWord ascii)

/-- The condition holds at a place of a text. -/
def holdsAt (text : Array Char) (l : Look) (place : Nat) : Bool :=
  l.holds (if place = 0 then none else text[place - 1]?) text[place]?

end Look

/-! ### Sets of places -/

/-- Two ascending lists of places as one. -/
def mergePlaces : List Nat → List Nat → List Nat
  | [], ys => ys
  | xs, [] => xs
  | x :: xs, y :: ys =>
    if x < y then x :: mergePlaces xs (y :: ys)
    else if y < x then y :: mergePlaces (x :: xs) ys
    else x :: mergePlaces xs ys

/-- The places reached by exactly `n` steps. A set that a step does not change stays. -/
def afterSteps (step : List Nat → List Nat) : Nat → List Nat → List Nat
  | 0, places => places
  | n + 1, places =>
    let further := step places
    if further = places then places else afterSteps step n further

/-- The places reached from `latest` by at most `n` steps, with those reached before. Each round
goes on only from the places that the one before it reached first. -/
def withinSteps (step : List Nat → List Nat) : Nat → (latest reached : List Nat) → List Nat
  | 0, _, reached => reached
  | n + 1, latest, reached =>
    let first := (step latest).filter fun place => !reached.contains place
    if first = [] then reached else withinSteps step n first (mergePlaces reached first)

/-! ### Matching -/

namespace Matcher

/-- The places where matches that begin at one of the given places may end. Both lists ascend. -/
def ends (text : Array Char) (m : Matcher) (places : List Nat) : List Nat :=
  match m with
  | empty => places
  | one s =>
    (places.filter fun place => text[place]?.any fun c => s.has c.toNat).map (· + 1)
  | look l => places.filter (l.holdsAt text)
  | seq a b => b.ends text (a.ends text places)
  | either a b => mergePlaces (a.ends text places) (b.ends text places)
  | repetition least most? m =>
    let more := (most?.map (· - least)).getD (text.size + 1)
    let start := afterSteps (m.ends text) least places
    withinSteps (m.ends text) more start start
  | capture m => m.ends text places

/-- The matcher matches a part of the text, wherever it begins. -/
def matchesIn (m : Matcher) (text : List Char) : Bool :=
  m.ends text.toArray (List.range (text.length + 1)) ≠ []

end Matcher

end GrammarCheck.Pattern
