import GrammarCheck.Pattern.Matcher
import GrammarCheck.Pattern.Property

/-!
# What a pattern means

The options in force decide what an expression matches. They are switched on the way, from left to
right, and a group gives back at its end what it switched. Where characters are taken as bytes, no
part may match anything beyond ASCII that is not a whole character.

* `Options`: the options in force.
* `Expression.matcher`: the matcher of an expression, or what is wrong with it.
-/

namespace GrammarCheck.Pattern

/-- The options that decide what matches. -/
structure Options where
  ignoreCase : Bool := false
  byLine : Bool := false
  dotAll : Bool := false
  unicode : Bool := true
  returns : Bool := false
  deriving Repr, DecidableEq

namespace Options

/-- The options with one switched. -/
def set (o : Options) : Flag × Bool → Options
  | (.ignoreCase, on) => { o with ignoreCase := on }
  | (.byLine, on) => { o with byLine := on }
  | (.dotAll, on) => { o with dotAll := on }
  | (.unicode, on) => { o with unicode := on }
  | (.returns, on) => { o with returns := on }
  | (.swapGreed, _) => o
  | (.spaced, _) => o

/-- The options with several switched. -/
def setAll (o : Options) (s : Switches) : Options := s.foldl set o

/-- The set in any case, if case does not count. -/
def cased (o : Options) (s : CharSet) : CharSet :=
  if !o.ignoreCase then s else if o.unicode then .anyCase s else .anyAsciiCase s

/-- The set with what the options and a sign for its complement make of it. Where characters are
bytes it must stay in ASCII. -/
def finish (o : Options) (span : Span) (negated : Bool) (s : CharSet) : Except Problem CharSet :=
  let s := (o.cased s).negateIf negated
  if o.unicode ∨ !s.has 0x80 then .ok s else .error { fault := .invalidUtf8, span }

/-- The characters that break lines. -/
def lineBreak (o : Options) : LineBreak :=
  if o.returns then .returnOrFeed else .feed

end Options

/-! ### Single characters -/

/-- The character that a literal stands for. A byte beyond ASCII is no character. -/
def Literal.charIn (o : Options) (l : Literal) : Except Problem Char :=
  if !o.unicode ∧ l.isByte ∧ 0x80 ≤ l.char.toNat then
    .error { fault := .invalidUtf8, span := l.span }
  else .ok l.char

/-- The set of a literal outside brackets. -/
def Literal.set (o : Options) (l : Literal) : Except Problem CharSet := do
  let c ← l.charIn o
  return if o.unicode ∨ c.toNat < 0x80 then o.cased (.single c) else .single c

/-- The code point of a literal in brackets, which must be in ASCII where characters are bytes. -/
def Literal.codePoint (o : Options) (l : Literal) : Except Problem Nat := do
  let c ← l.charIn o
  if o.unicode ∨ c.toNat < 0x80 then return c.toNat
  else throw { fault := .unicodeNotAllowed, span := l.span }

/-- The set of a class with a letter of its own. -/
def ShortClass.set (o : Options) : ShortClass → CharSet
  | digit => if o.unicode then .digits else .asciiDigits
  | space => if o.unicode then .spaces else .asciiSpaces
  | word => if o.unicode then .word else .asciiWord

/-- The set of such a class or of what it leaves out. -/
def ShortClass.setIn (o : Options) (span : Span) (kind : ShortClass) (negated : Bool) :
    Except Problem CharSet :=
  let s := (kind.set o).negateIf negated
  if o.unicode ∨ !s.has 0x80 then .ok s else .error { fault := .invalidUtf8, span }

/-- The set of a property. Bytes have none. -/
def Property.setIn (o : Options) (span : Span) (p : Property) (negated : Bool) :
    Except Problem CharSet :=
  if !o.unicode then .error { fault := .unicodeNotAllowed, span }
  else
    match p.set? with
    | .ok s => o.finish span negated s
    | .error fault => .error { fault, span }

/-! ### Brackets -/

/-- Two sets combined. -/
def SetOperation.apply : SetOperation → CharSet → CharSet → CharSet
  | intersection => .inter
  | difference => .diff
  | symmetricDifference => CharSet.symmDiff

/-- The set of what stands between brackets. -/
def ClassSet.set (o : Options) : ClassSet → Except Problem CharSet
  | empty => .ok .empty
  | literal l => do
    let n ← l.codePoint o
    return .interval n n
  | range first last => do
    let a ← first.codePoint o
    let b ← last.codePoint o
    return .interval a b
  | short span kind negated => kind.setIn o span negated
  | named span kind negated => o.finish span negated kind.set
  | property span p negated => p.setIn o span negated
  | join a b => return .union (← a.set o) (← b.set o)
  | several _ items => items.set o
  | operation _ kind a b => do
    let x ← a.set o
    let y ← b.set o
    return kind.apply (o.cased x) (o.cased y)
  | bracketed span negated s => do o.finish span negated (← s.set o)

/-! ### Expressions -/

/-- The characters that the sign for any character leaves out. -/
def Options.dotSet (o : Options) : CharSet :=
  if o.dotAll then .all
  else
    match o.lineBreak with
    | .feed => .compl (.interval 0x0a 0x0a)
    | .returnOrFeed => .compl (.table [(0x0a, 0x0a), (0x0d, 0x0d)])

/-- The condition of a boundary. -/
def Boundary.look (o : Options) : Boundary → Look
  | lineStart => if o.byLine then .lineStart o.lineBreak else .textStart
  | lineEnd => if o.byLine then .lineEnd o.lineBreak else .textEnd
  | textStart => .textStart
  | textEnd => .textEnd
  | word => .word !o.unicode
  | notWord => .notWord !o.unicode
  | wordStart => .wordStart !o.unicode
  | wordEnd => .wordEnd !o.unicode
  | wordStartHalf => .wordStartHalf !o.unicode
  | wordEndHalf => .wordEndHalf !o.unicode

/-- The matcher of an expression under options, with the options in force after it. Parts in a list
that is a choice are told by `choice`. -/
def Expression.meaning (choice : Bool) (o : Options) :
    Expression → Except Problem (Matcher × Options)
  | empty => .ok (.empty, o)
  | switch _ s => .ok (.empty, o.setAll s)
  | literal l => return (.one (← l.set o), o)
  | dot span =>
    if o.unicode then .ok (.one o.dotSet, o) else .error { fault := .invalidUtf8, span }
  | boundary _ kind => .ok (.look (kind.look o), o)
  | short span kind negated => return (.one (← kind.setIn o span negated), o)
  | property span p negated => return (.one (← p.setIn o span negated), o)
  | bracketed span negated set => return (.one (← o.finish span negated (← set.set o)), o)
  | repetition _ least most? e => do
    let (m, o) ← e.meaning false o
    return (.repetition least most? m, o)
  | group _ captures s e => do
    let (m, _) ← e.meaning false (o.setAll s)
    return (if captures then .capture m else m, o)
  | join a b => do
    let (x, o) ← a.meaning false o
    match b with
    | empty => return (x, o)
    | _ =>
      let (y, o) ← b.meaning choice o
      return (if choice then .either x y else .seq x y, o)
  | sequence _ items => items.meaning false o
  | alternatives _ branches => branches.meaning true o

/-- The matcher of an expression, or what is wrong with it. -/
def Expression.matcher (e : Expression) : Except Problem Matcher := do
  let (m, _) ← e.meaning false {}
  return m

end GrammarCheck.Pattern
