/-!
# Numerals and truth values in text

* `decimal`: a number in base ten.
* `hexDigits`: a number in base sixteen, without leading zeros.
* `twoHexDigits`: a byte as exactly two digits in base sixteen.
* `truth`: a truth value as a word.
-/

namespace GrammarCheck.Text

/-- A number in base ten, without leading zeros. -/
def decimal (n : Nat) : String :=
  String.ofList (Nat.toDigits 10 n)

/-- The small digits of base sixteen. -/
def smallHexDigit (n : Nat) : Char :=
  Nat.digitChar n

/-- The capital digits of base sixteen. -/
def capitalHexDigit (n : Nat) : Char :=
  (Nat.digitChar n).toUpper

/-- A number in small digits of base sixteen, without leading zeros. -/
def hexDigits (n : Nat) : List Char :=
  Nat.toDigits 16 n

/-- One byte as two digits, given the digit for each value below sixteen. -/
def twoHexDigits (digit : Nat → Char) (b : UInt8) : List Char :=
  [digit (b.toNat / 16), digit (b.toNat % 16)]

/-- The word for a truth value. -/
def truth (b : Bool) : String :=
  if b then "true" else "false"

end GrammarCheck.Text
