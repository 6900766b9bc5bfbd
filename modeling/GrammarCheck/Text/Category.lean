import GrammarCheck.Text.CategoryTable

/-!
# General categories

The Unicode character database puts every code point into one of thirty general categories.

* `Category.has`: whether a category has a code point.
* `Category.letters`, `Category.marks`, …: the categories of one kind.
-/

namespace GrammarCheck.Text

/-- The general categories. -/
inductive Category where
  | uppercaseLetter
  | lowercaseLetter
  | titlecaseLetter
  | modifierLetter
  | otherLetter
  | nonspacingMark
  | spacingMark
  | enclosingMark
  | decimalNumber
  | letterNumber
  | otherNumber
  | connectorPunctuation
  | dashPunctuation
  | openPunctuation
  | closePunctuation
  | initialPunctuation
  | finalPunctuation
  | otherPunctuation
  | mathSymbol
  | currencySymbol
  | modifierSymbol
  | otherSymbol
  | spaceSeparator
  | lineSeparator
  | paragraphSeparator
  | control
  | format
  | surrogate
  | privateUse
  | unassigned
  deriving Repr, DecidableEq

namespace Category

open CategoryTable in
/-- The stretches of a category that has a table. -/
def stretches : Category → List Stretch
  | uppercaseLetter => uppercaseLetters
  | lowercaseLetter => lowercaseLetters
  | titlecaseLetter => titlecaseLetters
  | modifierLetter => modifierLetters
  | otherLetter => otherLetters
  | nonspacingMark => nonspacingMarks
  | spacingMark => spacingMarks
  | enclosingMark => enclosingMarks
  | decimalNumber => decimalNumbers
  | letterNumber => letterNumbers
  | otherNumber => otherNumbers
  | connectorPunctuation => connectorPunctuations
  | dashPunctuation => dashPunctuations
  | openPunctuation => openPunctuations
  | closePunctuation => closePunctuations
  | initialPunctuation => initialPunctuations
  | finalPunctuation => finalPunctuations
  | otherPunctuation => otherPunctuations
  | mathSymbol => mathSymbols
  | currencySymbol => currencySymbols
  | modifierSymbol => modifierSymbols
  | otherSymbol => otherSymbols
  | spaceSeparator => spaceSeparators
  | lineSeparator => lineSeparators
  | paragraphSeparator => paragraphSeparators
  | control => controls
  | format => formats
  | surrogate => [⟨0xd800, 0xdfff, 1⟩]
  | privateUse => privateUses
  | unassigned => []

/-! ### Kinds of categories -/

/-- The categories of letters. -/
def letters : List Category :=
  [uppercaseLetter, lowercaseLetter, titlecaseLetter, modifierLetter, otherLetter]

/-- The categories of letters that have case. -/
def casedLetters : List Category :=
  [uppercaseLetter, lowercaseLetter, titlecaseLetter]

/-- The categories of marks. -/
def marks : List Category :=
  [nonspacingMark, spacingMark, enclosingMark]

/-- The categories of numbers. -/
def numbers : List Category :=
  [decimalNumber, letterNumber, otherNumber]

/-- The categories of punctuation. -/
def punctuation : List Category :=
  [connectorPunctuation, dashPunctuation, openPunctuation, closePunctuation, initialPunctuation,
   finalPunctuation, otherPunctuation]

/-- The categories of signs. -/
def symbols : List Category :=
  [mathSymbol, currencySymbol, modifierSymbol, otherSymbol]

/-- The categories of separators. -/
def separators : List Category :=
  [spaceSeparator, lineSeparator, paragraphSeparator]

/-- The categories of characters with no shape of their own, apart from those of separators. -/
def others : List Category :=
  [control, format, surrogate, privateUse, unassigned]

/-- The categories that have code points of their own. -/
def assigned : List Category :=
  letters ++ marks ++ numbers ++ punctuation ++ symbols ++ separators
    ++ [control, format, surrogate, privateUse]

/-! ### Membership -/

/-- A category has a code point if one of its stretches covers it; the code points that no other
category has are unassigned. -/
def has (g : Category) (n : Nat) : Bool :=
  match g with
  | unassigned => !assigned.any fun g => g.stretches.any (·.covers n)
  | g => g.stretches.any (·.covers n)

end Category

end GrammarCheck.Text
