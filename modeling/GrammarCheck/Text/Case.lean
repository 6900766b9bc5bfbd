import GrammarCheck.Text.CaseTable
import GrammarCheck.Text.CaseContext

/-!
# Lower case and upper case

Case conversion as the Unicode standard defines it, independent of any locale.

* `lowerChar`, `upperChar`: the mapping of a single character, to one or more characters.
* `lower`: the lower case of a text. Every character is mapped on its own, except the capital
  sigma, which becomes a final sigma at the end of a word and a medial one elsewhere.
* `capitalize`: the text with its first character in upper case.
-/

namespace GrammarCheck.Text

/-! ### Single characters -/

/-- The images of a character beyond ASCII under a table of runs and a table of expansions; a
character that neither table lists is its own image. -/
def mapWith (ranges : List CaseRange) (expansions : List (Nat × List Nat)) (c : Char) :
    List Char :=
  match expansions.lookup c.toNat with
  | some ns => ns.map Char.ofNat
  | none =>
    match ranges.find? (·.covers c.toNat) with
    | some r => [Char.ofNat (r.image c.toNat)]
    | none => [c]

/-- The lower case of a character. A capital sigma becomes a medial sigma. -/
def lowerChar (c : Char) : List Char :=
  if c.toNat < 128 then [c.toLower] else mapWith lowerRanges lowerExpansions c

/-- The upper case of a character, which may be several characters. -/
def upperChar (c : Char) : List Char :=
  if c.toNat < 128 then [c.toUpper] else mapWith upperRanges upperExpansions c

/-! ### Words and the final sigma -/

/-- The capital, medial and final forms of the letter sigma. -/
def capitalSigma : Char := 'Σ'

@[inherit_doc capitalSigma]
def medialSigma : Char := 'σ'

@[inherit_doc capitalSigma]
def finalSigma : Char := 'ς'

/-- The first character that is not case-ignorable has case. -/
def startsCased (cs : List Char) : Bool :=
  (cs.dropWhile isCaseIgnorable).head?.any isCased

/-- A sigma ends a word when a cased character precedes it and none follows, in both directions
past case-ignorable characters. `before` lists the preceding characters, the nearest first. -/
def endsWord (before after : List Char) : Bool :=
  startsCased before && !startsCased after

/-- The lower case of the characters `cs` that stand after `before`, whose nearest character comes
first. -/
def lowerAfter (before : List Char) : List Char → List Char
  | [] => []
  | c :: rest =>
    (if c = capitalSigma then [if endsWord before rest then finalSigma else medialSigma]
      else lowerChar c) ++ lowerAfter (c :: before) rest

/-- The lower case of a text. -/
def lower (s : String) : String :=
  String.ofList (lowerAfter [] s.toList)

/-- The text with its first character in upper case and the rest as it is. -/
def capitalize (s : String) : String :=
  match s.toList with
  | [] => ""
  | c :: rest => String.ofList (upperChar c ++ rest)

end GrammarCheck.Text
