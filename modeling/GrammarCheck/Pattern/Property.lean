import GrammarCheck.Pattern.CharSet
import GrammarCheck.Pattern.Expression
import GrammarCheck.Text.PropertyTable
import GrammarCheck.Text.ScriptTable

/-!
# Classes and properties by name

A pattern names sets of characters: classes of ASCII, general categories, scripts, and properties
that a character has or has not. Names of properties are compared without case, spaces, hyphens and
underscores, and without a leading `is`.

* `NamedClass.set`: the characters of a class of ASCII.
* `Property.set?`: the characters of a property, or why there is none.
-/

namespace GrammarCheck.Pattern

open Text (Category)

/-- The characters of a class of ASCII. -/
def NamedClass.set : NamedClass → CharSet
  | alnum => .table [(0x30, 0x39), (0x41, 0x5a), (0x61, 0x7a)]
  | alpha => .table [(0x41, 0x5a), (0x61, 0x7a)]
  | ascii => .interval 0x00 0x7f
  | blank => .table [(0x09, 0x09), (0x20, 0x20)]
  | cntrl => .table [(0x00, 0x1f), (0x7f, 0x7f)]
  | digit => .interval 0x30 0x39
  | graph => .interval 0x21 0x7e
  | lower => .interval 0x61 0x7a
  | print => .interval 0x20 0x7e
  | punct => .table [(0x21, 0x2f), (0x3a, 0x40), (0x5b, 0x60), (0x7b, 0x7e)]
  | space => .table [(0x09, 0x0d), (0x20, 0x20)]
  | upper => .interval 0x41 0x5a
  | word => .table [(0x30, 0x39), (0x41, 0x5a), (0x5f, 0x5f), (0x61, 0x7a)]
  | xdigit => .table [(0x30, 0x39), (0x41, 0x46), (0x61, 0x66)]

namespace CharSet

/-- The letters and what else writes words. -/
def alphabetic : CharSet :=
  .union
    (.table [(0x24b6, 0x24e9), (0x1f130, 0x1f149), (0x1f150, 0x1f169), (0x1f170, 0x1f189)])
    (.union (.table Text.PropertyTable.alphabeticMarks)
      (categories (Category.letters ++ [.letterNumber])))

/-- All numbers. -/
def numeric : CharSet := categories Category.numbers

/-- What is of lower case. -/
def lowercase : CharSet :=
  .union (.category .lowercaseLetter) (.table Text.PropertyTable.otherLowercase)

/-- What is of upper case. -/
def uppercase : CharSet :=
  .union (.category .uppercaseLetter) (.table Text.PropertyTable.otherUppercase)

open Text.PropertyTable in
/-- What identifiers start with. -/
def identifierStarts : CharSet :=
  .diff
    (.union (.table otherIdentifierStarts) (categories (Category.letters ++ [.letterNumber])))
    (.union (.table patternSigns) (.table patternSpaces))

open Text.PropertyTable in
/-- What identifiers consist of. -/
def identifierParts : CharSet :=
  .diff
    (.union identifierStarts
      (.union (.table otherIdentifierParts)
        (categories [.nonspacingMark, .spacingMark, .decimalNumber, .connectorPunctuation])))
    (.union (.table patternSigns) (.table patternSpaces))

open Text.PropertyTable in
/-- What identifiers consist of in every normal form. -/
def stableIdentifierParts : CharSet :=
  .diff identifierParts (.table unstableIdentifierParts)

open Text.PropertyTable in
/-- What identifiers start with in every normal form. -/
def stableIdentifierStarts : CharSet :=
  .diff identifierStarts
    (.union (.table unstableIdentifierParts) (.table unstableIdentifierStarts))

end CharSet

namespace Property

/-- A name without what is passed over in comparisons. The one short name that begins with `is`
keeps it. -/
def plainName (name : String) : String :=
  let cs := name.toList
  let hasIs := (cs.take 2).map Char.toLower = ['i', 's']
  let kept := (if hasIs then cs.drop 2 else cs).filter fun c =>
    c.toNat < 0x80 && c != ' ' && c != '_' && c != '-'
  let plain := String.ofList (kept.map Char.toLower)
  if hasIs ∧ plain = "c" then "isc" else plain

open Text.PropertyTable in
/-- The intervals of a property that has a table, by its plain name. -/
def table? : String → Option (List (Nat × Nat))
  | "cased" => some Text.casedIntervals
  | "ci" | "caseignorable" => some Text.caseIgnorableIntervals
  | "hex" | "hexdigit" => some hexDigits
  | "emoji" => some emoji
  | "epres" | "emojipresentation" => some emojiPresentation
  | "emod" | "emojimodifier" => some emojiModifiers
  | "ebase" | "emojimodifierbase" => some emojiModifierBases
  | "ecomp" | "emojicomponent" => some emojiComponents
  | "extpict" | "extendedpictographic" => some pictographs
  | "math" => some mathSigns
  | "dash" => some dashes
  | "dia" | "diacritic" => some diacritics
  | "ext" | "extender" => some extenders
  | "ideo" | "ideographic" => some ideographs
  | "uideo" | "unifiedideograph" => some unifiedIdeographs
  | "nchar" | "noncharactercodepoint" => some noncharacters
  | "qmark" | "quotationmark" => some quotationMarks
  | "vs" | "variationselector" => some variationSelectors
  | "patws" | "patternwhitespace" => some patternSpaces
  | "patsyn" | "patternsyntax" => some patternSigns
  | "sd" | "softdotted" => some softDotted
  | "sterm" | "sentenceterminal" => some sentenceEnds
  | "term" | "terminalpunctuation" => some terminalPunctuation
  | "bidic" | "bidicontrol" => some bidiControls
  | "bidim" | "bidimirrored" => some bidiMirrored
  | "dep" | "deprecated" => some deprecated
  | "radical" => some radicals
  | "loe" | "logicalorderexception" => some logicalOrderExceptions
  | "idsb" | "idsbinaryoperator" => some binaryDescriptions
  | "idst" | "idstrinaryoperator" => some ternaryDescriptions
  | "di" | "defaultignorablecodepoint" => some defaultIgnorable
  | _ => none

/-- The set of a property that a character has or has not, by its plain name. -/
def binary? : String → Option CharSet
  | "alpha" | "alphabetic" => some .alphabetic
  | "lower" | "lowercase" => some .lowercase
  | "upper" | "uppercase" => some .uppercase
  | "space" | "wspace" | "whitespace" => some .spaces
  | "joinc" | "joincontrol" => some (.interval 0x200c 0x200d)
  | "ri" | "regionalindicator" => some (.interval 0x1f1e6 0x1f1ff)
  | "ahex" | "asciihexdigit" => some NamedClass.xdigit.set
  | "ids" | "idstart" => some .identifierStarts
  | "idc" | "idcontinue" => some .identifierParts
  | "xids" | "xidstart" => some .stableIdentifierStarts
  | "xidc" | "xidcontinue" => some .stableIdentifierParts
  | name => (table? name).map .table

/-- The categories that a plain name stands for. -/
def categories? : String → Option (List Category)
  | "l" | "letter" => some Category.letters
  | "lc" | "casedletter" => some Category.casedLetters
  | "lu" | "uppercaseletter" => some [.uppercaseLetter]
  | "ll" | "lowercaseletter" => some [.lowercaseLetter]
  | "lt" | "titlecaseletter" => some [.titlecaseLetter]
  | "lm" | "modifierletter" => some [.modifierLetter]
  | "lo" | "otherletter" => some [.otherLetter]
  | "m" | "mark" | "combiningmark" => some Category.marks
  | "mn" | "nonspacingmark" => some [.nonspacingMark]
  | "mc" | "spacingmark" => some [.spacingMark]
  | "me" | "enclosingmark" => some [.enclosingMark]
  | "n" | "number" => some Category.numbers
  | "nd" | "decimalnumber" | "digit" => some [.decimalNumber]
  | "nl" | "letternumber" => some [.letterNumber]
  | "no" | "othernumber" => some [.otherNumber]
  | "p" | "punctuation" | "punct" => some Category.punctuation
  | "pc" | "connectorpunctuation" => some [.connectorPunctuation]
  | "pd" | "dashpunctuation" => some [.dashPunctuation]
  | "ps" | "openpunctuation" => some [.openPunctuation]
  | "pe" | "closepunctuation" => some [.closePunctuation]
  | "pi" | "initialpunctuation" => some [.initialPunctuation]
  | "pf" | "finalpunctuation" => some [.finalPunctuation]
  | "po" | "otherpunctuation" => some [.otherPunctuation]
  | "s" | "symbol" => some Category.symbols
  | "sm" | "mathsymbol" => some [.mathSymbol]
  | "sc" | "currencysymbol" => some [.currencySymbol]
  | "sk" | "modifiersymbol" => some [.modifierSymbol]
  | "so" | "othersymbol" => some [.otherSymbol]
  | "z" | "separator" => some Category.separators
  | "zs" | "spaceseparator" => some [.spaceSeparator]
  | "zl" | "lineseparator" => some [.lineSeparator]
  | "zp" | "paragraphseparator" => some [.paragraphSeparator]
  | "c" | "other" => some Category.others
  | "cc" | "control" | "cntrl" => some [.control]
  | "cf" | "format" => some [.format]
  | "co" | "privateuse" => some [.privateUse]
  | "cn" | "unassigned" => some [.unassigned]
  | _ => none

/-- The set of a general category, or of all characters that are assigned, in ASCII, or any, by its
plain name. -/
def category? : String → Option CharSet
  | "any" => some .all
  | "ascii" => some (.interval 0x00 0x7f)
  | "assigned" => some (.compl (.category .unassigned))
  | name => (categories? name).map CharSet.categories

/-- The set of a script, by its plain name or its short name. Two scripts have another short name
from before they were named. -/
def script? (name : String) : Option CharSet :=
  let name := if name = "qaai" then "zinh" else if name = "qaac" then "copt" else name
  (Text.scripts.find? fun s => s.name == name || s.shortName == name).map (.table ·.intervals)

/-- The set of a property by its name alone: that of a property which a character has or has not,
else that of a general category, else that of a script. -/
def ofName? (name : String) : Option CharSet :=
  binary? name <|> category? name <|> script? name

/-- The set of a value of a property. -/
def ofValue? (name value : String) : Except Fault CharSet :=
  let found (s? : Option CharSet) : Except Fault CharSet :=
    match s? with
    | some s => .ok s
    | none => .error .propertyValueNotFound
  match name with
  | "gc" | "generalcategory" => found (category? value)
  | "sc" | "script" => found (script? value)
  | _ => .error .propertyNotFound

/-- The characters of a property, or why there is none. -/
def set? : Property → Except Fault CharSet
  | named name =>
    match ofName? (plainName name) with
    | some s => .ok s
    | none =>
      .error (if plainName name = "cs" ∨ plainName name = "surrogate" then .propertyValueNotFound
        else .propertyNotFound)
  | valued name value => ofValue? (plainName name) (plainName value)

end Property

end GrammarCheck.Pattern
