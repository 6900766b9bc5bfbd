import GrammarCheck.Text.Numeral

/-!
# JSON

The values that reports are made of, and their two written forms. Strings are escaped as little as
JSON allows: the quote, the backslash and the control characters.

* `Json.compact`: the form without blanks.
* `Json.pretty`: the form with a line for each member, indented by two spaces for each level.
-/

namespace GrammarCheck

/-- A JSON value. The numbers of reports are counts. The members of an object keep their order. -/
inductive Json where
  | bool (b : Bool)
  | number (n : Nat)
  | string (s : String)
  | array (items : List Json)
  | object (members : List (String × Json))
  deriving Repr

namespace Json

/-! ### Scalars -/

/-- A character inside a JSON string. -/
def escapeChar (c : Char) : List Char :=
  if c = '"' then ['\\', '"']
  else if c = '\\' then ['\\', '\\']
  else if c = '\x08' then ['\\', 'b']
  else if c = '\x0c' then ['\\', 'f']
  else if c = '\n' then ['\\', 'n']
  else if c = '\r' then ['\\', 'r']
  else if c = '\t' then ['\\', 't']
  else if c.toNat < 0x20 then
    ['\\', 'u', '0', '0', Text.smallHexDigit (c.toNat / 16), Text.smallHexDigit (c.toNat % 16)]
  else [c]

/-- A text as a JSON string. -/
def quoted (s : String) : String :=
  String.ofList (['"'] ++ s.toList.flatMap escapeChar ++ ['"'])

/-! ### The compact form -/

mutual

/-- A value without blanks. -/
def compact : Json → String
  | bool b => Text.truth b
  | number n => Text.decimal n
  | string s => quoted s
  | array items => "[" ++ compactItems items ++ "]"
  | object members => "\x7b" ++ compactMembers members ++ "\x7d"

/-- The items of an array with commas between them. -/
def compactItems : List Json → String
  | [] => ""
  | [j] => j.compact
  | j :: rest => j.compact ++ "," ++ compactItems rest

/-- The members of an object with commas between them. -/
def compactMembers : List (String × Json) → String
  | [] => ""
  | [(key, j)] => quoted key ++ ":" ++ j.compact
  | (key, j) :: rest => quoted key ++ ":" ++ j.compact ++ "," ++ compactMembers rest

end

/-! ### The pretty form -/

/-- The start of a line at a level. -/
def newLine (level : Nat) : String :=
  "\n" ++ String.ofList (List.replicate (2 * level) ' ')

mutual

/-- A value with a line for each member, standing at a level. Empty arrays and objects stay on one
line. -/
def prettyAt (level : Nat) : Json → String
  | bool b => Text.truth b
  | number n => Text.decimal n
  | string s => quoted s
  | array [] => "[]"
  | array items => "[" ++ prettyItems (level + 1) items ++ newLine level ++ "]"
  | object [] => "\x7b\x7d"
  | object members => "\x7b" ++ prettyMembers (level + 1) members ++ newLine level ++ "\x7d"

/-- The items of an array, each on lines of its own at a level. -/
def prettyItems (level : Nat) : List Json → String
  | [] => ""
  | [j] => newLine level ++ j.prettyAt level
  | j :: rest => newLine level ++ j.prettyAt level ++ "," ++ prettyItems level rest

/-- The members of an object, each on lines of its own at a level. -/
def prettyMembers (level : Nat) : List (String × Json) → String
  | [] => ""
  | [(key, j)] => newLine level ++ quoted key ++ ": " ++ j.prettyAt level
  | (key, j) :: rest =>
    newLine level ++ quoted key ++ ": " ++ j.prettyAt level ++ "," ++ prettyMembers level rest

end

/-- A value with a line for each member. -/
def pretty (j : Json) : String :=
  j.prettyAt 0

end Json

end GrammarCheck
