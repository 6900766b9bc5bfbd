import GrammarCheck.Text.Numeral
import GrammarCheck.Text.Unprintable
import GrammarCheck.Text.Utf8

/-!
# Quoted text

Text in double quotes, for values shown to a developer. A quote and a backslash are escaped, the
usual white space and the zero character have letters of their own, and any other character that
cannot be seen is spelled out by its code point. A byte string is quoted through the characters it
encodes; its broken bytes are spelled out one by one.

* `quote`: a text in quotes.
* `quoteBytes`: a byte string in quotes.
-/

namespace GrammarCheck.Text

/-- A character inside quotes. -/
def quotedChar (c : Char) : List Char :=
  if c = '"' then ['\\', '"']
  else if c = '\\' then ['\\', '\\']
  else if c = '\n' then ['\\', 'n']
  else if c = '\r' then ['\\', 'r']
  else if c = '\t' then ['\\', 't']
  else if c = '\x00' then ['\\', '0']
  else if isUnprintable c then ['\\', 'u', '\x7b'] ++ hexDigits c.toNat ++ ['\x7d']
  else [c]

/-- A part of a byte string inside quotes. -/
def quotedPiece : Utf8.Piece → List Char
  | .char c => quotedChar c
  | .broken bytes => bytes.flatMap fun b => ['\\', 'x'] ++ twoHexDigits capitalHexDigit b

/-- A text in double quotes. -/
def quote (s : String) : String :=
  String.ofList (['"'] ++ s.toList.flatMap quotedChar ++ ['"'])

/-- A byte string in double quotes. -/
def quoteBytes (bytes : List UInt8) : String :=
  String.ofList (['"'] ++ (Utf8.pieces bytes).flatMap quotedPiece ++ ['"'])

end GrammarCheck.Text
