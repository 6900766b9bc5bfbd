import GrammarCheck.Text.Record

/-!
# Compiled grammars

A compiled grammar is reached through an entry point; calling the entry point gives its language
tables, or nothing. A `Handle` is an entry point under a display name, and may have no entry point
at all.

* `Language`: what the tables declare, with their number of node kinds.
* `EntryPoint`, `Image`: what a call returns, and which entry points a library file exports.
* `Handle`: what is given to the loader.
-/

namespace GrammarCheck

/-- The tables of a compiled grammar. `tables` tells the tables of one grammar from those of
another. -/
structure Language where
  tables : String
  abiVersion : UInt32
  symbolCount : UInt32
  aliasCount : UInt32
  deriving Repr, DecidableEq

/-- The symbols and their aliases are the node kinds of a language, counted in thirty-two bits. -/
def Language.nodeKindCount (l : Language) : UInt32 :=
  l.symbolCount + l.aliasCount

/-- An entry point, by what a call of it returns; `none` is the null pointer. -/
structure EntryPoint where
  returns? : Option Language
  deriving Repr, DecidableEq

/-! ### Library files -/

/-- What the dynamic loader makes of the content of a file: it rejects it for a reason, or maps it
with the entry points it exports. -/
inductive Image where
  | rejected (reason : String)
  | exporting (entries : List (String × EntryPoint))
  deriving Repr, DecidableEq

/-- The name that a symbol is looked up by: one zero character at its end is its terminator. Any
other zero character leaves no name. -/
def exportedName? (symbol : String) : Option String :=
  let name :=
    match symbol.toList.reverse with
    | '\x00' :: rest => rest.reverse
    | _ => symbol.toList
  if '\x00' ∈ name then none else some (String.ofList name)

/-- The entry point that a list of exports holds under a symbol. -/
def findExport? (entries : List (String × EntryPoint)) (symbol : String) : Option EntryPoint :=
  (exportedName? symbol).bind fun name => entries.lookup name

/-! ### Handles -/

/-- A grammar ready to be loaded. `name` is the display name that errors show; `shared` tells that
the tables live in a library file. -/
structure Handle where
  name : String
  entry? : Option EntryPoint
  shared : Bool := false
  deriving Repr, DecidableEq

namespace Handle

/-- The language behind a handle. -/
def language? (h : Handle) : Option Language :=
  h.entry?.bind EntryPoint.returns?

/-- There is no entry point, or it returns nothing. -/
def isAbsent (h : Handle) : Bool :=
  h.language?.isNone

/-- The handle as a record for developers. -/
def record (h : Handle) : Text.Record :=
  { name := "LanguageHandle"
    fields :=
      [("name", Text.quote h.name),
       ("absent", Text.truth h.isAbsent),
       ("shared_library", Text.truth h.shared)] }

end Handle

end GrammarCheck
