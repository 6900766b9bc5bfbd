import GrammarCheck.Path
import GrammarCheck.Registry

/-!
# Names of grammars

The name of a grammar gives the symbol of its entry point and the name it is displayed under. A
library file gives the name of the grammar it holds.

* `symbolName`: the entry point of a grammar.
* `displayName`: the name in reports.
* `grammarName?`: the grammar that a library file holds, by the name of the file.
* `NamedLibrary`: a library file under the name of its grammar.
-/

namespace GrammarCheck

/-- The character of a symbol that stands for a character of a grammar's name. -/
def symbolChar (c : Char) : Char :=
  if c = '-' then '_' else c

/-- The entry point of a grammar: the lower case of its name after a fixed start, with underscores
for hyphens. -/
def symbolName (name : String) : String :=
  "tree_sitter_" ++ String.ofList ((Text.lower name).toList.map symbolChar)

/-- The name a grammar is displayed under: that of the bundled grammar, if it is one, else its name
with a capital at the start. Bundled grammars have the same names in every build. -/
def displayName (name : String) : String :=
  match @findBundled? .withoutCairo name with
  | some g => g.displayName
  | none => Text.capitalize name

/-! ### Library files -/

/-- The extensions of library files, in lower case. -/
def libraryExtensions : List String :=
  ["so", "dylib", "dll"]

/-- What the name of a library file may begin with before the name of the grammar. -/
def libraryStarts : List String :=
  ["libtree-sitter-", "tree-sitter-"]

/-- The characters that the name of a grammar in a file name consists of. -/
def isNameChar (c : Char) : Bool :=
  c.isAlphanum || c == '-' || c == '_'

/-- What follows the first of the known starts that a stem has, or the whole stem. -/
def dropLibraryStart (stem : List Char) : List Char :=
  (libraryStarts.findSome? fun start => start.toList.isPrefixOf? stem).getD stem

/-- The name of the grammar that a stem spells: what follows a known start, in lower case, if it
consists of characters of a name. -/
def nameOfStem? (stem : String) : Option String :=
  let name := dropLibraryStart stem.toList
  if name ≠ [] ∧ name.all isNameChar then some (Text.lower (String.ofList name)) else none

/-- The name of the grammar that a library file holds. A path that does not end in the name of a
library file gives none. -/
def grammarName? (p : Path) : Option String := do
  let (stem, extension) ← splitExtension? (← p.fileName?)
  let extension ← Text.Utf8.decode? extension
  if Text.lower extension ∈ libraryExtensions then
    nameOfStem? (← Text.Utf8.decode? stem)
  else none

/-- A library file, under the name of the grammar that is taken from it. -/
structure NamedLibrary where
  name : String
  path : Path
  deriving Repr, DecidableEq

/-- The library file at a path, under the name that the path gives. -/
def NamedLibrary.ofPath? (p : Path) : Option NamedLibrary :=
  (grammarName? p).map (⟨·, p⟩)

end GrammarCheck
