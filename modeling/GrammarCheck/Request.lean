import GrammarCheck.FileSystem.Basic
import GrammarCheck.Naming
import GrammarCheck.Text.Layout

/-!
# Requests

A request selects grammars in several ways at once: by name, all that are linked, by library file,
by directory, and by a library file that stands in for the bundled Cairo. It may name a sample to be
parsed with each of them.

* `Request`: what is to be checked.
* `RequestError`: why a request is refused.
* `NamedLibrary.parse`: the library file that a value of the command line asks for.
-/

namespace GrammarCheck

/-- What is to be checked, and how. -/
structure Request where
  grammars : List String := []
  all : Bool := false
  libraries : List String := []
  libraryDir? : Option Path := none
  cairoLibrary? : Option Path := none
  sample? : Option Path := none
  strict : Bool := false
  deriving Repr, DecidableEq

/-- Why a request is refused. -/
inductive RequestError where
  | unreadableSample (path : Path) (cause : IoError)
  | cairoNotSelected
  | unknownGrammar (name : String)
  | invalidLibraryValue (value : String)
  | unnamedLibrary (value : String)
  | missingDirectory (path : Path)
  deriving Repr, DecidableEq

/-- The environment variable that names a library file for Cairo. -/
def cairoLibraryVariable : String := "TREE_SITTER_CAIRO_LIB"

/-- The text of a refusal. -/
def RequestError.message : RequestError → String
  | unreadableSample path cause =>
    "cannot read sample '" ++ path.display ++ "': " ++ cause.message
  | cairoNotSelected =>
    "a Cairo library was given (" ++ cairoLibraryVariable
      ++ " or --cairo-library) but cairo is not selected; add --grammar cairo or --all"
  | unknownGrammar name =>
    "unknown grammar '" ++ name ++ "'; use --library to check a grammar library"
  | invalidLibraryValue value =>
    "invalid --library value '" ++ value ++ "', expected NAME=PATH"
  | unnamedLibrary value =>
    "cannot infer grammar name from '" ++ value ++ "'; use NAME=PATH"
  | missingDirectory path => "library directory '" ++ path.display ++ "' does not exist"

namespace Request

/-- Grammars are selected by name, by library file or by directory. -/
def isExplicit (r : Request) : Bool :=
  !r.grammars.isEmpty || !r.libraries.isEmpty || r.libraryDir?.isSome

/-- The names of the grammars that are selected by name: Cairo alone when nothing is selected. -/
def names (r : Request) : List String :=
  if !r.isExplicit && !r.all then [cairoName] else r.grammars

/-- Cairo is among the selected grammars. The case of the ASCII letters does not matter. -/
def selectsCairo (r : Request) : Bool :=
  r.all || r.names.any fun name => name.toLower == cairoName

end Request

/-! ### Library values -/

namespace NamedLibrary

/-- Reads `NAME=PATH`, cut at the first equals sign, or a path alone, which gives the name by
itself. -/
def parse (value : String) : Except RequestError NamedLibrary :=
  match Text.cut? '=' value with
  | some (name, path) =>
    if name = "" ∨ path = "" then .error (.invalidLibraryValue value)
    else .ok ⟨Text.lower name, .ofText path⟩
  | none =>
    match ofPath? (.ofText value) with
    | some library => .ok library
    | none => .error (.unnamedLibrary value)

end NamedLibrary

end GrammarCheck
