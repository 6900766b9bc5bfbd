import GrammarCheck.FileSystem.Basic
import GrammarCheck.Text.Numeral

/-!
# Failures

Why a grammar could not be had. A library file may be unreadable, unusable or without the entry
point; a language may be missing, of the wrong version, or empty. Whatever the cause, the failure
to load a grammar reads the same and keeps the cause for the details.

* `LibraryError`: the failures of opening a library file.
* `LoadFailure`: the causes of a failed load, library errors among them.
* `LoadError`: the failure that is reported, with the name of the grammar.

Each has its text, and the chain of the texts below it in `sources`.
-/

namespace GrammarCheck

/-! ### Library files -/

/-- Why a library file gives no grammar. -/
inductive LibraryError where
  | unusable (path : Path) (reason : String)
  | missingSymbol (path : Path) (symbol : String)
  | unreadable (path : Path) (cause : IoError)
  deriving Repr, DecidableEq

namespace LibraryError

/-- The text of a library error. -/
def message : LibraryError → String
  | unusable path reason =>
    "cannot open grammar library '" ++ path.display ++ "': " ++ reason
  | missingSymbol path symbol =>
    "grammar library '" ++ path.display ++ "' does not export `" ++ symbol ++ "`"
  | unreadable path cause =>
    "cannot read grammar library '" ++ path.display ++ "': " ++ cause.message

/-- The texts of the causes below a library error. -/
def sources : LibraryError → List String
  | unusable _ _ | missingSymbol _ _ => []
  | unreadable _ cause => [cause.message]

end LibraryError

/-! ### Loading -/

/-- The oldest version of language tables that the runtime accepts. -/
def oldestAbi : Nat := 13

/-- The newest version of language tables that the runtime accepts. -/
def newestAbi : Nat := 15

/-- Why a handle gives no loaded grammar. `rejected` is the refusal by the runtime's parser of the
version it names. -/
inductive LoadFailure where
  | nullHandle
  | incompatibleAbi (found min max : Nat)
  | rejected (version : Nat)
  | noNodeKinds
  | library (error : LibraryError)
  deriving Repr, DecidableEq

namespace LoadFailure

/-- The words in which the parser refuses a version. -/
def refusal (version : Nat) : String :=
  "Incompatible language version " ++ Text.decimal version ++ ". Expected minimum "
    ++ Text.decimal oldestAbi ++ ", maximum " ++ Text.decimal newestAbi

/-- The text of a cause. -/
def message : LoadFailure → String
  | nullHandle => "language handle is null"
  | incompatibleAbi found min max =>
    "ABI version " ++ Text.decimal found ++ " is outside the supported range "
      ++ Text.decimal min ++ "..=" ++ Text.decimal max
  | rejected version => "parser rejected the language: " ++ refusal version
  | noNodeKinds => "language declares no node kinds"
  | library error => error.message

/-- The texts of the causes below a cause. -/
def sources : LoadFailure → List String
  | rejected version => [refusal version]
  | library error => error.sources
  | nullHandle | incompatibleAbi _ _ _ | noNodeKinds => []

end LoadFailure

/-- A grammar that could not be loaded, under its display name. -/
structure LoadError where
  grammar : String
  cause : LoadFailure
  deriving Repr, DecidableEq

namespace LoadError

/-- The text of a load error does not depend on the cause. -/
def message (e : LoadError) : String :=
  "Error loading " ++ e.grammar ++ " grammar"

/-- The text of the cause. -/
def detail (e : LoadError) : String :=
  e.cause.message

/-- The texts of the cause and of the causes below it. -/
def sources (e : LoadError) : List String :=
  e.detail :: e.cause.sources

end LoadError

end GrammarCheck
