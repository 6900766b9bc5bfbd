import GrammarCheck.Plan
import GrammarCheck.Text.ControlSequence

/-!
# Help texts

* `helpText`: the help on a topic.
* `versionText`: the version of the program.
-/

namespace GrammarCheck.CommandLine

/-- What there is help on: the program and each of its commands. -/
inductive HelpTopic where
  | program
  | check
  | list
  | help
  deriving Repr, DecidableEq

/-- The name and the version of the program. -/
def versionText : String :=
  "grammar-smoke 0.1.0\n"

/-- The help on the program. -/
def programHelp : List String :=
  ["Check that compiled tree-sitter grammars load",
   "",
   "Usage: grammar-smoke <COMMAND>",
   "",
   "Commands:",
   "  check  Load grammars with the tree-sitter runtime and report pass/fail",
   "  list   List known grammars and grammar libraries",
   "  help   Print this message or the help of the given subcommand(s)",
   "",
   "Options:",
   "  -h, --help     Print help",
   "  -V, --version  Print version"]

/-- The column in which the descriptions of the options of `check` stand. -/
def checkColumn : Nat := 39

/-- The help on `check`, with the value of the environment variable for Cairo. If that has line
breaks, what follows them stands in the column of the descriptions. -/
def checkHelp (cairoLibrary : String) : List String :=
  ["Load grammars with the tree-sitter runtime and report pass/fail",
   "",
   "Usage: grammar-smoke check [OPTIONS]",
   "",
   "Options:",
   "  -g, --grammar <GRAMMARS>             Grammar to check (repeatable); defaults to cairo",
   "      --all                            Check every grammar linked into this binary",
   "      --library <LIBRARIES>            Grammar shared library to check, as PATH or NAME=PATH "
     ++ "(repeatable)",
   "      --library-dir <LIBRARY_DIR>      Check every grammar library found in this directory",
   "      --cairo-library <CAIRO_LIBRARY>  Compiled Cairo grammar library used instead of the "
     ++ "linked parser [env: " ++ cairoLibraryVariable ++ "="
     ++ Text.hangingIndent checkColumn cairoLibrary ++ "]",
   "      --sample <SAMPLE>                Source file parsed with each grammar after it loads",
   "      --strict                         Fail a grammar whose sample parse contains "
     ++ "syntax errors",
   "      --json                           Print the report as JSON",
   "  -h, --help                           Print help"]

/-- The help on `list`. -/
def listHelp : List String :=
  ["List known grammars and grammar libraries",
   "",
   "Usage: grammar-smoke list [OPTIONS]",
   "",
   "Options:",
   "      --library-dir <LIBRARY_DIR>  Also list grammar libraries found in this directory",
   "  -h, --help                       Print help"]

/-- The help on `help`. -/
def helpHelp : List String :=
  ["Print this message or the help of the given subcommand(s)",
   "",
   "Usage: grammar-smoke help [COMMAND]...",
   "",
   "Arguments:",
   "  [COMMAND]...  Print help for the subcommand(s)"]

/-- The help on a topic, every line with its end. It shows no control sequences. -/
def helpText (cairoLibrary? : Option String) (topic : HelpTopic) : String :=
  let lines :=
    match topic with
    | .program => programHelp
    | .check => checkHelp (cairoLibrary?.getD "")
    | .list => listHelp
    | .help => helpHelp
  Text.withoutControls (String.join (lines.map (· ++ "\n")))

end GrammarCheck.CommandLine
