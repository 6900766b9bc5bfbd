import GrammarCheck.CommandLine.Help
import GrammarCheck.CommandLine.Options

/-!
# The command line

The first argument names a command or asks for help or for the version; the others belong to the
command.

* `Invocation`: what a command line asks for.
* `invocation`: reads a command line.
-/

namespace GrammarCheck.CommandLine

/-- The environment variables that the program looks at. -/
structure Environment where
  cairoLibrary? : Option String := none
  logFilter? : Option String := none
  deriving Repr, DecidableEq

/-- What a command line asks for. -/
inductive Invocation where
  | check (request : Request) (asJson : Bool)
  | list (libraryDir? : Option Path)
  | help (topic : HelpTopic)
  | version
  | misuse
  deriving Repr, DecidableEq

/-! ### Commands -/

/-- The options of `check`. -/
def checkOptions : List OptionSpec :=
  [.texts "grammar" (some 'g'),
   .flag "all",
   .texts "library" none,
   .path "library-dir",
   .path "cairo-library",
   .path "sample",
   .flag "strict",
   .flag "json"]

/-- The options of `list`. -/
def listOptions : List OptionSpec :=
  [.path "library-dir"]

/-- The library file for Cairo: the option if it is given, else the environment variable, which must
not be empty then. -/
def cairoLibraryOf (env : Environment) (given : List GivenOption) : Option (Option String) :=
  match valueOf? given "cairo-library" with
  | some path => some (some path)
  | none =>
    match env.cairoLibrary? with
    | some "" => none
    | cairoLibrary? => some cairoLibrary?

/-- What the options of `check` ask for. A strict check needs a sample. -/
def checkInvocation (env : Environment) (given : List GivenOption) : Invocation :=
  match cairoLibraryOf env given with
  | none => .misuse
  | some cairoLibrary? =>
    if isGiven given "strict" && !isGiven given "sample" then .misuse
    else
      .check
        { grammars := valuesOf given "grammar"
          all := isGiven given "all"
          libraries := valuesOf given "library"
          libraryDir? := (valueOf? given "library-dir").map Path.ofText
          cairoLibrary? := cairoLibrary?.map Path.ofText
          sample? := (valueOf? given "sample").map Path.ofText
          strict := isGiven given "strict" }
        (isGiven given "json")

/-- What the options of `list` ask for. -/
def listInvocation (given : List GivenOption) : Invocation :=
  .list ((valueOf? given "library-dir").map Path.ofText)

/-- What the arguments of `help` ask for: the program or one command. -/
def helpInvocation : List String → Invocation
  | [] => .help .program
  | ["check"] => .help .check
  | ["list"] => .help .list
  | ["help"] => .help .help
  | _ => .misuse

/-- What a command line without a command asks for. -/
def programInvocation (argument : String) : Invocation :=
  match Word.ofText argument with
  | .long "help" none | .short 'h' _ => .help .program
  | .long "version" none | .short 'V' _ => .version
  | _ => .misuse

/-- What a command line asks for. -/
def invocation (env : Environment) : List String → Invocation
  | [] => .misuse
  | "check" :: rest =>
    match readOptionWords checkOptions rest with
    | .given options => checkInvocation env options
    | .help => .help .check
    | .misuse => .misuse
  | "list" :: rest =>
    match readOptionWords listOptions rest with
    | .given options => listInvocation options
    | .help => .help .list
    | .misuse => .misuse
  | "help" :: rest => helpInvocation rest
  | argument :: _ => programInvocation argument

end GrammarCheck.CommandLine
