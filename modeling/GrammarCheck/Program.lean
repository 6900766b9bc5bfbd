import GrammarCheck.Check
import GrammarCheck.CommandLine
import GrammarCheck.Listing
import GrammarCheck.Log.Filter

/-!
# The program

The program reads a command line, does what it asks for, and ends with an exit code after writing to
standard output and to the error output.

* `Outcome`: how a run of the program ends.
* `run`: the outcome of a command line.
* `standardBuild`: the build that is run unless another is given.
-/

namespace GrammarCheck

/-- How a run of the program ends. -/
structure Outcome where
  code : Nat
  output : String := ""
  errors : String := ""
  deriving Repr, DecidableEq

namespace Outcome

/-- The exit code of a command line that cannot be understood. -/
def misuseCode : Nat := 2

/-- The end of a run that refuses the request. -/
def refused (output log : String) (e : RequestError) : Outcome where
  code := 1
  output := output
  errors := log ++ "Error: " ++ e.message ++ "\n"

end Outcome

/-- A report as it is written to standard output. -/
def Report.written (r : Report) (asJson : Bool) : String :=
  (if asJson then r.json.pretty else r.text) ++ "\n"

/-- The outcome of `check`. -/
def runCheck [Build] (host : Host) (filter : Log.Filter) (request : Request) (asJson : Bool) :
    Outcome :=
  let log := filter.write (checkLog host request)
  match check host request with
  | .ok report =>
    { code := report.exitCode, output := report.written asJson, errors := log }
  | .error e => .refused "" log e

/-- Lines as they are written, every one with its end. -/
def writtenLines (lines : List String) : String :=
  String.join (lines.map (· ++ "\n"))

/-- The outcome of `list`. The bundled grammars are written even if the directory is refused. -/
def runList [Build] (host : Host) (filter : Log.Filter) (libraryDir? : Option Path) : Outcome :=
  let log := filter.write []
  let grammars := writtenLines Listing.grammarLines
  match libraryDir? with
  | none => { code := 0, output := grammars, errors := log }
  | some dir =>
    match Listing.directoryLines host.files dir with
    | .ok lines => { code := 0, output := grammars ++ writtenLines lines, errors := log }
    | .error e => .refused grammars log e

/-- The outcome of a command line. -/
def run [Build] (host : Host) (env : CommandLine.Environment) (arguments : List String) : Outcome :=
  let filter := (env.logFilter?.map Log.Filter.ofText).getD .standard
  match CommandLine.invocation env arguments with
  | .check request asJson => runCheck host filter request asJson
  | .list libraryDir? => runList host filter libraryDir?
  | .help topic =>
    { code := 0
      output := CommandLine.helpText env.cairoLibrary? topic
      errors := filter.write [] }
  | .version => { code := 0, output := CommandLine.versionText, errors := filter.write [] }
  | .misuse => { code := Outcome.misuseCode, errors := filter.write [] }

/-- The executable links no parser for Cairo. -/
instance standardBuild : Build := .withoutCairo

end GrammarCheck
