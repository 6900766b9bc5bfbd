import GrammarCheck.FileSystem.Create
import GrammarCheck.Program

/-!
# The executable

Runs the program on the arguments and the environment of the process. The files that the command
line names are read beforehand, as far as they can be; the executable maps no library file into
memory and has no parser of its own.
-/

namespace GrammarCheck.Main

/-- The files that a command line names. -/
def namedFiles (env : CommandLine.Environment) (arguments : List String) : List String :=
  match CommandLine.invocation env arguments with
  | .check request _ =>
    let libraries := request.libraries.filterMap fun value => (NamedLibrary.parse value).toOption
    let paths := request.sample?.toList ++ request.cairoLibrary?.toList
      ++ libraries.map NamedLibrary.path
    paths.filterMap Path.text?
  | _ => []

/-- The file system with the file of a name, if it can be read. -/
def withFile (fs : FileSystem) (name : String) : IO FileSystem := do
  match ← (IO.FS.readBinFile name).toBaseIO with
  | .ok content =>
    return fs.create (.ofText name)
      (.file content.data.toList (.rejected "library files cannot be mapped"))
  | .error _ => return fs

end GrammarCheck.Main

/-- Runs the program. -/
def main (arguments : List String) : IO UInt32 := do
  let env : GrammarCheck.CommandLine.Environment :=
    { cairoLibrary? := ← IO.getEnv GrammarCheck.cairoLibraryVariable
      logFilter? := ← IO.getEnv "RUST_LOG" }
  let here := GrammarCheck.Path.ofText (toString (← IO.currentDir))
  let files ← (GrammarCheck.Main.namedFiles env arguments).foldlM GrammarCheck.Main.withFile
    (GrammarCheck.FileSystem.empty here)
  let outcome := GrammarCheck.run ⟨files, ⟨fun _ _ => none⟩⟩ env arguments
  (← IO.getStdout).putStr outcome.output
  (← IO.getStderr).putStr outcome.errors
  return outcome.code.toUInt32
