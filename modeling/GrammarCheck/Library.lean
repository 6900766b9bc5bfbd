import GrammarCheck.Digest.Fingerprint
import GrammarCheck.Failure
import GrammarCheck.FileSystem.Read
import GrammarCheck.Log.Record
import GrammarCheck.Naming

/-!
# Grammars in library files

A library file is opened through the canonical path of its location, so that the file that is
fingerprinted, the file that is mapped and the file that messages name are one and the same.

* `fingerprintFile`: the fingerprint of the content of a file.
* `LibraryGrammar.ofFile`: the grammar of a name from a library file, or why there is none.
* `Provider`: a bundled grammar or one from a library file, as the rest of the program sees them.
-/

namespace GrammarCheck

/-! ### Opening -/

/-- The canonical path of a library file. A failure names the path as it was given. -/
def resolveLibrary (fs : FileSystem) (p : Path) : Except LibraryError Path :=
  (fs.canonicalize p).mapError (.unreadable p)

/-- The fingerprint of the content of a file. A failure names the path as it was given. -/
def fingerprintFile (fs : FileSystem) (p : Path) : Except LibraryError String :=
  match fs.read p with
  | .ok content => .ok (Digest.fingerprint content)
  | .error e => .error (.unreadable p e)

/-- The entry points that a library file exports, once it is mapped. The reason of a failure begins
with the path. -/
def exportsOf (fs : FileSystem) (p : Path) : Except LibraryError (List (String × EntryPoint)) :=
  match fs.image? p with
  | some (.exporting entries) => .ok entries
  | some (.rejected reason) => .error (.unusable p (p.display ++ ": " ++ reason))
  | none => .error (.unusable p (p.display ++ ": cannot open shared object file"))

/-- The entry point of a symbol among those that a library file exports. -/
def entryPointOf (p : Path) (entries : List (String × EntryPoint)) (symbol : String) :
    Except LibraryError EntryPoint :=
  match findExport? entries symbol with
  | some entry => .ok entry
  | none => .error (.missingSymbol p symbol)

/-- A grammar from a library file: its name, where the file is, and what it exports. -/
structure LibraryGrammar where
  name : String
  displayName : String
  path : Path
  fingerprint : String
  entry : EntryPoint
  deriving Repr, DecidableEq

namespace LibraryGrammar

/-- The grammar of a name in the library file that a path leads to. -/
def ofFile (fs : FileSystem) (p : Path) (name : String) : Except LibraryError LibraryGrammar := do
  let canonical ← resolveLibrary fs p
  let fingerprint ← fingerprintFile fs canonical
  let entries ← exportsOf fs canonical
  let entry ← entryPointOf canonical entries (symbolName name)
  return {
    name, displayName := GrammarCheck.displayName name, path := canonical, fingerprint, entry }

/-- The handle of a grammar from a library file carries its display name. -/
def handle (g : LibraryGrammar) : Handle :=
  { name := g.displayName, entry? := some g.entry, shared := true }

/-- The grammar as a record for developers. -/
def record (g : LibraryGrammar) : Text.Record :=
  { name := "SharedLibraryGrammar"
    fields :=
      [("name", Text.quote g.name),
       ("path", Text.quoteBytes g.path.bytes),
       ("fingerprint", Text.quote g.fingerprint)] }

/-- The record of the log that a library file was opened. -/
def opened (g : LibraryGrammar) : Log.Record where
  level := .info
  origin := "grammar_smoke::library"
  message :=
    "opened " ++ g.name ++ " grammar library " ++ g.path.display ++ " (" ++ g.fingerprint ++ ")"

end LibraryGrammar

/-! ### Providers -/

/-- Where a grammar to check comes from. -/
inductive Provider where
  | bundled (g : Grammar)
  | library (g : LibraryGrammar)
  deriving Repr, DecidableEq

namespace Provider

/-- The name a grammar is known by. -/
def name : Provider → String
  | bundled g => g.name
  | library g => g.name

/-- The name a grammar has in reports. -/
def displayName : Provider → String
  | bundled g => g.displayName
  | library g => g.displayName

/-- The handle that is given to the loader. -/
def handle : Provider → Handle
  | bundled g => g.handle
  | library g => g.handle

/-- The fingerprint of the file a grammar comes from. A bundled grammar comes from none. -/
def artifact? : Provider → Option String
  | bundled _ => none
  | library g => some g.fingerprint

end Provider

end GrammarCheck
