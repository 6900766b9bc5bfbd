import GrammarCheck.Case
import GrammarCheck.Target

/-!
# Plans

The plan of a request holds an item for each of its targets, with every library file opened. A
library file that cannot be opened takes its place in the plan as a case that has already failed.

* `Target.item`: the item of a target.
* `plan`: the items of a request.
* `planLog`: what is recorded on the way.
-/

namespace GrammarCheck

/-! ### Items -/

/-- An item of a plan: a grammar to run, or the case of a library file that could not be opened. -/
inductive PlannedItem where
  | grammar (p : Provider)
  | broken (c : Case)
  deriving Repr, DecidableEq

/-- The name of an item. -/
def PlannedItem.name : PlannedItem → String
  | grammar p => p.name
  | broken c => c.name

/-- The failed case of a library file that could not be opened. The file is fingerprinted all the
same if it can be read. -/
def brokenCase (fs : FileSystem) (l : NamedLibrary) (e : LibraryError) : Case :=
  { Case.ofError l.name ⟨displayName l.name, .library e⟩ with
    artifact? := (fingerprintFile fs l.path).toOption }

/-- The item of a library file. -/
def openLibrary (fs : FileSystem) (l : NamedLibrary) : PlannedItem :=
  match LibraryGrammar.ofFile fs l.path l.name with
  | .ok g => .grammar (.library g)
  | .error e => .broken (brokenCase fs l e)

/-- The item of a target. Library files are opened. -/
def Target.item (fs : FileSystem) : Target → PlannedItem
  | bundled g => .grammar (.bundled g)
  | library l => openLibrary fs l

/-- The items that a request asks for, or why it is refused. -/
def plan [Build] (fs : FileSystem) (r : Request) : Except RequestError (List PlannedItem) :=
  (targets fs r).map (List.map (Target.item fs))

/-! ### Records of the log -/

/-- The record of the log that an item leaves when it is planned: library files are opened then. -/
def PlannedItem.planRecord? : PlannedItem → Option Log.Record
  | grammar (.library g) => some g.opened
  | grammar (.bundled _) | broken _ => none

/-- The record of the log of a directory that offers nothing. -/
def emptyDirectoryRecords (fs : FileSystem) (r : Request) : List Log.Record :=
  match r.libraryDir? with
  | none => []
  | some dir =>
    if discover fs dir = [] then
      [{ level := .warn
         origin := "grammar_smoke::commands::check"
         message := "no grammar libraries found in " ++ dir.display }]
    else []

/-- What is recorded during the planning. The directory comes last, so it is looked at only if
nothing before it refuses. -/
def planLog [Build] (fs : FileSystem) (r : Request) : List Log.Record :=
  (targetsBeforeRefusal (r.planSteps fs)).filterMap (fun t => (t.item fs).planRecord?)
    ++ (match targets fs r with
        | .ok _ => emptyDirectoryRecords fs r
        | .error _ => [])

end GrammarCheck
