import GrammarCheck.Plan
import GrammarCheck.Report

/-!
# Checking

A check reads the sample, plans what the request asks for, and runs the plan. Nothing that is wrong
with a grammar or with a library file stops it: each has its case in the report.

* `Host`: the file system and the runtime that a check works with.
* `check`: the report of a request, or why it is refused.
* `checkLog`: what is recorded on the way.
-/

namespace GrammarCheck

/-- What the program finds around itself. -/
structure Host where
  files : FileSystem
  runtime : Runtime

/-- The options of the cases of a request. The sample is read from its file. -/
def readOptions (fs : FileSystem) (r : Request) : Except RequestError CaseOptions :=
  match r.sample? with
  | none => .ok { strict := r.strict }
  | some p =>
    match fs.readText p with
    | .ok text => .ok { sample? := some text, strict := r.strict }
    | .error e => .error (.unreadableSample p e)

/-- The case of a planned item. -/
def PlannedItem.case (runtime : Runtime) (loader : Loader) (options : CaseOptions) :
    PlannedItem → Case
  | grammar p => Case.run runtime loader options p
  | broken c => c

/-- The report of a request, or why it is refused. -/
def check [Build] (host : Host) (r : Request) : Except RequestError Report := do
  let options ← readOptions host.files r
  let items ← plan host.files r
  return .ofCases (items.map (PlannedItem.case host.runtime AbiRange.supported options))

/-- The record of the log that an item leaves when it is run. -/
def PlannedItem.loadRecord? : PlannedItem → Option Log.Record
  | grammar p => some (loadRecord .supported p.handle)
  | broken _ => none

/-- What is recorded during a check: the planning, then the loads. A request whose sample cannot be
read is not planned. -/
def checkLog [Build] (host : Host) (r : Request) : List Log.Record :=
  match readOptions host.files r with
  | .error _ => []
  | .ok _ =>
    planLog host.files r
      ++ (match plan host.files r with
          | .ok items => items.filterMap PlannedItem.loadRecord?
          | .error _ => [])

end GrammarCheck
