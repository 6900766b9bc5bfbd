import GrammarCheck.Case
import GrammarCheck.Json

/-!
# Reports

A report gathers cases in the order they are pushed and counts those that passed and those that
failed. It is written as text, with a line for each case, or as JSON.

* `Report.push`, `Report.exitCode`: the counts, and the verdict they give.
* `Report.lines`, `Report.text`: the report as text.
* `Report.json`: the report as JSON.
* `runAll`: the report of a sequence of grammars.
-/

namespace GrammarCheck

/-- The cases of a run, with the number of those that passed and of those that failed. -/
structure Report where
  passed : Nat := 0
  failed : Nat := 0
  cases : List Case := []
  deriving Repr, DecidableEq

namespace Report

/-- The report without a case. -/
def empty : Report := {}

/-- The report with one more case. -/
def push (r : Report) (c : Case) : Report where
  passed := if c.status = .passed then r.passed + 1 else r.passed
  failed := if c.status = .failed then r.failed + 1 else r.failed
  cases := r.cases ++ [c]

/-- The report with more cases, pushed in order. -/
def pushAll (r : Report) (cs : List Case) : Report :=
  cs.foldl push r

/-- The report of a sequence of cases. -/
def ofCases (cs : List Case) : Report :=
  empty.pushAll cs

theorem cases_push (r : Report) (c : Case) : (r.push c).cases = r.cases ++ [c] := rfl

theorem cases_pushAll (r : Report) (cs : List Case) : (r.pushAll cs).cases = r.cases ++ cs := by
  induction cs generalizing r with
  | nil => simp [pushAll]
  | cons c cs ih => simpa [pushAll, cases_push] using ih (r.push c)

/-- A report keeps its cases as they were pushed. -/
theorem cases_ofCases (cs : List Case) : (ofCases cs).cases = cs := by
  simp [ofCases, cases_pushAll, empty]

/-- The exit code of a run: one if a case failed. -/
def exitCode (r : Report) : Nat :=
  if 0 < r.failed then 1 else 0

end Report

/-! ### Text -/

/-- What the line of a passed case says of the sample. -/
def ParseSummary.verdict (s : ParseSummary) : String :=
  if s.hasError then ", sample has syntax errors" else ", sample ok"

/-- The line of a case. -/
def Case.line (c : Case) : String :=
  match c.status with
  | .passed =>
    "PASS  " ++ c.name ++ " (ABI " ++ Text.decimal (c.abiVersion?.getD 0) ++ ", "
      ++ Text.decimal (c.nodeKindCount?.getD 0) ++ " node kinds)"
      ++ (c.sample?.map ParseSummary.verdict).getD ""
  | .failed =>
    "FAIL  " ++ c.name ++ ": " ++ c.message?.getD ""
      ++ (c.detail?.map fun detail => " (" ++ detail ++ ")").getD ""
  | .notRun => "SKIP  " ++ c.name

namespace Report

/-- The line with the counts. -/
def totals (r : Report) : String :=
  Text.decimal r.passed ++ " passed, " ++ Text.decimal r.failed ++ " failed"

/-- The lines of a report: one for each case, and the counts. -/
def lines (r : Report) : List String :=
  r.cases.map Case.line ++ [r.totals]

/-- The report as text. -/
def text (r : Report) : String :=
  "\n".intercalate r.lines

end Report

/-! ### JSON -/

/-- The word for a status. -/
def Status.word : Status → String
  | notRun => "not_run"
  | passed => "passed"
  | failed => "failed"

/-- A member of an object that is left out when it has no value. -/
def Json.member? (key : String) (value : α → Json) (v? : Option α) : List (String × Json) :=
  match v? with
  | some v => [(key, value v)]
  | none => []

/-- A place in a source text as JSON. -/
def ErrorPosition.json (p : ErrorPosition) : Json :=
  .object [("line", .number p.line), ("column", .number p.column)]

/-- The parse of a sample as JSON. -/
def ParseSummary.json (s : ParseSummary) : Json :=
  .object
    ([("rootKind", .string s.rootKind), ("hasError", .bool s.hasError)]
      ++ Json.member? "firstError" ErrorPosition.json s.firstError?
      ++ [("bytes", .number s.bytes)])

/-- A case as JSON. What is absent from the case is absent from the object. -/
def Case.json (c : Case) : Json :=
  .object
    ([("name", .string c.name), ("status", .string c.status.word)]
      ++ Json.member? "message" .string c.message?
      ++ Json.member? "detail" .string c.detail?
      ++ Json.member? "abiVersion" .number c.abiVersion?
      ++ Json.member? "nodeKindCount" .number c.nodeKindCount?
      ++ Json.member? "artifact" .string c.artifact?
      ++ Json.member? "sample" ParseSummary.json c.sample?)

/-- The report as JSON. -/
def Report.json (r : Report) : Json :=
  .object
    [("passed", .number r.passed),
     ("failed", .number r.failed),
     ("cases", .array (r.cases.map Case.json))]

/-! ### Runs -/

/-- The report of a sequence of grammars, each checked by itself. -/
def runAll (runtime : Runtime) (loader : Loader) (options : CaseOptions) (ps : List Provider) :
    Report :=
  .ofCases (ps.map (Case.run runtime loader options))

end GrammarCheck
