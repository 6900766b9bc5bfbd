import GrammarCheck.Library
import GrammarCheck.Loading

/-!
# Cases

The check of one grammar is a case. It passes when the grammar loads; with a strict sample it must
parse the sample without errors as well. A case keeps what was measured on the way, also when it
fails.

* `Case.ofError`: the failed case of a load error.
* `Case.run`: the case of a grammar, loaded and given a sample.
-/

namespace GrammarCheck

/-- How a case stands. -/
inductive Status where
  | notRun
  | passed
  | failed
  deriving Repr, DecidableEq

/-- A case, under the name of its grammar. -/
structure Case where
  name : String
  status : Status := .notRun
  message? : Option String := none
  detail? : Option String := none
  abiVersion? : Option Nat := none
  nodeKindCount? : Option Nat := none
  artifact? : Option String := none
  sample? : Option ParseSummary := none
  deriving Repr, DecidableEq

/-- What a case is given besides its grammar: a source text to parse, and whether it fails when the
parse has errors. -/
structure CaseOptions where
  sample? : Option String := none
  strict : Bool := false
  deriving Repr, DecidableEq

namespace Case

/-- The case has passed. -/
def isPassed (c : Case) : Bool :=
  c.status == .passed

/-- The case, failed with a message and its detail. What was measured stays. -/
def fail (c : Case) (message : String) (detail? : Option String) : Case :=
  { c with status := .failed, message? := some message, detail? }

/-- The case, passed with what the loaded grammar declares. -/
def pass (c : Case) (g : LoadedGrammar) : Case :=
  { c with
    status := .passed
    abiVersion? := some g.abiVersion
    nodeKindCount? := some g.nodeKindCount }

/-- The case, failed with a load error and its cause. -/
def failWith (c : Case) (e : LoadError) : Case :=
  c.fail e.message (some e.detail)

/-- The failed case of a load error. -/
def ofError (name : String) (e : LoadError) : Case :=
  Case.failWith { name } e

/-- Where the parse of a sample first went wrong. -/
def dirtyDetail (p : ErrorPosition) : String :=
  "first error at " ++ Text.decimal p.line ++ ":" ++ Text.decimal p.column

/-- The case with the parse of a sample. A strict case fails unless the parse is free of errors. -/
def withSample (c : Case) (displayName : String) (strict : Bool) (summary? : Option ParseSummary) :
    Case :=
  let c := { c with sample? := summary? }
  let dirty := (summary?.map ParseSummary.hasError).getD true
  if strict && dirty then
    c.fail ("Sample does not parse cleanly with " ++ displayName ++ " grammar")
      ((summary?.bind ParseSummary.firstError?).map dirtyDetail)
  else c

/-- The case of a grammar. -/
def run (runtime : Runtime) (loader : Loader) (options : CaseOptions) (p : Provider) : Case :=
  let c : Case := { name := p.name, artifact? := p.artifact? }
  match loader.load p.handle with
  | .error e => c.failWith e
  | .ok g =>
    match options.sample? with
    | none => c.pass g
    | some source => (c.pass g).withSample p.displayName options.strict (g.parse? runtime source)

end Case

/-- The part of the program that loads grammars, as the log names it. -/
def loaderOrigin : String := "grammar_smoke::loader"

/-- The record of the log that a handle was loaded, or not. -/
def loadRecord (range : AbiRange) (h : Handle) : Log.Record :=
  match load range h with
  | .ok g =>
    { level := .debug
      origin := loaderOrigin
      message :=
        "loaded " ++ h.name ++ " grammar (ABI " ++ Text.decimal g.abiVersion ++ ", "
          ++ Text.decimal g.nodeKindCount ++ " node kinds)" }
  | .error e =>
    { level := .warn
      origin := loaderOrigin
      message := "failed to load " ++ h.name ++ " grammar: " ++ e.detail }

end GrammarCheck
