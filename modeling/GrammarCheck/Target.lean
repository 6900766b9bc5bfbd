import GrammarCheck.Library.Discovery
import GrammarCheck.Request

/-!
# Targets

A request asks for targets, in a fixed order: the library file for Cairo, the linked grammars, the
grammars named one by one, the library files named one by one, and those of a directory. A bundled
grammar is a target once: its name is taken when it is planned. Only the request itself can be
refused.

* `Planning`: the names that are taken, and the steps so far.
* `Request.planSteps`: one step after the other, each a target or the refusal of the request.
* `targets`: the targets, if no step refuses.
* `targetsBeforeRefusal`: the targets that precede a refusal.
-/

namespace GrammarCheck

/-- What is to be checked: a bundled grammar, or the grammar of a name in a library file. -/
inductive Target where
  | bundled (g : Grammar)
  | library (l : NamedLibrary)
  deriving Repr, DecidableEq

/-- The name of the grammar to be checked. -/
def Target.name : Target → String
  | bundled g => g.name
  | library l => l.name

/-- A step of the planning adds a target or refuses the request. -/
abbrev PlanStep := Except RequestError Target

/-- The bundled grammar of a name. -/
def namedStep [Build] (name : String) : PlanStep :=
  match findBundled? name with
  | some g => .ok (.bundled g)
  | none => .error (.unknownGrammar name)

/-- The library file of a value. -/
def libraryStep (value : String) : PlanStep :=
  (NamedLibrary.parse value).map .library

/-! ### Names that are taken -/

/-- A planning under way: the names that are taken, the latest first, and the steps so far. -/
structure Planning where
  taken : List String := []
  steps : List PlanStep := []

namespace Planning

/-- Takes a name and adds its step. Nothing happens if the name is taken already. -/
def add (p : Planning) (name : String) (step : PlanStep) : Planning :=
  if name ∈ p.taken then p else ⟨name :: p.taken, p.steps ++ [step]⟩

/-- Adds a grammar that is linked into the program. -/
def addLinked (p : Planning) (g : Grammar) : Planning :=
  p.add g.name (.ok (.bundled g))

/-- Adds the bundled grammar of a name. Case does not matter. -/
def addNamed [Build] (p : Planning) (name : String) : Planning :=
  let name := Text.lower name
  p.add name (namedStep name)

end Planning

/-! ### Steps -/

namespace Request

/-- The planning with the library file that stands in for Cairo. It needs Cairo to be selected, and
takes its name. -/
def cairoPlanning (r : Request) : Planning :=
  match r.cairoLibrary? with
  | none => {}
  | some p =>
    Planning.add {} cairoName
      (if r.selectsCairo then .ok (.library ⟨cairoName, p⟩) else .error .cairoNotSelected)

/-- The planning with the linked grammars, in the order of the registry, if all are selected. -/
def linkedPlanning [Build] (r : Request) : Planning :=
  if r.all then (bundled.filter Grammar.isLinked).foldl Planning.addLinked r.cairoPlanning
  else r.cairoPlanning

/-- The planning with the grammars selected by name. -/
def namedPlanning [Build] (r : Request) : Planning :=
  r.names.foldl Planning.addNamed r.linkedPlanning

/-- The library files selected one by one. -/
def librarySteps (r : Request) : List PlanStep :=
  r.libraries.map libraryStep

/-- The library files of a directory. -/
def directorySteps (fs : FileSystem) (r : Request) : List PlanStep :=
  match r.libraryDir? with
  | none => []
  | some dir =>
    if fs.isDirectory dir then (discover fs dir).map fun l => .ok (.library l)
    else [.error (.missingDirectory dir)]

/-- The steps of the planning, in order. -/
def planSteps [Build] (fs : FileSystem) (r : Request) : List PlanStep :=
  r.namedPlanning.steps ++ r.librarySteps ++ r.directorySteps fs

end Request

/-- The targets of a sequence of steps, if none refuses; else the first refusal. -/
def collectTargets : List PlanStep → Except RequestError (List Target)
  | [] => .ok []
  | .error e :: _ => .error e
  | .ok target :: rest => (collectTargets rest).map (target :: ·)

/-- Targets are collected exactly when every step adds one. -/
theorem collectTargets_eq_ok_iff {steps : List PlanStep} {ts : List Target} :
    collectTargets steps = .ok ts ↔ steps = ts.map .ok := by
  induction steps generalizing ts with
  | nil => cases ts <;> simp [collectTargets]
  | cons s steps ih =>
    cases s with
    | error e => cases ts <;> simp [collectTargets]
    | ok t =>
      cases ts with
      | nil => cases h : collectTargets steps <;> simp [collectTargets, Except.map, h]
      | cons u us =>
        simp only [List.map_cons, List.cons.injEq, ← ih]
        cases h : collectTargets steps <;> simp [collectTargets, Except.map, h]

/-- The targets that are added before a step refuses. -/
def targetsBeforeRefusal : List PlanStep → List Target
  | [] => []
  | .error _ :: _ => []
  | .ok target :: rest => target :: targetsBeforeRefusal rest

/-- What a request asks to be checked, or why it is refused. -/
def targets [Build] (fs : FileSystem) (r : Request) : Except RequestError (List Target) :=
  collectTargets (r.planSteps fs)

end GrammarCheck
