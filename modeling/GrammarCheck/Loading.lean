import GrammarCheck.Failure
import GrammarCheck.SyntaxTree

/-!
# Loading grammars

A handle is loaded when it gives a language whose version lies in the accepted range and that
declares node kinds. The accepted range is the runtime's own or a part of it.

* `AbiRange.supported`, `AbiRange.within`: the whole range, and the part of it inside given bounds.
* `load`: the loaded grammar, or why there is none.
* `Loader`: what can load handles, the runtime's own loader or another.
* `LoadedGrammar.parse?`: the parse of a source text with a loaded grammar.
-/

namespace GrammarCheck

/-! ### Versions -/

/-- A range of versions inside the runtime's own. It is empty when the bounds cross. -/
structure AbiRange where
  min : Nat
  max : Nat
  oldest_le : oldestAbi ≤ min
  le_newest : max ≤ newestAbi

namespace AbiRange

/-- Every version that the runtime accepts. -/
def supported : AbiRange :=
  ⟨oldestAbi, newestAbi, Nat.le_refl _, Nat.le_refl _⟩

/-- The versions that the runtime accepts and that lie between two bounds. -/
def within (min max : Nat) : AbiRange :=
  ⟨Nat.max min oldestAbi, Nat.min max newestAbi, Nat.le_max_right .., Nat.min_le_right ..⟩

/-- The version lies in the range. -/
def contains (r : AbiRange) (version : Nat) : Bool :=
  decide (r.min ≤ version) && decide (version ≤ r.max)

end AbiRange

/-- The runtime's parser takes the version. -/
def runtimeAccepts (version : Nat) : Bool :=
  decide (oldestAbi ≤ version) && decide (version ≤ newestAbi)

/-! ### Loading -/

/-- A grammar that the runtime has accepted, under the display name of its handle. -/
structure LoadedGrammar where
  name : String
  language : Language
  abiVersion : Nat
  nodeKindCount : Nat
  deriving Repr, DecidableEq

/-- Why a language cannot be used, or the grammar loaded from it under a name. -/
def admit? (range : AbiRange) (name : String) (language : Language) :
    Except LoadFailure LoadedGrammar :=
  let version := language.abiVersion.toNat
  let kinds := language.nodeKindCount.toNat
  if !range.contains version then .error (.incompatibleAbi version range.min range.max)
  else if !runtimeAccepts version then .error (.rejected version)
  else if kinds = 0 then .error .noNodeKinds
  else .ok ⟨name, language, version, kinds⟩

/-- Why a handle cannot be loaded, or the grammar loaded from it. -/
def loadCause (range : AbiRange) (h : Handle) : Except LoadFailure LoadedGrammar :=
  match h.language? with
  | none => .error .nullHandle
  | some language => admit? range h.name language

/-- Loads a handle. A failure carries the name of the handle. -/
def load (range : AbiRange) (h : Handle) : Except LoadError LoadedGrammar :=
  (loadCause range h).mapError (⟨h.name, ·⟩)

/-- A loader gives the grammar of a handle, or why there is none. -/
structure Loader where
  load : Handle → Except LoadError LoadedGrammar

/-- The runtime's own loader, held to a range of versions. -/
def AbiRange.loader (range : AbiRange) : Loader :=
  ⟨GrammarCheck.load range⟩

instance : Coe AbiRange Loader := ⟨AbiRange.loader⟩

/-! ### Loaded grammars -/

/-- The parser of the runtime: the tree of a source text under a language, unless the parse was
given up. -/
structure Runtime where
  parse? : Language → String → Option SyntaxTree

namespace LoadedGrammar

/-- The summary of a source text parsed with the grammar. -/
def parse? (g : LoadedGrammar) (runtime : Runtime) (source : String) : Option ParseSummary :=
  (runtime.parse? g.language source).map fun tree => .ofTree tree source

/-- The grammar as a record for developers. -/
def record (g : LoadedGrammar) : Text.Record :=
  { name := "LoadedLanguage"
    fields :=
      [("name", Text.quote g.name),
       ("abi_version", Text.decimal g.abiVersion),
       ("node_kind_count", Text.decimal g.nodeKindCount)] }

end LoadedGrammar

end GrammarCheck
