import GrammarCheck.Language
import GrammarCheck.Text.Case

/-!
# The bundled grammars

The grammars that come with the program, in a fixed order. A grammar is linked when its entry point
is part of the program. Cairo, the first, has a place in the registry of every build, and an entry
point in those that link a parser for it.

* `Build`: what a build of the program links for Cairo.
* `bundled`: the registry, `cairo` followed by `references`.
* `findBundled?`: the grammar of a name, in any case.
-/

namespace GrammarCheck

/-- A grammar that the program knows by itself. -/
structure Grammar where
  name : String
  displayName : String
  entry? : Option EntryPoint
  deriving Repr, DecidableEq

namespace Grammar

/-- The grammar has an entry point in the program. -/
def isLinked (g : Grammar) : Bool :=
  g.entry?.isSome

/-- The handle of a grammar carries its display name. -/
def handle (g : Grammar) : Handle :=
  { name := g.displayName, entry? := g.entry? }

/-- A grammar whose entry point returns tables of the given version and number of node kinds. -/
def linked (name displayName : String) (abiVersion nodeKinds : UInt32) : Grammar :=
  ⟨name, displayName, some ⟨some ⟨name, abiVersion, nodeKinds, 0⟩⟩⟩

/-- A grammar without an entry point. -/
def absent (name displayName : String) : Grammar :=
  ⟨name, displayName, none⟩

end Grammar

/-! ### Builds -/

/-- A build of the program: the entry point of the parser for Cairo, if it links one. -/
class Build where
  cairoEntry? : Option EntryPoint

/-- The build that links no parser for Cairo. -/
abbrev Build.withoutCairo : Build := ⟨none⟩

/-! ### The registry -/

/-- The name of the grammar that is checked when nothing is selected. -/
def cairoName : String := "cairo"

/-- Cairo. In a build without a parser for it, it can be loaded from a library file only. -/
def cairo [Build] : Grammar :=
  { Grammar.absent cairoName "Cairo" with entry? := Build.cairoEntry? }

/-- The grammars that are linked into every build. -/
def references : List Grammar :=
  [.linked "typescript" "TypeScript" 14 383,
   .linked "tsx" "TSX" 14 400,
   .linked "javascript" "JavaScript" 15 265,
   .linked "python" "Python" 15 274,
   .linked "go" "Go" 15 219,
   .linked "rust" "Rust" 15 355,
   .linked "java" "Java" 14 321,
   .linked "c" "C" 15 363,
   .linked "cpp" "C++" 14 543]

/-- The registry. -/
def bundled [Build] : List Grammar :=
  cairo :: references

/-- The bundled grammar of a name. Case does not matter. -/
def findBundled? [Build] (name : String) : Option Grammar :=
  bundled.find? (·.name == Text.lower name)

end GrammarCheck
