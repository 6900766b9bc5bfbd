import GrammarCheck.Text.Utf8

/-!
# Paths

A path is a byte string; a slash separates its segments and nothing else about it is special. It
need not be UTF-8. What a segment means is a `Step`: an empty segment and a single dot stay where
they are, two dots go up, every other segment goes down into the entry of that name.

* `Path.steps`: the steps a path spells out.
* `Path.fileName?`: the name the path ends in, if its last proper step goes down.
* `Path.join`: the path of an entry of a directory.
* `splitExtension?`: the stem and the extension of a file name.
* `Location`: a place in the directory tree, and its canonical path.
-/

namespace GrammarCheck

/-- The name of an entry of a directory: bytes without a slash. -/
abbrev FileName := List UInt8

/-- A path as it is spelled. -/
structure Path where
  bytes : List UInt8
  deriving Repr, DecidableEq

namespace Path

/-- The byte that separates segments. -/
def slash : UInt8 := 0x2f

/-- The byte of a full stop. -/
def dot : UInt8 := 0x2e

/-- The path that a text spells. -/
def ofText (s : String) : Path := ⟨Text.Utf8.encode s⟩

/-- The text that spells the path, if its bytes are UTF-8. -/
def text? (p : Path) : Option String := Text.Utf8.decode? p.bytes

/-- A text spells a path exactly when the path is the one it spells. -/
theorem text?_eq_some_iff {p : Path} {s : String} : p.text? = some s ↔ p = ofText s := by
  cases p
  simp [text?, ofText, Text.Utf8.decode?_eq_some_iff]

/-- The path as it is shown in messages, with a replacement character for each broken part. -/
def display (p : Path) : String := Text.Utf8.lossyText p.bytes

/-- The path starts at the root. -/
def isAbsolute (p : Path) : Bool := p.bytes.head? == some slash

/-! ### Steps -/

/-- What one segment of a path asks for. -/
inductive Step where
  | stay
  | up
  | down (name : FileName)
  deriving Repr, DecidableEq

/-- The step of a segment. -/
def Step.ofSegment (segment : List UInt8) : Step :=
  if segment = [] ∨ segment = [dot] then .stay
  else if segment = [dot, dot] then .up
  else .down segment

/-- The length of the name that the next move goes down into, in bytes. It is zero where the next
move goes up and where none is left. -/
def Step.nextNameLength : List Step → Nat
  | .stay :: rest => nextNameLength rest
  | .down name :: _ => name.length
  | .up :: _ => 0
  | [] => 0

/-- The steps of a path, one for each segment. A slash at the end leaves an empty segment, so it
asks to stay. -/
def steps (p : Path) : List Step :=
  (p.bytes.splitOn slash).map Step.ofSegment

/-- The last step that does not stay. -/
def lastMove? (p : Path) : Option Step :=
  (p.steps.filter (· ≠ .stay)).getLast?

/-- The file name a path ends in: the root, a path of dots and a path that ends by going up have
none. -/
def fileName? (p : Path) : Option FileName :=
  match p.lastMove? with
  | some (.down name) => some name
  | _ => none

/-- The path of the entry `name` of the directory `dir`. -/
def join (dir : Path) (name : FileName) : Path :=
  if dir.bytes = [] ∨ dir.bytes.getLast? = some slash then ⟨dir.bytes ++ name⟩
  else ⟨dir.bytes ++ slash :: name⟩

end Path

/-! ### Extensions -/

/-- The stem and the extension of a file name: what precedes and what follows its last full stop. A
name without a full stop, or with its only one at the start, has no extension. -/
def splitExtension? (name : FileName) : Option (FileName × FileName) :=
  let backwards := name.reverse
  match backwards.dropWhile (· ≠ Path.dot) with
  | _ :: stem@(_ :: _) => some (stem.reverse, (backwards.takeWhile (· ≠ Path.dot)).reverse)
  | _ => none

/-! ### Locations -/

/-- A place in the directory tree: the name of the entry first, then the names of the directories
above it. The root is the empty list. -/
abbrev Location := List FileName

namespace Location

/-- The canonical path of a location: absolute, with one slash before each name. -/
def path : Location → Path
  | [] => ⟨[Path.slash]⟩
  | names@(_ :: _) => ⟨names.reverse.flatMap (Path.slash :: ·)⟩

/-- The length of the canonical path of a location, in bytes, where nothing is written for the root:
each name follows a slash. -/
def pathLength : Location → Nat
  | [] => 0
  | name :: above => name.length + 1 + pathLength above

/-- The location one step away, when the name in the step stands for no link. -/
def step (here : Location) : Path.Step → Location
  | .stay => here
  | .up => here.tail
  | .down name => name :: here

end Location

end GrammarCheck
