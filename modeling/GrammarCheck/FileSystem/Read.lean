import GrammarCheck.FileSystem.Walk

/-!
# Reading through a path

The calls that look at what a path leads to take no path beyond a limit on its length. Apart from
that they find the location that the path resolves to.

* `FileSystem.access`: the location that such a call finds.
* `FileSystem.read`, `FileSystem.readText`: the content of a file.
* `FileSystem.image?`: what the dynamic loader makes of a file.
* `FileSystem.directory?`, `FileSystem.isDirectory`: the directory that a path leads to.
-/

namespace GrammarCheck.FileSystem

/-- The location that a call which reads through a path finds. Such a call takes no path beyond the
limit on its length. -/
def access (fs : FileSystem) (p : Path) : Except IoError Location :=
  if 0 ∈ p.bytes then .error .nulInPath
  else if pathLimit ≤ p.bytes.length then .error .nameTooLong
  else fs.resolve p

/-- The content of the file that a path leads to. -/
def read (fs : FileSystem) (p : Path) : Except IoError (List UInt8) := do
  match fs.entry? (← fs.access p) with
  | some (.file content _) => .ok content
  | some .directory => .error .isADirectory
  | _ => .error .notFound

/-- The content of the file that a path leads to, as text. -/
def readText (fs : FileSystem) (p : Path) : Except IoError String := do
  match Text.Utf8.decode? (← fs.read p) with
  | some text => .ok text
  | none => .error .invalidUtf8

/-- The image that the dynamic loader makes of the file that a path leads to. -/
def image? (fs : FileSystem) (p : Path) : Option Image :=
  match fs.access p with
  | .ok loc =>
    match fs.entry? loc with
    | some (.file _ image) => some image
    | _ => none
  | .error _ => none

/-- The location of the directory that a path leads to. -/
def directory? (fs : FileSystem) (p : Path) : Option Location :=
  match fs.access p with
  | .ok loc => if fs.entry? loc = some .directory then some loc else none
  | .error _ => none

/-- The path leads to a directory. -/
def isDirectory (fs : FileSystem) (p : Path) : Bool :=
  (fs.directory? p).isSome

end GrammarCheck.FileSystem
