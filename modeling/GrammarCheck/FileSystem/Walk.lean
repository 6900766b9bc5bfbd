import GrammarCheck.FileSystem.Basic

/-!
# Walking

Everything is reached by walking: the steps of a path are taken one by one, every step needs a
directory to stand in, and a symbolic link that is stepped into puts the steps of its target in
front of those still to be taken. A walk may be held to places whose paths are not too long.

* `FileSystem.walk`: where a sequence of steps leads.
* `FileSystem.resolve`: the location that a path leads to.
* `FileSystem.canonicalize`: the canonical path of that location. It is put together on the way, so
  every place on the way must have a path of its own that can be asked about.
-/

namespace GrammarCheck.FileSystem

/-- The longest name an entry can have, in bytes. -/
def maxNameLength : Nat := 255

/-- The number of symbolic links that one walk may step into. -/
def maxLinks : Nat := 40

/-- The length from which on no question can be asked about a path, in bytes. -/
def pathLimit : Nat := 4096

/-- Takes steps as long as they meet no symbolic link. A step is taken only where `room` has room
for the steps ahead; `follow` goes on from a link, given the location that holds it, its target, and
the steps that come after it. -/
def walkUntilLink (fs : FileSystem) (room : Location → List Path.Step → Bool)
    (follow : Location → Path → List Path.Step → Except IoError Location)
    (here : Location) : List Path.Step → Except IoError Location
  | [] => .ok here
  | step :: rest =>
    if !room here (step :: rest) then .error .nameTooLong
    else
      match fs.entry? here with
      | some .directory =>
        match step with
        | .stay => walkUntilLink fs room follow here rest
        | .up => walkUntilLink fs room follow here.tail rest
        | .down name =>
          if 0 ∈ name then .error .nulInPath
          else if maxNameLength < name.length then .error .nameTooLong
          else
            match fs.entry? (name :: here) with
            | none => .error .notFound
            | some (.symlink target) => follow here target rest
            | some _ => walkUntilLink fs room follow (name :: here) rest
      | some _ => .error .notADirectory
      | none => .error .notFound

/-- Takes steps from a location and steps into at most `links` symbolic links. The target of a link
is followed from the root if it is absolute, else from the directory that holds the link. -/
def walk (fs : FileSystem) (room : Location → List Path.Step → Bool) :
    Nat → Location → List Path.Step → Except IoError Location
  | 0, here, steps => walkUntilLink fs room (fun _ _ _ => .error .tooManyLinks) here steps
  | links + 1, here, steps =>
    walkUntilLink fs room
      (fun holder target rest =>
        walk fs room links (if target.isAbsolute then [] else holder) (target.steps ++ rest))
      here steps

/-- There is room everywhere. -/
def roomForAll (_ : Location) (_ : List Path.Step) : Bool := true

/-- There is room where the canonical path of the location, with a slash and the name that comes
next written after it, stays below the limit. -/
def roomForPath (here : Location) (steps : List Path.Step) : Bool :=
  here.pathLength + 1 + Path.Step.nextNameLength steps < pathLimit

/-- The steps from the root that a path asks for: a relative path goes on from the working
directory. -/
def stepsFromRoot (fs : FileSystem) (p : Path) : List Path.Step :=
  if p.isAbsolute then p.steps else fs.workingDirectory.steps ++ p.steps

/-- The location a path leads to, if there is room on the way. A zero byte anywhere in the path is
found first, and the empty path leads nowhere. -/
def locationOf (fs : FileSystem) (room : Location → List Path.Step → Bool) (p : Path) :
    Except IoError Location :=
  if 0 ∈ p.bytes then .error .nulInPath
  else if p.bytes = [] then .error .notFound
  else fs.walk room maxLinks [] (fs.stepsFromRoot p)

/-- The location a path leads to. -/
def resolve (fs : FileSystem) (p : Path) : Except IoError Location :=
  fs.locationOf roomForAll p

/-- The canonical path of what a path leads to: absolute, and without links and dots. The path that
is given may have any length; the canonical path of no place on the way may. -/
def canonicalize (fs : FileSystem) (p : Path) : Except IoError Path :=
  (fs.locationOf roomForPath p).map Location.path

end GrammarCheck.FileSystem
