import GrammarCheck.FileSystem.Walk

/-!
# Building a state

A state is built from an empty working directory by creating entries at paths. Directories that are
missing on the way are created as well.

* `FileSystem.empty`: the state with nothing but its working directory.
* `FileSystem.create`: the state with one more entry, at a path.
-/

namespace GrammarCheck.FileSystem

/-- The state in which a location and those above it hold something: directories stand in where
nothing did. -/
def addDirectories (fs : FileSystem) : Location → FileSystem
  | [] => fs
  | name :: above =>
    let fs := fs.addDirectories above
    match fs.entry? (name :: above) with
    | none => { fs with entries := (name :: above, .directory) :: fs.entries }
    | some _ => fs

/-- The state with the given entry at a location, in place of what stood there. Directories that
are missing above it are added. -/
def add (fs : FileSystem) (loc : Location) (entry : Entry) : FileSystem :=
  let fs := fs.addDirectories loc.tail
  { fs with entries := (loc, entry) :: fs.entries.filter (fun e => e.1 ≠ loc) }

/-- The location that steps lead to for something to be put there: what exists is followed, links
included, and what does not exist is named. -/
def locateFrom (fs : FileSystem) (here : Location) : List Path.Step → Location
  | [] => here
  | step :: rest =>
    match fs.walk roomForAll maxLinks here [step] with
    | .ok there => fs.locateFrom there rest
    | .error _ => fs.locateFrom (here.step step) rest

/-- The location that a path names for something to be put there. -/
def locate (fs : FileSystem) (p : Path) : Location :=
  fs.locateFrom [] (fs.stepsFromRoot p)

/-- The state with an entry created at a path. A directory that is there already stays as it is. -/
def create (fs : FileSystem) (p : Path) (entry : Entry) : FileSystem :=
  match entry with
  | .directory => fs.addDirectories (fs.locate p)
  | entry => fs.add (fs.locate p) entry

/-- The file system that holds nothing but an empty working directory. -/
def empty (workingDirectory : Path) : FileSystem :=
  ({ bare with workingDirectory } : FileSystem).create workingDirectory .directory

end GrammarCheck.FileSystem
