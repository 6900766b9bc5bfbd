import GrammarCheck.Language
import GrammarCheck.Path

/-!
# States of the file system

A state of the file system lists the entries below the root by their locations, and names the
working directory.

* `IoError`: why a path cannot be followed or its file cannot be read.
* `Entry`: what stands at a location.
* `FileSystem.bare`: the state without any entry.
* `FileSystem.entry?`, `FileSystem.namesIn`: the entry at a location, and the names below it.
-/

namespace GrammarCheck

/-! ### Errors -/

/-- Why a path cannot be followed or its file cannot be read. `other` is a failure of a kind that
has no constructor here, by its text. -/
inductive IoError where
  | notFound
  | notADirectory
  | isADirectory
  | nameTooLong
  | tooManyLinks
  | nulInPath
  | invalidUtf8
  | other (text : String)
  deriving Repr, DecidableEq

/-- The text of an error. -/
def IoError.message : IoError → String
  | notFound => "No such file or directory (os error 2)"
  | notADirectory => "Not a directory (os error 20)"
  | isADirectory => "Is a directory (os error 21)"
  | nameTooLong => "File name too long (os error 36)"
  | tooManyLinks => "Too many levels of symbolic links (os error 40)"
  | nulInPath => "file name contained an unexpected NUL byte"
  | invalidUtf8 => "stream did not contain valid UTF-8"
  | other text => text

/-! ### States -/

/-- What stands at a location. A regular file carries the image that the dynamic loader makes of
its content. -/
inductive Entry where
  | directory
  | file (content : List UInt8) (image : Image)
  | symlink (target : Path)
  deriving Repr, DecidableEq

/-- A state of the file system. Of two entries for one location the first counts. -/
structure FileSystem where
  entries : List (Location × Entry)
  workingDirectory : Path
  deriving Repr

namespace FileSystem

/-- The state that holds nothing but the root, its working directory. -/
def bare : FileSystem := ⟨[], .ofText "/"⟩

/-- The entry at a location. The root is always a directory. -/
def entry? (fs : FileSystem) (loc : Location) : Option Entry :=
  match loc with
  | [] => some .directory
  | _ :: _ => fs.entries.lookup loc

/-- The names that stand directly below a location, in the order of the listing. -/
def namesIn (fs : FileSystem) (loc : Location) : List FileName :=
  fs.entries.filterMap fun e =>
    match e.1 with
    | name :: above => if above = loc then some name else none
    | [] => none

end FileSystem

end GrammarCheck
