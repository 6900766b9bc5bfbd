import GrammarCheck.FileSystem.Read
import GrammarCheck.Naming

/-!
# Discovering library files

A directory offers the grammars whose library files stand directly in it. Links and directories are
not looked at. Where several files hold a grammar of one name, the first of them by path stands for
the grammar.

* `libraryFilesIn`: the library files of a directory, in the order of its listing.
* `discover`: the grammars a directory offers, by name.
-/

namespace GrammarCheck

namespace NamedLibrary

/-- The order of a listing: by name, then by path. -/
def le (a b : NamedLibrary) : Bool :=
  decide (a.name < b.name) || (a.name == b.name && decide (a.path.bytes ≤ b.path.bytes))

/-- A listing without those that have the name of the one before them; `previous` is the name before
the first. -/
def withoutRepeats (previous : Option String) : List NamedLibrary → List NamedLibrary
  | [] => []
  | l :: rest =>
    if previous = some l.name then withoutRepeats previous rest
    else l :: withoutRepeats (some l.name) rest

end NamedLibrary

/-- A regular file stands at the location. -/
def FileSystem.isRegularFile (fs : FileSystem) (loc : Location) : Bool :=
  match fs.entry? loc with
  | some (.file _ _) => true
  | _ => false

/-- The library files that stand in the directory `dir` at the location `loc`, in the order of the
listing. -/
def libraryFilesIn (fs : FileSystem) (dir : Path) (loc : Location) : List NamedLibrary :=
  ((fs.namesIn loc).filter fun name => fs.isRegularFile (name :: loc)).filterMap fun name =>
    NamedLibrary.ofPath? (dir.join name)

/-- The grammars that a directory offers, by name. A path that leads to no directory offers none. -/
def discover (fs : FileSystem) (dir : Path) : List NamedLibrary :=
  match fs.directory? dir with
  | none => []
  | some loc =>
    NamedLibrary.withoutRepeats none ((libraryFilesIn fs dir loc).mergeSort NamedLibrary.le)

end GrammarCheck
