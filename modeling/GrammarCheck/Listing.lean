import GrammarCheck.Plan

/-!
# Listing

The listing shows the bundled grammars and, for a directory, the library files it offers.

* `Listing.grammarLines`: the bundled grammars.
* `Listing.directoryLines`: the library files of a directory, or the refusal of the directory.
-/

namespace GrammarCheck.Listing

/-- The width of the columns of names. -/
def columnWidth : Nat := 12

/-- The word for a grammar that has, or has not, an entry point in the program. -/
def linkState (g : Grammar) : String :=
  if g.isLinked then "linked" else "not linked"

/-- The line of a bundled grammar. -/
def grammarLine (g : Grammar) : String :=
  "  " ++ Text.padRight columnWidth g.name ++ " " ++ Text.padRight columnWidth g.displayName ++ " "
    ++ linkState g

/-- The bundled grammars, under their heading. -/
def grammarLines [Build] : List String :=
  "Linked grammars:" :: bundled.map grammarLine

/-- The line of a library file. -/
def libraryLine (l : NamedLibrary) : String :=
  "  " ++ Text.padRight columnWidth l.name ++ " " ++ l.path.display

/-- The library files of a directory, under their heading. A path that leads to no directory is
refused. -/
def directoryLines (fs : FileSystem) (dir : Path) : Except RequestError (List String) :=
  if fs.isDirectory dir then
    .ok (("Libraries in " ++ dir.display ++ ":") ::
      match discover fs dir with
      | [] => ["  (none)"]
      | found@(_ :: _) => found.map libraryLine)
  else .error (.missingDirectory dir)

end GrammarCheck.Listing
