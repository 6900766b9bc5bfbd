import GrammarCheck.Proofs.Artifact

/-!
# Spellings of a path

A library file can be asked for through many paths: relative or absolute, with dots, repeated
slashes and links. Once a path has a canonical path, nothing else about its spelling is kept. The
file is opened through the canonical path, the messages name the canonical path, and where the path
is read again as it was given, the same file is found.

* `FileSystem.access_eq_of_canonicalize` — a path and its canonical path are read through alike.
* `openLibrary_eq_of_canonicalize` — a library file opens through a path as it does through the
  canonical path.
* `openLibrary_eq_of_sameFile` — two paths with one canonical path give one item.
-/

namespace GrammarCheck

variable {fs : FileSystem} {p canonical : Path}

/-! ### Reading -/

/-- **Reading through a spelling.** A path and its canonical path are read through at the same
location. -/
theorem FileSystem.access_eq_of_canonicalize (h : fs.canonicalize p = .ok canonical)
    (hshort : p.bytes.length < pathLimit) : fs.access p = fs.access canonical := by
  obtain ⟨loc, hresolve, -, haccess⟩ := exists_location_of_canonicalize h
  rw [access_eq_resolve hshort, hresolve, haccess]

/-- The fingerprint is that of the same file; only a failure would tell the two paths apart. -/
theorem fingerprintFile_eq_of_canonicalize (h : fs.canonicalize p = .ok canonical)
    (hshort : p.bytes.length < FileSystem.pathLimit) :
    (fingerprintFile fs p).toOption = (fingerprintFile fs canonical).toOption := by
  have hread : fs.read p = fs.read canonical := by
    rw [FileSystem.read, FileSystem.read, FileSystem.access_eq_of_canonicalize h hshort]
  rw [fingerprintFile, fingerprintFile, hread]
  cases fs.read canonical <;> rfl

/-! ### Opening -/

/-- Opening goes on with the canonical path alone, also where it fails. -/
theorem LibraryGrammar.ofFile_eq_of_canonicalize (h : fs.canonicalize p = .ok canonical)
    (name : String) :
    LibraryGrammar.ofFile fs p name = LibraryGrammar.ofFile fs canonical name := by
  have hgiven : resolveLibrary fs p = .ok canonical := resolveLibrary_eq_ok_iff.mpr h
  have hcanonical : resolveLibrary fs canonical = .ok canonical :=
    resolveLibrary_eq_ok_iff.mpr (FileSystem.canonicalize_canonical h)
  rw [ofFile, ofFile, hgiven, hcanonical]

/-- **Opening through a spelling.** The item of a library file is that of its canonical path. -/
theorem openLibrary_eq_of_canonicalize (h : fs.canonicalize p = .ok canonical)
    (hshort : p.bytes.length < FileSystem.pathLimit) (name : String) :
    openLibrary fs ⟨name, p⟩ = openLibrary fs ⟨name, canonical⟩ := by
  unfold openLibrary brokenCase
  simp only [LibraryGrammar.ofFile_eq_of_canonicalize h name]
  split
  · rfl
  · -- the error names the canonical path already, so the artifact is all that is left
    rw [fingerprintFile_eq_of_canonicalize h hshort]

/-- The item of a library file is a grammar from a library file or a case that has failed. -/
theorem openLibrary_cases (fs : FileSystem) (l : NamedLibrary) :
    (∃ g, openLibrary fs l = .grammar (.library g)) ∨ ∃ c, openLibrary fs l = .broken c := by
  unfold openLibrary
  split
  · next g _ => exact Or.inl ⟨g, rfl⟩
  · exact Or.inr ⟨_, rfl⟩

/-- **The spelling of a path does not matter.** Two paths that resolve to one canonical path,
neither of them beyond the limit on the length of a path, either both open as the same grammar or
are both broken in the same way. So they lead to the same case, whatever loads the grammar and
parses the sample. -/
theorem openLibrary_eq_of_sameFile (fs : FileSystem) (name : String) (p p' canonical : Path)
    (h : resolveLibrary fs p = .ok canonical) (h' : resolveLibrary fs p' = .ok canonical)
    (hshort : p.bytes.length < FileSystem.pathLimit)
    (hshort' : p'.bytes.length < FileSystem.pathLimit) :
    ((∃ g, openLibrary fs ⟨name, p⟩ = .grammar (.library g) ∧
        openLibrary fs ⟨name, p'⟩ = .grammar (.library g)) ∨
      (∃ c, openLibrary fs ⟨name, p⟩ = .broken c ∧ openLibrary fs ⟨name, p'⟩ = .broken c)) ∧
    ∀ runtime loader options,
      (openLibrary fs ⟨name, p⟩).case runtime loader options =
        (openLibrary fs ⟨name, p'⟩).case runtime loader options := by
  rw [resolveLibrary_eq_ok_iff] at h h'
  have heq : openLibrary fs ⟨name, p⟩ = openLibrary fs ⟨name, p'⟩ :=
    (openLibrary_eq_of_canonicalize h hshort name).trans
      (openLibrary_eq_of_canonicalize h' hshort' name).symm
  rw [heq]
  refine ⟨?_, fun _ _ _ => rfl⟩
  rcases openLibrary_cases fs ⟨name, p'⟩ with ⟨g, hg⟩ | ⟨c, hc⟩
  · exact Or.inl ⟨g, hg, hg⟩
  · exact Or.inr ⟨c, hc, hc⟩

/-- A library file without entry points, a link to it, and a working directory beside the link. -/
private def spelledLibrary : FileSystem where
  entries :=
    [([(Path.ofText "lib").bytes], .directory),
     ([(Path.ofText "a.so").bytes, (Path.ofText "lib").bytes], .file [1, 2] (.exporting [])),
     ([(Path.ofText "link").bytes], .symlink (.ofText "lib/./a.so"))]
  workingDirectory := .ofText "/lib"

/-- The file is broken in the same way through a relative link and through a path with dots. -/
theorem openLibrary_eq_of_sameFile_link :
    let caseAt (path : String) : Case :=
      (openLibrary spelledLibrary ⟨"a", .ofText path⟩).case ⟨fun _ _ => none⟩ AbiRange.supported {}
    resolveLibrary spelledLibrary (.ofText "../link") = .ok (.ofText "/lib/a.so") ∧
      resolveLibrary spelledLibrary (.ofText "/lib//../lib/./a.so") = .ok (.ofText "/lib/a.so") ∧
      caseAt "../link" = caseAt "/lib//../lib/./a.so" := by
  have hlink : resolveLibrary spelledLibrary (.ofText "../link") = .ok (.ofText "/lib/a.so") := rfl
  have hdots : resolveLibrary spelledLibrary (.ofText "/lib//../lib/./a.so") =
      .ok (.ofText "/lib/a.so") := rfl
  exact ⟨hlink, hdots, (openLibrary_eq_of_sameFile spelledLibrary "a" _ _ _ hlink hdots
    (by decide) (by decide)).2 _ _ _⟩

end GrammarCheck
