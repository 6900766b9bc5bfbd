import GrammarCheck.Naming
import GrammarCheck.Proofs.AsciiCase
import GrammarCheck.Proofs.Walking
import GrammarCheck.Text.Layout
import Mathlib.Data.List.Infix
import Mathlib.Data.List.TakeWhile

/-!
# The names of library files

A path is a library file's by the name it ends in. The name is cut at its last full stop; what
follows is one of a few extensions, and what precedes may start in one of a few ways before it comes
to the grammar. All of this is spelled with few characters.

* `Text.cut?_eq_some_iff`, `splitExtension?_eq_some_iff` — where a text and a file name are cut.
* `Path.fileName?_join` — the path of an entry of a directory ends in the name of the entry.
* `grammarName?_eq_some_iff` — the parts of a file name that gives a grammar.
* `exists_text_of_grammarName?` — such a file name is a text of a few characters.
-/

namespace GrammarCheck

/-! ### Cutting -/

section Cutting

variable {α : Type} [DecidableEq α] {a b : α} {l before after : List α}

/-- A list is cut before the first occurrence of a member. -/
theorem takeWhile_dropWhile_eq_iff :
    (l.takeWhile (· ≠ a) = before ∧ l.dropWhile (· ≠ a) = b :: after) ↔
      l = before ++ a :: after ∧ a ∉ before ∧ b = a := by
  induction l generalizing before with
  | nil => simp
  | cons x l ih =>
    by_cases hx : x = a
    · -- the cut is at the head, so nothing precedes it
      subst hx
      rw [List.takeWhile_cons_of_neg (by simp), List.dropWhile_cons_of_neg (by simp)]
      cases before with
      | nil => simp [and_comm, eq_comm]
      | cons y before => simp +contextual [eq_comm]
    · rw [List.takeWhile_cons_of_pos (by simpa using hx),
        List.dropWhile_cons_of_pos (by simpa using hx)]
      cases before with
      | nil => simp [hx]
      | cons y before =>
        simp only [List.cons.injEq, List.cons_append, List.mem_cons, not_or, and_assoc, ih]
        constructor
        · rintro ⟨rfl, hl, hbefore, hb⟩
          exact ⟨rfl, hl, Ne.symm hx, hbefore, hb⟩
        · rintro ⟨rfl, hl, -, hbefore, hb⟩
          exact ⟨rfl, hl, hbefore, hb⟩

end Cutting

namespace Text

variable {separator : Char} {s first second : String}

theorem cut?_eq_none_iff : cut? separator s = none ↔ separator ∉ s.toList := by
  unfold cut?
  split
  · next h =>
    rw [List.dropWhile_eq_nil_iff] at h
    exact iff_of_true rfl fun hmem => absurd (h separator hmem) (by simp)
  · next h =>
    have hcut := takeWhile_dropWhile_eq_iff.mp ⟨rfl, h⟩
    refine iff_of_false (by simp) fun hnot => hnot ?_
    rw [hcut.1]
    exact List.mem_append_right _ (List.mem_cons_self ..)

/-- A text is cut at the first occurrence of the separator. -/
theorem cut?_eq_some_iff :
    cut? separator s = some (first, second) ↔
      s.toList = first.toList ++ separator :: second.toList ∧ separator ∉ first.toList := by
  unfold cut?
  split
  · next h =>
    refine iff_of_false (by simp) fun hcut => ?_
    have hdrop := (takeWhile_dropWhile_eq_iff.mpr ⟨hcut.1, hcut.2, rfl⟩).2
    exact absurd (h.symm.trans hdrop) (by simp)
  · next c after h =>
    simp only [Option.some.injEq, Prod.mk.injEq]
    constructor
    · rintro ⟨rfl, rfl⟩
      obtain ⟨hcut, hbefore, -⟩ := takeWhile_dropWhile_eq_iff.mp ⟨rfl, h⟩
      simp only [String.toList_ofList]
      exact ⟨hcut, hbefore⟩
    · rintro ⟨hcut, hbefore⟩
      obtain ⟨htake, hdrop⟩ := takeWhile_dropWhile_eq_iff.mpr ⟨hcut, hbefore, rfl⟩
      obtain ⟨-, rfl⟩ := List.cons.inj (h.symm.trans hdrop)
      rw [htake]
      exact ⟨String.ofList_toList, String.ofList_toList⟩

end Text

/-- A file name is cut at its last full stop, if something precedes it. -/
theorem splitExtension?_eq_some_iff {name stem extension : FileName} :
    splitExtension? name = some (stem, extension) ↔
      name = stem ++ Path.dot :: extension ∧ Path.dot ∉ extension ∧ stem ≠ [] := by
  -- a cut of the name from its end, which is the start of its reverse
  have hcut : ∀ {b after},
      name.reverse.dropWhile (· ≠ Path.dot) = b :: after →
      name = after.reverse ++ Path.dot :: (name.reverse.takeWhile (· ≠ Path.dot)).reverse ∧
        Path.dot ∉ (name.reverse.takeWhile (· ≠ Path.dot)).reverse := by
    intro b after h
    obtain ⟨heq, hbefore, -⟩ := takeWhile_dropWhile_eq_iff.mp ⟨rfl, h⟩
    refine ⟨?_, by simpa using hbefore⟩
    simpa using congrArg List.reverse heq
  unfold splitExtension?
  simp only
  constructor
  · intro h
    split at h
    · next b c after hdrop =>
      obtain ⟨rfl, rfl⟩ := Prod.mk.inj (Option.some.inj h)
      obtain ⟨hname, hextension⟩ := hcut hdrop
      exact ⟨hname, hextension, by simp⟩
    · exact absurd h (by simp)
  · rintro ⟨rfl, hextension, hstem⟩
    have hreverse : (stem ++ Path.dot :: extension).reverse =
        extension.reverse ++ Path.dot :: stem.reverse := by simp
    obtain ⟨htake, hdrop⟩ := takeWhile_dropWhile_eq_iff.mpr
      ⟨hreverse, by simpa using hextension, rfl⟩
    obtain ⟨c, after, hafter⟩ := List.exists_cons_of_ne_nil (List.reverse_ne_nil_iff.mpr hstem)
    rw [hdrop, htake, hafter]
    simp [← hafter]

/-! ### Entries of directories -/

namespace Path

theorem steps_append_slash (above name : List UInt8) :
    steps ⟨above ++ slash :: name⟩ = steps ⟨above⟩ ++ steps ⟨name⟩ := by
  simp only [steps, List.splitOn_append_cons_self, List.map_append]

theorem steps_of_spelled {name : FileName} (h : (Step.down name).Spelled) :
    steps ⟨name⟩ = [.down name] := by
  rw [steps, List.splitOn_eq_singleton h.1, List.map_singleton, h.2]

/-- The path of an entry spells the name of the entry after a slash, if it is not the whole path. -/
theorem bytes_join (dir : Path) (name : FileName) :
    (dir.join name).bytes = name ∨ ∃ above, (dir.join name).bytes = above ++ slash :: name := by
  unfold join
  split
  · next h =>
    rcases h with hempty | hlast
    · exact Or.inl (by rw [hempty]; rfl)
    · obtain ⟨above, habove⟩ := List.getLast?_eq_some_iff.mp hlast
      refine Or.inr ⟨above, ?_⟩
      rw [habove, List.append_assoc]
      rfl
  · exact Or.inr ⟨dir.bytes, rfl⟩

/-- **Entries of directories.** The path of an entry ends in the name of the entry. -/
theorem fileName?_join (dir : Path) {name : FileName} (h : (Step.down name).Spelled) :
    (dir.join name).fileName? = some name := by
  have hsteps : ∃ above, (dir.join name).steps = above ++ [.down name] := by
    rcases dir.bytes_join name with hbytes | ⟨above, hbytes⟩
    · exact ⟨[], by rw [steps, hbytes]; exact steps_of_spelled h⟩
    · refine ⟨steps ⟨above⟩, ?_⟩
      rw [steps, hbytes, ← steps_of_spelled h]
      exact steps_append_slash above name
  obtain ⟨above, habove⟩ := hsteps
  simp [fileName?, lastMove?, habove]

end Path

/-! ### Parts of a file name -/

theorem grammarName?_eq_some_iff {p : Path} {name : String} :
    grammarName? p = some name ↔
      ∃ file stem extension stemText extensionText, p.fileName? = some file ∧
        splitExtension? file = some (stem, extension) ∧
        Text.Utf8.decode? extension = some extensionText ∧
        Text.lower extensionText ∈ libraryExtensions ∧
        Text.Utf8.decode? stem = some stemText ∧ nameOfStem? stemText = some name := by
  unfold grammarName?
  simp only [Option.bind_eq_bind, Option.bind_eq_some_iff, Option.ite_none_right_eq_some]
  constructor
  · rintro ⟨file, hfile, ⟨stem, extension⟩, hsplit, extensionText, hextension, hlower, stemText,
      hstem, hname⟩
    exact ⟨file, stem, extension, stemText, extensionText, hfile, hsplit, hextension, hlower,
      hstem, hname⟩
  · rintro ⟨file, stem, extension, stemText, extensionText, hfile, hsplit, hextension, hlower,
      hstem, hname⟩
    exact ⟨file, hfile, ⟨stem, extension⟩, hsplit, extensionText, hextension, hlower, stemText,
      hstem, hname⟩

/-- The rule for ASCII makes no character of a name from another one. -/
theorem isNameChar_of_toLower {c : Char} (h : isNameChar c.toLower = true) :
    isNameChar c = true := by
  by_cases hupper : 'A' ≤ c ∧ c ≤ 'Z'
  · have halpha : c.isAlpha = true := (Bool.or_eq_true ..).mpr (Or.inl (decide_eq_true hupper))
    simp [isNameChar, Char.isAlphanum, halpha]
  · have hlower : c.toLower = c := dif_neg hupper
    rwa [hlower] at h

theorem not_fromBeyond_of_mem_libraryExtensions :
    ∀ t ∈ libraryExtensions, ∀ c ∈ t.toList, ¬ Text.FromBeyond c := by
  -- only the characters of the extensions are looked at, not all that there are
  have hall :
      (libraryExtensions.all fun t => t.toList.all fun c => ¬ Text.FromBeyond c) = true := by
    decide
  simpa only [List.all_eq_true, decide_eq_true_eq] using hall

/-- The extensions of library files are spelled with characters of a name, in any case. -/
theorem isNameChar_of_mem_extension {extension : String}
    (h : Text.lower extension ∈ libraryExtensions) :
    ∀ c ∈ extension.toList, isNameChar c = true := by
  have hnames : ∀ t ∈ libraryExtensions, t.toList.all isNameChar = true := by decide
  have hlower : extension.toLower = Text.lower extension :=
    (Text.lower_eq_iff_toLower_eq (not_fromBeyond_of_mem_libraryExtensions _ h)).mp rfl
  intro c hc
  refine isNameChar_of_toLower (List.all_eq_true.mp (hnames _ h) _ ?_)
  rw [← hlower, Text.toList_toLower]
  exact List.mem_map_of_mem hc

/-- What is dropped from the start of a stem is one of the known starts, or nothing. -/
theorem exists_start_append_dropLibraryStart (stem : List Char) :
    ∃ start ∈ "" :: libraryStarts, stem = start.toList ++ dropLibraryStart stem := by
  unfold dropLibraryStart
  cases hfind : libraryStarts.findSome? fun start => start.toList.isPrefixOf? stem with
  | none => exact ⟨"", List.mem_cons_self .., rfl⟩
  | some rest =>
    obtain ⟨start, hstart, hrest⟩ := List.exists_of_findSome?_eq_some hfind
    refine ⟨start, List.mem_cons_of_mem _ hstart, ?_⟩
    exact (List.isPrefixOf?_eq_some_iff_append_eq.mp hrest).symm

/-- The stem of a library file is spelled with characters of a name. -/
theorem isNameChar_of_mem_stem {stem name : String} (h : nameOfStem? stem = some name) :
    ∀ c ∈ stem.toList, isNameChar c = true := by
  have hstarts : ∀ start ∈ "" :: libraryStarts, start.toList.all isNameChar = true := by decide
  unfold nameOfStem? at h
  simp only [Option.ite_none_right_eq_some, List.all_eq_true] at h
  obtain ⟨start, hstart, hstem⟩ := exists_start_append_dropLibraryStart stem.toList
  intro c hc
  rw [hstem] at hc
  rcases List.mem_append.mp hc with hc | hc
  · exact List.all_eq_true.mp (hstarts start hstart) c hc
  · exact h.1.2 c hc

theorem Text.Utf8.encode_append (s t : String) : encode (s ++ t) = encode s ++ encode t := by
  simp [encode, String.toUTF8]

/-- The bytes of two texts with a full stop between them. -/
theorem Text.Utf8.encode_dotted (stem extension : String) :
    encode (stem ++ "." ++ extension) = encode stem ++ Path.dot :: encode extension := by
  have hdot : encode "." = [Path.dot] := by decide
  rw [encode_append, encode_append, hdot, List.append_assoc, List.singleton_append]

/-- **The name of a library file** is a text: characters of a name, and a full stop. -/
theorem exists_text_of_grammarName? {p : Path} {file : FileName} {name : String}
    (hfile : p.fileName? = some file) (h : grammarName? p = some name) :
    ∃ text, file = Text.Utf8.encode text ∧
      ∀ c ∈ text.toList, isNameChar c = true ∨ c = '.' := by
  obtain ⟨file', stem, extension, stemText, extensionText, hfile', hsplit, hextension, hlower,
    hstem, hname⟩ := grammarName?_eq_some_iff.mp h
  obtain rfl := Option.some.inj (hfile.symm.trans hfile')
  obtain ⟨rfl, -, -⟩ := splitExtension?_eq_some_iff.mp hsplit
  rw [Text.Utf8.decode?_eq_some_iff] at hextension hstem
  refine ⟨stemText ++ "." ++ extensionText, ?_, fun c hc => ?_⟩
  · rw [Text.Utf8.encode_dotted, hstem, hextension]
  · rw [String.toList_append, String.toList_append] at hc
    rcases List.mem_append.mp hc with hc | hc
    · rcases List.mem_append.mp hc with hc | hc
      · exact Or.inl (isNameChar_of_mem_stem hname c hc)
      · exact Or.inr (List.mem_singleton.mp hc)
    · exact Or.inl (isNameChar_of_mem_extension hlower c hc)

end GrammarCheck
