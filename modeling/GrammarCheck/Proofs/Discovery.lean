import GrammarCheck.Library.Discovery
import Mathlib.Data.List.Sort

/-!
# What a directory offers

The library files of a directory are sorted and thinned out; what is left depends on which files
there are, and not on the order or the number of times in which they are listed.

* `NamedLibrary.le_iff` — the order of a listing, a linear order by name and then by path.
* `pairwise_name_lt_withoutRepeats` — the names that are left are strictly increasing.
* `mem_withoutRepeats_iff` — of the files of one name, the first by path is left.
* `discover_congr` — two states that have the same names and the same regular files in a directory
  offer the same grammars there.
-/

namespace GrammarCheck

namespace NamedLibrary

/-! ### The order of a listing -/

theorem le_iff {a b : NamedLibrary} :
    le a b = true ↔ a.name < b.name ∨ (a.name = b.name ∧ a.path.bytes ≤ b.path.bytes) := by
  simp [le]

theorem le_trans {a b c : NamedLibrary} (hab : le a b = true) (hbc : le b c = true) :
    le a c = true := by
  rw [le_iff] at *
  rcases hab with hab | ⟨hab, hpab⟩
  · rcases hbc with hbc | ⟨hbc, -⟩
    · exact Or.inl (String.lt_trans hab hbc)
    · exact Or.inl (hbc ▸ hab)
  · rcases hbc with hbc | ⟨hbc, hpbc⟩
    · exact Or.inl (hab ▸ hbc)
    · exact Or.inr ⟨hab.trans hbc, List.le_trans hpab hpbc⟩

theorem le_total (a b : NamedLibrary) : (le a b || le b a) = true := by
  rw [Bool.or_eq_true, le_iff, le_iff]
  rcases Std.lt_trichotomy a.name b.name with h | h | h
  · exact Or.inl (Or.inl h)
  · rcases List.le_total a.path.bytes b.path.bytes with hp | hp
    · exact Or.inl (Or.inr ⟨h, hp⟩)
    · exact Or.inr (Or.inr ⟨h.symm, hp⟩)
  · exact Or.inr (Or.inl h)

theorem le_antisymm {a b : NamedLibrary} (hab : le a b = true) (hba : le b a = true) : a = b := by
  rw [le_iff] at *
  rcases hab with hab | ⟨hab, hpab⟩
  · rcases hba with hba | ⟨hba, -⟩
    · exact absurd hba (String.lt_asymm hab)
    · exact absurd hab (hba ▸ String.lt_irrefl _)
  · rcases hba with hba | ⟨-, hpba⟩
    · exact absurd hba (hab ▸ String.lt_irrefl _)
    · have hbytes := List.le_antisymm hpab hpba
      obtain ⟨name, ⟨bytes⟩⟩ := a
      obtain ⟨name', ⟨bytes'⟩⟩ := b
      simp only at hab hbytes
      rw [hab, hbytes]

theorem name_le_of_le {a b : NamedLibrary} (h : le a b = true) : a.name ≤ b.name := by
  rcases le_iff.mp h with h | ⟨h, -⟩
  · exact Std.le_of_lt h
  · exact Std.le_of_eq h

/-! ### Thinning out -/

/-- **What is left of a sorted listing.** A name that comes first is dropped where `previous` is
that name; of every other name the first library file is left. -/
theorem mem_withoutRepeats_iff {previous : Option String} {l : List NamedLibrary}
    (hsorted : l.Pairwise fun a b => le a b = true)
    (hprevious : ∀ n, previous = some n → ∀ x ∈ l, n ≤ x.name) {x : NamedLibrary} :
    x ∈ withoutRepeats previous l ↔
      previous ≠ some x.name ∧ x ∈ l ∧ ∀ y ∈ l, y.name = x.name → le x y = true := by
  induction l generalizing previous with
  | nil => simp [withoutRepeats]
  | cons y l ih =>
    obtain ⟨hy, hl⟩ := List.pairwise_cons.mp hsorted
    unfold withoutRepeats
    split
    · next hskip =>
      -- `y` has the name that is dropped, so `x` is none of it
      rw [ih hl (fun n hn z hz => hprevious n hn z (List.mem_cons_of_mem _ hz))]
      constructor
      · rintro ⟨hne, hx, hfirst⟩
        refine ⟨hne, List.mem_cons_of_mem _ hx, fun z hz hname => ?_⟩
        rcases List.mem_cons.mp hz with rfl | hz
        · exact absurd (hskip.trans (congrArg some hname)) hne
        · exact hfirst z hz hname
      · rintro ⟨hne, hx, hfirst⟩
        rcases List.mem_cons.mp hx with rfl | hx
        · exact absurd hskip hne
        · exact ⟨hne, hx, fun z hz => hfirst z (List.mem_cons_of_mem _ hz)⟩
    · next hkeep =>
      -- `y` is left, and its name is the one that is dropped from there on
      rw [List.mem_cons, ih hl (fun n hn z hz => by
        obtain rfl := Option.some.inj hn
        exact name_le_of_le (hy z hz))]
      constructor
      · rintro (rfl | ⟨hne, hx, hfirst⟩)
        · refine ⟨hkeep, List.mem_cons_self .., fun z hz _ => ?_⟩
          rcases List.mem_cons.mp hz with rfl | hz
          · simpa using le_total z z
          · exact hy z hz
        · have hne' : y.name ≠ x.name := fun h => hne (congrArg some h)
          refine ⟨fun hprev => hne' ?_, List.mem_cons_of_mem _ hx, fun z hz hname => ?_⟩
          · exact Std.le_antisymm (name_le_of_le (hy x hx))
              (hprevious _ hprev y (List.mem_cons_self ..))
          · rcases List.mem_cons.mp hz with rfl | hz
            · exact absurd hname hne'
            · exact hfirst z hz hname
      · rintro ⟨-, hx, hfirst⟩
        rcases List.mem_cons.mp hx with rfl | hx
        · exact Or.inl rfl
        · by_cases hname : y.name = x.name
          -- `x` comes first among its name, and so does `y`
          · exact Or.inl (le_antisymm (hfirst y (List.mem_cons_self ..) hname) (hy x hx))
          · exact Or.inr ⟨fun h => hname (Option.some.inj h), hx,
              fun z hz => hfirst z (List.mem_cons_of_mem _ hz)⟩

/-- No name is lost but the one that is dropped where it comes first. -/
theorem exists_mem_withoutRepeats {previous : Option String} {l : List NamedLibrary}
    {x : NamedLibrary} (hx : x ∈ l) (hprevious : previous ≠ some x.name) :
    ∃ y ∈ withoutRepeats previous l, y.name = x.name := by
  induction l generalizing previous with
  | nil => exact absurd hx List.not_mem_nil
  | cons z l ih =>
    unfold withoutRepeats
    split
    · next hskip =>
      -- `z` has the name that is dropped, so it is not `x`
      rcases List.mem_cons.mp hx with rfl | hx
      · exact absurd hskip hprevious
      · exact ih hx hprevious
    · by_cases hname : z.name = x.name
      · exact ⟨z, List.mem_cons_self .., hname⟩
      · rcases List.mem_cons.mp hx with rfl | hx
        · exact absurd rfl hname
        · obtain ⟨y, hy, hyname⟩ := ih hx fun h => hname (Option.some.inj h)
          exact ⟨y, List.mem_cons_of_mem _ hy, hyname⟩

/-- The names that are left of a sorted listing are strictly increasing. -/
theorem pairwise_name_lt_withoutRepeats {previous : Option String} {l : List NamedLibrary}
    (hsorted : l.Pairwise fun a b => le a b = true) :
    (withoutRepeats previous l).Pairwise fun a b => a.name < b.name := by
  induction l generalizing previous with
  | nil => exact List.Pairwise.nil
  | cons y l ih =>
    obtain ⟨hy, hl⟩ := List.pairwise_cons.mp hsorted
    unfold withoutRepeats
    split
    · exact ih hl
    · refine List.pairwise_cons.mpr ⟨fun x hx => ?_, ih hl⟩
      obtain ⟨hne, hx, -⟩ := (mem_withoutRepeats_iff hl (fun n hn z hz => by
        obtain rfl := Option.some.inj hn
        exact name_le_of_le (hy z hz))).mp hx
      exact Std.lt_of_le_of_ne (name_le_of_le (hy x hx)) fun h => hne (congrArg some h)

/-- A listing as a directory offers it. -/
def offered (l : List NamedLibrary) : List NamedLibrary :=
  withoutRepeats none (l.mergeSort le)

theorem pairwise_le_mergeSort (l : List NamedLibrary) :
    (l.mergeSort le).Pairwise fun a b => le a b = true :=
  @List.pairwise_mergeSort _ le (fun _ _ _ hab hbc => le_trans hab hbc) le_total l

theorem pairwise_name_lt_offered (l : List NamedLibrary) :
    (offered l).Pairwise fun a b => a.name < b.name :=
  pairwise_name_lt_withoutRepeats (pairwise_le_mergeSort l)

theorem mem_offered_iff {l : List NamedLibrary} {x : NamedLibrary} :
    x ∈ offered l ↔ x ∈ l ∧ ∀ y ∈ l, y.name = x.name → le x y = true := by
  rw [offered, mem_withoutRepeats_iff (pairwise_le_mergeSort l) (fun n hn => absurd hn (by simp))]
  simp

/-- Every name of a listing is offered. -/
theorem exists_mem_offered {l : List NamedLibrary} {x : NamedLibrary} (hx : x ∈ l) :
    ∃ y ∈ offered l, y.name = x.name :=
  exists_mem_withoutRepeats (List.mem_mergeSort.mpr hx) nofun

/-- The order and the number of times in which library files are listed do not matter. -/
theorem offered_congr {l l' : List NamedLibrary} (h : ∀ x, x ∈ l ↔ x ∈ l') :
    offered l = offered l' := by
  have : Std.Irrefl fun a b : NamedLibrary => a.name < b.name := ⟨fun a => String.lt_irrefl a.name⟩
  have : Std.Antisymm fun a b : NamedLibrary => a.name < b.name :=
    ⟨fun a b hab hba => absurd hba (String.lt_asymm hab)⟩
  -- two strictly increasing lists with the same members are one
  refine List.Pairwise.eq_of_mem_iff (pairwise_name_lt_offered l) (pairwise_name_lt_offered l') ?_
  intro x
  simp only [mem_offered_iff, h]

end NamedLibrary

/-! ### Directories -/

/-- A name is listed below a location exactly when something stands there. -/
theorem FileSystem.mem_namesIn_iff {fs : FileSystem} {loc : Location} {name : FileName} :
    name ∈ fs.namesIn loc ↔ (fs.entry? (name :: loc)).isSome = true := by
  simp only [FileSystem.entry?, List.lookup_isSome_iff]
  unfold FileSystem.namesIn
  rw [List.mem_filterMap]
  constructor
  · rintro ⟨⟨place, entry⟩, hmem, hname⟩
    cases place with
    | nil => exact absurd hname (by simp)
    | cons n above =>
      simp only [Option.ite_none_right_eq_some, Option.some.injEq] at hname
      obtain ⟨rfl, rfl⟩ := hname
      exact ⟨_, hmem, beq_self_eq_true _⟩
  · rintro ⟨⟨place, entry⟩, hmem, hplace⟩
    obtain rfl := eq_of_beq hplace
    exact ⟨_, hmem, by simp⟩

theorem FileSystem.isRegularFile_iff {fs : FileSystem} {loc : Location} :
    fs.isRegularFile loc = true ↔ ∃ content image, fs.entry? loc = some (.file content image) := by
  unfold isRegularFile
  split
  · next content image hentry => exact iff_of_true rfl ⟨content, image, hentry⟩
  · next hother => exact iff_of_false nofun fun ⟨content, image, h⟩ => hother content image h

/-- The library files of a directory are the regular files in it whose path gives a name. -/
theorem mem_libraryFilesIn_iff {fs : FileSystem} {dir : Path} {loc : Location} {l : NamedLibrary} :
    l ∈ libraryFilesIn fs dir loc ↔
      ∃ name, fs.isRegularFile (name :: loc) = true ∧
        NamedLibrary.ofPath? (dir.join name) = some l := by
  -- what stands somewhere is listed there, so the listing need not be mentioned
  have hlisted : ∀ name, fs.isRegularFile (name :: loc) = true → name ∈ fs.namesIn loc := by
    intro name hfile
    obtain ⟨content, image, hentry⟩ := FileSystem.isRegularFile_iff.mp hfile
    rw [FileSystem.mem_namesIn_iff, hentry]
    rfl
  simp only [libraryFilesIn, List.mem_filterMap, List.mem_filter]
  constructor
  · rintro ⟨name, ⟨-, hfile⟩, hpath⟩
    exact ⟨name, hfile, hpath⟩
  · rintro ⟨name, hfile, hpath⟩
    exact ⟨name, ⟨hlisted name hfile, hfile⟩, hpath⟩

/-- A directory whose listing is in order offers it, but for repeated names. -/
theorem discover_of_pairwise_le {fs : FileSystem} {dir : Path} {loc : Location}
    (hdirectory : fs.directory? dir = some loc)
    (hsorted : (libraryFilesIn fs dir loc).Pairwise fun a b => NamedLibrary.le a b = true) :
    discover fs dir = NamedLibrary.withoutRepeats none (libraryFilesIn fs dir loc) := by
  unfold discover
  rw [hdirectory]
  exact congrArg _ (List.mergeSort_of_pairwise hsorted)

/-- **Discovery looks at regular files only.** Two states in which a path leads to one directory,
and in which the same regular files stand in it, offer the same grammars. -/
theorem discover_congr {fs fs' : FileSystem} {dir : Path}
    (hdirectory : fs.directory? dir = fs'.directory? dir)
    (hfile : ∀ loc, fs.isRegularFile loc = fs'.isRegularFile loc) :
    discover fs dir = discover fs' dir := by
  unfold discover
  rw [hdirectory]
  split
  · rfl
  · refine NamedLibrary.offered_congr fun l => ?_
    simp only [mem_libraryFilesIn_iff, hfile]

end GrammarCheck
