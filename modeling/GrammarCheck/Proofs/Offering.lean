import GrammarCheck.Proofs.Isolation
import GrammarCheck.Proofs.LibraryValues
import GrammarCheck.Proofs.NamingRules

/-!
# The one list that a directory offers

Discovery goes through a listing, takes the names from the paths, sorts and thins out. What comes
out of this can be said of the directory alone: one library file for each name that a regular file
in it gives, by name, and of the files that give one name the one whose own name comes first. There
is only one such list, so the order in which the directory is listed leaves no trace in it.

* `HoldsGrammar` — a regular file of a directory whose path gives a name.
* `Offers` — a list is what the directory offers.
* `Path.bytes_join_le_iff` — the paths of two entries are in the order of the entries.
* `offers_discover`, `Offers.eq_of_offers` — discovery gives such a list, and there is no other.
* `discover_eq_iff_offers` — what discovery gives, with what follows for the order of a listing.
-/

namespace GrammarCheck

/-! ### Paths of entries -/

namespace Path

/-- The paths of the entries of a directory begin alike. -/
theorem exists_start_join (dir : Path) :
    ∃ start, ∀ name : FileName, (dir.join name).bytes = start ++ name := by
  by_cases h : dir.bytes = [] ∨ dir.bytes.getLast? = some slash
  · refine ⟨dir.bytes, fun name => ?_⟩
    rw [join, if_pos h]
  · refine ⟨dir.bytes ++ [slash], fun name => ?_⟩
    rw [join, if_neg h, List.append_assoc, List.singleton_append]

/-- **The order of paths.** The paths of two entries of a directory are in the order of the names of
the entries. -/
theorem bytes_join_le_iff (dir : Path) {name name' : FileName} :
    (dir.join name).bytes ≤ (dir.join name').bytes ↔ name ≤ name' := by
  obtain ⟨start, hstart⟩ := dir.exists_start_join
  rw [hstart, hstart]
  constructor
  · intro hle
    -- otherwise the second path would come before the first
    by_contra hnot
    have hlt : name' < name := List.not_le.mp hnot
    exact List.not_lt.mpr hle (List.append_left_lt hlt)
  · exact List.append_left_le

theorem join_inj (dir : Path) {name name' : FileName} :
    dir.join name = dir.join name' ↔ name = name' := by
  refine ⟨fun h => ?_, fun h => h ▸ rfl⟩
  obtain ⟨start, hstart⟩ := dir.exists_start_join
  have hbytes := congrArg Path.bytes h
  rw [hstart, hstart] at hbytes
  exact List.append_cancel_left hbytes

end Path

/-! ### What a directory offers -/

/-- The file of the directory `dir`, which stands at the location `loc`, is a regular file whose
path gives the name. -/
structure HoldsGrammar (fs : FileSystem) (dir : Path) (loc : Location) (file : FileName)
    (name : String) : Prop where
  regular : ∃ content image, fs.entry? (file :: loc) = some (.file content image)
  gives : grammarName? (dir.join file) = some name

/-- **What a directory offers.** The names are strictly increasing in the order of bytes; each comes
with the path of a regular file that gives it; no name is left out that such a file gives; and no
file that gives the name comes before the one that is chosen. -/
structure Offers (fs : FileSystem) (dir : Path) (loc : Location) (found : List NamedLibrary) :
    Prop where
  increasing : found.Pairwise fun a b => Text.Utf8.encode a.name < Text.Utf8.encode b.name
  sound : ∀ l ∈ found, ∃ file, HoldsGrammar fs dir loc file l.name ∧ l.path = dir.join file
  complete : ∀ file name, HoldsGrammar fs dir loc file name → ∃ l ∈ found, l.name = name
  first : ∀ l ∈ found, ∀ file file', l.path = dir.join file →
    HoldsGrammar fs dir loc file' l.name → file ≤ file'

variable {fs : FileSystem} {dir : Path} {loc : Location} {l : NamedLibrary}

/-- The library file is that of the first file of the directory that gives its name. -/
def IsFirst (fs : FileSystem) (dir : Path) (loc : Location) (l : NamedLibrary) : Prop :=
  ∃ file, HoldsGrammar fs dir loc file l.name ∧ l.path = dir.join file ∧
    ∀ file', HoldsGrammar fs dir loc file' l.name → file ≤ file'

/-- The members of a list that the directory offers are known by themselves. -/
theorem Offers.mem_iff {found : List NamedLibrary} (h : Offers fs dir loc found) :
    l ∈ found ↔ IsFirst fs dir loc l := by
  constructor
  · intro hl
    obtain ⟨file, hholds, hpath⟩ := h.sound l hl
    exact ⟨file, hholds, hpath, fun file' hholds' => h.first l hl file file' hpath hholds'⟩
  · rintro ⟨file, hholds, hpath, hfirst⟩
    obtain ⟨l', hl', hname⟩ := h.complete file l.name hholds
    obtain ⟨file', hholds', hpath'⟩ := h.sound l' hl'
    -- each of the two files comes before the other, so they are one
    have hle : file ≤ file' := hfirst file' (hname ▸ hholds')
    have hle' : file' ≤ file := h.first l' hl' file' file hpath' (hname.symm ▸ hholds)
    obtain rfl : file = file' := List.le_antisymm hle hle'
    have heq : l = l' := by
      obtain ⟨name, path⟩ := l
      obtain ⟨name', path'⟩ := l'
      simp only at hname hpath hpath'
      rw [hname, hpath, hpath']
    exact heq ▸ hl'

/-- **There is only one such list.** -/
theorem Offers.eq_of_offers {found found' : List NamedLibrary} (h : Offers fs dir loc found)
    (h' : Offers fs dir loc found') : found = found' := by
  have : Std.Irrefl fun a b : NamedLibrary => Text.Utf8.encode a.name < Text.Utf8.encode b.name :=
    ⟨fun a => List.lt_irrefl (Text.Utf8.encode a.name)⟩
  have : Std.Antisymm fun a b : NamedLibrary => Text.Utf8.encode a.name < Text.Utf8.encode b.name :=
    ⟨fun a b hab hba => absurd hba (List.lt_asymm hab)⟩
  -- two strictly increasing lists with the same members are one
  refine List.Pairwise.eq_of_mem_iff h.increasing h'.increasing fun l => ?_
  rw [h.mem_iff, h'.mem_iff]

/-! ### Discovery -/

/-- A library file in a directory is a file that holds a grammar. -/
theorem mem_libraryFilesIn_iff_holdsGrammar :
    l ∈ libraryFilesIn fs dir loc ↔
      ∃ file, HoldsGrammar fs dir loc file l.name ∧ l.path = dir.join file := by
  rw [mem_libraryFilesIn_iff]
  refine exists_congr fun file => ?_
  rw [FileSystem.isRegularFile_iff, NamedLibrary.ofPath?_eq_some_iff]
  constructor
  · rintro ⟨hregular, hgives, hpath⟩
    exact ⟨⟨hregular, hgives⟩, hpath.symm⟩
  · rintro ⟨hholds, hpath⟩
    exact ⟨hholds.regular, hholds.gives, hpath.symm⟩

theorem discover_eq_offered (hdir : fs.directory? dir = some loc) :
    discover fs dir = NamedLibrary.offered (libraryFilesIn fs dir loc) := by
  unfold discover
  rw [hdir]
  rfl

/-- Discovery finds, for each name, the first file that gives it. -/
theorem mem_discover_iff (hdir : fs.directory? dir = some loc) :
    l ∈ discover fs dir ↔ IsFirst fs dir loc l := by
  rw [discover_eq_offered hdir, NamedLibrary.mem_offered_iff, mem_libraryFilesIn_iff_holdsGrammar]
  constructor
  · rintro ⟨⟨file, hholds, hpath⟩, hfirst⟩
    refine ⟨file, hholds, hpath, fun file' hholds' => ?_⟩
    -- the other file is a library file of the same name
    have hmem : ⟨l.name, dir.join file'⟩ ∈ libraryFilesIn fs dir loc :=
      mem_libraryFilesIn_iff_holdsGrammar.mpr ⟨file', hholds', rfl⟩
    rcases NamedLibrary.le_iff.mp (hfirst _ hmem rfl) with hlt | ⟨-, hle⟩
    · exact absurd hlt (String.lt_irrefl _)
    · rw [hpath] at hle
      exact dir.bytes_join_le_iff.mp hle
  · rintro ⟨file, hholds, hpath, hfirst⟩
    refine ⟨⟨file, hholds, hpath⟩, fun l' hl' hname => ?_⟩
    obtain ⟨file', hholds', hpath'⟩ := mem_libraryFilesIn_iff_holdsGrammar.mp hl'
    have hle : file ≤ file' := hfirst file' (hname ▸ hholds')
    refine NamedLibrary.le_iff.mpr (Or.inr ⟨hname.symm, ?_⟩)
    rw [hpath, hpath']
    exact dir.bytes_join_le_iff.mpr hle

/-- **Discovery gives what the directory offers.** -/
theorem offers_discover (hdir : fs.directory? dir = some loc) :
    Offers fs dir loc (discover fs dir) where
  increasing := by
    have hlt : (discover fs dir).Pairwise fun a b => a.name < b.name := by
      rw [discover_eq_offered hdir]
      exact NamedLibrary.pairwise_name_lt_offered _
    have hascii : ∀ l ∈ discover fs dir, Text.IsAscii l.name := by
      intro l hl
      obtain ⟨file, hholds, -⟩ := (mem_discover_iff hdir).mp hl
      exact (isWord_of_grammarName? hholds.gives).isAscii
    -- the names are in ASCII, where characters are in the order of their bytes
    refine hlt.imp_of_mem fun ha hb hab => ?_
    exact Text.Utf8.encode_lt_encode (hascii _ ha) (hascii _ hb) hab
  sound := by
    intro l hl
    obtain ⟨file, hholds, hpath, -⟩ := (mem_discover_iff hdir).mp hl
    exact ⟨file, hholds, hpath⟩
  complete := by
    intro file name hholds
    -- the file is listed, and no name of a listing is lost
    have hmem : ⟨name, dir.join file⟩ ∈ libraryFilesIn fs dir loc :=
      mem_libraryFilesIn_iff_holdsGrammar.mpr ⟨file, hholds, rfl⟩
    rw [discover_eq_offered hdir]
    exact NamedLibrary.exists_mem_offered hmem
  first := by
    intro l hl file file' hpath hholds'
    obtain ⟨first, -, hpath', hfirst⟩ := (mem_discover_iff hdir).mp hl
    obtain rfl : first = file := dir.join_inj.mp (hpath'.symm.trans hpath)
    exact hfirst file' hholds'

theorem discover_of_access_error {e : IoError} (h : fs.access dir = .error e) :
    discover fs dir = [] := by
  have hdir : fs.directory? dir = none := by
    rw [FileSystem.directory?, h]
  rw [discover, hdir]

theorem discover_of_ne_directory (haccess : fs.access dir = .ok loc)
    (h : fs.entry? loc ≠ some .directory) : discover fs dir = [] := by
  have hdir : fs.directory? dir = none := by
    rw [FileSystem.directory?, haccess]
    exact if_neg h
  rw [discover, hdir]

/-! ### The order of a listing -/

/-- In a list without two entries under one key, a look-up finds what is listed. -/
private theorem lookup_eq_some_iff_mem {α β : Type} [BEq α] [LawfulBEq α] {l : List (α × β)}
    (h : (l.map Prod.fst).Nodup) {k : α} {v : β} : l.lookup k = some v ↔ (k, v) ∈ l := by
  induction l with
  | nil => simp
  | cons e l ih =>
    obtain ⟨key, value⟩ := e
    obtain ⟨hkey, hl⟩ := List.nodup_cons.mp h
    rw [List.lookup_cons, List.mem_cons]
    by_cases heq : k = key
    · subst heq
      -- the key is not listed again
      have hnot : (k, v) ∉ l := fun hmem => hkey (List.mem_map.mpr ⟨(k, v), hmem, rfl⟩)
      simp [hnot, eq_comm]
    · have hbeq : (k == key) = false := beq_eq_false_iff_ne.mpr heq
      rw [hbeq]
      simp [heq, ih hl]

/-- The order in which entries are listed does not matter for what stands at a location, as long as
no location is listed twice. -/
theorem FileSystem.entry?_eq_of_perm {fs fs' : FileSystem} (hperm : fs'.entries.Perm fs.entries)
    (hnodup : (fs.entries.map Prod.fst).Nodup) (loc : Location) :
    fs'.entry? loc = fs.entry? loc := by
  have hnodup' : (fs'.entries.map Prod.fst).Nodup := (hperm.map Prod.fst).nodup_iff.mpr hnodup
  cases loc with
  | nil => rfl
  | cons name above =>
    refine Option.ext fun entry => ?_
    simp only [FileSystem.entry?]
    rw [lookup_eq_some_iff_mem hnodup, lookup_eq_some_iff_mem hnodup']
    exact hperm.mem_iff

/-- **Discovery depends on what stands where**, and not on how it is listed. -/
theorem discover_eq_of_entries {fs fs' : FileSystem}
    (hworking : fs'.workingDirectory = fs.workingDirectory)
    (hentry : ∀ loc, fs'.entry? loc = fs.entry? loc) (dir : Path) :
    discover fs' dir = discover fs dir := by
  have hshape : SameShape ∅ fs' fs := ⟨hworking, fun loc => Or.inl (hentry loc)⟩
  exact hshape.discover_eq dir

/-- **Discovery is exact.** In a directory, what is discovered is the one list that the directory
offers. A path that cannot be followed, or that leads to something else than a directory, offers
nothing. Only what stands at the locations matters, so two states that list the same entries in two
orders offer the same. -/
theorem discover_eq_iff_offers (fs : FileSystem) (dir : Path) :
    (∀ loc, fs.access dir = .ok loc → fs.entry? loc = some .directory →
      ∀ found, found = discover fs dir ↔ Offers fs dir loc found) ∧
    (∀ loc, fs.access dir = .ok loc → fs.entry? loc ≠ some .directory → discover fs dir = []) ∧
    (∀ e, fs.access dir = .error e → discover fs dir = []) ∧
    ∀ fs' : FileSystem, fs'.workingDirectory = fs.workingDirectory →
      ((∀ loc, fs'.entry? loc = fs.entry? loc) → discover fs' dir = discover fs dir) ∧
      (fs'.entries.Perm fs.entries → (fs.entries.map Prod.fst).Nodup →
        discover fs' dir = discover fs dir) := by
  -- the three ends of an access, and then another listing
  refine ⟨fun loc haccess hentry found => ?_, fun loc => discover_of_ne_directory,
    fun e => discover_of_access_error, fun fs' hworking => ?_⟩
  · have hdir : fs.directory? dir = some loc := by
      rw [FileSystem.directory?, haccess]
      exact if_pos hentry
    constructor
    · rintro rfl
      exact offers_discover hdir
    · exact fun hoffers => hoffers.eq_of_offers (offers_discover hdir)
  · have hsame := fun hentry => discover_eq_of_entries hworking hentry dir
    exact ⟨hsame, fun hperm hnodup => hsame (FileSystem.entry?_eq_of_perm hperm hnodup)⟩

/-- A directory with two library files for one name and one for another, and with a link and a
directory that are named like library files. -/
private def shelfFiles : FileSystem where
  entries :=
    [([(Path.ofText "d").bytes], .directory),
     ([Text.Utf8.encode "c.so", Text.Utf8.encode "d"], .file [1] (.rejected "file too short")),
     ([Text.Utf8.encode "tree-sitter-c.dll", Text.Utf8.encode "d"],
       .file [2] (.rejected "file too short")),
     ([Text.Utf8.encode "a.so", Text.Utf8.encode "d"], .symlink (.ofText "c.so")),
     ([Text.Utf8.encode "b.so", Text.Utf8.encode "d"], .directory),
     ([Text.Utf8.encode "libtree-sitter-zig.SO", Text.Utf8.encode "d"],
       .file [3] (.rejected "file too short"))]
  workingDirectory := .ofText "/"

/-- The same entries, listed from the last to the first. -/
private def shelfFilesBackwards : FileSystem :=
  { shelfFiles with entries := shelfFiles.entries.reverse }

/-- Both listings of the directory offer the same, and neither the file in it nor a path that leads
nowhere offers anything. -/
theorem discover_eq_iff_offers_backwards :
    Offers shelfFiles (.ofText "/d") [Text.Utf8.encode "d"]
        [⟨"c", .ofText "/d/c.so"⟩, ⟨"zig", .ofText "/d/libtree-sitter-zig.SO"⟩] ∧
      discover shelfFilesBackwards (.ofText "/d") =
        [⟨"c", .ofText "/d/c.so"⟩, ⟨"zig", .ofText "/d/libtree-sitter-zig.SO"⟩] ∧
      discover shelfFiles (.ofText "/d/c.so") = [] ∧ discover shelfFiles (.ofText "/e") = [] := by
  have hfound : discover shelfFiles (.ofText "/d") =
      [⟨"c", .ofText "/d/c.so"⟩, ⟨"zig", .ofText "/d/libtree-sitter-zig.SO"⟩] := by
    have hdirectory : shelfFiles.directory? (.ofText "/d") = some [Text.Utf8.encode "d"] := rfl
    rw [discover_of_pairwise_le hdirectory (by decide +kernel)]
    decide +kernel
  obtain ⟨hoffers, -, -, hperm⟩ := discover_eq_iff_offers shelfFiles (.ofText "/d")
  refine ⟨(hoffers _ rfl rfl _).mp hfound.symm, ?_, ?_, ?_⟩
  · rw [← hfound]
    exact (hperm shelfFilesBackwards rfl).2 (List.reverse_perm _) (by decide)
  · exact (discover_eq_iff_offers shelfFiles (.ofText "/d/c.so")).2.1 _ rfl (by decide)
  · exact (discover_eq_iff_offers shelfFiles (.ofText "/e")).2.2.1 _ rfl

end GrammarCheck
