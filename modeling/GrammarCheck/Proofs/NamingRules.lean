import GrammarCheck.Proofs.AsciiBytes
import GrammarCheck.Proofs.PathEnd

/-!
# The rules for names of library files

Which paths give the name of a grammar, and which name, can be said without the way in which it is
found: on the bytes that a path ends in, with the rule for ASCII as the only rule for case. The
search decodes these bytes and puts the extension into lower case by the rules for all of Unicode,
and none of this lets in anything but ASCII.

* `StemHolds` — what is left of a stem when the start that library files may have is removed.
* `NamesGrammar` — a file name is spelled by the rules, and holds the grammar of a name.
* `grammarName?_eq_some_iff_namesGrammar` — the paths that give a name are those that end in such a
  file name.
* `nameOfStem?_eq_self_iff` — the stems that give the name they are.
* `grammarName?_iff_rules` — the rules in full, with what follows for directories, for bytes beyond
  ASCII, and for names that are spelled as they are.
-/

namespace GrammarCheck

/-! ### Characters of a name -/

theorem toNat_lt_of_isNameChar {c : Char} (h : isNameChar c = true) : c.toNat < 128 := by
  -- the intervals of letters and digits all end in ASCII
  have hbelow : ∀ {last : UInt32}, c.val ≤ last → last.toNat < 128 → c.toNat < 128 :=
    fun hle hlast => Nat.lt_of_le_of_lt (UInt32.le_iff_toNat_le.mp hle) hlast
  rcases Bool.or_eq_true_iff.mp h with h | hunderscore
  · rcases Bool.or_eq_true_iff.mp h with halphanum | hhyphen
    · rcases Bool.or_eq_true_iff.mp halphanum with halpha | hdigit
      · rcases Bool.or_eq_true_iff.mp halpha with hupper | hlower
        · exact hbelow (of_decide_eq_true hupper).2 (by decide)
        · exact hbelow (of_decide_eq_true (Bool.and_eq_true_iff.mp hlower).2) (by decide)
      · exact hbelow (of_decide_eq_true (Bool.and_eq_true_iff.mp hdigit).2) (by decide)
    · rw [eq_of_beq hhyphen]
      decide
  · rw [eq_of_beq hunderscore]
    decide

/-- A word is a text of characters of a name, of which there is at least one. -/
structure IsWord (s : String) : Prop where
  ne_empty : s ≠ ""
  isNameChar : ∀ c ∈ s.toList, isNameChar c = true

theorem IsWord.isAscii {s : String} (h : IsWord s) : Text.IsAscii s :=
  fun c hc => toNat_lt_of_isNameChar (h.isNameChar c hc)

/-- The rule for ASCII makes characters of a name from characters of a name. -/
theorem isNameChar_toLower {c : Char} (h : isNameChar c = true) : isNameChar c.toLower = true := by
  have hascii : ∀ n < 128, isNameChar (Char.ofNat n) = true →
      isNameChar (Char.ofNat n).toLower = true := by
    decide
  exact Text.of_ascii (P := fun c => isNameChar c = true → isNameChar c.toLower = true)
    hascii (toNat_lt_of_isNameChar h) h

theorem IsWord.toLower {s : String} (h : IsWord s) : IsWord s.toLower := by
  refine ⟨fun hempty => h.ne_empty ?_, fun c hc => ?_⟩
  · rw [← String.toList_inj, Text.toList_toLower] at hempty
    exact String.toList_inj.mp (List.map_eq_nil_iff.mp hempty)
  · rw [Text.toList_toLower] at hc
    obtain ⟨d, hd, rfl⟩ := List.mem_map.mp hc
    exact isNameChar_toLower (h.isNameChar d hd)

/-- In ASCII the lower case of a text is the one by the rule for ASCII. -/
theorem Text.IsAscii.lower_eq_toLower {s : String} (h : Text.IsAscii s) :
    Text.lower s = s.toLower := by
  rw [← String.toList_inj, Text.lower, String.toList_ofList, Text.toList_toLower]
  exact Text.lowerAfter_eq_map_toLower h

/-! ### Stems -/

/-- **What a stem holds.** A stem may start with one of two words, and the word that it holds comes
after that. A stem with neither start is the word itself. -/
inductive StemHolds : String → String → Prop
  | long (word : String) : StemHolds ("libtree-sitter-" ++ word) word
  | short (word : String) : StemHolds ("tree-sitter-" ++ word) word
  | bare {word : String} (hlong : ¬ "libtree-sitter-".toList <+: word.toList)
      (hshort : ¬ "tree-sitter-".toList <+: word.toList) : StemHolds word word

/-- A list has no rest after a start that it does not have. -/
private theorem isPrefixOf?_eq_none_iff {start l : List Char} :
    start.isPrefixOf? l = none ↔ ¬ start <+: l := by
  rw [Option.eq_none_iff_forall_ne_some]
  simp only [ne_eq, List.isPrefixOf?_eq_some_iff_append_eq]
  exact not_exists.symm

/-- The starts are looked for one after the other. -/
private theorem dropLibraryStart_eq (stem : List Char) :
    dropLibraryStart stem =
      (("libtree-sitter-".toList.isPrefixOf? stem).or
        ("tree-sitter-".toList.isPrefixOf? stem)).getD stem := by
  unfold dropLibraryStart libraryStarts
  rw [List.findSome?_cons, List.findSome?_cons]
  cases "libtree-sitter-".toList.isPrefixOf? stem <;>
    cases "tree-sitter-".toList.isPrefixOf? stem <;> rfl

/-- What is dropped from the start of a stem leaves what the stem holds, and it holds nothing
else. -/
theorem stemHolds_iff {stem word : String} :
    StemHolds stem word ↔ dropLibraryStart stem.toList = word.toList := by
  rw [dropLibraryStart_eq]
  constructor
  · intro h
    cases h with
    | long =>
      have hlong : "libtree-sitter-".toList.isPrefixOf? ("libtree-sitter-" ++ word).toList =
          some word.toList := by
        rw [List.isPrefixOf?_eq_some_iff_append_eq, String.toList_append]
      rw [hlong]
      rfl
    | short =>
      have hshort : "tree-sitter-".toList.isPrefixOf? ("tree-sitter-" ++ word).toList =
          some word.toList := by
        rw [List.isPrefixOf?_eq_some_iff_append_eq, String.toList_append]
      -- the two starts differ in their first characters, so the longer one is not found
      have hlong : "libtree-sitter-".toList.isPrefixOf? ("tree-sitter-" ++ word).toList = none := by
        rw [isPrefixOf?_eq_none_iff, String.toList_append]
        intro hstart
        have hhead := List.cons_prefix_cons.mp hstart
        exact absurd hhead.1 (by decide)
      rw [hlong, hshort]
      rfl
    | bare hlong hshort =>
      rw [isPrefixOf?_eq_none_iff.mpr hlong, isPrefixOf?_eq_none_iff.mpr hshort]
      rfl
  · intro h
    cases hlong : "libtree-sitter-".toList.isPrefixOf? stem.toList with
    | some rest =>
      rw [hlong] at h
      obtain rfl : rest = word.toList := h
      have hstem : stem = "libtree-sitter-" ++ word := by
        rw [← String.toList_inj, String.toList_append]
        exact (List.isPrefixOf?_eq_some_iff_append_eq.mp hlong).symm
      exact hstem ▸ .long word
    | none =>
      cases hshort : "tree-sitter-".toList.isPrefixOf? stem.toList with
      | some rest =>
        rw [hlong, hshort] at h
        obtain rfl : rest = word.toList := h
        have hstem : stem = "tree-sitter-" ++ word := by
          rw [← String.toList_inj, String.toList_append]
          exact (List.isPrefixOf?_eq_some_iff_append_eq.mp hshort).symm
        exact hstem ▸ .short word
      | none =>
        rw [hlong, hshort] at h
        obtain rfl : stem = word := String.toList_inj.mp h
        exact .bare (isPrefixOf?_eq_none_iff.mp hlong) (isPrefixOf?_eq_none_iff.mp hshort)

/-- **The name that a stem gives.** It is the lower case of the word that the stem holds. -/
theorem nameOfStem?_eq_some_iff {stem name : String} :
    nameOfStem? stem = some name ↔
      ∃ word, StemHolds stem word ∧ IsWord word ∧ name = word.toLower := by
  -- whether a stem gives a name is decided on the word that is left of it
  have hword : ∀ word : String, word.toList = dropLibraryStart stem.toList →
      (nameOfStem? stem = some name ↔ IsWord word ∧ name = word.toLower) := by
    intro word hword
    unfold nameOfStem?
    simp only [← hword, String.ofList_toList, Option.ite_none_right_eq_some, Option.some.injEq]
    constructor
    · rintro ⟨⟨hne, hall⟩, rfl⟩
      have hisWord : IsWord word := by
        refine ⟨fun h => hne (h ▸ rfl), List.all_eq_true.mp hall⟩
      exact ⟨hisWord, hisWord.isAscii.lower_eq_toLower⟩
    · rintro ⟨hisWord, rfl⟩
      refine ⟨⟨fun h => hisWord.ne_empty (String.toList_inj.mp h), ?_⟩, ?_⟩
      · exact List.all_eq_true.mpr hisWord.isNameChar
      · exact hisWord.isAscii.lower_eq_toLower
  constructor
  · intro h
    -- the word is what is left when the start is dropped
    have hleft := (hword (String.ofList (dropLibraryStart stem.toList)) String.toList_ofList).mp h
    exact ⟨_, stemHolds_iff.mpr String.toList_ofList.symm, hleft⟩
  · rintro ⟨word, hholds, h⟩
    exact (hword word (stemHolds_iff.mp hholds).symm).mpr h

/-! ### Extensions -/

/-- **Extensions.** The rules for all of Unicode find the same extensions as the rule for ASCII. -/
theorem lower_mem_libraryExtensions_iff {extension : String} :
    Text.lower extension ∈ libraryExtensions ↔ extension.toLower ∈ libraryExtensions := by
  have hrule : ∀ t ∈ libraryExtensions, Text.lower extension = t ↔ extension.toLower = t :=
    fun t ht => Text.lower_eq_iff_toLower_eq (not_fromBeyond_of_mem_libraryExtensions t ht)
  constructor
  · intro h
    rwa [(hrule _ h).mp rfl]
  · intro h
    rwa [(hrule _ h).mpr rfl]

/-! ### File names -/

/-- **The rules.** The file name is a stem, a full stop and an extension, which is one of three and
may be in any case. The stem holds a word, and the name is the word in lower case. -/
structure SpelledBy (stem extension word : String) (file : FileName) (name : String) : Prop where
  file_eq : file = Text.Utf8.encode (stem ++ "." ++ extension)
  stem_ne : stem ≠ ""
  noDot : '.' ∉ extension.toList
  extension_mem : extension.toLower ∈ ["so", "dylib", "dll"]
  holds : StemHolds stem word
  isWord : IsWord word
  name_eq : name = word.toLower

/-- The file name follows the rules, and what it holds is the grammar of the name. -/
def NamesGrammar (file : FileName) (name : String) : Prop :=
  ∃ stem extension word, SpelledBy stem extension word file name

/-- A text that is not empty has bytes. -/
theorem Text.Utf8.encode_ne_nil {s : String} (h : s ≠ "") : encode s ≠ [] := by
  intro hnil
  have hs : decode? [] = some s := hnil ▸ decode?_encode s
  have hempty : decode? [] = some "" := decode?_encode ""
  exact h (Option.some.inj (hs.symm.trans hempty))

/-- A file name that follows the rules is cut at the full stop between its stem and its
extension. -/
theorem SpelledBy.splitExtension? {stem extension word name : String} {file : FileName}
    (h : SpelledBy stem extension word file name) :
    splitExtension? file = some (Text.Utf8.encode stem, Text.Utf8.encode extension) := by
  have hlower : Text.lower extension ∈ libraryExtensions :=
    lower_mem_libraryExtensions_iff.mpr h.extension_mem
  have hascii : Text.IsAscii extension :=
    fun c hc => toNat_lt_of_isNameChar (isNameChar_of_mem_extension hlower c hc)
  -- the extension holds no full stop, so the one before it is the last of the file name
  have hdot : Path.dot ∉ Text.Utf8.encode extension := by
    have hiff := Text.Utf8.toUInt8_mem_encode_iff (c := '.') hascii (by decide)
    exact fun hmem => h.noDot (hiff.mp hmem)
  rw [splitExtension?_eq_some_iff]
  exact ⟨h.file_eq.trans (Text.Utf8.encode_dotted stem extension), hdot,
    Text.Utf8.encode_ne_nil h.stem_ne⟩

/-- **Paths that give a name.** They are those that end in a file name that follows the rules. -/
theorem grammarName?_eq_some_iff_namesGrammar {p : Path} {name : String} :
    grammarName? p = some name ↔ ∃ file, Path.EndsIn p.bytes file ∧ NamesGrammar file name := by
  rw [grammarName?_eq_some_iff]
  constructor
  · rintro ⟨file, stem, extension, stemText, extensionText, hfile, hsplit, hextension, hlower,
      hstem, hname⟩
    obtain ⟨rfl, -, hstemNil⟩ := splitExtension?_eq_some_iff.mp hsplit
    obtain ⟨word, hholds, hword, rfl⟩ := nameOfStem?_eq_some_iff.mp hname
    obtain rfl := Text.Utf8.decode?_eq_some_iff.mp hextension
    obtain rfl := Text.Utf8.decode?_eq_some_iff.mp hstem
    -- an extension that is found is spelled in characters of a name
    have hnotDot : '.' ∉ extensionText.toList := fun hmem =>
      absurd (isNameChar_of_mem_extension hlower _ hmem) (by decide)
    refine ⟨_, Path.fileName?_eq_some_iff.mp hfile, stemText, extensionText, word, ?_⟩
    exact {
      file_eq := (Text.Utf8.encode_dotted stemText extensionText).symm
      stem_ne := by
        rintro rfl
        exact hstemNil rfl
      noDot := hnotDot
      extension_mem := lower_mem_libraryExtensions_iff.mp hlower
      holds := hholds
      isWord := hword
      name_eq := rfl }
  · rintro ⟨file, hends, stem, extension, word, h⟩
    refine ⟨file, _, _, stem, extension, Path.fileName?_eq_some_iff.mpr hends, h.splitExtension?,
      ?_, ?_, ?_, ?_⟩
    · exact Text.Utf8.decode?_encode extension
    · exact lower_mem_libraryExtensions_iff.mpr h.extension_mem
    · exact Text.Utf8.decode?_encode stem
    · exact nameOfStem?_eq_some_iff.mpr ⟨word, h.holds, h.isWord, h.name_eq⟩

/-- The name of a library file is a word. -/
theorem isWord_of_grammarName? {p : Path} {name : String} (h : grammarName? p = some name) :
    IsWord name := by
  obtain ⟨file, -, stem, extension, word, hrules⟩ := grammarName?_eq_some_iff_namesGrammar.mp h
  exact hrules.name_eq ▸ hrules.isWord.toLower

/-! ### What the rules leave out -/

/-- **Directories do not matter.** A path gives the name that the file name at its end gives. -/
theorem grammarName?_of_endsIn {p : Path} {file : FileName} (h : Path.EndsIn p.bytes file) :
    grammarName? p = grammarName? ⟨file⟩ := by
  have hwhole : Path.fileName? ⟨file⟩ = some file :=
    Path.fileName?_eq_some_iff.mpr (.alone h.entry)
  have hend : p.fileName? = some file := Path.fileName?_eq_some_iff.mpr h
  rw [grammarName?, grammarName?, hend, hwhole]

/-- The stem of a file name that follows the rules is in ASCII, since what it starts with is. -/
theorem StemHolds.isAscii {stem word : String} (h : StemHolds stem word)
    (hword : Text.IsAscii word) : Text.IsAscii stem := by
  have hlong : Text.IsAscii "libtree-sitter-" := by decide
  have hshort : Text.IsAscii "tree-sitter-" := by decide
  cases h with
  | long => exact hlong.append hword
  | short => exact hshort.append hword
  | bare => exact hword

/-- **Nothing beyond ASCII.** A file name that follows the rules consists of bytes in ASCII. -/
theorem NamesGrammar.toNat_lt {file : FileName} {name : String} (h : NamesGrammar file name) :
    ∀ b ∈ file, b.toNat < 128 := by
  obtain ⟨stem, extension, word, h⟩ := h
  have hlower : Text.lower extension ∈ libraryExtensions :=
    lower_mem_libraryExtensions_iff.mpr h.extension_mem
  have hextension : Text.IsAscii extension :=
    fun c hc => toNat_lt_of_isNameChar (isNameChar_of_mem_extension hlower c hc)
  have hstem : Text.IsAscii stem := h.holds.isAscii h.isWord.isAscii
  have hdot : Text.IsAscii "." := by decide
  -- the file name consists of the stem, the full stop and the extension
  intro b hb
  rw [h.file_eq] at hb
  exact Text.Utf8.toNat_lt_of_mem_encode ((hstem.append hdot).append hextension) hb

/-! ### Names that are spelled as they are -/

/-- The small letters from a to z are alphanumeric. -/
theorem isAlphanum_of_small {c : Char} (hle : 'a' ≤ c) (hle' : c ≤ 'z') : c.isAlphanum = true := by
  have hletter : c.isLower = true :=
    (Bool.and_eq_true ..).mpr ⟨decide_eq_true hle, decide_eq_true hle'⟩
  have halpha : c.isAlpha = true := (Bool.or_eq_true ..).mpr (Or.inr hletter)
  exact (Bool.or_eq_true ..).mpr (Or.inl halpha)

/-- So are the digits from 0 to 9. -/
theorem isAlphanum_of_digit {c : Char} (hle : '0' ≤ c) (hle' : c ≤ '9') : c.isAlphanum = true := by
  have hdigit : c.isDigit = true :=
    (Bool.and_eq_true ..).mpr ⟨decide_eq_true hle, decide_eq_true hle'⟩
  exact (Bool.or_eq_true ..).mpr (Or.inr hdigit)

/-- A name in lower case is a word that the rule for ASCII does not change. -/
theorem isWord_of_lowerCase {name : String} (hne : name ≠ "")
    (h : ∀ c ∈ name.toList, 'a' ≤ c ∧ c ≤ 'z' ∨ '0' ≤ c ∧ c ≤ '9' ∨ c = '_' ∨ c = '-') :
    IsWord name ∧ name.toLower = name := by
  have hchar : ∀ c ∈ name.toList, isNameChar c = true ∧ c.toLower = c := by
    intro c hc
    rcases h c hc with ⟨hle, hle'⟩ | ⟨hle, hle'⟩ | rfl | rfl
    · have hupper : ¬ ('A' ≤ c ∧ c ≤ 'Z') := fun h => absurd (Char.le_trans hle h.2) (by decide)
      exact ⟨by simp [isNameChar, isAlphanum_of_small hle hle'], dif_neg hupper⟩
    · have hupper : ¬ ('A' ≤ c ∧ c ≤ 'Z') := fun h => absurd (Char.le_trans h.1 hle') (by decide)
      exact ⟨by simp [isNameChar, isAlphanum_of_digit hle hle'], dif_neg hupper⟩
    · decide
    · decide
  refine ⟨⟨hne, fun c hc => (hchar c hc).1⟩, ?_⟩
  rw [← String.toList_inj, Text.toList_toLower]
  exact (List.map_congr_left fun c hc => (hchar c hc).2).trans (List.map_id' _)

/-- A text in ASCII without a slash that is longer than the dots that mean something else is the
name of an entry. -/
theorem Path.isEntryName_encode {text : String} (hascii : Text.IsAscii text)
    (hslash : '/' ∉ text.toList) (hlength : 2 < text.toList.length) :
    IsEntryName (Text.Utf8.encode text) := by
  have hbytes : 2 < (Text.Utf8.encode text).length := by
    rwa [Text.Utf8.encode_of_ascii hascii, List.length_map]
  have hlonger : ∀ short : List UInt8, short.length ≤ 2 → Text.Utf8.encode text ≠ short := by
    rintro short hshort rfl
    exact absurd hbytes (Nat.not_lt.mpr hshort)
  have hiff := Text.Utf8.toUInt8_mem_encode_iff (c := '/') hascii (by decide)
  exact ⟨fun hmem => hslash (hiff.mp hmem), hlonger [] (by decide), hlonger [dot] (by decide),
    hlonger [dot, dot] (by decide)⟩

/-- A word with the extension of a library file is a path, and gives the name that the word gives
as a stem. -/
theorem grammarName?_ofText_so {stem : String} (h : IsWord stem) :
    grammarName? (.ofText (stem ++ ".so")) = nameOfStem? stem := by
  have hextension : Text.lower "so" ∈ libraryExtensions := by decide
  have hdotted : stem ++ ".so" = stem ++ "." ++ "so" := by
    rw [String.append_assoc]
    rfl
  have hascii : Text.IsAscii (stem ++ ".so") := h.isAscii.append (by decide)
  have hentry : Path.IsEntryName (Text.Utf8.encode (stem ++ ".so")) := by
    refine Path.isEntryName_encode hascii ?_ ?_
    · intro hmem
      rw [String.toList_append] at hmem
      rcases List.mem_append.mp hmem with hmem | hmem
      · exact absurd (h.isNameChar _ hmem) (by decide)
      · exact absurd hmem (by decide)
    · -- the extension alone is longer than the dots that mean something else
      have hpos : 0 < stem.toList.length :=
        List.length_pos_iff.mpr fun hnil => h.ne_empty (String.toList_inj.mp hnil)
      have hso : ".so".toList.length = 3 := rfl
      rw [String.toList_append, List.length_append]
      omega
  have hfile : (Path.ofText (stem ++ ".so")).fileName? =
      some (Text.Utf8.encode (stem ++ ".so")) :=
    Path.fileName?_eq_some_iff.mpr (.alone hentry)
  have hsplit : splitExtension? (Text.Utf8.encode (stem ++ ".so")) =
      some (Text.Utf8.encode stem, Text.Utf8.encode "so") := by
    rw [splitExtension?_eq_some_iff, hdotted]
    exact ⟨Text.Utf8.encode_dotted stem "so", by decide, Text.Utf8.encode_ne_nil h.ne_empty⟩
  unfold grammarName?
  simp only [Option.bind_eq_bind, hfile, Option.bind_some, hsplit, Text.Utf8.decode?_encode,
    if_pos hextension]

/-- **Stems that give themselves.** A word in lower case gives itself as a name, unless it begins
like a library file: then it gives less. -/
theorem nameOfStem?_eq_self_iff {name : String} (h : IsWord name) (hlower : name.toLower = name) :
    nameOfStem? name = some name ↔
      ¬ "libtree-sitter-".toList <+: name.toList ∧ ¬ "tree-sitter-".toList <+: name.toList := by
  rw [nameOfStem?_eq_some_iff]
  constructor
  · rintro ⟨word, hholds, -, hname⟩
    -- what is left after a start is shorter than the name, and has its length in any case
    have hlength : name.toList.length = word.toList.length := by
      rw [hname, Text.toList_toLower, List.length_map]
    cases hholds with
    | long =>
      have hstart : "libtree-sitter-".toList.length = 15 := rfl
      rw [String.toList_append, List.length_append] at hlength
      omega
    | short =>
      have hstart : "tree-sitter-".toList.length = 12 := rfl
      rw [String.toList_append, List.length_append] at hlength
      omega
    | bare hlong hshort => exact ⟨hlong, hshort⟩
  · rintro ⟨hlong, hshort⟩
    exact ⟨name, .bare hlong hshort, h, hlower.symm⟩

/-! ### The rules in full -/

/-- **The names of library files.** A path gives the name of a grammar exactly if it ends in a file
name that follows the rules and holds that name. So it does not matter what precedes the file name,
and a file name with a byte beyond ASCII gives nothing, although the extension is put into lower
case by the rules for all of Unicode. A name in lower case is given by the file name that is spelled
with the longer start, and by the one without a start exactly if the name itself has neither. -/
theorem grammarName?_iff_rules :
    (∀ (p : Path) (name : String),
      grammarName? p = some name ↔ ∃ file, Path.EndsIn p.bytes file ∧ NamesGrammar file name) ∧
    (∀ (p : Path) (file : FileName), Path.EndsIn p.bytes file →
      grammarName? p = grammarName? ⟨file⟩ ∧
      ((∃ b ∈ file, 128 ≤ b.toNat) → grammarName? p = none)) ∧
    (∀ name : String, name ≠ "" →
      (∀ c ∈ name.toList, 'a' ≤ c ∧ c ≤ 'z' ∨ '0' ≤ c ∧ c ≤ '9' ∨ c = '_' ∨ c = '-') →
      grammarName? (.ofText ("libtree-sitter-" ++ name ++ ".so")) = some name ∧
      (grammarName? (.ofText (name ++ ".so")) = some name ↔
        ¬ "libtree-sitter-".toList <+: name.toList ∧
          ¬ "tree-sitter-".toList <+: name.toList)) := by
  refine ⟨fun _ _ => grammarName?_eq_some_iff_namesGrammar, ?_, ?_⟩
  · intro p file hends
    refine ⟨grammarName?_of_endsIn hends, ?_⟩
    rintro ⟨b, hb, hbeyond⟩
    rw [Option.eq_none_iff_forall_ne_some]
    intro name hname
    -- the rules would have to hold of this very file name
    obtain ⟨file', hends', hrules⟩ := grammarName?_eq_some_iff_namesGrammar.mp hname
    have hfile : p.fileName? = some file := Path.fileName?_eq_some_iff.mpr hends
    have hfile' : p.fileName? = some file' := Path.fileName?_eq_some_iff.mpr hends'
    obtain rfl := Option.some.inj (hfile.symm.trans hfile')
    exact absurd (hrules.toNat_lt b hb) (Nat.not_lt.mpr hbeyond)
  · intro name hne hchars
    obtain ⟨hword, hlower⟩ := isWord_of_lowerCase hne hchars
    -- the longer start is spelled in characters of a name too, so the stem is a word as a whole
    have hstem : IsWord ("libtree-sitter-" ++ name) := by
      have hstart : "libtree-sitter-".toList.all isNameChar = true := by decide
      refine ⟨fun h => hne (String.append_eq_empty_iff.mp h).2, fun c hc => ?_⟩
      rw [String.toList_append] at hc
      exact (List.mem_append.mp hc).elim (List.all_eq_true.mp hstart c) (hword.isNameChar c)
    constructor
    · rw [grammarName?_ofText_so hstem, nameOfStem?_eq_some_iff]
      exact ⟨name, .long name, hword, hlower.symm⟩
    · rw [grammarName?_ofText_so hword]
      exact nameOfStem?_eq_self_iff hword hlower

/-- A file name with a byte that is part of no text, and the extension of a library file. -/
private def brokenName : FileName :=
  [0xff, Path.dot, 0x73, 0x6f]

/-- A path with a dot at its end, a file name that is no text, and two names with the starts of
library files. -/
theorem grammarName?_iff_rules_starts :
    (∃ file, Path.EndsIn (Path.ofText "/cache/libtree-sitter-C_Sharp.DyLib/.").bytes file ∧
      NamesGrammar file "c_sharp") ∧
    Path.EndsIn brokenName brokenName ∧ grammarName? ⟨brokenName⟩ = none ∧
    grammarName? (.ofText "libtree-sitter-tree-sitter-c.so") = some "tree-sitter-c" ∧
    grammarName? (.ofText "tree-sitter-c.so") ≠ some "tree-sitter-c" := by
  obtain ⟨hpaths, hends, hnames⟩ := grammarName?_iff_rules
  have hbroken : Path.EndsIn brokenName brokenName :=
    .alone ⟨by decide, by decide, by decide, by decide⟩
  have hall : ("tree-sitter-c".toList.all fun c =>
      'a' ≤ c ∧ c ≤ 'z' ∨ '0' ≤ c ∧ c ≤ '9' ∨ c = '_' ∨ c = '-') = true := by
    decide
  obtain ⟨hlong, hbare⟩ := hnames "tree-sitter-c" (by decide)
    (by simpa only [List.all_eq_true, decide_eq_true_eq] using hall)
  refine ⟨(hpaths _ _).mp (by decide), hbroken, ?_, hlong, fun h => ?_⟩
  · exact (hends ⟨brokenName⟩ brokenName hbroken).2 ⟨0xff, by decide, by decide⟩
  · exact (hbare.mp h).2 (by decide)

end GrammarCheck
