import GrammarCheck.Proofs.NormalNames
import GrammarCheck.Proofs.OpeningStages

/-!
# The entry points of library files

The name of a library file is a word in lower case. Its entry point is made from that word by two
steps, the lower case of all scripts and underscores for hyphens, and neither step changes how many
characters there are. So the symbol is an identifier, it is looked up as it stands, and two library
files share an entry point only if their names are the same up to hyphens and underscores.

* `underscored` — the text with underscores for hyphens.
* `symbolName_eq_symbolName_iff` — the names that have one entry point in common.
* `WellFormedEntry` — a symbol fits a name, is an identifier, and is found under itself.
* `IsWord.wellFormedEntry` — words in lower case have such symbols.
* `symbolName_wellFormed` — so have all names that library files give.
-/

namespace GrammarCheck

/-- The text with an underscore in the place of each hyphen. -/
def underscored (s : String) : String :=
  String.ofList (s.toList.map fun c => if c = '-' then '_' else c)

@[simp] theorem toList_underscored (s : String) :
    (underscored s).toList = s.toList.map symbolChar :=
  String.toList_ofList

@[simp] theorem length_underscored (s : String) : (underscored s).length = s.length := by
  rw [← String.length_toList, toList_underscored, List.length_map, String.length_toList]

/-- After its fixed start a symbol is the lower case of the name with underscores. -/
theorem symbolName_eq (name : String) :
    symbolName name = "tree_sitter_" ++ underscored (Text.lower name) := by
  rw [symbolName, ← toList_underscored, String.ofList_toList]

/-- **Shared entry points.** Texts have the same symbol exactly if lower case leaves no difference
between them but that between hyphens and underscores. -/
theorem symbolName_eq_symbolName_iff {s t : String} :
    symbolName s = symbolName t ↔ underscored (Text.lower s) = underscored (Text.lower t) := by
  rw [symbolName_eq, symbolName_eq, String.append_right_inj]

/-! ### Characters of a symbol -/

/-- A small letter, a digit or an underscore. -/
def IsSymbolChar (c : Char) : Prop :=
  'a' ≤ c ∧ c ≤ 'z' ∨ '0' ≤ c ∧ c ≤ '9' ∨ c = '_'

instance (c : Char) : Decidable (IsSymbolChar c) :=
  inferInstanceAs (Decidable (_ ∨ _))

/-- A character of a name leaves a character of a symbol. -/
theorem isSymbolChar_symbolChar_toLower {c : Char} (h : isNameChar c = true) :
    IsSymbolChar (symbolChar c.toLower) := by
  have hascii : ∀ n < 128, isNameChar (Char.ofNat n) = true →
      IsSymbolChar (symbolChar (Char.ofNat n).toLower) := by
    decide
  exact Text.of_ascii (P := fun c => isNameChar c = true → IsSymbolChar (symbolChar c.toLower))
    hascii (toNat_lt_of_isNameChar h) h

theorem IsWord.isSymbolChar_of_mem {word : String} (h : IsWord word) :
    ∀ c ∈ (underscored word.toLower).toList, IsSymbolChar c := by
  intro c hc
  rw [toList_underscored, Text.toList_toLower, List.map_map] at hc
  obtain ⟨d, hd, rfl⟩ := List.mem_map.mp hc
  exact isSymbolChar_symbolChar_toLower (h.isNameChar d hd)

/-! ### Identifiers -/

/-- An identifier of C consists of letters, digits and underscores, and begins with no digit. -/
structure IsIdentifier (s : String) : Prop where
  ne_empty : s ≠ ""
  head_not_digit : ∀ c ∈ s.toList.head?, c.isDigit = false
  chars : ∀ c ∈ s.toList, c.isAlphanum = true ∨ c = '_'

theorem IsSymbolChar.isAlphanum_or {c : Char} (h : IsSymbolChar c) :
    c.isAlphanum = true ∨ c = '_' := by
  rcases h with hletter | hdigit | rfl
  · exact Or.inl (isAlphanum_of_small hletter.1 hletter.2)
  · exact Or.inl (isAlphanum_of_digit hdigit.1 hdigit.2)
  · exact Or.inr rfl

/-- The fixed start of symbols is spelled in their characters, so only what follows it matters. -/
theorem isSymbolChar_of_mem_symbol {body : String} (h : ∀ c ∈ body.toList, IsSymbolChar c) :
    ∀ c ∈ ("tree_sitter_" ++ body).toList, IsSymbolChar c := by
  have hstart : ("tree_sitter_".toList.all fun c => IsSymbolChar c) = true := by
    decide
  intro c hc
  rw [String.toList_append] at hc
  rcases List.mem_append.mp hc with hc | hc
  · exact of_decide_eq_true (List.all_eq_true.mp hstart c hc)
  · exact h c hc

/-- With that start a symbol begins with a letter, whatever the name begins with. -/
theorem isIdentifier_symbol {body : String} (h : ∀ c ∈ body.toList, IsSymbolChar c) :
    IsIdentifier ("tree_sitter_" ++ body) where
  ne_empty := by
    intro hempty
    exact absurd (String.append_eq_empty_iff.mp hempty).1 (by decide)
  head_not_digit := by
    intro c hc
    rw [String.toList_append] at hc
    obtain rfl : 't' = c := Option.some.inj hc
    rfl
  chars := fun c hc => (isSymbolChar_of_mem_symbol h c hc).isAlphanum_or

/-! ### Looking up -/

/-- A symbol without a zero character is looked up as it stands: there is none to drop. -/
theorem findExport?_of_noNul {symbol : String} (h : '\x00' ∉ symbol.toList)
    (entries : List (String × EntryPoint)) :
    findExport? entries symbol = entries.lookup symbol := by
  have hname : exportedName? symbol = some symbol :=
    exportedName?_eq_some_iff.mpr ⟨Or.inl rfl, h⟩
  rw [findExport?, hname, Option.bind_some]

/-- **A well-formed entry point.** The symbol shows the name after a fixed start, with one character
for each character of the name, of which there is at least one. It is an identifier without a zero
character, and the dynamic loader looks for the export of that very name. -/
structure WellFormedEntry (name symbol : String) : Prop where
  length_pos : 0 < name.length
  symbol_eq : symbol = "tree_sitter_" ++ underscored name
  one_for_each : (underscored name).length = name.length
  isSymbolChar : ∀ c ∈ (underscored name).toList, IsSymbolChar c
  isIdentifier : IsIdentifier symbol
  noNul : '\x00' ∉ symbol.toList
  found : ∀ entries : List (String × EntryPoint),
    findExport? entries symbol = entries.lookup symbol

/-- **Words in lower case** have well-formed entry points. -/
theorem IsWord.wellFormedEntry {name : String} (h : IsWord name) (hlower : Text.lower name = name) :
    WellFormedEntry name (symbolName name) := by
  -- the characters of a word are in ASCII, so both rules for lower case leave the name as it is
  have htoLower : name.toLower = name := h.isAscii.lower_eq_toLower.symm.trans hlower
  have hbody : ∀ c ∈ (underscored name).toList, IsSymbolChar c := by
    have hchars := h.isSymbolChar_of_mem
    rwa [htoLower] at hchars
  have hsymbol : symbolName name = "tree_sitter_" ++ underscored name := by
    rw [symbolName_eq, hlower]
  have hnul : '\x00' ∉ (symbolName name).toList := by
    intro hmem
    rw [hsymbol] at hmem
    exact absurd (isSymbolChar_of_mem_symbol hbody _ hmem) (by decide)
  exact {
    length_pos := by
      rw [← String.length_toList, List.length_pos_iff]
      exact fun hnil => h.ne_empty (String.toList_eq_nil_iff.mp hnil)
    symbol_eq := hsymbol
    one_for_each := length_underscored name
    isSymbolChar := hbody
    isIdentifier := hsymbol ▸ isIdentifier_symbol hbody
    noNul := hnul
    found := findExport?_of_noNul hnul }

/-- **Entry points of library files.** The name that a path gives always has a well-formed entry
point. Two such names have the same entry point exactly if they are the same with underscores for
hyphens. -/
theorem symbolName_wellFormed :
    (∀ (p : Path) (name : String), grammarName? p = some name →
      WellFormedEntry name (symbolName name)) ∧
    (∀ (p₁ p₂ : Path) (name₁ name₂ : String), grammarName? p₁ = some name₁ →
      grammarName? p₂ = some name₂ →
      (symbolName name₁ = symbolName name₂ ↔ underscored name₁ = underscored name₂)) := by
  constructor
  · intro p name h
    exact (isWord_of_grammarName? h).wellFormedEntry (normalName_of_grammarName? h).lower_eq
  · intro p₁ p₂ name₁ name₂ h₁ h₂
    -- the names are their own lower case, so the second step alone can make them meet
    rw [symbolName_eq_symbolName_iff, (normalName_of_grammarName? h₁).lower_eq,
      (normalName_of_grammarName? h₂).lower_eq]

/-- Two files that differ in the case and the hyphen of the name share an entry point, and one
without a hyphen has another. -/
theorem symbolName_wellFormed_hyphens :
    grammarName? (.ofText "/lib/libtree-sitter-C-Sharp.so") = some "c-sharp" ∧
      grammarName? (.ofText "c_sharp.DLL") = some "c_sharp" ∧
      grammarName? (.ofText "csharp.dylib") = some "csharp" ∧
      WellFormedEntry "c-sharp" "tree_sitter_c_sharp" ∧
      symbolName "c-sharp" = symbolName "c_sharp" ∧
      symbolName "c-sharp" ≠ symbolName "csharp" := by
  have hhyphen : grammarName? (.ofText "/lib/libtree-sitter-C-Sharp.so") = some "c-sharp" := by
    decide
  have hunderscore : grammarName? (.ofText "c_sharp.DLL") = some "c_sharp" := by decide
  have hplain : grammarName? (.ofText "csharp.dylib") = some "csharp" := by decide
  obtain ⟨hwell, hshared⟩ := symbolName_wellFormed
  refine ⟨hhyphen, hunderscore, hplain, hwell _ _ hhyphen, ?_, ?_⟩
  · exact (hshared _ _ _ _ hhyphen hunderscore).mpr (by decide)
  · exact fun h => absurd ((hshared _ _ _ _ hhyphen hplain).mp h) (by decide)

end GrammarCheck
