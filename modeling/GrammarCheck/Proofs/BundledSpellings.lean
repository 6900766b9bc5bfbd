import GrammarCheck.Naming
import GrammarCheck.Proofs.Refusal

/-!
# The spellings of bundled grammars

A bundled grammar is looked for under the lower case of the name that is given, and lower case is
that of all scripts: beyond ASCII there are characters whose lower case is a letter of ASCII, or
begins with one. None of them completes the name of a bundled grammar. So the spellings of a grammar
are the texts that differ from its name in the case of ASCII letters. A name with any other
character is refused by a check, and a name that spells no bundled grammar is displayed as it is
given, but for its first character.

* `Text.EqUpToAsciiCase` — texts that differ in the case of ASCII letters at most.
* `findBundled?_eq_some_iff_spelling` — the spellings of a grammar.
* `findBundled?_of_beyond` — no character beyond ASCII is part of one.
* `Request.plan_refused_of_unknown` — a request for an unknown name is refused.
* `bundled_spellings` — what is found, refused and displayed under a name.
-/

namespace GrammarCheck

/-- The texts are the same, or differ in the case of ASCII letters only. -/
def Text.EqUpToAsciiCase (s t : String) : Prop :=
  s.toLower = t.toLower

instance (s t : String) : Decidable (Text.EqUpToAsciiCase s t) :=
  decidable_of_iff (s.toList.map Char.toLower = t.toList.map Char.toLower) <| by
    rw [Text.EqUpToAsciiCase, ← String.toList_inj, Text.toList_toLower, Text.toList_toLower]

section Spellings

variable [Build]

/-! ### Finding -/

/-- The names of bundled grammars are in lower case under the rule for ASCII as well. -/
theorem toLower_name_of_mem_bundled {g : Grammar} (hg : g ∈ bundled) : g.name.toLower = g.name :=
  (lower_eq_name_iff hg).mp (lower_name_of_mem_bundled g hg)

/-- **The spellings of a grammar.** It is found under the texts that are its name up to the case of
ASCII letters, though it is looked for under the lower case of all scripts. -/
theorem findBundled?_eq_some_iff_spelling {name : String} {g : Grammar} :
    findBundled? name = some g ↔ g ∈ bundled ∧ Text.EqUpToAsciiCase name g.name := by
  rw [findBundled?_eq_some_iff]
  refine and_congr_right fun hg => ?_
  rw [Text.EqUpToAsciiCase, toLower_name_of_mem_bundled hg, ← lower_eq_name_iff hg, eq_comm]

/-- Nothing is found under a text that spells no bundled grammar. -/
theorem findBundled?_eq_none_iff_spelling {name : String} :
    findBundled? name = none ↔ ∀ g ∈ bundled, ¬ Text.EqUpToAsciiCase name g.name := by
  simp only [Option.eq_none_iff_forall_ne_some, ne_eq, findBundled?_eq_some_iff_spelling, not_and]

/-- **Beyond ASCII nothing is found.** -/
theorem findBundled?_of_beyond {name : String} {c : Char} (hmem : c ∈ name.toList)
    (hc : 128 ≤ c.toNat) : findBundled? name = none := by
  rw [findBundled?_eq_none_iff_spelling]
  intro g hg hspelling
  -- the rule for ASCII would leave the character in the name of the grammar
  have hleft : c ∈ g.name.toList := by
    rw [← toLower_name_of_mem_bundled hg, ← hspelling]
    exact Text.mem_toLower_of_beyond hmem hc
  exact not_fromBeyond_of_mem_bundled g hg c hleft (Or.inl hc)

/-! ### Refusing -/

namespace Request

variable {fs : FileSystem} {r : Request}

/-- **Unknown names.** A request for a name under which no bundled grammar is found has no plan,
whatever else it asks for. -/
theorem plan_refused_of_unknown {name : String} (hname : name ∈ r.grammars)
    (hunknown : findBundled? name = none) : ∃ e, plan fs r = .error e := by
  have hrefusal : r.unknownRefusal?.isSome :=
    isSome_unknownRefusal?.mpr ⟨name, mem_selection_of_mem_grammars hname, hunknown⟩
  -- another reason may come first, but some reason there is
  have hsome : (refusalOf (plan fs r)).isSome := by
    rw [plan, refusalOf_map, refusalOf_targets]
    simp [hrefusal]
  obtain ⟨e, he⟩ := Option.isSome_iff_exists.mp hsome
  exact ⟨e, refusalOf_eq_some_iff.mp he⟩

end Request

/-! ### Displaying -/

/-- A name is displayed as the grammar that is found under it in any build. -/
theorem displayName_eq (name : String) :
    displayName name =
      ((findBundled? name).map Grammar.displayName).getD (Text.capitalize name) := by
  unfold displayName
  simp only [findBundled?_eq]
  by_cases hcairo : cairoName = Text.lower name
  · simp only [if_pos hcairo]
    rfl
  · simp only [if_neg hcairo]
    cases references.find? (·.name == Text.lower name) <;> rfl

/-- A bundled grammar is displayed under its own name, however that is spelled. -/
theorem displayName_of_spelling {name : String} {g : Grammar} (hg : g ∈ bundled)
    (h : Text.EqUpToAsciiCase name g.name) : displayName name = g.displayName := by
  rw [displayName_eq, findBundled?_eq_some_iff_spelling.mpr ⟨hg, h⟩]
  rfl

/-- Any other name is displayed with the upper case of its first character, which may be several
characters, and the rest as it is. -/
theorem displayName_of_no_spelling {name : String}
    (h : ∀ g ∈ bundled, ¬ Text.EqUpToAsciiCase name g.name) {first : Char} {rest : List Char}
    (hname : name.toList = first :: rest) :
    (displayName name).toList = Text.upperChar first ++ rest := by
  rw [displayName_eq, findBundled?_eq_none_iff_spelling.mpr h, Option.map_none, Option.getD_none,
    Text.capitalize, hname]
  exact String.toList_ofList

/-- **Spellings of bundled grammars.** Under a text a bundled grammar is found exactly if the text
is its name up to the case of ASCII letters. So under a text with a character beyond ASCII none is
found, and a request that selects a grammar by such a name is refused. A spelling of a bundled
grammar is displayed as the grammar is; any other text is displayed as it is, but for its first
character, which is replaced by its upper case. -/
theorem bundled_spellings :
    (∀ (name : String) (g : Grammar),
      findBundled? name = some g ↔ g ∈ bundled ∧ Text.EqUpToAsciiCase name g.name) ∧
    (∀ name : String, (∃ c ∈ name.toList, 128 ≤ c.toNat) →
      findBundled? name = none ∧
      ∀ (fs : FileSystem) (r : Request), name ∈ r.grammars → ∃ e, plan fs r = .error e) ∧
    (∀ name : String, ∀ g ∈ bundled, Text.EqUpToAsciiCase name g.name →
      displayName name = g.displayName) ∧
    (∀ name : String, name ≠ "" → (∀ g ∈ bundled, ¬ Text.EqUpToAsciiCase name g.name) →
      ∃ first rest, name.toList = first :: rest ∧
        (displayName name).toList = Text.upperChar first ++ rest) := by
  refine ⟨fun name g => findBundled?_eq_some_iff_spelling, ?_,
    fun name g hg => displayName_of_spelling hg, ?_⟩
  · rintro name ⟨c, hmem, hc⟩
    have hunknown := findBundled?_of_beyond hmem hc
    exact ⟨hunknown, fun fs r hname => Request.plan_refused_of_unknown hname hunknown⟩
  · intro name hne h
    have hchars : name.toList ≠ [] := by
      rwa [Ne, String.toList_eq_nil_iff]
    obtain ⟨first, rest, hname⟩ := List.exists_cons_of_ne_nil hchars
    exact ⟨first, rest, hname, displayName_of_no_spelling h hname⟩

end Spellings

attribute [local instance] Build.withoutCairo

/-- A request for all linked grammars and for one whose name holds a dotted capital I. -/
private def dottedRequest : Request where
  grammars := ["typescrİpt"]
  all := true

/-- The dotted capital does not spell TypeScript, though its lower case begins with the letter that
is wanted; and the upper case of a first character may be two of them. -/
theorem bundled_spellings_dottedCapital :
    findBundled? "cPP" = some (.linked "cpp" "C++" 14 543) ∧ displayName "cPP" = "C++" ∧
      findBundled? "typescrİpt" = none ∧
      (∃ e, plan .bare dottedRequest = .error e) ∧
      displayName "ßharp" = "SSharp" := by
  obtain ⟨hfound, hbeyond, hspelled, hother⟩ := bundled_spellings
  have hmem : Grammar.linked "cpp" "C++" 14 543 ∈ bundled := by
    decide
  obtain ⟨hnone, hrefused⟩ := hbeyond "typescrİpt" ⟨'İ', by decide, by decide⟩
  obtain ⟨first, rest, hname, hdisplay⟩ := hother "ßharp" (by decide) (by decide)
  obtain ⟨rfl, rfl⟩ : 'ß' = first ∧ "harp".toList = rest := List.cons.inj hname
  refine ⟨(hfound _ _).mpr ⟨hmem, by decide⟩, hspelled "cPP" _ hmem (by decide), hnone,
    hrefused _ dottedRequest (List.mem_singleton_self _), ?_⟩
  rw [← String.toList_inj, hdisplay]
  decide

end GrammarCheck
