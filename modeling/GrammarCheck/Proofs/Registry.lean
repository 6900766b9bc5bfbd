import GrammarCheck.Proofs.AsciiCase
import GrammarCheck.Registry
import Mathlib.Data.List.Nodup

/-!
# Finding bundled grammars

The names of the bundled grammars are distinct and in lower case, so a bundled grammar is found
under the spellings of its name that differ in case, and under no other name. The names are the same
in every build, whatever it links for Cairo.

* `forall_mem_bundled` — what is checked of the names in one build holds in every build.
* `findBundled?_eq_some_iff` — a grammar is found exactly under the texts whose lower case is its
  name.
* `findBundled?_lower` — putting a name into lower case first makes no difference.
* `lower_eq_name_iff` — the names of bundled grammars have no spellings beyond ASCII.
-/

namespace GrammarCheck

variable [Build]

/-- **Names in every build.** What is checked of the names in the build without a parser for Cairo
holds in every build. -/
theorem forall_mem_bundled {P : String → String → Prop}
    (h : ∀ g ∈ @bundled .withoutCairo, P g.name g.displayName) :
    ∀ g ∈ bundled, P g.name g.displayName := by
  intro g hg
  rcases List.mem_cons.mp hg with rfl | hreference
  -- the two builds differ in Cairo only, and not in its names
  · exact h (@cairo .withoutCairo) (List.mem_cons_self ..)
  · exact h g (List.mem_cons_of_mem _ hreference)

theorem nodup_bundled_names : (bundled.map Grammar.name).Nodup := by
  have hnodup : ((@bundled .withoutCairo).map Grammar.name).Nodup := by decide
  exact hnodup

theorem lower_name_of_mem_bundled : ∀ g ∈ bundled, Text.lower g.name = g.name :=
  forall_mem_bundled (P := fun name _ => Text.lower name = name) (by decide)

theorem not_fromBeyond_of_mem_bundled :
    ∀ g ∈ bundled, ∀ c ∈ g.name.toList, ¬ Text.FromBeyond c := by
  refine forall_mem_bundled (P := fun name _ => ∀ c ∈ name.toList, ¬ Text.FromBeyond c) ?_
  -- only the characters of the names are looked at, not all that there are
  have hall : ((@bundled .withoutCairo).all fun g =>
      g.name.toList.all fun c => ¬ Text.FromBeyond c) = true := by
    decide
  simpa only [List.all_eq_true, decide_eq_true_eq] using hall

/-- The spellings of a bundled grammar's name are those that differ from it in the case of ASCII
letters. -/
theorem lower_eq_name_iff {g : Grammar} (hg : g ∈ bundled) {name : String} :
    Text.lower name = g.name ↔ name.toLower = g.name :=
  Text.lower_eq_iff_toLower_eq (not_fromBeyond_of_mem_bundled g hg)

/-- Two bundled grammars of one name are the same. -/
theorem eq_of_mem_bundled {g g' : Grammar} (hg : g ∈ bundled) (hg' : g' ∈ bundled)
    (hname : g.name = g'.name) : g = g' :=
  List.inj_on_of_nodup_map nodup_bundled_names hg hg' hname

/-- **Finding a grammar.** It is found exactly under the texts whose lower case is its name. -/
theorem findBundled?_eq_some_iff {name : String} {g : Grammar} :
    findBundled? name = some g ↔ g ∈ bundled ∧ g.name = Text.lower name := by
  unfold findBundled?
  constructor
  · intro h
    refine ⟨List.mem_of_find?_eq_some h, ?_⟩
    simpa using List.find?_some h
  · rintro ⟨hg, hname⟩
    -- something is found, since the grammar itself would do
    cases hfound : bundled.find? (·.name == Text.lower name) with
    | none => exact absurd (beq_iff_eq.mpr hname) (List.find?_eq_none.mp hfound g hg)
    | some g' =>
      have hname' : g'.name = Text.lower name := by
        simpa using List.find?_some hfound
      -- and there is only one of that name
      rw [eq_of_mem_bundled (List.mem_of_find?_eq_some hfound) hg (hname'.trans hname.symm)]

/-- Cairo is looked at first, and only what is found under its name depends on the build. -/
theorem findBundled?_eq (name : String) :
    findBundled? name =
      if cairoName = Text.lower name then some cairo
      else references.find? (·.name == Text.lower name) := by
  have hname : cairo.name = cairoName := rfl
  rw [findBundled?, bundled, List.find?_cons, hname]
  by_cases hcairo : cairoName = Text.lower name
  · rw [if_pos hcairo, beq_iff_eq.mpr hcairo]
  · rw [if_neg hcairo, beq_eq_false_iff_ne.mpr hcairo]

@[simp] theorem findBundled?_lower (name : String) :
    findBundled? (Text.lower name) = findBundled? name := by
  rw [findBundled?, Text.lower_lower, findBundled?]

/-- Every bundled grammar is found under its own name. -/
theorem findBundled?_name {g : Grammar} (hg : g ∈ bundled) : findBundled? g.name = some g :=
  findBundled?_eq_some_iff.mpr ⟨hg, (lower_name_of_mem_bundled g hg).symm⟩

end GrammarCheck
