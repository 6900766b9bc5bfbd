import GrammarCheck.Proofs.Planning

/-!
# Selecting grammars by name

What a request plans for the grammars it selects by name depends on the lower case of the names. The
planning puts them into lower case before it takes them, with one exception: whether Cairo is
selected is decided on the names as they are given, under the rule for ASCII. Both rules find the
same spellings of Cairo.

* `Request.selectsCairo_iff` — Cairo is selected by the names whose lower case is that of Cairo.
* `Request.steps_namedPlanning_congr` — what the steps of the first three segments depend on.
* `plan_eq_of_lower_eq` — requests whose grammars have the same lower case have the same plan.
-/

namespace GrammarCheck

namespace Request

variable {r r' : Request}

/-- **Selecting Cairo.** The names that select Cairo are those whose lower case is its name. -/
theorem selectsCairo_iff :
    r.selectsCairo = true ↔ r.all = true ∨ ∃ given ∈ r.names, Text.lower given = cairoName := by
  -- the name of Cairo is the same in every build
  have hspelling : ∀ given : String, Text.lower given = cairoName ↔ given.toLower = cairoName :=
    fun _ => @lower_eq_name_iff .withoutCairo (@cairo .withoutCairo) (List.mem_cons_self ..) _
  simp only [hspelling, selectsCairo, Bool.or_eq_true, List.any_eq_true, beq_iff_eq]

theorem selectsCairo_congr (hall : r.all = r'.all)
    (hnames : r.names.map Text.lower = r'.names.map Text.lower) :
    r.selectsCairo = r'.selectsCairo := by
  have hmem : ∀ r : Request, (∃ given ∈ r.names, Text.lower given = cairoName) ↔
      cairoName ∈ r.names.map Text.lower := fun r => List.mem_map.symm
  rw [Bool.eq_iff_iff, selectsCairo_iff, selectsCairo_iff, hmem, hmem, hall, hnames]

/-- **What is planned by name.** The steps of the first three segments depend on the lower case of
the names, on whether all are selected, and on the library file for Cairo. -/
theorem steps_namedPlanning_congr [Build] (hall : r.all = r'.all)
    (hlibrary : r.cairoLibrary? = r'.cairoLibrary?)
    (hnames : r.names.map Text.lower = r'.names.map Text.lower) :
    r.namedPlanning.steps = r'.namedPlanning.steps := by
  have hcairo : r.cairoSteps = r'.cairoSteps := by
    rw [cairoSteps, cairoSteps, hlibrary, selectsCairo_congr hall hnames]
  have hselection : r.linkedSelection = r'.linkedSelection := by
    rw [linkedSelection, linkedSelection, hall, hlibrary]
  have hfresh : r.freshNames = r'.freshNames := by
    rw [freshNames, freshNames, earlierNames, earlierNames, ← names_eq_selection,
      ← names_eq_selection, hnames, hlibrary, hselection]
  rw [steps_namedPlanning, steps_namedPlanning, linkedSteps, linkedSteps, namedSteps, namedSteps,
    hcairo, hselection, hfresh]

/-- Giving the grammars in other spellings changes no name but for its case. -/
theorem map_lower_names {grammars : List String}
    (h : r.grammars.map Text.lower = grammars.map Text.lower) :
    r.names.map Text.lower = ({ r with grammars } : Request).names.map Text.lower := by
  -- a list of grammars is empty if and only if the other is, so the default is chosen alike
  have hempty : r.grammars.isEmpty = grammars.isEmpty := by
    rw [← List.isEmpty_map (f := Text.lower), h, List.isEmpty_map]
  unfold names isExplicit
  simp only [hempty]
  split
  · rfl
  · exact h

end Request

/-- **Case does not matter to a plan.** If the grammars of a request are given in other spellings
that have the same lower case one by one, the plan has the same items in the same order, or the
request is refused for the same reason. A library file for Cairo is admitted for the spellings of
its name that have the same lower case, though they are looked for by the rule for ASCII. -/
theorem plan_eq_of_lower_eq [Build] (fs : FileSystem) (r : Request) (grammars : List String)
    (h : List.Forall₂ (fun given given' => Text.lower given = Text.lower given')
      r.grammars grammars) :
    plan fs r = plan fs { r with grammars } ∧
    ∀ r' : Request, r'.selectsCairo = true ↔
      r'.all = true ∨ ∃ given ∈ r'.names, Text.lower given = cairoName := by
  refine ⟨?_, fun _ => Request.selectsCairo_iff⟩
  have hgrammars : r.grammars.map Text.lower = grammars.map Text.lower := by
    rw [← List.forall₂_eq_eq_eq, List.forall₂_map_left_iff, List.forall₂_map_right_iff]
    exact h
  have hsteps : r.namedPlanning.steps = ({ r with grammars } : Request).namedPlanning.steps :=
    Request.steps_namedPlanning_congr rfl rfl (Request.map_lower_names hgrammars)
  -- the library files and the directory have nothing to do with the grammars
  rw [plan, plan, targets, targets, Request.planSteps, Request.planSteps, hsteps]
  rfl

attribute [local instance] Build.withoutCairo

/-- A request that spells Cairo in capitals, and a grammar that is not known. -/
private def loudRequest : Request where
  grammars := ["RUST", "CAIRO", "ΟΔΟΣ"]
  cairoLibrary? := some (.ofText "cairo.so")

/-- In both spellings Cairo is selected, and the unknown grammar is named with a final sigma. -/
theorem plan_eq_of_lower_eq_finalSigma :
    plan .bare loudRequest = .error (.unknownGrammar "οδος") ∧
      plan .bare { loudRequest with grammars := ["Rust", "cairO", "Οδος"] } =
        .error (.unknownGrammar "οδος") := by
  have hloud : plan .bare loudRequest = .error (.unknownGrammar "οδος") := by
    decide +kernel
  have heq := (plan_eq_of_lower_eq .bare loudRequest ["Rust", "cairO", "Οδος"]
    (by
      refine .cons ?_ (.cons ?_ (.cons ?_ .nil))
      · decide
      · decide
      · decide +kernel)).1
  exact ⟨hloud, heq ▸ hloud⟩

end GrammarCheck
