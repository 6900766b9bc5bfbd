import GrammarCheck.Proofs.Artifact
import GrammarCheck.Proofs.Registry
import Mathlib.Data.List.Forall2

/-!
# What a request plans

The planning goes through the grammars of a request with the names that are taken in hand. What it
has planned at the end can be said without them: each source of grammars contributes its own
segment, and a name contributes at its first occurrence if no earlier segment has it. A request that
selects nothing is one for Cairo.

* `Request.selection` — the grammars that a request selects by name.
* `Planning.steps_foldl_add` — one run of the planning over a list of names: the names that are new,
  at their first occurrence.
* `Request.linkedSelection`, `Request.freshNames` — the segments of the linked grammars and of the
  grammars selected by name.
* `Request.planSteps_eq` — the steps of a planning are those of the five segments.
* `plan_eq_segments` — a plan that succeeds holds the items of the five segments, no grammar of the
  first three twice.
-/

namespace GrammarCheck

/-! ### First occurrences -/

section FirstOccurrences

variable {α : Type} [BEq α] [LawfulBEq α]

/-- What passes a test is thinned out alike before and after the test. -/
private theorem filter_eraseDups (p : α → Bool) :
    ∀ l : List α, l.eraseDups.filter p = (l.filter p).eraseDups
  | [] => rfl
  | a :: l => by
    have hrest := filter_eraseDups p (l.filter fun b => !b == a)
    rw [List.eraseDups_cons]
    by_cases ha : p a = true
    -- the head is kept on both sides, and what equals it is dropped on both
    · rw [List.filter_cons_of_pos ha, List.filter_cons_of_pos ha, List.eraseDups_cons, hrest,
        List.filter_filter, List.filter_filter]
      simp only [Bool.and_comm]
    · rw [List.filter_cons_of_neg ha, List.filter_cons_of_neg ha, hrest, List.filter_filter]
      -- whatever passes differs from the head, which does not
      congr 1
      refine List.filter_congr fun b _ => ?_
      by_cases hb : b = a
      · simp [hb, ha]
      · simp [hb]
termination_by l => l.length
decreasing_by exact Nat.lt_succ_of_le (List.length_filter_le _ _)

private theorem nodup_eraseDups : ∀ l : List α, l.eraseDups.Nodup
  | [] => List.nodup_nil
  | a :: l => by
    rw [List.eraseDups_cons, List.nodup_cons]
    -- what equals the head is gone from the rest
    refine ⟨?_, nodup_eraseDups (l.filter fun b => !b == a)⟩
    rw [List.mem_eraseDups]
    simp
termination_by l => l.length
decreasing_by exact Nat.lt_succ_of_le (List.length_filter_le _ _)

/-- A list without repetitions stays as it is. -/
private theorem eraseDups_of_nodup {l : List α} (h : l.Nodup) : l.eraseDups = l := by
  induction l with
  | nil => rfl
  | cons a l ih =>
    obtain ⟨ha, hl⟩ := List.nodup_cons.mp h
    -- nothing in the rest equals the head
    have hrest : (l.filter fun b => !b == a) = l := by
      refine List.filter_eq_self.mpr fun b hb => ?_
      have hne : b ≠ a := fun heq => ha (heq ▸ hb)
      simpa using hne
    rw [List.eraseDups_cons, hrest, ih hl]

end FirstOccurrences

/-! ### Taking names -/

namespace Planning

variable {p : Planning} {name : String} {step : PlanStep}

/-- A name that is taken already changes nothing. -/
theorem add_of_mem (h : name ∈ p.taken) : p.add name step = p := by
  rw [add, if_pos h]

/-- A name that is not taken yet is taken, and its step is the last. -/
theorem add_of_notMem (h : name ∉ p.taken) :
    p.add name step = ⟨name :: p.taken, p.steps ++ [step]⟩ := by
  rw [add, if_neg h]

theorem mem_taken_add {other : String} :
    other ∈ (p.add name step).taken ↔ other = name ∨ other ∈ p.taken := by
  by_cases h : name ∈ p.taken
  · rw [add_of_mem h, or_iff_right_of_imp]
    rintro rfl
    exact h
  · rw [add_of_notMem h, List.mem_cons]

/-- **Taking names.** A run of the planning over a list of names adds the steps of those that were
not taken before, each at its first occurrence. -/
theorem steps_foldl_add (stepOf : String → PlanStep) (names : List String) (p : Planning) :
    (names.foldl (fun p name => p.add name (stepOf name)) p).steps =
      p.steps ++ (names.eraseDups.filter (· ∉ p.taken)).map stepOf := by
  induction names generalizing p with
  | nil => simp
  | cons name names ih =>
    -- dropping the repetitions of `name` is the same as having it taken
    have hrest : ((names.filter fun other => !other == name).eraseDups.filter (· ∉ p.taken)) =
        names.eraseDups.filter (· ∉ name :: p.taken) := by
      rw [← filter_eraseDups, List.filter_filter]
      refine List.filter_congr fun other _ => ?_
      by_cases hother : other = name
      · simp [hother]
      · simp [hother]
    rw [List.foldl_cons, ih, List.eraseDups_cons]
    by_cases h : name ∈ p.taken
    · rw [add_of_mem h, List.filter_cons_of_neg (by simpa using h), hrest]
      -- the name is among those taken, so it makes no difference to the rest
      simp only [List.mem_cons, not_or]
      congr 2
      refine List.filter_congr fun other _ => ?_
      by_cases hother : other = name
      · simp [hother, h]
      · simp [hother]
    · -- the step of the name comes first, and the rest goes on with the name taken
      rw [add_of_notMem h, List.filter_cons_of_pos (by simpa using h), hrest, List.map_cons,
        List.append_assoc, List.singleton_append]

theorem mem_taken_foldl_add (stepOf : String → PlanStep) (names : List String) (p : Planning)
    {other : String} :
    other ∈ (names.foldl (fun p name => p.add name (stepOf name)) p).taken ↔
      other ∈ names ∨ other ∈ p.taken := by
  induction names generalizing p with
  | nil => simp
  | cons name names ih =>
    rw [List.foldl_cons, ih, mem_taken_add, List.mem_cons, or_left_comm, or_assoc]

end Planning

/-! ### Segments -/

namespace Request

variable {r : Request}

/-- Nothing is selected: no grammar by its name, no library file, no directory, and not all. -/
def IsBare (r : Request) : Prop :=
  r.grammars = [] ∧ r.libraries = [] ∧ r.libraryDir? = none ∧ r.all = false

instance (r : Request) : Decidable r.IsBare :=
  inferInstanceAs (Decidable (_ ∧ _ ∧ _ ∧ _))

/-- The names of the grammars that are selected by name. If nothing is selected, Cairo is. -/
def selection (r : Request) : List String :=
  if r.IsBare then ["cairo"] else r.grammars

theorem names_eq_selection : r.names = r.selection := by
  have hbare : (!r.isExplicit && !r.all) = true ↔ r.IsBare := by
    simp [isExplicit, IsBare, and_assoc]
  unfold names selection
  simp only [hbare, cairoName]

/-- The grammars of a request are selected. Nothing is added to them by default. -/
theorem mem_selection_of_mem_grammars {name : String} (h : name ∈ r.grammars) :
    name ∈ r.selection := by
  have hselects : ¬ r.IsBare := fun hbare => List.ne_nil_of_mem h hbare.1
  rwa [selection, if_neg hselects]

/-- The step of the library file that stands in for Cairo, if there is one. -/
def cairoSteps (r : Request) : List PlanStep :=
  r.cairoLibrary?.toList.map fun p =>
    if r.selectsCairo then .ok (.library ⟨"cairo", p⟩) else .error .cairoNotSelected

theorem steps_cairoPlanning : r.cairoPlanning.steps = r.cairoSteps := by
  unfold cairoPlanning cairoSteps
  cases r.cairoLibrary? <;> rfl

theorem taken_cairoPlanning :
    r.cairoPlanning.taken = r.cairoLibrary?.toList.map fun _ => "cairo" := by
  unfold cairoPlanning
  cases r.cairoLibrary? <;> rfl

theorem mem_taken_cairoPlanning {name : String} :
    name ∈ r.cairoPlanning.taken ↔ r.cairoLibrary?.isSome ∧ name = "cairo" := by
  rw [taken_cairoPlanning]
  cases r.cairoLibrary? <;> simp

end Request

section Segments

variable [Build]

/-- A bundled grammar is the step of its own name. -/
theorem namedStep_name {g : Grammar} (hg : g ∈ bundled) : namedStep g.name = .ok (.bundled g) := by
  rw [namedStep, findBundled?_name hg]

namespace Request

variable (r : Request)

/-- The linked grammars that a request selects all at once, in the order of the registry. Cairo is
not among them if a library file stands in for it. -/
def linkedSelection : List Grammar :=
  if r.all then
    bundled.filter fun g => g.isLinked ∧ ¬ (r.cairoLibrary?.isSome ∧ g.name = "cairo")
  else []

/-- The steps of the linked grammars. -/
def linkedSteps : List PlanStep :=
  r.linkedSelection.map fun g => .ok (.bundled g)

/-- The names that are planned before those selected by name. -/
def earlierNames : List String :=
  (r.cairoLibrary?.toList.map fun _ => "cairo") ++ r.linkedSelection.map Grammar.name

/-- The names of the grammars that are planned because they are selected by name, in lower case:
each at its first occurrence, and none that is planned before. -/
def freshNames : List String :=
  (r.selection.map Text.lower).eraseDups.filter (· ∉ r.earlierNames)

/-- The steps of the grammars selected by name. -/
def namedSteps : List PlanStep :=
  r.freshNames.map namedStep

variable {r}

/-- The linked grammars are added by their names. -/
private theorem foldl_addLinked (p : Planning) :
    (bundled.filter Grammar.isLinked).foldl Planning.addLinked p =
      ((bundled.filter Grammar.isLinked).map Grammar.name).foldl
        (fun p name => p.add name (namedStep name)) p := by
  rw [List.foldl_map]
  refine List.foldl_ext _ _ _ fun p g hg => ?_
  rw [namedStep_name (List.mem_of_mem_filter hg), Planning.addLinked]

/-- The names of the linked grammars are distinct as they stand. -/
private theorem eraseDups_linkedNames :
    ((bundled.filter Grammar.isLinked).map Grammar.name).eraseDups =
      (bundled.filter Grammar.isLinked).map Grammar.name :=
  eraseDups_of_nodup (nodup_bundled_names.sublist (List.filter_sublist.map Grammar.name))

theorem steps_linkedPlanning :
    r.linkedPlanning.steps = r.cairoSteps ++ r.linkedSteps := by
  unfold linkedPlanning linkedSteps linkedSelection
  cases r.all with
  | false => simp [steps_cairoPlanning]
  | true =>
    simp only [if_true]
    rw [foldl_addLinked, Planning.steps_foldl_add, eraseDups_linkedNames, steps_cairoPlanning,
      List.filter_map, List.map_map, List.filter_filter]
    congr 1
    -- the only name that can be taken before is that of Cairo
    have hfilter : (bundled.filter fun g =>
        ((fun name => decide (name ∉ r.cairoPlanning.taken)) ∘ Grammar.name) g && g.isLinked) =
        bundled.filter fun g => g.isLinked ∧ ¬ (r.cairoLibrary?.isSome ∧ g.name = "cairo") := by
      refine List.filter_congr fun g _ => ?_
      simp only [Function.comp_apply, mem_taken_cairoPlanning]
      rw [Bool.and_comm]
      simp
    rw [hfilter]
    exact List.map_congr_left fun g hg => namedStep_name (List.mem_of_mem_filter hg)

theorem mem_linkedSelection {g : Grammar} :
    g ∈ r.linkedSelection ↔
      r.all ∧ g ∈ bundled ∧ g.isLinked ∧ ¬ (r.cairoLibrary?.isSome ∧ g.name = "cairo") := by
  unfold linkedSelection
  cases r.all with
  | false => simp
  | true => simp only [if_true, List.mem_filter, decide_eq_true_iff, true_and]

theorem mem_earlierNames {name : String} :
    name ∈ r.earlierNames ↔
      (r.cairoLibrary?.isSome ∧ name = "cairo") ∨ ∃ g ∈ r.linkedSelection, g.name = name := by
  rw [earlierNames, List.mem_append, ← taken_cairoPlanning, mem_taken_cairoPlanning, List.mem_map]

theorem mem_freshNames {name : String} :
    name ∈ r.freshNames ↔
      (∃ given ∈ r.selection, Text.lower given = name) ∧ name ∉ r.earlierNames := by
  rw [freshNames, List.mem_filter, List.mem_eraseDups, List.mem_map, decide_eq_true_iff]

/-- The names that are taken when the grammars selected by name are planned. -/
theorem mem_taken_linkedPlanning {name : String} :
    name ∈ r.linkedPlanning.taken ↔ name ∈ r.earlierNames := by
  rw [mem_earlierNames]
  simp only [mem_linkedSelection]
  unfold linkedPlanning
  cases r.all with
  | false => simp [mem_taken_cairoPlanning]
  | true =>
    simp only [if_true, true_and]
    rw [foldl_addLinked, Planning.mem_taken_foldl_add, mem_taken_cairoPlanning, List.mem_map]
    constructor
    · -- a linked grammar that is passed over has the name of Cairo, which is taken then
      rintro (⟨g, hg, rfl⟩ | hcairo)
      · obtain ⟨hbundled, hlinked⟩ := List.mem_filter.mp hg
        by_cases hcairo : r.cairoLibrary?.isSome = true ∧ g.name = "cairo"
        · exact Or.inl hcairo
        · exact Or.inr ⟨g, ⟨hbundled, hlinked, hcairo⟩, rfl⟩
      · exact Or.inl hcairo
    · rintro (hcairo | ⟨g, ⟨hbundled, hlinked, -⟩, rfl⟩)
      · exact Or.inr hcairo
      · exact Or.inl ⟨g, List.mem_filter.mpr ⟨hbundled, hlinked⟩, rfl⟩

theorem steps_namedPlanning :
    r.namedPlanning.steps = r.cairoSteps ++ r.linkedSteps ++ r.namedSteps := by
  -- names are put into lower case one by one; they may as well be so beforehand
  have hadd : r.namedPlanning =
      (r.selection.map Text.lower).foldl (fun p name => p.add name (namedStep name))
        r.linkedPlanning := by
    rw [namedPlanning, names_eq_selection, List.foldl_map]
    rfl
  rw [hadd, Planning.steps_foldl_add, steps_linkedPlanning, namedSteps, freshNames]
  simp only [mem_taken_linkedPlanning]

/-- **The segments of a planning.** -/
theorem planSteps_eq (fs : FileSystem) :
    r.planSteps fs =
      r.cairoSteps ++ r.linkedSteps ++ r.namedSteps ++ r.librarySteps ++ r.directorySteps fs := by
  rw [planSteps, steps_namedPlanning]

/-! ### Names of the segments -/

theorem nodup_linkedNames : (r.linkedSelection.map Grammar.name).Nodup := by
  unfold linkedSelection
  cases r.all with
  | false => exact List.nodup_nil
  | true => exact nodup_bundled_names.sublist (List.filter_sublist.map Grammar.name)

/-- The names of the first three segments are distinct. -/
theorem nodup_names : (r.earlierNames ++ r.freshNames).Nodup := by
  refine List.nodup_append'.mpr ⟨?_, (nodup_eraseDups _).filter _, ?_⟩
  -- within the first two segments, only Cairo could occur in both
  · refine List.nodup_append'.mpr ⟨?_, nodup_linkedNames, ?_⟩
    · cases r.cairoLibrary? <;> simp
    · intro name hcairo hlinked
      rw [← taken_cairoPlanning, mem_taken_cairoPlanning] at hcairo
      obtain ⟨g, hg, rfl⟩ := List.mem_map.mp hlinked
      exact (mem_linkedSelection.mp hg).2.2.2 hcairo
  · intro name hearlier hfresh
    exact (mem_freshNames.mp hfresh).2 hearlier

/-- Every name that is selected is among those of the first three segments. -/
theorem lower_mem_names {name : String} (h : name ∈ r.selection) :
    Text.lower name ∈ r.earlierNames ++ r.freshNames := by
  rw [List.mem_append]
  by_cases hearlier : Text.lower name ∈ r.earlierNames
  · exact Or.inl hearlier
  · exact Or.inr (mem_freshNames.mpr ⟨⟨name, h, rfl⟩, hearlier⟩)

theorem lower_of_mem_freshNames {name : String} (h : name ∈ r.freshNames) :
    Text.lower name = name := by
  obtain ⟨⟨given, -, rfl⟩, -⟩ := mem_freshNames.mp h
  exact Text.lower_lower given

end Request

end Segments

/-! ### Plans that succeed -/

theorem libraryStep_eq_ok_iff {value : String} {t : Target} :
    libraryStep value = .ok t ↔ ∃ l, NamedLibrary.parse value = .ok l ∧ t = .library l := by
  unfold libraryStep
  cases NamedLibrary.parse value <;> simp [Except.map, eq_comm]

/-- Steps that add targets are told apart by them. -/
private theorem eq_of_map_ok_eq {ts ts' : List Target}
    (h : (ts.map .ok : List PlanStep) = ts'.map .ok) : ts = ts' := by
  have hinj : Function.Injective (Except.ok : Target → PlanStep) := fun _ _ => Except.ok.inj
  exact List.map_injective_iff.mpr hinj h

/-- No library file is planned as a bundled grammar. -/
theorem openLibrary_ne_bundled (fs : FileSystem) (l : NamedLibrary) (g : Grammar) :
    openLibrary fs l ≠ .grammar (.bundled g) := by
  unfold openLibrary
  split <;> simp

/-- Steps none of which refuses add one target each. -/
private theorem exists_forall₂_of_map_eq {α β : Type} {R : α → β → Prop} {stepOf : α → PlanStep}
    {target : β → Target} (hstep : ∀ a t, stepOf a = .ok t → ∃ b, R a b ∧ t = target b)
    {as : List α} {ts : List Target} (h : as.map stepOf = ts.map .ok) :
    ∃ bs, List.Forall₂ R as bs ∧ ts = bs.map target := by
  induction as generalizing ts with
  | nil =>
    obtain rfl : ts = [] := by simpa using h.symm
    exact ⟨[], .nil, rfl⟩
  | cons a as ih =>
    obtain _ | ⟨t, ts⟩ := ts
    · exact absurd h (by simp)
    · rw [List.map_cons, List.map_cons, List.cons.injEq] at h
      obtain ⟨b, hb, rfl⟩ := hstep a t h.1
      obtain ⟨bs, hbs, rfl⟩ := ih h.2
      exact ⟨b :: bs, .cons hb hbs, rfl⟩

namespace Request

variable {fs : FileSystem} {r : Request} {ts : List Target}

/-- The library file that stands in for Cairo, if it is planned at all. -/
theorem targets_of_cairoSteps (h : r.cairoSteps = ts.map .ok) :
    ts = r.cairoLibrary?.toList.map fun p => .library ⟨"cairo", p⟩ := by
  unfold cairoSteps at h
  cases hcairo : r.cairoLibrary? with
  | none =>
    rw [hcairo] at h
    simpa using h.symm
  | some p =>
    rw [hcairo] at h
    obtain ⟨t, rfl, ht⟩ := List.map_eq_singleton_iff.mp h.symm
    split at ht
    · obtain rfl := Except.ok.inj ht
      rfl
    · -- Cairo is not selected, so the step would refuse
      exact absurd ht (by simp)

theorem targets_of_librarySteps (h : r.librarySteps = ts.map .ok) :
    ∃ files, List.Forall₂ (fun value l => NamedLibrary.parse value = .ok l) r.libraries files ∧
      ts = files.map .library :=
  exists_forall₂_of_map_eq (fun _ _ => libraryStep_eq_ok_iff.mp) h

theorem targets_of_directorySteps (h : r.directorySteps fs = ts.map .ok) :
    ts = (r.libraryDir?.toList.flatMap (discover fs)).map .library := by
  unfold directorySteps at h
  cases hdir : r.libraryDir? with
  | none =>
    rw [hdir] at h
    simpa using h.symm
  | some dir =>
    rw [hdir] at h
    simp only at h
    split at h
    · refine eq_of_map_ok_eq ?_
      rw [← h, List.map_map, Option.toList_some, List.flatMap_singleton]
      rfl
    · -- there is no such directory, so the step would refuse
      obtain ⟨t, rfl, ht⟩ := List.map_eq_singleton_iff.mp h.symm
      exact absurd ht (by simp)

end Request

section Plans

variable [Build]

theorem namedStep_eq_ok_iff {name : String} {t : Target} :
    namedStep name = .ok t ↔ ∃ g, (g ∈ bundled ∧ g.name = Text.lower name) ∧ t = .bundled g := by
  unfold namedStep
  simp only [← findBundled?_eq_some_iff]
  cases findBundled? name <;> simp [eq_comm]

namespace Request

variable {fs : FileSystem} {r : Request} {ts : List Target}

theorem targets_of_linkedSteps (h : r.linkedSteps = ts.map .ok) :
    ts = r.linkedSelection.map .bundled := by
  refine eq_of_map_ok_eq ?_
  rw [← h, List.map_map]
  rfl

/-- The grammars selected by name are bundled grammars of these names. -/
theorem targets_of_namedSteps (h : r.namedSteps = ts.map .ok) :
    ∃ named : List Grammar, named.map Grammar.name = r.freshNames ∧ (∀ g ∈ named, g ∈ bundled) ∧
      ts = named.map .bundled := by
  obtain ⟨named, hnamed, hts⟩ := exists_forall₂_of_map_eq (fun _ _ => namedStep_eq_ok_iff.mp) h
  -- the names are in lower case already
  have hlower : r.freshNames.map Text.lower = r.freshNames := by
    rw [List.map_congr_left fun _ => lower_of_mem_freshNames, List.map_id']
  refine ⟨named, ?_, ((List.forall₂_and_left _ _).mp hnamed.flip).1, hts⟩
  rw [← hlower, ← List.forall₂_eq_eq_eq, List.forall₂_map_left_iff, List.forall₂_map_right_iff]
  exact hnamed.flip.imp fun _ _ h => h.2

/-- The items of the first three segments, with the grammars that are selected by name. -/
def grammarItems (fs : FileSystem) (r : Request) (named : List Grammar) : List PlannedItem :=
  (r.cairoLibrary?.toList.map fun p => openLibrary fs ⟨"cairo", p⟩) ++
    (r.linkedSelection ++ named).map fun g => .grammar (.bundled g)

/-- The items of the first three segments have the names of the segments. -/
theorem map_name_grammarItems {named : List Grammar} :
    (r.grammarItems fs named).map PlannedItem.name =
      r.earlierNames ++ named.map Grammar.name := by
  have hcairo : (r.cairoLibrary?.toList.map fun p => openLibrary fs ⟨"cairo", p⟩).map
      PlannedItem.name = r.cairoLibrary?.toList.map fun _ => "cairo" := by
    rw [List.map_map]
    exact List.map_congr_left fun p _ => name_openLibrary fs ⟨"cairo", p⟩
  rw [grammarItems, List.map_append, hcairo, List.map_map, List.map_append, earlierNames,
    List.append_assoc]
  rfl

/-- If a library file stands in for Cairo, the bundled Cairo is in none of the first three
segments. -/
theorem cairo_notMem_grammarItems {named : List Grammar} (hcairo : r.cairoLibrary?.isSome)
    (hnamed : named.map Grammar.name = r.freshNames) :
    PlannedItem.grammar (.bundled cairo) ∉ r.grammarItems fs named := by
  intro hmem
  rcases List.mem_append.mp hmem with hlibrary | hgrammar
  -- a library file gives no such item, whether it opens or not
  · obtain ⟨p, -, hopen⟩ := List.mem_map.mp hlibrary
    exact openLibrary_ne_bundled fs _ cairo hopen
  · obtain ⟨g, hg, heq⟩ := List.mem_map.mp hgrammar
    obtain rfl := Provider.bundled.inj (PlannedItem.grammar.inj heq)
    rcases List.mem_append.mp hg with hlinked | hfresh
    · exact (mem_linkedSelection.mp hlinked).2.2.2 ⟨hcairo, rfl⟩
    · -- the name of Cairo is taken by the library file
      have hname : cairo.name ∈ r.freshNames := hnamed ▸ List.mem_map_of_mem hfresh
      have hearlier : cairo.name ∈ r.earlierNames := mem_earlierNames.mpr (Or.inl ⟨hcairo, rfl⟩)
      exact (mem_freshNames.mp hname).2 hearlier

/-- The targets of a request that is not refused, segment by segment, as they are planned. -/
theorem items_of_targets (h : targets fs r = .ok ts) :
    ∃ named files, named.map Grammar.name = r.freshNames ∧ (∀ g ∈ named, g ∈ bundled) ∧
      List.Forall₂ (fun value l => NamedLibrary.parse value = .ok l) r.libraries files ∧
      ts.map (Target.item fs) = r.grammarItems fs named ++ files.map (openLibrary fs) ++
        (r.libraryDir?.toList.flatMap (discover fs)).map (openLibrary fs) := by
  rw [targets, collectTargets_eq_ok_iff, planSteps_eq] at h
  -- the steps are cut into their segments, and the targets with them
  obtain ⟨ts, directoryTs, rfl, hts, hdirectory⟩ := List.map_eq_append_iff.mp h.symm
  obtain ⟨ts, libraryTs, rfl, hts, hlibrary⟩ := List.map_eq_append_iff.mp hts
  obtain ⟨ts, namedTs, rfl, hts, hnamed⟩ := List.map_eq_append_iff.mp hts
  obtain ⟨cairoTs, linkedTs, rfl, hcairo, hlinked⟩ := List.map_eq_append_iff.mp hts
  obtain rfl := targets_of_cairoSteps hcairo.symm
  obtain rfl := targets_of_linkedSteps hlinked.symm
  obtain ⟨named, hnames, hbundled, rfl⟩ := targets_of_namedSteps hnamed.symm
  obtain ⟨files, hfiles, rfl⟩ := targets_of_librarySteps hlibrary.symm
  obtain rfl := targets_of_directorySteps hdirectory.symm
  refine ⟨named, files, hnames, hbundled, hfiles, ?_⟩
  simp [grammarItems, Function.comp_def, Target.item]

end Request

theorem plan_eq_ok_iff {fs : FileSystem} {r : Request} {items : List PlannedItem} :
    plan fs r = .ok items ↔ ∃ ts, targets fs r = .ok ts ∧ items = ts.map (Target.item fs) := by
  unfold plan
  cases targets fs r <;> simp [Except.map, eq_comm]

/-- **The segments of a plan.** A plan that succeeds holds, in this order: the library file that
stands in for Cairo; the linked grammars, if all are selected; the grammars that are selected by
name and not planned before, each once; the library files that are given one by one; and those of
the directory. The names of the first three segments are distinct, every name that is selected is
among them once (in lower case), and the bundled Cairo is not planned if a library file stands in
for it. -/
theorem plan_eq_segments {fs : FileSystem} {r : Request} {items : List PlannedItem}
    (h : plan fs r = .ok items) :
    ∃ named files,
      items = r.grammarItems fs named ++ files.map (openLibrary fs) ++
        (r.libraryDir?.toList.flatMap (discover fs)).map (openLibrary fs) ∧
      named.map Grammar.name = r.freshNames ∧ (∀ g ∈ named, g ∈ bundled) ∧
      List.Forall₂ (fun value l => NamedLibrary.parse value = .ok l) r.libraries files ∧
      ((r.grammarItems fs named).map PlannedItem.name).Nodup ∧
      (∀ name ∈ r.selection,
        ((r.grammarItems fs named).map PlannedItem.name).count (Text.lower name) = 1) ∧
      (r.cairoLibrary?.isSome → PlannedItem.grammar (.bundled cairo) ∉ items) := by
  obtain ⟨ts, hts, rfl⟩ := plan_eq_ok_iff.mp h
  obtain ⟨named, files, hnames, hbundled, hfiles, hitems⟩ := Request.items_of_targets hts
  have hnodup : ((r.grammarItems fs named).map PlannedItem.name).Nodup := by
    rw [Request.map_name_grammarItems, hnames]
    exact Request.nodup_names
  rw [hitems]
  refine ⟨named, files, rfl, hnames, hbundled, hfiles, hnodup, ?_, ?_⟩
  · intro name hname
    -- distinct names occur once if they occur at all
    refine List.count_eq_one_of_mem hnodup ?_
    rw [Request.map_name_grammarItems, hnames]
    exact Request.lower_mem_names hname
  · intro hcairo hmem
    have hlibrary : ∀ ls : List NamedLibrary,
        PlannedItem.grammar (.bundled cairo) ∉ ls.map (openLibrary fs) := by
      intro ls hmem
      obtain ⟨l, -, hopen⟩ := List.mem_map.mp hmem
      exact openLibrary_ne_bundled fs l cairo hopen
    rcases List.mem_append.mp hmem with hmem | hmem
    · rcases List.mem_append.mp hmem with hmem | hmem
      · exact Request.cairo_notMem_grammarItems hcairo hnames hmem
      · exact hlibrary _ hmem
    · exact hlibrary _ hmem

end Plans

attribute [local instance] Build.withoutCairo

/-- A request that names grammars twice, one of them the Cairo that a library file stands in for. -/
private def repeatingRequest : Request where
  grammars := ["Rust", "CAIRO", "rust", "Go"]
  libraries := ["zig=zig.so"]
  libraryDir? := some (.ofText "/")
  cairoLibrary? := some (.ofText "cairo.so")

/-- A request for all linked grammars, with a library file that stands in for Cairo. -/
private def standInRequest : Request where
  all := true
  cairoLibrary? := some (.ofText "cairo.so")

/-- A build that links a parser for Cairo. -/
private abbrev withCairo : Build := ⟨some ⟨some ⟨"cairo", 14, 300, 0⟩⟩⟩

private theorem exists_plan [Build] {r : Request} (h : (targets .bare r).toOption.isSome = true) :
    ∃ items, plan .bare r = .ok items := by
  cases htargets : targets .bare r with
  | error e =>
    rw [htargets] at h
    exact absurd h Bool.false_ne_true
  | ok ts => exact ⟨_, plan_eq_ok_iff.mpr ⟨ts, htargets, rfl⟩⟩

/-- Every grammar is planned once, and Cairo from the library file, also in a build that links a
parser for it. A request that selects nothing plans Cairo alone. -/
theorem plan_eq_segments_requests :
    (∃ (items : List PlannedItem) (named : List Grammar),
      plan .bare repeatingRequest = .ok items ∧
      items = openLibrary .bare ⟨"cairo", .ofText "cairo.so"⟩ ::
        named.map (fun g => .grammar (.bundled g)) ++
          [openLibrary .bare ⟨"zig", .ofText "zig.so"⟩] ∧
      named.map Grammar.name = ["rust", "go"] ∧
      PlannedItem.grammar (.bundled cairo) ∉ items) ∧
    (plan .bare {} = .ok [.grammar (.bundled cairo)]) ∧
    (@cairo withCairo).isLinked = true ∧
    (∃ items, @plan withCairo .bare standInRequest = .ok items ∧
      items = openLibrary .bare ⟨"cairo", .ofText "cairo.so"⟩ ::
        references.map (fun g => .grammar (.bundled g)) ∧
      PlannedItem.grammar (.bundled (@cairo withCairo)) ∉ items) := by
  refine ⟨?_, ?_, rfl, ?_⟩
  · obtain ⟨items, hplan⟩ := exists_plan (r := repeatingRequest) (by decide +kernel)
    obtain ⟨named, files, hitems, hnames, -, hfiles, -, -, hcairo⟩ :=
      plan_eq_segments hplan
    have hparse : NamedLibrary.parse "zig=zig.so" = .ok ⟨"zig", .ofText "zig.so"⟩ := rfl
    have hdiscover : discover .bare (.ofText "/") = [] := by
      decide +kernel
    obtain _ | ⟨hvalue, hrest⟩ := hfiles
    obtain rfl := Except.ok.inj (hparse.symm.trans hvalue)
    obtain _ | _ := hrest
    refine ⟨items, named, hplan, ?_, hnames.trans (by decide), hcairo rfl⟩
    rw [hitems]
    simp [Request.grammarItems, Request.linkedSelection, repeatingRequest, hdiscover]
  · obtain ⟨items, hplan⟩ := exists_plan (r := {}) (by decide +kernel)
    obtain ⟨named, files, hitems, hnames, hbundled, hfiles, -, -, -⟩ :=
      plan_eq_segments hplan
    obtain _ | _ := hfiles
    -- there is one grammar of the name of Cairo
    have hone : named.map Grammar.name = [cairoName] := hnames.trans (by decide)
    obtain ⟨g, rfl, hname⟩ := List.map_eq_singleton_iff.mp hone
    obtain rfl : g = cairo :=
      eq_of_mem_bundled (hbundled g (List.mem_singleton_self g)) (List.mem_cons_self ..) hname
    rw [hplan, hitems]
    rfl
  · obtain ⟨items, hplan⟩ := @exists_plan withCairo standInRequest (by decide +kernel)
    obtain ⟨named, files, hitems, hnames, -, hfiles, -, -, hcairo⟩ :=
      @plan_eq_segments withCairo _ _ _ hplan
    obtain _ | _ := hfiles
    -- no grammar is selected by its name
    have hnone : named.map Grammar.name = [] := hnames.trans (by decide)
    obtain rfl := List.map_eq_nil_iff.mp hnone
    refine ⟨items, hplan, ?_, hcairo rfl⟩
    rw [hitems]
    rfl

end GrammarCheck
