import GrammarCheck.Proofs.Isolation
import GrammarCheck.Proofs.LibraryValues
import GrammarCheck.Proofs.NamingRules

/-!
# Names are in lower case

A grammar can come into a plan from five sources, and each has its own way with the name: the
registry spells it in lower case, a name that is selected and one in an assignment are put into
lower case, and the name of a library file is so once it is found. Whatever the source, the name is
not empty and is its own lower case in the end, and nothing that is looked up under it depends on
how often it has been put into lower case on the way.

* `Text.lower_ne_empty` — the lower case of a text is empty only if the text is.
* `NormalName` — a name that is not empty and is its own lower case.
* `mem_targets_cases` — where a target of a request comes from.
* `normalName_of_mem_targets` — every target has a normal name.
* `plan_names_normal` — so has every item of a plan, and look-ups do not tell spellings apart.
-/

namespace GrammarCheck

/-! ### Lower case leaves something -/

namespace Text

/-- No character vanishes: an expansion has characters too. -/
private theorem lowerExpansions_ne_nil : ∀ e ∈ lowerExpansions, e.2 ≠ [] := by
  decide

theorem lowerChar_ne_nil (c : Char) : lowerChar c ≠ [] := by
  rcases lowerChar_cases c with ⟨-, hchar⟩ | ⟨ns, hmem, hchar⟩ | ⟨r, -, -, hchar⟩ | hchar
  · rw [hchar]
    exact List.cons_ne_nil _ _
  · rw [hchar]
    exact fun hnil => lowerExpansions_ne_nil _ hmem (List.map_eq_nil_iff.mp hnil)
  · rw [hchar]
    exact List.cons_ne_nil _ _
  · rw [hchar]
    exact List.cons_ne_nil _ _

/-- **Lower case leaves something** of a text that is not empty. -/
theorem lower_ne_empty {s : String} (h : s ≠ "") : lower s ≠ "" := by
  have hchars : lowerAfter [] s.toList ≠ [] := by
    obtain ⟨c, rest, hcons⟩ :=
      List.exists_cons_of_ne_nil fun hnil : s.toList = [] => h (String.toList_inj.mp hnil)
    rw [hcons, lowerAfter]
    -- the first character leaves something, whether or not it is a sigma
    refine List.append_ne_nil_of_left_ne_nil ?_ _
    split
    · exact List.cons_ne_nil _ _
    · exact lowerChar_ne_nil c
  intro hempty
  rw [lower, ← String.toList_inj, String.toList_ofList] at hempty
  exact hchars hempty

end Text

/-! ### Normal names -/

/-- The name is as every name of a grammar is in the end: not empty, and its own lower case. -/
structure NormalName (name : String) : Prop where
  ne_empty : name ≠ ""
  lower_eq : Text.lower name = name

/-- Lower case makes a name normal. -/
theorem normalName_lower {given : String} (h : given ≠ "") : NormalName (Text.lower given) :=
  ⟨Text.lower_ne_empty h, Text.lower_lower given⟩

/-- The registry spells its names in lower case. -/
theorem normalName_of_mem_bundled [Build] {g : Grammar} (hg : g ∈ bundled) :
    NormalName g.name := by
  have hnonempty : ∀ g ∈ bundled, g.name ≠ "" :=
    forall_mem_bundled (P := fun name _ => name ≠ "") (by decide)
  exact ⟨hnonempty g hg, lower_name_of_mem_bundled g hg⟩

/-- The name of a library file is a word in lower case. -/
theorem normalName_of_grammarName? {p : Path} {name : String} (h : grammarName? p = some name) :
    NormalName name := by
  obtain ⟨file, -, stem, extension, word, hrules⟩ := grammarName?_eq_some_iff_namesGrammar.mp h
  have hlower : name = Text.lower word :=
    hrules.name_eq.trans hrules.isWord.isAscii.lower_eq_toLower.symm
  rw [hlower]
  exact normalName_lower hrules.isWord.ne_empty

/-- A value gives a normal name, whether it is an assignment or a path. -/
theorem NamedLibrary.normalName_of_parse {value : String} {l : NamedLibrary}
    (h : parse value = .ok l) : NormalName l.name := by
  rcases parse_eq_ok_iff.mp h with ⟨name, path, -, -, hname, -, rfl⟩ | ⟨-, hpath⟩
  · exact normalName_lower hname
  · exact normalName_of_grammarName? (ofPath?_eq_some_iff.mp hpath).1

theorem normalName_of_mem_discover {fs : FileSystem} {dir : Path} {l : NamedLibrary}
    (h : l ∈ discover fs dir) : NormalName l.name :=
  normalName_of_grammarName? (grammarName?_of_mem_discover h)

/-! ### Targets -/

/-- **Where a target comes from.** It is the library file that stands in for Cairo, a bundled
grammar, the library file of a value, or one that the directory offers. -/
theorem mem_targets_cases [Build] {fs : FileSystem} {r : Request} {ts : List Target} {t : Target}
    (h : targets fs r = .ok ts) (ht : t ∈ ts) :
    (∃ p, r.cairoLibrary? = some p ∧ t = .library ⟨cairoName, p⟩) ∨
      (∃ g ∈ bundled, t = .bundled g) ∨
      (∃ value ∈ r.libraries, ∃ l, NamedLibrary.parse value = .ok l ∧ t = .library l) ∨
      (∃ dir, r.libraryDir? = some dir ∧ ∃ l ∈ discover fs dir, t = .library l) := by
  have hstep : (.ok t : PlanStep) ∈ r.planSteps fs := by
    rw [targets, collectTargets_eq_ok_iff] at h
    exact h ▸ List.mem_map_of_mem ht
  rw [Request.planSteps_eq] at hstep
  simp only [List.mem_append] at hstep
  -- one case for each segment of the planning
  rcases hstep with (((hcairo | hlinked) | hnamed) | hlibrary) | hdirectory
  · obtain ⟨p, hp, hok⟩ := List.mem_map.mp hcairo
    split at hok
    · exact Or.inl ⟨p, Option.mem_toList.mp hp, (Except.ok.inj hok).symm⟩
    · exact absurd hok (by simp)
  · obtain ⟨g, hg, hok⟩ := List.mem_map.mp hlinked
    have hbundled : g ∈ bundled := (Request.mem_linkedSelection.mp hg).2.1
    exact Or.inr (Or.inl ⟨g, hbundled, (Except.ok.inj hok).symm⟩)
  · obtain ⟨name, -, hok⟩ := List.mem_map.mp hnamed
    obtain ⟨g, ⟨hbundled, -⟩, rfl⟩ := namedStep_eq_ok_iff.mp hok
    exact Or.inr (Or.inl ⟨g, hbundled, rfl⟩)
  · obtain ⟨value, hvalue, hok⟩ := List.mem_map.mp hlibrary
    obtain ⟨l, hparse, rfl⟩ := libraryStep_eq_ok_iff.mp hok
    exact Or.inr (Or.inr (Or.inl ⟨value, hvalue, l, hparse, rfl⟩))
  · unfold Request.directorySteps at hdirectory
    cases hdir : r.libraryDir? with
    | none =>
      rw [hdir] at hdirectory
      exact absurd hdirectory List.not_mem_nil
    | some dir =>
      rw [hdir] at hdirectory
      simp only at hdirectory
      split at hdirectory
      · obtain ⟨l, hl, hok⟩ := List.mem_map.mp hdirectory
        exact Or.inr (Or.inr (Or.inr ⟨dir, rfl, l, hl, (Except.ok.inj hok).symm⟩))
      · exact absurd (List.mem_singleton.mp hdirectory) (by simp)

/-- **Every target has a normal name**, wherever it comes from. -/
theorem normalName_of_mem_targets [Build] {fs : FileSystem} {r : Request} {ts : List Target}
    {t : Target} (h : targets fs r = .ok ts) (ht : t ∈ ts) : NormalName t.name := by
  rcases mem_targets_cases h ht with ⟨p, -, rfl⟩ | ⟨g, hg, rfl⟩ | ⟨value, -, l, hparse, rfl⟩ |
    ⟨dir, -, l, hl, rfl⟩
  · exact normalName_of_mem_bundled (g := cairo) (List.mem_cons_self ..)
  · exact normalName_of_mem_bundled hg
  · exact NamedLibrary.normalName_of_parse hparse
  · exact normalName_of_mem_discover hl

/-! ### Look-ups -/

@[simp] theorem symbolName_lower (name : String) :
    symbolName (Text.lower name) = symbolName name := by
  rw [symbolName, Text.lower_lower, symbolName]

/-- What does not depend on the case of a name does not depend on how often it is put into lower
case. -/
theorem apply_iterate_lower {α : Type} {f : String → α} (hf : ∀ name, f (Text.lower name) = f name)
    (times : ℕ) (name : String) : f (Text.lower^[times] name) = f name := by
  induction times generalizing name with
  | zero => rfl
  | succ times ih => rw [Function.iterate_succ_apply, ih, hf]

/-- **Names are in lower case.** Every item of a plan has a name that is not empty and is its own
lower case, from whichever source it comes. The entry point that a name stands for and the bundled
grammar that it finds are the same however often the name is put into lower case. -/
theorem plan_names_normal [Build] (fs : FileSystem) (r : Request) :
    (∀ items, plan fs r = .ok items → ∀ item ∈ items, NormalName item.name) ∧
    ∀ (name : String) (times : ℕ),
      symbolName (Text.lower^[times] name) = symbolName name ∧
        findBundled? (Text.lower^[times] name) = findBundled? name := by
  constructor
  · intro items hplan item hitem
    obtain ⟨ts, hts, rfl⟩ := plan_eq_ok_iff.mp hplan
    obtain ⟨t, ht, rfl⟩ := List.mem_map.mp hitem
    rw [Target.name_item]
    exact normalName_of_mem_targets hts ht
  · intro name times
    exact ⟨apply_iterate_lower symbolName_lower times name,
      apply_iterate_lower findBundled?_lower times name⟩

attribute [local instance] Build.withoutCairo

/-- A request that spells its names in capitals. -/
private def capitalRequest : Request where
  grammars := ["RUST"]
  libraries := ["ΟΔΟΣ=a.so", "/libtree-sitter-Zig.SO"]

/-- A capital sigma at the end of a word becomes a final one, which stays as it is. -/
theorem plan_names_normal_finalSigma :
    ∃ items, plan .bare capitalRequest = .ok items ∧
      items.map PlannedItem.name = ["rust", "οδος", "zig"] ∧
      ∀ name ∈ ["rust", "οδος", "zig"], NormalName name := by
  have hnames : (plan .bare capitalRequest).map (List.map PlannedItem.name) =
      .ok ["rust", "οδος", "zig"] := by
    decide +kernel
  cases hplan : plan .bare capitalRequest with
  | error e =>
    rw [hplan] at hnames
    exact absurd hnames nofun
  | ok items =>
    rw [hplan] at hnames
    have hitems : items.map PlannedItem.name = ["rust", "οδος", "zig"] := Except.ok.inj hnames
    refine ⟨items, rfl, hitems, fun name hname => ?_⟩
    obtain ⟨item, hitem, rfl⟩ := List.mem_map.mp (hitems ▸ hname)
    exact (plan_names_normal .bare capitalRequest).1 items hplan item hitem

end GrammarCheck
