import GrammarCheck.Proofs.Loading

/-!
# The outcome of a load

A load ends in one of four ways, and which one it is can be read off the handle and the bounds of
the range, the handle first, then the version, then the number of node kinds. The bounds of a range
that is asked for are clamped to those of the runtime, so that the parser's own refusal does not
come up.

* `LoadOutcome` — which outcome a load has when, for given bounds.
* `loadOutcome` — a load has the outcome of the bounds of its range.
* `load_within_eq_ok_iff` — a part of the whole range takes what the whole range takes, as far as
  the version lies between the bounds that were asked for.
* `load_classified` — both for the ranges that a loader can be made with.
-/

namespace GrammarCheck

/-! ### Ranges -/

namespace AbiRange

variable {range : AbiRange} {version : Nat}

theorem contains_iff :
    range.contains version = true ↔ range.min ≤ version ∧ version ≤ range.max := by
  rw [contains, Bool.and_eq_true, decide_eq_true_iff, decide_eq_true_iff]

theorem contains_eq_false_iff :
    range.contains version = false ↔ version < range.min ∨ range.max < version := by
  rw [Bool.eq_false_iff, ne_eq, contains_iff]
  omega

end AbiRange

/-- Clamping keeps the versions of the whole range that lie between the bounds. -/
theorem contains_within_iff {low high version : Nat} :
    (AbiRange.within low high).contains version = true ↔
      AbiRange.supported.contains version = true ∧ low ≤ version ∧ version ≤ high := by
  rw [AbiRange.contains_iff, AbiRange.contains_iff]
  -- the bounds of the clamped range, written out
  change max low oldestAbi ≤ version ∧ version ≤ min high newestAbi ↔
    (oldestAbi ≤ version ∧ version ≤ newestAbi) ∧ low ≤ version ∧ version ≤ high
  omega

/-! ### Languages -/

/-- The symbols and the aliases are added up in thirty-two bits. -/
theorem Language.toNat_nodeKindCount (l : Language) :
    l.nodeKindCount.toNat = (l.symbolCount.toNat + l.aliasCount.toNat) % UInt32.size :=
  UInt32.toNat_add l.symbolCount l.aliasCount

theorem Handle.language?_eq_some_iff {h : Handle} {language : Language} :
    h.language? = some language ↔ h.entry? = some ⟨some language⟩ := by
  rw [language?, Option.bind_eq_some_iff]
  constructor
  · rintro ⟨⟨returned⟩, hentry, rfl⟩
    exact hentry
  · exact fun hentry => ⟨_, hentry, rfl⟩

theorem Handle.language?_eq_none_iff {h : Handle} :
    h.language? = none ↔ h.entry? = none ∨ h.entry? = some ⟨none⟩ := by
  rw [language?, Option.bind_eq_none_iff]
  cases h.entry? with
  | none => simp
  | some entry =>
    obtain ⟨returned⟩ := entry
    simp

/-! ### Causes -/

section Causes

variable {range : AbiRange} {h : Handle} {language : Language}

/-- A load fails for a cause, whatever name its error shows. -/
theorem exists_error_iff {cause : LoadFailure} :
    (∃ e, load range h = .error e ∧ e.cause = cause) ↔ LoadFails range h cause := by
  simp only [load_eq_error_iff]
  constructor
  · rintro ⟨e, ⟨-, hfails⟩, rfl⟩
    exact hfails
  · exact fun hfails => ⟨⟨h.name, cause⟩, ⟨rfl, hfails⟩, rfl⟩

theorem loadFails_nullHandle_iff : LoadFails range h .nullHandle ↔ h.language? = none := by
  constructor
  · intro hfails
    cases hfails with
    | absent given => exact given
  · exact .absent

theorem loadFails_incompatibleAbi_iff (given : h.language? = some language) :
    LoadFails range h (.incompatibleAbi language.abiVersion.toNat range.min range.max) ↔
      range.contains language.abiVersion.toNat = false := by
  constructor
  · intro hfails
    -- the cause names bounds of the range, so it cannot be matched as it stands
    generalize hcause : LoadFailure.incompatibleAbi _ _ _ = cause at hfails
    cases hfails with
    | outside given' version =>
      obtain rfl := Option.some.inj (given.symm.trans given')
      exact version
    | absent | noKinds => exact absurd hcause nofun
  · exact .outside given

theorem loadFails_noNodeKinds_iff (given : h.language? = some language)
    (version : range.contains language.abiVersion.toNat = true) :
    LoadFails range h .noNodeKinds ↔ language.nodeKindCount.toNat = 0 := by
  constructor
  · intro hfails
    cases hfails with
    | noKinds given' _ kinds =>
      obtain rfl := Option.some.inj (given.symm.trans given')
      exact kinds
  · exact .noKinds given version

theorem not_loadFails_rejected (version : Nat) : ¬ LoadFails range h (.rejected version) :=
  nofun

end Causes

/-! ### Outcomes -/

/-- **The outcome of a load** of the handle `h`, by a loader that takes the versions from `low` to
`high`. Each outcome has its condition, given that the conditions of those before it do not hold. -/
structure LoadOutcome (low high : Nat) (h : Handle) (result : Except LoadError LoadedGrammar) :
    Prop where
  nullHandle_iff : (∃ e, result = .error e ∧ e.cause = .nullHandle) ↔
    h.entry? = none ∨ h.entry? = some ⟨none⟩
  incompatibleAbi_iff : ∀ language, h.entry? = some ⟨some language⟩ →
    ((∃ e, result = .error e ∧
        e.cause = .incompatibleAbi language.abiVersion.toNat low high) ↔
      language.abiVersion.toNat < low ∨ high < language.abiVersion.toNat)
  noNodeKinds_iff : ∀ language, h.entry? = some ⟨some language⟩ →
    low ≤ language.abiVersion.toNat → language.abiVersion.toNat ≤ high →
    ((∃ e, result = .error e ∧ e.cause = .noNodeKinds) ↔
      (language.symbolCount.toNat + language.aliasCount.toNat) % UInt32.size = 0)
  loaded : ∀ language, h.entry? = some ⟨some language⟩ →
    low ≤ language.abiVersion.toNat → language.abiVersion.toNat ≤ high →
    (language.symbolCount.toNat + language.aliasCount.toNat) % UInt32.size ≠ 0 →
    result = .ok ⟨h.name, language, language.abiVersion.toNat,
      (language.symbolCount.toNat + language.aliasCount.toNat) % UInt32.size⟩
  grammar_eq : ∀ e, result = .error e → e.grammar = h.name
  ne_rejected : ∀ e version, result = .error e → e.cause ≠ .rejected version

/-- A load has the outcome of the bounds of its range. -/
theorem loadOutcome (range : AbiRange) (h : Handle) :
    LoadOutcome range.min range.max h (load range h) where
  nullHandle_iff := by
    rw [exists_error_iff, loadFails_nullHandle_iff, Handle.language?_eq_none_iff]
  incompatibleAbi_iff := by
    intro language hentry
    have given := Handle.language?_eq_some_iff.mpr hentry
    rw [exists_error_iff, loadFails_incompatibleAbi_iff given, AbiRange.contains_eq_false_iff]
  noNodeKinds_iff := by
    intro language hentry hlow hhigh
    have given := Handle.language?_eq_some_iff.mpr hentry
    -- the version has been taken, so the kinds decide
    rw [exists_error_iff,
      loadFails_noNodeKinds_iff given (AbiRange.contains_iff.mpr ⟨hlow, hhigh⟩),
      Language.toNat_nodeKindCount]
  loaded := by
    intro language hentry hlow hhigh hkinds
    rw [← Language.toNat_nodeKindCount] at hkinds ⊢
    exact load_eq_ok_iff.mpr ⟨Handle.language?_eq_some_iff.mpr hentry, rfl, rfl,
      AbiRange.contains_iff.mpr ⟨hlow, hhigh⟩, rfl, Nat.pos_of_ne_zero hkinds⟩
  grammar_eq := fun e hload => (load_eq_error_iff.mp hload).1
  ne_rejected := by
    intro e version hload hcause
    exact not_loadFails_rejected version (hcause ▸ (load_eq_error_iff.mp hload).2)

/-- A part of the whole range takes the grammars that the whole range takes, as far as their version
lies between the bounds. -/
theorem load_within_eq_ok_iff {low high : Nat} {h : Handle} {g : LoadedGrammar} :
    load (.within low high) h = .ok g ↔
      load .supported h = .ok g ∧ low ≤ g.abiVersion ∧ g.abiVersion ≤ high := by
  rw [load_eq_ok_iff, load_eq_ok_iff, contains_within_iff]
  constructor
  · rintro ⟨hlanguage, hname, hversion, ⟨hrange, hbounds⟩, hkinds⟩
    exact ⟨⟨hlanguage, hname, hversion, hrange, hkinds⟩, hbounds⟩
  · rintro ⟨⟨hlanguage, hname, hversion, hrange, hkinds⟩, hbounds⟩
    exact ⟨hlanguage, hname, hversion, ⟨hrange, hbounds⟩, hkinds⟩

/-- **Loads are classified.** The loader of the whole range has the outcomes of the bounds 13 and
15, and a loader that is asked for the versions from `low` to `high` those of the clamped bounds. If
these cross, every language is refused for its version. The grammars that such a loader takes are
those of the whole range whose version lies between the bounds that were asked for. -/
theorem load_classified :
    (∀ h, LoadOutcome 13 15 h (load .supported h)) ∧
    ∀ low high : Nat,
      (∀ h, LoadOutcome (max low 13) (min high 15) h (load (.within low high) h)) ∧
      (min high 15 < max low 13 → ∀ h language, h.entry? = some ⟨some language⟩ →
        load (.within low high) h = .error ⟨h.name,
          .incompatibleAbi language.abiVersion.toNat (max low 13) (min high 15)⟩) ∧
      (∀ h g, load (.within low high) h = .ok g ↔
        load .supported h = .ok g ∧ low ≤ g.abiVersion ∧ g.abiVersion ≤ high) := by
  refine ⟨loadOutcome .supported, fun low high =>
    ⟨loadOutcome (.within low high), ?_, fun _ _ => load_within_eq_ok_iff⟩⟩
  intro hcross h language hentry
  -- no version lies between bounds that cross
  have houtside : language.abiVersion.toNat < max low 13 ∨
      min high 15 < language.abiVersion.toNat := by
    omega
  obtain ⟨⟨grammar, cause⟩, hload, rfl⟩ :=
    ((loadOutcome (.within low high) h).incompatibleAbi_iff language hentry).mpr houtside
  rw [hload, ← (loadOutcome (.within low high) h).grammar_eq _ hload]
  rfl

/-- A handle of version 15 whose symbols and aliases add up to nothing. -/
private def wrappingHandle : Handle where
  name := "Zig"
  entry? := some ⟨some ⟨"zig", 15, 4294967295, 1⟩⟩

/-- The counts wrap to zero, which matters only where the version is taken: a loader held to older
versions refuses it before, and one whose bounds cross refuses every version. -/
theorem load_classified_wrapping :
    (∃ e, load .supported wrappingHandle = .error e ∧ e.cause = .noNodeKinds) ∧
      (∃ e, load (.within 0 14) wrappingHandle = .error e ∧
        e.cause = .incompatibleAbi 15 13 14) ∧
      load (.within 18446744073709551615 0) wrappingHandle =
        .error ⟨"Zig", .incompatibleAbi 15 18446744073709551615 0⟩ :=
  ⟨((load_classified.1 wrappingHandle).noNodeKinds_iff _ rfl (by decide) (by decide)).mpr rfl,
    (((load_classified.2 0 14).1 wrappingHandle).incompatibleAbi_iff _ rfl).mpr
      (Or.inr (by decide)),
    (load_classified.2 18446744073709551615 0).2.1 (by decide) wrappingHandle _ rfl⟩

end GrammarCheck
