import GrammarCheck.Proofs.Artifact

/-!
# Loading a handle

A handle loads when it gives a language whose version lies in the range and that declares node
kinds. Each of the three can fail, and is looked at only if those before it hold.

* `admit?_eq` — what admission makes of a language.
* `LoadFails`, `load_eq_error_iff` — the steps at which a handle fails to load, with their causes.
* `load_eq_ok_iff` — what a handle that loads gives.
-/

namespace GrammarCheck

theorem mapError_eq_error_iff {ε ε' α : Type} {x : Except ε α} {f : ε → ε'} {e' : ε'} :
    x.mapError f = .error e' ↔ ∃ e, x = .error e ∧ e' = f e := by
  cases x with
  | ok a => exact iff_of_false nofun nofun
  | error e =>
    constructor
    · exact fun h => ⟨e, rfl, (Except.error.inj h).symm⟩
    · rintro ⟨_, h, rfl⟩
      obtain rfl := Except.error.inj h
      rfl

/-- The parser of the runtime takes every version of a range. -/
theorem AbiRange.runtimeAccepts_of_contains {range : AbiRange} {version : Nat}
    (h : range.contains version = true) : runtimeAccepts version = true := by
  simp only [contains, runtimeAccepts, Bool.and_eq_true, decide_eq_true_iff] at h ⊢
  exact ⟨Nat.le_trans range.oldest_le h.1, Nat.le_trans h.2 range.le_newest⟩

/-- Admission looks at the version and at the number of node kinds. The parser's own refusal does
not come up, since the range is looked at first. -/
theorem admit?_eq (range : AbiRange) (name : String) (language : Language) :
    admit? range name language =
      if range.contains language.abiVersion.toNat then
        if language.nodeKindCount.toNat = 0 then .error .noNodeKinds
        else .ok ⟨name, language, language.abiVersion.toNat, language.nodeKindCount.toNat⟩
      else .error (.incompatibleAbi language.abiVersion.toNat range.min range.max) := by
  unfold admit?
  cases hversion : range.contains language.abiVersion.toNat with
  | false => simp [hversion]
  | true => simp [hversion, AbiRange.runtimeAccepts_of_contains hversion]

/-! ### Failures -/

/-- **Where loading fails.** `LoadFails range h cause` says that the handle gives no language, or
one whose version lies outside of the range, or one inside it that declares no node kinds. -/
inductive LoadFails (range : AbiRange) (h : Handle) : LoadFailure → Prop
  | absent (given : h.language? = none) : LoadFails range h .nullHandle
  | outside {language} (given : h.language? = some language)
      (version : range.contains language.abiVersion.toNat = false) :
      LoadFails range h (.incompatibleAbi language.abiVersion.toNat range.min range.max)
  | noKinds {language} (given : h.language? = some language)
      (version : range.contains language.abiVersion.toNat = true)
      (kinds : language.nodeKindCount.toNat = 0) : LoadFails range h .noNodeKinds

section

variable {range : AbiRange} {h : Handle}

/-- A handle fails to load for one of the three causes. -/
theorem loadCause_eq_error_iff {cause : LoadFailure} :
    loadCause range h = .error cause ↔ LoadFails range h cause := by
  unfold loadCause
  constructor
  · intro hcause
    cases hlanguage : h.language? with
    | none =>
      rw [hlanguage] at hcause
      obtain rfl := Except.error.inj hcause
      exact .absent hlanguage
    | some language =>
      simp only [hlanguage, admit?_eq] at hcause
      split at hcause
      · next hversion =>
        split at hcause
        · next hkinds =>
          obtain rfl := Except.error.inj hcause
          exact .noKinds hlanguage hversion hkinds
        · exact absurd hcause nofun
      · next hversion =>
        obtain rfl := Except.error.inj hcause
        exact .outside hlanguage (by simpa using hversion)
  · intro hfails
    cases hfails with
    | absent given => rw [given]
    | outside given version => simp [given, admit?_eq, version]
    | noKinds given version kinds => simp [given, admit?_eq, version, kinds]

theorem load_eq_error_iff {e : LoadError} :
    load range h = .error e ↔ e.grammar = h.name ∧ LoadFails range h e.cause := by
  rw [← loadCause_eq_error_iff, load, mapError_eq_error_iff]
  obtain ⟨grammar, cause⟩ := e
  constructor
  · rintro ⟨_, hcause, heq⟩
    obtain ⟨rfl, rfl⟩ := LoadError.mk.inj heq
    exact ⟨rfl, hcause⟩
  · rintro ⟨rfl, hcause⟩
    exact ⟨cause, hcause, rfl⟩

/-! ### Success -/

/-- **What loads.** A handle loads exactly if its language has a version of the range and declares
node kinds, and what is loaded is what the language declares, under the name of the handle. -/
theorem load_eq_ok_iff {g : LoadedGrammar} :
    load range h = .ok g ↔
      h.language? = some g.language ∧ g.name = h.name ∧
        g.abiVersion = g.language.abiVersion.toNat ∧ range.contains g.abiVersion = true ∧
        g.nodeKindCount = g.language.nodeKindCount.toNat ∧ 0 < g.nodeKindCount := by
  rw [load, mapError_eq_ok_iff, loadCause]
  constructor
  · intro hload
    cases hlanguage : h.language? with
    | none =>
      rw [hlanguage] at hload
      exact absurd hload nofun
    | some language =>
      simp only [hlanguage, admit?_eq] at hload
      -- of the three outcomes of the admission only one gives a grammar
      split at hload
      · next hversion =>
        split at hload
        · exact absurd hload nofun
        · next hkinds =>
          obtain rfl := Except.ok.inj hload
          exact ⟨rfl, rfl, rfl, hversion, rfl, Nat.pos_of_ne_zero hkinds⟩
      · exact absurd hload nofun
  · rintro ⟨hlanguage, hname, hversion, hrange, hcount, hkinds⟩
    obtain ⟨name, language, version, kinds⟩ := g
    obtain rfl : name = h.name := hname
    obtain rfl : version = language.abiVersion.toNat := hversion
    obtain rfl : kinds = language.nodeKindCount.toNat := hcount
    simp [hlanguage, admit?_eq, hrange, Nat.ne_of_gt hkinds]

/-- What is loaded from a handle is the language behind it. -/
theorem language_of_load {g : LoadedGrammar} (hload : load range h = .ok g) :
    h.language? = some g.language :=
  (load_eq_ok_iff.mp hload).1

end

end GrammarCheck
