import GrammarCheck.Text.Case

/-!
# Lower case is a normal form

A text in lower case is its own lower case. What makes this true is a fact about the tables: no code
point that they lead to is one that they change again. The final sigma is no obstacle, since only a
capital sigma is looked at in its surroundings, and lower case leaves none.

* `mask` — a list of code points as the bits of one number, so that two tables can be compared at
  once.
* `lowerChar_cases` — where the lower case of a character comes from.
* `Settled` — the characters that are their own lower case.
* `settled_of_mem_lowerChar` — lower case makes settled characters only.
* `lower_lower` — the lower case of a text is its own lower case.
-/

namespace GrammarCheck.Text

/-! ### Code points as bits -/

/-- A list of code points as a number that has a bit for each of them. -/
def mask (ns : List Nat) : Nat :=
  ns.foldr (fun n bits => 1 <<< n ||| bits) 0

@[simp] theorem testBit_mask {ns : List Nat} {n : Nat} : (mask ns).testBit n = true ↔ n ∈ ns := by
  induction ns with
  | nil => simp [mask]
  | cons m ns ih =>
    change (1 <<< m ||| mask ns).testBit n = true ↔ n ∈ m :: ns
    rw [Nat.testBit_or, Bool.or_eq_true, ih, Nat.one_shiftLeft, Nat.testBit_two_pow,
      decide_eq_true_iff, List.mem_cons, eq_comm]

/-- Lists without a common bit have no common member. -/
theorem notMem_of_mask_and_mask {ns ms : List Nat} (h : mask ns &&& mask ms = 0) {n : Nat}
    (hn : n ∈ ns) : n ∉ ms := by
  intro hm
  -- a common member would leave a bit in the conjunction
  have hbit : (mask ns &&& mask ms).testBit n = true := by
    rw [Nat.testBit_and, testBit_mask.mpr hn, testBit_mask.mpr hm]
    rfl
  rw [h, Nat.zero_testBit] at hbit
  exact absurd hbit (by decide)

/-! ### The tables -/

/-- The code points that a run maps. -/
def CaseRange.points (r : CaseRange) : List Nat :=
  ((List.range (r.last - r.first + 1)).map (r.first + ·)).filter r.covers

theorem CaseRange.mem_points {r : CaseRange} {n : Nat} : n ∈ r.points ↔ r.covers n = true := by
  rw [points, List.mem_filter, List.mem_map, and_iff_right_iff_imp]
  intro hcovers
  simp only [covers, Bool.and_eq_true, decide_eq_true_iff] at hcovers
  refine ⟨n - r.first, ?_, ?_⟩
  · rw [List.mem_range]
    omega
  · omega

/-- The code points beyond ASCII that lower case changes. -/
def lowerDomain : List Nat :=
  lowerExpansions.map Prod.fst ++ lowerRanges.flatMap CaseRange.points

/-- The code points that the runs of the lower case lead to. -/
def lowerImages : List Nat :=
  lowerRanges.flatMap fun r => r.points.map r.image

/-- No run leads to a code point that lower case changes again. -/
private theorem mask_lowerImages_and_lowerDomain : mask lowerImages &&& mask lowerDomain = 0 := by
  decide +kernel

/-- Every run leads to scalar values above the capital letters of ASCII, on one side of the
surrogates. -/
private theorem target_bounds : ∀ r ∈ lowerRanges, 'Z'.toNat < r.target ∧
    (r.target + (r.last - r.first) < 0xd800 ∨
      0xdfff < r.target ∧ r.target + (r.last - r.first) < 0x110000) := by
  decide +kernel

/-- What a run leads to is a character. -/
theorem toNat_image {r : CaseRange} (hr : r ∈ lowerRanges) {n : Nat}
    (hcovers : r.covers n = true) : (Char.ofNat (r.image n)).toNat = r.image n := by
  obtain ⟨-, hbounds⟩ := target_bounds r hr
  simp only [CaseRange.covers, Bool.and_eq_true, decide_eq_true_iff] at hcovers
  have hvalid : (r.image n).isValidChar := by
    unfold CaseRange.image Nat.isValidChar
    omega
  rw [Char.ofNat, dif_pos hvalid]
  rfl

/-- **Where a lower case comes from.** It is what the rule for ASCII makes of a character, what an
expansion or a run leads to, or the character itself. -/
theorem lowerChar_cases (c : Char) :
    (c.toNat < 128 ∧ lowerChar c = [c.toLower]) ∨
    (∃ ns, (c.toNat, ns) ∈ lowerExpansions ∧ lowerChar c = ns.map Char.ofNat) ∨
    (∃ r ∈ lowerRanges, r.covers c.toNat = true ∧ lowerChar c = [Char.ofNat (r.image c.toNat)]) ∨
    lowerChar c = [c] := by
  unfold lowerChar mapWith
  split
  next hascii => exact Or.inl ⟨hascii, rfl⟩
  next =>
    refine Or.inr ?_
    split
    next ns hlookup =>
      -- what a look-up finds is listed
      obtain ⟨before, after, htable, -⟩ := List.lookup_eq_some_iff.mp hlookup
      refine Or.inl ⟨ns, ?_, rfl⟩
      rw [htable]
      exact List.mem_append_right _ (List.mem_cons_self ..)
    next =>
      refine Or.inr ?_
      split
      next r hfind =>
        have hcovers : r.covers c.toNat = true := by
          simpa using List.find?_some hfind
        exact Or.inl ⟨r, List.mem_of_find?_eq_some hfind, hcovers, rfl⟩
      next => exact Or.inr rfl

/-! ### Characters of ASCII -/

/-- What holds of all code points of ASCII holds of its characters. There are few of them, so it can
be checked one by one. -/
theorem of_ascii {P : Char → Prop} (h : ∀ n < 128, P (Char.ofNat n)) {c : Char}
    (hc : c.toNat < 128) : P c := by
  have hpoint := h c.toNat hc
  rwa [Char.ofNat_toNat] at hpoint

/-! ### Settled characters -/

/-- The character is its own lower case. -/
def Settled (c : Char) : Prop :=
  lowerChar c = [c]

instance (c : Char) : Decidable (Settled c) :=
  inferInstanceAs (Decidable (lowerChar c = [c]))

/-- What the rule for ASCII makes of a character is settled. -/
private theorem settled_toLower : ∀ n < 128, Settled (Char.ofNat n).toLower := by
  decide

private theorem settled_of_mem_lowerExpansions :
    ∀ e ∈ lowerExpansions, ∀ n ∈ e.2, Settled (Char.ofNat n) := by
  decide

/-- The rule for ASCII leaves alone what stands above the capital letters. -/
theorem toLower_eq_self {c : Char} (hlt : 'Z'.toNat < c.toNat) : c.toLower = c := by
  refine dif_neg ?_
  rintro ⟨-, hle⟩
  exact absurd (UInt32.le_iff_toNat_le.mp hle) (Nat.not_le.mpr hlt)

/-- A character above the capital letters of ASCII is settled if no table changes it. -/
private theorem settled_of_notMem {c : Char} (hlt : 'Z'.toNat < c.toNat)
    (hdomain : c.toNat ∉ lowerDomain) : Settled c := by
  unfold Settled lowerChar
  split
  · rw [toLower_eq_self hlt]
  · -- both searches fail, since the tables list no code point outside of the domain
    rw [lowerDomain, List.mem_append, not_or] at hdomain
    have hlookup : lowerExpansions.lookup c.toNat = none := by
      rw [List.lookup_eq_none_iff]
      intro e he
      rw [bne_iff_ne]
      intro heq
      exact hdomain.1 (List.mem_map.mpr ⟨e, he, heq.symm⟩)
    have hfind : lowerRanges.find? (·.covers c.toNat) = none := by
      rw [List.find?_eq_none]
      intro r hr hcovers
      exact hdomain.2 (List.mem_flatMap.mpr ⟨r, hr, CaseRange.mem_points.mpr hcovers⟩)
    rw [mapWith, hlookup, hfind]

/-- **Lower case settles characters.** What it makes of a character is its own lower case. -/
theorem settled_of_mem_lowerChar {c d : Char} (h : d ∈ lowerChar c) : Settled d := by
  rcases lowerChar_cases c with
    ⟨hascii, hchar⟩ | ⟨ns, hmem, hchar⟩ | ⟨r, hr, hcovers, hchar⟩ | hchar
  · -- there are only so many characters in ASCII
    rw [hchar, List.mem_singleton] at h
    rw [h]
    exact of_ascii (P := fun c => Settled c.toLower) settled_toLower hascii
  · -- an expansion, of which there are few
    rw [hchar] at h
    obtain ⟨n, hn, rfl⟩ := List.mem_map.mp h
    exact settled_of_mem_lowerExpansions _ hmem n hn
  · -- a run, and no run leads back into the domain
    rw [hchar] at h
    obtain rfl := List.mem_singleton.mp h
    refine settled_of_notMem ?_ ?_
    · rw [toNat_image hr hcovers]
      exact Nat.lt_add_right _ (target_bounds r hr).1
    · rw [toNat_image hr hcovers]
      refine notMem_of_mask_and_mask mask_lowerImages_and_lowerDomain ?_
      exact List.mem_flatMap.mpr ⟨r, hr,
        List.mem_map.mpr ⟨_, CaseRange.mem_points.mpr hcovers, rfl⟩⟩
  · -- neither table lists the character
    rw [hchar] at h
    obtain rfl := List.mem_singleton.mp h
    exact hchar

/-! ### Settled texts -/

/-- No capital sigma is settled, so a settled text is taken character by character. -/
theorem Settled.ne_capitalSigma {c : Char} (h : Settled c) : c ≠ capitalSigma := by
  rintro rfl
  exact absurd h (by decide)

/-- A settled text is its own lower case, whatever stands before it. -/
theorem lowerAfter_eq_self {before cs : List Char} (h : ∀ c ∈ cs, Settled c) :
    lowerAfter before cs = cs := by
  induction cs generalizing before with
  | nil => rfl
  | cons c cs ih =>
    have hc : Settled c := h c (List.mem_cons_self ..)
    rw [lowerAfter, if_neg hc.ne_capitalSigma, hc, ih fun d hd => h d (List.mem_cons_of_mem c hd)]
    rfl

/-- Lower case makes settled texts. -/
theorem settled_of_mem_lowerAfter {before cs : List Char} {d : Char}
    (h : d ∈ lowerAfter before cs) : Settled d := by
  induction cs generalizing before with
  | nil => exact absurd h (by simp [lowerAfter])
  | cons c cs ih =>
    rw [lowerAfter, List.mem_append] at h
    rcases h with hd | hd
    · split at hd
      · -- a capital sigma becomes one of the two small ones
        rw [List.mem_singleton] at hd
        rw [hd]
        split <;> decide
      · exact settled_of_mem_lowerChar hd
    · exact ih hd

/-- **Lower case is a normal form.** -/
@[simp] theorem lower_lower (s : String) : lower (lower s) = lower s := by
  rw [lower, lower, String.toList_ofList]
  rw [lowerAfter_eq_self fun c hc => settled_of_mem_lowerAfter hc]

end GrammarCheck.Text
