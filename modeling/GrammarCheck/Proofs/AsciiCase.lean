import GrammarCheck.Proofs.LowerCase

/-!
# Lower case and ASCII

Two texts may be compared under the rule for ASCII, which changes the letters A to Z only, or by
their lower case. The two comparisons with a text in ASCII agree, because lower case leads from
outside of ASCII to outside of ASCII. There is one exception in the tables: the lower case of the
Kelvin sign is the letter `k`. A text without that letter is beyond its reach.

* `exists_mem_lowerChar` — the lower case of a character beyond ASCII shows that it is one.
* `mem_lowerChar_cases`, `mem_of_mem_lower` — lower case brings in no characters of ASCII but small
  letters.
* `lower_eq_iff_toLower_eq` — a text in ASCII without the letter `k` is the lower case of the same
  texts under both rules.
-/

namespace GrammarCheck.Text

/-- The letter that the Kelvin sign becomes in lower case. -/
def kelvinImage : Char := 'k'

/-- Lower case may lead to the character from beyond ASCII: it lies beyond ASCII itself, or it is
what the Kelvin sign becomes. -/
def FromBeyond (c : Char) : Prop :=
  128 ≤ c.toNat ∨ c = kelvinImage

instance (c : Char) : Decidable (FromBeyond c) :=
  inferInstanceAs (Decidable (_ ∨ _))

/-! ### The tables -/

/-- Every run leads beyond ASCII, but for the Kelvin sign. -/
private theorem target_fromBeyond :
    ∀ r ∈ lowerRanges, 128 ≤ r.target ∨ (r.first = r.last ∧ r.target = kelvinImage.toNat) := by
  decide +kernel

/-- Every expansion leads beyond ASCII with one of its characters. -/
private theorem lowerExpansions_fromBeyond :
    ∀ e ∈ lowerExpansions, ∃ n ∈ e.2, 128 ≤ (Char.ofNat n).toNat := by
  decide

/-- What an expansion leads to lies beyond ASCII or is a small letter. -/
private theorem lowerExpansions_cases :
    ∀ e ∈ lowerExpansions, ∀ n ∈ e.2,
      128 ≤ (Char.ofNat n).toNat ∨ (Char.ofNat n).isLower = true := by
  decide

private theorem image_fromBeyond {r : CaseRange} (hr : r ∈ lowerRanges) {n : Nat}
    (hcovers : r.covers n = true) : FromBeyond (Char.ofNat (r.image n)) := by
  rcases target_fromBeyond r hr with htarget | ⟨hpoint, htarget⟩
  · refine Or.inl ?_
    rw [toNat_image hr hcovers]
    exact Nat.le_trans htarget (Nat.le_add_right _ _)
  · -- the run holds the Kelvin sign alone
    refine Or.inr ?_
    simp only [CaseRange.covers, Bool.and_eq_true, decide_eq_true_iff] at hcovers
    have himage : r.image n = kelvinImage.toNat := by
      unfold CaseRange.image
      omega
    rw [himage, Char.ofNat_toNat]

/-! ### Characters -/

/-- The lower case of a character beyond ASCII shows that it is one. -/
theorem exists_mem_lowerChar {c : Char} (hc : 128 ≤ c.toNat) : ∃ d ∈ lowerChar c, FromBeyond d := by
  rcases lowerChar_cases c with ⟨hascii, -⟩ | ⟨ns, hmem, hchar⟩ | ⟨r, hr, hcovers, hchar⟩ | hchar
  · exact absurd hc (Nat.not_le.mpr hascii)
  · obtain ⟨n, hn, hbeyond⟩ := lowerExpansions_fromBeyond _ hmem
    rw [hchar]
    exact ⟨_, List.mem_map_of_mem hn, Or.inl hbeyond⟩
  · rw [hchar]
    exact ⟨_, List.mem_singleton_self _, image_fromBeyond hr hcovers⟩
  · -- neither table lists the character
    rw [hchar]
    exact ⟨c, List.mem_singleton_self c, Or.inl hc⟩

/-- In ASCII the rule changes a letter into a small one, and nothing else. -/
private theorem toLower_cases :
    ∀ n < 128, (Char.ofNat n).toLower = Char.ofNat n ∨ (Char.ofNat n).toLower.isLower = true := by
  decide

/-- **What lower case brings in.** Of the characters of ASCII, only small letters come out of other
characters. -/
theorem mem_lowerChar_cases {c d : Char} (h : d ∈ lowerChar c) :
    d = c ∨ 128 ≤ d.toNat ∨ d.isLower = true := by
  rcases lowerChar_cases c with
    ⟨hascii, hchar⟩ | ⟨ns, hmem, hchar⟩ | ⟨r, hr, hcovers, hchar⟩ | hchar
  · rw [hchar] at h
    obtain rfl := List.mem_singleton.mp h
    have hcases := of_ascii (P := fun c => c.toLower = c ∨ c.toLower.isLower = true)
      toLower_cases hascii
    exact hcases.imp id Or.inr
  · rw [hchar] at h
    obtain ⟨n, hn, rfl⟩ := List.mem_map.mp h
    exact Or.inr (lowerExpansions_cases _ hmem n hn)
  · rw [hchar] at h
    obtain rfl := List.mem_singleton.mp h
    -- the one run that leads into ASCII leads to a small letter
    rcases image_fromBeyond hr hcovers with hbeyond | hkelvin
    · exact Or.inr (Or.inl hbeyond)
    · exact Or.inr (Or.inr (by rw [hkelvin]; rfl))
  · rw [hchar] at h
    exact Or.inl (List.mem_singleton.mp h)

/-! ### Texts -/

theorem toList_toLower (s : String) : s.toLower.toList = s.toList.map Char.toLower :=
  String.toList_map

/-- The rule for ASCII leaves the characters beyond ASCII in a text. -/
theorem mem_toLower_of_beyond {s : String} {c : Char} (hmem : c ∈ s.toList) (hc : 128 ≤ c.toNat) :
    c ∈ s.toLower.toList := by
  have hlower : c.toLower = c := toLower_eq_self (Nat.lt_of_lt_of_le (by decide) hc)
  rw [toList_toLower]
  exact List.mem_map.mpr ⟨c, hmem, hlower⟩

/-- In ASCII there is no sigma, and the two rules agree character by character. -/
theorem lowerAfter_eq_map_toLower {before cs : List Char} (h : ∀ c ∈ cs, c.toNat < 128) :
    lowerAfter before cs = cs.map Char.toLower := by
  induction cs generalizing before with
  | nil => rfl
  | cons c cs ih =>
    have hc : c.toNat < 128 := h c (List.mem_cons_self ..)
    have hsigma : c ≠ capitalSigma := by
      rintro rfl
      exact absurd hc (by decide)
    rw [lowerAfter, if_neg hsigma, lowerChar, if_pos hc,
      ih fun d hd => h d (List.mem_cons_of_mem c hd)]
    rfl

/-- What a character beyond ASCII leaves in the lower case of a text. -/
theorem exists_mem_lowerAfter (before : List Char) {cs : List Char} {c : Char} (hmem : c ∈ cs)
    (hc : 128 ≤ c.toNat) : ∃ d ∈ lowerAfter before cs, FromBeyond d := by
  induction cs generalizing before with
  | nil => exact absurd hmem List.not_mem_nil
  | cons b cs ih =>
    rw [lowerAfter]
    rcases List.mem_cons.mp hmem with rfl | hmem
    · -- the character at the head, which may be a capital sigma
      split
      · refine ⟨_, List.mem_append_left _ (List.mem_singleton_self _), Or.inl ?_⟩
        split <;> decide
      · obtain ⟨d, hd, hbeyond⟩ := exists_mem_lowerChar hc
        exact ⟨d, List.mem_append_left _ hd, hbeyond⟩
    · obtain ⟨d, hd, hbeyond⟩ := ih (b :: before) hmem
      exact ⟨d, List.mem_append_right _ hd, hbeyond⟩

theorem mem_lowerAfter_cases {before cs : List Char} {d : Char} (h : d ∈ lowerAfter before cs) :
    d ∈ cs ∨ 128 ≤ d.toNat ∨ d.isLower = true := by
  induction cs generalizing before with
  | nil => exact absurd h List.not_mem_nil
  | cons c cs ih =>
    rw [lowerAfter] at h
    rcases List.mem_append.mp h with h | h
    · split at h
      · -- a capital sigma leaves a small one, which lies beyond ASCII too
        refine Or.inr (Or.inl ?_)
        rw [List.mem_singleton.mp h]
        split <;> decide
      · rcases mem_lowerChar_cases h with rfl | hbrought
        · exact Or.inl (List.mem_cons_self ..)
        · exact Or.inr hbrought
    · exact (ih h).imp (List.mem_cons_of_mem c) id

/-- A character of ASCII that is no small letter is in the lower case of a text only if it is in the
text. -/
theorem mem_of_mem_lower {s : String} {d : Char} (h : d ∈ (lower s).toList) (hascii : d.toNat < 128)
    (hlower : d.isLower = false) : d ∈ s.toList := by
  rw [lower, String.toList_ofList] at h
  rcases mem_lowerAfter_cases h with hmem | hbeyond | hletter
  · exact hmem
  · exact absurd hascii (Nat.not_lt.mpr hbeyond)
  · exact absurd hletter (by rw [hlower]; exact Bool.false_ne_true)

/-- **Two rules for case.** A text in ASCII without the letter `k` is the lower case of a text
exactly when it is so under the rule for ASCII. -/
theorem lower_eq_iff_toLower_eq {s t : String} (ht : ∀ c ∈ t.toList, ¬ FromBeyond c) :
    lower s = t ↔ s.toLower = t := by
  by_cases hs : ∃ c ∈ s.toList, 128 ≤ c.toNat
  · -- neither rule makes a text in ASCII from one with a character beyond it
    obtain ⟨c, hmem, hc⟩ := hs
    refine iff_of_false ?_ ?_
    · rintro rfl
      obtain ⟨d, hd, hbeyond⟩ := exists_mem_lowerAfter [] hmem hc
      exact ht d (by rwa [lower, String.toList_ofList]) hbeyond
    · rintro rfl
      exact ht c (mem_toLower_of_beyond hmem hc) (Or.inl hc)
  · rw [← String.toList_inj, ← String.toList_inj, lower, String.toList_ofList, toList_toLower,
      lowerAfter_eq_map_toLower fun c hmem => Nat.lt_of_not_le fun hc => hs ⟨c, hmem, hc⟩]

end GrammarCheck.Text
