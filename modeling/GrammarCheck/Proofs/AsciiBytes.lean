import GrammarCheck.Text.Utf8
import Mathlib.Data.List.Basic

/-!
# The bytes of a text in ASCII

A character in ASCII is a single byte, its code point. So the bytes of a text in ASCII say the same
as its characters do, and they are in the same order.

* `Text.Utf8.encode_of_ascii` — the bytes of a text in ASCII are those of its characters.
* `Text.Utf8.encode_lt_encode` — texts in ASCII that are in order have bytes that are in order.
-/

namespace GrammarCheck.Text

/-- The characters of the text are in ASCII. -/
def IsAscii (s : String) : Prop :=
  ∀ c ∈ s.toList, c.toNat < 128

-- only the characters of the text are looked at, not all that there are
instance (s : String) : Decidable (IsAscii s) :=
  List.decidableBAll (fun c : Char => c.toNat < 128) s.toList

theorem IsAscii.append {s t : String} (hs : IsAscii s) (ht : IsAscii t) : IsAscii (s ++ t) := by
  intro c hc
  rw [String.toList_append] at hc
  exact (List.mem_append.mp hc).elim (hs c) (ht c)

namespace Utf8

/-- The byte of a character in ASCII is its code point. -/
theorem toNat_toUInt8 {c : Char} (hc : c.toNat < 128) : c.toUInt8.toNat = c.toNat := by
  have hmod : c.toUInt8.toNat = c.toNat % 2 ^ 8 := UInt32.toNat_toUInt8 c.val
  omega

/-- The bytes of a text are those of its characters, one after the other. -/
theorem encode_eq_flatMap (s : String) : encode s = s.toList.flatMap String.utf8EncodeChar := by
  have hbytes : (String.ofList s.toList).toByteArray = s.toList.utf8Encode :=
    String.toByteArray_ofList
  rw [String.ofList_toList] at hbytes
  rw [encode, String.toUTF8, hbytes, List.utf8Encode]
  simp

theorem utf8EncodeChar_of_ascii {c : Char} (hc : c.toNat < 128) :
    String.utf8EncodeChar c = [c.toUInt8] := by
  have hsize : c.utf8Size = 1 := by
    refine Char.utf8Size_eq_one_iff.mpr (UInt32.le_iff_toNat_le.mpr ?_)
    exact Nat.le_of_lt_succ hc
  rw [String.utf8EncodeChar_eq_singleton hsize]
  rfl

/-- **Bytes in ASCII.** A text in ASCII has one byte for each character. -/
theorem encode_of_ascii {s : String} (hs : IsAscii s) : encode s = s.toList.map Char.toUInt8 := by
  rw [encode_eq_flatMap, List.map_eq_flatMap]
  refine List.flatMap_congr fun c hc => ?_
  exact utf8EncodeChar_of_ascii (hs c hc)

/-- No byte of a text in ASCII stands beyond it. -/
theorem toNat_lt_of_mem_encode {s : String} (hs : IsAscii s) {b : UInt8} (hb : b ∈ encode s) :
    b.toNat < 128 := by
  rw [encode_of_ascii hs] at hb
  obtain ⟨c, hc, rfl⟩ := List.mem_map.mp hb
  rw [toNat_toUInt8 (hs c hc)]
  exact hs c hc

/-- A byte of a text in ASCII is that of one of its characters. -/
theorem toUInt8_mem_encode_iff {s : String} (hs : IsAscii s) {c : Char} (hc : c.toNat < 128) :
    c.toUInt8 ∈ encode s ↔ c ∈ s.toList := by
  rw [encode_of_ascii hs, List.mem_map]
  constructor
  · rintro ⟨d, hd, hbyte⟩
    -- the code point is read off the byte
    have hpoint : d.toNat = c.toNat := by
      rw [← toNat_toUInt8 (hs d hd), hbyte, toNat_toUInt8 hc]
    obtain rfl : d = c := Char.toNat_inj.mp hpoint
    exact hd
  · exact fun hmem => ⟨c, hmem, rfl⟩

/-! ### Order -/

/-- A map that keeps the order of the members of two lists keeps the order of the lists. -/
private theorem map_lt_map {α β : Type} [LT α] [LT β] {f : α → β} {l l' : List α}
    (hf : ∀ a ∈ l, ∀ b ∈ l', a < b → f a < f b) (h : l < l') : l.map f < l'.map f := by
  induction h with
  | nil => exact .nil
  | cons _ ih =>
    exact .cons (ih fun a ha b hb => hf a (List.mem_cons_of_mem _ ha) b (List.mem_cons_of_mem _ hb))
  | rel hab => exact .rel (hf _ (List.mem_cons_self ..) _ (List.mem_cons_self ..) hab)

/-- **The order of bytes** is that of the characters, as long as they are in ASCII. -/
theorem encode_lt_encode {s t : String} (hs : IsAscii s) (ht : IsAscii t) (h : s < t) :
    encode s < encode t := by
  rw [encode_of_ascii hs, encode_of_ascii ht]
  refine map_lt_map (fun c hc d hd hlt => ?_) (String.lt_iff.mp h)
  rw [UInt8.lt_iff_toNat_lt, toNat_toUInt8 (hs c hc), toNat_toUInt8 (ht d hd)]
  exact UInt32.lt_iff_toNat_lt.mp hlt

end Utf8

end GrammarCheck.Text
