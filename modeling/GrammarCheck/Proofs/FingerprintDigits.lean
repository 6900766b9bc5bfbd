import GrammarCheck.Digest.Fingerprint
import GrammarCheck.Proofs.AsciiBytes
import Mathlib.Logic.Function.Defs

/-!
# The digits of a fingerprint

A fingerprint is cut from the digest in base sixteen, at a number of digits. Every byte is written
with two digits, also one that a single digit would do for. So the cut falls between two bytes, and
what is left of it is the beginning of the digest in base sixteen, which can be told from any other.

* `Text.twoHexDigits_inj` — two digits tell a byte, if each digit tells its value.
* `take_flatMap_of_width`, `flatMap_inj_of_width` — texts that are put together from blocks of one
  width.
* `hexText` — a byte string in base sixteen.
* `fingerprint_eq` — a fingerprint shows the first eight bytes of the digest.
* `fingerprint_shows_digest` — how it does so, and that nothing of these bytes is lost.
-/

namespace GrammarCheck

/-! ### Digits of a byte -/

namespace Text

/-- Every byte has two digits, whatever its value. -/
@[simp] theorem length_twoHexDigits (digit : Nat → Char) (b : UInt8) :
    (twoHexDigits digit b).length = 2 :=
  rfl

/-- A byte is told by its two digits, as long as no digit stands for two values. -/
theorem twoHexDigits_inj {digit : Nat → Char}
    (hdigit : ∀ m < 16, ∀ n < 16, digit m = digit n → m = n) {b c : UInt8}
    (h : twoHexDigits digit b = twoHexDigits digit c) : b = c := by
  have hb : b.toNat < 256 := b.toNat_lt
  have hc : c.toNat < 256 := c.toNat_lt
  obtain ⟨hfirst, hrest⟩ := List.cons.inj h
  obtain ⟨hsecond, -⟩ := List.cons.inj hrest
  -- the digits show the quotient and the remainder, which make up the value
  have hhigh : b.toNat / 16 = c.toNat / 16 := hdigit _ (by omega) _ (by omega) hfirst
  have hlow : b.toNat % 16 = c.toNat % 16 := hdigit _ (by omega) _ (by omega) hsecond
  rw [← UInt8.toNat_inj]
  omega

/-- No small digit stands for two values. -/
theorem smallHexDigit_inj : ∀ m < 16, ∀ n < 16, smallHexDigit m = smallHexDigit n → m = n := by
  decide

/-- One of the sixteen small digits. -/
def IsSmallHexDigit (c : Char) : Prop :=
  '0' ≤ c ∧ c ≤ '9' ∨ 'a' ≤ c ∧ c ≤ 'f'

instance (c : Char) : Decidable (IsSmallHexDigit c) :=
  inferInstanceAs (Decidable (_ ∨ _))

theorem isSmallHexDigit_smallHexDigit : ∀ n < 16, IsSmallHexDigit (smallHexDigit n) := by
  decide

theorem IsSmallHexDigit.toNat_lt {c : Char} (h : IsSmallHexDigit c) : c.toNat < 128 := by
  rcases h with ⟨-, hle⟩ | ⟨-, hle⟩
  · exact Nat.lt_of_le_of_lt (UInt32.le_iff_toNat_le.mp hle) (by decide)
  · exact Nat.lt_of_le_of_lt (UInt32.le_iff_toNat_le.mp hle) (by decide)

end Text

/-! ### Blocks of one width -/

section Blocks

variable {α β : Type} {f : α → List β} {width : Nat} (hwidth : ∀ a, (f a).length = width)

include hwidth

theorem length_flatMap_of_width (l : List α) : (l.flatMap f).length = l.length * width := by
  rw [List.length_flatMap, List.map_congr_left fun a _ => hwidth a, List.map_const',
    List.sum_replicate_nat]

/-- A cut after a number of blocks leaves those blocks. -/
theorem take_flatMap_of_width (l : List α) (n : Nat) :
    (l.flatMap f).take (n * width) = (l.take n).flatMap f := by
  induction l generalizing n with
  | nil => simp
  | cons a l ih =>
    cases n with
    | zero => simp
    | succ n =>
      -- the first block is left as a whole, and the cut goes on behind it
      have hpast : (n + 1) * width = (f a).length + n * width := by
        rw [hwidth, Nat.succ_mul, Nat.add_comm]
      rw [List.flatMap_cons, hpast, List.take_length_add_append, ih, List.take_succ_cons,
        List.flatMap_cons]

/-- The blocks can be told if each of them can. -/
theorem flatMap_inj_of_width (hpos : 0 < width) (hf : Function.Injective f) {l l' : List α}
    (h : l.flatMap f = l'.flatMap f) : l = l' := by
  -- a list of blocks that is not empty begins with something
  have hne : ∀ a l, ([] : List β) ≠ (a :: l).flatMap f := by
    intro a l hnil
    have hlength := congrArg List.length hnil
    rw [length_flatMap_of_width hwidth, List.length_nil, List.length_cons] at hlength
    exact absurd hlength (Nat.ne_of_lt (Nat.mul_pos (Nat.succ_pos _) hpos))
  induction l generalizing l' with
  | nil =>
    cases l' with
    | nil => rfl
    | cons b l' => exact absurd h (hne b l')
  | cons a l ih =>
    cases l' with
    | nil => exact absurd h.symm (hne a l)
    | cons b l' =>
      obtain ⟨hblock, hrest⟩ := List.append_inj h ((hwidth a).trans (hwidth b).symm)
      rw [hf hblock, ih hrest]

end Blocks

/-! ### Byte strings in base sixteen -/

namespace Digest

/-- A byte string in base sixteen, with two small digits for each byte. -/
def hexText (bytes : List UInt8) : String :=
  String.ofList (bytes.flatMap (Text.twoHexDigits Text.smallHexDigit))

theorem toList_hexText (bytes : List UInt8) :
    (hexText bytes).toList = bytes.flatMap (Text.twoHexDigits Text.smallHexDigit) :=
  String.toList_ofList

@[simp] theorem length_hexText (bytes : List UInt8) :
    (hexText bytes).length = bytes.length * 2 := by
  rw [← String.length_toList, toList_hexText, length_flatMap_of_width (Text.length_twoHexDigits _)]

theorem isSmallHexDigit_of_mem_hexText {bytes : List UInt8} :
    ∀ c ∈ (hexText bytes).toList, Text.IsSmallHexDigit c := by
  intro c hc
  rw [toList_hexText] at hc
  obtain ⟨b, -, hmem⟩ := List.mem_flatMap.mp hc
  have hb : b.toNat < 256 := b.toNat_lt
  rcases List.mem_pair.mp hmem with rfl | rfl
  · exact Text.isSmallHexDigit_smallHexDigit _ (by omega)
  · exact Text.isSmallHexDigit_smallHexDigit _ (by omega)

theorem isAscii_hexText (bytes : List UInt8) : Text.IsAscii (hexText bytes) :=
  fun c hc => (isSmallHexDigit_of_mem_hexText c hc).toNat_lt

/-- Text in base sixteen tells the bytes, since each of them has a place of its own in it. -/
theorem hexText_inj {bytes bytes' : List UInt8} :
    hexText bytes = hexText bytes' ↔ bytes = bytes' := by
  refine ⟨fun h => ?_, congrArg hexText⟩
  rw [← String.toList_inj, toList_hexText, toList_hexText] at h
  exact flatMap_inj_of_width (Text.length_twoHexDigits _) Nat.two_pos
    (fun _ _ => Text.twoHexDigits_inj Text.smallHexDigit_inj) h

/-- The digits are bytes themselves, so the text may be cut by bytes as well as by digits. -/
theorem encode_hexText_take (bytes : List UInt8) (n : Nat) :
    Text.Utf8.encode (hexText (bytes.take n)) =
      (Text.Utf8.encode (hexText bytes)).take (n * 2) := by
  rw [Text.Utf8.encode_of_ascii (isAscii_hexText _), Text.Utf8.encode_of_ascii (isAscii_hexText _),
    ← List.map_take, toList_hexText, toList_hexText,
    take_flatMap_of_width (Text.length_twoHexDigits _)]

/-! ### Fingerprints -/

/-- A digest consists of eight words of four bytes. -/
@[simp] theorem Sha256.length_digest (message : List UInt8) : (Sha256.digest message).length = 32 :=
  rfl

/-- **What a fingerprint shows.** It shows the first eight bytes of the digest. -/
theorem fingerprint_eq (content : List UInt8) :
    fingerprint content = "sha256:" ++ hexText ((Sha256.digest content).take 8) := by
  -- a cut after sixteen digits is one after eight bytes
  rw [hexText, ← take_flatMap_of_width (Text.length_twoHexDigits _)]
  rfl

/-- **A cut from a digest.** The digits are the first sixteen bytes of the digest in base sixteen,
which has so many, and there are sixteen of them. -/
structure CutFrom (digest : List UInt8) (digits : String) : Prop where
  in_range : 16 ≤ (Text.Utf8.encode (hexText digest)).length
  encode_eq : Text.Utf8.encode digits = (Text.Utf8.encode (hexText digest)).take 16
  length_eq : digits.length = 16
  isSmallHexDigit : ∀ c ∈ digits.toList, Text.IsSmallHexDigit c

/-- A digest that is long enough is cut after its first eight bytes. -/
theorem cutFrom_take {digest : List UInt8} (h : 8 ≤ digest.length) :
    CutFrom digest (hexText (digest.take 8)) where
  in_range := by
    rw [Text.Utf8.encode_of_ascii (isAscii_hexText _), List.length_map, String.length_toList,
      length_hexText]
    omega
  encode_eq := encode_hexText_take digest 8
  length_eq := by rw [length_hexText, List.length_take_of_le h]
  isSmallHexDigit := isSmallHexDigit_of_mem_hexText

/-- **Fingerprints show digests.** A digest has thirty-two bytes, and the fingerprint of a content
shows sixteen small digits that are cut from it. The cut loses nothing of the bytes that it shows:
contents have the same fingerprint exactly if their digests begin with the same eight bytes. -/
theorem fingerprint_shows_digest :
    (∀ content : List UInt8, (Sha256.digest content).length = 32 ∧
      ∃ digits, fingerprint content = "sha256:" ++ digits ∧
        CutFrom (Sha256.digest content) digits) ∧
    (∀ a b : List UInt8, fingerprint a = fingerprint b ↔
      (Sha256.digest a).take 8 = (Sha256.digest b).take 8) := by
  constructor
  · intro content
    have hlength := Sha256.length_digest content
    exact ⟨hlength, _, fingerprint_eq content, cutFrom_take (by omega)⟩
  · intro a b
    -- the fixed start cancels, and text in base sixteen tells the bytes
    rw [fingerprint_eq, fingerprint_eq, String.append_right_inj, hexText_inj]

/-- The sixth byte of this digest is below sixteen, and is shown with two digits all the same. -/
example : fingerprint [0x61, 0x62, 0x63] = "sha256:ba7816bf8f01cfea" := by
  decide +kernel

end Digest

end GrammarCheck
