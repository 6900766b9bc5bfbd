/-!
# Reading bytes as UTF-8

Byte strings that need not be UTF-8 are shown to the user all the same. `pieces` cuts a byte string
into the characters it encodes and, between them, the broken parts: each broken part is a longest
start of a well-formed sequence, or a single byte that starts none.

* `pieces`: the whole byte string.
* `lossyText`: each broken part shown as one replacement character.
* `decode?`, `encode`: the text that bytes encode, if nothing is broken, and the bytes of a text;
  `decode?_eq_some_iff` says that they undo one another.
-/

namespace GrammarCheck.Text.Utf8

/-- A part of a byte string: a character it encodes, or bytes that encode none. -/
inductive Piece where
  | char (c : Char)
  | broken (bytes : List UInt8)
  deriving Repr, DecidableEq

/-- A character under way. `seen` holds its bytes, the latest first, `value` the bits read so far;
`missing + 1` bytes are still to come, the next of them between `low` and `high`. -/
structure Pending where
  seen : List UInt8
  value : Nat
  missing : Nat
  low : UInt8
  high : UInt8

/-- What a first byte begins: a character of its own, a longer sequence, or nothing. The bounds on
the second byte rule out overlong forms, surrogates and values past the last code point. -/
def start (b : UInt8) : Piece ⊕ Pending :=
  if b < 0x80 then .inl (.char (Char.ofNat b.toNat))
  else if b < 0xc2 then .inl (.broken [b])
  else if b < 0xe0 then .inr ⟨[b], b.toNat - 0xc0, 0, 0x80, 0xbf⟩
  else if b < 0xf0 then
    .inr ⟨[b], b.toNat - 0xe0, 1, if b = 0xe0 then 0xa0 else 0x80, if b = 0xed then 0x9f else 0xbf⟩
  else if b < 0xf5 then
    .inr ⟨[b], b.toNat - 0xf0, 2, if b = 0xf0 then 0x90 else 0x80, if b = 0xf4 then 0x8f else 0xbf⟩
  else .inl (.broken [b])

/-- Hands the outcome of a first byte to the rest of the reading. -/
def begin (b : UInt8) (k : Option Pending → List Piece) : List Piece :=
  match start b with
  | .inl piece => piece :: k none
  | .inr pending => k (some pending)

/-- The pieces of the bytes to come, given the character under way. A byte that cannot continue it
ends it as a broken part and is read again as a first byte. -/
def piecesAfter : Option Pending → List UInt8 → List Piece
  | none, [] => []
  | some p, [] => [.broken p.seen.reverse]
  | none, b :: rest => begin b fun pending => piecesAfter pending rest
  | some p, b :: rest =>
    if p.low ≤ b && b ≤ p.high then
      let value := p.value * 64 + (b.toNat - 0x80)
      match p.missing with
      | 0 => .char (Char.ofNat value) :: piecesAfter none rest
      | missing + 1 => piecesAfter (some ⟨b :: p.seen, value, missing, 0x80, 0xbf⟩) rest
    else .broken p.seen.reverse :: begin b fun pending => piecesAfter pending rest

/-- The pieces of a byte string, in order. -/
def pieces (bytes : List UInt8) : List Piece :=
  piecesAfter none bytes

/-- A piece as a reader sees it: a broken part is one replacement character. -/
def Piece.shown : Piece → Char
  | .char c => c
  | .broken _ => '\uFFFD'

/-- The byte string as text, each broken part replaced. -/
def lossyText (bytes : List UInt8) : String :=
  String.ofList ((pieces bytes).map Piece.shown)

/-- The text that the bytes encode, if they are well-formed UTF-8. -/
def decode? (bytes : List UInt8) : Option String :=
  String.fromUTF8? ⟨bytes.toArray⟩

/-- The bytes of a text in UTF-8. -/
def encode (s : String) : List UInt8 :=
  s.toUTF8.data.toList

/-- Decoding accepts exactly what encoding produces. -/
theorem decode?_eq_some_iff {bytes : List UInt8} {s : String} :
    decode? bytes = some s ↔ bytes = encode s := by
  unfold decode? String.fromUTF8? encode
  constructor
  · intro h
    split at h
    · obtain rfl := Option.some.inj h
      rfl
    · simp at h
  · rintro rfl
    have h : ByteArray.IsValidUTF8 ⟨s.toUTF8.data.toList.toArray⟩ := s.isValidUTF8
    rw [dif_pos h]
    rfl

@[simp] theorem decode?_encode (s : String) : decode? (encode s) = some s :=
  decode?_eq_some_iff.mpr rfl

end GrammarCheck.Text.Utf8
