import GrammarCheck.Digest.Sha256
import GrammarCheck.Text.Numeral

/-!
# Fingerprints

A short name for the content of a file: the hash function, and the first sixteen digits of the
digest in base sixteen.

* `fingerprint`: the fingerprint of a byte string.
-/

namespace GrammarCheck.Digest

/-- How many digits of the digest a fingerprint shows. -/
def fingerprintDigits : Nat := 16

/-- The fingerprint of a content. -/
def fingerprint (content : List UInt8) : String :=
  let digits := (Sha256.digest content).flatMap (Text.twoHexDigits Text.smallHexDigit)
  "sha256:" ++ String.ofList (digits.take fingerprintDigits)

end GrammarCheck.Digest
