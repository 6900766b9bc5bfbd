import GrammarCheck.Pattern.Form
import GrammarCheck.Pattern.Meaning
import GrammarCheck.Pattern.Room

/-!
# Patterns

A pattern describes texts. It is read, its options are decided, and the room for it is measured
before anything is matched.

* `Matcher.ofText`: the matcher of a pattern, or the complaint about it.
-/

namespace GrammarCheck.Pattern

/-- The complaint about a pattern that takes more room than there is. -/
def tooLarge : String :=
  "Compiled regex exceeds size limit of " ++ Text.decimal roomLimit ++ " bytes."

/-- The matcher of a pattern, or the complaint about it. -/
def Matcher.ofText (pattern : String) : Except String Matcher :=
  let read := do
    let e ← Expression.ofPattern pattern.toList
    e.matcher
  match read with
  | .ok m => if m.fits then .ok m else .error tooLarge
  | .error p => .error (p.report pattern.toList)

end GrammarCheck.Pattern
