import GrammarCheck.Text.ControlSequence
import GrammarCheck.Text.Layout

/-!
# The log

What the program does is recorded at a level, by the part of the program that did it.

* `Log.Level`: the levels, by name and by rank.
* `Log.Record.line`: the line a record is written as.
-/

namespace GrammarCheck.Log

/-- The levels of records, from the gravest to the most detailed. -/
inductive Level where
  | error
  | warn
  | info
  | debug
  | trace
  deriving Repr, DecidableEq

namespace Level

/-- The name of a level. -/
def name : Level → String
  | error => "ERROR"
  | warn => "WARN"
  | info => "INFO"
  | debug => "DEBUG"
  | trace => "TRACE"

/-- The place of a level among the levels, from one. -/
def rank : Level → Nat
  | error => 1
  | warn => 2
  | info => 3
  | debug => 4
  | trace => 5

end Level

/-- A record, with the part of the program it comes from. -/
structure Record where
  level : Level
  origin : String
  message : String
  deriving Repr, DecidableEq

/-- The line a record is written as. If the message has line breaks, what follows them is indented.
The log shows no control sequences. -/
def Record.line (r : Record) : String :=
  Text.withoutControls
    ("[" ++ Text.padRight 5 r.level.name ++ " " ++ r.origin ++ "] "
      ++ Text.hangingIndent 4 r.message ++ "\n")

end GrammarCheck.Log
