import GrammarCheck.Text.Quoted

/-!
# Records for developers

A value of several fields is shown by its name and its fields, on one line or on a line for each
field.

* `Record.inline`: the form on one line.
* `Record.block`: the form with a line for each field.
-/

namespace GrammarCheck.Text

/-- The name of a record and its fields, each with the text of its value. -/
structure Record where
  name : String
  fields : List (String × String)

namespace Record

/-- The record on one line. -/
def inline (r : Record) : String :=
  r.name ++ " \x7b " ++ ", ".intercalate (r.fields.map fun f => f.1 ++ ": " ++ f.2) ++ " \x7d"

/-- The record with a line for each field. -/
def block (r : Record) : String :=
  r.name ++ " \x7b\n"
    ++ String.join (r.fields.map fun f => "    " ++ f.1 ++ ": " ++ f.2 ++ ",\n") ++ "\x7d"

end Record

end GrammarCheck.Text
