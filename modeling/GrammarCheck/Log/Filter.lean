import GrammarCheck.Log.Record
import GrammarCheck.Pattern

/-!
# Filters of the log

A filter says up to which level the records of a part of the program are written, and perhaps what
their messages must match. It is asked for by directives with commas between them; after a slash a
pattern may follow. Of the directives that apply to a part, the one with the longest start decides.

* `Log.Filter.ofText`: the filter that a text asks for.
* `Log.Filter.limit`, `Log.Filter.admits`: what the filter lets pass.
* `Log.Filter.write`: what is written for a sequence of records.
-/

namespace GrammarCheck.Log

/-! ### Directives -/

/-- A directive lets records pass whose rank is at most `limit`; a limit of zero lets none pass. A
directive with a start applies to the parts whose names begin with it. -/
structure Directive where
  start? : Option String
  limit : Nat
  deriving Repr, DecidableEq

/-- Why a text, or a part of it, is not taken into a filter. -/
inductive Complaint where
  | unreadable (text : String)
  | tooManySlashes (text : String)
  | patternFault (message : String)
  deriving Repr, DecidableEq

/-- The text of a complaint. -/
def Complaint.message : Complaint → String
  | unreadable text => "invalid logging spec '" ++ text ++ "'"
  | tooManySlashes text => "invalid logging spec '" ++ text ++ "' (too many '/'s)"
  | patternFault message => "invalid regex filter - " ++ message

namespace Directive

/-- The length of the start that a directive asks for. -/
def length (d : Directive) : Nat :=
  (d.start?.map String.length).getD 0

/-- The directive applies to a part of the program. -/
def appliesTo (d : Directive) (origin : String) : Bool :=
  d.start?.all fun start => start.toList.isPrefixOf origin.toList

/-- The limit that a word names, in any case: `off` or the name of a level. -/
def limit? (word : String) : Option Nat :=
  ["OFF", "ERROR", "WARN", "INFO", "DEBUG", "TRACE"].idxOf? word.toUpper

/-- The limit that lets every level pass. -/
def noLimit : Nat := 5

/-- Reads one directive: a limit for all parts, a part with its limit, or a part alone, which is not
limited. -/
def ofText (text : String) : Except Complaint Directive :=
  match Text.cut? '=' text with
  | none =>
    match limit? text with
    | some limit => .ok ⟨none, limit⟩
    | none => .ok ⟨some text, noLimit⟩
  | some (start, word) =>
    if '=' ∈ word.toList then .error (.unreadable text)
    else
      let word := Text.trim word
      if word = "" then .ok ⟨some start, noLimit⟩
      else
        match limit? word with
        | some limit => .ok ⟨some start, limit⟩
        | none => .error (.unreadable word)

/-- The directives with one more, which takes the place of an earlier one with the same start. -/
def insert (d : Directive) : List Directive → List Directive
  | [] => [d]
  | e :: rest => if e.start? = d.start? then d :: rest else e :: insert d rest

end Directive

/-! ### Filters -/

/-- The directives of a filter in order, the pattern that messages must match, and what is to be
said about the text that asked for the filter. -/
structure Filter where
  directives : List Directive
  pattern? : Option Pattern.Matcher := none
  complaints : List Complaint := []
  deriving Repr, DecidableEq

namespace Filter

/-- The filter that lets records of every part pass up to a limit. -/
def upTo (limit : Nat) : Filter :=
  { directives := [⟨none, limit⟩] }

/-- The filter in force when nothing is asked for: warnings and errors. -/
def standard : Filter :=
  .upTo Level.warn.rank

/-- The filter with a complaint more. -/
def complain (f : Filter) (c : Complaint) : Filter :=
  { f with complaints := f.complaints ++ [c] }

/-- The filter with one more directive. -/
def extend (f : Filter) (text : String) : Filter :=
  match Directive.ofText text with
  | .ok d => { f with directives := d.insert f.directives }
  | .error c => f.complain c

/-- The filter of directives with commas between them. Empty ones are passed over. -/
def ofDirectives (text : List Char) : Filter :=
  let parts := (text.splitOn ',').map fun part => Text.trim (String.ofList part)
  (parts.filter (· ≠ "")).foldl extend { directives := [] }

/-- The filter that lets only messages pass that match a pattern. -/
def matching (f : Filter) (pattern : List Char) : Filter :=
  match Pattern.Matcher.ofText (String.ofList pattern) with
  | .ok m => { f with pattern? := some m }
  | .error message => f.complain (.patternFault message)

/-- The filter itself, or if it has no directive, the one that lets errors alone pass. -/
def orErrors (f : Filter) : Filter :=
  if f.directives = [] then { f with directives := (upTo Level.error.rank).directives } else f

/-- The filter that a text asks for. A text without a directive lets errors alone pass. -/
def ofText (text : String) : Filter :=
  let f :=
    match text.toList.splitOn '/' with
    | [directives] => ofDirectives directives
    | [directives, pattern] => (ofDirectives directives).matching pattern
    | _ => { directives := [], complaints := [.tooManySlashes text] }
  f.orErrors

/-- The directive that decides about a part: the one with the longest start, of equal ones the
last. -/
def deciding? (f : Filter) (origin : String) : Option Directive :=
  f.directives.foldl
    (fun best d =>
      if d.appliesTo origin && best.all (·.length ≤ d.length) then some d else best)
    none

/-- The rank up to which records of a part pass. Where no directive applies, none passes. -/
def limit (f : Filter) (origin : String) : Nat :=
  ((f.deciding? origin).map Directive.limit).getD 0

/-- The filter lets the record pass. -/
def admits (f : Filter) (r : Record) : Bool :=
  r.level.rank ≤ f.limit r.origin && f.pattern?.all (·.matchesIn r.message.toList)

/-- What is written for a sequence of records: the complaints, then the lines of the records that
pass. -/
def write (f : Filter) (records : List Record) : String :=
  String.join (f.complaints.map fun c => "warning: " ++ c.message ++ ", ignoring it\n")
    ++ String.join ((records.filter f.admits).map Record.line)

end Filter

end GrammarCheck.Log
