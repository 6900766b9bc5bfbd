import GrammarCheck.Text.Layout

/-!
# Reading options

The arguments of a command are options, read from left to right. An option is a flag or takes a
value, which is attached to it or is the argument after it. The request for help counts as soon as
it is met, provided that everything before it can be accepted.

* `Word.ofText`: what a single argument looks like.
* `OptionSpec`: what a command knows of an option.
* `readOptionWords`: the options that are given, a request for help, or misuse.
-/

namespace GrammarCheck.CommandLine

/-! ### Words -/

/-- The shapes of an argument: two dashes alone, a long option with its attached value, a dash with
a letter and what follows it, or none of these. -/
inductive Word where
  | terminator
  | long (name : String) (attached? : Option String)
  | short (letter : Char) (rest : String)
  | plain
  deriving Repr, DecidableEq

/-- The shape of an argument. -/
def Word.ofText (argument : String) : Word :=
  match argument.toList with
  | ['-', '-'] => .terminator
  | '-' :: '-' :: name =>
    match Text.cut? '=' (String.ofList name) with
    | some (name, value) => .long name (some value)
    | none => .long (String.ofList name) none
  | '-' :: letter :: rest => .short letter (String.ofList rest)
  | _ => .plain

/-- The value attached to a short option: what follows the letter, without an equals sign at its
start. Nothing is attached when nothing follows. -/
def attachedToShort? (rest : String) : Option String :=
  match rest.toList with
  | [] => none
  | '=' :: value => some (String.ofList value)
  | value => some (String.ofList value)

/-! ### Options -/

/-- What a command knows of an option: its names, whether it takes a value and whether the value may
be empty, and whether it may be given more than once. -/
structure OptionSpec where
  long : String
  short? : Option Char := none
  takesValue : Bool := true
  emptyValue : Bool := false
  repeatable : Bool := false
  deriving Repr, DecidableEq

namespace OptionSpec

/-- An option without a value. -/
def flag (long : String) : OptionSpec :=
  { long, takesValue := false }

/-- An option whose value is a path. -/
def path (long : String) : OptionSpec :=
  { long }

/-- An option that may be given any number of times, with any text. -/
def texts (long : String) (short? : Option Char) : OptionSpec :=
  { long, short?, emptyValue := true, repeatable := true }

end OptionSpec

/-- An option that was given, by its long name. The value of a flag is the empty text. -/
structure GivenOption where
  long : String
  value : String
  deriving Repr, DecidableEq

/-- The values that an option was given, in order. -/
def valuesOf (given : List GivenOption) (long : String) : List String :=
  (given.filter (·.long == long)).map GivenOption.value

/-- The value that an option was given. -/
def valueOf? (given : List GivenOption) (long : String) : Option String :=
  (valuesOf given long).head?

/-- The option was given. -/
def isGiven (given : List GivenOption) (long : String) : Bool :=
  (valueOf? given long).isSome

/-- The option can be accepted after those that were given before it. -/
def isAcceptable (given : List GivenOption) (spec : OptionSpec) (value : String) : Bool :=
  (spec.repeatable || !isGiven given spec.long)
    && (!spec.takesValue || spec.emptyValue || value != "")

/-! ### Reading -/

/-- What the arguments of a command come to. -/
inductive OptionReading where
  | given (options : List GivenOption)
  | help
  | misuse
  deriving Repr, DecidableEq

/-- What a single argument asks for, given the options of a command. -/
inductive WordReading where
  | flag (spec : OptionSpec)
  | valued (spec : OptionSpec) (attached? : Option String)
  | terminator
  | help
  | misuse

/-- A known option with what is attached to it. Nothing can be attached to a flag. -/
def readKnown (spec? : Option OptionSpec) (attached? : Option String) : WordReading :=
  match spec? with
  | none => .misuse
  | some spec =>
    if spec.takesValue then .valued spec attached?
    else if attached?.isNone then .flag spec
    else .misuse

/-- Reads a single argument. -/
def readWord (specs : List OptionSpec) (argument : String) : WordReading :=
  match Word.ofText argument with
  | .terminator => .terminator
  | .plain => .misuse
  | .long "help" none => .help
  | .long name attached? => readKnown (specs.find? (·.long == name)) attached?
  | .short 'h' _ => .help
  | .short letter rest =>
    readKnown (specs.find? (·.short? == some letter)) (attachedToShort? rest)

/-- The argument can be the value of the option before it: it does not look like an option. -/
def canBeValue (argument : String) : Bool :=
  match Word.ofText argument with
  | .plain => true
  | _ => false

/-- Reads the arguments of a command after the options that were given before them. Nothing may
stand after two dashes. -/
def readOptionsAfter (specs : List OptionSpec) (given : List GivenOption) :
    List String → OptionReading
  | [] => .given given
  | argument :: rest =>
    match readWord specs argument with
    | .terminator => if rest.isEmpty then .given given else .misuse
    | .help => .help
    | .misuse => .misuse
    | .flag spec =>
      if isAcceptable given spec "" then
        readOptionsAfter specs (given ++ [⟨spec.long, ""⟩]) rest
      else .misuse
    | .valued spec (some value) =>
      if isAcceptable given spec value then
        readOptionsAfter specs (given ++ [⟨spec.long, value⟩]) rest
      else .misuse
    | .valued spec none =>
      match rest with
      | [] => .misuse
      | value :: rest =>
        if canBeValue value && isAcceptable given spec value then
          readOptionsAfter specs (given ++ [⟨spec.long, value⟩]) rest
        else .misuse

/-- Reads the arguments of a command. -/
def readOptionWords (specs : List OptionSpec) (arguments : List String) : OptionReading :=
  readOptionsAfter specs [] arguments

end GrammarCheck.CommandLine
