import SuperChip.Colour
import SuperChip.Dispatch
import SuperChip.Text.Decimal

set_option autoImplicit false

/-!
Arguments are read from left to right. The value of an option and the name of the program are checked only
when the next known argument turns up or the line ends, so an unknown argument right behind a bad value
is reported in its place.
-/

namespace SuperChip

/-- What the command line asks for. -/
structure Options where
  program : String
  font : Option String := none
  mode : Mode := .superChip
  strategy : Strategy := .table
  clip : Bool := false
  pace : Nat := 16
  period : Nat := 16
  seed : Option UInt64 := none
  foreground : Option Colour := none
  background : Option Colour := none
  debug : Bool := false
  deriving DecidableEq, Repr

/-- What is wrong with a command line, or what it asks for in place of a run. -/
inductive ArgumentError where
  | unknownArgument
  /-- An option stands twice. -/
  | conflict
  /-- A value is missing, empty where a path is due, or none of the values there are. -/
  | invalidValue
  /-- A value is no number or no colour. -/
  | valueValidation
  /-- No program is named. -/
  | missingRequired
  /-- A flag is given a value. -/
  | tooManyValues
  | displayHelp
  | displayVersion
  deriving DecidableEq, Repr

namespace ArgumentError

/-- Whether the program was asked to describe itself, which is no failure. -/
def isAnswer : ArgumentError → Bool
  | displayHelp | displayVersion => true
  | _ => false

/-- The exit code of a program that is given such a command line. -/
def exitCode (error : ArgumentError) : UInt32 := if error.isAnswer then 0 else 2

/-- What the program says about such a command line. -/
def message : ArgumentError → String
  | unknownArgument => "error: unexpected argument found"
  | conflict => "error: an argument cannot be used multiple times"
  | invalidValue => "error: invalid value for an argument"
  | valueValidation => "error: a value could not be read"
  | missingRequired => "error: the following required arguments were not provided: <ROM>"
  | tooManyValues => "error: unexpected value for a flag"
  | displayHelp => "Usage: schip [OPTIONS] <ROM>"
  | displayVersion => "schip 0.1.0"

end ArgumentError

namespace Arguments

inductive Valued where
  | program
  | font
  | mode
  | strategy
  | pace
  | period
  | seed
  | foreground
  | background
  deriving DecidableEq, Repr

inductive Flag where
  | clip
  | debug
  | help
  | version
  deriving DecidableEq, Repr

/-- What a name behind two dashes stands for. -/
inductive LongName where
  | valued (argument : Valued)
  | flag (flag : Flag)
  deriving DecidableEq, Repr

/-- The names behind two dashes. -/
def longNames : List (String × LongName) := [
  ("font", .valued .font), ("mode", .valued .mode), ("strategy", .valued .strategy),
  ("clip", .flag .clip), ("pacing-ms", .valued .pace), ("timer-ms", .valued .period),
  ("seed", .valued .seed), ("foreground", .valued .foreground),
  ("background", .valued .background), ("debug", .flag .debug), ("help", .flag .help),
  ("version", .flag .version)]

/-- The letters behind a single dash. -/
def letters : List (Char × Flag) := [('d', .debug), ('h', .help), ('V', .version)]

/-- The arguments read so far. -/
structure Draft where
  options : Options
  given : List Valued
  flags : List Flag
  /-- An argument whose value, if it is there yet, is still to be checked. -/
  pending : Option (Valued × Option String)

/-- An option's value as a number of 64 bits. -/
def number (text : String) : Except ArgumentError Nat :=
  match Text.natural? UInt64.size text with
  | some value => .ok value
  | none => .error .valueValidation

def colour (text : String) : Except ArgumentError Colour :=
  match Colour.parse text with
  | .ok colour => .ok colour
  | .error _ => .error .valueValidation

def path (text : String) : Except ArgumentError String :=
  if text = "" then .error .invalidValue else .ok text

/-- An option's value as one of several names. -/
def choice {α : Type} (names : List (String × α)) (text : String) : Except ArgumentError α :=
  match names.lookup text with
  | some value => .ok value
  | none => .error .invalidValue

def take (options : Options) (text : String) : Valued → Except ArgumentError Options
  | .program => do return { options with program := ← path text }
  | .font => do return { options with font := some (← path text) }
  | .mode => do
    return { options with mode := ← choice [("chip8", .chip8), ("schip", .superChip)] text }
  | .strategy => do
    return { options with
      strategy := ← choice [("interpreter", .interpreter), ("table", .table)] text }
  | .pace => do return { options with pace := ← number text }
  | .period => do return { options with period := ← number text }
  | .seed => do return { options with seed := some (UInt64.ofNat (← number text)) }
  | .foreground => do return { options with foreground := some (← colour text) }
  | .background => do return { options with background := some (← colour text) }

/-- Takes an argument with its value, unless it was given before. -/
def give (draft : Draft) (argument : Valued) (value : Option String) :
    Except ArgumentError Draft :=
  match value with
  | none => .error .invalidValue
  | some text =>
    if draft.given.contains argument then .error .conflict
    else do
      let options ← take draft.options text argument
      return { draft with options, given := argument :: draft.given }

/-- Checks the argument that is still to be checked. -/
def settle (draft : Draft) : Except ArgumentError Draft :=
  match draft.pending with
  | none => .ok draft
  | some (argument, value) => give { draft with pending := none } argument value

def raise (draft : Draft) (flag : Flag) : Except ArgumentError Draft := do
  let draft ← settle draft
  if draft.flags.contains flag then .error .conflict
  else
    let draft := { draft with flags := flag :: draft.flags }
    match flag with
    | .clip => return { draft with options := { draft.options with clip := true } }
    | .debug => return { draft with options := { draft.options with debug := true } }
    | .help => .error .displayHelp
    | .version => .error .displayVersion

/-- Reads a name behind two dashes, with the value behind an equals sign if there is one. -/
def long (draft : Draft) (name : String) (value : Option String) : Except ArgumentError Draft :=
  match longNames.lookup name with
  | none => .error .unknownArgument
  | some (.flag flag) =>
    match value with
    | some _ => .error .tooManyValues
    | none => raise draft flag
  | some (.valued argument) => do
    let draft ← settle draft
    match value with
    | some text => give draft argument (some text)
    | none => return { draft with pending := some (argument, none) }

/-- Reads the letters behind a single dash. -/
def short (draft : Draft) : List Char → Except ArgumentError Draft
  | [] => .ok draft
  | letter :: rest =>
    match letters.lookup letter with
    | none => .error .unknownArgument
    | some flag => do short (← raise draft flag) rest

def positional (draft : Draft) (text : String) : Except ArgumentError Draft :=
  let named := draft.given.contains .program || draft.pending.any (·.1 == .program)
  if named then .error .unknownArgument
  else do
    let draft ← settle draft
    return { draft with pending := some (.program, some text) }

/-- A text at its first equals sign. -/
def splitValue (text : List Char) : String × Option String :=
  match text.dropWhile (· != '=') with
  | _ :: value => (String.ofList (text.takeWhile (· != '=')), some (String.ofList value))
  | [] => (String.ofList text, none)

/-- Reads one argument that may be an option. -/
def argument (draft : Draft) (text : String) : Except ArgumentError Draft :=
  match text.toList with
  | '-' :: '-' :: name =>
    let (name, value) := splitValue name
    long draft name value
  | '-' :: letter :: rest => short draft (letter :: rest)
  | _ =>
    match draft.pending with
    | some (argument, none) => .ok { draft with pending := some (argument, some text) }
    | _ => positional draft text

/-- Reads the arguments; behind two dashes on their own none is an option any more. -/
def readAll (draft : Draft) (ended : Bool) : List String → Except ArgumentError Draft
  | [] => settle draft
  | text :: rest =>
    if ended then do readAll (← positional draft text) true rest
    else if text = "--" then readAll draft true rest
    else do readAll (← argument draft text) false rest

def parse (arguments : List String) : Except ArgumentError Options := do
  let draft ← readAll ⟨{ program := "" }, [], [], none⟩ false arguments
  if draft.given.contains .program then return draft.options else .error .missingRequired

end Arguments

end SuperChip
