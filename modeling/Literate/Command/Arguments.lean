import Literate.Datum
import Literate.Table
import Literate.Text.Digit
import Literate.Text.Quoted

/-! # Command line arguments

The arguments of a command are options and positional arguments in any order. An option is known by its
flags. A long flag may be shortened as long as only one flag starts that way, and its value may follow
behind an equals sign; short flags without a value may be written together. After a double dash
everything is positional. Reading goes from left to right and ends at the first argument that cannot be
understood; what is missing is looked for after that, and what is left over last. -/

namespace Literate.Command

open Text

/-- What an option does. -/
inductive Action where
  /-- Keep the value that follows. -/
  | store
  /-- Append the value that follows to a list. -/
  | append
  /-- Note that the option was given. -/
  | mark
  /-- Count how often the option is given. -/
  | count
  /-- Show the version, and do nothing else. -/
  | version
  /-- Show how the command is used, and do nothing else. -/
  | help
deriving DecidableEq

def Action.takesValue : Action → Bool
  | store | append => true
  | _ => false

/-- An option: its flags, the name under which its value is kept, and whether it must be given. -/
structure Switch where
  flags : List Text
  name : Text
  action : Action
  required : Bool := false

/-- How a command is used: its options, its positional arguments, and the values that are there from
the start. -/
structure Usage where
  switches : List Switch
  positionals : List Text
  defaults : Table Text Datum := []

/-- Why arguments cannot be understood. -/
inductive Misuse where
  | missing (names : List Text)
  | leftOver (arguments : List Text)
  | noValue (flags : List Text)
  | unwantedValue (flags : List Text) (value : Text)
  | ambiguous (argument : Text) (flags : List Text)
deriving DecidableEq

/-- Why the command does not do its work. -/
inductive Stop where
  | misuse (m : Misuse)
  | version
  | help
deriving DecidableEq

/-- How the flags of an option are shown together. -/
def flagNames (flags : List Text) : Text := joinWith ['/'] flags

def Misuse.message : Misuse → String
  | missing names => s!"the following arguments are required: {str (commas names)}"
  | leftOver arguments => s!"unrecognized arguments: {str (spaces arguments)}"
  | noValue flags => s!"argument {str (flagNames flags)}: expected one argument"
  | unwantedValue flags value =>
    s!"argument {str (flagNames flags)}: ignored explicit argument {str (quoted value)}"
  | ambiguous argument flags =>
    s!"ambiguous option: {str argument} could match {str (commas flags)}"
where
  commas (names : List Text) : Text := joinWith ", ".toList names
  spaces (names : List Text) : Text := joinWith [' '] names

/-! ### Single arguments -/

/-- An argument by itself. -/
inductive Word where
  | plain (t : Text)
  /-- The double dash. -/
  | divider
  /-- A flag of an option, and the text that is attached to it. -/
  | flag (s : Switch) (flag : Text) (attached : Option Text)
  | unknown (t : Text)

/-- The option with a flag. -/
def Usage.switch? (usage : Usage) (flag : Text) : Option Switch :=
  usage.switches.find? fun s => s.flags.contains flag

def Usage.flags (usage : Usage) : List (Switch × Text) :=
  usage.switches.flatMap fun s => s.flags.map fun flag => (s, flag)

/-- An argument in two parts: before its first equals sign, and behind it if there is one. -/
def splitValue (argument : Text) : Text × Option Text :=
  match cut? ['='] argument with
  | some (start, value) => (start, some value)
  | none => (argument, none)

def isLong (flag : Text) : Bool := (after? ['-', '-'] flag).isSome

/-- What an argument that is no whole flag may stand for. -/
def Usage.readings (usage : Usage) (argument : Text) : List (Switch × Text × Option Text) :=
  if isLong argument then
    let (start, attached) := splitValue argument
    (usage.flags.filter fun (_, flag) => start.isPrefixOf flag).map
      fun (s, flag) => (s, flag, attached)
  else
    usage.flags.filterMap fun (s, flag) =>
      if flag = argument.take 2 then some (s, flag, some (argument.drop 2))
      else if argument.isPrefixOf flag then some (s, flag, none)
      else none

/-- Whether a text is a dash with a number behind it; a line feed may follow. -/
def isNegativeNumber (t : Text) : Bool :=
  match dropLastIf '\n' t with
  | '-' :: number =>
    let rest := number.dropWhile isDecimalDigit
    let fraction := rest.drop 1
    if rest.isEmpty then !number.isEmpty
    else rest.head? = some '.' && !fraction.isEmpty && fraction.all isDecimalDigit
  | _ => false

/-- What an argument is that starts with a dash and is longer than that. -/
def Usage.dashed (usage : Usage) (argument : Text) : Except Stop Word :=
  let (start, attached) := splitValue argument
  match usage.switch? start with
  | some s => .ok (.flag s start attached)
  | none =>
    match usage.readings argument with
    | [(s, flag, attached)] => .ok (.flag s flag attached)
    | [] =>
      if isNegativeNumber argument || argument.contains ' ' then .ok (.plain argument)
      else .ok (.unknown argument)
    | several => .error (.misuse (.ambiguous argument (several.map fun reading => reading.2.1)))

def Usage.word (usage : Usage) (argument : Text) : Except Stop Word :=
  if argument.head? = some '-' && argument.length ≠ 1 then usage.dashed argument
  else .ok (.plain argument)

def Usage.words (usage : Usage) : List Text → Except Stop (List Word)
  | [] => .ok []
  | argument :: rest =>
    if argument = ['-', '-'] then .ok (.divider :: rest.map .plain)
    else do
      let word ← usage.word argument
      return word :: (← usage.words rest)

/-! ### All arguments -/

/-- What has been read so far. -/
structure Reading where
  /-- The values of the options. -/
  values : Table Text Datum
  /-- The options that were given. -/
  given : List Text := []
  /-- The positional arguments; a second double dash in the place of one is no value. -/
  filled : Table Text (Option Text) := []
  /-- The positional arguments that are still to come. -/
  wanted : List Text
  extras : List Text := []
  /-- The option whose value comes next. -/
  pending : Option Switch := none
  /-- Whether the last argument was a positional one that was wanted. -/
  fresh : Bool := false
  /-- Whether a double dash is waiting for a positional argument. -/
  held : Bool := false

/-- A short flag and the text attached to it: the value of the option, or the letters of other short
flags. -/
def Usage.cluster (usage : Usage) (s : Switch) : Text → Except Stop (List (Switch × Option Text))
  | [] => .ok [(s, none)]
  | c :: rest =>
    if s.action.takesValue then .ok [(s, some (c :: rest))]
    else
      match usage.switch? ['-', c] with
      | none => .error (.misuse (.unwantedValue s.flags (c :: rest)))
      | some next => do return (s, none) :: (← usage.cluster next rest)

/-- The options that a flag and the text attached to it mean, each with its value. -/
def Usage.meaning (usage : Usage) (s : Switch) (flag : Text) :
    Option Text → Except Stop (List (Switch × Option Text))
  | none => .ok [(s, none)]
  | some value =>
    if s.action.takesValue then .ok [(s, some value)]
    else if isLong flag || value.isEmpty then .error (.misuse (.unwantedValue s.flags value))
    else usage.cluster s value

def optionValue (value : Text) : Datum := if value = ['-', '-'] then .list [] else .text value

def Reading.note (r : Reading) (s : Switch) (value : Text) : Except Stop Reading :=
  let r := { r with given := s.name :: r.given, fresh := false }
  match s.action with
  | .store => .ok { r with values := r.values.set s.name (optionValue value) }
  | .append =>
    let items := match r.values.get? s.name with
      | some (.list items) => items
      | _ => []
    .ok { r with values := r.values.set s.name (.list (items ++ [optionValue value])) }
  | .mark => .ok { r with values := r.values.set s.name (.bool true) }
  | .count =>
    let count := match r.values.get? s.name with
      | some (.int n) => n
      | _ => 0
    .ok { r with values := r.values.set s.name (.int (count + 1)) }
  | .version => .error .version
  | .help => .error .help

/-- Note options; one that needs a value and has none waits for the next argument. -/
def Reading.noteAll (r : Reading) : List (Switch × Option Text) → Except Stop Reading
  | [] => .ok r
  | (s, value?) :: rest => do
    match value? with
    | none =>
      if s.action.takesValue then .ok { r with pending := some s, fresh := false }
      else (← r.note s []).noteAll rest
    | some value => (← r.note s value).noteAll rest

def Reading.position (r : Reading) (t : Text) : Reading :=
  match r.wanted with
  | name :: others =>
    let value := if t = ['-', '-'] && !r.held then none else some t
    { r with filled := r.filled.set name value, wanted := others, fresh := true, held := false }
  | [] =>
    let divider : List Text := if r.held then [['-', '-']] else []
    { r with extras := r.extras ++ divider ++ [t], fresh := false, held := false }

def Usage.step (usage : Usage) (r : Reading) (word : Word) : Except Stop Reading :=
  match r.pending, word with
  | some s, .plain t => { r with pending := none }.note s t
  | some s, _ => .error (.misuse (.noValue s.flags))
  | none, .plain t => .ok (r.position t)
  | none, .divider => .ok { r with held := !r.fresh, fresh := false }
  | none, .unknown t => .ok { r with extras := r.extras ++ [t], fresh := false }
  | none, .flag s flag attached => do r.noteAll (← usage.meaning s flag attached)

/-- The options that must be given and are not, and the positional arguments that are missing. -/
def Usage.missing (usage : Usage) (r : Reading) : List Text :=
  ((usage.switches.filter fun s => s.required && !r.given.contains s.name).map
    fun s => flagNames s.flags) ++ r.wanted

/-- Read the arguments of a command: the values of its options and its positional arguments. -/
def Usage.read (usage : Usage) (arguments : List Text) :
    Except Stop (Table Text Datum × Table Text (Option Text)) := do
  let words ← usage.words arguments
  let r ← words.foldlM usage.step { values := usage.defaults, wanted := usage.positionals }
  match r.pending with
  | some s => .error (.misuse (.noValue s.flags))
  | none =>
    let missing := usage.missing r
    let divider : List Text := if r.held then [['-', '-']] else []
    let extras := r.extras ++ divider
    if !missing.isEmpty then .error (.misuse (.missing missing))
    else if !extras.isEmpty then .error (.misuse (.leftOver extras))
    else .ok (r.values, r.filled)

end Literate.Command
