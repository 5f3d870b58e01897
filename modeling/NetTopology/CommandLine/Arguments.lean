/-
# Arguments of the command line

The first argument that is no option names the command; options before it
belong to the whole program, those after it to the command. Long options take
their value after an equals sign or as the next argument, short ones also
without anything between. A separate value must not look like an option, though
a lone hyphen may stand for one. After a double hyphen everything is positional.
An option that takes one value may be given once.
-/

import NetTopology.Decimal.Reading
import NetTopology.Samples

namespace NetTopology.CommandLine

/-- What the program is asked to do. -/
inductive Command where
  /-- Reconcile one cycle from two files. -/
  | reconcile (catalog observations : String) (json : Option String)
  /-- Run the poll loop over a directory with a file for each device. -/
  | poll (catalog directory : String) (duration threads : Option Nat) (json : Option String)
  /-- Reconcile a sample network in which some devices are down. -/
  | sample (sample : Sample) (down : List String)

/-- A command with the options of the whole program. -/
structure Invocation where
  /-- The uptime in seconds below which a device has rebooted lately. -/
  rebootThreshold : Float
  /-- What to do. -/
  command : Command

/-- Why there is no command to run. -/
inductive Refusal where
  /-- The arguments are wrong. -/
  | usage
  /-- The program is asked for its help or version. -/
  | help
  deriving DecidableEq

/-- One option with a value. -/
structure OptionName where
  long : String
  /-- The letter of the short form. -/
  short : Option Char := none
  /-- Whether the option may be repeated. -/
  repeatable : Bool := false

def usageText : String :=
  "usage: [-r SECONDS] reconcile CATALOG OBSERVATIONS [--json FILE]\n" ++
    "       [-r SECONDS] poll CATALOG DIRECTORY [-d SECONDS] [--num-threads COUNT] [--json FILE]\n" ++
    "       [-r SECONDS] example routed-triangle|multicast-tree [--down NAME]..."

/-- What the arguments of a command amount to. -/
structure Collected where
  /-- The values of options, by long name. -/
  values : List (String × String) := []
  positionals : List String := []
  /-- The arguments that were not looked at. -/
  remaining : List String := []

namespace Collected

/-- The last value of an option. -/
def value? (collected : Collected) (name : String) : Option String :=
  (collected.values.find? fun value => value.1 == name).map Prod.snd

def valuesOf (collected : Collected) (name : String) : List String :=
  (collected.values.filter fun value => value.1 == name).map Prod.snd

/-- Add a value of an option. -/
def withValue (collected : Collected) (name value : String) : Collected :=
  { collected with values := collected.values ++ [(name, value)] }

def withPositional (collected : Collected) (value : String) : Collected :=
  { collected with positionals := collected.positionals ++ [value] }

end Collected

def looksLikeOption (argument : String) : Bool :=
  match argument.toList with
  | '-' :: _ :: _ => true
  | _ => false

/-- What one argument is. -/
inductive Argument where
  /-- A long option, perhaps with a value after an equals sign. -/
  | long (name : String) (value : Option String)
  /-- A short option, perhaps with more behind the letter. -/
  | short (letter : Char) (rest : List Char)
  /-- The double hyphen. -/
  | separator
  /-- Anything else. -/
  | plain (text : String)

/-- Tell what an argument is. -/
def Argument.of (argument : String) : Argument :=
  match argument.toList with
  | ['-', '-'] => .separator
  | '-' :: '-' :: name =>
    match name.dropWhile (· ≠ '=') with
    | [] => .long (String.ofList name) none
    | _ :: value =>
      .long (String.ofList (name.takeWhile (· ≠ '='))) (some (String.ofList value))
  | '-' :: letter :: rest => .short letter rest
  | _ => .plain argument

/-- The rules by which arguments are collected. -/
structure Grammar where
  /-- The options that take a value. -/
  options : List OptionName
  /-- Check the value of an option. -/
  accepts : String → String → Bool
  /-- The positional arguments that are checked one by one, by place. -/
  positionals : List (String → Bool)
  /-- Whether the first positional argument ends the collection. -/
  endsAtPositional : Bool := false
  /-- Whether the program's version may be asked for. -/
  hasVersion : Bool := false

namespace Grammar

variable (grammar : Grammar)

def long? (name : String) : Option OptionName :=
  grammar.options.find? fun option => option.long == name

def short? (letter : Char) : Option OptionName :=
  grammar.options.find? fun option => option.short == some letter

def give (option : OptionName) (value : String) (collected : Collected) :
    Except Refusal Collected :=
  if (!option.repeatable && (collected.value? option.long).isSome) ||
      !grammar.accepts option.long value then
    .error .usage
  else .ok (collected.withValue option.long value)

/-- Add a positional argument. -/
def place (value : String) (collected : Collected) : Except Refusal Collected :=
  match grammar.positionals[collected.positionals.length]? with
  | none => .error .usage
  | some accepts => if accepts value then .ok (collected.withPositional value) else .error .usage

/-- Add only positional arguments. -/
def placeAll (collected : Collected) : List String → Except Refusal Collected
  | [] => .ok collected
  | value :: later => (grammar.place value collected).bind fun next => placeAll next later

/-- The value of an option that stands in the same argument. -/
def attachedValue (rest : List Char) : String :=
  match rest with
  | '=' :: value => String.ofList value
  | value => String.ofList value

/-- Whether a long option asks for help or version. -/
def isHelp (name : String) : Bool :=
  name == "help" || (grammar.hasVersion && name == "version")

/-- Whether a letter asks for help or version. -/
def isHelpLetter (letter : Char) : Bool :=
  letter == 'h' || (grammar.hasVersion && letter == 'V')

/-- Collect arguments from left to right. -/
def collect (collected : Collected) : List String → Except Refusal Collected
  | [] => .ok collected
  | argument :: later =>
    match Argument.of argument with
    | .separator =>
      if grammar.endsAtPositional then .error .usage else grammar.placeAll collected later
    | .plain text =>
      if grammar.endsAtPositional then .ok { collected with remaining := argument :: later }
      else (grammar.place text collected).bind fun next => collect next later
    | .long name attached =>
      match grammar.long? name with
      | none => .error (if grammar.isHelp name && attached.isNone then .help else .usage)
      | some option =>
        match attached with
        | some value => (grammar.give option value collected).bind fun next => collect next later
        | none =>
          match later with
          | [] => .error .usage
          | value :: later =>
            if looksLikeOption value then .error .usage
            else (grammar.give option value collected).bind fun next => collect next later
    | .short letter rest =>
      match grammar.short? letter with
      | none => .error (if grammar.isHelpLetter letter then .help else .usage)
      | some option =>
        match rest with
        | _ :: _ =>
          (grammar.give option (attachedValue rest) collected).bind fun next => collect next later
        | [] =>
          match later with
          | [] => .error .usage
          | value :: later =>
            if looksLikeOption value then .error .usage
            else (grammar.give option value collected).bind fun next => collect next later

end Grammar

/-- A value that names a file must not be empty. -/
def isFileName (value : String) : Bool :=
  value != ""

/-- The number of values of a word of 64 bits. -/
def wordLimit : Nat := 1 <<< 64

/-- Check the value of an option of any command. -/
def acceptsValue (name value : String) : Bool :=
  match name with
  | "reboot-threshold" => (Decimal.readDouble? value).isSome
  | "duration" | "num-threads" => (Decimal.readNatural? wordLimit value).isSome
  | "json" => isFileName value
  | _ => true

/-- The options of the whole program. -/
def programGrammar : Grammar where
  options := [{ long := "reboot-threshold", short := some 'r' }]
  accepts := acceptsValue
  positionals := []
  endsAtPositional := true
  hasVersion := true

def reconcileGrammar : Grammar where
  options := [{ long := "json" }]
  accepts := acceptsValue
  positionals := [isFileName, isFileName]

def pollGrammar : Grammar where
  options := [{ long := "duration", short := some 'd' }, { long := "num-threads" },
    { long := "json" }]
  accepts := acceptsValue
  positionals := [isFileName, isFileName]

/-- The arguments of `example`. -/
def sampleGrammar : Grammar where
  options := [{ long := "down", repeatable := true }]
  accepts := acceptsValue
  positionals := [fun value => (Sample.ofText? value).isSome]

/-- The whole number that an option gives. -/
def natural? (collected : Collected) (name : String) : Option Nat :=
  (collected.value? name).bind (Decimal.readNatural? wordLimit)

def isCommandName (name : String) : Bool :=
  ["reconcile", "poll", "example", "help"].contains name

def readCommand (name : String) (arguments : List String) : Except Refusal Command :=
  match name with
  | "reconcile" =>
    (reconcileGrammar.collect {} arguments).bind fun collected =>
      match collected.positionals with
      | [catalog, observations] =>
        .ok (.reconcile catalog observations (collected.value? "json"))
      | _ => .error .usage
  | "poll" =>
    (pollGrammar.collect {} arguments).bind fun collected =>
      match collected.positionals with
      | [catalog, directory] =>
        .ok (.poll catalog directory (natural? collected "duration")
          (natural? collected "num-threads") (collected.value? "json"))
      | _ => .error .usage
  | "example" =>
    (sampleGrammar.collect {} arguments).bind fun collected =>
      match collected.positionals.map Sample.ofText? with
      | [some sample] => .ok (.sample sample (collected.valuesOf "down"))
      | _ => .error .usage
  | "help" => .error (if arguments.all isCommandName && arguments.length ≤ 1 then .help else .usage)
  | _ => .error .usage

/-- The reboot threshold that is used when none is given. -/
def defaultRebootThreshold : Float := 60.0

def readArguments (arguments : List String) : Except Refusal Invocation :=
  (programGrammar.collect {} arguments).bind fun collected =>
    match collected.remaining with
    | [] => .error .usage
    | name :: later =>
      (readCommand name later).map fun command =>
        { rebootThreshold :=
            ((collected.value? "reboot-threshold").bind Decimal.readDouble?).getD
              defaultRebootThreshold
          command }

end NetTopology.CommandLine
