import FirmwareUpgrade.Cli.Number
import FirmwareUpgrade.Cli.Size

/-!
# The arguments of the command

An argument starts with dashes or is a positional one. An option takes its value from behind an
equals sign, from behind its letter, or from the next argument, which must not start with a dash
then. Two dashes alone end the options. An option given twice, one that is not known, a value that
cannot be read and a positional argument too many are refused.
-/
namespace FirmwareUpgrade

/-- What the command is asked to do. -/
inductive Command where
  /-- List accelerators in DFU mode. -/
  | list (vendor product : Option UInt16)
  /-- Upgrade an accelerator; the timeout is in seconds. -/
  | flash (file : String) (chunkSize : Option UInt16) (timeout : Nat)
  /-- Upgrade a simulated accelerator. -/
  | simulate (file : Option String) (pattern : Option Nat) (chunkSize failBlock : Option UInt16)
      (corruptOffset : Option Nat) (deferred : Bool)
  /-- Show the version. -/
  | version
  /-- Show how to use the command. -/
  | help
deriving DecidableEq, Repr

namespace Arguments

/-- An option of a subcommand. Without a `check` it is a flag; otherwise it takes a value that
satisfies the check. -/
structure Choice where
  long : String
  short : Option Char
  check : Option (String → Bool)

/-- The arguments that have been taken in: options with their values, and positional ones. -/
structure Taken where
  options : List (String × String)
  positional : List String
deriving Repr

/-- Why reading the arguments stops early. -/
inductive Stop where
  | refused
  | help
deriving DecidableEq, Repr

/-- Takes an option in, unless it was given before or its value is not right. -/
def takeOption (t : Taken) (choice : Choice) (value : String) : Except Stop Taken :=
  if t.options.any (·.1 == choice.long) then .error .refused
  else if choice.check.all (· value) then
    .ok { t with options := t.options ++ [(choice.long, value)] }
  else .error .refused

/-- Takes a positional argument in, if there is room for it and it is not empty. -/
def takePositional (room : Nat) (t : Taken) (value : String) : Except Stop Taken :=
  if t.positional.length < room ∧ value ≠ "" then
    .ok { t with positional := t.positional ++ [value] }
  else .error .refused

/-- An argument by its form. -/
inductive Form where
  | endOfOptions
  /-- Two dashes and a name, with a value behind an equals sign or none. -/
  | long (name : String) (value : Option String)
  /-- A dash and a letter, with what stands behind it. -/
  | short (letter : Char) (rest : List Char)
  | positional

/-- The form of an argument. A single dash is a positional argument. -/
def form (argument : String) : Form :=
  match argument.toList with
  | ['-', '-'] => .endOfOptions
  | '-' :: '-' :: rest =>
    match rest.span (· != '=') with
    | (name, []) => .long (String.ofList name) none
    | (name, _ :: value) => .long (String.ofList name) (some (String.ofList value))
  | '-' :: letter :: rest => .short letter rest
  | _ => .positional

/-- Whether an argument can be the value of the option in front of it. -/
def canBeValue (argument : String) : Bool :=
  match form argument with
  | .positional => true
  | _ => false

/-- The value that stands behind the letter of an option, if any: an equals sign in front of it
does not belong to it. -/
def attachedValue : List Char → Option String
  | [] => none
  | '=' :: value => some (String.ofList value)
  | value => some (String.ofList value)

/-- Reads the arguments of a subcommand with these options and room for so many positional
arguments. -/
def read (choices : List Choice) (room : Nat) (t : Taken) : List String → Except Stop Taken
  | [] => .ok t
  | argument :: rest =>
    let withChoice (choice? : Option Choice) (value : Option String) : Except Stop Taken :=
      match choice? with
      | none => .error .refused
      | some choice =>
        match choice.check, value with
        | none, some _ => .error .refused
        | none, none => (takeOption t choice "").bind fun t => read choices room t rest
        | some _, some value => (takeOption t choice value).bind fun t => read choices room t rest
        | some _, none =>
          match rest with
          | [] => .error .refused
          | value :: rest =>
            if canBeValue value then
              (takeOption t choice value).bind fun t => read choices room t rest
            else .error .refused
    match form argument with
    | .endOfOptions => rest.foldlM (takePositional room) t
    | .long name value =>
      if name = "help" ∧ value = none then .error .help
      else withChoice (choices.find? (·.long == name)) value
    | .short letter behind =>
      if letter = 'h' then .error .help
      else withChoice (choices.find? (·.short == some letter)) (attachedValue behind)
    | .positional => (takePositional room t argument).bind fun t => read choices room t rest

def Taken.value? (t : Taken) (name : String) : Option String :=
  (t.options.find? (·.1 == name)).map (·.2)

/-- An option with a value that a reader accepts. -/
def valued {α : Type} (long : String) (short : Option Char) (reader : String → Option α) : Choice :=
  ⟨long, short, some fun value => (reader value).isSome⟩

def listChoices : List Choice :=
  [valued "vendor" (some 'v') Number.hexWord?, valued "product" (some 'p') Number.hexWord?]

def flashChoices : List Choice :=
  [valued "chunk-size" (some 'c') Number.word?, valued "timeout" (some 't') Number.long?]

def simulateChoices : List Choice :=
  [valued "pattern" none Size.parse?, valued "chunk-size" (some 'c') Number.word?,
    valued "fail-block" none Number.word?, valued "corrupt-offset" none Number.offset?,
    ⟨"defer", none, none⟩]

/-- The time in seconds that `flash` waits when nothing is said. -/
def standardTimeout : Nat := 60

/-- The `list` command that arguments amount to. -/
def listCommand (t : Taken) : Except Stop Command :=
  .ok (.list ((t.value? "vendor").bind Number.hexWord?) ((t.value? "product").bind Number.hexWord?))

/-- The `flash` command that arguments amount to. The file has to be given. -/
def flashCommand (t : Taken) : Except Stop Command :=
  match t.positional with
  | file :: _ =>
    .ok (.flash file ((t.value? "chunk-size").bind Number.word?)
      (((t.value? "timeout").bind Number.long?).getD standardTimeout))
  | [] => .error .refused

/-- The `simulate` command that arguments amount to. -/
def simulateCommand (t : Taken) : Except Stop Command :=
  .ok (.simulate t.positional.head? ((t.value? "pattern").bind Size.parse?)
    ((t.value? "chunk-size").bind Number.word?) ((t.value? "fail-block").bind Number.word?)
    ((t.value? "corrupt-offset").bind Number.offset?) (t.value? "defer").isSome)

def subcommand (choices : List Choice) (room : Nat) (command : Taken → Except Stop Command)
    (arguments : List String) : Except Stop Command :=
  (read choices room ⟨[], []⟩ arguments).bind command

def subcommand? (name : String) : Option (List String → Except Stop Command) :=
  if name = "list" then some (subcommand listChoices 0 listCommand)
  else if name = "flash" then some (subcommand flashChoices 1 flashCommand)
  else if name = "simulate" then some (subcommand simulateChoices 1 simulateCommand)
  else none

/-- Whether `help` can be asked about these words. -/
def helpTopic : List String → Bool
  | [] => true
  | [name] => name == "help" || (subcommand? name).isSome
  | _ => false

/-- Reads all arguments. Without any, accelerators are listed. -/
def parse : List String → Except Stop Command
  | [] => .ok (.list none none)
  | argument :: rest =>
    match form argument with
    | .endOfOptions => if rest.isEmpty then .ok (.list none none) else .error .refused
    | .long name value =>
      if value.isSome then .error .refused
      else if name = "version" then .ok .version
      else if name = "help" then .error .help
      else .error .refused
    | .short letter _ =>
      if letter = 'V' then .ok .version
      else if letter = 'h' then .error .help
      else .error .refused
    | .positional =>
      match subcommand? argument with
      | some command => command rest
      | none => if argument = "help" ∧ helpTopic rest then .error .help else .error .refused

/-- The command that arguments ask for, unless they are refused. -/
def command? (arguments : List String) : Option Command :=
  match parse arguments with
  | .ok command => some command
  | .error .help => some .help
  | .error .refused => none

end Arguments

end FirmwareUpgrade
