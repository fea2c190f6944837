import ServerProbe.CommandLine.Value
import ServerProbe.Text.Blank

/-! Reading arguments at one level of a command line.

An option is given as `--name`, or by a letter behind one hyphen, where letters
may be joined. Its value follows as the next argument, behind `=`, or directly
behind the letter. A value is looked at only when the next known option begins
or the level ends, so that an unknown option is found before a bad value.
-/

set_option autoImplicit false

namespace ServerProbe.CommandLine

inductive Action where
  | flag
  | help
  | version
  | value (kind : Kind)
  deriving DecidableEq

structure OptionSpec where
  name : String
  letter : Option Char := none
  action : Action
  deriving DecidableEq

structure Level where
  options : List OptionSpec
  /-- The words that lead to another level. -/
  commands : List String
  /-- Whether one argument that is no option is taken. -/
  takesArgument : Bool

def Level.named? (level : Level) (name : String) : Option OptionSpec :=
  level.options.find? fun option => option.name == name

def Level.lettered? (level : Level) (letter : Char) : Option OptionSpec :=
  level.options.find? fun option => option.letter == some letter

structure Given where
  values : List (String × Value)
  argument : Option String
  /-- An option whose value is still to come, or is there but has not been looked at. -/
  pending : Option (String × Kind × Option String)

namespace Given

def nothing : Given := ⟨[], none, none⟩

def value? (given : Given) (name : String) : Option Value :=
  (given.values.find? fun known => known.1 == name).map (·.2)

def has (given : Given) (name : String) : Bool :=
  (given.value? name).isSome

/-- Whether the next argument is a value, unless it is an option. -/
def isWaiting (given : Given) : Bool :=
  match given.pending with
  | some (_, _, none) => true
  | _ => false

/-- Gives an option, which may be done once. -/
def add (name : String) (value : Except Stop Value) (given : Given) : Except Stop Given :=
  if given.has name then .error .conflict
  else value.map fun value => { given with values := given.values ++ [(name, value)] }

/-- Looks at the value of the option before, if it had one. -/
def settle (given : Given) : Except Stop Given :=
  match given.pending with
  | none => .ok given
  | some (_, _, none) => .error .invalidValue
  | some (name, kind, some text) => { given with pending := none }.add name (kind.read text)

def act (option : OptionSpec) (given : Given) : Except Stop Given := do
  let given ← given.settle
  match option.action with
  | .flag => given.add option.name (.ok (.bool true))
  | .help => .error .help
  | .version => .error .version
  | .value kind => .ok { given with pending := some (option.name, kind, none) }

def attach (option : OptionSpec) (text : String) (given : Given) : Except Stop Given :=
  match option.action with
  | .value kind => do
    let given ← given.settle
    given.add option.name (kind.read text)
  | _ => .error .tooManyValues

-- Gives the options of some letters. The rest behind a letter that takes a value is its value.
def letters (level : Level) : List Char → Given → Except Stop Given
  | [], given => .ok given
  | letter :: rest, given =>
    match level.lettered? letter with
    | none => .error .unknownArgument
    | some option =>
      match option.action, rest with
      | .value _, '=' :: text => given.attach option (String.ofList text)
      | .value _, c :: text => given.attach option (String.ofList (c :: text))
      | _, _ => do
        let given ← given.act option
        letters level rest given

/-- Gives an option by name, with what stands behind an equals sign as its value. -/
def long (level : Level) (text : List Char) (given : Given) : Except Stop Given :=
  let (name, attached) :=
    match Text.cutAt? '=' text with
    | some (name, value) => (name, some (String.ofList value))
    | none => (text, none)
  match level.named? (String.ofList name), attached with
  | none, _ => .error .unknownArgument
  | some option, some value => given.attach option value
  | some option, none => given.act option

def word (level : Level) (text : String) (given : Given) : Except Stop Given :=
  if level.takesArgument ∧ given.argument.isNone then
    given.settle.map fun given => { given with argument := some text }
  else .error (if level.commands.isEmpty then .unknownArgument else .unknownCommand)

end Given

/-- What `help` does with the words after it: each has to be a command of the one before. -/
def helpFor (level : Level) : List String → Stop
  | [] => .help
  | [name] => if level.commands.contains name then .help else .unknownCommand
  | _ :: _ :: _ => .unknownCommand

/-- What has been given at a level, and the command with its arguments if one followed. -/
abbrev LevelResult := Except Stop (Given × Option (String × List String))

/-- Reads the arguments behind `--`, none of which is an option. -/
def readWords (level : Level) (given : Given) : List String → LevelResult
  | [] => .ok (given, none)
  | text :: rest =>
    match given.word level text with
    | .ok given => readWords level given rest
    | .error stop =>
      .error (if level.commands.contains text then .unknownArgument else stop)

def readLevel (level : Level) (given : Given) : List String → LevelResult
  | [] => .ok (given, none)
  | text :: rest =>
    if !given.isWaiting && level.commands.contains text then
      if text = "help" then .error (helpFor level rest) else .ok (given, some (text, rest))
    else
      match text.toList with
      | ['-', '-'] => readWords level given rest
      | '-' :: '-' :: option => do readLevel level (← given.long level option) rest
      | '-' :: letter :: letters => do
        readLevel level (← given.letters level (letter :: letters)) rest
      | _ =>
        match given.pending with
        | some (name, kind, none) =>
          readLevel level { given with pending := some (name, kind, some text) } rest
        | _ => do readLevel level (← given.word level text) rest

end ServerProbe.CommandLine
