import ServerProbe.CommandLine.Command
import ServerProbe.Proofs.Text.Numerals

/-! Arguments that spell options.

An option may be given by its name or its letter, with its value behind an equals
sign, behind the letter or as an argument of its own. Letters of flags may be joined
in front of another letter. Options come in any order, with the one argument that is
no option among them.
-/

set_option autoImplicit false

namespace ServerProbe.CommandLine

/-- Names and letters of a level can be told apart from each other, from their values and from
commands. -/
structure Level.Proper (level : Level) : Prop where
  named : ∀ option ∈ level.options, level.named? option.name = some option
  name : ∀ option ∈ level.options, option.name.toList ≠ [] ∧ '=' ∉ option.name.toList
  letter : ∀ option ∈ level.options, option.letter ≠ some '-'
  command : ∀ command ∈ level.commands, command.toList.head? ≠ some '-'

theorem Level.mem_of_named? {level : Level} {name : String} {option : OptionSpec}
    (found : level.named? name = some option) : option ∈ level.options :=
  List.mem_of_find?_eq_some found

theorem Level.mem_of_lettered? {level : Level} {letter : Char} {option : OptionSpec}
    (found : level.lettered? letter = some option) :
    option ∈ level.options ∧ option.letter = some letter :=
  ⟨List.mem_of_find?_eq_some found, by simpa using List.find?_some found⟩

theorem Level.Proper.lettered? {level : Level} (proper : level.Proper) {letter : Char}
    {option : OptionSpec} (found : level.lettered? letter = some option) : letter ≠ '-' := by
  obtain ⟨member, hasLetter⟩ := Level.mem_of_lettered? found
  rintro rfl
  exact proper.letter option member hasLetter

theorem Level.Proper.not_command {level : Level} (proper : level.Proper) {text : String}
    {rest : List Char} (starts : text.toList = '-' :: rest) :
    level.commands.contains text = false := by
  rw [List.contains_eq_mem, decide_eq_false_iff_not]
  intro member
  exact proper.command text member (by rw [starts]; rfl)

section
variable (level : Level) (option : OptionSpec)

inductive Flags : List Char → List (String × Value) → Prop where
  | nothing : Flags [] []
  | flag {letter : Char} {option : OptionSpec} {letters : List Char}
      {values : List (String × Value)} :
      level.lettered? letter = some option → option.action = .flag → Flags letters values →
      Flags (letter :: letters) ((option.name, .bool true) :: values)

/-- The argument names an option behind some flags. -/
inductive Names : String → List (String × Value) → Prop where
  | long : level.named? option.name = some option → Names ("--" ++ option.name) []
  | short {front : List Char} {given : List (String × Value)} {letter : Char} :
      Flags level front given → level.lettered? letter = some option →
      Names (String.ofList ('-' :: (front ++ [letter]))) given

/-- The argument names an option behind some flags, and holds a text for its value. -/
inductive Attaches (text : String) : String → List (String × Value) → Prop where
  | long : level.named? option.name = some option →
      Attaches text ("--" ++ option.name ++ "=" ++ text) []
  | equals {front : List Char} {given : List (String × Value)} {letter : Char} :
      Flags level front given → level.lettered? letter = some option →
      Attaches text (String.ofList ('-' :: (front ++ letter :: '=' :: text.toList))) given
  | joined {front : List Char} {given : List (String × Value)} {letter c : Char}
      {rest : List Char} :
      Flags level front given → level.lettered? letter = some option →
      text.toList = c :: rest → c ≠ '=' →
      Attaches text (String.ofList ('-' :: (front ++ letter :: text.toList))) given

/-- The argument does not look like an option. A hyphen alone does not. -/
def IsWord (text : String) : Prop :=
  ∀ c rest, text.toList ≠ '-' :: c :: rest

theorem isWord_of_head? {text : String} (other : text.toList.head? ≠ some '-') : IsWord text := by
  intro c rest starts
  rw [starts] at other
  exact other rfl

/-- An argument that gives an option, or two when the value of the option is apart from it. -/
inductive SpellsOption : List String → List (String × Value) → Prop where
  | flag {option : OptionSpec} {argument : String} {front : List (String × Value)} :
      Names level option argument front → option.action = .flag →
      SpellsOption [argument] (front ++ [(option.name, .bool true)])
  | attached {option : OptionSpec} {kind : Kind} {argument text : String} {value : Value}
      {front : List (String × Value)} :
      Attaches level option text argument front → option.action = .value kind →
      kind.read text = .ok value → SpellsOption [argument] (front ++ [(option.name, value)])
  | apart {option : OptionSpec} {kind : Kind} {argument text : String} {value : Value}
      {front : List (String × Value)} :
      Names level option argument front → option.action = .value kind → IsWord text →
      kind.read text = .ok value → SpellsOption [argument, text] (front ++ [(option.name, value)])

/-- Arguments that give options with these values in this order, and among them perhaps the one
argument that is no option. -/
inductive Spells : List String → List (String × Value) → Option String → Prop where
  | nothing : Spells [] [] none
  | option {first arguments : List String} {front values : List (String × Value)}
      {word : Option String} :
      SpellsOption level first front → Spells arguments values word →
      Spells (first ++ arguments) (front ++ values) word
  | word {text : String} {arguments : List String} {values : List (String × Value)} :
      level.takesArgument = true → IsWord text → text ∉ level.commands →
      Spells arguments values none → Spells (text :: arguments) values (some text)

/-- All arguments of a level. Behind two hyphens nothing looks like an option. -/
inductive SpellsAll : List String → List (String × Value) → Option String → Prop where
  | plain {arguments : List String} {values : List (String × Value)} {word : Option String} :
      Spells level arguments values word → SpellsAll arguments values word
  | closed {arguments : List String} {values : List (String × Value)} {word : Option String} :
      Spells level arguments values word → SpellsAll (arguments ++ ["--"]) values word
  | behind {arguments : List String} {values : List (String × Value)} {text : String} :
      level.takesArgument = true → Spells level arguments values none →
      SpellsAll (arguments ++ ["--", text]) values (some text)

end

def Kind.Fits : Kind → Value → Prop
  | .text, .text _ => True
  | .path, .text _ => True
  | .output, .output _ => True
  | .bool, .bool _ => True
  | .port, .port _ => True
  | .int32, .int32 _ => True
  | .word, .word count => count < Text.wordLimit
  | .double, .double _ => True
  | .char, .char _ => True
  | _, _ => False

theorem readable_eq_ok {found : Option Value} {value : Value} :
    readable found = .ok value ↔ found = some value := by
  cases found <;> simp [readable]

theorem Kind.fits_of_read {kind : Kind} {text : String} {value : Value}
    (read : kind.read text = .ok value) : kind.Fits value := by
  cases kind with
  | text => cases read; trivial
  | path =>
    unfold Kind.read at read
    dsimp only at read
    split at read <;> cases read
    trivial
  | output =>
    unfold Kind.read at read
    dsimp only at read
    split at read
    · cases read
      trivial
    · split at read <;> cases read
      trivial
  | bool =>
    unfold Kind.read at read
    dsimp only at read
    split at read
    · cases read
      trivial
    · split at read <;> cases read
      trivial
  | port =>
    obtain ⟨number, -, inRange⟩ := Option.bind_eq_some_iff.mp (readable_eq_ok.mp read)
    split at inRange <;> cases inRange
    trivial
  | int32 =>
    obtain ⟨number, -, rfl⟩ := Option.map_eq_some_iff.mp (readable_eq_ok.mp read)
    trivial
  | word =>
    obtain ⟨count, isNumeral, rfl⟩ := Option.map_eq_some_iff.mp (readable_eq_ok.mp read)
    exact (Text.unsigned?_eq_some_iff.mp isNumeral).2
  | double =>
    obtain ⟨number, -, rfl⟩ := Option.map_eq_some_iff.mp (readable_eq_ok.mp read)
    trivial
  | char =>
    have found := readable_eq_ok.mp read
    split at found <;> cases found
    trivial

def Action.Gives : Action → Value → Prop
  | .flag, given => given = .bool true
  | .value kind, given => ∃ text, kind.read text = .ok given
  | _, _ => False

def Level.Gives (level : Level) (values : List (String × Value)) : Prop :=
  ∀ entry ∈ values, ∃ option ∈ level.options, option.name = entry.1 ∧ option.action.Gives entry.2

section
variable {level : Level}

theorem Level.Gives.nil : level.Gives [] := by
  rintro entry ⟨⟩

theorem Level.Gives.append {front back : List (String × Value)} (first : level.Gives front)
    (second : level.Gives back) : level.Gives (front ++ back) := fun entry known =>
  (List.mem_append.mp known).elim (first entry) (second entry)

theorem Level.Gives.singleton {option : OptionSpec} {value : Value}
    (member : option ∈ level.options) (gives : option.action.Gives value) :
    level.Gives [(option.name, value)] := by
  intro entry known
  obtain rfl := List.mem_singleton.mp known
  exact ⟨option, member, rfl, gives⟩

theorem Flags.gives {letters : List Char} {values : List (String × Value)}
    (flags : Flags level letters values) : level.Gives values := by
  induction flags with
  | nothing => exact .nil
  | @flag letter option letters values found isFlag _ ih =>
    have gives : option.action.Gives (.bool true) := by rw [isFlag]; rfl
    exact (Level.Gives.singleton (Level.mem_of_lettered? found).1 gives).append ih

variable {option : OptionSpec} {argument text : String} {arguments : List String}
  {front values : List (String × Value)} {word : Option String}

theorem Names.gives (names : Names level option argument front) {value : Value}
    (gives : option.action.Gives value) : level.Gives (front ++ [(option.name, value)]) := by
  cases names with
  | long named => exact .singleton (Level.mem_of_named? named) gives
  | short flags found =>
    exact flags.gives.append (.singleton (Level.mem_of_lettered? found).1 gives)

theorem Attaches.gives (attaches : Attaches level option text argument front) {value : Value}
    (gives : option.action.Gives value) : level.Gives (front ++ [(option.name, value)]) := by
  cases attaches with
  | long named => exact .singleton (Level.mem_of_named? named) gives
  | equals flags found =>
    exact flags.gives.append (.singleton (Level.mem_of_lettered? found).1 gives)
  | joined flags found =>
    exact flags.gives.append (.singleton (Level.mem_of_lettered? found).1 gives)

theorem SpellsOption.gives (spells : SpellsOption level arguments values) :
    level.Gives values := by
  cases spells with
  | flag names isFlag => exact names.gives (by rw [isFlag]; rfl)
  | attached attaches takes read => exact attaches.gives (by rw [takes]; exact ⟨_, read⟩)
  | apart names takes _ read => exact names.gives (by rw [takes]; exact ⟨_, read⟩)

theorem Spells.gives (spells : Spells level arguments values word) : level.Gives values := by
  induction spells with
  | nothing => exact .nil
  | option first _ ih => exact first.gives.append ih
  | word _ _ _ _ ih => exact ih

theorem SpellsAll.gives (spells : SpellsAll level arguments values word) : level.Gives values := by
  cases spells with
  | plain spells => exact spells.gives
  | closed spells => exact spells.gives
  | behind _ spells => exact spells.gives

end

end ServerProbe.CommandLine
