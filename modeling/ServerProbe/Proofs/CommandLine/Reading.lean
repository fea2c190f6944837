import ServerProbe.Proofs.CommandLine.Spelling
import ServerProbe.Proofs.Text.Cutting

/-! Reading arguments that spell options.

Whichever spelling is used for it, an option adds its value to what is known, which
may happen only once the next option begins. What a whole command line gives is what
its arguments spell.
-/

set_option autoImplicit false

namespace ServerProbe.CommandLine

def Distinct (values : List (String × Value)) : Prop :=
  (values.map Prod.fst).Nodup

instance (values : List (String × Value)) : Decidable (Distinct values) :=
  inferInstanceAs (Decidable (List.Nodup _))

theorem Distinct.of_append {front back : List (String × Value)}
    (distinct : Distinct (front ++ back)) : Distinct front :=
  distinct.sublist ((List.sublist_append_left ..).map Prod.fst)

theorem Distinct.not_mem {known values : List (String × Value)} {name : String} {value : Value}
    (distinct : Distinct (known ++ (name, value) :: values)) : name ∉ known.map Prod.fst := by
  rw [Distinct, List.map_append, List.map_cons] at distinct
  exact fun member => (List.nodup_append.mp distinct).2.2 _ member _ List.mem_cons_self rfl

namespace Given

theorem value?_eq_none_iff {given : Given} {name : String} :
    given.value? name = none ↔ name ∉ given.values.map Prod.fst := by
  rw [value?, Option.map_eq_none_iff, List.find?_eq_none, List.mem_map]
  constructor
  · rintro other ⟨entry, member, rfl⟩
    simpa using other entry member
  · intro absent entry member
    simpa using fun same => absent ⟨entry, member, same⟩

theorem mem_of_value? {given : Given} {name : String} {value : Value}
    (found : given.value? name = some value) : (name, value) ∈ given.values := by
  obtain ⟨entry, first, rfl⟩ := Option.map_eq_some_iff.mp found
  obtain rfl : entry.1 = name := by simpa using List.find?_some first
  exact List.mem_of_find?_eq_some first

theorem add_new {given : Given} {name : String} (isNew : name ∉ given.values.map Prod.fst)
    (value : Value) :
    given.add name (.ok value) =
      .ok { given with values := given.values ++ [(name, value)] } := by
  have absent : given.has name = false := by
    rw [has, value?_eq_none_iff.mpr isNew]
    rfl
  rw [add, absent]
  rfl

/-- Once the value of the last option is looked at, these values are given. -/
inductive Holds : Given → List (String × Value) → Option String → Prop where
  | settled {known : List (String × Value)} {argument : Option String} :
      Holds ⟨known, argument, none⟩ known argument
  | unread {known : List (String × Value)} {argument : Option String} {name text : String}
      {kind : Kind} {value : Value} :
      kind.read text = .ok value → name ∉ known.map Prod.fst →
      Holds ⟨known, argument, some (name, kind, some text)⟩ (known ++ [(name, value)]) argument

namespace Holds

variable {known : List (String × Value)} {argument : Option String} {given : Given}

theorem settle (holds : given.Holds known argument) :
    given.settle = .ok ⟨known, argument, none⟩ := by
  cases holds with
  | settled => rfl
  | unread read isNew =>
    unfold Given.settle
    dsimp only
    rw [read]
    exact add_new isNew _

theorem isWaiting (holds : given.Holds known argument) : given.isWaiting = false := by
  cases holds <;> rfl

theorem argument_eq (holds : given.Holds known argument) : given.argument = argument := by
  cases holds <;> rfl

theorem act_flag (holds : given.Holds known argument) {option : OptionSpec}
    (isFlag : option.action = .flag) (isNew : option.name ∉ known.map Prod.fst) :
    given.act option = .ok ⟨known ++ [(option.name, .bool true)], argument, none⟩ := by
  unfold act
  rw [holds.settle, isFlag]
  exact add_new isNew _

theorem act_value (holds : given.Holds known argument) {option : OptionSpec} {kind : Kind}
    (takes : option.action = .value kind) :
    given.act option = .ok ⟨known, argument, some (option.name, kind, none)⟩ := by
  unfold act
  rw [holds.settle, takes]
  rfl

theorem attach (holds : given.Holds known argument) {option : OptionSpec} {kind : Kind}
    (takes : option.action = .value kind) {text : String} {value : Value}
    (read : kind.read text = .ok value) (isNew : option.name ∉ known.map Prod.fst) :
    given.attach option text = .ok ⟨known ++ [(option.name, value)], argument, none⟩ := by
  unfold Given.attach
  rw [takes]
  dsimp only
  rw [holds.settle, read]
  exact add_new isNew _

theorem word (holds : given.Holds known none) {level : Level} (takes : level.takesArgument = true)
    (text : String) : given.word level text = .ok ⟨known, some text, none⟩ := by
  unfold Given.word
  rw [if_pos ⟨takes, by rw [holds.argument_eq]; rfl⟩, holds.settle]
  rfl

theorem letters {level : Level} {front : List Char} {values : List (String × Value)}
    (flags : Flags level front values) (more : List Char) {known : List (String × Value)}
    {given : Given} (holds : given.Holds known argument) (distinct : Distinct (known ++ values)) :
    ∃ after : Given, after.Holds (known ++ values) argument ∧
      given.letters level (front ++ more) = after.letters level more := by
  induction flags generalizing known given with
  | nothing => exact ⟨given, by rwa [List.append_nil], rfl⟩
  | @flag letter option front values found isFlag flags ih =>
    rw [List.append_cons] at distinct ⊢
    obtain ⟨after, afterHolds, rest⟩ := ih settled distinct
    refine ⟨after, afterHolds, ?_⟩
    rw [← rest, List.cons_append, Given.letters]
    simp only [found, isFlag]
    rw [holds.act_flag isFlag distinct.of_append.not_mem]
    rfl

end Holds

end Given

section
variable {level : Level} {option : OptionSpec} {argument text : String}
  {letters : List Char} {front known : List (String × Value)} {word : Option String}
  {given : Given}

theorem readLevel_long (proper : level.Proper) {c : Char} {name : List Char}
    (spelled : argument.toList = '-' :: '-' :: c :: name) (rest : List String) :
    readLevel level given (argument :: rest) =
      given.long level (c :: name) >>= fun next => readLevel level next rest := by
  rw [readLevel, proper.not_command spelled, Bool.and_false, if_neg Bool.false_ne_true]
  simp only [spelled]

theorem readLevel_letters (proper : level.Proper) {letter : Char} {letters : List Char}
    (spelled : argument.toList = '-' :: letter :: letters) (other : letter ≠ '-')
    (rest : List String) :
    readLevel level given (argument :: rest) =
      given.letters level (letter :: letters) >>= fun next => readLevel level next rest := by
  rw [readLevel, proper.not_command spelled, Bool.and_false, if_neg Bool.false_ne_true]
  simp only [spelled]
  -- Two hyphens do not begin the argument, which leaves one of the cases.
  split
  · next same => cases same; exact absurd rfl other
  · next same => cases same; exact absurd rfl other
  · next same => cases same; rfl
  · next noLetters => exact (noLetters _ _ rfl).elim

theorem readLevel_isWord (isWord : IsWord text)
    (noCommand : (!given.isWaiting && level.commands.contains text) = false)
    (rest : List String) :
    readLevel level given (text :: rest) =
      match given.pending with
      | some (name, kind, none) =>
        readLevel level { given with pending := some (name, kind, some text) } rest
      | _ => given.word level text >>= fun next => readLevel level next rest := by
  rw [readLevel, noCommand, if_neg Bool.false_ne_true]
  split
  · next same => exact absurd same (isWord _ _)
  · next same => exact absurd same (isWord _ _)
  · next same => exact absurd same (isWord _ _)
  · rfl

theorem readLevel_value {name : String} {kind : Kind} (isWord : IsWord text) (rest : List String) :
    readLevel level ⟨known, word, some (name, kind, none)⟩ (text :: rest) =
      readLevel level ⟨known, word, some (name, kind, some text)⟩ rest :=
  readLevel_isWord isWord rfl rest

theorem readLevel_word (isWord : IsWord text) (noCommand : text ∉ level.commands)
    (holds : given.Holds known word) (rest : List String) :
    readLevel level given (text :: rest) =
      given.word level text >>= fun next => readLevel level next rest := by
  rw [readLevel_isWord isWord (by simp [noCommand])]
  cases holds <;> rfl

theorem readLevel_flags (proper : level.Proper) (flags : Flags level letters front) {letter : Char}
    (found : level.lettered? letter = some option) {more : List Char}
    (spelled : argument.toList = '-' :: (letters ++ letter :: more))
    (holds : given.Holds known word) (distinct : Distinct (known ++ front)) (rest : List String) :
    ∃ after : Given, after.Holds (known ++ front) word ∧
      readLevel level given (argument :: rest) =
        after.letters level (letter :: more) >>= fun next => readLevel level next rest := by
  obtain ⟨after, afterHolds, same⟩ := holds.letters flags (letter :: more) distinct
  refine ⟨after, afterHolds, ?_⟩
  rw [← same]
  cases flags with
  | nothing => exact readLevel_letters proper spelled (proper.lettered? found) rest
  | flag first _ _ => exact readLevel_letters proper spelled (proper.lettered? first) rest

theorem readLevel_names (proper : level.Proper) (names : Names level option argument front)
    (holds : given.Holds known word) (distinct : Distinct (known ++ front)) (rest : List String) :
    ∃ after : Given, after.Holds (known ++ front) word ∧
      readLevel level given (argument :: rest) =
        after.act option >>= fun next => readLevel level next rest := by
  cases names with
  | long named =>
    obtain ⟨notEmpty, noMark⟩ := proper.name option (Level.mem_of_named? named)
    obtain ⟨c, name, spelled⟩ := List.exists_cons_of_ne_nil notEmpty
    have acts : given.long level (c :: name) = given.act option := by
      unfold Given.long
      rw [← spelled, Text.cutAt?_of_not_mem noMark]
      simp only [String.ofList_toList, named]
    have whole : ("--" ++ option.name).toList = '-' :: '-' :: c :: name := by simp [spelled]
    refine ⟨given, by rwa [List.append_nil], ?_⟩
    rw [← acts, readLevel_long proper whole]
  | @short letters _ letter flags found =>
    obtain ⟨after, afterHolds, read⟩ :=
      readLevel_flags proper flags found (String.toList_ofList) holds distinct rest
    have acts : after.letters level [letter] = after.act option := by
      unfold Given.letters
      simp only [found]
      cases option.action <;> cases after.act option <;> rfl
    exact ⟨after, afterHolds, by rw [read, acts]⟩

theorem readLevel_attaches (proper : level.Proper) {kind : Kind}
    (attaches : Attaches level option text argument front) (takes : option.action = .value kind)
    (holds : given.Holds known word) (distinct : Distinct (known ++ front)) (rest : List String) :
    ∃ after : Given, after.Holds (known ++ front) word ∧
      readLevel level given (argument :: rest) =
        after.attach option text >>= fun next => readLevel level next rest := by
  cases attaches with
  | long named =>
    obtain ⟨notEmpty, noMark⟩ := proper.name option (Level.mem_of_named? named)
    obtain ⟨c, name, spelled⟩ := List.exists_cons_of_ne_nil notEmpty
    have attached : given.long level (c :: (name ++ '=' :: text.toList)) =
        given.attach option text := by
      unfold Given.long
      rw [← List.cons_append, ← spelled, Text.cutAt?_append noMark]
      simp only [String.ofList_toList, named]
    have whole : ("--" ++ option.name ++ "=" ++ text).toList =
        '-' :: '-' :: c :: (name ++ '=' :: text.toList) := by simp [spelled]
    refine ⟨given, by rwa [List.append_nil], ?_⟩
    rw [← attached, readLevel_long proper whole]
  | @equals letters _ letter flags found =>
    obtain ⟨after, afterHolds, read⟩ :=
      readLevel_flags proper flags found (String.toList_ofList) holds distinct rest
    have attached : after.letters level (letter :: '=' :: text.toList) =
        after.attach option text := by
      unfold Given.letters
      simp only [found, takes, String.ofList_toList]
    exact ⟨after, afterHolds, by rw [read, attached]⟩
  | @joined letters _ letter c others flags found spelled other =>
    obtain ⟨after, afterHolds, read⟩ :=
      readLevel_flags proper flags found (String.toList_ofList) holds distinct rest
    obtain rfl : text = String.ofList (c :: others) := by rw [← spelled, String.ofList_toList]
    have attached : after.letters level (letter :: (String.ofList (c :: others)).toList) =
        after.attach option (String.ofList (c :: others)) := by
      rw [String.toList_ofList]
      unfold Given.letters
      simp only [found, takes]
    exact ⟨after, afterHolds, by rw [read, attached]⟩

end

theorem readLevel_option {level : Level} (proper : level.Proper) {arguments : List String}
    {values : List (String × Value)} (spells : SpellsOption level arguments values)
    {known : List (String × Value)} {word : Option String} {given : Given}
    (holds : given.Holds known word) (distinct : Distinct (known ++ values))
    (rest : List String) :
    ∃ after : Given, after.Holds (known ++ values) word ∧
      readLevel level given (arguments ++ rest) = readLevel level after rest := by
  cases spells with
  | flag names isFlag =>
    rw [← List.append_assoc] at distinct ⊢
    obtain ⟨middle, middleHolds, step⟩ :=
      readLevel_names proper names holds distinct.of_append rest
    refine ⟨_, .settled, ?_⟩
    rw [List.singleton_append, step, middleHolds.act_flag isFlag distinct.not_mem]
    rfl
  | attached attaches takes read =>
    rw [← List.append_assoc] at distinct ⊢
    obtain ⟨middle, middleHolds, step⟩ :=
      readLevel_attaches proper attaches takes holds distinct.of_append rest
    refine ⟨_, .settled, ?_⟩
    rw [List.singleton_append, step, middleHolds.attach takes read distinct.not_mem]
    rfl
  | @apart _ _ _ text _ _ names takes isWord read =>
    rw [← List.append_assoc] at distinct ⊢
    obtain ⟨middle, middleHolds, step⟩ :=
      readLevel_names proper names holds distinct.of_append (text :: rest)
    -- The value is there, but it is not looked at before the next option.
    refine ⟨_, .unread read distinct.not_mem, ?_⟩
    rw [List.cons_append, List.singleton_append, step, middleHolds.act_value takes]
    exact readLevel_value isWord rest

theorem readLevel_spells {level : Level} (proper : level.Proper) {arguments : List String}
    {values : List (String × Value)} {word : Option String}
    (spells : Spells level arguments values word) {known : List (String × Value)}
    {before : Option String} {given : Given} (holds : given.Holds known before)
    (distinct : Distinct (known ++ values)) (once : word = none ∨ before = none)
    (rest : List String) :
    ∃ after : Given, after.Holds (known ++ values) (word.or before) ∧
      readLevel level given (arguments ++ rest) = readLevel level after rest := by
  induction spells generalizing known before given with
  | nothing => exact ⟨given, by rwa [List.append_nil], rfl⟩
  | option first _ ih =>
    rw [← List.append_assoc] at distinct ⊢
    obtain ⟨middle, middleHolds, step⟩ :=
      readLevel_option proper first holds distinct.of_append (_ ++ rest)
    obtain ⟨after, afterHolds, read⟩ := ih middleHolds distinct once
    exact ⟨after, afterHolds, by rw [List.append_assoc, step, read]⟩
  | @word text arguments values takes isWord noCommand _ ih =>
    obtain rfl : before = none := once.resolve_left (by simp)
    have given : Given.Holds ⟨known, some text, none⟩ known (some text) := .settled
    obtain ⟨after, afterHolds, read⟩ := ih given distinct (.inl rfl)
    refine ⟨after, by simpa using afterHolds, ?_⟩
    rw [List.cons_append, readLevel_word isWord noCommand holds, holds.word takes, ← read]
    rfl

/-- What is read first is known once it has been read. -/
theorem readLevel_spells_first {level : Level} (proper : level.Proper) {arguments : List String}
    {values : List (String × Value)} {word : Option String}
    (spells : Spells level arguments values word) (distinct : Distinct values)
    (rest : List String) :
    ∃ after : Given, after.Holds values word ∧
      readLevel level .nothing (arguments ++ rest) = readLevel level after rest := by
  have nothing : Given.nothing.Holds [] none := .settled
  simpa using readLevel_spells proper spells nothing distinct (.inr rfl) rest

theorem readLevel_closed {level : Level} (proper : level.Proper) (given : Given)
    (rest : List String) : readLevel level given ("--" :: rest) = readWords level given rest := by
  have starts : ("--" : String).toList = ['-', '-'] := by decide
  rw [readLevel, proper.not_command starts, Bool.and_false, if_neg Bool.false_ne_true]
  simp only [starts]

theorem readLevel_spellsAll {level : Level} (proper : level.Proper) {arguments : List String}
    {values : List (String × Value)} {word : Option String}
    (spells : SpellsAll level arguments values word) (distinct : Distinct values) :
    ∃ given : Given, given.Holds values word ∧
      readLevel level .nothing arguments = .ok (given, none) := by
  cases spells with
  | plain spells =>
    obtain ⟨given, holds, read⟩ := readLevel_spells_first proper spells distinct []
    rw [List.append_nil] at read
    exact ⟨given, holds, read⟩
  | closed spells =>
    obtain ⟨given, holds, read⟩ := readLevel_spells_first proper spells distinct ["--"]
    exact ⟨given, holds, by rw [read, readLevel_closed proper, readWords]⟩
  | @behind arguments values text takes spells =>
    obtain ⟨given, holds, read⟩ := readLevel_spells_first proper spells distinct ["--", text]
    refine ⟨_, .settled, ?_⟩
    rw [read, readLevel_closed proper, readWords, holds.word takes text]
    rfl

/-! Whole command lines. -/

theorem topLevel_proper : topLevel.Proper :=
  ⟨by decide, by decide, by decide, by decide⟩

theorem levelOf_proper (command : String) : (levelOf command).Proper := by
  unfold levelOf
  split_ifs
  · exact ⟨by decide, by decide, by decide, by decide⟩
  · exact ⟨by decide, by decide, by decide, by decide⟩
  · exact ⟨by decide, by decide, by decide, by decide⟩
  · exact ⟨by decide, by decide, by decide, by decide⟩

/-- A command between options of the program and arguments of its own. -/
theorem read_command {command : String} (known : command ∈ commandNames) (other : command ≠ "help")
    {front arguments : List String} {before values : List (String × Value)} {word : Option String}
    (spellsFront : Spells topLevel front before none) (distinctFront : Distinct before)
    (spells : SpellsAll (levelOf command) arguments values word) (distinct : Distinct values) :
    read (front ++ command :: arguments) =
      let outer : Given := ⟨before, none, none⟩
      let own : Given := ⟨values, word, none⟩
      (commandOf command own).map fun command => {
        verbose := outer.has "verbose" || own.has "verbose"
        jsonLogs := outer.has "json-logs" || own.has "json-logs"
        output := (own.output?.or outer.output?).getD .text
        strict := outer.has "strict" || own.has "strict"
        command } := by
  obtain ⟨outer, outerHolds, readFront⟩ :=
    readLevel_spells_first topLevel_proper spellsFront distinctFront (command :: arguments)
  obtain ⟨own, ownHolds, readOwn⟩ :=
    readLevel_spellsAll (levelOf_proper command) spells distinct
  have next : readLevel topLevel outer (command :: arguments) =
      .ok (outer, some (command, arguments)) := by
    have isCommand : topLevel.commands.contains command = true := by simpa [topLevel] using known
    rw [readLevel, outerHolds.isWaiting, isCommand, if_pos (by decide), if_neg other]
  unfold read
  simp only [readFront, next, readOwn, outerHolds.settle, ownHolds.settle, bind, Except.bind]
  cases commandOf command ⟨values, word, none⟩ <;> rfl

end ServerProbe.CommandLine
