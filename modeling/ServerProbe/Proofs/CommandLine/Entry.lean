import Mathlib.Data.List.Nodup
import ServerProbe.Proofs.CommandLine.Reading
import ServerProbe.Proofs.Json.Members

/-! Entries of a suite that say the same as options.

Settings can be given as options or as members of an object. A few members have
other names than the options, and some flags switch off what a member switches on.
When both say the same, each is found under its name where the other is found under
its key, and what is found is read as the same value.
-/

set_option autoImplicit false

namespace ServerProbe.CommandLine

open Json (lookup?)

/-- Whether a flag switches off what its key stands for. -/
def isOff (name : String) : Bool :=
  ["no-tls", "no-expect"].contains name

def keyOf (name : String) : String :=
  if name = "no-tls" then "tls"
  else if name = "no-expect" then "expect_continue"
  else if name = "threshold" then "threshold_seconds"
  else if name = "timeout" then "timeout_seconds"
  else String.ofList (name.toList.map fun c => if c = '-' then '_' else c)

/-- Given under the key of an option, the document says the same as the value of the option. -/
inductive Says (name : String) : Value → Json → Prop where
  | text {text : String} : Says name (.text text) (.str text)
  | port {port : UInt16} : Says name (.port port) (.ofNat port.toNat)
  | int32 {value : Int32} : Says name (.int32 value) (.int value.toInt)
  | word {count : Nat} : Says name (.word count) (.ofNat count)
  | double {value : Binary64} : Says name (.double value) (.double value)
  | whole {value : Int} : Says name (.double (.ofInt value)) (.int value)
  | char {c : Char} : Says name (.char c) (.str (String.ofList [c]))
  | flag : Says name (.bool true) (.bool (!isOff name))

def SaysSame (given : String × Value) (member : String × Json) : Prop :=
  member.1 = keyOf given.1 ∧ Says given.1 given.2 member.2

def isCommon (name : String) : Bool :=
  commonOptions.any fun option => option.name == name

def ownOptions (command : String) : List OptionSpec :=
  (levelOf command).options.filter fun option => !isCommon option.name

def ownValues (values : List (String × Value)) : List (String × Value) :=
  values.filter fun entry => !isCommon entry.1

/-- What an entry says besides what options can say. -/
def heading (name : String) (enabled : Option Bool) (kind : String) (url : Option String) :
    Json.Members :=
  ("name", .str name) :: ("type", .str kind) ::
    (enabled.map fun enabled => ("enabled", Json.bool enabled)).toList ++
    (url.map fun url => ("url", Json.str url)).toList

/-- An entry for a probe of this kind that says the same as the values of these options and has no
other members, in any order. -/
inductive Mirrors (name : String) (enabled : Option Bool) (kind : String) (url : Option String)
    (values : List (String × Value)) : Json.Members → Prop where
  | intro {members entry : Json.Members} :
      List.Forall₂ SaysSame (ownValues values) members →
      entry.Perm (heading name enabled kind url ++ members) →
      Mirrors name enabled kind url values entry

/-- The option and its key have nothing, or they have values that say the same. -/
inductive Matches (given : Given) (entry : Json.Members) (option : OptionSpec) : Prop where
  | absent : given.value? option.name = none → lookup? (keyOf option.name) entry = none →
      Matches given entry option
  | same {value : Value} {json : Json} : given.value? option.name = some value →
      lookup? (keyOf option.name) entry = some json → Says option.name value json →
      option.action.Gives value → Matches given entry option

theorem keys_distinct (command : String) :
    (["name", "type", "enabled", "url"] ++
      (ownOptions command).map fun option => keyOf option.name).Nodup := by
  unfold ownOptions levelOf
  split_ifs <;> decide

theorem keyOf_injOn {command : String} {first second : OptionSpec}
    (left : first ∈ ownOptions command) (right : second ∈ ownOptions command)
    (same : keyOf first.name = keyOf second.name) : first = second :=
  List.inj_on_of_nodup_map (List.nodup_append.mp (keys_distinct command)).2.1 left right same

theorem keyOf_not_heading {command : String} {option : OptionSpec}
    (isOwn : option ∈ ownOptions command) :
    keyOf option.name ∉ ["name", "type", "enabled", "url"] := fun isHeading =>
  (List.nodup_append.mp (keys_distinct command)).2.2 _ isHeading _ (List.mem_map_of_mem isOwn) rfl

theorem keys_of_same {values : List (String × Value)} {members : Json.Members}
    (say : List.Forall₂ SaysSame values members) :
    members.map Prod.fst = values.map fun given => keyOf given.1 := by
  induction say with
  | nil => rfl
  | cons first _ ih => rw [List.map_cons, List.map_cons, first.1, ih]

theorem exists_member_of_same {values : List (String × Value)} {members : Json.Members}
    (say : List.Forall₂ SaysSame values members) {given : String × Value} (known : given ∈ values) :
    ∃ member ∈ members, SaysSame given member := by
  induction say with
  | nil => cases known
  | cons first _ ih =>
    rcases List.mem_cons.mp known with rfl | known
    · exact ⟨_, List.mem_cons_self, first⟩
    · obtain ⟨member, later, same⟩ := ih known
      exact ⟨member, List.mem_cons_of_mem _ later, same⟩

section
variable {name kind : String} {enabled : Option Bool} {url : Option String}
  {values : List (String × Value)} {entry members : Json.Members}

theorem own_of_gives (gives : (levelOf kind).Gives values) {given : String × Value}
    (known : given ∈ ownValues values) :
    ∃ option ∈ ownOptions kind, option.name = given.1 ∧ option.action.Gives given.2 := by
  obtain ⟨known, own⟩ := List.mem_filter.mp known
  obtain ⟨option, member, sameName, fits⟩ := gives given known
  exact ⟨option, List.mem_filter.mpr ⟨member, by rwa [sameName]⟩, sameName, fits⟩

theorem known_of_value? (gives : (levelOf kind).Gives values) {option : OptionSpec}
    (isOwn : option ∈ ownOptions kind) {value : Value}
    (found : Given.value? ⟨values, url, none⟩ option.name = some value) :
    (option.name, value) ∈ ownValues values ∧ option.action.Gives value := by
  have known : (option.name, value) ∈ ownValues values :=
    List.mem_filter.mpr ⟨Given.mem_of_value? found, (List.mem_filter.mp isOwn).2⟩
  obtain ⟨other, alsoOwn, sameName, fits⟩ := own_of_gives gives known
  obtain rfl := keyOf_injOn alsoOwn isOwn (congrArg keyOf sameName)
  exact ⟨known, fits⟩

theorem keys_heading : ((heading name enabled kind url).map Prod.fst).Sublist
    ["name", "type", "enabled", "url"] := by
  cases enabled <;> cases url <;> simp [heading]

theorem nodup_heading : ((heading name enabled kind url).map Prod.fst).Nodup :=
  List.Nodup.sublist keys_heading (by decide)

theorem not_heading_of_member (gives : (levelOf kind).Gives values)
    (say : List.Forall₂ SaysSame (ownValues values) members) {key : String}
    (isMember : key ∈ members.map Prod.fst) : key ∉ ["name", "type", "enabled", "url"] := by
  rw [keys_of_same say] at isMember
  obtain ⟨given, known, rfl⟩ := List.mem_map.mp isMember
  obtain ⟨option, isOwn, sameName, -⟩ := own_of_gives gives known
  rw [← sameName]
  exact keyOf_not_heading isOwn

theorem nodup_written (gives : (levelOf kind).Gives values) (distinct : Distinct values)
    (say : List.Forall₂ SaysSame (ownValues values) members) :
    ((heading name enabled kind url ++ members).map Prod.fst).Nodup := by
  rw [List.map_append, List.nodup_append]
  refine ⟨nodup_heading, ?_, ?_⟩
  · rw [keys_of_same say]
    have different : (ownValues values).Nodup := (List.Nodup.of_map _ distinct).filter _
    -- Values with one key are values of one option, and there is only one of each.
    refine different.map_on fun left known right alsoKnown same => ?_
    obtain ⟨first, isOwn, firstName, -⟩ := own_of_gives gives known
    obtain ⟨second, alsoOwn, secondName, -⟩ := own_of_gives gives alsoKnown
    rw [← firstName, ← secondName] at same
    have sameName : left.1 = right.1 := by
      rw [← firstName, ← secondName, keyOf_injOn isOwn alsoOwn same]
    exact List.inj_on_of_nodup_map distinct (List.mem_filter.mp known).1
      (List.mem_filter.mp alsoKnown).1 sameName
  · rintro key isHeading other isMember rfl
    exact not_heading_of_member gives say isMember (keys_heading.subset isHeading)

theorem Mirrors.lookup?_heading (mirrors : Mirrors name enabled kind url values entry)
    (gives : (levelOf kind).Gives values) (distinct : Distinct values) {key : String}
    (isHeading : key ∈ ["name", "type", "enabled", "url"]) :
    lookup? key entry = lookup? key (heading name enabled kind url) := by
  cases mirrors with
  | @intro members _ say order =>
    have written : ((heading name enabled kind url ++ members).map Prod.fst).Nodup :=
      nodup_written gives distinct say
    have noMember (json : Json) : (key, json) ∉ members := fun isMember =>
      not_heading_of_member gives say (List.mem_map.mpr ⟨_, isMember, rfl⟩) isHeading
    refine Option.ext fun json => ?_
    rw [Json.lookup?_perm written order, Json.lookup?_eq_some_iff written, List.mem_append,
      or_iff_left (noMember json), Json.lookup?_eq_some_iff nodup_heading]

theorem Mirrors.matches (mirrors : Mirrors name enabled kind url values entry)
    (gives : (levelOf kind).Gives values) (distinct : Distinct values) {option : OptionSpec}
    (isOwn : option ∈ ownOptions kind) : Matches ⟨values, url, none⟩ entry option := by
  cases mirrors with
  | @intro members _ say order =>
    have written : ((heading name enabled kind url ++ members).map Prod.fst).Nodup :=
      nodup_written gives distinct say
    cases found : Given.value? ⟨values, url, none⟩ option.name with
    | none =>
      refine .absent found (Json.lookup?_eq_none_iff.mpr fun isKey => ?_)
      rw [(order.map Prod.fst).mem_iff, List.map_append, List.mem_append, keys_of_same say] at isKey
      rcases isKey with isHeading | isMember
      · exact keyOf_not_heading isOwn (keys_heading.subset isHeading)
      · obtain ⟨given, known, sameKey⟩ := List.mem_map.mp isMember
        obtain ⟨other, alsoOwn, sameName, -⟩ := own_of_gives gives known
        rw [← sameName] at sameKey
        obtain rfl := keyOf_injOn alsoOwn isOwn sameKey
        exact Given.value?_eq_none_iff.mp found
          (List.mem_map.mpr ⟨given, (List.mem_filter.mp known).1, sameName.symm⟩)
    | some value =>
      obtain ⟨known, fits⟩ := known_of_value? gives isOwn found
      obtain ⟨⟨key, json⟩, isMember, sameKey, same⟩ := exists_member_of_same say known
      refine .same found ?_ same fits
      rw [Json.lookup?_perm written order, Json.lookup?_eq_some_iff written, ← sameKey]
      exact List.mem_append_right _ isMember

end

/-- What is asked for in a value of this kind, and how it is read from an entry. -/
inductive Kind.Reads : {A : Type} → Kind → (Value → Option A) → (Json → Option A) → Prop where
  | text : Kind.text.Reads Value.text? Json.asText?
  | port : Kind.port.Reads (fun value => value.port?.map UInt16.toNat)
      (Json.asNat? Text.shortLimit)
  | int32 : Kind.int32.Reads Value.int32? Json.asInt32?
  | word : Kind.word.Reads Value.word? (Json.asNat? Text.wordLimit)
  | double : Kind.double.Reads Value.double? Json.asDouble?
  | char : Kind.char.Reads Value.char? Json.asChar?

theorem Kind.Reads.agree {A : Type} {kind : Kind} {ask : Value → Option A}
    {decode : Json → Option A} (reads : kind.Reads ask decode) {name : String} {value : Value}
    {json : Json} (fits : kind.Fits value) (same : Says name value json) :
    ∃ known, ask value = some known ∧ decode json = some known := by
  cases reads with
  | text =>
    cases same with
    | text => exact ⟨_, rfl, Json.asText?_str _⟩
    | _ => cases fits
  | port =>
    cases same with
    | @port number => exact ⟨_, rfl, Json.asNat?_ofNat number.toNat_lt⟩
    | _ => cases fits
  | int32 =>
    cases same with
    | int32 => exact ⟨_, rfl, Json.asInt32?_toInt _⟩
    | _ => cases fits
  | word =>
    cases same with
    | word => exact ⟨_, rfl, Json.asNat?_ofNat fits⟩
    | _ => cases fits
  | double =>
    cases same with
    | double => exact ⟨_, rfl, rfl⟩
    | whole => exact ⟨_, rfl, rfl⟩
    | _ => cases fits
  | char =>
    cases same with
    | char => exact ⟨_, rfl, Json.asChar?_singleton _⟩
    | _ => cases fits

namespace Matches

variable {given : Given} {entry : Json.Members} {option : OptionSpec} {key : String}

theorem agrees {A : Type} {ask : Value → Option A} {decode : Json → Option A} {kind : Kind}
    (both : Matches given entry option) (takes : option.action = .value kind)
    (isKey : keyOf option.name = key) (reads : kind.Reads ask decode) :
    Json.Finds decode key entry ((given.value? option.name).bind ask) := by
  subst isKey
  unfold Json.Finds
  cases both with
  | absent noValue noMember => rw [noMember, noValue]; rfl
  | @same value json hasValue hasMember sameValue gives =>
    rw [takes] at gives
    obtain ⟨text, read⟩ := gives
    obtain ⟨known, isAsked, isRead⟩ := reads.agree (Kind.fits_of_read read) sameValue
    rw [hasMember, hasValue, Option.bind_some, isAsked, Option.map_some, isRead]
    rfl

/-- A flag that is given says the opposite of what is meant without it. -/
theorem flag (both : Matches given entry option) (isFlag : option.action = .flag)
    (isKey : keyOf option.name = key) :
    Json.withDefault? Json.asBool? (isOff option.name) key entry =
      some (given.has option.name != isOff option.name) := by
  subst isKey
  unfold Json.withDefault? Given.has
  cases both with
  | absent noValue noMember => simp [noMember, noValue]
  | @same value json hasValue hasMember sameValue gives =>
    rw [isFlag] at gives
    obtain rfl : value = .bool true := gives
    cases sameValue
    simp [hasMember, hasValue, Json.asBool?]

theorem on (both : Matches given entry option) (isFlag : option.action = .flag)
    (isKey : keyOf option.name = key) (isOn : isOff option.name = false) :
    Json.withDefault? Json.asBool? false key entry = some (given.has option.name) := by
  simpa [isOn] using both.flag isFlag isKey

theorem off (both : Matches given entry option) (isFlag : option.action = .flag)
    (isKey : keyOf option.name = key) (turnsOff : isOff option.name = true) :
    Json.withDefault? Json.asBool? true key entry = some (!given.has option.name) := by
  simpa [turnsOff] using both.flag isFlag isKey

end Matches

end ServerProbe.CommandLine
