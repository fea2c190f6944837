import ServerProbe.Proofs.CommandLine.Entry

/-! What settings have of the options that were given.

Settings from a command line are written with the value of each option that was
given, under its key, and with the default for every other option.
-/

set_option autoImplicit false

namespace ServerProbe.CommandLine

open Json (lookup?)

/-- How settings write what an option gives. A flag is a switch that is on, or off if the flag
switches something off. The output is no setting. -/
def Value.written (name : String) : Value → Json
  | .text given => .str given
  | .output _ => .null
  | .bool _ => .bool (!isOff name)
  | .port given => .ofNat given.toNat
  | .int32 given => .int given.toInt
  | .word given => .ofNat given
  | .double given => .ofDouble given
  | .char given => .str (String.ofList [given])

def Given.written? (given : Given) (name : String) : Option Json :=
  (given.value? name).map (Value.written name)

/-- What is asked for in a value of this kind, and how settings write it. -/
inductive Kind.Writes : {A : Type} → Kind → (Value → Option A) → (A → Json) → Prop where
  | text : Kind.text.Writes Value.text? .str
  | port : Kind.port.Writes Value.port? fun port => .ofNat port.toNat
  | int32 : Kind.int32.Writes Value.int32? fun number => .int number.toInt
  | word : Kind.word.Writes Value.word? .ofNat
  | double : Kind.double.Writes Value.double? .ofDouble
  | char : Kind.char.Writes Value.char? fun c => .str (String.ofList [c])

theorem Kind.Writes.written_eq {A : Type} {kind : Kind} {ask : Value → Option A}
    {encode : A → Json} (writes : kind.Writes ask encode) {value : Value}
    (fits : kind.Fits value) (name : String) : some (value.written name) = (ask value).map encode := by
  cases writes <;> cases value <;> first | rfl | cases fits

def Typed (given : Given) (option : OptionSpec) : Prop :=
  ∀ value, given.value? option.name = some value → option.action.Gives value

namespace Typed

variable {given : Given} {option : OptionSpec}

theorem written?_eq {A : Type} {ask : Value → Option A} {encode : A → Json} {kind : Kind}
    (typed : Typed given option) (takes : option.action = .value kind)
    (writes : kind.Writes ask encode) :
    given.written? option.name = ((given.value? option.name).bind ask).map encode := by
  unfold Given.written?
  cases found : given.value? option.name with
  | none => rfl
  | some value =>
    have gives := typed value found
    rw [takes] at gives
    obtain ⟨text, read⟩ := gives
    exact writes.written_eq (Kind.fits_of_read read) option.name

theorem flag (typed : Typed given option) (isFlag : option.action = .flag) :
    given.written? option.name =
      if given.has option.name then some (.bool (!isOff option.name)) else none := by
  unfold Given.written? Given.has
  cases found : given.value? option.name with
  | none => rfl
  | some value =>
    have gives := typed value found
    rw [isFlag] at gives
    obtain rfl : value = .bool true := gives
    rfl

end Typed

/-- Under the key of the option, the members have what was given, or what the others have by
default. -/
def Overlays (given : Given) (defaults members : Json.Members) (option : OptionSpec) : Prop :=
  lookup? (keyOf option.name) members =
    (given.written? option.name).or (lookup? (keyOf option.name) defaults)

section
variable {A : Type} {encode : A → Json} {picked : Option A} {given : Given} {option : OptionSpec}
  (key : String) {defaults members : Json.Members}

theorem overlays_default (shown : given.written? option.name = picked.map encode)
    (isKey : keyOf option.name = key) {default : A}
    (has : lookup? key members = some (encode (picked.getD default)))
    (hasDefault : lookup? key defaults = some (encode default)) :
    Overlays given defaults members option := by
  subst isKey
  rw [Overlays, has, hasDefault, shown]
  cases picked <;> rfl

theorem overlays_optional (shown : given.written? option.name = picked.map encode)
    (isKey : keyOf option.name = key)
    (has : lookup? key members = some (.ofOption encode picked))
    (hasDefault : lookup? key defaults = some .null) :
    Overlays given defaults members option := by
  subst isKey
  rw [Overlays, has, hasDefault, shown]
  cases picked <;> rfl

theorem overlays_on (typed : Typed given option) (isFlag : option.action = .flag)
    (isOn : isOff option.name = false) (isKey : keyOf option.name = key)
    (has : lookup? key members = some (.bool (given.has option.name)))
    (hasDefault : lookup? key defaults = some (.bool false)) :
    Overlays given defaults members option := by
  subst isKey
  rw [Overlays, has, hasDefault, typed.flag isFlag, isOn]
  cases given.has option.name <;> rfl

theorem overlays_off (typed : Typed given option) (isFlag : option.action = .flag)
    (turnsOff : isOff option.name = true) (isKey : keyOf option.name = key)
    (has : lookup? key members = some (.bool (!given.has option.name)))
    (hasDefault : lookup? key defaults = some (.bool true)) :
    Overlays given defaults members option := by
  subst isKey
  rw [Overlays, has, hasDefault, typed.flag isFlag, turnsOff]
  cases given.has option.name <;> rfl

theorem Overlays.append (overlays : Overlays given defaults members option)
    {moreDefaults more : Json.Members} (noDefault : keyOf option.name ∉ moreDefaults.map Prod.fst)
    (noMember : keyOf option.name ∉ more.map Prod.fst) :
    Overlays given (defaults ++ moreDefaults) (members ++ more) option := by
  unfold Overlays at overlays ⊢
  rw [Json.lookup?_append, Json.lookup?_append, Json.lookup?_eq_none_iff.mpr noDefault,
    Json.lookup?_eq_none_iff.mpr noMember, Option.or_none, Option.or_none, overlays]

end

section
variable {given : Given}

theorem overlays_disconnectSettings
    (typed : ∀ option ∈ ownOptions "disconnect", Typed given option) :
    ∀ option ∈ ownOptions "disconnect",
      Overlays given DisconnectSettings.defaults.toMembers (disconnectSettings given).toMembers
        option := by
  have options : ownOptions "disconnect" = disconnectLevel.options.drop 5 := by decide
  simp only [options, disconnectLevel, commonOptions, List.cons_append, List.nil_append,
    List.drop_succ_cons, List.drop_zero, List.forall_mem_cons] at typed ⊢
  obtain ⟨host, port, tls, verify, fingerprint, requested, declared, sent, timeout, agent, -⟩ :=
    typed
  exact ⟨overlays_default "host" (host.written?_eq rfl .text) (by decide) rfl rfl,
    overlays_default "port" (port.written?_eq rfl .port) (by decide) rfl rfl,
    overlays_off "tls" tls rfl (by decide) (by decide) rfl rfl,
    overlays_on "verify" verify rfl (by decide) (by decide) rfl rfl,
    overlays_optional "server_fingerprint" (fingerprint.written?_eq rfl .text) (by decide) rfl rfl,
    overlays_default "requested_size" (requested.written?_eq rfl .int32) (by decide) rfl rfl,
    overlays_optional "declared_length" (declared.written?_eq rfl .word) (by decide) rfl rfl,
    overlays_optional "send_bytes" (sent.written?_eq rfl .word) (by decide) rfl rfl,
    overlays_optional "timeout_seconds" (timeout.written?_eq rfl .word) (by decide) rfl rfl,
    overlays_optional "user_agent" (agent.written?_eq rfl .text) (by decide) rfl rfl, by simp⟩

variable {url : String}

theorem overlays_stallSettings (typed : ∀ option ∈ stallOptions, Typed given option) :
    ∀ option ∈ stallOptions,
      Overlays given (StallSettings.ofUrl url).toMembers (stallSettings url given).toMembers
        option := by
  simp only [stallOptions, List.forall_mem_cons] at typed ⊢
  obtain ⟨payload, fill, threshold, timeout, expect, proxy, verify, -⟩ := typed
  exact ⟨overlays_default "payload_len" (payload.written?_eq rfl .word) (by decide) rfl rfl,
    overlays_default "fill" (fill.written?_eq rfl .char) (by decide) rfl rfl,
    overlays_default "threshold_seconds" (threshold.written?_eq rfl .double) (by decide) rfl rfl,
    overlays_optional "timeout_seconds" (timeout.written?_eq rfl .word) (by decide) rfl rfl,
    overlays_off "expect_continue" expect rfl (by decide) (by decide) rfl rfl,
    overlays_optional "proxy" (proxy.written?_eq rfl .text) (by decide) rfl rfl,
    overlays_on "verify" verify rfl (by decide) (by decide) rfl rfl, by simp⟩

theorem overlays_stressSettings (typed : ∀ option ∈ ownOptions "stress", Typed given option) :
    ∀ option ∈ ownOptions "stress",
      Overlays given (StressSettings.toMembers { stall := .ofUrl url })
        (stressSettings url given).toMembers option := by
  have options : ownOptions "stress" =
      stallOptions ++ [taking "clients" .word, taking "calls-per-client" .word] := by decide
  rw [options] at typed ⊢
  obtain ⟨stall, own⟩ := List.forall_mem_append.mp typed
  obtain ⟨clients, calls, -⟩ : Typed given (taking "clients" .word) ∧
      Typed given (taking "calls-per-client" .word) ∧ True := by simpa using own
  refine List.forall_mem_append.mpr ⟨fun option member => ?_, ?_⟩
  · have other : keyOf option.name ∉ ["clients", "calls_per_client"] := by
      revert option
      decide
    exact (overlays_stallSettings stall option member).append other other
  · simp only [List.forall_mem_cons]
    exact ⟨overlays_default "clients" (clients.written?_eq rfl .word) (by decide) rfl rfl,
      overlays_default "calls_per_client" (calls.written?_eq rfl .word) (by decide) rfl rfl, by simp⟩

end

end ServerProbe.CommandLine
