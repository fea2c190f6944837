import ServerProbe.Proofs.CommandLine.Written
import ServerProbe.Session

/-! A command line and an entry of a suite that say the same.

Whichever options are given, the settings that they come to are those of the entry,
with the same defaults for what is left out.
-/

set_option autoImplicit false

namespace ServerProbe.CommandLine

open Json (Finds lookup? withDefault? optional? required?)

section
variable {given : Given} {entry : Json.Members}

open DisconnectSettings (defaults) in
theorem disconnectSettings_agree
    (both : ∀ option ∈ ownOptions "disconnect", Matches given entry option) :
    DisconnectSettings.ofMembers? entry = some (disconnectSettings given) := by
  have host : Finds Json.asText? "host" entry (given.text? "host") :=
    (both (taking "host" .text) (by decide)).agrees rfl (by decide) .text
  have port : Finds (Json.asNat? Text.shortLimit) "port" entry
      ((given.port? "port").map UInt16.toNat) := by
    rw [Given.port?, Option.map_bind]
    exact (both { name := "port", letter := some 'p', action := .value .port }
      (by decide)).agrees rfl (by decide) .port
  have tls : withDefault? Json.asBool? defaults.tls "tls" entry = some (!given.has "no-tls") :=
    (both (flag "no-tls") (by decide)).off rfl (by decide) (by decide)
  have verify : withDefault? Json.asBool? defaults.verify "verify" entry =
      some (given.has "verify") :=
    (both (flag "verify") (by decide)).on rfl (by decide) (by decide)
  have fingerprint : Finds Json.asText? "server_fingerprint" entry
      (given.text? "server-fingerprint") :=
    (both (taking "server-fingerprint" .text) (by decide)).agrees rfl (by decide) .text
  have requested : Finds Json.asInt32? "requested_size" entry (given.int32? "requested-size") :=
    (both (taking "requested-size" .int32) (by decide)).agrees rfl (by decide) .int32
  have declared : Finds (Json.asNat? Text.wordLimit) "declared_length" entry
      (given.word? "declared-length") :=
    (both (taking "declared-length" .word) (by decide)).agrees rfl (by decide) .word
  have sent : Finds (Json.asNat? Text.wordLimit) "send_bytes" entry (given.word? "send-bytes") :=
    (both (taking "send-bytes" .word) (by decide)).agrees rfl (by decide) .word
  have timeout : Finds (Json.asNat? Text.wordLimit) "timeout_seconds" entry
      (given.word? "timeout") :=
    (both (taking "timeout" .word) (by decide)).agrees rfl (by decide) .word
  have agent : Finds Json.asText? "user_agent" entry (given.text? "user-agent") :=
    (both (taking "user-agent" .text) (by decide)).agrees rfl (by decide) .text
  have portKept : UInt16.ofNat (((given.port? "port").map UInt16.toNat).getD defaults.port.toNat) =
      (given.port? "port").getD defaults.port := by
    cases given.port? "port" <;> simp
  unfold DisconnectSettings.ofMembers? disconnectSettings
  simp only [host.withDefault?, port.withDefault?, tls, verify, fingerprint.optional? rfl,
    requested.withDefault?, declared.optional? rfl, sent.optional? rfl, timeout.optional? rfl,
    agent.optional? rfl, Option.bind_eq_bind, Option.bind_some, portKept]
  rfl

variable {url : String}

open StallSettings (ofUrl) in
theorem stallSettings_agree (both : ∀ option ∈ stallOptions, Matches given entry option)
    (address : required? Json.asText? "url" entry = some url) :
    StallSettings.ofMembers? entry = some (stallSettings url given) := by
  have payload : Finds (Json.asNat? Text.wordLimit) "payload_len" entry
      (given.word? "payload-len") :=
    (both (taking "payload-len" .word) (by decide)).agrees rfl (by decide) .word
  have fill : Finds Json.asChar? "fill" entry (given.char? "fill") :=
    (both (taking "fill" .char) (by decide)).agrees rfl (by decide) .char
  have threshold : Finds Json.asDouble? "threshold_seconds" entry (given.double? "threshold") :=
    (both (taking "threshold" .double) (by decide)).agrees rfl (by decide) .double
  have timeout : Finds (Json.asNat? Text.wordLimit) "timeout_seconds" entry
      (given.word? "timeout") :=
    (both (taking "timeout" .word) (by decide)).agrees rfl (by decide) .word
  have expect : withDefault? Json.asBool? (ofUrl url).expectContinue "expect_continue" entry =
      some (!given.has "no-expect") :=
    (both (flag "no-expect") (by decide)).off rfl (by decide) (by decide)
  have proxy : Finds Json.asText? "proxy" entry (given.text? "proxy") :=
    (both (taking "proxy" .text) (by decide)).agrees rfl (by decide) .text
  have verify : withDefault? Json.asBool? (ofUrl url).verify "verify" entry =
      some (given.has "verify") :=
    (both (flag "verify") (by decide)).on rfl (by decide) (by decide)
  unfold StallSettings.ofMembers? stallSettings
  simp only [address, payload.withDefault?, fill.withDefault?, threshold.withDefault?, expect,
    verify, timeout.optional? rfl, proxy.optional? rfl, Option.bind_eq_bind, Option.bind_some]
  rfl

theorem stressSettings_agree (both : ∀ option ∈ ownOptions "stress", Matches given entry option)
    (address : required? Json.asText? "url" entry = some url) :
    StressSettings.ofMembers? entry = some (stressSettings url given) := by
  have stall : StallSettings.ofMembers? entry = some (stallSettings url given) :=
    stallSettings_agree (fun option member => both option (by revert option; decide)) address
  have clients : Finds (Json.asNat? Text.wordLimit) "clients" entry (given.word? "clients") :=
    (both (taking "clients" .word) (by decide)).agrees rfl (by decide) .word
  have calls : Finds (Json.asNat? Text.wordLimit) "calls_per_client" entry
      (given.word? "calls-per-client") :=
    (both (taking "calls-per-client" .word) (by decide)).agrees rfl (by decide) .word
  unfold StressSettings.ofMembers? stressSettings
  simp only [stall, clients.withDefault?, calls.withDefault?, Option.bind_eq_bind,
    Option.bind_some]
  rfl

end

def probeKinds : List String := ["disconnect", "stall", "stress"]

theorem command_of_probeKind : ∀ kind ∈ probeKinds, kind ∈ commandNames ∧ kind ≠ "help" := by
  decide

def commandFor : Suite.ProbeSettings → Command
  | .disconnect settings => .disconnect settings
  | .stall settings => .stall settings
  | .stress settings => .stress settings

/-- A command line for a probe of this kind. It gives each option at most once in front of the
command and at most once behind it. Behind it are these values, and the address if the command
takes one. -/
inductive RunsProbe (kind : String) (values : List (String × Value)) (url : Option String) :
    List String → Prop where
  | intro {front arguments : List String} {before : List (String × Value)} :
      kind ∈ probeKinds → url.isSome = (levelOf kind).takesArgument →
      Spells topLevel front before none → Distinct before →
      SpellsAll (levelOf kind) arguments values url → Distinct values →
      RunsProbe kind values url (front ++ kind :: arguments)

/-- The settings of a probe of the same kind, with the same address, of which nothing is given. -/
def bare : Suite.ProbeSettings → Suite.ProbeSettings
  | .disconnect _ => .disconnect .defaults
  | .stall settings => .stall (.ofUrl settings.url)
  | .stress settings => .stress { stall := .ofUrl settings.stall.url }

/-- Settings that have what is given, and the defaults for all other options. -/
structure Reflects (kind : String) (values : List (String × Value)) (url : Option String)
    (settings : Suite.ProbeSettings) : Prop where
  sameKind : settings.kind = kind
  address : lookup? "url" settings.toMembers = url.map .str
  options : ∀ option ∈ ownOptions kind,
    Overlays ⟨values, url, none⟩ (bare settings).toMembers settings.toMembers option

theorem ofInvocation_commandFor (surroundings : Surroundings) {invocation : Invocation}
    {settings : Suite.ProbeSettings} (runs : invocation.command = commandFor settings) :
    Session.ofInvocation surroundings invocation =
      Session.ofProbe surroundings.network invocation.strict invocation.output settings := by
  unfold Session.ofInvocation
  rw [runs]
  cases settings <;> rfl

section
variable {name kind : String} {enabled : Option Bool} {url : Option String}
  {values : List (String × Value)} {entry : Json.Members}

theorem Mirrors.ofJson? (mirrors : Mirrors name enabled kind url values entry)
    (gives : (levelOf kind).Gives values) (distinct : Distinct values)
    {settings : Suite.ProbeSettings}
    (read : Suite.ProbeSettings.ofMembers? kind entry = some settings) :
    Suite.ProbeDefinition.ofJson? (.obj entry) = some ⟨name, enabled, settings⟩ := by
  have named : required? Json.asText? "name" entry = some name := by
    rw [required?, mirrors.lookup?_heading gives distinct (by decide)]
    rfl
  have typed : required? Json.asText? "type" entry = some kind := by
    rw [required?, mirrors.lookup?_heading gives distinct (by decide)]
    rfl
  have switched : optional? Json.asBool? "enabled" entry = some enabled := by
    unfold optional?
    rw [mirrors.lookup?_heading gives distinct (by decide)]
    cases enabled <;> cases url <;> rfl
  unfold Suite.ProbeDefinition.ofJson? Suite.ProbeDefinition.ofMembers?
  simp only [named, typed, switched, read, Option.bind_eq_bind, Option.bind_some]
  rfl

theorem Mirrors.address {url : String} (mirrors : Mirrors name enabled kind (some url) values entry)
    (gives : (levelOf kind).Gives values) (distinct : Distinct values) :
    required? Json.asText? "url" entry = some url := by
  rw [required?, mirrors.lookup?_heading gives distinct (by decide)]
  cases enabled <;> rfl

theorem Mirrors.exists_settings (mirrors : Mirrors name enabled kind url values entry)
    (isProbe : kind ∈ probeKinds) (hasUrl : url.isSome = (levelOf kind).takesArgument)
    (gives : (levelOf kind).Gives values) (distinct : Distinct values) :
    ∃ settings : Suite.ProbeSettings, Reflects kind values url settings ∧
      commandOf kind ⟨values, url, none⟩ = .ok (commandFor settings) ∧
      Suite.ProbeSettings.ofMembers? kind entry = some settings := by
  have both (option : OptionSpec) (isOwn : option ∈ ownOptions kind) :
      Matches ⟨values, url, none⟩ entry option := mirrors.matches gives distinct isOwn
  have typed (option : OptionSpec) (isOwn : option ∈ ownOptions kind) :
      Typed ⟨values, url, none⟩ option := fun _ found => (known_of_value? gives isOwn found).2
  simp only [probeKinds, List.mem_cons, List.not_mem_nil, or_false] at isProbe
  -- Each kind has options of its own, and the last two have the address as well.
  rcases isProbe with rfl | rfl | rfl
  · have noUrl : url.isNone = true := Option.isSome_eq_false_iff.mp hasUrl
    obtain rfl := Option.isNone_iff_eq_none.mp noUrl
    refine ⟨.disconnect (disconnectSettings ⟨values, none, none⟩),
      ⟨rfl, rfl, overlays_disconnectSettings typed⟩, rfl, ?_⟩
    exact congrArg (Option.map _) (disconnectSettings_agree both)
  · obtain ⟨address, rfl⟩ := Option.isSome_iff_exists.mp hasUrl
    have options : ownOptions "stall" = stallOptions := by decide
    rw [options] at both typed
    refine ⟨.stall (stallSettings address ⟨values, some address, none⟩), ⟨rfl, rfl, ?_⟩, rfl, ?_⟩
    · rw [options]
      exact overlays_stallSettings typed
    · exact congrArg (Option.map _)
        (stallSettings_agree both (mirrors.address gives distinct))
  · obtain ⟨address, rfl⟩ := Option.isSome_iff_exists.mp hasUrl
    refine ⟨.stress (stressSettings address ⟨values, some address, none⟩),
      ⟨rfl, rfl, overlays_stressSettings typed⟩, rfl, ?_⟩
    exact congrArg (Option.map _) (stressSettings_agree both (mirrors.address gives distinct))

/-- When a command line for a probe and an entry of a suite say the same, whichever options they
give and however these are spelled, both are read as the same settings, so the same checks are
made and the same requests are sent. The settings have what is given, and the defaults for what
both leave out. -/
theorem options_agree_with_entry {arguments : List String}
    (runs : RunsProbe kind values url arguments)
    (mirrors : Mirrors name enabled kind url values entry) :
    ∃ (settings : Suite.ProbeSettings) (invocation : Invocation),
      read arguments = .ok invocation ∧ invocation.command = commandFor settings ∧
      Suite.ProbeDefinition.ofJson? (.obj entry) = some ⟨name, enabled, settings⟩ ∧
      Reflects kind values url settings ∧
      ∀ surroundings : Surroundings, Session.ofArguments surroundings arguments =
        Session.ofProbe surroundings.network invocation.strict invocation.output settings := by
  obtain ⟨isProbe, hasUrl, spellsFront, distinctFront, spells, distinct⟩ := runs
  obtain ⟨settings, reflects, command, isRead⟩ :=
    mirrors.exists_settings isProbe hasUrl spells.gives distinct
  obtain ⟨isCommand, noHelp⟩ := command_of_probeKind kind isProbe
  have whole := read_command isCommand noHelp spellsFront distinctFront spells distinct
  dsimp only at whole
  rw [command] at whole
  refine ⟨settings, _, whole, rfl, mirrors.ofJson? spells.gives distinct isRead, reflects, ?_⟩
  intro surroundings
  unfold Session.ofArguments
  rw [whole]
  exact ofInvocation_commandFor surroundings rfl

end

def burstArguments : List String :=
  ["-v", "stress", "--clients=8", "http://localhost/", "--no-expect", "--threshold", "2.5",
    "--timeout=30"]

def burstValues : List (String × Value) := [
  ("clients", .word 8), ("no-expect", .bool true), ("threshold", .double ⟨0x4004000000000000⟩),
  ("timeout", .word 30)]

def burstEntry : Json.Members := [
  ("timeout_seconds", .int 30), ("threshold_seconds", .double ⟨0x4004000000000000⟩),
  ("expect_continue", .bool false), ("clients", .int 8), ("url", .str "http://localhost/"),
  ("type", .str "stress"), ("name", .str "burst")]

theorem burstArguments_run :
    RunsProbe "stress" burstValues (some "http://localhost/") burstArguments := by
  have verbose :
      Names topLevel { name := "verbose", letter := some 'v', action := .flag } "-v" [] :=
    @Names.short _ _ [] [] 'v' .nothing (by decide)
  have clients : Attaches stressLevel (taking "clients" .word) "8" "--clients=8" [] :=
    .long (by decide)
  have expect : Names stressLevel (flag "no-expect") "--no-expect" [] := .long (by decide)
  have threshold : Names stressLevel (taking "threshold" .double) "--threshold" [] :=
    .long (by decide)
  have timeout : Attaches stressLevel (taking "timeout" .word) "30" "--timeout=30" [] :=
    .long (by decide)
  have eight : Kind.word.read "8" = .ok (.word 8) := by
    rw [Kind.read, readable_eq_ok]
    decide
  have thirty : Kind.word.read "30" = .ok (.word 30) := by
    rw [Kind.read, readable_eq_ok]
    decide
  have number : Kind.double.read "2.5" = .ok (.double ⟨0x4004000000000000⟩) := by
    rw [Kind.read, readable_eq_ok]
    decide
  have front : Spells topLevel ["-v"] [("verbose", .bool true)] none :=
    .option (.flag verbose rfl) .nothing
  have own : SpellsAll stressLevel
      ["--clients=8", "http://localhost/", "--no-expect", "--threshold", "2.5", "--timeout=30"]
      burstValues (some "http://localhost/") :=
    .plain <| .option (.attached clients rfl eight) <|
      .word rfl (isWord_of_head? (by decide)) (by decide) <| .option (.flag expect rfl) <|
      .option (.apart threshold rfl (isWord_of_head? (by decide)) number) <|
      .option (.attached timeout rfl thirty) .nothing
  exact .intro (by decide) rfl front (by decide) own (by decide)

theorem burstEntry_mirrors :
    Mirrors "burst" none "stress" (some "http://localhost/") burstValues burstEntry := by
  have same : List.Forall₂ SaysSame (ownValues burstValues)
      [("clients", .int 8), ("expect_continue", .bool false),
        ("threshold_seconds", .double ⟨0x4004000000000000⟩), ("timeout_seconds", .int 30)] :=
    .cons ⟨by decide, .word⟩ <| .cons ⟨by decide, .flag⟩ <| .cons ⟨by decide, .double⟩ <|
      .cons ⟨by decide, .word⟩ .nil
  refine .intro same ?_
  show (List.reverse [
    ("name", Json.str "burst"), ("type", .str "stress"), ("url", .str "http://localhost/"),
    ("clients", .int 8), ("expect_continue", .bool false),
    ("threshold_seconds", .double ⟨0x4004000000000000⟩), ("timeout_seconds", .int 30)]).Perm _
  exact List.reverse_perm _

def burstSettings : StressSettings where
  stall := {
    url := "http://localhost/"
    thresholdSeconds := ⟨0x4004000000000000⟩
    expectContinue := false
    timeoutSeconds := some 30 }
  clients := 8

theorem burst_options_agree :
    RunsProbe "stress" burstValues (some "http://localhost/") burstArguments ∧
      Mirrors "burst" none "stress" (some "http://localhost/") burstValues burstEntry ∧
      Reflects "stress" burstValues (some "http://localhost/") (.stress burstSettings) ∧
      ∃ invocation, read burstArguments = .ok invocation ∧
        invocation.command = .stress burstSettings ∧
        Suite.ProbeDefinition.ofJson? (.obj burstEntry) =
          some ⟨"burst", none, .stress burstSettings⟩ := by
  obtain ⟨settings, invocation, read, command, entry, reflects, -⟩ :=
    options_agree_with_entry burstArguments_run burstEntry_mirrors
  have known : Suite.ProbeDefinition.ofJson? (.obj burstEntry) =
      some ⟨"burst", none, .stress burstSettings⟩ := by decide
  rw [known] at entry
  cases entry
  exact ⟨burstArguments_run, burstEntry_mirrors, reflects, invocation, read, command, known⟩

end ServerProbe.CommandLine
