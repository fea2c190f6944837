import ServerProbe.Probe.Request
import ServerProbe.Suite.Variables
import ServerProbe.Toml.Document

/-! Suites: named probes with settings, and the order in which they run.

A suite is read from the members of a TOML document. Every key of the suite and
of its probes must be one that the written form of the value has too, so that a
misspelled key is found.
-/

set_option autoImplicit false

namespace ServerProbe.Suite

inductive ProbeSettings where
  | disconnect (settings : DisconnectSettings)
  | stall (settings : StallSettings)
  | stress (settings : StressSettings)
  deriving DecidableEq

namespace ProbeSettings

def kind : ProbeSettings → String
  | .disconnect _ => "disconnect"
  | .stall _ => "stall"
  | .stress _ => "stress"

def check : ProbeSettings → Check.Result
  | .disconnect settings => settings.check
  | .stall settings => settings.check
  | .stress settings => settings.check

-- Whether the probe can be set up. Without clients there is nothing to set up.
def checkClient : ProbeSettings → Check.Result
  | .disconnect _ => .ok ()
  | .stall settings => settings.checkClient
  | .stress settings => if settings.clients = 0 then .ok () else settings.stall.checkClient

def toMembers : ProbeSettings → Json.Members
  | .disconnect settings => settings.toMembers
  | .stall settings => settings.toMembers
  | .stress settings => settings.toMembers

def ofMembers? (kind : String) (members : Json.Members) : Option ProbeSettings :=
  if kind = "disconnect" then (DisconnectSettings.ofMembers? members).map .disconnect
  else if kind = "stall" then (StallSettings.ofMembers? members).map .stall
  else if kind = "stress" then (StressSettings.ofMembers? members).map .stress
  else none

end ProbeSettings

structure ProbeDefinition where
  name : String
  enabled : Option Bool
  settings : ProbeSettings
  deriving DecidableEq

namespace ProbeDefinition

def isEnabled (definition : ProbeDefinition) : Bool :=
  definition.enabled.getD true

def toMembers (definition : ProbeDefinition) : Json.Members :=
  ("name", .str definition.name) ::
    ("enabled", .ofOption .bool definition.enabled) ::
    ("type", .str definition.settings.kind) :: definition.settings.toMembers

def ofMembers? (members : Json.Members) : Option ProbeDefinition := do
  let name ← Json.required? Json.asText? "name" members
  let enabled ← Json.optional? Json.asBool? "enabled" members
  let kind ← Json.required? Json.asText? "type" members
  let settings ← ProbeSettings.ofMembers? kind members
  return { name, enabled, settings }

def ofJson? : Json → Option ProbeDefinition
  | .obj members => ofMembers? members
  | _ => none

end ProbeDefinition

structure Info where
  name : String
  description : Option String
  stopOnFailure : Option Bool
  /-- The names of the probes in the order in which they run; the order of the file if missing. -/
  executionOrder : Option (List String)
  deriving DecidableEq

namespace Info

def toMembers (info : Info) : Json.Members := [
  ("name", .str info.name),
  ("description", .ofOption .str info.description),
  ("stop_on_failure", .ofOption .bool info.stopOnFailure),
  ("execution_order", .ofOption (fun names => .arr (names.map .str)) info.executionOrder)]

def ofMembers? (members : Json.Members) : Option Info := do
  let name ← Json.required? Json.asText? "name" members
  let description ← Json.optional? Json.asText? "description" members
  let stopOnFailure ← Json.optional? Json.asBool? "stop_on_failure" members
  let executionOrder ← Json.optional? Json.asTexts? "execution_order" members
  return { name, description, stopOnFailure, executionOrder }

/-- An array gives the four values in order. -/
def ofJson? : Json → Option Info
  | .obj members => ofMembers? members
  | .arr (name :: description :: stop :: order :: _) => do
    let name ← name.asText?
    let description ← description.asText?
    let stop ← stop.asBool?
    let order ← order.asTexts?
    return ⟨name, some description, some stop, some order⟩
  | _ => none

end Info

structure Plan where
  info : Info
  probes : List ProbeDefinition
  deriving DecidableEq

namespace Plan

def stopOnFailure (plan : Plan) : Bool :=
  plan.info.stopOnFailure.getD false

def find? (plan : Plan) (name : String) : Option ProbeDefinition :=
  plan.probes.find? fun definition => definition.name == name

def toJson (plan : Plan) : Json :=
  .obj [
    ("suite", .obj plan.info.toMembers),
    ("probes", .arr (plan.probes.map fun definition => .obj definition.toMembers))]

def probesOf? : Option Json → Option (List ProbeDefinition)
  | none => some []
  | some (.arr items) => items.mapM ProbeDefinition.ofJson?
  | some _ => none

def ofMembers? (members : Json.Members) : Option Plan := do
  let info ← (Json.lookup? "suite" members).bind Info.ofJson?
  let probes ← probesOf? (Json.lookup? "probes" members)
  return ⟨info, probes⟩

/-- The key that comes first in the order of characters. -/
def firstKey : List String → Option String
  | [] => none
  | key :: rest =>
    match firstKey rest with
    | some other => if other < key then some other else some key
    | none => some key

def checkKeys (field : String) (known : Json.Members) (table : Json.Members) : Check.Result :=
  let unknown := (table.map Prod.fst).filter fun key => !(known.map Prod.fst).contains key
  match firstKey unknown with
  | some key => .error (.invalidSuite field ("Unknown key '" ++ key ++ "'"))
  | none => .ok ()

def checkProbeKeys : List ProbeDefinition → List Json → Check.Result
  | definition :: definitions, .obj table :: tables => do
    checkKeys ("probes." ++ definition.name) definition.toMembers table
    checkProbeKeys definitions tables
  | _ :: definitions, _ :: tables => checkProbeKeys definitions tables
  | _, _ => .ok ()

def checkAllKeys (plan : Plan) (members : Json.Members) : Check.Result := do
  match Json.lookup? "suite" members with
  | some (.obj table) => checkKeys "suite" plan.info.toMembers table
  | _ => .ok ()
  match Json.lookup? "probes" members with
  | some (.arr tables) => checkProbeKeys plan.probes tables
  | _ => .ok ()

def unreadable (reason : String) : Failure :=
  .invalidSuite "toml_parsing" ("TOML parsing error: " ++ reason)

/-- Reads a suite from the text of a file, after its variables are replaced. -/
def ofText (environment : Environment) (text : String) : Except Failure Plan :=
  match Toml.ofText? (String.ofList (substitute environment text.toList)) with
  | none => .error (unreadable "the text is not a document")
  | some members =>
    match ofMembers? members with
    | none => .error (unreadable "the document is not a suite")
    | some plan => (checkAllKeys plan members).map fun () => plan

def checkProbes (before : List String) : List ProbeDefinition → Check.Result
  | [] => .ok ()
  | definition :: rest => do
    Check.notBlank "probes.name" definition.name
    if before.contains definition.name then
      .error (.invalidSuite "probes.name" ("Duplicate probe name '" ++ definition.name ++ "'"))
    else .ok ()
    definition.settings.check
    checkProbes (definition.name :: before) rest

def unknownProbe (name : String) : Failure :=
  .invalidSuite "suite.execution_order" ("Unknown probe '" ++ name ++ "'")

def checkOrder (plan : Plan) : List String → Check.Result
  | [] => .ok ()
  | name :: rest =>
    if (plan.find? name).isSome then plan.checkOrder rest else .error (unknownProbe name)

def check (plan : Plan) : Check.Result := do
  Check.notBlank "suite.name" plan.info.name
  if plan.probes.isEmpty then .error (.invalidSuite "probes" "Suite defines no probes")
  else .ok ()
  checkProbes [] plan.probes
  match plan.info.executionOrder with
  | some order => plan.checkOrder order
  | none => .ok ()

def named (plan : Plan) : List String → Except Failure (List ProbeDefinition)
  | [] => .ok []
  | name :: rest =>
    match plan.find? name with
    | some definition => (plan.named rest).map (definition :: ·)
    | none => .error (unknownProbe name)

/-- The probes that are switched on, in the order in which they run. -/
def ordered (plan : Plan) : Except Failure (List ProbeDefinition) :=
  let inOrder :=
    match plan.info.executionOrder with
    | some order => plan.named order
    | none => .ok plan.probes
  inOrder.map fun definitions => definitions.filter ProbeDefinition.isEnabled

def setUp : List ProbeDefinition → Check.Result
  | [] => .ok ()
  | definition :: rest => do
    definition.settings.checkClient
    setUp rest

def build (plan : Plan) : Except Failure (List ProbeDefinition) := do
  let definitions ← plan.ordered
  setUp definitions
  return definitions

end Plan

end ServerProbe.Suite
