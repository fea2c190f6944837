import ServerProbe.Settings.Stall

/-! Settings of the probe that makes echo calls from several clients at once. -/

set_option autoImplicit false

namespace ServerProbe

def maxClients : Nat := 1024

structure StressSettings where
  stall : StallSettings
  clients : Nat := 4
  callsPerClient : Nat := 1
  deriving DecidableEq

namespace StressSettings

def check (settings : StressSettings) : Check.Result := do
  settings.stall.check
  Check.between "stress.clients" settings.clients 1 maxClients
  Check.atLeast "stress.calls_per_client" settings.callsPerClient 1

def clientNames (name : String) (settings : StressSettings) : List String :=
  (List.range settings.clients).map fun number => name ++ "-client-" ++ toString number

def toMembers (settings : StressSettings) : Json.Members :=
  settings.stall.toMembers ++ [
    ("clients", .ofNat settings.clients),
    ("calls_per_client", .ofNat settings.callsPerClient)]

def ofMembers? (members : Json.Members) : Option StressSettings := do
  let word := Json.asNat? Text.wordLimit
  let stall ← StallSettings.ofMembers? members
  let clients ← Json.withDefault? word 4 "clients" members
  let callsPerClient ← Json.withDefault? word 1 "calls_per_client" members
  return { stall, clients, callsPerClient }

end StressSettings

end ServerProbe
