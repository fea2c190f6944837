import ServerProbe.Probe.Stall

/-! The probe that makes echo calls from several clients at once. A call that fails is counted, and
ends nothing; a client that cannot keep its outcomes ends the probe. -/

set_option autoImplicit false

namespace ServerProbe

def StressReport.ofCalls (calls : List (Option StallReport)) : StressReport :=
  calls.foldl record .empty

namespace StressSettings

def callLog (client number : Nat) (call : Attempt StallReport) : Log :=
  match call.outcome with
  | .ok _ => call.log
  | .error failure =>
    call.log ++ [Log.warn ("Client " ++ toString client ++ " call " ++ toString number ++
      " failed: " ++ failure.message)]

/-- The calls of all clients, each with the numbers of its client and of itself. -/
def calls (network : Network) (settings : StressSettings) :
    List (Nat × Nat × Attempt StallReport) :=
  (List.range settings.clients).flatMap fun client =>
    (List.range settings.callsPerClient).map fun number =>
      (client, number, settings.stall.call network)

def attemptAll (network : Network) (settings : StressSettings) : Attempt StressReport :=
  let calls := settings.calls network
  let report := StressReport.ofCalls (calls.map fun (_, _, call) => call.outcome.toOption)
  { outcome := .ok report
    duration := report.maxElapsed
    log := calls.flatMap fun (client, number, call) => callLog client number call
    received := calls.flatMap fun (_, _, call) => call.received }

/-- The bytes of memory that the outcome of one call takes. -/
def outcomeSize : Nat := 88

/-- The outcomes of all calls of a client fit into memory. -/
def HasRoom (settings : StressSettings) : Prop :=
  settings.callsPerClient * outcomeSize < Http.sizeLimit

instance (settings : StressSettings) : Decidable settings.HasRoom :=
  inferInstanceAs (Decidable (_ < _))

-- A client makes room for all outcomes before its first call. As all clients are to make equally
-- many calls, none of them makes any when there is no room, and the first one ends the probe.
def attempt (network : Network) (settings : StressSettings) : Attempt StressReport :=
  if settings.clients = 0 ∨ settings.HasRoom then settings.attemptAll network
  else .failed .noRoom []

end StressSettings

end ServerProbe
