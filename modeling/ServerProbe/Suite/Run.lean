import ServerProbe.Probe.Disconnect
import ServerProbe.Probe.Stress
import ServerProbe.Suite.Execution
import ServerProbe.Suite.Plan

/-! Running the probes of a suite on a network. -/

set_option autoImplicit false

namespace ServerProbe.Suite

def ProbeSettings.attempt (network : Network) : ProbeSettings → Attempt Report
  | .disconnect settings => (settings.attempt network).map .disconnect
  | .stall settings => (settings.call network).map .stall
  | .stress settings => (settings.attempt network).map .stress

def attempts (network : Network) (definitions : List ProbeDefinition) : Attempts :=
  definitions.map fun definition => (definition.name, definition.settings.attempt network)

end ServerProbe.Suite
