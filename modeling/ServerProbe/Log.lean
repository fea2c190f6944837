/-! Events that a run reports while it goes on. -/

set_option autoImplicit false

namespace ServerProbe

inductive Log.Level where
  | info
  | warn
  | error
  deriving DecidableEq

structure Log.Entry where
  level : Log.Level
  message : String
  deriving DecidableEq

abbrev Log := List Log.Entry

namespace Log

def Level.name : Level → String
  | .info => "INFO"
  | .warn => "WARN"
  | .error => "ERROR"

def info (message : String) : Entry := ⟨.info, message⟩

def warn (message : String) : Entry := ⟨.warn, message⟩

def error (message : String) : Entry := ⟨.error, message⟩

end Log

end ServerProbe
