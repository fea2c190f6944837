import ServerProbe.CommandLine.Reader
import ServerProbe.Settings.Stress

/-! The commands of the program and their options.

Some options may stand before the command as well as behind it; behind it they
count more. What is not given has the same default as in a suite.
-/

set_option autoImplicit false

namespace ServerProbe.CommandLine

def versionText : String := "xmlrpc-probe 0.1.0"

structure SuiteOptions where
  config : String
  /-- Counts more than what the file says. -/
  stopOnFailure : Option Bool
  /-- Only tell which probes would run. -/
  dryRun : Bool
  deriving DecidableEq

inductive Command where
  | disconnect (settings : DisconnectSettings)
  | stall (settings : StallSettings)
  | stress (settings : StressSettings)
  | suite (options : SuiteOptions)
  deriving DecidableEq

structure Invocation where
  verbose : Bool
  jsonLogs : Bool
  output : OutputFormat
  /-- Whether a probe that does not pass changes the exit status. -/
  strict : Bool
  command : Command
  deriving DecidableEq

def flag (name : String) : OptionSpec := { name, action := .flag }

def taking (name : String) (kind : Kind) : OptionSpec := { name, action := .value kind }

def commonOptions : List OptionSpec := [
  { name := "help", letter := some 'h', action := .help },
  { name := "verbose", letter := some 'v', action := .flag },
  flag "json-logs", taking "output" .output, flag "strict"]

def commandNames : List String := ["disconnect", "stall", "stress", "suite", "help"]

def topLevel : Level where
  options := { name := "version", letter := some 'V', action := .version } :: commonOptions
  commands := commandNames
  takesArgument := false

def disconnectLevel : Level where
  options := commonOptions ++ [
    taking "host" .text, { name := "port", letter := some 'p', action := .value .port },
    flag "no-tls", flag "verify", taking "server-fingerprint" .text,
    taking "requested-size" .int32, taking "declared-length" .word, taking "send-bytes" .word,
    taking "timeout" .word, taking "user-agent" .text]
  commands := []
  takesArgument := false

def stallOptions : List OptionSpec := [
  taking "payload-len" .word, taking "fill" .char, taking "threshold" .double,
  taking "timeout" .word, flag "no-expect", taking "proxy" .text, flag "verify"]

def stallLevel : Level where
  options := commonOptions ++ stallOptions
  commands := []
  takesArgument := true

def stressLevel : Level where
  options := commonOptions ++ stallOptions ++ [
    taking "clients" .word, taking "calls-per-client" .word]
  commands := []
  takesArgument := true

def suiteLevel : Level where
  options := commonOptions ++ [
    { name := "config", letter := some 'c', action := .value .path },
    taking "stop-on-failure" .bool, flag "dry-run"]
  commands := []
  takesArgument := false

def levelOf (command : String) : Level :=
  if command = "disconnect" then disconnectLevel
  else if command = "stall" then stallLevel
  else if command = "stress" then stressLevel
  else suiteLevel

namespace Given

def text? (given : Given) (name : String) : Option String :=
  (given.value? name).bind Value.text?

def word? (given : Given) (name : String) : Option Nat :=
  (given.value? name).bind Value.word?

def port? (given : Given) (name : String) : Option UInt16 :=
  (given.value? name).bind Value.port?

def int32? (given : Given) (name : String) : Option Int32 :=
  (given.value? name).bind Value.int32?

def double? (given : Given) (name : String) : Option Binary64 :=
  (given.value? name).bind Value.double?

def char? (given : Given) (name : String) : Option Char :=
  (given.value? name).bind Value.char?

def bool? (given : Given) (name : String) : Option Bool :=
  (given.value? name).bind Value.bool?

def output? (given : Given) : Option OutputFormat :=
  (given.value? "output").bind Value.output?

end Given

def disconnectSettings (given : Given) : DisconnectSettings :=
  let defaults := DisconnectSettings.defaults
  { host := (given.text? "host").getD defaults.host
    port := (given.port? "port").getD defaults.port
    tls := !given.has "no-tls"
    verify := given.has "verify"
    serverFingerprint := given.text? "server-fingerprint"
    requestedSize := (given.int32? "requested-size").getD defaults.requestedSize
    declaredLength := given.word? "declared-length"
    sendBytes := given.word? "send-bytes"
    timeoutSeconds := given.word? "timeout"
    userAgent := given.text? "user-agent" }

def stallSettings (url : String) (given : Given) : StallSettings :=
  let defaults := StallSettings.ofUrl url
  { url
    payloadLength := (given.word? "payload-len").getD defaults.payloadLength
    fill := (given.char? "fill").getD defaults.fill
    thresholdSeconds := (given.double? "threshold").getD defaults.thresholdSeconds
    expectContinue := !given.has "no-expect"
    verify := given.has "verify"
    timeoutSeconds := given.word? "timeout"
    proxy := given.text? "proxy" }

def stressSettings (url : String) (given : Given) : StressSettings :=
  { stall := stallSettings url given
    clients := (given.word? "clients").getD 4
    callsPerClient := (given.word? "calls-per-client").getD 1 }

def suiteOptions (given : Given) : SuiteOptions :=
  { config := (given.text? "config").getD "probe-suite.toml"
    stopOnFailure := given.bool? "stop-on-failure"
    dryRun := given.has "dry-run" }

def requiredUrl (given : Given) : Except Stop String :=
  match given.argument with
  | some url => .ok url
  | none => .error .missingArgument

def commandOf (name : String) (given : Given) : Except Stop Command :=
  if name = "disconnect" then .ok (.disconnect (disconnectSettings given))
  else if name = "stall" then (requiredUrl given).map fun url => .stall (stallSettings url given)
  else if name = "stress" then (requiredUrl given).map fun url => .stress (stressSettings url given)
  else .ok (.suite (suiteOptions given))

-- Reads a whole command line, without the name of the program. The options of the command are
-- settled before those in front of it.
def read (arguments : List String) : Except Stop Invocation := do
  let (before, next) ← readLevel topLevel .nothing arguments
  match next with
  | none =>
    let before ← before.settle
    .error (if before.values.isEmpty then .helpOnNothing else .missingCommand)
  | some (name, rest) =>
    let (given, _) ← readLevel (levelOf name) .nothing rest
    let given ← given.settle
    let command ← commandOf name given
    let before ← before.settle
    return {
      verbose := before.has "verbose" || given.has "verbose"
      jsonLogs := before.has "json-logs" || given.has "json-logs"
      output := (given.output?.or before.output?).getD .text
      strict := before.has "strict" || given.has "strict"
      command }

end ServerProbe.CommandLine
