import ServerProbe.Attempt

/-! Running the probes of a suite one after the other.

Without `stop` every probe runs and has its result. With it, the first probe
that does not pass ends the suite.
-/

set_option autoImplicit false

namespace ServerProbe.Suite

/-- What became of one probe: a report, or the message of its failure. -/
structure ProbeResult where
  name : String
  report : Option Report
  error : Option String
  duration : Duration

def ProbeResult.passed (result : ProbeResult) : Bool :=
  match result.report with
  | some report => report.passed
  | none => false

/-- The probes of a suite that is run, each with what running it comes to. -/
abbrev Attempts := List (String × Attempt Report)

structure Execution where
  results : Except Failure (List ProbeResult)
  /-- The names of the probes that ran. -/
  ran : List String
  log : Log
  received : List Received

def resultOf (name : String) (attempt : Attempt Report) : ProbeResult :=
  match attempt.outcome with
  | .ok report => ⟨name, some report, none, attempt.duration⟩
  | .error failure => ⟨name, none, some failure.message, attempt.duration⟩

def entryOf (name : String) (attempt : Attempt Report) : Log.Entry :=
  match attempt.outcome with
  | .ok report =>
    if report.passed then
      Log.info ("✅ Probe executed: " ++ name ++ " (" ++ report.summary ++ ", duration: " ++
        attempt.duration.describe ++ ")")
    else Log.warn ("⚠️ Probe '" ++ name ++ "' did not pass: " ++ report.summary)
  | .error failure => Log.error ("❌ Probe '" ++ name ++ "' failed: " ++ failure.message)

def runAll (stop : Bool) : Attempts → Execution
  | [] => ⟨.ok [], [], [], []⟩
  | (name, attempt) :: rest =>
    let said := attempt.log ++ [entryOf name attempt]
    if stop ∧ ¬attempt.passed then
      ⟨.error (.probeFailed name attempt.details), [name], said, attempt.received⟩
    else
      let later := runAll stop rest
      { results := later.results.map (resultOf name attempt :: ·)
        ran := name :: later.ran
        log := said ++ later.log
        received := attempt.received ++ later.received }

def execute (name : String) (stop : Bool) (attempts : Attempts) : Execution :=
  let execution := runAll stop attempts
  let started := Log.info ("🔄 Suite '" ++ name ++ "' starting (" ++ toString attempts.length ++
    " probes)")
  { execution with log := started :: execution.log }

structure Summary where
  total : Nat
  passed : Nat
  failed : Nat
  errored : Nat
  /-- The low 64 bits of the time in milliseconds. -/
  milliseconds : Nat
  names : List String

/-- The counts, unless the durations have no sum. -/
def summarize? (results : List ProbeResult) : Option Summary :=
  let passed := (results.filter ProbeResult.passed).length
  (Duration.sum? (results.map ProbeResult.duration)).map fun duration =>
    { total := results.length
      passed := passed
      failed := results.length - passed
      errored := (results.filter fun result => result.error.isSome).length
      milliseconds := duration.wholeMilliseconds % Text.wordLimit
      names := results.map ProbeResult.name }

end ServerProbe.Suite
