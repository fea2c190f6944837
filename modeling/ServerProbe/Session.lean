import ServerProbe.CommandLine.Command
import ServerProbe.Json.Printer
import ServerProbe.Json.Sorted
import ServerProbe.Suite.Run

/-! One run of the program, from its arguments to its exit status.

A run that fails says why and what to do about it, and its status follows from
the failure. A run whose probes do not pass has status 0 all the same, unless it
is strict.
-/

set_option autoImplicit false

namespace ServerProbe

open CommandLine

structure Surroundings where
  /-- The text of a file. -/
  file : String → Except Wire.Fault String
  environment : Suite.Environment
  network : Network

inductive Printed where
  | lines (texts : List String)
  | document (root : Json)

def Printed.text : Printed → String
  | .lines texts => String.join (texts.map fun line => line ++ "\n")
  | .document root => root.indented ++ "\n"

structure Session where
  exitStatus : Nat
  printed : Printed
  failure : Option Failure
  log : Log
  received : List Received

def Failure.complaint (failure : Failure) : List String :=
  ["❌ " ++ failure.shortMessage, "💡 " ++ failure.suggestion]

def Failure.entries (failure : Failure) : Log := [
  Log.error ("❌ Probe run failed: " ++ failure.message ++ " (Category: " ++
    failure.category.name ++ ", Severity: " ++ failure.severity.name ++ ")"),
  Log.error ("💡 Recovery suggestion: " ++ failure.suggestion)]

namespace Session

def notPassedStatus : Nat := 4

def statusOf (strict passed : Bool) : Nat :=
  if strict && !passed then notPassedStatus else 0

def failed (failure : Failure) (log : Log) (received : List Received) : Session where
  exitStatus := failure.exitStatus
  printed := .lines []
  failure := some failure
  log := log ++ failure.entries
  received := received

def printedReport (output : OutputFormat) (report : Report) : Printed :=
  match output with
  | .text => .lines [report.summary]
  | .json => .document report.toJson

def ofAttempt (strict : Bool) (output : OutputFormat) (name : String) (attempt : Attempt Report) :
    Session :=
  let log := attempt.engineLog name
  match attempt.outcome with
  | .error failure => failed failure log attempt.received
  | .ok report => {
      exitStatus := statusOf strict report.passed
      printed := printedReport output report
      failure := none
      log := log
      received := attempt.received }

def ofProbe (network : Network) (strict : Bool) (output : OutputFormat)
    (settings : Suite.ProbeSettings) : Session :=
  match (do settings.check; settings.checkClient : Check.Result) with
  | .error failure => failed failure [] []
  | .ok () => ofAttempt strict output settings.kind (settings.attempt network)

/-! Suites. -/

def resultLine (result : Suite.ProbeResult) : String :=
  let told :=
    match result.report, result.error with
    | some report, _ => report.summary
    | none, some error => "error: " ++ error
    | none, none => "no result"
  result.name ++ ": " ++ told

def countsLine (summary : Suite.Summary) : String :=
  "📈 " ++ toString summary.total ++ " probes, " ++ toString summary.passed ++ " passed, " ++
    toString summary.failed ++ " failed"

def resultJson (result : Suite.ProbeResult) : Json := .obj [
  ("name", .str result.name),
  ("report", .ofOption Report.toJson result.report),
  ("error", .ofOption .str result.error),
  ("duration_ms", .ofNat (result.duration.wholeMilliseconds % Text.wordLimit))]

def summaryJson (summary : Suite.Summary) : Json := .obj [
  ("total_probes", .ofNat summary.total),
  ("passed", .ofNat summary.passed),
  ("failed", .ofNat summary.failed),
  ("errored", .ofNat summary.errored),
  ("total_duration_ms", .ofNat summary.milliseconds),
  ("executed_probes", .arr (summary.names.map .str))]

def printedResults (output : OutputFormat) (results : List Suite.ProbeResult)
    (summary : Suite.Summary) : Printed :=
  match output with
  | .text => .lines (results.map resultLine ++ [countsLine summary])
  | .json =>
    .document <| Json.sorted <| .obj [
      ("summary", summaryJson summary), ("probes", .arr (results.map resultJson))]

def endless : Failure := .task "the durations have no sum"

/-- The run of a suite that has been executed, after what was logged before. -/
def ofExecution (strict : Bool) (output : OutputFormat) (before : Log)
    (execution : Suite.Execution) : Session :=
  let log := before ++ execution.log
  match execution.results with
  | .error failure => failed failure log execution.received
  | .ok results =>
    match Suite.summarize? results with
    | none => failed endless log execution.received
    | some summary => {
        exitStatus := statusOf strict (results.all Suite.ProbeResult.passed)
        printed := printedResults output results summary
        failure := none
        log := log
        received := execution.received }

def plannedLine (definition : Suite.ProbeDefinition) : String :=
  "  - " ++ definition.name ++ " (" ++ definition.settings.kind ++ ")"

def dryRun (before : Log) (plan : Suite.Plan) : Session :=
  let log := before ++ [Log.info "🔍 DRY RUN MODE - no probe will touch the network"]
  match plan.ordered with
  | .error failure => failed failure log []
  | .ok definitions => {
      exitStatus := 0
      printed := .lines (definitions.map plannedLine)
      failure := none
      log := log
      received := [] }

/-- Lets the command line decide whether the suite stops, if it says so. -/
def withStop (stop : Option Bool) (plan : Suite.Plan) : Suite.Plan :=
  match stop with
  | some stop => { plan with info := { plan.info with stopOnFailure := some stop } }
  | none => plan

-- Runs a plan. What its probes come to is given for the probes that are set up.
def ofPlan (attempts : List Suite.ProbeDefinition → Suite.Attempts) (strict : Bool)
    (output : OutputFormat) (isDry : Bool) (before : Log) (plan : Suite.Plan) : Session :=
  match plan.check with
  | .error failure => failed failure before []
  | .ok () =>
    let before := before ++ [Log.info ("✅ Suite '" ++ plan.info.name ++ "' loaded and validated")]
    if isDry then dryRun before plan
    else
      match plan.build with
      | .error failure => failed failure before []
      | .ok definitions =>
        ofExecution strict output before
          (Suite.execute plan.info.name plan.stopOnFailure (attempts definitions))

def stopEntries (stop : Option Bool) : Log :=
  match stop with
  | some stop =>
    [Log.info ("🔧 stop_on_failure overridden to: " ++ if stop then "true" else "false")]
  | none => []

def planOf (surroundings : Surroundings) (name : String) : Except Failure Suite.Plan :=
  match surroundings.file name with
  | .error fault => .error (.inputOutput fault)
  | .ok text => Suite.Plan.ofText surroundings.environment text

def ofSuite (surroundings : Surroundings) (strict : Bool) (output : OutputFormat)
    (options : SuiteOptions) : Session :=
  let loading := [Log.info ("📁 Loading suite from: " ++ options.config)]
  match planOf surroundings options.config with
  | .error failure => failed failure loading []
  | .ok plan =>
    ofPlan (Suite.attempts surroundings.network) strict output options.dryRun
      (loading ++ stopEntries options.stopOnFailure) (withStop options.stopOnFailure plan)

/-! Whole runs. -/

def ofInvocation (surroundings : Surroundings) (invocation : Invocation) : Session :=
  let strict := invocation.strict
  let output := invocation.output
  match invocation.command with
  | .disconnect settings => ofProbe surroundings.network strict output (.disconnect settings)
  | .stall settings => ofProbe surroundings.network strict output (.stall settings)
  | .stress settings => ofProbe surroundings.network strict output (.stress settings)
  | .suite options => ofSuite surroundings strict output options

def ofStop (stop : Stop) : Session where
  exitStatus := stop.exitStatus
  printed := .lines (if stop = .version then [versionText] else [])
  failure := none
  log := []
  received := []

/-- The run for some arguments, without the name of the program. -/
def ofArguments (surroundings : Surroundings) (arguments : List String) : Session :=
  match CommandLine.read arguments with
  | .error stop => ofStop stop
  | .ok invocation => ofInvocation surroundings invocation

end Session

end ServerProbe
