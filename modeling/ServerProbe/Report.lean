import ServerProbe.Json.Basic
import ServerProbe.Time.Calendar
import ServerProbe.Time.Duration

/-! What the probes find out.

A stall report is judged by its time against its threshold. A stress report
counts the calls of all clients. A disconnect report always counts as passed:
whether the server lives on is for the next probe to say.
-/

set_option autoImplicit false

namespace ServerProbe

structure Target where
  host : String
  port : Nat
  deriving DecidableEq

def Target.text (target : Target) : String :=
  target.host ++ ":" ++ toString target.port

inductive Verdict where
  | ok
  | timeout (elapsed : Duration)
  deriving DecidableEq

namespace Verdict

/-- The time may be as long as the threshold, but not longer. -/
def judge (elapsed threshold : Duration) : Verdict :=
  if threshold.nanoseconds < elapsed.nanoseconds then .timeout elapsed else .ok

def isOk (verdict : Verdict) : Bool :=
  match verdict with
  | .ok => true
  | .timeout _ => false

def text : Verdict → String
  | .ok => "OK"
  | .timeout elapsed => "Expect timeout: " ++ elapsed.toSeconds.fixedSix ++ "s"

end Verdict

structure DisconnectReport where
  target : Target
  tls : Bool
  requestBytes : Nat
  bytesSent : Nat
  bodyBytes : Nat
  declaredLength : Nat
  elapsed : Duration
  startedAt : Instant

def DisconnectReport.truncated (report : DisconnectReport) : Bool :=
  report.bytesSent < report.requestBytes

structure StallReport where
  url : String
  status : Nat
  payloadBytes : Nat
  responseBytes : Nat
  elapsed : Duration
  threshold : Duration
  startedAt : Instant

def StallReport.verdict (report : StallReport) : Verdict :=
  Verdict.judge report.elapsed report.threshold

structure StressReport where
  total : Nat
  ok : Nat
  stalled : Nat
  failed : Nat
  maxElapsed : Duration

namespace StressReport

def empty : StressReport := ⟨0, 0, 0, 0, .zero⟩

/-- Counts one call: its report, or nothing when it failed. -/
def record (report : StressReport) (outcome : Option StallReport) : StressReport :=
  match outcome with
  | some call =>
    let counted :=
      if call.verdict.isOk then { report with ok := report.ok + 1 }
      else { report with stalled := report.stalled + 1 }
    { counted with
      total := report.total + 1
      maxElapsed := report.maxElapsed.longer call.elapsed }
  | none => { report with total := report.total + 1, failed := report.failed + 1 }

end StressReport

inductive Report where
  | disconnect (report : DisconnectReport)
  | stall (report : StallReport)
  | stress (report : StressReport)

namespace Report

def passed : Report → Bool
  | .disconnect _ => true
  | .stall report => report.verdict.isOk
  | .stress report => report.stalled == 0 && report.failed == 0

def summary : Report → String
  | .disconnect report =>
    "Close prematurely: sent " ++ toString report.bytesSent ++ "/" ++
      toString report.requestBytes ++ " bytes to " ++ report.target.text ++
      (if report.tls then " over TLS" else "")
  | .stall report => report.verdict.text
  | .stress report =>
    toString report.total ++ " calls: " ++ toString report.ok ++ " ok, " ++
      toString report.stalled ++ " stalled, " ++ toString report.failed ++ " failed (max " ++
      report.maxElapsed.toSeconds.fixedSix ++ "s)"

def seconds (duration : Duration) : Json :=
  .double duration.toSeconds

def toJson : Report → Json
  | .disconnect report => .obj [
      ("probe", .str "disconnect"),
      ("target", .obj [("host", .str report.target.host), ("port", .ofNat report.target.port)]),
      ("tls", .bool report.tls),
      ("request_bytes", .ofNat report.requestBytes),
      ("bytes_sent", .ofNat report.bytesSent),
      ("body_bytes", .ofNat report.bodyBytes),
      ("declared_length", .ofNat report.declaredLength),
      ("elapsed", seconds report.elapsed),
      ("started_at", .str report.startedAt.civil.utcText)]
  | .stall report => .obj [
      ("probe", .str "stall"),
      ("url", .str report.url),
      ("status", .ofNat report.status),
      ("payload_bytes", .ofNat report.payloadBytes),
      ("response_bytes", .ofNat report.responseBytes),
      ("elapsed", seconds report.elapsed),
      ("threshold", seconds report.threshold),
      ("started_at", .str report.startedAt.civil.utcText)]
  | .stress report => .obj [
      ("probe", .str "stress"),
      ("total", .ofNat report.total),
      ("ok", .ofNat report.ok),
      ("stalled", .ofNat report.stalled),
      ("failed", .ofNat report.failed),
      ("max_elapsed", seconds report.maxElapsed)]

end Report

end ServerProbe
