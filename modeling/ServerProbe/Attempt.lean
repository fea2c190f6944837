import ServerProbe.Failure
import ServerProbe.Log
import ServerProbe.Peer
import ServerProbe.Report

/-! One run of one probe, and what the server saw of it. -/

set_option autoImplicit false

namespace ServerProbe

structure Attempt (R : Type) where
  outcome : Except Failure R
  duration : Duration
  log : Log
  received : List Received

namespace Attempt

variable {R S : Type}

/-- An attempt that takes no time and reports nothing else than its outcome. -/
def ofOutcome (outcome : Except Failure R) : Attempt R :=
  ⟨outcome, .zero, [], []⟩

def failed (failure : Failure) (received : List Received) : Attempt R :=
  ⟨.error failure, .zero, [], received⟩

def map (f : R → S) (attempt : Attempt R) : Attempt S :=
  { attempt with outcome := attempt.outcome.map f }

def passed (attempt : Attempt Report) : Bool :=
  match attempt.outcome with
  | .ok report => report.passed
  | .error _ => false

/-- What is told of an attempt that did not pass, or of its success. -/
def details (attempt : Attempt Report) : String :=
  match attempt.outcome with
  | .ok report => report.summary
  | .error failure => failure.message

end Attempt

def Attempt.engineLog (name : String) (attempt : Attempt Report) : Log :=
  let started := Log.info ("🚀 Running probe '" ++ name ++ "'")
  let finished (mark : String) (report : Report) : String :=
    mark ++ " " ++ name ++ " finished in " ++ attempt.duration.describe ++ ": " ++ report.summary
  match attempt.outcome with
  | .ok report =>
    let last :=
      if report.passed then Log.info (finished "✅" report) else Log.warn (finished "⚠️" report)
    started :: attempt.log ++ [last]
  | .error _ => started :: attempt.log

end ServerProbe
