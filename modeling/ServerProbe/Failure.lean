import ServerProbe.Http.ClientProblem
import ServerProbe.Url.Problem
import ServerProbe.Wire.Fault

/-! Why a run did not come to its end.

Each failure has a full message, a shorter one for people, a category, and from
the category a severity, an exit status and a suggestion.
-/

set_option autoImplicit false

namespace ServerProbe

inductive Failure where
  | client (problem : Http.ClientProblem)
  | inputOutput (fault : Wire.Fault)
  /-- The TLS library itself failed. -/
  | tlsLibrary
  | serialization (message : String)
  | address (problem : Url.Problem)
  | connection (target : String) (fault : Wire.Fault)
  | handshake (target message : String)
  | fingerprintMismatch (expected actual : String)
  | invalidSetting (field value reason : String)
  | invalidSuite (field message : String)
  | probeFailed (probe details : String)
  | task (message : String)
  deriving DecidableEq

namespace Failure

-- A task for which memory has no room. The runtime that reports it adds a number of its own, which
-- is left out.
def noRoom : Failure := .task "capacity overflow"

def message : Failure → String
  | .client problem => "HTTP request failed: " ++ problem.text
  | .inputOutput fault => "IO error: " ++ fault.text
  | .tlsLibrary => "OpenSSL error: OpenSSL error"
  | .serialization message => "Serialization error: " ++ message
  | .address problem => "URL parse error: " ++ problem.message
  | .connection target fault => "Connection to " ++ target ++ " failed: " ++ fault.text
  | .handshake target message => "TLS handshake with " ++ target ++ " failed: " ++ message
  | .fingerprintMismatch expected actual =>
    "Server fingerprint mismatch: expected " ++ expected ++ ", got " ++ actual
  | .invalidSetting field value reason =>
    "Invalid value for '" ++ field ++ "' (" ++ value ++ "): " ++ reason
  | .invalidSuite field message =>
    "Configuration validation failed at '" ++ field ++ "': " ++ message
  | .probeFailed probe details => "Probe '" ++ probe ++ "' failed: " ++ details
  | .task message => "Background task failed: " ++ message

inductive Category where
  | network
  | tls
  | configuration
  | probe
  | system
  deriving DecidableEq

inductive Severity where
  | medium
  | high
  | critical
  deriving DecidableEq

def category : Failure → Category
  | .client _ | .connection _ _ => .network
  | .tlsLibrary | .handshake _ _ | .fingerprintMismatch _ _ => .tls
  | .address _ | .invalidSetting _ _ _ | .invalidSuite _ _ => .configuration
  | .probeFailed _ _ => .probe
  | .inputOutput _ | .serialization _ | .task _ => .system

/-- A server that does not answer may do so later, so the network is the mildest category. -/
def Category.severity : Category → Severity
  | .network => .medium
  | .tls | .configuration | .probe => .high
  | .system => .critical

def severity (failure : Failure) : Severity :=
  failure.category.severity

def Category.name : Category → String
  | .network => "Network"
  | .tls => "Tls"
  | .configuration => "Configuration"
  | .probe => "Probe"
  | .system => "System"

def Severity.name : Severity → String
  | .medium => "Medium"
  | .high => "High"
  | .critical => "Critical"

def Severity.exitStatus : Severity → Nat
  | .medium => 2
  | .high => 1
  | .critical => 3

def exitStatus (failure : Failure) : Nat :=
  failure.severity.exitStatus

def shortMessage (failure : Failure) : String :=
  match failure with
  | .client (.timedOut _) => "The server did not answer before the request timeout"
  | .client (.unreachable _) => "Could not connect to the server"
  | .connection target _ => "Could not open a connection to " ++ target
  | .handshake target _ => "TLS negotiation with " ++ target ++ " failed"
  | .fingerprintMismatch _ _ => "The server presented an unexpected certificate"
  | .invalidSetting field _ reason => "Invalid setting '" ++ field ++ "': " ++ reason
  | _ => failure.message

def Category.suggestion : Category → String
  | .network => "Check that the server is running and the host/port or URL is correct"
  | .tls => "Check --no-tls / --verify and the expected --server-fingerprint"
  | .configuration => "Review the command line options or the suite TOML file"
  | .probe => "Re-run with --verbose to see the full probe trace"
  | .system => "Check local resources (file permissions, open descriptors)"

def suggestion (failure : Failure) : String :=
  failure.category.suggestion

end Failure

end ServerProbe
