import ServerProbe.Proofs.Json.Members
import ServerProbe.Settings.Stress

/-! Settings read back from their written form.

Members may be missing from it. What is read then has the defaults for the
missing ones and is otherwise what was written; only an address has no default.
-/

set_option autoImplicit false

namespace ServerProbe

open Json

def FitsWord (count : Option Nat) : Prop :=
  ∀ value, count = some value → value < Text.wordLimit

theorem FitsWord.read {count : Option Nat} (fits : FitsWord count) (value : Nat)
    (known : count = some value) : asNat? Text.wordLimit (.ofNat value) = some value :=
  asNat?_ofNat (fits value known)

variable {gone : String → Bool} {object : Members}

namespace DisconnectSettings

/-- The counts are words; all other settings can be written as they are. -/
structure Writable (settings : DisconnectSettings) : Prop where
  declaredLength : FitsWord settings.declaredLength
  sendBytes : FitsWord settings.sendBytes
  timeoutSeconds : FitsWord settings.timeoutSeconds

def reset (gone : String → Bool) (settings : DisconnectSettings) : DisconnectSettings where
  host := unlessGone gone "host" defaults.host settings.host
  port := unlessGone gone "port" defaults.port settings.port
  tls := unlessGone gone "tls" defaults.tls settings.tls
  verify := unlessGone gone "verify" defaults.verify settings.verify
  serverFingerprint := unlessGone gone "server_fingerprint" none settings.serverFingerprint
  requestedSize := unlessGone gone "requested_size" defaults.requestedSize settings.requestedSize
  declaredLength := unlessGone gone "declared_length" none settings.declaredLength
  sendBytes := unlessGone gone "send_bytes" none settings.sendBytes
  timeoutSeconds := unlessGone gone "timeout_seconds" none settings.timeoutSeconds
  userAgent := unlessGone gone "user_agent" none settings.userAgent

theorem ofMembers?_of_keeps {settings : DisconnectSettings} (writable : settings.Writable)
    (keeps : Keeps gone settings.toMembers object) :
    ofMembers? object = some (settings.reset gone) := by
  simp only [Keeps, toMembers, List.forall_mem_cons] at keeps
  obtain ⟨host, port, tls, verify, fingerprint, requested, declared, send, timeout, agent, -⟩ :=
    keeps
  have portRead : asNat? Text.shortLimit (.ofNat settings.port.toNat) = some settings.port.toNat :=
    asNat?_ofNat settings.port.toNat_lt
  have portKept : UInt16.ofNat (unlessGone gone "port" defaults.port.toNat settings.port.toNat) =
      unlessGone gone "port" defaults.port settings.port := by
    unfold unlessGone
    rw [apply_ite UInt16.ofNat, UInt16.ofNat_toNat, UInt16.ofNat_toNat]
  unfold ofMembers?
  simp only [withDefault?_unlessGone host (asText?_str _), withDefault?_unlessGone port portRead,
    withDefault?_unlessGone tls (asBool?_bool _), withDefault?_unlessGone verify (asBool?_bool _),
    optional?_unlessGone fingerprint rfl fun text _ => asText?_str text,
    withDefault?_unlessGone requested (asInt32?_toInt _),
    optional?_unlessGone declared rfl writable.declaredLength.read,
    optional?_unlessGone send rfl writable.sendBytes.read,
    optional?_unlessGone timeout rfl writable.timeoutSeconds.read,
    optional?_unlessGone agent rfl fun text _ => asText?_str text]
  rw [reset, ← portKept]
  rfl

end DisconnectSettings

namespace StallSettings

/-- The counts are words and the threshold is a number; all other settings can be written as they
are. -/
structure Writable (settings : StallSettings) : Prop where
  payloadLength : settings.payloadLength < Text.wordLimit
  threshold : settings.thresholdSeconds.isFinite = true
  timeoutSeconds : FitsWord settings.timeoutSeconds

/-- Has the defaults for the keys that are gone, but keeps its address. -/
def reset (gone : String → Bool) (settings : StallSettings) : StallSettings :=
  let defaults := ofUrl settings.url
  { url := settings.url
    payloadLength := unlessGone gone "payload_len" defaults.payloadLength settings.payloadLength
    fill := unlessGone gone "fill" defaults.fill settings.fill
    thresholdSeconds :=
      unlessGone gone "threshold_seconds" defaults.thresholdSeconds settings.thresholdSeconds
    expectContinue :=
      unlessGone gone "expect_continue" defaults.expectContinue settings.expectContinue
    verify := unlessGone gone "verify" defaults.verify settings.verify
    timeoutSeconds := unlessGone gone "timeout_seconds" none settings.timeoutSeconds
    proxy := unlessGone gone "proxy" none settings.proxy }

theorem ofMembers?_of_keeps {settings : StallSettings} (writable : settings.Writable)
    (keeps : Keeps gone settings.toMembers object) :
    ofMembers? object = unlessGone gone "url" none (some (settings.reset gone)) := by
  simp only [Keeps, toMembers, List.forall_mem_cons] at keeps
  obtain ⟨url, payload, fill, threshold, expect, verify, timeout, proxy, -⟩ := keeps
  unfold ofMembers?
  rw [required?_unlessGone url (asText?_str _)]
  simp only [withDefault?_unlessGone payload (asNat?_ofNat writable.payloadLength),
    withDefault?_unlessGone fill (asChar?_singleton _),
    withDefault?_unlessGone threshold (asDouble?_ofDouble writable.threshold),
    withDefault?_unlessGone expect (asBool?_bool _),
    withDefault?_unlessGone verify (asBool?_bool _),
    optional?_unlessGone timeout rfl writable.timeoutSeconds.read,
    optional?_unlessGone proxy rfl fun text _ => asText?_str text]
  cases isGone : gone "url" with
  | true => simp only [unlessGone, isGone, if_true]; rfl
  | false => simp only [unlessGone, isGone, Bool.false_eq_true, if_false]; rfl

end StallSettings

namespace StressSettings

structure Writable (settings : StressSettings) : Prop where
  stall : settings.stall.Writable
  clients : settings.clients < Text.wordLimit
  callsPerClient : settings.callsPerClient < Text.wordLimit

def reset (gone : String → Bool) (settings : StressSettings) : StressSettings where
  stall := settings.stall.reset gone
  clients := unlessGone gone "clients" 4 settings.clients
  callsPerClient := unlessGone gone "calls_per_client" 1 settings.callsPerClient

theorem ofMembers?_of_keeps {settings : StressSettings} (writable : settings.Writable)
    (keeps : Keeps gone settings.toMembers object) :
    ofMembers? object = unlessGone gone "url" none (some (settings.reset gone)) := by
  have stall := StallSettings.ofMembers?_of_keeps writable.stall
    (keeps.subset (List.subset_append_left ..))
  have own := keeps.subset (List.subset_append_right ..)
  simp only [Keeps, List.forall_mem_cons] at own
  obtain ⟨clients, calls, -⟩ := own
  unfold ofMembers?
  simp only [stall, withDefault?_unlessGone clients (asNat?_ofNat writable.clients),
    withDefault?_unlessGone calls (asNat?_ofNat writable.callsPerClient)]
  cases isGone : gone "url" with
  | true => simp only [unlessGone, isGone, if_true]; rfl
  | false => simp only [unlessGone, isGone, Bool.false_eq_true, if_false]; rfl

end StressSettings

end ServerProbe
