import ServerProbe.Proofs.Probe.HangUp
import ServerProbe.Proofs.Probe.Request
import ServerProbe.Proofs.Suite.Selection
import ServerProbe.Proofs.Time.Duration

/-! Settings of echo calls that pass their check.

Nothing in them can end a call later: the client can be set up, the threshold is a
length of time, the address says where to connect, and no timeout is zero. What
still fails a call that holds its body back is the network or the server.
-/

set_option autoImplicit false

namespace ServerProbe

/-- Whether the settings are the reason for a failure. -/
def Failure.BlamesSettings (failure : Failure) : Prop :=
  failure.category = .configuration ∨ failure = StallSettings.noThreshold ∨
    failure = .client .notBuilt ∨ ∃ url, failure = .client (.unsuitable url)

theorem Failure.not_blamesSettings_connection (target : String) (fault : Wire.Fault) :
    ¬(Failure.connection target fault).BlamesSettings := by
  simp [BlamesSettings, category, StallSettings.noThreshold]

theorem Failure.not_blamesSettings_of_tls {failure : Failure} (tls : failure.category = .tls) :
    ¬failure.BlamesSettings := by
  rintro (configuration | rfl | rfl | ⟨url, rfl⟩)
  · rw [tls] at configuration
    cases configuration
  all_goals cases tls

theorem Network.not_blamesSettings {network : Network} {target : Target}
    {timeout : Option Duration} {trust : Option Trust} {refusal : Refusal}
    (refused : network.connectSecurely target timeout trust = .error refusal) :
    ¬refusal.failure.BlamesSettings := by
  rcases connectSecurely_error refused with unreached | ⟨peer, trusted, failure, -, untrusted, rfl⟩
  · obtain ⟨⟨fault, failure⟩, -⟩ := connect_error unreached
    rw [failure]
    exact Failure.not_blamesSettings_connection _ _
  · exact Failure.not_blamesSettings_of_tls (Peer.secure_error untrusted)

namespace StallSettings

open Url

variable {settings : StallSettings} {url : Url} {target : Target} {threshold : Duration}
  {failure : Failure}

theorem expectAttempt_cases (read : ofText settings.url = .ok url)
    (found : url.target = .ok target) (known : settings.threshold? = some threshold)
    (network : Network) :
    (∃ refusal, network.connectSecurely target settings.timeout (settings.trustFor url) =
        .error refusal ∧
      settings.expectAttempt network = .failed refusal.failure refusal.received) ∨
      ∃ peer, settings.expectAttempt network = settings.attemptWith network target
        (url.requestFor target (Text.utf8 settings.payload)) threshold peer := by
  unfold expectAttempt
  rw [read]
  simp only [found, known]
  split
  · next refusal refused => exact .inl ⟨refusal, refused, rfl⟩
  · next peer reached => exact .inr ⟨peer, rfl⟩

theorem not_blamesSettings_expectAttempt (read : ofText settings.url = .ok url)
    (found : url.target = .ok target) (known : settings.threshold? = some threshold)
    (network : Network) (failed : (settings.expectAttempt network).outcome = .error failure) :
    ¬failure.BlamesSettings := by
  rcases expectAttempt_cases read found known network with
    ⟨refusal, refused, same⟩ | ⟨peer, same⟩
  · rw [same] at failed
    cases failed
    exact Network.not_blamesSettings refused
  · rw [same] at failed
    unfold attemptWith resultOf at failed
    dsimp only at failed
    split at failed
    · next problem broken =>
      cases failed
      cases problem with
      | fault fault => exact Failure.not_blamesSettings_connection _ _
      | oversized =>
        simp [exchangeFailure, Failure.noRoom, Failure.BlamesSettings, Failure.category, noThreshold]
    · cases failed

end StallSettings

theorem Url.Host.noControl_lookupText {host : Url.Host} (written : NoControl host.text.toList) :
    NoControl host.lookupText.toList := by
  cases host with
  | domain name => exact written
  | ipv4 address => exact written
  | ipv6 numbers => exact (isNumbers_socketText numbers).noControl

theorem Network.connect_of_reached {network : Network} {peer : Peer} {target : Target}
    {timeout : Option Duration} (clean : Url.NoControl target.host.toList)
    (positive : timeout ≠ some .zero) (reached : network.peer = .ok peer) :
    network.connect target timeout = .ok peer :=
  connect_ok_iff.mpr ⟨fun member => absurd (clean _ member) (by decide), positive, reached⟩

namespace StallSettings

theorem headTimeout_ne_zero (threshold : Duration) : headTimeout threshold ≠ .zero := by
  intro isZero
  have nothing : max threshold.nanoseconds 1000000 = 0 := congrArg Duration.nanoseconds isZero
  omega

/-- Settings of which everything can be made that a call is made of. A call that holds its body back
is then failed by the network or the server alone. -/
structure Ready (settings : StallSettings) : Prop where
  client : settings.checkClient = .ok ()
  threshold : ∃ threshold, settings.threshold? = some threshold ∧
    threshold.nanoseconds ≤ (Duration.ofSeconds 3600).nanoseconds ∧
    headTimeout threshold ≠ .zero
  timeout : settings.timeout ≠ some .zero
  address : ∃ url target, Url.ofText settings.url = .ok url ∧
    (∀ body, url.expectRequest body = .ok (url.requestFor target body)) ∧
    ∀ (network : Network) (peer : Peer), network.peer = .ok peer →
      network.connect target settings.timeout = .ok peer
  call : ∀ network failure, (settings.expectAttempt network).outcome = .error failure →
    ¬failure.BlamesSettings

theorem ready_of_check {settings : StallSettings} (passed : settings.check = .ok ()) :
    settings.Ready := by
  obtain ⟨threshold, known, within⟩ := threshold_of_check passed
  obtain ⟨url, host, port, read, -, named, reachable⟩ := address_of_check passed
  have found : url.target = .ok ⟨host.lookupText, port⟩ := Url.target_of_host named reachable
  have clean := Url.Host.noControl_lookupText ((Url.proper_of_ofText read).host host named)
  have positive := timeout_of_check passed
  constructor
  case client => exact checkClient_of_check passed
  case threshold => exact ⟨threshold, known, within, headTimeout_ne_zero threshold⟩
  case timeout => exact positive
  case address =>
    refine ⟨url, ⟨host.lookupText, port⟩, read, fun body => ?_, fun network peer reached => ?_⟩
    · rw [Url.expectRequest, found]
      rfl
    · exact Network.connect_of_reached clean positive reached
  case call =>
    exact fun network failure => not_blamesSettings_expectAttempt read found known network

end StallSettings

/-- Settings of echo calls that pass their check cannot fail a call later: everything that is made
of them can be made. This includes the calls of several clients. -/
theorem checked_settings_ready :
    (∀ settings : StallSettings, settings.check = .ok () → settings.Ready) ∧
      ∀ settings : StressSettings, settings.check = .ok () → settings.stall.Ready ∧
        (Suite.ProbeSettings.stress settings).checkClient = .ok () := by
  refine ⟨fun settings passed => StallSettings.ready_of_check passed, fun settings passed => ?_⟩
  have calls : settings.stall.check = .ok () := (Check.andThen_ok_iff.mp passed).1
  exact ⟨StallSettings.ready_of_check calls, Suite.ProbeSettings.checkClient_of_check passed⟩

def minusZero : StallSettings where
  url := "http://[::1]:8080/RPC2"
  thresholdSeconds := ⟨0x8000000000000000⟩
  timeoutSeconds := some 1

def leastThreshold : StressSettings where
  stall := {
    url := "https://[::1]"
    thresholdSeconds := ⟨1⟩
    proxy := some "http://[::1]:3128" }

theorem edge_settings_ready :
    minusZero.check = .ok () ∧ minusZero.Ready ∧ leastThreshold.check = .ok () ∧
      leastThreshold.stall.Ready := by
  have zeroPassed : minusZero.check = .ok () := rfl
  have leastPassed : leastThreshold.check = .ok () := rfl
  exact ⟨zeroPassed, checked_settings_ready.1 minusZero zeroPassed, leastPassed,
    (checked_settings_ready.2 leastThreshold leastPassed).1⟩

end ServerProbe
