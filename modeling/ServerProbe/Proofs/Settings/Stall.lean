import ServerProbe.Probe.Request
import ServerProbe.Proofs.Check
import ServerProbe.Proofs.Time.Duration

/-! What settings of echo calls are like that pass their check. -/

set_option autoImplicit false

namespace ServerProbe.StallSettings

variable {settings : StallSettings}

theorem check_ok_iff :
    settings.check = .ok () ↔
      Check.url "stall.url" settings.url = .ok () ∧
      Check.between "stall.payload_len" settings.payloadLength 0 maxPayloadLength = .ok () ∧
      Check.betweenNumbers "stall.threshold_seconds" settings.thresholdSeconds .zero
        (.ofNat maxTimeoutSeconds) = .ok () ∧
      (∀ proxy, settings.proxy = some proxy → Check.url "stall.proxy" proxy = .ok ()) ∧
      checkTimeout "stall.timeout_seconds" settings.timeoutSeconds = .ok () := by
  unfold check
  cases settings.proxy with
  | none => simp only [Check.andThen_ok_iff, reduceCtorEq, false_implies, implies_true, true_and]
  | some proxy => simp only [Check.andThen_ok_iff, Option.some.injEq, forall_eq']

theorem checkClient_of_check (passed : settings.check = .ok ()) :
    settings.checkClient = .ok () := by
  obtain ⟨-, -, -, proxies, -⟩ := check_ok_iff.mp passed
  unfold checkClient
  cases given : settings.proxy with
  | none => rfl
  | some proxy =>
    obtain ⟨read, found⟩ := Check.proxyOf_of_url (proxies proxy given)
    simp only [found]

theorem threshold_of_check (passed : settings.check = .ok ()) :
    ∃ threshold, settings.threshold? = some threshold ∧
      threshold.nanoseconds ≤ (Duration.ofSeconds maxTimeoutSeconds).nanoseconds := by
  obtain ⟨-, -, inRange, -⟩ := check_ok_iff.mp passed
  obtain ⟨least, most⟩ := Check.betweenNumbers_ok_iff.mp inRange
  have longest : (Binary64.ofNat maxTimeoutSeconds).IsWhole maxTimeoutSeconds :=
    ⟨by decide +kernel, by decide +kernel, by decide +kernel⟩
  exact Duration.ofSeconds?_of_le longest (by decide) least most

theorem timeout_of_check (passed : settings.check = .ok ()) : settings.timeout ≠ some .zero := by
  obtain ⟨-, -, -, -, inTime⟩ := check_ok_iff.mp passed
  unfold timeout
  cases given : settings.timeoutSeconds with
  | none => exact nofun
  | some seconds =>
    rw [given] at inTime
    obtain ⟨positive, -⟩ := Check.between_ok_iff.mp inTime
    intro isZero
    have nothing : seconds * Duration.perSecond = 0 :=
      congrArg Duration.nanoseconds (Option.some.inj isZero)
    unfold Duration.perSecond at nothing
    omega

theorem address_of_check (passed : settings.check = .ok ()) :
    ∃ url host port, Url.ofText settings.url = .ok url ∧
      (url.scheme = "http" ∨ url.scheme = "https") ∧ url.host = some host ∧
      url.effectivePort? = some port := by
  obtain ⟨isAddress, -⟩ := check_ok_iff.mp passed
  obtain ⟨-, url, read, web⟩ := Check.url_ok_iff.mp isAddress
  obtain ⟨wellKnown, usual, known⟩ : Url.SchemeKind.ofScheme url.scheme = .wellKnown ∧
      ∃ usual, Url.usualPort? url.scheme = some usual := by
    rcases web with http | https
    · rw [http]
      exact ⟨by decide, 80, by decide⟩
    · rw [https]
      exact ⟨by decide, 443, by decide⟩
  obtain ⟨host, named⟩ :=
    Option.isSome_iff_exists.mp ((Url.proper_of_ofText read).named wellKnown)
  refine ⟨url, host, url.port.getD usual, read, web, named, ?_⟩
  unfold Url.effectivePort?
  rw [known]
  cases url.port <;> rfl

end ServerProbe.StallSettings
