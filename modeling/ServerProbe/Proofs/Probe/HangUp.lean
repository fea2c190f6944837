import ServerProbe.Probe.Disconnect
import ServerProbe.Proofs.Probe.Disconnect

/-! What the probe that hangs up reports, against what its peer has got.

A report is made only of bytes that have all arrived. Whatever goes wrong before
the first byte is sent leaves the peer with nothing, and a peer that cannot be
trusted is refused before that.
-/

set_option autoImplicit false

namespace ServerProbe

def GotNothing (received : List Received) : Prop :=
  ∀ got ∈ received, got.isEmpty = true

theorem gotNothing_nothing : GotNothing [.nothing] := by
  simp [GotNothing, Received.nothing, Received.isEmpty]

section
variable {network : Network} {peer : Peer} {target : Target} {timeout : Option Duration}
  {trust : Trust} {failure : Failure} {refusal : Refusal}

namespace Network

theorem connect_ok_iff :
    network.connect target timeout = .ok peer ↔
      '\x00' ∉ target.host.toList ∧ timeout ≠ some .zero ∧ network.peer = .ok peer := by
  unfold connect refuse
  split
  · next nul => simp_all
  · next noNul =>
    cases reached : network.peer with
    | error fault => simp
    | ok known =>
      dsimp only
      split
      · next isZero => simp [isZero]
      · next notZero => simp_all

theorem connect_error (refused : network.connect target timeout = .error refusal) :
    (∃ fault, refusal.failure = .connection target.text fault) ∧ GotNothing refusal.received := by
  unfold connect refuse at refused
  split at refused
  · cases refused
    exact ⟨⟨_, rfl⟩, by simp [GotNothing]⟩
  · split at refused
    · cases refused
      exact ⟨⟨_, rfl⟩, by simp [GotNothing]⟩
    · split at refused
      · cases refused
        exact ⟨⟨_, rfl⟩, gotNothing_nothing⟩
      · cases refused

theorem connectSecurely_plain :
    network.connectSecurely target timeout none = network.connect target timeout := by
  unfold connectSecurely
  cases network.connect target timeout <;> rfl

theorem connectSecurely_trusted (reached : network.connect target timeout = .ok peer)
    (trusted : peer.secure target trust = .ok ()) :
    network.connectSecurely target timeout (some trust) = .ok peer := by
  unfold connectSecurely
  rw [reached]
  simp only [bind, Except.bind, trusted]

theorem connectSecurely_untrusted (reached : network.connect target timeout = .ok peer)
    (untrusted : peer.secure target trust = .error failure) :
    network.connectSecurely target timeout (some trust) = .error ⟨failure, [.nothing]⟩ := by
  unfold connectSecurely
  rw [reached]
  simp only [bind, Except.bind, untrusted]

theorem connectSecurely_unreached {trust : Option Trust}
    (refused : network.connect target timeout = .error refusal) :
    network.connectSecurely target timeout trust = .error refusal := by
  unfold connectSecurely
  rw [refused]
  rfl

theorem connectSecurely_error {trust : Option Trust}
    (refused : network.connectSecurely target timeout trust = .error refusal) :
    network.connect target timeout = .error refusal ∨
      ∃ (peer : Peer) (trusted : Trust) (failure : Failure), trust = some trusted ∧
        peer.secure target trusted = .error failure ∧ refusal = ⟨failure, [.nothing]⟩ := by
  cases reached : network.connect target timeout with
  | error known =>
    rw [connectSecurely_unreached reached] at refused
    exact .inl refused
  | ok peer =>
    right
    cases trust with
    | none =>
      rw [connectSecurely_plain, reached] at refused
      cases refused
    | some trust =>
      cases secured : peer.secure target trust with
      | ok trusted =>
        rw [connectSecurely_trusted reached secured] at refused
        cases refused
      | error failure =>
        rw [connectSecurely_untrusted reached secured] at refused
        exact ⟨peer, trust, failure, rfl, secured, (Except.error.inj refused).symm⟩

theorem gotNothing_of_refused {trust : Option Trust}
    (refused : network.connectSecurely target timeout trust = .error refusal) :
    GotNothing refusal.received := by
  rcases connectSecurely_error refused with unreached | ⟨peer, trusted, failure, -, -, rfl⟩
  · exact (connect_error unreached).2
  · exact gotNothing_nothing

end Network

/-! Trust. -/

theorem Identity.pin_error {identity : Identity} {expected : String}
    (mismatch : identity.pin target expected = .error failure) : failure.category = .tls := by
  unfold pin at mismatch
  split at mismatch
  · cases mismatch
    rfl
  · dsimp only at mismatch
    split at mismatch
    · cases mismatch
    · cases mismatch
      rfl

namespace Peer

theorem handshake_cases (peer : Peer) (target : Target) (verify : Bool) :
    (∃ message, peer.handshake target verify = .error (.handshake target.text message)) ∨
      ∃ identity, peer.identity = some identity ∧
        peer.handshake target verify = .ok identity := by
  unfold handshake
  split
  · exact .inl ⟨_, rfl⟩
  · next identity known =>
    split
    · exact .inl ⟨_, rfl⟩
    · split
      · exact .inl ⟨_, rfl⟩
      · split
        · exact .inl ⟨_, rfl⟩
        · exact .inr ⟨identity, known, rfl⟩

theorem handshake_error {verify : Bool} (failed : peer.handshake target verify = .error failure) :
    failure.category = .tls := by
  rcases peer.handshake_cases target verify with ⟨message, same⟩ | ⟨identity, -, shaken⟩
  · rw [same] at failed
    cases failed
    rfl
  · rw [shaken] at failed
    cases failed

theorem handshake_ok {verify : Bool} {identity : Identity}
    (shaken : peer.handshake target verify = .ok identity) : peer.identity = some identity := by
  rcases peer.handshake_cases target verify with ⟨message, failed⟩ | ⟨known, isKnown, same⟩
  · rw [failed] at shaken
    cases shaken
  · rw [same] at shaken
    cases shaken
    exact isKnown

/-- Whatever makes a peer untrusted is a failure of TLS. -/
theorem secure_error (untrusted : peer.secure target trust = .error failure) :
    failure.category = .tls := by
  unfold secure at untrusted
  cases shaken : peer.handshake target trust.verify with
  | error known =>
    rw [shaken] at untrusted
    cases untrusted
    exact handshake_error shaken
  | ok identity =>
    rw [shaken] at untrusted
    simp only [bind, Except.bind] at untrusted
    split at untrusted
    · exact Identity.pin_error untrusted
    · cases untrusted

end Peer

end

/-- The certificate that a peer shows, by its fingerprint. -/
def Identity.Shows (identity : Identity) (certificate : List UInt8) : Prop :=
  identity.fingerprint = some (fingerprintOf certificate)

namespace DisconnectSettings

/-- The connection itself can be made: only then is TLS spoken at all. -/
def Connects (settings : DisconnectSettings) : Prop :=
  '\x00' ∉ settings.host.toList ∧ settings.timeoutSeconds ≠ some 0

/-- Why a peer is not to get a request over TLS. -/
inductive Distrusts (settings : DisconnectSettings) (peer : Peer) : Prop where
  | handshake {failure : Failure} :
      peer.handshake settings.target settings.verify = .error failure → Distrusts settings peer
  | noCertificate {identity : Identity} :
      peer.identity = some identity → identity.fingerprint = none → Distrusts settings peer
  | otherCertificate {identity : Identity} {certificate : List UInt8} {pinned : String} :
      peer.identity = some identity → identity.Shows certificate →
      settings.serverFingerprint = some pinned →
      normalizedFingerprint pinned ≠ fingerprintOf certificate → Distrusts settings peer

def Trusts (settings : DisconnectSettings) (peer : Peer) : Prop :=
  ∃ identity certificate, peer.handshake settings.target settings.verify = .ok identity ∧
    identity.Shows certificate ∧
    ∀ pinned, settings.serverFingerprint = some pinned →
      normalizedFingerprint pinned = fingerprintOf certificate

/-- What a report says of a request, and what the peer has got of it. -/
structure Accounts (settings : DisconnectSettings) (report : DisconnectReport)
    (received : List Received) : Prop where
  arrived : received = [.raw (settings.request.bytes.take report.bytesSent)]
  bytesSent : report.bytesSent =
    min (settings.sendBytes.getD report.requestBytes) report.requestBytes
  truncated : report.truncated = true ↔
    ∃ limit, settings.sendBytes = some limit ∧ limit < report.requestBytes
  requestBytes : report.requestBytes = settings.request.headBytes.length + report.bodyBytes
  bodyBytes : report.bodyBytes = settings.body.length
  declaredLength : report.declaredLength = settings.declaredLength.getD report.bodyBytes
  target : report.target = settings.target
  tls : report.tls = settings.tls

variable {settings : DisconnectSettings} {network : Network} {peer : Peer} {delivery : Delivery}
  {failure : Failure} {refusal : Refusal} {report : DisconnectReport}

theorem connects_iff :
    settings.Connects ↔
      '\x00' ∉ settings.target.host.toList ∧ settings.timeout ≠ some .zero := by
  unfold Connects timeout
  refine and_congr_right fun noNul => ?_
  cases settings.timeoutSeconds with
  | none => simp
  | some seconds =>
    simp only [Option.map_some, ne_eq, Option.some.injEq, Duration.ofSeconds, Duration.zero,
      Duration.perSecond, Duration.mk.injEq]
    omega

theorem sentBytes_eq :
    settings.sentBytes =
      settings.request.bytes.take (settings.sendBytes.getD settings.request.length) := by
  unfold sentBytes
  cases settings.sendBytes with
  | none => exact List.take_length.symm
  | some limit => rfl

theorem length_sentBytes :
    settings.sentBytes.length =
      min (settings.sendBytes.getD settings.request.length) settings.request.length := by
  rw [sentBytes_eq, List.length_take]
  rfl

theorem accounts_report (startedAt : Instant) :
    settings.Accounts (settings.report startedAt) [.raw settings.sentBytes] where
  arrived := by
    have first : settings.sentBytes = settings.request.bytes.take settings.sentBytes.length := by
      rw [length_sentBytes, sentBytes_eq]
      exact List.take_eq_take_min
    exact congrArg (fun bytes => [Received.raw bytes]) first
  bytesSent := length_sentBytes
  truncated := by
    unfold DisconnectReport.truncated report
    rw [length_sentBytes, decide_eq_true_iff]
    cases settings.sendBytes with
    | none => simp
    | some limit =>
      simp only [Option.getD_some, Option.some.injEq, exists_eq_left']
      omega
  requestBytes := List.length_append
  bodyBytes := by
    unfold report Http.Request.bodyLength
    rw [request_eq]
  declaredLength := by
    unfold report Http.Request.declaredLength
    rw [request_eq]
  target := rfl
  tls := rfl

theorem Distrusts.secure (distrusts : settings.Distrusts peer) :
    ∃ failure, peer.secure settings.target ⟨settings.verify, settings.serverFingerprint⟩ =
      .error failure := by
  unfold Peer.secure
  cases distrusts with
  | handshake failed => exact ⟨_, by rw [failed]; rfl⟩
  | noCertificate known none =>
    refine ⟨.handshake settings.target.text "no shared cipher", ?_⟩
    simp only [Peer.handshake, known, none, Option.isNone_none, if_true]
    rfl
  | @otherCertificate identity certificate pinned known shows pin other =>
    cases shaken : peer.handshake settings.target settings.verify with
    | error failure => exact ⟨failure, rfl⟩
    | ok shown =>
      have same := (Peer.handshake_ok shaken).symm.trans known
      obtain rfl := Option.some.inj same
      refine ⟨.fingerprintMismatch (normalizedFingerprint pinned) (fingerprintOf certificate), ?_⟩
      simp only [pin, bind, Except.bind]
      unfold Identity.pin
      rw [shows]
      simp [Ne.symm other]

theorem Trusts.secure (trusts : settings.Trusts peer) :
    peer.secure settings.target ⟨settings.verify, settings.serverFingerprint⟩ = .ok () := by
  obtain ⟨identity, certificate, shaken, shows, matching⟩ := trusts
  unfold Peer.secure
  rw [shaken]
  cases pin : settings.serverFingerprint with
  | none => rfl
  | some pinned =>
    simp only [bind, Except.bind]
    unfold Identity.pin
    rw [shows]
    simp [matching pinned pin]

theorem trust_of_tls (tls : settings.tls = true) :
    settings.trust = some ⟨settings.verify, settings.serverFingerprint⟩ := by
  unfold trust
  rw [if_pos tls]

theorem attemptOver_refused
    (refused : network.connectSecurely settings.target settings.timeout settings.trust =
      .error refusal) :
    settings.attemptOver delivery network = .failed refusal.failure refusal.received := by
  unfold attemptOver
  rw [refused]

theorem attemptOver_secured
    (secured : network.connectSecurely settings.target settings.timeout settings.trust =
      .ok peer) :
    settings.attemptOver .whole network =
      ⟨.ok (settings.report network.now), promptly, [Log.info "Close prematurely"],
        [.raw settings.sentBytes]⟩ := by
  unfold attemptOver
  rw [secured]
  rfl

theorem attemptOver_broken {arrived : Nat} {fault : Wire.Fault}
    (secured : network.connectSecurely settings.target settings.timeout settings.trust =
      .ok peer) :
    settings.attemptOver (.broken arrived fault) network =
      .failed (.connection settings.target.text fault)
        [.raw (settings.sentBytes.take arrived)] := by
  unfold attemptOver
  rw [secured]
  rfl

theorem attemptOver_ok
    (reported : (settings.attemptOver delivery network).outcome = .ok report) :
    settings.Accounts report (settings.attemptOver delivery network).received := by
  cases secured :
      network.connectSecurely settings.target settings.timeout settings.trust with
  | error refusal =>
    rw [attemptOver_refused secured] at reported
    cases reported
  | ok peer =>
    cases delivery with
    | whole =>
      rw [attemptOver_secured secured] at reported ⊢
      obtain rfl := Except.ok.inj reported
      exact accounts_report network.now
    | broken arrived fault =>
      rw [attemptOver_broken secured] at reported
      cases reported

/-- Without a connection nothing is secured and nothing is sent. -/
theorem attemptOver_unreached
    (refused : network.connect settings.target settings.timeout = .error refusal) :
    ∃ failure, (settings.attemptOver delivery network).outcome = .error failure ∧
      failure.category = .network ∧
        GotNothing (settings.attemptOver delivery network).received := by
  rw [attemptOver_refused (Network.connectSecurely_unreached refused)]
  obtain ⟨⟨fault, failure⟩, nothing⟩ := Network.connect_error refused
  exact ⟨refusal.failure, rfl, by rw [failure]; rfl, nothing⟩

theorem attemptOver_distrusted (tls : settings.tls = true)
    (reached : network.connect settings.target settings.timeout = .ok peer)
    (distrusts : settings.Distrusts peer) :
    ∃ failure, (settings.attemptOver delivery network).outcome = .error failure ∧
      failure.category = .tls ∧ GotNothing (settings.attemptOver delivery network).received := by
  obtain ⟨failure, untrusted⟩ := distrusts.secure
  have refused := Network.connectSecurely_untrusted reached untrusted
  rw [← trust_of_tls tls] at refused
  rw [attemptOver_refused refused]
  exact ⟨failure, rfl, Peer.secure_error untrusted, gotNothing_nothing⟩

theorem attemptOver_trusted
    (reached : network.connect settings.target settings.timeout = .ok peer)
    (trusts : settings.tls = true → settings.Trusts peer) :
    (settings.attemptOver .whole network).outcome = .ok (settings.report network.now) := by
  have secured : network.connectSecurely settings.target settings.timeout settings.trust =
      .ok peer := by
    cases tls : settings.tls with
    | false =>
      have plain : settings.trust = none := by simp [trust, tls]
      rw [plain, Network.connectSecurely_plain, reached]
    | true =>
      rw [trust_of_tls tls]
      exact Network.connectSecurely_trusted reached (trusts tls).secure
  rw [attemptOver_secured secured]

/-- A report agrees with what the peer has got. A peer that is reached over TLS and not trusted
gets nothing, and neither does one that is not reached, which is no failure of TLS. -/
theorem hangUp_accounts (settings : DisconnectSettings) (network : Network)
    (delivery : Delivery) :
    let attempt := settings.attemptOver delivery network
    (∀ report, attempt.outcome = .ok report → settings.Accounts report attempt.received) ∧
      (∀ peer, network.peer = .ok peer → settings.Connects → settings.tls = true →
        settings.Distrusts peer →
          ∃ failure, attempt.outcome = .error failure ∧ failure.category = .tls ∧
            GotNothing attempt.received) ∧
      (¬(settings.Connects ∧ ∃ peer, network.peer = .ok peer) →
        ∃ failure, attempt.outcome = .error failure ∧ failure.category = .network ∧
          GotNothing attempt.received) ∧
      ∀ peer, network.peer = .ok peer → settings.Connects →
        (settings.tls = true → settings.Trusts peer) → delivery = .whole →
          ∃ report, attempt.outcome = .ok report := by
  have reaches : ∀ peer, network.peer = .ok peer → settings.Connects →
      network.connect settings.target settings.timeout = .ok peer := by
    intro peer known connects
    obtain ⟨noNul, notZero⟩ := connects_iff.mp connects
    exact Network.connect_ok_iff.mpr ⟨noNul, notZero, known⟩
  refine ⟨fun report => attemptOver_ok, ?_, ?_, ?_⟩
  · intro peer known connects tls distrusts
    exact attemptOver_distrusted tls (reaches peer known connects) distrusts
  · intro unconnected
    cases reached : network.connect settings.target settings.timeout with
    | error refusal => exact attemptOver_unreached reached
    | ok peer =>
      obtain ⟨noNul, notZero, known⟩ := Network.connect_ok_iff.mp reached
      exact absurd ⟨connects_iff.mpr ⟨noNul, notZero⟩, peer, known⟩ unconnected
  · rintro peer known connects trusts rfl
    exact ⟨_, attemptOver_trusted (reaches peer known connects) trusts⟩

theorem length_fingerprintOf (certificate : List UInt8) :
    (fingerprintOf certificate).length = 64 := by
  simp [fingerprintOf, Bytes.hex, Bytes.hexPair, Bytes.Sha256.digest, Bytes.Sha256.State.words,
    Bytes.Sha256.wordBytes]

/-- With a timeout of no length the connection fails before a wrong certificate is seen. -/
theorem zeroTimeout_is_no_tls_failure :
    let settings : DisconnectSettings :=
      { timeoutSeconds := some 0, serverFingerprint := some "00" }
    let peer : Peer := ⟨.listens, some ⟨some (fingerprintOf [0x30, 0x00]), none⟩, none⟩
    let attempt := settings.attemptOver .whole ⟨⟨0, 0⟩, .ok peer⟩
    settings.tls = true ∧ settings.Distrusts peer ∧
      ∃ failure, attempt.outcome = .error failure ∧ failure.category ≠ .tls := by
  intro settings peer attempt
  have other : normalizedFingerprint "00" ≠ fingerprintOf [0x30, 0x00] := by
    intro same
    have short : (normalizedFingerprint "00").length = 2 := by decide
    rw [same, length_fingerprintOf] at short
    cases short
  refine ⟨rfl, .otherCertificate rfl rfl rfl other, ?_⟩
  cases reached : Network.connect ⟨⟨0, 0⟩, .ok peer⟩ settings.target settings.timeout with
  | error refusal =>
    have unreached : ∃ failure, attempt.outcome = .error failure ∧ failure.category = .network ∧
        GotNothing attempt.received := attemptOver_unreached reached
    obtain ⟨failure, failed, category, -⟩ := unreached
    exact ⟨failure, failed, by rw [category]; decide⟩
  | ok other =>
    obtain ⟨noNul, notZero, -⟩ := Network.connect_ok_iff.mp reached
    exact absurd rfl notZero

end DisconnectSettings

end ServerProbe
