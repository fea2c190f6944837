import ServerProbe.Probe.Stall
import ServerProbe.Proofs.Http.RequestFraming
import ServerProbe.Proofs.Probe.Expect
import ServerProbe.Proofs.Probe.Readiness
import ServerProbe.Proofs.Xml.Echo

/-! The size of the payload, announced to the server and reported.

Both are the size in bytes of the echo call that the settings describe. Every
server that gets anything of a request gets a head with this length in it, and a
report is about a request of this length, also when the HTTP client has sent it.
-/

set_option autoImplicit false

namespace ServerProbe

open Http

/-- The bytes that a peer got, but for heads of which only some lines are kept. -/
def Received.bytes : Received → List UInt8
  | .raw bytes => bytes
  | .framed head body => head ++ body
  | .summarized _ body => body

theorem Peer.bytes_received (peer : Peer) (head body : List UInt8) :
    (peer.received head body).bytes = head ++ body := by
  unfold received
  split <;> rfl

/-- Bytes that begin with a whole head, in which just one line announces a length. -/
def AnnouncesLength (length : Nat) (bytes : List UInt8) : Prop :=
  ∃ lines rest, head? bytes = some (lines, rest) ∧
    lines.filterMap lengthValue? = [Text.utf8 (toString length)]

namespace Url

variable {url : Url} {target : Target}

theorem exists_host_of_target (found : url.target = .ok target) :
    ∃ host, url.host = some host := by
  unfold Url.target at found
  split at found
  · cases found
  · cases found
  · next host port named known => exact ⟨host, named⟩

theorem expectRequest_of_target (found : url.target = .ok target) (body : List UInt8) :
    url.expectRequest body = .ok (url.requestFor target body) := by
  rw [expectRequest, found]
  rfl

theorem bodyLength_requestFor (url : Url) (target : Target) (body : List UInt8) :
    (url.requestFor target body).bodyLength = body.length := rfl

theorem declaredLength_requestFor (url : Url) (target : Target) (body : List UInt8) :
    (url.requestFor target body).declaredLength = body.length := rfl

theorem no_length_requestFor (url : Url) (target : Target) (body : List UInt8) :
    ∀ field ∈ (url.requestFor target body).fields,
      Text.sameIgnoringCase field.1 "content-length" = false := by
  have names : ∀ name ∈ expectNames,
      Text.sameIgnoringCase name "content-length" = false := by decide
  exact fun field member => names field.1 (name_mem_expectNames member)

theorem isFramed_requestFor {text : String} (read : ofText text = .ok url)
    (found : url.target = .ok target) (body : List UInt8) :
    (url.requestFor target body).IsFramed := by
  obtain ⟨host, named⟩ := exists_host_of_target found
  exact (proper_of_ofText read).isFramed named target body

theorem announcesLength_requestFor {text : String} (read : ofText text = .ok url)
    (found : url.target = .ok target) (body rest : List UInt8) :
    AnnouncesLength body.length ((url.requestFor target body).headBytes ++ rest) := by
  have framed := isFramed_requestFor read found body
  have cut := Request.head?_headBytes_append framed rest
  rw [declaredLength_requestFor] at cut
  exact ⟨_, rest, cut, Request.lengths_lines framed (no_length_requestFor url target body) _⟩

end Url

namespace StallSettings

variable {network : Network} {settings : StallSettings} {report : StallReport}

/-- A call that holds its body back ends before anything is sent, or comes to the exchange of one
request, which carries the payload. -/
theorem expectAttempt_sends (settings : StallSettings) (network : Network) :
    (∃ failure received, settings.expectAttempt network = .failed failure received ∧
      GotNothing received) ∨
      ∃ url target threshold peer, Url.ofText settings.url = .ok url ∧ url.target = .ok target ∧
        settings.expectAttempt network = settings.attemptWith network target
          (url.requestFor target (Text.utf8 settings.payload)) threshold peer := by
  have nothing : GotNothing [] := nofun
  cases read : Url.ofText settings.url with
  | error problem =>
    refine .inl ⟨.address problem, [], ?_, nothing⟩
    simp only [expectAttempt, read]
    rfl
  | ok url =>
    cases found : url.target with
    | error failure =>
      refine .inl ⟨failure, [], ?_, nothing⟩
      simp only [expectAttempt, read, found]
      rfl
    | ok target =>
      cases known : settings.threshold? with
      | none =>
        refine .inl ⟨noThreshold, [], ?_, nothing⟩
        simp only [expectAttempt, read, found, known]
        rfl
      | some threshold =>
        rcases expectAttempt_cases read found known network with
          ⟨refusal, refused, same⟩ | ⟨peer, same⟩
        · exact .inl ⟨_, _, same, Network.gotNothing_of_refused refused⟩
        · exact .inr ⟨url, target, threshold, peer, rfl, found, same⟩

theorem announcesLength_expectAttempt {got : Received}
    (member : got ∈ (settings.expectAttempt network).received) :
    got.isEmpty = true ∨ AnnouncesLength settings.payload.utf8ByteSize got.bytes := by
  rcases settings.expectAttempt_sends network with
    ⟨failure, received, failed, nothing⟩ | ⟨url, target, threshold, peer, read, found, made⟩
  · rw [failed] at member
    exact .inl (nothing got member)
  · right
    rw [made] at member
    rw [List.mem_singleton.mp member, Peer.bytes_received]
    exact Url.announcesLength_requestFor read found (Text.utf8 settings.payload) _

theorem payloadBytes_report (payloadBytes : Nat) (head : Head) (body : List UInt8)
    (elapsed threshold : Duration) (startedAt : Instant) :
    (settings.report payloadBytes head body elapsed threshold startedAt).payloadBytes =
      payloadBytes := rfl

theorem payloadBytes_expectAttempt
    (reported : (settings.expectAttempt network).outcome = .ok report) :
    report.payloadBytes = settings.payload.utf8ByteSize := by
  rcases settings.expectAttempt_sends network with
    ⟨failure, received, failed, -⟩ | ⟨url, target, threshold, peer, -, -, made⟩
  · rw [failed] at reported
    cases reported
  · rw [made] at reported
    obtain ⟨head, body, -, rfl⟩ := (resultOf_ok_iff ..).mp reported
    rw [payloadBytes_report, Url.bodyLength_requestFor, Text.length_utf8]

theorem payloadBytes_clientAttemptWith {url : Url} {isProxied : Bool} {threshold : Duration}
    {peer : Peer}
    (reported : (settings.clientAttemptWith network url isProxied threshold peer).outcome =
      .ok report) :
    report.payloadBytes = settings.payload.utf8ByteSize := by
  unfold clientAttemptWith at reported
  dsimp only at reported
  split at reported
  · cases reported
  · cases reported
    rw [payloadBytes_report, Text.length_utf8]

theorem clientAttemptTo_cases (settings : StallSettings) (network : Network) (url : Url)
    (threshold : Duration) :
    (∃ problem received,
      settings.clientAttemptTo network url threshold = clientFailed problem received) ∨
      ∃ isProxied peer, settings.clientAttemptTo network url threshold =
        settings.clientAttemptWith network url isProxied threshold peer := by
  unfold clientAttemptTo
  dsimp only
  split
  · exact .inl ⟨_, _, rfl⟩
  · next peer reached =>
    split
    · exact .inl ⟨_, _, rfl⟩
    · split
      · exact .inl ⟨_, _, rfl⟩
      · split
        · exact .inl ⟨_, _, rfl⟩
        · exact .inr ⟨_, peer, rfl⟩

theorem payloadBytes_clientAttemptTo {url : Url} {threshold : Duration}
    (reported : (settings.clientAttemptTo network url threshold).outcome = .ok report) :
    report.payloadBytes = settings.payload.utf8ByteSize := by
  rcases settings.clientAttemptTo_cases network url threshold with
    ⟨problem, received, failed⟩ | ⟨isProxied, peer, made⟩
  · rw [failed] at reported
    cases reported
  · rw [made] at reported
    exact payloadBytes_clientAttemptWith reported

theorem payloadBytes_clientAttempt
    (reported : (settings.clientAttempt network).outcome = .ok report) :
    report.payloadBytes = settings.payload.utf8ByteSize := by
  unfold clientAttempt at reported
  split at reported
  · cases reported
  · dsimp only at reported
    split at reported
    · cases reported
    · split at reported
      · cases reported
      · exact payloadBytes_clientAttemptTo reported

theorem payloadBytes_call (reported : (settings.call network).outcome = .ok report) :
    report.payloadBytes = settings.payload.utf8ByteSize := by
  unfold call at reported
  split at reported
  · exact payloadBytes_expectAttempt reported
  · exact payloadBytes_clientAttempt reported

/-- An echo call is one escaped character, as often as it is to be sent, between two texts that the
layout decides, so its size is that of the empty call and of the characters. This size is what the
request with its body held back announces, wherever it arrives, and what every report gives. -/
theorem payload_size_announced_and_reported :
    (∀ (layout : Xml.Layout) (length : Nat) (fill : Char),
      let copy := Xml.escape (String.singleton fill)
      (Xml.Call.echo length fill).toXml layout = Xml.Call.echoFront layout ++
          String.join (List.replicate length copy) ++ Xml.Call.echoBack layout ∧
        ((Xml.Call.echo length fill).toXml layout).utf8ByteSize =
          ((Xml.Call.echo 0 fill).toXml layout).utf8ByteSize + length * copy.utf8ByteSize) ∧
      ∀ settings : StallSettings,
        let size := ((Xml.Call.echo 0 settings.fill).toXml .indented).utf8ByteSize +
          settings.payloadLength * (Xml.escape (String.singleton settings.fill)).utf8ByteSize
        (∀ url target, Url.ofText settings.url = .ok url → url.target = .ok target →
            ∃ request, url.expectRequest (Text.utf8 settings.payload) = .ok request ∧
              request.declaredLength = size ∧
                Request.TakenApart (Text.utf8 settings.payload) request) ∧
          ∀ network : Network,
            (∀ got ∈ (settings.expectAttempt network).received,
              got.isEmpty = true ∨ AnnouncesLength size got.bytes) ∧
            ∀ report, (settings.call network).outcome = .ok report →
              report.payloadBytes = size := by
  refine ⟨fun layout length fill => ?_, fun settings => ?_⟩
  · exact ⟨Xml.Call.toXml_echo layout length fill, Xml.Call.utf8ByteSize_echo layout length fill⟩
  · intro size
    have known : settings.payload.utf8ByteSize = size :=
      Xml.Call.utf8ByteSize_echo .indented settings.payloadLength settings.fill
    rw [← known]
    refine ⟨fun url target read found => ?_, fun network => ⟨fun got member => ?_, ?_⟩⟩
    · have framed := Url.isFramed_requestFor read found (Text.utf8 settings.payload)
      refine ⟨_, Url.expectRequest_of_target found _, ?_,
        framed.takenApart (Url.no_length_requestFor url target _)⟩
      rw [Url.declaredLength_requestFor, Text.length_utf8]
    · exact announcesLength_expectAttempt member
    · exact fun report reported => payloadBytes_call reported

/-- A call with a character that takes six bytes when it is escaped. -/
def quotes : StallSettings where
  url := "http://[::1]:8080/RPC2?"
  payloadLength := 3
  fill := '"'

def quotesUrl : Url where
  scheme := "http"
  hasAuthority := true
  username := ""
  password := ""
  host := some (.ipv6 [0, 0, 0, 0, 0, 0, 0, 1])
  port := some 8080
  path := "/RPC2"
  query := some ""
  fragment := none

def refusing : Network where
  now := ⟨0, 0⟩
  peer := .ok {
    conduct := .answers (Text.utf8 "HTTP/1.1 100 Continue\r\n\r\n")
      (Text.utf8 "HTTP/1.1 413 Too Large\r\nContent-Length: 2\r\n\r\nno")
    identity := none }

theorem quotes_announced_and_reported :
    (Url.ofText quotes.url = .ok quotesUrl ∧ quotesUrl.target = .ok ⟨"::1", 8080⟩) ∧
      (∃ request, quotesUrl.expectRequest (Text.utf8 quotes.payload) = .ok request ∧
        request.declaredLength = 201) ∧
      (∃ got ∈ (quotes.expectAttempt refusing).received, AnnouncesLength 201 got.bytes) ∧
      ∃ report, (quotes.call refusing).outcome = .ok report ∧ report.payloadBytes = 201 := by
  have read : Url.ofText quotes.url = .ok quotesUrl := rfl
  have found : quotesUrl.target = .ok ⟨"::1", 8080⟩ := rfl
  have size : ((Xml.Call.echo 0 quotes.fill).toXml .indented).utf8ByteSize +
      quotes.payloadLength * (Xml.escape (String.singleton quotes.fill)).utf8ByteSize = 201 := by
    have frame : ((Xml.Call.echo 0 quotes.fill).toXml .indented).utf8ByteSize = 183 := rfl
    have quote : (Xml.escape (String.singleton quotes.fill)).utf8ByteSize = 6 := rfl
    rw [frame, quote]
    rfl
  obtain ⟨-, sized⟩ := payload_size_announced_and_reported
  obtain ⟨announced, told⟩ := sized quotes
  obtain ⟨arrived, reports⟩ := told refusing
  rw [size] at announced arrived reports
  refine ⟨⟨read, found⟩, ?_, ?_, ?_⟩
  · obtain ⟨request, made, length, -⟩ := announced quotesUrl ⟨"::1", 8080⟩ read found
    exact ⟨request, made, length⟩
  · have notEmpty :
        ((quotes.expectAttempt refusing).received.any fun got => !got.isEmpty) = true := by
      decide +kernel
    obtain ⟨got, member, full⟩ := List.any_eq_true.mp notEmpty
    refine ⟨got, member, (arrived got member).resolve_left ?_⟩
    simpa using full
  · have answered : (quotes.call refusing).outcome.toOption.isSome = true := by decide +kernel
    cases outcome : (quotes.call refusing).outcome with
    | error failure =>
      rw [outcome] at answered
      cases answered
    | ok report => exact ⟨report, rfl, reports report outcome⟩

end StallSettings

end ServerProbe
