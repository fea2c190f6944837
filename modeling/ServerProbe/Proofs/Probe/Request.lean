import ServerProbe.Proofs.Http.RequestFraming
import ServerProbe.Proofs.Probe.Disconnect
import ServerProbe.Proofs.Url.Reading

/-! What the request that holds its body back says about the server.

Its head takes path, query, host and port from the address and nothing else. It
writes an IPv6 host in brackets; the request that is hung up on writes the host
as it is looked up, without them.
-/

set_option autoImplicit false

namespace ServerProbe

open Http

/-- The host that a request names to its server. -/
def Http.Request.host? (request : Request) : Option String :=
  (request.fields.find? fun field => Text.sameIgnoringCase field.1 "Host").map Prod.snd

namespace Url

variable {url : Url} {host : Host} {port : Nat}

/-- The query behind its mark, also when it is empty. -/
def queryText (url : Url) : String :=
  match url.query with
  | some query => "?" ++ query
  | none => ""

/-- The port behind its colon, when one is written that is not the usual one. -/
def portText (url : Url) : String :=
  match url.port with
  | some port => ":" ++ toString port
  | none => ""

/-- The lines of the head of an Expect request to a host. -/
def expectLines (url : Url) (host : Host) (length : Nat) : List String := [
  "POST " ++ (url.path ++ url.queryText) ++ " HTTP/1.1",
  "User-Agent: xmlrpc-probe/0.1.0",
  "Host: " ++ (host.text ++ url.portText),
  "Accept: */*",
  "Content-type: text/xml",
  "Expect: 100-continue",
  "Connection: close",
  "Content-Length: " ++ toString length]

theorem pathAndQuery_eq (url : Url) : url.pathAndQuery = url.path ++ url.queryText := by
  unfold pathAndQuery queryText
  cases url.query with
  | some query => exact String.append_assoc
  | none => exact String.append_empty.symm

theorem hostAndPort_eq (named : url.host = some host) :
    url.hostAndPort = host.text ++ url.portText := by
  unfold hostAndPort hostText portText
  rw [named]
  cases url.port with
  | some port => exact String.append_assoc
  | none => exact String.append_empty.symm

theorem target_of_host (named : url.host = some host) (known : url.effectivePort? = some port) :
    url.target = .ok ⟨host.lookupText, port⟩ := by
  rw [target, named, known]

theorem requestFor_eq (url : Url) (target : Target) (body : List UInt8) :
    url.requestFor target body = {
      path := url.pathAndQuery
      fields := [
        ("User-Agent", userAgent),
        ("Host", url.hostAndPort),
        ("Accept", "*/*"),
        ("Content-type", xmlContentType),
        ("Expect", "100-continue"),
        ("Connection", "close")]
      body := body
      declared := none } := rfl

def expectNames : List String :=
  ["User-Agent", "Host", "Accept", "Content-type", "Expect", "Connection"]

theorem name_mem_expectNames {target : Target} {body : List UInt8} {field : Field}
    (member : field ∈ (url.requestFor target body).fields) : field.1 ∈ expectNames := by
  rw [requestFor_eq] at member
  exact List.mem_map_of_mem (f := Prod.fst) member

theorem lines_requestFor (named : url.host = some host) (target : Target) (body : List UInt8) :
    Request.lines (url.requestFor target body).path (url.requestFor target body).fields
      (url.requestFor target body).declaredLength = url.expectLines host body.length := by
  rw [requestFor_eq, pathAndQuery_eq, hostAndPort_eq named]
  rfl

/-! No part of an address ends a line. -/

theorem Proper.noControl_path (proper : url.Proper) :
    NoControl (url.path ++ url.queryText).toList := by
  refine noControl_append proper.path ?_
  unfold queryText
  split
  · next query asked => exact noControl_append (by decide) (proper.query query asked)
  · exact nofun

theorem Proper.noControl_host (proper : url.Proper) (named : url.host = some host) :
    NoControl (host.text ++ url.portText).toList := by
  refine noControl_append (proper.host host named) ?_
  unfold portText
  split
  · exact noControl_append (by decide) (isNumbers_toString _).noControl
  · exact nofun

theorem Proper.noControl_lines (proper : url.Proper) (named : url.host = some host)
    (length : Nat) : ∀ line ∈ url.expectLines host length, NoControl line.toList := by
  have method : NoControl "POST ".toList := by decide
  have version : NoControl " HTTP/1.1".toList := by decide
  have hostName : NoControl "Host: ".toList := by decide
  have lengthName : NoControl "Content-Length: ".toList := by decide
  have requestLine := (noControl_append method proper.noControl_path).append version
  have hostLine := noControl_append hostName (proper.noControl_host named)
  have lengthLine := noControl_append lengthName (isNumbers_toString length).noControl
  simp only [expectLines, List.forall_mem_cons, List.not_mem_nil, false_implies, implies_true,
    and_true]
  rw [← String.toList_append] at requestLine
  exact ⟨requestLine, by decide, hostLine, by decide, by decide, by decide, by decide, lengthLine⟩

theorem Proper.isFramed (proper : url.Proper) (named : url.host = some host) (target : Target)
    (body : List UInt8) : (url.requestFor target body).IsFramed := by
  have path := proper.noControl_path.newline_not_mem
  have hostPart := (proper.noControl_host named).newline_not_mem
  have names : ∀ name ∈ expectNames, '\n' ∉ name.toList ∧ ':' ∉ name.toList := by decide
  refine ⟨?_, fun field member => names field.1 (name_mem_expectNames member), ?_⟩
  · rwa [requestFor_eq, pathAndQuery_eq]
  · rw [requestFor_eq, hostAndPort_eq named]
    simp only [List.forall_mem_cons, List.not_mem_nil, false_implies, implies_true, and_true]
    exact ⟨by decide, hostPart, by decide, by decide, by decide, by decide⟩

/-- The request of an address that names a host and a port has eight lines in its head, made of the
path, the query, the host and the port; credentials and fragment do not matter. -/
theorem expectRequest_lines {text : String} (read : ofText text = .ok url)
    (named : url.host = some host) (known : url.effectivePort? = some port) (body : String) :
    let lines := url.expectLines host body.utf8ByteSize
    ∃ request, url.expectRequest (Text.utf8 body) = .ok request ∧
      request.headBytes = written (lines.map Text.utf8) [] ∧
      (∀ line ∈ lines, '\r' ∉ line.toList ∧ '\n' ∉ line.toList) ∧
      head? request.bytes = some (lines.map Text.utf8, Text.utf8 body) ∧
      request.isMalformed = false ∧
      ∀ username password fragment,
        expectRequest { url with username, password, fragment } (Text.utf8 body) = .ok request := by
  intro lines
  have size : (Text.utf8 body).length = body.utf8ByteSize := rfl
  have proper := proper_of_ofText read
  have reached := target_of_host named known
  refine ⟨url.requestFor ⟨host.lookupText, port⟩ (Text.utf8 body), ?_, ?_, ?_, ?_, ?_, ?_⟩
  · rw [expectRequest, reached]
    rfl
  · rw [Request.headBytes_eq_written, lines_requestFor named, size]
  · exact fun line member =>
      have clean := proper.noControl_lines named _ line member
      ⟨clean.return_not_mem, clean.newline_not_mem⟩
  · rw [Request.head?_bytes (proper.isFramed named _ _), lines_requestFor named, size]
    rfl
  · rw [Request.isMalformed, bne_eq_false_iff_eq]
    rfl
  · intro username password fragment
    have same : target { url with username, password, fragment } =
        .ok ⟨host.lookupText, port⟩ := target_of_host named known
    rw [expectRequest, same]
    rfl

def guardedUrl : Url where
  scheme := "https"
  hasAuthority := true
  username := "user"
  password := "pw"
  host := some (.ipv6 [0, 0, 0, 0, 0, 0, 0, 1])
  port := some 8443
  path := "/RPC2"
  query := some ""
  fragment := some "top"

theorem guardedUrl_lines :
    (ofText "https://user:pw@[::1]:8443/RPC2?#top" = .ok guardedUrl ∧
        guardedUrl.host = some (.ipv6 [0, 0, 0, 0, 0, 0, 0, 1]) ∧
        guardedUrl.effectivePort? = some 8443) ∧
      ∃ request, guardedUrl.expectRequest (Text.utf8 "é") = .ok request ∧
        head? request.bytes =
          some (["POST /RPC2? HTTP/1.1", "User-Agent: xmlrpc-probe/0.1.0", "Host: [::1]:8443",
            "Accept: */*", "Content-type: text/xml", "Expect: 100-continue", "Connection: close",
            "Content-Length: 2"].map Text.utf8, Text.utf8 "é") := by
  have read : ofText "https://user:pw@[::1]:8443/RPC2?#top" = .ok guardedUrl := rfl
  have named : guardedUrl.host = some (.ipv6 [0, 0, 0, 0, 0, 0, 0, 1]) := rfl
  have known : guardedUrl.effectivePort? = some 8443 := rfl
  obtain ⟨request, made, -, -, head, -⟩ := expectRequest_lines read named known "é"
  refine ⟨⟨read, named, known⟩, request, made, ?_⟩
  rw [head]
  rfl

theorem Host.text_eq_lookupText_iff {host : Host} :
    host.text = host.lookupText ↔ ∀ numbers, host ≠ .ipv6 numbers := by
  cases host with
  | domain name => simp [text, lookupText]
  | ipv4 address => simp [text, lookupText]
  | ipv6 numbers =>
    refine ⟨fun same => ?_, fun other => absurd rfl (other numbers)⟩
    have bracket : '[' ∈ (ipv6 numbers).text.toList := by simp [text]
    rw [same] at bracket
    exact absurd bracket (isNumbers_socketText numbers).bracket_not_mem

theorem host?_of_fields {request : Request} {agent named : String} {rest : List Field}
    (fields : request.fields = ("User-Agent", agent) :: ("Host", named) :: rest) :
    request.host? = some named := by
  have other : Text.sameIgnoringCase "User-Agent" "Host" = false := by decide
  have same : Text.sameIgnoringCase "Host" "Host" = true := by decide
  rw [Request.host?, fields, List.find?_cons_of_neg (by simp [other]),
    List.find?_cons_of_pos (by simp [same]), Option.map_some]

theorem host?_post (target : Target) (body : List UInt8) :
    (Request.post target.host target.port body).host? = some target.text :=
  host?_of_fields rfl

theorem host?_requestFor (url : Url) (target : Target) (body : List UInt8) :
    (url.requestFor target body).host? = some url.hostAndPort :=
  host?_of_fields rfl

theorem host?_disconnect (settings : DisconnectSettings) :
    settings.request.host? = some settings.target.text := by
  rw [DisconnectSettings.request_eq]
  exact host?_of_fields rfl

theorem exists_settings {target : Target} (small : target.port < Text.shortLimit) :
    ∃ settings : DisconnectSettings, settings.target = target := by
  refine ⟨{ host := target.host, port := UInt16.ofNat target.port }, ?_⟩
  rw [DisconnectSettings.target, UInt16.toNat_ofNat_of_lt' small]

/-- The two requests name a server alike just when its host is no IPv6 address, whose brackets are
missing from the request that is hung up on. -/
theorem namesAlike_iff {text : String} {target : Target} (read : ofText text = .ok url)
    (accepted : url.target = .ok target) (explicit : url.port = some port) (body : List UInt8) :
    ∃ request, url.expectRequest body = .ok request ∧
      (request.host? = (Request.post target.host target.port body).host? ↔
        ∀ numbers, url.host ≠ some (.ipv6 numbers)) ∧
      (∃ settings : DisconnectSettings, settings.target = target) ∧
      ∀ settings : DisconnectSettings, settings.target = target →
        settings.request.host? = (Request.post target.host target.port body).host? := by
  have known : url.effectivePort? = some port := by rw [effectivePort?, explicit, Option.some_or]
  cases named : url.host with
  | none =>
    rw [Url.target, named] at accepted
    cases accepted
  | some host =>
    have reached := target_of_host named known
    obtain rfl := Except.ok.inj (accepted.symm.trans reached)
    refine ⟨url.requestFor ⟨host.lookupText, port⟩ body, ?_, ?_, ?_, ?_⟩
    · rw [expectRequest, reached]
      rfl
    · have spelled : url.hostAndPort = host.text ++ (":" ++ toString port) := by
        rw [hostAndPort_eq named, portText, explicit]
      have looked : Target.text ⟨host.lookupText, port⟩ =
          host.lookupText ++ (":" ++ toString port) := String.append_assoc
      rw [host?_requestFor, host?_post, spelled, looked, Option.some_inj,
        String.append_left_inj, Host.text_eq_lookupText_iff]
      simp
    · exact exists_settings ((proper_of_ofText read).port port explicit).1
    · intro settings same
      rw [host?_disconnect, host?_post, same]

/-- An address of a scheme that is not well known, on a port of its own. -/
def namedUrl : Url where
  scheme := "xmlrpc"
  hasAuthority := true
  username := ""
  password := ""
  host := some (.domain "server")
  port := some 8080
  path := "/"
  query := none
  fragment := none

theorem namedUrl_alike :
    (ofText "xmlrpc://server:8080/" = .ok namedUrl ∧ namedUrl.target = .ok ⟨"server", 8080⟩ ∧
        namedUrl.port = some 8080) ∧
      ∃ request, namedUrl.expectRequest [] = .ok request ∧
        request.host? = (Request.post "server" 8080 []).host? := by
  have read : ofText "xmlrpc://server:8080/" = .ok namedUrl := rfl
  have accepted : namedUrl.target = .ok ⟨"server", 8080⟩ := rfl
  obtain ⟨request, made, alike, -⟩ := namesAlike_iff read accepted rfl []
  exact ⟨⟨read, accepted, rfl⟩, request, made, alike.mpr nofun⟩

def bracketedUrl : Url where
  scheme := "http"
  hasAuthority := true
  username := ""
  password := ""
  host := some (.ipv6 [0, 0, 0, 0, 0, 0, 0, 1])
  port := some 8080
  path := "/"
  query := none
  fragment := none

/-- The brackets of an IPv6 address are in one of the two requests only. -/
theorem brackets_unalike :
    ∃ url target request, ofText "http://[::1]:8080/" = .ok url ∧ url.target = .ok target ∧
      url.port = some 8080 ∧ url.expectRequest [] = .ok request ∧
      request.host? = some "[::1]:8080" ∧
      (Request.post target.host target.port []).host? = some "::1:8080" := by
  refine ⟨bracketedUrl, ⟨"::1", 8080⟩, _, rfl, rfl, rfl, rfl, ?_, ?_⟩
  · rw [host?_requestFor]
    decide
  · rw [host?_post]
    decide

end Url

end ServerProbe
