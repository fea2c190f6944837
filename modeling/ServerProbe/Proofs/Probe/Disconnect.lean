import ServerProbe.Probe.Request
import ServerProbe.Proofs.Http.HeadLines

/-! The lengths that a request announces when its server hangs up early.

The host and the user agent are settings, and no check looks for line ends in
them. Without any, the head announces one length, which is that of the settings.
Each line end in them begins a line of the head that the probe does not frame.
-/

set_option autoImplicit false

namespace ServerProbe.DisconnectSettings

open Http

def agent (settings : DisconnectSettings) : String :=
  settings.userAgent.getD Http.userAgent

/-- The length that is set, or that of the body. -/
def ownLength (settings : DisconnectSettings) : Nat :=
  settings.declaredLength.getD settings.body.length

/-- The head of the request announces one length, its own, and the body comes after the head. -/
def AnnouncesOnce (settings : DisconnectSettings) : Prop :=
  ∃ lines, head? settings.request.bytes = some (lines, settings.body) ∧
    lines.filterMap lengthValue? = [Text.utf8 (toString settings.ownLength)]

/-- The lines of the head that only a line end in the user agent or in the host begins. -/
def unframedLines (settings : DisconnectSettings) : List (List UInt8) :=
  addedLines settings.agent ++ addedLines settings.target.text

theorem request_eq (settings : DisconnectSettings) :
    settings.request = {
      path := "/"
      fields := [
        ("User-Agent", settings.agent),
        ("Host", settings.target.text),
        ("Accept", "*/*"),
        ("Content-type", "text/xml")]
      body := settings.body
      declared := settings.declaredLength } := by
  unfold request agent
  cases settings.userAgent with
  | none => rfl
  | some agent => rfl

def headLines (settings : DisconnectSettings) : List (List UInt8) :=
  ((Request.lines settings.request.path settings.request.fields
    settings.request.declaredLength).map Text.utf8).flatMap linesOf

theorem head?_request_iff {settings : DisconnectSettings} {lines : List (List UInt8)} :
    head? settings.request.bytes = some (lines, settings.body) ↔
      lines = settings.headLines ∧ [] ∉ lines := by
  have body : settings.request.body = settings.body := by rw [request_eq]
  rw [Request.bytes_eq_written, body, head?_written_iff]
  rfl

/-- The head has the lines that the probe frames, and behind two of them those that it does not. -/
theorem headLines_eq (settings : DisconnectSettings) :
    ∃ agentLine hostLine, settings.headLines =
        Text.utf8 "POST / HTTP/1.1" :: (agentLine :: addedLines settings.agent) ++
          (hostLine :: addedLines settings.target.text) ++
            [Text.utf8 "Accept: */*", Text.utf8 "Content-type: text/xml",
              Text.utf8 ("Content-Length: " ++ toString settings.ownLength)] ∧
      (agentLine ≠ [] ∧ lengthValue? agentLine = none) ∧
      hostLine ≠ [] ∧ lengthValue? hostLine = none := by
  obtain ⟨agentLine, agentCut, agentFramed⟩ :=
    linesOf_field "User-Agent" (by decide) (by decide) (by decide) settings.agent
  obtain ⟨hostLine, hostCut, hostFramed⟩ :=
    linesOf_field "Host" (by decide) (by decide) (by decide) settings.target.text
  refine ⟨agentLine, hostLine, ?_, agentFramed, hostFramed⟩
  have post : linesOf (Text.utf8 ("POST " ++ "/" ++ " HTTP/1.1")) =
      [Text.utf8 "POST / HTTP/1.1"] := linesOf_utf8 (by decide)
  have accept : linesOf (Text.utf8 ("Accept" ++ ": " ++ "*/*")) = [Text.utf8 "Accept: */*"] :=
    linesOf_utf8 (by decide)
  have xml : linesOf (Text.utf8 ("Content-type" ++ ": " ++ "text/xml")) =
      [Text.utf8 "Content-type: text/xml"] := linesOf_utf8 (by decide)
  have own : linesOf (Text.utf8 ("Content-Length: " ++ toString settings.ownLength)) =
      [Text.utf8 ("Content-Length: " ++ toString settings.ownLength)] := by
    have number := (toString_isSolid settings.ownLength).newline_not_mem
    exact linesOf_utf8 (by simpa using number)
  have declared : settings.request.declaredLength = settings.ownLength := by
    rw [request_eq]
    rfl
  rw [headLines, declared, request_eq]
  simp only [Request.lines, List.map_cons, List.map_nil, List.cons_append, List.nil_append,
    List.flatMap_cons, List.flatMap_nil, post, agentCut, hostCut, accept, xml, own]
  simp

theorem lengths_headLines (settings : DisconnectSettings) :
    settings.headLines.filterMap lengthValue? =
      settings.unframedLines.filterMap lengthValue? ++
        [Text.utf8 (toString settings.ownLength)] := by
  obtain ⟨agentLine, hostLine, lines, ⟨-, noLength⟩, -, noLengthHere⟩ := settings.headLines_eq
  have post : lengthValue? (Text.utf8 "POST / HTTP/1.1") = none := by decide
  have accept : lengthValue? (Text.utf8 "Accept: */*") = none := by decide
  have xml : lengthValue? (Text.utf8 "Content-type: text/xml") = none := by decide
  have own := lengthValue?_length settings.ownLength
  rw [lines]
  simp only [unframedLines, List.filterMap_append, List.filterMap_cons, List.filterMap_nil, post,
    noLength, noLengthHere, accept, xml, own]

theorem nil_mem_headLines_iff {settings : DisconnectSettings} :
    [] ∈ settings.headLines ↔ [] ∈ settings.unframedLines := by
  obtain ⟨agentLine, hostLine, lines, ⟨notEmpty, -⟩, notEmptyHere, -⟩ := settings.headLines_eq
  have own : Text.utf8 ("Content-Length: " ++ toString settings.ownLength) ≠ [] := by
    rw [Text.utf8_append]
    exact List.append_ne_nil_of_left_ne_nil (by decide) _
  have post : Text.utf8 "POST / HTTP/1.1" ≠ [] := by decide
  have accept : Text.utf8 "Accept: */*" ≠ [] := by decide
  have xml : Text.utf8 "Content-type: text/xml" ≠ [] := by decide
  rw [lines]
  simp only [unframedLines, List.mem_append, List.mem_cons, List.not_mem_nil, post.symm,
    notEmpty.symm, notEmptyHere.symm, accept.symm, xml.symm, own.symm, false_or, or_false]

/-- All depends on the lines that the probe does not frame: they may neither end the head nor
announce a length. -/
theorem announcesOnce_iff_unframed {settings : DisconnectSettings} :
    settings.AnnouncesOnce ↔
      [] ∉ settings.unframedLines ∧ settings.unframedLines.filterMap lengthValue? = [] := by
  unfold AnnouncesOnce
  simp only [head?_request_iff]
  constructor
  · rintro ⟨lines, ⟨rfl, full⟩, lengths⟩
    rw [nil_mem_headLines_iff] at full
    rw [lengths_headLines, List.append_left_eq_self] at lengths
    exact ⟨full, lengths⟩
  · rintro ⟨full, noOther⟩
    rw [← nil_mem_headLines_iff] at full
    refine ⟨settings.headLines, ⟨rfl, full⟩, ?_⟩
    rw [lengths_headLines, noOther, List.nil_append]

theorem unframedLines_of_oneLine {settings : DisconnectSettings}
    (agent : '\n' ∉ settings.agent.toList) (host : '\n' ∉ settings.host.toList) :
    settings.unframedLines = [] := by
  have port := (toString_isSolid settings.port.toNat).newline_not_mem
  have target : '\n' ∉ settings.target.text.toList := by
    simpa [target, Target.text, host] using port
  rw [unframedLines, addedLines_of_oneLine agent, addedLines_of_oneLine target, List.append_nil]

/-- One length is announced just when no line that the probe does not frame is empty or announces
a length. This is so whenever neither the user agent nor the host has a line feed. -/
theorem announcesOnce_iff (settings : DisconnectSettings) :
    (settings.AnnouncesOnce ↔
        ∀ line ∈ settings.unframedLines, line ≠ [] ∧ lengthValue? line = none) ∧
      ('\n' ∉ settings.agent.toList → '\n' ∉ settings.host.toList →
        settings.AnnouncesOnce) := by
  constructor
  · rw [announcesOnce_iff_unframed, List.filterMap_eq_nil_iff]
    constructor
    · rintro ⟨full, noOther⟩ line member
      exact ⟨fun empty => full (empty ▸ member), noOther line member⟩
    · intro each
      exact ⟨fun empty => (each [] empty).1 rfl, fun line member => (each line member).2⟩
  · intro agent host
    rw [announcesOnce_iff_unframed, unframedLines_of_oneLine agent host]
    exact ⟨List.not_mem_nil, rfl⟩

def secondLength : DisconnectSettings :=
  { userAgent := some "probe\r\nContent-Length: 0" }

/-- Settings can pass their check and still announce two lengths. -/
theorem secondLength_announced :
    secondLength.check = .ok () ∧ ¬secondLength.AnnouncesOnce := by
  refine ⟨by decide, ?_⟩
  rw [announcesOnce_iff_unframed]
  have announced : secondLength.unframedLines.filterMap lengthValue? = [Text.utf8 "0"] := by decide
  rw [announced]
  simp

end ServerProbe.DisconnectSettings
