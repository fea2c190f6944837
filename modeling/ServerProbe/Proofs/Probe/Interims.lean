import ServerProbe.Proofs.Http.ChunkGrammar
import ServerProbe.Proofs.Probe.LateAnswer

/-! Interim heads make no difference to what the echo call reports.

Without any, the final head comes before the body of the request is sent. Behind
an interim head the body is sent first, and the other interim heads are passed
over. Both ways lead to the same response.
-/

set_option autoImplicit false

namespace ServerProbe.Http

open Wire

/-- The bytes are a whole body in the form that a head announces, with this content. -/
inductive Complete (head : Head) : List UInt8 → List UInt8 → Prop where
  | chunked {bytes : List UInt8} {parts : List (List UInt8)} : head.isChunked = true →
      ChunkLines parts bytes [] → parts.flatten.length < sizeLimit →
      Complete head bytes parts.flatten
  | sized {content : List UInt8} : head.isChunked = false →
      head.contentLength? = some content.length → content.length < sizeLimit →
      Complete head content content
  | untilEnd {content : List UInt8} : head.isChunked = false → head.contentLength? = none →
      Complete head content content

theorem complete_of_readBody {head : Head} {bytes body : List UInt8}
    (read : head.readBody (ofBytes bytes) = (.ok body, [])) : Complete head bytes body := by
  unfold Head.readBody at read
  cases chunked : head.isChunked with
  | true =>
    rw [chunked, if_pos rfl] at read
    obtain ⟨parts, front, rest, rfl, nothing, lines, rfl, fits⟩ :=
      chunkLines_of_readChunks (by decide) read
    obtain rfl : rest = [] := List.map_eq_nil_iff.mp nothing.symm
    rw [Nat.zero_add] at fits
    rw [List.append_nil]
    exact .chunked chunked lines fits
  | false =>
    simp only [chunked, Bool.false_eq_true, if_false] at read
    cases length : head.contentLength? with
    | some size =>
      simp only [length, Head.readSized] at read
      split at read
      · cases read
      · next fits =>
        split at read
        · next taken =>
          cases read
          obtain ⟨rest, rfl, nothing, rfl⟩ := takeBytes_ok_iff.mp taken
          obtain rfl : rest = [] := List.map_eq_nil_iff.mp nothing.symm
          rw [List.append_nil]
          exact .sized chunked length (Nat.lt_of_not_le fits)
        · cases read
    | none =>
      simp only [length, Head.readToEnd, takeAll_ofBytes] at read
      cases read
      exact .untilEnd chunked length

theorem Complete.readBody {head : Head} {bytes body : List UInt8}
    (complete : Complete head bytes body) : head.readBody (ofBytes bytes) = (.ok body, []) := by
  unfold Head.readBody
  cases complete with
  | @chunked parts chunked lines fits =>
    have room : 0 + parts.flatten.length < sizeLimit := by rwa [Nat.zero_add]
    have read := lines.readChunks room
    rw [List.append_nil] at read
    rw [if_pos chunked, read]
    rfl
  | sized noChunks length fits =>
    have taken : takeBytes bytes.length (ofBytes bytes) = ⟨bytes, none, []⟩ :=
      takeBytes_ok_iff.mpr ⟨[], (List.append_nil bytes).symm, rfl, rfl⟩
    have room : ¬sizeLimit ≤ bytes.length := Nat.not_le.mpr fits
    simp [noChunks, length, Head.readSized, room, taken]
  | untilEnd noChunks noLength =>
    simp [noChunks, noLength, Head.readToEnd, takeAll_ofBytes]

theorem readBody_ok_iff {head : Head} {bytes body : List UInt8} :
    head.readBody (ofBytes bytes) = (.ok body, []) ↔ Complete head bytes body :=
  ⟨complete_of_readBody, Complete.readBody⟩

def HeadText.sent (written : HeadText) : SentHead :=
  ⟨written.bytes, written.head, readHead_written written⟩

/-- Heads arrive, and then these bytes. Behind the first of the heads the server may wait for the
body of the request before it goes on. -/
inductive Arrives : List HeadText → List UInt8 → Stream → Prop where
  | atOnce {bytes : List UInt8} : Arrives [] bytes (ofBytes bytes)
  | behind {first : HeadText} {others : List HeadText} {bytes : List UInt8} {later : Stream} :
      afterBody later = ofBytes (others.flatMap HeadText.bytes ++ bytes) →
      Arrives (first :: others) bytes (ofBytes first.bytes ++ later)

section
variable {final : HeadText} {bytes body : List UInt8}

theorem answers_of_heads (isFinal : final.head.isInterim = false)
    (complete : Complete final.head bytes body) {heads : List HeadText}
    (areInterim : ∀ written ∈ heads, written.head.isInterim = true) :
    Answers (ofBytes (heads.flatMap HeadText.bytes ++ (final.bytes ++ bytes))) final.head body := by
  let answer : ServerAnswer := {
    interims := heads.map HeadText.sent
    final := final.sent
    bodyBytes := bytes
    body := body
    areInterim := List.forall_mem_map.mpr areInterim
    isFinal := isFinal
    bodyRead := readBody_ok_iff.mpr complete }
  have whole : answer.bytes = heads.flatMap HeadText.bytes ++ (final.bytes ++ bytes) := by
    rw [ServerAnswer.bytes, List.flatMap_map]
    rfl
  rw [← whole]
  exact answer.answers

theorem Exchange.run_arrives (request : Request) (isFinal : final.head.isInterim = false)
    (complete : Complete final.head bytes body) {heads : List HeadText} {stream : Stream}
    (areInterim : ∀ written ∈ heads, written.head.isInterim = true)
    (arrives : Arrives heads (final.bytes ++ bytes) stream) :
    (run request stream).outcome = .ok (final.head, body) ∧
      (run request stream).ranOut = false := by
  cases arrives with
  | atOnce =>
    have read := readHead_written final (ofBytes bytes)
    rw [← ofBytes_append] at read
    rw [run_final read isFinal]
    exact ⟨Connection.finish_ok_iff.mpr ⟨rfl, _, complete.readBody⟩, rfl⟩
  | @behind first others _ later asked =>
    have answers := answers_of_heads isFinal complete fun written member =>
      areInterim written (List.mem_cons_of_mem first member)
    rw [← asked] at answers
    have interim := areInterim first List.mem_cons_self
    rw [run_interim (readHead_written first later) interim]
    exact ⟨answer_ok_iff.mpr answers, rfl⟩

end

end ServerProbe.Http

namespace ServerProbe.StallSettings

open Wire Http

/-- Whatever interim heads come before a response, or none, the echo call makes one and the same
report, with the status of the response and the length of its body. -/
theorem interims_transparent (network : Network) (settings : StallSettings) (target : Target)
    (request : Request) (threshold : Duration) (final : HeadText) (bytes body : List UInt8)
    (isFinal : ¬(100 ≤ final.statusLine.status.toNat ∧ final.statusLine.status.toNat ≤ 199))
    (complete : Complete final.head bytes body) :
    ∃ report : StallReport, report.status = final.statusLine.status.toNat ∧
      report.responseBytes = body.length ∧
      ∀ interims stream,
        (∀ head ∈ interims, 100 ≤ head.statusLine.status.toNat ∧
          head.statusLine.status.toNat ≤ 199) →
        Arrives interims (final.bytes ++ bytes) stream →
        settings.resultOf network target request threshold (Exchange.run request stream) =
          .ok report := by
  have notInterim : final.head.isInterim = false :=
    Bool.eq_false_iff.mpr fun interim => isFinal (isInterim_iff.mp interim)
  refine ⟨settings.report request.bodyLength final.head body promptly threshold network.now,
    rfl, rfl, ?_⟩
  intro interims stream areInterim arrives
  obtain ⟨outcome, inTime⟩ := Exchange.run_arrives request notInterim complete
    (fun head member => isInterim_iff.mpr (areInterim head member)) arrives
  refine (resultOf_ok_iff ..).mpr ⟨final.head, body, outcome, ?_⟩
  rw [elapsedOf, inTime]
  rfl

def continueHead : HeadText where
  statusLine := ⟨"1.1", 100, "Continue", .lf, okLine.solid, by decide⟩
  fieldLines := []
  ending := .crlf

def processingHead : HeadText where
  statusLine := ⟨"1.1", 102, "Processing", .crlf, okLine.solid, by decide⟩
  fieldLines := [⟨"Server", "echo", "", .lf, by decide, by decide, by decide, by decide,
    by decide⟩]
  ending := .crlf

theorem shortHead_complete : Complete shortHead.head (Text.utf8 "hi") (Text.utf8 "hi") :=
  .sized (by decide) (by decide) (by decide)

/-- The response alone, and behind two interim heads between which the server waits. -/
theorem shortHead_behind_interims :
    ∃ report : StallReport, report.status = 200 ∧ report.responseBytes = 2 ∧
      smallCall (ofBytes (shortHead.bytes ++ Text.utf8 "hi")) = .ok report ∧
      smallCall (ofBytes continueHead.bytes ++ .pause :: ofBytes (processingHead.bytes ++
        (shortHead.bytes ++ Text.utf8 "hi"))) = .ok report := by
  obtain ⟨report, status, size, reported⟩ := interims_transparent
    ⟨⟨0, 0⟩, .error .connectionRefused⟩ (.ofUrl "http://localhost/") ⟨"localhost", 80⟩
    (.post "localhost" 80 (Text.utf8 "hello")) (.ofMilliseconds 1000) shortHead (Text.utf8 "hi")
    (Text.utf8 "hi") (by decide) shortHead_complete
  refine ⟨report, status, size, reported [] _ (by decide) .atOnce, ?_⟩
  refine reported [continueHead, processingHead] _ (by decide) (.behind ?_)
  rw [afterBody, List.filter_cons_of_neg (by decide)]
  exact afterBody_ofBytes _

end ServerProbe.StallSettings
