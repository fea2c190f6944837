import ServerProbe.Proofs.Probe.Expect

/-! The time for the first head runs out while it is arriving.

The probe then sends the body and takes the rest of the answer for the whole of
it. Only when time runs out before the first byte is nothing lost.
-/

set_option autoImplicit false

namespace ServerProbe.Http

open Wire

structure SentHead where
  bytes : List UInt8
  head : Head
  whole : Takes readHead bytes (.ok head)

/-- What a server sends: any number of interim heads, and one complete response. -/
structure ServerAnswer where
  interims : List SentHead
  final : SentHead
  bodyBytes : List UInt8
  body : List UInt8
  areInterim : ∀ sent ∈ interims, sent.head.isInterim = true
  isFinal : final.head.isInterim = false
  bodyRead : final.head.readBody (ofBytes bodyBytes) = (.ok body, [])

namespace ServerAnswer

def bytes (answer : ServerAnswer) : List UInt8 :=
  answer.interims.flatMap SentHead.bytes ++ (answer.final.bytes ++ answer.bodyBytes)

/-- The head that arrives first, interim or not. -/
def first (answer : ServerAnswer) : SentHead :=
  answer.interims.head?.getD answer.final

/-- What follows the head that arrives first. -/
def later (answer : ServerAnswer) : List UInt8 :=
  match answer.interims with
  | [] => answer.bodyBytes
  | _ :: others => others.flatMap SentHead.bytes ++ (answer.final.bytes ++ answer.bodyBytes)

/-- The answer as it arrives when one fault stands between some of its bytes and the others. -/
def interrupted (answer : ServerAnswer) (cut : Nat) (fault : Fault) : Stream :=
  ofBytes (answer.bytes.take cut) ++ .fault fault :: ofBytes (answer.bytes.drop cut)

variable (answer : ServerAnswer)

theorem bytes_eq : answer.bytes = answer.first.bytes ++ answer.later := by
  unfold bytes first later
  cases answer.interims with
  | nil => rfl
  | cons sent others => simp

theorem answers_of_interims {interims : List SentHead}
    (areInterim : ∀ sent ∈ interims, sent.head.isInterim = true) :
    Answers (ofBytes (interims.flatMap SentHead.bytes ++ (answer.final.bytes ++ answer.bodyBytes)))
      answer.final.head answer.body := by
  induction interims with
  | nil =>
    have read := answer.final.whole (ofBytes answer.bodyBytes)
    rw [← ofBytes_append] at read
    exact .final read answer.isFinal answer.bodyRead
  | cons sent others ih =>
    have rest := ih fun other member => areInterim other (List.mem_cons_of_mem sent member)
    have read := sent.whole (ofBytes (others.flatMap SentHead.bytes ++
      (answer.final.bytes ++ answer.bodyBytes)))
    rw [← ofBytes_append, ← List.append_assoc, ← List.flatMap_cons] at read
    exact .interim read (areInterim sent List.mem_cons_self) rest

theorem answers : Answers (ofBytes answer.bytes) answer.final.head answer.body :=
  answer.answers_of_interims answer.areInterim

theorem readHead_first :
    readHead (ofBytes answer.bytes) = (.ok answer.first.head, ofBytes answer.later) := by
  rw [bytes_eq, ofBytes_append]
  exact answer.first.whole _

end ServerAnswer

theorem afterBody_ofBytes (bytes : List UInt8) : afterBody (ofBytes bytes) = ofBytes bytes := by
  induction bytes with
  | nil => rfl
  | cons byte bytes ih =>
    rw [ofBytes_cons]
    unfold afterBody at ih ⊢
    rw [List.filter_cons_of_pos rfl, ih]

namespace Exchange

variable {bytes : List UInt8} {head : Head} {body : List UInt8}

theorem run_answers (answers : Answers (ofBytes bytes) head body) {first : Head}
    {later : List UInt8} (read : readHead (ofBytes bytes) = (.ok first, ofBytes later))
    (request : Request) : (run request (ofBytes bytes)).outcome = .ok (head, body) := by
  cases answers with
  | final again isFinal bodyRead =>
    rw [run_final again isFinal]
    exact Connection.finish_ok_iff.mpr ⟨rfl, _, bodyRead⟩
  | interim again isInterim rest =>
    rw [run_interim again isInterim]
    rw [read] at again
    obtain ⟨-, rfl⟩ := Prod.mk.inj again
    rw [← afterBody_ofBytes] at rest
    exact answer_ok_iff.mpr rest

end Exchange

end ServerProbe.Http

namespace ServerProbe.StallSettings

open Wire Http

def Reports (result : Except Failure StallReport) (status : UInt16) (size : Nat) : Prop :=
  ∃ report, result = .ok report ∧ report.status = status.toNat ∧ report.responseBytes = size

/-- Bytes that are by themselves an answer with a status and a body of some size. -/
def AnswersWith (bytes : List UInt8) (status : UInt16) (size : Nat) : Prop :=
  ∃ head body, Answers (ofBytes bytes) head body ∧ head.status = status ∧ body.length = size

section
variable (network : Network) (settings : StallSettings) (target : Target) (request : Request)
  (threshold : Duration) (answer : ServerAnswer)

theorem reports_iff {exchange : Exchange} {status : UInt16} {size : Nat} :
    Reports (settings.resultOf network target request threshold exchange) status size ↔
      ∃ head body, exchange.outcome = .ok (head, body) ∧ head.status = status ∧
        body.length = size := by
  constructor
  · rintro ⟨report, reported, sameStatus, sameSize⟩
    obtain ⟨head, body, outcome, rfl⟩ := (resultOf_ok_iff ..).mp reported
    exact ⟨head, body, outcome, UInt16.toNat_inj.mp sameStatus, sameSize⟩
  · rintro ⟨head, body, outcome, rfl, rfl⟩
    exact ⟨_, (resultOf_ok_iff ..).mpr ⟨head, body, outcome, rfl⟩, rfl, rfl⟩

theorem reports_timely :
    Reports (settings.resultOf network target request threshold
      (Exchange.run request (ofBytes answer.bytes))) answer.final.head.status
      answer.body.length := by
  have outcome := Exchange.run_answers answer.answers answer.readHead_first request
  exact (reports_iff ..).mpr ⟨_, _, outcome, rfl, rfl⟩

variable {network settings target request threshold answer}
variable {cut : Nat} {fault : Fault}

theorem kind_of_isTimeout (timeout : fault.isTimeout = true) : fault.kind ≠ .interrupted := by
  rcases isTimeout_iff.mp timeout with kind | kind <;> (rw [kind]; decide)

/-- A fault inside the first head takes away what has come of it. -/
theorem readHead_interrupted (inside : cut < answer.first.bytes.length)
    (timeout : fault.isTimeout = true) :
    readHead (answer.interrupted cut fault) = (.error fault, ofBytes (answer.bytes.drop cut)) := by
  -- The cut is inside the head, so something of the head is still to come.
  have missing : answer.first.bytes.drop cut ≠ [] := by
    intro nothing
    have short := List.drop_eq_nil_iff.mp nothing
    omega
  have whole := answer.first.whole
  rw [← List.take_append_drop cut answer.first.bytes] at whole
  have arrived : answer.bytes.take cut = answer.first.bytes.take cut := by
    rw [answer.bytes_eq]
    exact List.take_append_of_le_length (Nat.le_of_lt inside)
  unfold ServerAnswer.interrupted
  rw [arrived]
  exact whole.cut (settles_readHead _) missing (kind_of_isTimeout timeout) _

theorem run_interrupted (inside : cut < answer.first.bytes.length)
    (timeout : fault.isTimeout = true) :
    (Exchange.run request (answer.interrupted cut fault)).outcome =
      (Connection.sendBody request.body
        (Exchange.heard request (ofBytes (answer.bytes.drop cut)))).answer.1 := by
  rw [Exchange.run_timeout (readHead_interrupted inside timeout) timeout]
  rfl

theorem reports_interrupted_iff (inside : cut < answer.first.bytes.length)
    (timeout : fault.isTimeout = true) {status : UInt16} {size : Nat} :
    Reports (settings.resultOf network target request threshold
        (Exchange.run request (answer.interrupted cut fault))) status size ↔
      AnswersWith (answer.bytes.drop cut) status size := by
  rw [reports_iff, run_interrupted inside timeout]
  simp only [answer_ok_iff, Connection.sendBody, Exchange.heard, afterBody_ofBytes]
  rfl

/-- What is left of a head is refused unless it names the protocol once more. -/
theorem readHead_left (started : 0 < cut) (inside : cut < answer.first.bytes.length)
    (unnamed : ¬Text.utf8 "HTTP/" <:+: answer.first.bytes.drop 1) :
    ∃ problem left, problem.kind = .invalidData ∧
      readHead (ofBytes (answer.bytes.drop cut)) = (.error problem, left) := by
  have lines := answer.first.whole.areLines (settles_readHead _)
  -- A head ends with a line feed, so the rest of it starts with a whole line.
  obtain ⟨line, more, split, oneLine⟩ :=
    List.eq_append_cons_of_mem (lines.newline_mem_drop inside)
  have regrouped : answer.bytes.drop cut = line ++ [10] ++ (more ++ answer.later) := by
    rw [answer.bytes_eq, List.drop_append_of_le_length (Nat.le_of_lt inside), split]
    simp
  have inHead : line ++ [10] <:+: answer.first.bytes.drop 1 := by
    have front : line ++ [10] <+: answer.first.bytes.drop cut := ⟨more, by rw [split]; simp⟩
    have back : answer.first.bytes.drop cut <:+ answer.first.bytes.drop 1 :=
      List.drop_suffix_drop_left _ started
    exact front.isInfix.trans back.isInfix
  rw [regrouped, ofBytes_append]
  exact readHead_unnamed oneLine (fun named => unnamed (named.trans inHead)) _

theorem refused_interrupted (started : 0 < cut) (inside : cut < answer.first.bytes.length)
    (timeout : fault.isTimeout = true)
    (unnamed : ¬Text.utf8 "HTTP/" <:+: answer.first.bytes.drop 1) :
    ∃ problem, problem.kind = .invalidData ∧
      settings.resultOf network target request threshold
        (Exchange.run request (answer.interrupted cut fault)) =
          .error (.connection target.text problem) := by
  obtain ⟨problem, left, kind, read⟩ := readHead_left started inside unnamed
  refine ⟨problem, kind, resultOf_fault _ _ _ _ _ ?_⟩
  rw [run_interrupted inside timeout]
  apply answer_of_fault
  rw [Connection.sendBody, Exchange.heard, afterBody_ofBytes]
  exact read

end

/-- A timeout inside the first head leaves the report as it would have been just when the bytes
after it are such an answer by themselves: when it came before every byte, and otherwise only when
the head names the protocol again. -/
theorem reports_after_timeout (network : Network) (settings : StallSettings) (target : Target)
    (request : Request) (threshold : Duration) (answer : ServerAnswer) (cut : Nat) (fault : Fault)
    (inside : cut < answer.first.bytes.length) (timeout : fault.isTimeout = true) :
    let timely := settings.resultOf network target request threshold
      (Exchange.run request (ofBytes answer.bytes))
    let late := settings.resultOf network target request threshold
      (Exchange.run request (answer.interrupted cut fault))
    let status := answer.final.head.status
    let size := answer.body.length
    Reports timely status size ∧
      (Reports late status size ↔ AnswersWith (answer.bytes.drop cut) status size) ∧
      (cut = 0 → Reports late status size) ∧
      (0 < cut → ¬Text.utf8 "HTTP/" <:+: answer.first.bytes.drop 1 →
        ∃ problem, problem.kind = .invalidData ∧
          late = .error (.connection target.text problem)) := by
  intro timely late status size
  have exactly : Reports late status size ↔ AnswersWith (answer.bytes.drop cut) status size :=
    reports_interrupted_iff inside timeout
  refine ⟨reports_timely .., exactly, ?_, ?_⟩
  · rintro rfl
    apply exactly.mpr
    rw [List.drop_zero]
    exact ⟨_, _, answer.answers, rfl, rfl⟩
  · intro started unnamed
    exact refused_interrupted started inside timeout unnamed

def shortHead : HeadText where
  statusLine := okLine
  fieldLines := [⟨"Content-Length", "2", " ", .crlf,
    isTrimmed_lengthName, colon_not_mem_lengthName, by decide, isGap_space, by decide⟩]
  ending := .crlf

theorem shortHead_readBody :
    shortHead.head.readBody (ofBytes (Text.utf8 "hi")) = (.ok (Text.utf8 "hi"), []) := by
  have noChunks : ¬IsChunked shortHead.head.fields := by
    rintro ⟨value, ⟨spelled, before, after, split, same, -⟩, -⟩
    have member : (spelled, value) ∈ shortHead.head.fields := by rw [split]; simp
    have only : (spelled, value) = ("Content-Length", "2") := List.mem_singleton.mp member
    obtain ⟨rfl, -⟩ := Prod.mk.inj only
    exact absurd same (by decide)
  have announced : IsFirst "Content-Length" (toString (Text.utf8 "hi").length)
      shortHead.head.fields := ⟨"Content-Length", [], [], rfl, by decide, by decide⟩
  have read := readBody_sized noChunks announced (by decide) []
  rwa [List.append_nil] at read

def shortAnswer : ServerAnswer where
  interims := []
  final := ⟨shortHead.bytes, shortHead.head, readHead_written shortHead⟩
  bodyBytes := Text.utf8 "hi"
  body := Text.utf8 "hi"
  areInterim := by simp
  isFinal := by decide
  bodyRead := shortHead_readBody

def smallCall (stream : Stream) : Except Failure StallReport :=
  let request := Request.post "localhost" 80 (Text.utf8 "hello")
  StallSettings.resultOf ⟨⟨0, 0⟩, .error .connectionRefused⟩ (.ofUrl "http://localhost/")
    ⟨"localhost", 80⟩ request (.ofMilliseconds 1000) (Exchange.run request stream)

theorem shortAnswer_unnamed : ¬Text.utf8 "HTTP/" <:+: shortAnswer.first.bytes.drop 1 := by
  intro named
  have letter : 72 ∈ Text.utf8 "HTTP/" := by decide
  exact absurd (named.subset letter) (by decide)

theorem smallCall_after_timeout :
    Reports (smallCall (ofBytes shortAnswer.bytes)) 200 2 ∧
      Reports (smallCall (shortAnswer.interrupted 0 .nothingYet)) 200 2 ∧
      ∃ problem, problem.kind = .invalidData ∧
        smallCall (shortAnswer.interrupted 10 .nothingYet) =
          .error (.connection "localhost:80" problem) := by
  have atStart := reports_after_timeout ⟨⟨0, 0⟩, .error .connectionRefused⟩
    (.ofUrl "http://localhost/") ⟨"localhost", 80⟩ (.post "localhost" 80 (Text.utf8 "hello"))
    (.ofMilliseconds 1000) shortAnswer 0 .nothingYet (by decide) (by decide)
  have inside := reports_after_timeout ⟨⟨0, 0⟩, .error .connectionRefused⟩
    (.ofUrl "http://localhost/") ⟨"localhost", 80⟩ (.post "localhost" 80 (Text.utf8 "hello"))
    (.ofMilliseconds 1000) shortAnswer 10 .nothingYet (by decide) (by decide)
  exact ⟨atStart.1, atStart.2.2.1 rfl, inside.2.2.2 (by decide) shortAnswer_unnamed⟩

/-- Time that runs out in the middle of a status line loses the whole answer. -/
theorem smallCall_loses_answer :
    10 < shortAnswer.first.bytes.length ∧ Fault.nothingYet.isTimeout = true ∧
      Reports (smallCall (ofBytes shortAnswer.bytes)) 200 2 ∧
      ¬Reports (smallCall (shortAnswer.interrupted 10 .nothingYet)) 200 2 := by
  have inside : 10 < shortAnswer.first.bytes.length := by decide
  refine ⟨inside, by decide, reports_timely .., ?_⟩
  rintro ⟨report, reported, -⟩
  obtain ⟨problem, -, failed⟩ := refused_interrupted (by decide) inside
    (by decide : Fault.nothingYet.isTimeout = true) shortAnswer_unnamed
  have clash := reported.symm.trans failed
  cases clash

end ServerProbe.StallSettings
