import ServerProbe.Peer
import ServerProbe.Proofs.Probe.Expect

/-! What a body that is held back waits for.

An exchange is watched moment by moment, up to its last byte sent. The body goes
out once a head with any status from 100 to 199 has been read, or when the time
for a head has run out; that the status is 100 is not asked for.
-/

set_option autoImplicit false

namespace ServerProbe.Http

open Wire

/-- What is done on a connection as long as there is something to send. -/
inductive Moment where
  | sentHead (bytes : List UInt8)
  | sentBody (bytes : List UInt8)
  /-- A whole head was read. -/
  | heard (head : Head)
  /-- No head could be read. -/
  | failed (fault : Fault)

namespace Moment

def sent : Moment → List UInt8
  | .sentHead bytes => bytes
  | .sentBody bytes => bytes
  | .heard _ => []
  | .failed _ => []

/-- A body that waits for heads of a kind is released by one, or when time runs out. -/
def Releases (kind : Head → Prop) : Moment → Prop
  | .sentHead _ => False
  | .sentBody _ => False
  | .heard head => kind head
  | .failed fault => fault.isTimeout = true

end Moment

/-- No byte of a body is sent before a moment that releases it. -/
def Waits (kind : Head → Prop) (course : List Moment) : Prop :=
  ∀ before bytes after, course = before ++ .sentBody bytes :: after → bytes ≠ [] →
    ∃ moment ∈ before, moment.Releases kind

structure Watched where
  connection : Connection
  course : List Moment

namespace Watched

def opened (stream : Stream) : Watched := ⟨.opened stream, []⟩

def sendHead (bytes : List UInt8) (watched : Watched) : Watched where
  connection := watched.connection.send bytes
  course := watched.course ++ [.sentHead bytes]

def sendBody (body : List UInt8) (watched : Watched) : Watched where
  connection := watched.connection.sendBody body
  course := watched.course ++ [.sentBody body]

def receiveHead (watched : Watched) : Except Fault Head × Watched :=
  match watched.connection.receive readHead with
  | (.ok head, later) => (.ok head, ⟨later, watched.course ++ [.heard head]⟩)
  | (.error fault, later) => (.error fault, ⟨later, watched.course ++ [.failed fault]⟩)

end Watched

/-- An exchange with its course, as `Exchange.run` has it. After the last moment it only reads. -/
def Exchange.watch (request : Request) (stream : Stream) : List Moment × Exchange :=
  let waiting := (Watched.opened stream).sendHead request.headBytes
  match waiting.receiveHead with
  | (.ok head, watched) =>
    if head.isInterim then
      let released := watched.sendBody request.body
      (released.course, ended false released.connection.answer)
    else (watched.course, ended false (watched.connection.finish head))
  | (.error fault, watched) =>
    if fault.isTimeout then
      let released := watched.sendBody request.body
      (released.course, ended true released.connection.answer)
    else (watched.course, ended false (.error (.fault fault), watched.connection))

section
variable {kind : Head → Prop} {course : List Moment}

theorem waits_nil : Waits kind [] := by
  intro before bytes after split
  simp at split

theorem waits_cons_iff {moment : Moment} :
    Waits kind (moment :: course) ↔
      (∀ bytes, moment = .sentBody bytes → bytes = []) ∧
        (moment.Releases kind ∨ Waits kind course) := by
  constructor
  · intro waits
    constructor
    · rintro bytes rfl
      by_contra sends
      obtain ⟨earlier, member, -⟩ := waits [] bytes course rfl sends
      simp at member
    · by_cases releases : moment.Releases kind
      · exact .inl releases
      · right
        rintro before bytes after rfl sends
        obtain ⟨earlier, member, known⟩ := waits (moment :: before) bytes after rfl sends
        rcases List.mem_cons.mp member with rfl | member
        · exact absurd known releases
        · exact ⟨earlier, member, known⟩
  · rintro ⟨nothing, released⟩ before bytes after split sends
    rcases List.cons_eq_append_iff.mp split with ⟨rfl, same⟩ | ⟨others, rfl, later⟩
    · exact absurd (nothing bytes (List.cons.inj same).1.symm) sends
    · rcases released with releases | waits
      · exact ⟨moment, List.mem_cons_self, releases⟩
      · obtain ⟨earlier, member, known⟩ := waits others bytes after later sends
        exact ⟨earlier, List.mem_cons_of_mem moment member, known⟩

@[simp]
theorem waits_sentHead_iff {bytes : List UInt8} :
    Waits kind (.sentHead bytes :: course) ↔ Waits kind course := by
  simp [waits_cons_iff, Moment.Releases]

@[simp]
theorem waits_heard_iff {head : Head} :
    Waits kind (.heard head :: course) ↔ kind head ∨ Waits kind course := by
  simp [waits_cons_iff, Moment.Releases]

@[simp]
theorem waits_failed_iff {fault : Fault} :
    Waits kind (.failed fault :: course) ↔ fault.isTimeout = true ∨ Waits kind course := by
  simp [waits_cons_iff, Moment.Releases]

@[simp]
theorem waits_lastBody_iff {bytes : List UInt8} : Waits kind [.sentBody bytes] ↔ bytes = [] := by
  simp [waits_cons_iff, Moment.Releases, waits_nil]

end

theorem Watched.receiveHead_opened (bytes : List UInt8) (stream : Stream) :
    ((opened stream).sendHead bytes).receiveHead =
      match readHead stream with
      | (.ok head, rest) => (.ok head, ⟨⟨rest, bytes⟩, [.sentHead bytes, .heard head]⟩)
      | (.error fault, rest) =>
        (.error fault, ⟨⟨rest, bytes⟩, [.sentHead bytes, .failed fault]⟩) := by
  cases read : readHead stream with
  | mk result rest =>
    cases result <;>
      simp [receiveHead, opened, sendHead, Connection.opened, Connection.send, Connection.receive,
        read]

namespace Exchange

variable {request : Request} {stream rest : Stream} {head : Head} {fault : Fault}

theorem watch_interim (read : readHead stream = (.ok head, rest))
    (interim : head.isInterim = true) :
    watch request stream =
      ([.sentHead request.headBytes, .heard head, .sentBody request.body],
        run request stream) := by
  rw [run_interim read interim]
  simp [watch, Watched.receiveHead_opened, Watched.sendBody, read, interim, heard]

theorem watch_final (read : readHead stream = (.ok head, rest))
    (final : head.isInterim = false) :
    watch request stream =
      ([.sentHead request.headBytes, .heard head], run request stream) := by
  rw [run_final read final]
  simp [watch, Watched.receiveHead_opened, read, final, heard]

theorem watch_timeout (read : readHead stream = (.error fault, rest))
    (timeout : fault.isTimeout = true) :
    watch request stream =
      ([.sentHead request.headBytes, .failed fault, .sentBody request.body],
        run request stream) := by
  rw [run_timeout read timeout]
  simp [watch, Watched.receiveHead_opened, Watched.sendBody, read, timeout, heard]

theorem watch_fault (read : readHead stream = (.error fault, rest))
    (notTimeout : fault.isTimeout = false) :
    watch request stream =
      ([.sentHead request.headBytes, .failed fault], run request stream) := by
  rw [run_fault read notTimeout]
  simp [watch, Watched.receiveHead_opened, read, notTimeout, heard]

variable (request stream)

theorem first_head_cases :
    (∃ head rest, readHead stream = (.ok head, rest) ∧ head.isInterim = true) ∨
      (∃ head rest, readHead stream = (.ok head, rest) ∧ head.isInterim = false) ∨
      (∃ fault rest, readHead stream = (.error fault, rest) ∧ fault.isTimeout = true) ∨
      ∃ fault rest, readHead stream = (.error fault, rest) ∧ fault.isTimeout = false := by
  cases readHead stream with
  | mk first rest =>
    cases first with
    | ok head => cases interim : head.isInterim <;> simp [interim]
    | error fault => cases timeout : fault.isTimeout <;> simp [timeout]

/-- Being watched changes nothing, and what is sent is sent in the order of the course. -/
theorem watch_run :
    (watch request stream).2 = run request stream ∧
      (watch request stream).1.flatMap Moment.sent = (run request stream).written := by
  rcases first_head_cases stream with ⟨head, rest, read, interim⟩ | ⟨head, rest, read, final⟩ |
    ⟨fault, rest, read, timeout⟩ | ⟨fault, rest, read, other⟩
  · rw [watch_interim read interim, run_interim read interim, written_sendBody]
    simp [Moment.sent, Request.bytes]
  · rw [watch_final read final, run_final read final, written_finish]
    simp [Moment.sent]
  · rw [watch_timeout read timeout, run_timeout read timeout, written_sendBody]
    simp [Moment.sent, Request.bytes]
  · rw [watch_fault read other, run_fault read other]
    simp [Moment.sent, ended, heard]

theorem waits_watch_iff (kind : Head → Prop) :
    Waits kind (watch request stream).1 ↔
      request.body = [] ∨
        ∀ head rest, readHead stream = (.ok head, rest) → head.isInterim = true → kind head := by
  rcases first_head_cases stream with ⟨head, rest, read, interim⟩ | ⟨head, rest, read, final⟩ |
    ⟨fault, rest, read, timeout⟩ | ⟨fault, rest, read, other⟩
  · simp [watch_interim read interim, read, interim, or_comm]
  · simp [watch_final read final, read, final, waits_nil]
  · simp [watch_timeout read timeout, read, timeout]
  · simp [watch_fault read other, read, waits_nil]

theorem heard_iff (head : Head) :
    .heard head ∈ (watch request stream).1 ↔ ∃ rest, readHead stream = (.ok head, rest) := by
  rcases first_head_cases stream with ⟨known, rest, read, interim⟩ | ⟨known, rest, read, final⟩ |
    ⟨fault, rest, read, timeout⟩ | ⟨fault, rest, read, other⟩
  · simp [watch_interim read interim, read, eq_comm]
  · simp [watch_final read final, read, eq_comm]
  · simp [watch_timeout read timeout, read]
  · simp [watch_fault read other, read]

end Exchange

/-- A body always waits for an interim head or for time to run out. It waits for a head with status
100 unless the first head is interim with another status, which releases it as well. -/
theorem waits_for_continue_iff (request : Request) (stream : Stream) :
    let course := (Exchange.watch request stream).1
    let exchange := Exchange.run request stream
    (Exchange.watch request stream).2 = exchange ∧
      course.flatMap Moment.sent = exchange.written ∧
      (∀ head, .heard head ∈ course ↔ ∃ rest, readHead stream = (.ok head, rest)) ∧
      Waits (fun head => 100 ≤ head.status.toNat ∧ head.status.toNat ≤ 199) course ∧
      (Waits (fun head => head.status = 100) course ↔
        request.body = [] ∨
          ¬∃ head rest, readHead stream = (.ok head, rest) ∧
            101 ≤ head.status.toNat ∧ head.status.toNat ≤ 199) := by
  intro course exchange
  obtain ⟨same, sent⟩ := Exchange.watch_run request stream
  refine ⟨same, sent, Exchange.heard_iff request stream, ?_, ?_⟩
  · rw [Exchange.waits_watch_iff]
    exact .inr fun head rest read interim => StallSettings.isInterim_iff.mp interim
  · rw [Exchange.waits_watch_iff]
    apply or_congr_right
    simp only [StallSettings.isInterim_iff, ← UInt16.toNat_inj]
    constructor
    · rintro waits ⟨head, rest, read, more, less⟩
      have continues := waits head rest read ⟨by omega, less⟩
      simp at continues
      omega
    · intro noOther head rest read interim
      by_contra other
      refine noOther ⟨head, rest, read, ?_, interim.2⟩
      simp at other
      omega

def earlyHints : HeadText where
  statusLine := ⟨"1.1", 103, "Early Hints", .crlf, okLine.solid, by decide⟩
  fieldLines := []
  ending := .crlf

def expectationFailed : HeadText where
  statusLine := ⟨"1.1", 417, "Expectation Failed", .crlf, okLine.solid, by decide⟩
  fieldLines := [⟨"Content-Length", "0", " ", .crlf,
    isTrimmed_lengthName, colon_not_mem_lengthName, by decide, isGap_space, by decide⟩]
  ending := .crlf

/-- Early hints release a body, which a final answer would have kept back. -/
theorem earlyHints_release_body :
    let request := Request.post "localhost" 80 (Text.utf8 "hello")
    let stream := Peer.stream ⟨.answers (earlyHints.bytes ++ expectationFailed.bytes) [], none, none⟩
    ¬Waits (fun head => head.status = 100) (Exchange.watch request stream).1 ∧
      (Exchange.run request stream).written = request.bytes ∧
      (Exchange.run request stream).ranOut = false ∧
      ∀ head, .heard head ∈ (Exchange.watch request stream).1 → head.status = 103 := by
  intro request stream
  have arrives : stream = ofBytes earlyHints.bytes ++
      (ofBytes expectationFailed.bytes ++ .pause :: ofBytes []) := by
    rw [← List.append_assoc, ← ofBytes_append]
    rfl
  have read := readHead_written earlyHints (ofBytes expectationFailed.bytes ++ .pause :: ofBytes [])
  rw [← arrives] at read
  have interim : earlyHints.head.isInterim = true := by decide
  refine ⟨?_, ?_, ?_, ?_⟩
  · rw [Exchange.waits_watch_iff]
    rintro (nothing | waits)
    · exact absurd nothing (by decide)
    · exact absurd (waits _ _ read interim) (by decide)
  · rw [Exchange.run_interim read interim]
    exact Exchange.written_sendBody ..
  · rw [Exchange.run_interim read interim]
    rfl
  · intro head heard
    obtain ⟨rest, again⟩ := (Exchange.heard_iff request stream head).mp heard
    rw [read] at again
    obtain ⟨same, -⟩ := Prod.mk.inj again
    rw [← Except.ok.inj same]
    decide

end ServerProbe.Http
