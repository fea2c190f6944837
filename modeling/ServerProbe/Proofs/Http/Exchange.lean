import ServerProbe.Http.Exchange

/-! What an exchange sends, and what it takes for the answer.

Reading never sends anything, so the bytes on a connection are those that were
sent on purpose. The outcome of reading depends on what is still to come only.
-/

set_option autoImplicit false

namespace ServerProbe.Http

open Wire

/-- A stream answers with its first head that is not interim, and with the body after it. -/
inductive Answers : Stream → Head → List UInt8 → Prop where
  | final {stream rest left : Stream} {head : Head} {body : List UInt8} :
      readHead stream = (.ok head, rest) → head.isInterim = false →
      head.readBody rest = (.ok body, left) → Answers stream head body
  | interim {stream rest : Stream} {skipped head : Head} {body : List UInt8} :
      readHead stream = (.ok skipped, rest) → skipped.isInterim = true →
      Answers rest head body → Answers stream head body

namespace Connection

variable {R : Type}

theorem receive_sent (read : Stream → R × Stream) (connection : Connection) :
    (connection.receive read).2.sent = connection.sent := rfl

theorem finish_sent (head : Head) (connection : Connection) :
    (connection.finish head).2.sent = connection.sent := by
  have same := receive_sent head.readBody connection
  unfold finish
  split <;> next received => rw [received] at same; exact same

theorem answer_sent (connection : Connection) : connection.answer.2.sent = connection.sent := by
  have same := receive_sent Head.readFinal connection
  unfold answer
  split
  · next received =>
    rw [received] at same
    exact same
  · next head later received =>
    rw [received] at same
    exact (finish_sent head later).trans same

theorem finish_ok_iff {connection : Connection} {first head : Head} {body : List UInt8} :
    (connection.finish first).1 = .ok (head, body) ↔
      first = head ∧ ∃ left, head.readBody connection.incoming = (.ok body, left) := by
  unfold finish receive
  cases read : first.readBody connection.incoming with
  | mk result left =>
    cases result with
    | error failure =>
      simp only [reduceCtorEq, false_iff, not_and]
      rintro rfl ⟨other, known⟩
      simp [read] at known
    | ok known =>
      simp only [Except.ok.injEq, Prod.mk.injEq]
      constructor
      · rintro ⟨rfl, rfl⟩
        exact ⟨rfl, left, read⟩
      · rintro ⟨rfl, other, again⟩
        rw [read] at again
        simp only [Prod.mk.injEq, Except.ok.injEq] at again
        exact ⟨rfl, again.1⟩

end Connection

theorem Answers.readFinal {stream : Stream} {head : Head} {body : List UInt8}
    (answers : Answers stream head body) :
    ∃ rest left, Head.readFinal stream = (.ok head, rest) ∧
      head.readBody rest = (.ok body, left) := by
  induction answers with
  | final read isFinal bodyRead =>
    refine ⟨_, _, ?_, bodyRead⟩
    rw [Head.readFinal_eq]
    simp [read, isFinal]
  | interim read isInterim later ih =>
    obtain ⟨rest, left, final, bodyRead⟩ := ih
    refine ⟨rest, left, ?_, bodyRead⟩
    rw [Head.readFinal_eq]
    simp [read, isInterim, final]

theorem Answers.of_readFinal {stream rest left : Stream} {head : Head} {body : List UInt8}
    (final : Head.readFinal stream = (.ok head, rest))
    (bodyRead : head.readBody rest = (.ok body, left)) : Answers stream head body := by
  -- Interim heads are passed over one by one, until a head ends the loop.
  fun_induction Head.readFinal stream with
  | case1 => simp at final
  | case2 stream skipped afterHead read isInterim ih => exact .interim read isInterim (ih final)
  | case3 stream first afterHead read notInterim =>
    simp only [Prod.mk.injEq, Except.ok.injEq] at final
    obtain ⟨rfl, rfl⟩ := final
    exact .final read (by simpa using notInterim) bodyRead

theorem answer_ok_iff {connection : Connection} {head : Head} {body : List UInt8} :
    connection.answer.1 = .ok (head, body) ↔ Answers connection.incoming head body := by
  unfold Connection.answer Connection.receive
  cases read : Head.readFinal connection.incoming with
  | mk result rest =>
    constructor
    · intro ok
      cases result with
      | error fault => cases ok
      | ok first =>
        obtain ⟨rfl, left, bodyRead⟩ := Connection.finish_ok_iff.mp ok
        exact .of_readFinal read bodyRead
    · intro answers
      obtain ⟨after, left, final, bodyRead⟩ := answers.readFinal
      rw [read] at final
      obtain ⟨rfl, rfl⟩ := Prod.mk.inj final
      exact Connection.finish_ok_iff.mpr ⟨rfl, left, bodyRead⟩

theorem answer_of_fault {connection : Connection} {fault : Fault} {rest : Stream}
    (read : readHead connection.incoming = (.error fault, rest)) :
    connection.answer.1 = .error (.fault fault) := by
  have final : Head.readFinal connection.incoming = (.error fault, rest) := by
    rw [Head.readFinal_eq, read]
  unfold Connection.answer Connection.receive
  rw [final]

namespace Exchange

variable {request : Request} {stream rest : Stream} {head : Head} {fault : Fault}

/-- The connection once the head of a request is sent and the first head of an answer is read. -/
def heard (request : Request) (rest : Stream) : Connection := ⟨rest, request.headBytes⟩

theorem run_interim (read : readHead stream = (.ok head, rest)) (interim : head.isInterim = true) :
    run request stream = ended false ((heard request rest).sendBody request.body).answer := by
  simp [run, Connection.receive, Connection.send, Connection.opened, read, interim, heard]

theorem run_final (read : readHead stream = (.ok head, rest)) (final : head.isInterim = false) :
    run request stream = ended false ((heard request rest).finish head) := by
  simp [run, Connection.receive, Connection.send, Connection.opened, read, final, heard]

theorem run_timeout (read : readHead stream = (.error fault, rest))
    (timeout : fault.isTimeout = true) :
    run request stream = ended true ((heard request rest).sendBody request.body).answer := by
  simp [run, Connection.receive, Connection.send, Connection.opened, read, timeout, heard]

theorem run_fault (read : readHead stream = (.error fault, rest))
    (notTimeout : fault.isTimeout = false) :
    run request stream = ended false (.error (.fault fault), heard request rest) := by
  simp [run, Connection.receive, Connection.send, Connection.opened, read, notTimeout, heard]

theorem written_sendBody (request : Request) (rest : Stream) (ranOut : Bool) :
    (ended ranOut ((heard request rest).sendBody request.body).answer).written = request.bytes :=
  Connection.answer_sent _

theorem written_finish (request : Request) (rest : Stream) (head : Head) :
    (ended false ((heard request rest).finish head)).written = request.headBytes :=
  Connection.finish_sent head _

end Exchange

end ServerProbe.Http
