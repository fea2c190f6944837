import ServerProbe.Probe.Expect
import ServerProbe.Proofs.Http.Exchange
import ServerProbe.Proofs.Http.Interruption
import ServerProbe.Proofs.Http.ReadBack

/-! The echo call that holds its body back, whatever the server does.

What is sent depends on the first head alone. When the time for it runs out
inside of it, the bytes that had come are gone, and the server is judged by the
rest of its answer.
-/

set_option autoImplicit false

namespace ServerProbe.StallSettings

open Wire Http

variable (network : Network) (settings : StallSettings) (target : Target) (request : Request)
  (threshold : Duration)

theorem resultOf_ok_iff {exchange : Exchange} {report : StallReport} :
    settings.resultOf network target request threshold exchange = .ok report ↔
      ∃ head body, exchange.outcome = .ok (head, body) ∧
        report = settings.report request.bodyLength head body (elapsedOf threshold exchange)
          threshold network.now := by
  unfold resultOf
  cases exchange.outcome with
  | error failure => simp
  | ok answer =>
    obtain ⟨head, body⟩ := answer
    simp only [Except.ok.injEq, Prod.mk.injEq]
    constructor
    · rintro rfl
      exact ⟨head, body, ⟨rfl, rfl⟩, rfl⟩
    · rintro ⟨_, _, ⟨rfl, rfl⟩, rfl⟩
      rfl

theorem resultOf_fault {exchange : Exchange} {fault : Fault}
    (failed : exchange.outcome = .error (.fault fault)) :
    settings.resultOf network target request threshold exchange =
      .error (.connection target.text fault) := by
  unfold resultOf
  rw [failed]
  rfl

theorem isInterim_iff {head : Head} :
    head.isInterim = true ↔ 100 ≤ head.status.toNat ∧ head.status.toNat ≤ 199 := by
  unfold Head.isInterim
  rw [Bool.and_eq_true, decide_eq_true_iff, decide_eq_true_iff]
  omega

theorem isTimeout_iff {fault : Fault} :
    fault.isTimeout = true ↔ fault.kind = .wouldBlock ∨ fault.kind = .timedOut := by
  unfold Fault.isTimeout
  rw [Bool.or_eq_true, decide_eq_true_iff, decide_eq_true_iff]

/-- What goes out is the head alone when the server decides the call before the body is due, and
otherwise the whole request, once. -/
theorem exchange_written (stream : Stream) :
    let exchange := Exchange.run request stream
    let result := settings.resultOf network target request threshold exchange
    match readHead stream with
    | (.ok head, rest) =>
      if 100 ≤ head.status.toNat ∧ head.status.toNat ≤ 199 then exchange.written = request.bytes
      else exchange.written = request.headBytes ∧
        ∀ report, result = .ok report → report.status = head.status.toNat ∧
          ∃ body left, head.readBody rest = (.ok body, left) ∧ report.responseBytes = body.length
    | (.error fault, _) =>
      if fault.kind = .wouldBlock ∨ fault.kind = .timedOut then exchange.written = request.bytes
      else exchange.written = request.headBytes ∧
        result = .error (.connection target.text fault) := by
  intro exchange result
  cases read : readHead stream with
  | mk first rest =>
    cases first with
    | ok head =>
      dsimp only
      split
      -- An interim head asks for the body.
      · next interim =>
        have run : exchange = _ := Exchange.run_interim read (isInterim_iff.mpr interim)
        rw [run]
        exact Exchange.written_sendBody request rest false
      · next notInterim =>
        have final : head.isInterim = false :=
          Bool.eq_false_iff.mpr fun interim => notInterim (isInterim_iff.mp interim)
        have run : exchange = _ := Exchange.run_final read final
        constructor
        · rw [run]
          exact Exchange.written_finish request rest head
        · intro report reported
          obtain ⟨known, body, outcome, rfl⟩ := (resultOf_ok_iff ..).mp reported
          rw [run] at outcome
          obtain ⟨rfl, left, bodyRead⟩ := Connection.finish_ok_iff.mp outcome
          exact ⟨rfl, body, left, bodyRead, rfl⟩
    | error fault =>
      dsimp only
      split
      -- Without a head in time the body goes out unasked.
      · next timeout =>
        have run : exchange = _ := Exchange.run_timeout read (isTimeout_iff.mpr timeout)
        rw [run]
        exact Exchange.written_sendBody request rest true
      · next other =>
        have notTimeout : fault.isTimeout = false :=
          Bool.eq_false_iff.mpr fun timeout => other (isTimeout_iff.mp timeout)
        have run : exchange = _ := Exchange.run_fault read notTimeout
        rw [run]
        refine ⟨rfl, resultOf_fault _ _ _ _ _ ?_⟩
        rw [run]
        rfl

end ServerProbe.StallSettings
