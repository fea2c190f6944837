import Mathlib.Algebra.GroupWithZero.Nat
import ServerProbe.Proofs.Suite.ExitStatus

/-! What the summary of a suite adds up to.

The counts of a summary are taken from different parts of the results. They fit
together because every result is a report or a failure and never both.
-/

set_option autoImplicit false

namespace ServerProbe

namespace Suite

variable {suite : String} {stop : Bool} {attempts : Attempts} {results : List ProbeResult}

def FallsShort (attempt : Attempt Report) : Prop :=
  ∃ report, attempt.outcome = .ok report ∧ report.passed = false

def Errs (attempt : Attempt Report) : Prop :=
  ∃ failure, attempt.outcome = .error failure

instance decidableFallsShort (attempt : Attempt Report) : Decidable (FallsShort attempt) :=
  match outcome : attempt.outcome with
  | .ok report => decidable_of_iff (report.passed = false) (by simp [FallsShort, outcome])
  | .error _ => isFalse (by simp [FallsShort, outcome])

instance decidableErrs (attempt : Attempt Report) : Decidable (Errs attempt) :=
  match outcome : attempt.outcome with
  | .ok _ => isFalse (by simp [Errs, outcome])
  | .error failure => isTrue ⟨failure, outcome⟩

theorem falls_in_one (attempt : Attempt Report) :
    (if Passes attempt then 1 else 0) + (if FallsShort attempt then 1 else 0) +
      (if Errs attempt then 1 else 0) = 1 := by
  cases outcome : attempt.outcome with
  | error failure => simp [Passes, FallsShort, Errs, outcome]
  | ok report => cases passed : report.passed <;> simp [Passes, FallsShort, Errs, outcome, passed]

theorem length_eq_counts (attempts : Attempts) :
    attempts.length = attempts.countP (fun probe => Passes probe.2) +
      attempts.countP (fun probe => FallsShort probe.2) +
      attempts.countP (fun probe => Errs probe.2) := by
  induction attempts with
  | nil => rfl
  | cons probe rest ih =>
    have one := falls_in_one probe.2
    simp only [List.length_cons, List.countP_cons, decide_eq_true_eq]
    omega

theorem passed_resultOf (probe : String × Attempt Report) :
    (resultOf probe.1 probe.2).passed = decide (Passes probe.2) := by
  rw [Bool.eq_iff_iff, decide_eq_true_iff]
  exact (isResult_resultOf probe.1 probe.2).passed

theorem isSome_error_resultOf (probe : String × Attempt Report) :
    (resultOf probe.1 probe.2).error.isSome = decide (Errs probe.2) := by
  cases outcome : probe.2.outcome <;> simp [resultOf, Errs, outcome]

def timeOf (attempts : Attempts) : Duration :=
  ⟨(attempts.map fun probe => probe.2.duration.nanoseconds).sum⟩

theorem sum?_eq (fits : (timeOf attempts).fits = true) :
    Duration.sum? (attempts.map fun probe => probe.2.duration) = some (timeOf attempts) := by
  have total : (attempts.map fun probe => probe.2.duration).foldl
      (fun total duration => total + duration.nanoseconds) 0 = (timeOf attempts).nanoseconds := by
    rw [timeOf, List.sum_eq_foldl, List.foldl_map, List.foldl_map]
  unfold Duration.sum?
  rw [total]
  exact if_pos fits

theorem results_of_completed (completed : (execute suite stop attempts).results = .ok results) :
    results = attempts.map (fun probe => resultOf probe.1 probe.2) ∧
      (execute suite stop attempts).ran = attempts.map Prod.fst := by
  have goesOn : stop = true → ∀ probe ∈ attempts, Passes probe.2 := by
    rintro rfl
    rcases all_pass_or_first_fails attempts with
      pass | ⟨before, name, attempt, after, details, rfl, earlier, fails⟩
    · exact pass
    · rw [(execute_of_fails name earlier fails after suite).1] at completed
      cases completed
  obtain ⟨returned, ran⟩ := execute_of_goesOn goesOn suite
  exact ⟨Except.ok.inj (completed.symm.trans returned), ran.names⟩

/-- What a summary says of the probes that ran. -/
structure Summary.Accounts (summary : Summary) (attempts : Attempts) : Prop where
  total : summary.total = attempts.length
  tally : summary.total = summary.passed + summary.failed
  passed : summary.passed = attempts.countP fun probe => Passes probe.2
  errored : summary.errored = attempts.countP fun probe => Errs probe.2
  failed : summary.failed = summary.errored + attempts.countP fun probe => FallsShort probe.2
  milliseconds : summary.milliseconds = (timeOf attempts).wholeMilliseconds % Text.wordLimit
  names : summary.names = attempts.map Prod.fst

theorem summarize?_results (fits : (timeOf attempts).fits = true) :
    ∃ summary, summarize? (attempts.map fun probe => resultOf probe.1 probe.2) = some summary ∧
      summary.Accounts attempts := by
  have durations : (attempts.map fun probe => resultOf probe.1 probe.2).map ProbeResult.duration =
      attempts.map fun probe => probe.2.duration := by
    simp [(isResult_resultOf _ _).duration]
  have passed : ((attempts.map fun probe => resultOf probe.1 probe.2).filter
      ProbeResult.passed).length = attempts.countP fun probe => Passes probe.2 := by
    simp [← List.countP_eq_length_filter, List.countP_map, Function.comp_def, passed_resultOf]
  have errored : ((attempts.map fun probe => resultOf probe.1 probe.2).filter
      fun result => result.error.isSome).length = attempts.countP fun probe => Errs probe.2 := by
    simp [← List.countP_eq_length_filter, List.countP_map, Function.comp_def,
      isSome_error_resultOf]
  have counts := length_eq_counts attempts
  unfold summarize?
  rw [durations, sum?_eq fits, Option.map_some]
  refine ⟨_, rfl, ?_, ?_, passed, errored, ?_, rfl, ?_⟩
  · exact List.length_map _
  · dsimp only
    rw [passed, List.length_map]
    omega
  · dsimp only
    rw [passed, errored, List.length_map]
    omega
  · simp [(isResult_resultOf _ _).name]

theorem Summary.Accounts.failed_eq_zero_iff {summary : Summary}
    (accounts : summary.Accounts attempts) : summary.failed = 0 ↔ ¬SomeFails attempts := by
  have total : summary.failed = 0 ↔ summary.passed = attempts.length := by
    rw [← accounts.total, accounts.tally]
    omega
  rw [total, accounts.passed, List.countP_eq_length, not_someFails_iff]
  simp only [decide_eq_true_eq]

/-- The summary of an execution that was not stopped accounts for every probe that ran, and the
execution counts as passed just when the summary has no failures: only then a strict run has status
zero. Of the time in milliseconds the low 64 bits are told. -/
theorem summary_accounts (completed : (execute suite stop attempts).results = .ok results)
    (fits : (timeOf attempts).fits = true) :
    ∃ summary, summarize? results = some summary ∧ summary.Accounts attempts ∧
      summary.names = (execute suite stop attempts).ran ∧
      (results.all ProbeResult.passed = true ↔ summary.failed = 0) ∧
      ∀ strict output log,
        let session := Session.ofExecution strict output log (execute suite stop attempts)
        session.printed = Session.printedResults output results summary ∧
          session.exitStatus = if strict = true ∧ summary.failed ≠ 0 then 4 else 0 := by
  obtain ⟨rfl, ran⟩ := results_of_completed completed
  obtain ⟨summary, summarized, accounts⟩ := summarize?_results fits
  refine ⟨summary, summarized, accounts, accounts.names.trans ran.symm, ?_, ?_⟩
  · rw [all_passed_iff, accounts.failed_eq_zero_iff]
  · intro strict output log
    have fails : summary.failed ≠ 0 ↔ SomeFails attempts := by
      rw [ne_eq, accounts.failed_eq_zero_iff, not_not]
    unfold Session.ofExecution
    simp only [completed, summarized, Session.statusOf_results, fails, and_self]

def mixed : Attempts := [
  ("burst", ⟨.ok (.stress ⟨1, 1, 0, 0, .zero⟩), ⟨1500000⟩, [], []⟩),
  ("end", ⟨.error (.connection "127.0.0.1:3344" (.plain .connectionRefused)), ⟨600000⟩, [], []⟩),
  ("burst", ⟨.ok (.stress ⟨1, 0, 1, 0, .zero⟩), .ofSeconds 2, [], []⟩)]

theorem mixed_accounts :
    ((execute "nightly" false mixed).results =
        .ok (mixed.map fun probe => resultOf probe.1 probe.2) ∧ (timeOf mixed).fits = true) ∧
      ∃ summary, summarize? (mixed.map fun probe => resultOf probe.1 probe.2) = some summary ∧
        summary.total = 3 ∧ summary.passed = 1 ∧ summary.failed = 2 ∧ summary.errored = 1 ∧
        summary.milliseconds = 2002 ∧ summary.names = ["burst", "end", "burst"] := by
  have completed : (execute "nightly" false mixed).results =
      .ok (mixed.map fun probe => resultOf probe.1 probe.2) := rfl
  have fits : (timeOf mixed).fits = true := by decide
  obtain ⟨summary, summarized, accounts, -⟩ := summary_accounts completed fits
  have errored : summary.errored = 1 := accounts.errored.trans (by decide)
  refine ⟨⟨completed, fits⟩, summary, summarized, accounts.total, accounts.passed.trans ?_,
    accounts.failed.trans ?_, errored, accounts.milliseconds, accounts.names⟩
  · decide
  · rw [errored]
    decide

def endlessWait : Attempts :=
  [("wait", ⟨.error (.connection "127.0.0.1:3344" (.plain .connectionRefused)),
    .ofSeconds 18446744073709552, [], []⟩)]

/-- The sum of the durations is known, and the summary tells another time. -/
theorem endlessWait_wraps :
    ∃ results summary, (execute "nightly" false endlessWait).results = .ok results ∧
      Duration.sum? (results.map ProbeResult.duration) = some (timeOf endlessWait) ∧
      (timeOf endlessWait).wholeMilliseconds = 18446744073709552000 ∧
      summarize? results = some summary ∧ summary.milliseconds = 384 := by
  have fits : (timeOf endlessWait).fits = true := by decide
  obtain ⟨summary, summarized, accounts⟩ := summarize?_results fits
  exact ⟨_, summary, rfl, sum?_eq fits, rfl, summarized, accounts.milliseconds⟩

end Suite

end ServerProbe
