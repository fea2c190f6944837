import Mathlib.Data.List.Forall2
import ServerProbe.Suite.Execution

/-! What a suite runs, and what it returns.

An execution goes on by one result for every probe that passes, and for every
other one if the suite does not stop. A suite that stops is ended by its first
probe that does not pass, and then returns nothing but why.
-/

set_option autoImplicit false

namespace ServerProbe.Suite

/-- The probe returned a report, and the report passed. -/
def Passes (attempt : Attempt Report) : Prop :=
  ∃ report, attempt.outcome = .ok report ∧ report.passed = true

/-- The probe did not pass, and this is told of it. -/
inductive Fails (attempt : Attempt Report) : String → Prop where
  | report {report : Report} :
      attempt.outcome = .ok report → report.passed = false → Fails attempt report.summary
  | failure {failure : Failure} : attempt.outcome = .error failure → Fails attempt failure.message

/-- The result of a probe: its report or the message of its failure, and never both. -/
structure IsResult (probe : String × Attempt Report) (result : ProbeResult) : Prop where
  name : result.name = probe.1
  duration : result.duration = probe.2.duration
  report : ∀ report, result.report = some report ↔ probe.2.outcome = .ok report
  error : ∀ message, result.error = some message ↔
    ∃ failure, probe.2.outcome = .error failure ∧ failure.message = message
  one : result.report.isSome = !result.error.isSome
  passed : result.passed = true ↔ Passes probe.2

def said (probe : String × Attempt Report) : Log :=
  probe.2.log ++ [entryOf probe.1 probe.2]

/-- These probes ran, once each and in this order, and no other did. The first entry of the log is
about the suite itself. -/
structure Ran (execution : Execution) (probes : Attempts) : Prop where
  names : execution.ran = probes.map Prod.fst
  log : execution.log.tail = probes.flatMap said
  received : execution.received = probes.flatMap fun probe => probe.2.received

theorem isResult_resultOf (name : String) (attempt : Attempt Report) :
    IsResult (name, attempt) (resultOf name attempt) := by
  cases outcome : attempt.outcome with
  | ok report =>
    have kept : resultOf name attempt = ⟨name, some report, none, attempt.duration⟩ := by
      simp only [resultOf, outcome]
    rw [kept]
    refine ⟨rfl, rfl, ?_, ?_, rfl, ?_⟩ <;> simp [outcome, Passes, ProbeResult.passed]
  | error failure =>
    have kept : resultOf name attempt =
        ⟨name, none, some failure.message, attempt.duration⟩ := by
      simp only [resultOf, outcome]
    rw [kept]
    refine ⟨rfl, rfl, ?_, ?_, rfl, ?_⟩ <;> simp [outcome, Passes, ProbeResult.passed]

theorem passed_iff {attempt : Attempt Report} : attempt.passed = true ↔ Passes attempt := by
  cases outcome : attempt.outcome <;> simp [Attempt.passed, Passes, outcome]

theorem Fails.not_passed {attempt : Attempt Report} {details : String}
    (fails : Fails attempt details) : attempt.passed = false := by
  cases fails with
  | report outcome notPassed => simp only [Attempt.passed, outcome, notPassed]
  | failure outcome => simp only [Attempt.passed, outcome]

theorem Fails.details_eq {attempt : Attempt Report} {details : String}
    (fails : Fails attempt details) : attempt.details = details := by
  cases fails with
  | report outcome _ => simp only [Attempt.details, outcome]
  | failure outcome => simp only [Attempt.details, outcome]

theorem passes_or_fails (attempt : Attempt Report) :
    Passes attempt ∨ ∃ details, Fails attempt details := by
  cases outcome : attempt.outcome with
  | error failure => exact .inr ⟨_, .failure outcome⟩
  | ok report =>
    cases passed : report.passed with
    | true => exact .inl ⟨report, outcome, passed⟩
    | false => exact .inr ⟨_, .report outcome passed⟩

theorem all_pass_or_first_fails (attempts : Attempts) :
    (∀ probe ∈ attempts, Passes probe.2) ∨
      ∃ before name attempt after details, attempts = before ++ (name, attempt) :: after ∧
        (∀ probe ∈ before, Passes probe.2) ∧ Fails attempt details := by
  induction attempts with
  | nil => exact .inl (by simp)
  | cons probe rest ih =>
    obtain ⟨name, attempt⟩ := probe
    rcases passes_or_fails attempt with passes | ⟨details, fails⟩
    · rcases ih with all | ⟨before, other, failing, after, details, rfl, earlier, fails⟩
      · exact .inl (List.forall_mem_cons.mpr ⟨passes, all⟩)
      · exact .inr ⟨(name, attempt) :: before, other, failing, after, details, rfl,
          List.forall_mem_cons.mpr ⟨passes, earlier⟩, fails⟩
    · exact .inr ⟨[], name, attempt, rest, details, rfl, by simp, fails⟩

def Execution.preceded (execution : Execution) (probes : Attempts) : Execution where
  results := execution.results.map (probes.map (fun probe => resultOf probe.1 probe.2) ++ ·)
  ran := probes.map Prod.fst ++ execution.ran
  log := probes.flatMap said ++ execution.log
  received := probes.flatMap (fun probe => probe.2.received) ++ execution.received

theorem Execution.preceded_nil (execution : Execution) : execution.preceded [] = execution := by
  obtain ⟨results, ran, log, received⟩ := execution
  cases results <;> rfl

theorem Execution.preceded_preceded (execution : Execution) (front back : Attempts) :
    (execution.preceded back).preceded front = execution.preceded (front ++ back) := by
  obtain ⟨results, ran, log, received⟩ := execution
  cases results <;> simp [preceded, Except.map]

theorem runAll_cons_of_goesOn {stop : Bool} {name : String} {attempt : Attempt Report}
    (goesOn : stop = true → Passes attempt) (rest : Attempts) :
    runAll stop ((name, attempt) :: rest) = (runAll stop rest).preceded [(name, attempt)] := by
  have notStopped : ¬(stop = true ∧ ¬attempt.passed = true) := fun ⟨stops, fails⟩ =>
    fails (passed_iff.mpr (goesOn stops))
  rw [runAll, if_neg notStopped]
  simp [Execution.preceded, said]

theorem runAll_cons_of_fails {name details : String} {attempt : Attempt Report}
    (fails : Fails attempt details) (rest : Attempts) :
    runAll true ((name, attempt) :: rest) =
      ⟨.error (.probeFailed name details), [name], said (name, attempt), attempt.received⟩ := by
  rw [runAll, if_pos (by simp [fails.not_passed]), fails.details_eq]
  rfl

theorem runAll_append {stop : Bool} {before : Attempts}
    (goesOn : stop = true → ∀ probe ∈ before, Passes probe.2) (rest : Attempts) :
    runAll stop (before ++ rest) = (runAll stop rest).preceded before := by
  induction before with
  | nil => rw [List.nil_append, Execution.preceded_nil]
  | cons probe before ih =>
    have first : stop = true → Passes probe.2 := fun stops =>
      goesOn stops probe List.mem_cons_self
    have later := ih fun stops other member => goesOn stops other (List.mem_cons_of_mem _ member)
    rw [List.cons_append, runAll_cons_of_goesOn first, later, Execution.preceded_preceded]
    rfl

theorem execute_of_goesOn {stop : Bool} {attempts : Attempts}
    (goesOn : stop = true → ∀ probe ∈ attempts, Passes probe.2) (suite : String) :
    (execute suite stop attempts).results =
        .ok (attempts.map fun probe => resultOf probe.1 probe.2) ∧
      Ran (execute suite stop attempts) attempts := by
  have run := runAll_append goesOn []
  rw [List.append_nil] at run
  unfold execute
  rw [run]
  refine ⟨?_, ?_, ?_, ?_⟩ <;> simp [Execution.preceded, runAll, Except.map]

theorem execute_of_fails {before : Attempts} (name : String) {details : String}
    {attempt : Attempt Report} (earlier : ∀ probe ∈ before, Passes probe.2)
    (fails : Fails attempt details) (after : Attempts) (suite : String) :
    let execution := execute suite true (before ++ (name, attempt) :: after)
    execution.results = .error (.probeFailed name details) ∧
      Ran execution (before ++ [(name, attempt)]) := by
  have run : runAll true (before ++ (name, attempt) :: after) =
      (runAll true ((name, attempt) :: after)).preceded before :=
    runAll_append (fun _ => earlier) _
  rw [runAll_cons_of_fails fails] at run
  unfold execute
  rw [run]
  refine ⟨?_, ?_, ?_, ?_⟩ <;> simp [Execution.preceded, Except.map]

theorem forall₂_resultOf (attempts : Attempts) :
    List.Forall₂ IsResult attempts (attempts.map fun probe => resultOf probe.1 probe.2) := by
  rw [List.forall₂_map_right_iff, List.forall₂_same]
  exact fun probe _ => isResult_resultOf probe.1 probe.2

/-- A suite that does not stop runs every probe and has its result. One that stops does the same
if all of them pass, and otherwise runs no further than the first that does not, which it names
with what is told of it. -/
theorem execute_outcome (suite : String) (attempts : Attempts) :
    let free := execute suite false attempts
    let stopping := execute suite true attempts
    ∃ results, List.Forall₂ IsResult attempts results ∧
      free.results = .ok results ∧ Ran free attempts ∧
      ((∀ probe ∈ attempts, Passes probe.2) ∧
          stopping.results = .ok results ∧ Ran stopping attempts ∨
        ∃ before name attempt after details, attempts = before ++ (name, attempt) :: after ∧
          (∀ probe ∈ before, Passes probe.2) ∧ Fails attempt details ∧
          stopping.results = .error (.probeFailed name details) ∧
          Ran stopping (before ++ [(name, attempt)])) := by
  intro free stopping
  have goesOn : false = true → ∀ probe ∈ attempts, Passes probe.2 := fun stops => nomatch stops
  obtain ⟨results, ran⟩ := execute_of_goesOn goesOn suite
  refine ⟨_, forall₂_resultOf attempts, results, ran, ?_⟩
  rcases all_pass_or_first_fails attempts with
    pass | ⟨before, name, attempt, after, details, split, earlier, fails⟩
  · exact .inl ⟨pass, execute_of_goesOn (fun _ => pass) suite⟩
  · have ended := execute_of_fails name earlier fails after suite
    rw [← split] at ended
    exact .inr ⟨before, name, attempt, after, details, split, earlier, fails, ended⟩

end ServerProbe.Suite
