import ServerProbe.Proofs.Suite.Selection

/-! The exit status of a suite.

A suite that is stopped ends with the status of the failure that says so, whatever
the probe that stopped it failed with. A suite that is not stopped has succeeded,
unless it is strict and not all of its probes passed.
-/

set_option autoImplicit false

namespace ServerProbe

namespace Suite

variable {attempts : Attempts}

def SomeFails (attempts : Attempts) : Prop :=
  ∃ probe ∈ attempts, ¬Passes probe.2

instance decidablePasses (attempt : Attempt Report) : Decidable (Passes attempt) :=
  decidable_of_iff _ passed_iff

instance decidableSomeFails (attempts : Attempts) : Decidable (SomeFails attempts) :=
  inferInstanceAs (Decidable (∃ probe ∈ attempts, ¬Passes probe.2))

theorem not_someFails_iff : ¬SomeFails attempts ↔ ∀ probe ∈ attempts, Passes probe.2 := by
  simp [SomeFails]

theorem all_passed_iff :
    (attempts.map fun probe => resultOf probe.1 probe.2).all ProbeResult.passed = true ↔
      ¬SomeFails attempts := by
  have each (probe : String × Attempt Report) :
      (resultOf probe.1 probe.2).passed = true ↔ Passes probe.2 :=
    (isResult_resultOf probe.1 probe.2).passed
  rw [not_someFails_iff, List.all_eq_true, List.forall_mem_map]
  exact forall₂_congr fun probe _ => each probe

/-! The command line decides whether the suite stops, and nothing else. -/

section

variable {plan : Plan} (override : Option Bool)

theorem Plan.stopOnFailure_withStop :
    (Session.withStop override plan).stopOnFailure =
      override.getD (plan.info.stopOnFailure.getD false) := by
  cases override <;> rfl

theorem Plan.selected_withStop : (Session.withStop override plan).selected = plan.selected := by
  cases override <;> rfl

theorem Plan.checkOrder_withStop (order : List String) :
    (Session.withStop override plan).checkOrder order = plan.checkOrder order := by
  have probes (name : String) : (Session.withStop override plan).find? name = plan.find? name := by
    cases override <;> rfl
  induction order with
  | nil => rfl
  | cons name rest ih => rw [checkOrder, checkOrder, probes, ih]

theorem Plan.check_withStop : (Session.withStop override plan).check = plan.check := by
  have order (names : List String) :
      (Session.withStop override plan).checkOrder names = plan.checkOrder names :=
    checkOrder_withStop override names
  cases override with
  | none => rfl
  | some stop =>
    dsimp only [Session.withStop] at order ⊢
    simp only [check, order]

end

end Suite

namespace Session

open CommandLine Suite

variable {attempts : Attempts} {now : Nat}

theorem statusOf_results (strict : Bool) (attempts : Attempts) :
    statusOf strict
        ((attempts.map fun probe => resultOf probe.1 probe.2).all ProbeResult.passed) =
      if strict = true ∧ SomeFails attempts then 4 else 0 := by
  generalize passed :
    (attempts.map fun probe => resultOf probe.1 probe.2).all ProbeResult.passed = all
  have notPassed : (!all) = true ↔ SomeFails attempts := by
    rw [Bool.not_eq_true', ← Bool.not_eq_true, ← passed, all_passed_iff, not_not]
  unfold statusOf
  exact if_congr (by rw [Bool.and_eq_true, notPassed]) rfl rfl

theorem exitStatus_of_goesOn {stop : Bool}
    (goesOn : stop = true → ∀ probe ∈ attempts, Passes probe.2) (clocked : Clocked now attempts)
    (strict : Bool) (output : OutputFormat) (log : Log) (suite : String) :
    (ofExecution strict output log (execute suite stop attempts)).exitStatus =
      if strict = true ∧ SomeFails attempts then 4 else 0 := by
  obtain ⟨summary, summarized, -⟩ := summarize?_of_clocked clocked
  unfold ofExecution
  rw [(execute_of_goesOn goesOn suite).1]
  simp only [summarized]
  exact statusOf_results strict attempts

theorem exitStatus_of_fails (fails : SomeFails attempts) (strict : Bool) (output : OutputFormat)
    (log : Log) (suite : String) :
    (ofExecution strict output log (execute suite true attempts)).exitStatus = 1 := by
  rcases all_pass_or_first_fails attempts with
    pass | ⟨before, name, attempt, after, details, rfl, earlier, notPassed⟩
  · exact absurd fails (not_someFails_iff.mpr pass)
  · unfold ofExecution
    rw [(execute_of_fails name earlier notPassed after suite).1]
    rfl

theorem ofInvocation_suite {surroundings : Surroundings} {invocation : Invocation}
    {options : SuiteOptions} {plan : Plan} (isSuite : invocation.command = .suite options)
    (read : planOf surroundings options.config = .ok plan) :
    ∃ log, ofInvocation surroundings invocation =
      ofPlan (Suite.attempts surroundings.network) invocation.strict invocation.output
        options.dryRun log (withStop options.stopOnFailure plan) := by
  simp only [ofInvocation, isSuite, ofSuite, read]
  exact ⟨_, rfl⟩

/-- What a suite has of a probe is what the probe comes to in a run of its own. -/
structure IsOwnRun (network : Network) (definition : ProbeDefinition)
    (probe : String × Attempt Report) : Prop where
  name : probe.1 = definition.name
  attempt : probe.2 = definition.settings.attempt network
  alone : ∀ strict output, ofProbe network strict output definition.settings =
    ofAttempt strict output definition.settings.kind probe.2

theorem ofProbe_of_check {settings : ProbeSettings} (passed : settings.check = .ok ())
    (network : Network) (strict : Bool) (output : OutputFormat) :
    ofProbe network strict output settings =
      ofAttempt strict output settings.kind (settings.attempt network) := by
  have ready : (do settings.check; settings.checkClient : Check.Result) = .ok () :=
    Check.andThen_ok_iff.mpr ⟨passed, ProbeSettings.checkClient_of_check passed⟩
  unfold ofProbe
  rw [ready]

theorem attempts_ownRuns {plan : Plan} (passed : plan.check = .ok ()) (network : Network) :
    List.Forall₂ (IsOwnRun network) plan.selected (Suite.attempts network plan.selected) := by
  refine List.forall₂_map_right_iff.mpr (List.forall₂_same.mpr fun definition member => ?_)
  have checked := (Plan.runnable_of_check passed).settings definition
    (Plan.mem_of_mem_selected member)
  exact ⟨rfl, rfl, fun strict output => ofProbe_of_check checked network strict output⟩

/-- A suite that passes its check ends with status 1 if it stops and one of the probes that it
selects does not pass, else with status 4 if the run is strict and one does not pass, else with
status 0, whatever its output. Whether it stops, the command line decides, or else the suite, and it
does not if neither says so. A dry run ends with status 0. What the probes come to in the run of a
suite, they come to by themselves as well. -/
theorem suite_exitStatus {plan : Plan} (passed : plan.check = .ok ()) :
    (∀ override strict output attempts log,
      (ofPlan attempts strict output true log (withStop override plan)).exitStatus = 0) ∧
    (∀ override strict output attempts log now, Clocked now (attempts plan.selected) →
      (ofPlan attempts strict output false log (withStop override plan)).exitStatus =
        if override.getD (plan.info.stopOnFailure.getD false) = true ∧
            SomeFails (attempts plan.selected) then 1
        else if strict = true ∧ SomeFails (attempts plan.selected) then 4
        else 0) ∧
    (∀ surroundings (invocation : Invocation) options, invocation.command = .suite options →
      planOf surroundings options.config = .ok plan →
      ∃ log, ofInvocation surroundings invocation =
        ofPlan (Suite.attempts surroundings.network) invocation.strict invocation.output
          options.dryRun log (withStop options.stopOnFailure plan)) ∧
    ∀ network,
      List.Forall₂ (IsOwnRun network) plan.selected (Suite.attempts network plan.selected) := by
  have check (override : Option Bool) : (withStop override plan).check = .ok () :=
    (Plan.check_withStop override).trans passed
  refine ⟨fun override strict output attempts log => ?_,
    fun override strict output attempts log now clocked => ?_,
    fun surroundings invocation options isSuite read => ofInvocation_suite isSuite read,
    attempts_ownRuns passed⟩
  · unfold ofPlan
    rw [check]
    exact (dryRun_of_runnable (Plan.runnable_of_check (check override)) _).2
  · have built := Plan.build_of_runnable (Plan.runnable_of_check (check override))
    unfold ofPlan
    rw [check, built, Plan.selected_withStop, Plan.stopOnFailure_withStop]
    by_cases stopped : override.getD (plan.info.stopOnFailure.getD false) = true ∧
        SomeFails (attempts plan.selected)
    · rw [if_pos stopped, stopped.1]
      exact exitStatus_of_fails stopped.2 strict output _ _
    · rw [if_neg stopped]
      refine exitStatus_of_goesOn (fun stops => ?_) clocked strict output _ _
      exact not_someFails_iff.mp fun fails => stopped ⟨stops, fails⟩

/-- The failure that these probes share has status 2 of its own. -/
theorem refused_exitStatus :
    (Failure.connection "127.0.0.1:3344" (.plain .connectionRefused)).exitStatus = 2 ∧
      (ofPlan (fun _ => refused) false .text false [] (withStop none twice)).exitStatus = 0 ∧
      (ofPlan (fun _ => refused) true .json false [] (withStop none twice)).exitStatus = 4 ∧
      (ofPlan (fun _ => refused) true .text false [] (withStop (some true) twice)).exitStatus = 1 ∧
      (ofPlan (fun _ => refused) true .text true [] (withStop (some true) twice)).exitStatus =
        0 := by
  have passed : twice.check = .ok () := rfl
  obtain ⟨dry, run, -⟩ := suite_exitStatus passed
  have ran override strict output := run override strict output (fun _ => refused) [] 0
    clocked_refused
  refine ⟨rfl, (ran none false .text).trans ?_, (ran none true .json).trans ?_,
    (ran (some true) true .text).trans ?_, dry _ _ _ _ _⟩ <;> decide

end Session

end ServerProbe
