import ServerProbe.Proofs.Settings.Stall
import ServerProbe.Proofs.Suite.Execution
import ServerProbe.Proofs.Suite.Validation
import ServerProbe.Session

/-! Which probes a suite runs.

A plan that passes its check runs the probes that its order names, as often as it
names them and without those that are switched off. A dry run lists just these,
and the summary of a run that is not stopped has their names.
-/

set_option autoImplicit false

namespace ServerProbe

namespace Suite

theorem ProbeSettings.checkClient_of_check {settings : ProbeSettings}
    (passed : settings.check = .ok ()) : settings.checkClient = .ok () := by
  cases settings with
  | disconnect settings => rfl
  | stall settings => exact StallSettings.checkClient_of_check passed
  | stress settings =>
    have calls : settings.stall.check = .ok () := (Check.andThen_ok_iff.mp passed).1
    simp only [checkClient, StallSettings.checkClient_of_check calls, ite_self]

namespace Plan

variable {plan : Plan} {failure : Failure}

/-- What running the probes of a plan relies on. -/
structure Runnable (plan : Plan) : Prop where
  distinct : (plan.probes.map ProbeDefinition.name).Nodup
  settings : ∀ definition ∈ plan.probes, definition.settings.check = .ok ()
  order : ∀ order, plan.info.executionOrder = some order → ∀ name ∈ order, plan.Defines name

theorem runnable_of_check (passed : plan.check = .ok ()) : plan.Runnable :=
  have wellFormed := check_ok_iff.mp passed
  ⟨wellFormed.probes.distinct, wellFormed.probes.settings, wellFormed.order⟩

def probesNamed (plan : Plan) (name : String) : List ProbeDefinition :=
  plan.probes.filter fun definition => definition.name == name

/-- The probes that the order names, as often as it names them, or all of them if there is no order;
those that are switched off are left out. -/
def selected (plan : Plan) : List ProbeDefinition :=
  let inOrder :=
    match plan.info.executionOrder with
    | some order => order.flatMap plan.probesNamed
    | none => plan.probes
  inOrder.filter ProbeDefinition.isEnabled

theorem filter_of_find? {definitions : List ProbeDefinition} {definition : ProbeDefinition}
    {name : String} (distinct : (definitions.map ProbeDefinition.name).Nodup)
    (found : definitions.find? (fun other => other.name == name) = some definition) :
    definitions.filter (fun other => other.name == name) = [definition] := by
  induction definitions with
  | nil => cases found
  | cons head rest ih =>
    rw [List.map_cons, List.nodup_cons] at distinct
    obtain ⟨onlyOnce, distinct⟩ := distinct
    by_cases same : head.name = name
    · rw [List.find?_cons_of_pos (by simpa using same)] at found
      cases found
      have noOther : rest.filter (fun other => other.name == name) = [] := by
        rw [List.filter_eq_nil_iff]
        intro other member again
        have otherName : other.name = name := by simpa using again
        exact onlyOnce (List.mem_map.mpr ⟨other, member, otherName.trans same.symm⟩)
      rw [List.filter_cons_of_pos (by simpa using same), noOther]
    · rw [List.find?_cons_of_neg (by simpa using same)] at found
      rw [List.filter_cons_of_neg (by simpa using same)]
      exact ih distinct found

theorem named_of_defines (distinct : (plan.probes.map ProbeDefinition.name).Nodup)
    {order : List String} (defined : ∀ name ∈ order, plan.Defines name) :
    plan.named order = .ok (order.flatMap plan.probesNamed) := by
  induction order with
  | nil => rfl
  | cons name rest ih =>
    obtain ⟨first, later⟩ := List.forall_mem_cons.mp defined
    unfold named
    cases found : plan.find? name with
    | none => exact absurd first (find?_eq_none_iff.mp found)
    | some definition =>
      have only : plan.probesNamed name = [definition] := filter_of_find? distinct found
      simp [ih later, only, Except.map]

/-- An order that is refused cannot be followed either, for the same reason. -/
theorem named_error_iff {order : List String} :
    plan.named order = .error failure ↔ plan.checkOrder order = .error failure := by
  induction order with
  | nil => simp [named, checkOrder]
  | cons name rest ih =>
    unfold named checkOrder
    cases plan.find? name with
    | none => simp
    | some definition =>
      rw [Option.isSome_some, if_pos rfl, ← ih]
      cases plan.named rest <;> simp [Except.map]

theorem ordered_error_iff :
    plan.ordered = .error failure ↔
      ∃ order before name after, plan.info.executionOrder = some order ∧
        order = before ++ name :: after ∧ (∀ earlier ∈ before, plan.Defines earlier) ∧
        ¬plan.Defines name ∧ failure = unknownProbe name := by
  unfold ordered
  cases plan.info.executionOrder with
  | none => simp [Except.map]
  | some order =>
    have kept : (plan.named order).map (List.filter ProbeDefinition.isEnabled) = .error failure ↔
        plan.named order = .error failure := by
      cases plan.named order <;> simp [Except.map]
    dsimp only
    rw [kept, named_error_iff, checkOrder_error_iff]
    simp only [Option.some.injEq, ↓existsAndEq, true_and]

theorem ordered_of_runnable (runnable : plan.Runnable) : plan.ordered = .ok plan.selected := by
  unfold ordered selected
  cases given : plan.info.executionOrder with
  | none => rfl
  | some order =>
    dsimp only
    rw [named_of_defines runnable.distinct (runnable.order order given)]
    rfl

theorem mem_of_mem_selected {definition : ProbeDefinition} (member : definition ∈ plan.selected) :
    definition ∈ plan.probes := by
  unfold selected at member
  have inOrder := List.mem_of_mem_filter member
  cases given : plan.info.executionOrder with
  | none => simpa only [given] using inOrder
  | some order =>
    simp only [given, List.mem_flatMap] at inOrder
    obtain ⟨name, -, named⟩ := inOrder
    exact List.mem_of_mem_filter named

theorem setUp_of_check {definitions : List ProbeDefinition}
    (passed : ∀ definition ∈ definitions, definition.settings.check = .ok ()) :
    setUp definitions = .ok () := by
  induction definitions with
  | nil => rfl
  | cons definition rest ih =>
    obtain ⟨first, later⟩ := List.forall_mem_cons.mp passed
    exact Check.andThen_ok_iff.mpr ⟨ProbeSettings.checkClient_of_check first, ih later⟩

theorem build_of_runnable (runnable : plan.Runnable) : plan.build = .ok plan.selected := by
  have ready : setUp plan.selected = .ok () :=
    setUp_of_check fun definition member =>
      runnable.settings definition (mem_of_mem_selected member)
  exact bind_ok_iff.mpr
    ⟨plan.selected, ordered_of_runnable runnable, bind_ok_iff.mpr ⟨(), ready, rfl⟩⟩

end Plan

theorem dryRun_of_runnable {plan : Plan} (runnable : plan.Runnable) (log : Log) :
    (Session.dryRun log plan).printed = .lines (plan.selected.map Session.plannedLine) ∧
      (Session.dryRun log plan).exitStatus = 0 := by
  unfold Session.dryRun
  rw [Plan.ordered_of_runnable runnable]
  exact ⟨rfl, rfl⟩

/-- The durations of attempts that were made one after the other, each from one reading of a clock
to a later one. The clock stands at `now` before them, and its readings are durations themselves. -/
inductive Clocked : Nat → Attempts → Prop where
  | nil {now : Nat} : (Duration.mk now).fits = true → Clocked now []
  | cons {now : Nat} (start finish : Nat) {name : String} {attempt : Attempt Report}
      {rest : Attempts} :
      now ≤ start → start ≤ finish → attempt.duration = ⟨finish - start⟩ → Clocked finish rest →
      Clocked now ((name, attempt) :: rest)

theorem fits_of_le {less more : Nat} (le : less ≤ more) (fits : (Duration.mk more).fits = true) :
    (Duration.mk less).fits = true := by
  have seconds : less / Duration.perSecond ≤ more / Duration.perSecond := Nat.div_le_div_right le
  exact decide_eq_true (Nat.lt_of_le_of_lt seconds (of_decide_eq_true fits))

/-- What has passed on a clock fits in a duration, so the durations have a sum. -/
theorem Clocked.sum? {now : Nat} {attempts : Attempts} (clocked : Clocked now attempts) :
    ∃ duration, Duration.sum? (attempts.map fun probe => probe.2.duration) = some duration := by
  -- As long as the sum is at most what the clock reads, it fits.
  have fits {total : Nat} (passed : total ≤ now) :
      (Duration.mk ((attempts.map fun probe => probe.2.duration).foldl
        (fun total duration => total + duration.nanoseconds) total)).fits = true := by
    induction clocked generalizing total with
    | nil reading => exact fits_of_le passed reading
    | @cons now start finish name attempt rest before during measured _ ih =>
      have sum : total + attempt.duration.nanoseconds ≤ finish := by
        rw [measured]
        show total + (finish - start) ≤ finish
        omega
      exact ih sum
  unfold Duration.sum?
  exact ⟨_, if_pos (fits (Nat.zero_le now))⟩

theorem summarize?_of_clocked {now : Nat} {attempts : Attempts} (clocked : Clocked now attempts) :
    ∃ summary, summarize? (attempts.map fun probe => resultOf probe.1 probe.2) = some summary ∧
      summary.names = attempts.map Prod.fst := by
  have each (probe : String × Attempt Report) := isResult_resultOf probe.1 probe.2
  have names : (attempts.map fun probe => resultOf probe.1 probe.2).map ProbeResult.name =
      attempts.map Prod.fst := by
    simp [(each _).name]
  have durations : (attempts.map fun probe => resultOf probe.1 probe.2).map ProbeResult.duration =
      attempts.map fun probe => probe.2.duration := by
    simp [(each _).duration]
  obtain ⟨duration, timed⟩ := clocked.sum?
  unfold summarize?
  rw [durations, timed]
  exact ⟨_, rfl, names⟩

theorem names_attempts (network : Network) (definitions : List ProbeDefinition) :
    (attempts network definitions).map Prod.fst = definitions.map ProbeDefinition.name := by
  simp [attempts]

/-- A plan that passes its check can be ordered and set up. The probes that it then runs are those
that its order names and that are switched on; a dry run lists them by name and kind, and unless the
run is stopped, its summary has their names in this order. Any plan can be ordered unless its order
names a probe that it does not define, and the first such name is told. -/
theorem dryRun_predicts_run (plan : Plan) :
    (plan.check = .ok () →
      plan.ordered = .ok plan.selected ∧ plan.build = .ok plan.selected ∧
      (∀ log, (Session.dryRun log plan).printed = .lines (plan.selected.map fun definition =>
        "  - " ++ definition.name ++ " (" ++ definition.settings.kind ++ ")")) ∧
      (∀ network, (attempts network plan.selected).map Prod.fst =
        plan.selected.map ProbeDefinition.name) ∧
      ∀ stop now (attempts : Attempts),
        attempts.map Prod.fst = plan.selected.map ProbeDefinition.name → Clocked now attempts →
        (stop = true → ∀ probe ∈ attempts, Passes probe.2) →
        ∃ results summary, (execute plan.info.name stop attempts).results = .ok results ∧
          summarize? results = some summary ∧
          summary.names = plan.selected.map ProbeDefinition.name) ∧
      ∀ failure, plan.ordered = .error failure ↔
        ∃ order before name after, plan.info.executionOrder = some order ∧
          order = before ++ name :: after ∧ (∀ earlier ∈ before, plan.Defines earlier) ∧
          ¬plan.Defines name ∧
          failure = .invalidSuite "suite.execution_order" ("Unknown probe '" ++ name ++ "'") := by
  refine ⟨fun passed => ?_, fun failure => Plan.ordered_error_iff⟩
  have runnable := Plan.runnable_of_check passed
  refine ⟨Plan.ordered_of_runnable runnable, Plan.build_of_runnable runnable,
    fun log => (dryRun_of_runnable runnable log).1,
    fun network => names_attempts network plan.selected, ?_⟩
  intro stop now attempts names clocked goesOn
  obtain ⟨summary, summarized, summaryNames⟩ := summarize?_of_clocked clocked
  exact ⟨_, summary, (execute_of_goesOn goesOn plan.info.name).1, summarized,
    summaryNames.trans names⟩

/-- Three probes of which one is switched off and another runs twice. -/
def twice : Plan where
  info := ⟨"nightly", none, none, some ["end", "start", "off", "end"]⟩
  probes := [
    ⟨"start", none, .disconnect {}⟩,
    ⟨"off", some false, .disconnect {}⟩,
    ⟨"end", some true, .disconnect { tls := false }⟩]

def refused : Attempts :=
  let attempt : Attempt Report :=
    ⟨.error (.connection "127.0.0.1:3344" (.plain .connectionRefused)), .ofSeconds 1, [], []⟩
  [("end", attempt), ("start", attempt), ("end", attempt)]

theorem clocked_refused : Clocked 0 refused := by
  have fits : (Duration.mk 3000000000).fits = true := by decide
  exact .cons 0 1000000000 (by decide) (by decide) rfl <|
    .cons 1000000000 2000000000 (by decide) (by decide) rfl <|
    .cons 2000000000 3000000000 (by decide) (by decide) rfl (.nil fits)

theorem twice_predicted :
    (∀ log, (Session.dryRun log twice).printed = .lines
      ["  - end (disconnect)", "  - start (disconnect)", "  - end (disconnect)"]) ∧
      ∃ results summary, (execute "nightly" false refused).results = .ok results ∧
        summarize? results = some summary ∧ summary.names = ["end", "start", "end"] := by
  have passed : twice.check = .ok () := rfl
  obtain ⟨-, -, lines, -, summarized⟩ := (dryRun_predicts_run twice).1 passed
  have goesOn : false = true → ∀ probe ∈ refused, Passes probe.2 := fun stops => nomatch stops
  exact ⟨lines, summarized false 0 refused rfl clocked_refused goesOn⟩

end Suite

end ServerProbe
