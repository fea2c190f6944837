import Mathlib.Algebra.GroupWithZero.Nat
import Mathlib.Data.List.Perm.Basic
import ServerProbe.Probe.Stress

/-! Clients that run at the same time, and the report about them.

While a probe runs, any client may make its next call, and the probe may take
the calls of any client that has made all of its own. Every such run goes on
until all clients are taken, and all of them end with one report. A client that
has no room for its outcomes ends them all alike, before any call.
-/

set_option autoImplicit false

namespace ServerProbe

/-- A call with a report, whose time is within its threshold. -/
def IsOk (call : Option StallReport) : Prop :=
  ∃ report, call = some report ∧ report.elapsed.nanoseconds ≤ report.threshold.nanoseconds

def IsStalled (call : Option StallReport) : Prop :=
  ∃ report, call = some report ∧ report.threshold.nanoseconds < report.elapsed.nanoseconds

instance : DecidablePred IsOk := fun call =>
  match call with
  | none => isFalse (by simp [IsOk])
  | some report =>
    decidable_of_iff (report.elapsed.nanoseconds ≤ report.threshold.nanoseconds) (by simp [IsOk])

instance : DecidablePred IsStalled := fun call =>
  match call with
  | none => isFalse (by simp [IsStalled])
  | some report =>
    decidable_of_iff (report.threshold.nanoseconds < report.elapsed.nanoseconds)
      (by simp [IsStalled])

theorem isOk_iff {call : Option StallReport} :
    IsOk call ↔ ¬IsStalled call ∧ call.isNone = false := by
  cases call <;> simp [IsOk, IsStalled]

theorem counted_once (call : Option StallReport) :
    (if IsOk call then 1 else 0) + (if IsStalled call then 1 else 0) +
      (if call.isNone then 1 else 0) = 1 := by
  simp only [isOk_iff]
  cases call with
  | none => simp [IsStalled]
  | some known => by_cases late : IsStalled (some known) <;> simp [late]

theorem StallReport.isOk_verdict (report : StallReport) :
    report.verdict.isOk = decide (report.elapsed.nanoseconds ≤ report.threshold.nanoseconds) := by
  unfold verdict Verdict.judge
  split <;> simp [Verdict.isOk] <;> omega

namespace StressReport

theorem record_eq (report : StressReport) (call : Option StallReport) :
    report.record call = {
      total := report.total + 1
      ok := report.ok + if IsOk call then 1 else 0
      stalled := report.stalled + if IsStalled call then 1 else 0
      failed := report.failed + if call.isNone then 1 else 0
      maxElapsed := ⟨max report.maxElapsed.nanoseconds
        (call.elim 0 fun known => known.elapsed.nanoseconds)⟩ } := by
  cases call with
  | none => simp [record, IsOk, IsStalled]
  | some known =>
    by_cases timely : known.elapsed.nanoseconds ≤ known.threshold.nanoseconds
    · simp [record, IsOk, IsStalled, StallReport.isOk_verdict, timely, Duration.longer]
    · have late : known.threshold.nanoseconds < known.elapsed.nanoseconds := by omega
      simp [record, IsOk, IsStalled, StallReport.isOk_verdict, timely, late, Duration.longer]

instance : RightCommutative record where
  right_comm report first second := by
    simp only [record_eq, Nat.add_right_comm, Nat.max_right_comm]

/-- What a report says of the calls that it counts. -/
structure Accounts (report : StressReport) (calls : List (Option StallReport)) : Prop where
  total : report.total = calls.length
  sum : report.total = report.ok + report.stalled + report.failed
  ok : report.ok = calls.countP IsOk
  stalled : report.stalled = calls.countP IsStalled
  failed : report.failed = calls.countP Option.isNone
  bound : ∀ known, some known ∈ calls →
    known.elapsed.nanoseconds ≤ report.maxElapsed.nanoseconds
  reached : (∃ known, some known ∈ calls ∧ known.elapsed = report.maxElapsed) ∨
    (∀ call ∈ calls, call = none) ∧ report.maxElapsed = .zero

namespace Accounts

theorem nothing : Accounts .empty [] := by
  constructor <;> simp [empty]

theorem record {report : StressReport} {calls : List (Option StallReport)}
    (accounts : Accounts report calls) (call : Option StallReport) :
    Accounts (report.record call) (calls ++ [call]) := by
  obtain ⟨total, sum, ok, stalled, failed, bound, reached⟩ := accounts
  have once := counted_once call
  rw [record_eq]
  constructor
  · simp [total]
  · dsimp only
    omega
  · simp [ok, List.countP_append, List.countP_singleton]
  · simp [stalled, List.countP_append, List.countP_singleton]
  · simp [failed, List.countP_append, List.countP_singleton]
  · intro known member
    rcases List.mem_append.mp member with earlier | last
    · have older := bound known earlier
      dsimp only
      omega
    · rw [← List.mem_singleton.mp last]
      exact Nat.le_max_right _ _
  · cases call with
    | none =>
      rcases reached with ⟨older, member, same⟩ | ⟨noReport, zero⟩
      · exact .inl ⟨older, by simp [member], by simp [same]⟩
      · refine .inr ⟨?_, by simp [zero, Duration.zero]⟩
        intro call member
        rcases List.mem_append.mp member with earlier | last
        · exact noReport call earlier
        · exact List.mem_singleton.mp last
    | some known =>
      left
      by_cases longest : report.maxElapsed.nanoseconds ≤ known.elapsed.nanoseconds
      · exact ⟨known, by simp, by simp [longest]⟩
      · rcases reached with ⟨older, member, same⟩ | ⟨-, zero⟩
        · have kept : known.elapsed.nanoseconds ≤ report.maxElapsed.nanoseconds := by omega
          exact ⟨older, by simp [member], by simp [same, kept]⟩
        · simp [zero, Duration.zero] at longest

theorem foldl {report : StressReport} {calls : List (Option StallReport)}
    (accounts : Accounts report calls) (more : List (Option StallReport)) :
    Accounts (more.foldl StressReport.record report) (calls ++ more) := by
  induction more generalizing report calls with
  | nil => simpa using accounts
  | cons call more ih => simpa using ih (accounts.record call)

theorem ofCalls (calls : List (Option StallReport)) : Accounts (.ofCalls calls) calls :=
  nothing.foldl calls

theorem passed_iff {report : StressReport} {calls : List (Option StallReport)}
    (accounts : Accounts report calls) :
    (Report.stress report).passed = true ↔ ∀ call ∈ calls, IsOk call := by
  have counts : (Report.stress report).passed = true ↔ report.stalled = 0 ∧ report.failed = 0 := by
    simp [Report.passed]
  rw [counts, accounts.stalled, accounts.failed, List.countP_eq_zero, List.countP_eq_zero]
  simp only [isOk_iff, decide_eq_true_eq, Bool.not_eq_true]
  exact forall₂_and.symm

end Accounts

end StressReport

namespace StressSettings

/-- What the calls come to, by the number of the client and that of its call. -/
abbrev Outcomes := Nat → Nat → Option StallReport

/-- A client that has not been taken, and what its calls came to so far. -/
structure Task where
  client : Nat
  made : List (Option StallReport)

/-- A probe while its clients run, or what has ended it. -/
inductive Running where
  | counting (tasks : List Task) (report : StressReport)
  | failed (failure : Failure)

def Task.next (outcomes : Outcomes) (task : Task) : Task :=
  { task with made := task.made ++ [outcomes task.client task.made.length] }

/-- Any client may make its next call, and any client that has made all of its calls may be taken.
Before that a client makes room for all of its outcomes, and one that cannot ends the probe. -/
inductive Step (settings : StressSettings) (outcomes : Outcomes) : Running → Running → Prop where
  | call {before after : List Task} {task : Task} {report : StressReport}
      (room : settings.HasRoom) (more : task.made.length < settings.callsPerClient) :
      Step settings outcomes (.counting (before ++ task :: after) report)
        (.counting (before ++ task.next outcomes :: after) report)
  | take {before after : List Task} {task : Task} {report : StressReport}
      (room : settings.HasRoom) (all : task.made.length = settings.callsPerClient) :
      Step settings outcomes (.counting (before ++ task :: after) report)
        (.counting (before ++ after) (task.made.foldl StressReport.record report))
  | fail {before after : List Task} {task : Task} {report : StressReport}
      (full : ¬settings.HasRoom) :
      Step settings outcomes (.counting (before ++ task :: after) report) (.failed .noRoom)

inductive Steps (settings : StressSettings) (outcomes : Outcomes) :
    Nat → Running → Running → Prop where
  | none {state : Running} : Steps settings outcomes 0 state state
  | next {count : Nat} {state middle last : Running} :
      Step settings outcomes state middle → Steps settings outcomes count middle last →
      Steps settings outcomes (count + 1) state last

def started (settings : StressSettings) : Running :=
  .counting ((List.range settings.clients).map fun client => ⟨client, []⟩) .empty

def Running.ending? : Running → Option (Except Failure StressReport)
  | .counting [] report => some (.ok report)
  | .counting (_ :: _) _ => none
  | .failed failure => some (.error failure)

/-- The calls of all clients, in the order of the clients. -/
def allCalls (settings : StressSettings) (outcomes : Outcomes) : List (Option StallReport) :=
  (List.range settings.clients).flatMap fun client =>
    (List.range settings.callsPerClient).map (outcomes client)

/-- What a probe ends with when its clients are taken in order. -/
def ending (settings : StressSettings) (outcomes : Outcomes) : Except Failure StressReport :=
  if settings.clients = 0 ∨ settings.HasRoom then .ok (.ofCalls (settings.allCalls outcomes))
  else .error .noRoom

section
variable {settings : StressSettings} {outcomes : Outcomes}

/-- All calls of a client: those that it has made, and those that are still to come. -/
def Task.due (settings : StressSettings) (outcomes : Outcomes) (task : Task) :
    List (Option StallReport) :=
  task.made ++ (List.range' task.made.length (settings.callsPerClient - task.made.length)).map
    (outcomes task.client)

/-- What the probe comes to when all calls that are due are counted as well. -/
def Running.whole (settings : StressSettings) (outcomes : Outcomes) :
    Running → Except Failure StressReport
  | .counting tasks report =>
    if tasks = [] ∨ settings.HasRoom then
      .ok ((tasks.flatMap (Task.due settings outcomes)).foldl StressReport.record report)
    else .error .noRoom
  | .failed failure => .error failure

def Running.left (settings : StressSettings) : Running → Nat
  | .counting tasks _ =>
    if settings.HasRoom then
      (tasks.map fun task => settings.callsPerClient + 1 - task.made.length).sum
    else min tasks.length 1
  | .failed _ => 0

def Running.tasks : Running → List Task
  | .counting tasks _ => tasks
  | .failed _ => []

def Running.Sound (settings : StressSettings) (state : Running) : Prop :=
  ∀ task ∈ state.tasks, task.made.length ≤ settings.callsPerClient

theorem Task.due_next {task : Task} (more : task.made.length < settings.callsPerClient) :
    (task.next outcomes).due settings outcomes = task.due settings outcomes := by
  obtain ⟨others, split⟩ : ∃ others, settings.callsPerClient - task.made.length = others + 1 :=
    ⟨_, (Nat.succ_pred_eq_of_pos (by omega)).symm⟩
  have fewer : settings.callsPerClient - (task.made.length + 1) = others := by omega
  simp [due, next, split, fewer, List.range'_succ]

theorem Task.due_all {task : Task} (all : task.made.length = settings.callsPerClient) :
    task.due settings outcomes = task.made := by
  simp [due, all]

/-- A step changes what is counted already, but not what will have been counted. -/
theorem Step.whole_eq {state next : Running} (step : Step settings outcomes state next) :
    next.whole settings outcomes = state.whole settings outcomes := by
  cases step with
  | call room more => simp [Running.whole, room, Task.due_next more]
  | @take before after task report room all =>
    have moved : (task.made ++ (before ++ after).flatMap (Task.due settings outcomes)).Perm
        ((before ++ task :: after).flatMap (Task.due settings outcomes)) := by
      simp only [List.flatMap_append, List.flatMap_cons, Task.due_all all]
      exact List.perm_append_comm_assoc _ _ _
    simp only [Running.whole, room, or_true, if_true]
    rw [← List.foldl_append]
    exact congrArg Except.ok (moved.foldl_eq report)
  | fail full => simp [Running.whole, full]

theorem Step.left_eq {state next : Running} (step : Step settings outcomes state next) :
    next.left settings + 1 = state.left settings := by
  cases step with
  | call room more =>
    simp [Running.left, room, Task.next]
    omega
  | take room all =>
    simp [Running.left, room, all]
    omega
  | fail full =>
    simp [Running.left, full]
    omega

theorem Step.sound {state next : Running} (step : Step settings outcomes state next)
    (sound : state.Sound settings) : next.Sound settings := by
  cases step with
  | @call before after task report room more =>
    intro other member
    simp only [Running.tasks, List.mem_append, List.mem_cons] at member
    rcases member with earlier | rfl | later
    · exact sound other (by simp [Running.tasks, earlier])
    · simp only [Task.next, List.length_append, List.length_singleton]
      omega
    · exact sound other (by simp [Running.tasks, later])
  | take room all =>
    intro other member
    rcases List.mem_append.mp member with earlier | later
    · exact sound other (by simp [Running.tasks, earlier])
    · exact sound other (by simp [Running.tasks, later])
  | fail full =>
    rintro other ⟨⟩

theorem Running.Sound.step {state : Running} (sound : state.Sound settings)
    (goesOn : state.ending? = none) : ∃ next, Step settings outcomes state next := by
  cases state with
  | failed failure => cases goesOn
  | counting tasks report =>
    cases tasks with
    | nil => cases goesOn
    | cons task others =>
      rw [← List.nil_append (task :: others)]
      by_cases room : settings.HasRoom
      · rcases Nat.lt_or_eq_of_le (sound task List.mem_cons_self) with more | all
        · exact ⟨_, .call room more⟩
        · exact ⟨_, .take room all⟩
      · exact ⟨_, .fail room⟩

theorem Steps.keeps {count : Nat} {state last : Running}
    (steps : Steps settings outcomes count state last) (sound : state.Sound settings) :
    last.Sound settings ∧ last.whole settings outcomes = state.whole settings outcomes ∧
      last.left settings + count = state.left settings := by
  induction steps with
  | none => exact ⟨sound, rfl, rfl⟩
  | next step steps ih =>
    obtain ⟨kept, same, left⟩ := ih (step.sound sound)
    have one := step.left_eq
    exact ⟨kept, same.trans step.whole_eq, by omega⟩

theorem sound_started : settings.started.Sound settings := by
  intro task member
  obtain ⟨client, -, rfl⟩ := List.mem_map.mp member
  exact Nat.zero_le _

theorem whole_started :
    settings.started.whole settings outcomes = settings.ending outcomes := by
  simp [Running.whole, started, ending, StressReport.ofCalls, allCalls, List.flatMap_map, Task.due,
    List.range_eq_range']

theorem Running.whole_of_ending? {state : Running} {result : Except Failure StressReport}
    (ended : state.ending? = some result) : state.whole settings outcomes = result := by
  cases state with
  | failed failure => exact Option.some.inj ended
  | counting tasks report =>
    cases tasks with
    | nil =>
      obtain rfl := Option.some.inj ended
      simp [whole]
    | cons => cases ended

theorem Steps.ending {count : Nat} {state : Running} {result : Except Failure StressReport}
    (steps : Steps settings outcomes count settings.started state)
    (ended : state.ending? = some result) : result = settings.ending outcomes := by
  obtain ⟨-, same, -⟩ := steps.keeps sound_started
  rw [← Running.whole_of_ending? ended, same, whole_started]

end

end StressSettings

end ServerProbe
