import ServerProbe.Proofs.Check
import ServerProbe.Suite.Plan

/-! What the check of a plan lets pass, and what it says of any other.

The check goes through a plan once and remembers only the names it has met. It is
compared with the plan as a whole: what its probes and the names of its order are
like, and which of several violations stands first.
-/

set_option autoImplicit false

namespace ServerProbe.Suite.Plan

variable {plan : Plan} {failure : Failure} {definition : ProbeDefinition}
  {definitions rest : List ProbeDefinition} {used : List String} {name : String}

def Defines (plan : Plan) (name : String) : Prop :=
  ∃ definition ∈ plan.probes, definition.name = name

theorem find?_eq_none_iff : plan.find? name = none ↔ ¬plan.Defines name := by
  simp [find?, Defines, List.find?_eq_none]

theorem isSome_find?_iff : (plan.find? name).isSome = true ↔ plan.Defines name := by
  simp [find?, Defines]

/-- What is required of a probe behind others that use these names. -/
structure WellDefined (used : List String) (definition : ProbeDefinition) : Prop where
  named : Text.isBlankText definition.name = false
  new : definition.name ∉ used
  settings : definition.settings.check = .ok ()

/-- The first thing that is wrong with a probe behind others that use these names. -/
inductive Violates (used : List String) (definition : ProbeDefinition) : Failure → Prop where
  | blankName : Text.isBlankText definition.name = true →
      Violates used definition
        (.invalidSetting "probes.name" definition.name "Value cannot be empty or whitespace-only")
  | usedName : Text.isBlankText definition.name = false → definition.name ∈ used →
      Violates used definition
        (.invalidSuite "probes.name" ("Duplicate probe name '" ++ definition.name ++ "'"))
  | settings {failure : Failure} : Text.isBlankText definition.name = false →
      definition.name ∉ used → definition.settings.check = .error failure →
      Violates used definition failure

theorem violates_congr {others : List String} (same : ∀ name, name ∈ used ↔ name ∈ others) :
    Violates used definition failure ↔ Violates others definition failure := by
  constructor <;> rintro (blank | ⟨named, again⟩ | ⟨named, new, failed⟩)
  · exact .blankName blank
  · exact .usedName named ((same _).mp again)
  · exact .settings named (mt (same _).mpr new) failed
  · exact .blankName blank
  · exact .usedName named ((same _).mpr again)
  · exact .settings named (mt (same _).mp new) failed

def checkNew (used : List String) (name : String) : Check.Result :=
  if name ∈ used then
    .error (.invalidSuite "probes.name" ("Duplicate probe name '" ++ name ++ "'"))
  else .ok ()

def checkProbe (used : List String) (definition : ProbeDefinition) : Check.Result := do
  Check.notBlank "probes.name" definition.name
  checkNew used definition.name
  definition.settings.check

theorem checkProbe_ok_iff :
    checkProbe used definition = .ok () ↔ WellDefined used definition := by
  have new : checkNew used definition.name = .ok () ↔ definition.name ∉ used := by
    simp [checkNew]
  simp only [checkProbe, Check.andThen_ok_iff, Check.notBlank_ok_iff, new]
  exact ⟨fun ⟨named, new, settings⟩ => ⟨named, new, settings⟩,
    fun ⟨named, new, settings⟩ => ⟨named, new, settings⟩⟩

theorem checkProbe_error_iff :
    checkProbe used definition = .error failure ↔ Violates used definition failure := by
  have new : checkNew used definition.name = .ok () ↔ definition.name ∉ used := by
    simp [checkNew]
  have again : checkNew used definition.name = .error failure ↔ definition.name ∈ used ∧
      failure =
        .invalidSuite "probes.name" ("Duplicate probe name '" ++ definition.name ++ "'") := by
    by_cases member : definition.name ∈ used <;> simp [checkNew, member, eq_comm]
  simp only [checkProbe, Check.andThen_error_iff, Check.notBlank_ok_iff,
    Check.notBlank_error_iff, new, again]
  constructor
  · rintro (⟨blank, rfl⟩ | ⟨named, ⟨member, rfl⟩ | ⟨new, failed⟩⟩)
    · exact .blankName blank
    · exact .usedName named member
    · exact .settings named new failed
  · rintro (blank | ⟨named, member⟩ | ⟨named, new, failed⟩)
    · exact .inl ⟨blank, rfl⟩
    · exact .inr ⟨named, .inl ⟨member, rfl⟩⟩
    · exact .inr ⟨named, .inr ⟨new, failed⟩⟩

theorem checkProbes_cons :
    checkProbes used (definition :: rest) =
      checkProbe used definition >>= fun _ => checkProbes (definition.name :: used) rest := by
  rw [checkProbes, checkProbe, checkNew]
  cases Check.notBlank "probes.name" definition.name with
  | error failure => rfl
  | ok passed => by_cases member : definition.name ∈ used <;> simp [member, bind, Except.bind]

/-- What is required of some probes in a row, whatever stands around them. -/
structure AreWellDefined (definitions : List ProbeDefinition) : Prop where
  named : ∀ definition ∈ definitions, Text.isBlankText definition.name = false
  distinct : (definitions.map ProbeDefinition.name).Nodup
  settings : ∀ definition ∈ definitions, definition.settings.check = .ok ()

theorem wellDefined_cons_iff :
    WellDefined (name :: used) definition ↔
      definition.name ≠ name ∧ WellDefined used definition := by
  constructor
  · rintro ⟨named, new, settings⟩
    rw [List.mem_cons, not_or] at new
    exact ⟨new.1, named, new.2, settings⟩
  · rintro ⟨other, named, new, settings⟩
    exact ⟨named, List.not_mem_cons_of_ne_of_not_mem other new, settings⟩

theorem checkProbes_ok_iff :
    checkProbes used definitions = .ok () ↔
      (definitions.map ProbeDefinition.name).Nodup ∧
        ∀ definition ∈ definitions, WellDefined used definition := by
  induction definitions generalizing used with
  | nil => simp [checkProbes]
  | cons definition rest ih =>
    have apart : definition.name ∉ rest.map ProbeDefinition.name ↔
        ∀ other ∈ rest, other.name ≠ definition.name := by simp
    rw [checkProbes_cons, Check.andThen_ok_iff, checkProbe_ok_iff, ih, List.map_cons,
      List.nodup_cons, List.forall_mem_cons, apart]
    simp only [wellDefined_cons_iff, imp_and, forall_and]
    exact ⟨fun ⟨first, distinct, new, later⟩ => ⟨⟨new, distinct⟩, first, later⟩,
      fun ⟨⟨new, distinct⟩, first, later⟩ => ⟨first, distinct, new, later⟩⟩

theorem checkProbes_error_iff :
    checkProbes used definitions = .error failure ↔
      ∃ earlier definition later, definitions = earlier ++ definition :: later ∧
        checkProbes used earlier = .ok () ∧
        Violates ((earlier.map ProbeDefinition.name).reverse ++ used) definition failure := by
  induction definitions generalizing used with
  | nil => simp [checkProbes]
  | cons head rest ih =>
    rw [checkProbes_cons, Check.andThen_error_iff, checkProbe_ok_iff, checkProbe_error_iff, ih]
    constructor
    · rintro (violates | ⟨first, earlier, definition, later, rfl, passed, violates⟩)
      · exact ⟨[], head, rest, rfl, rfl, violates⟩
      · refine ⟨head :: earlier, definition, later, rfl, ?_, by simpa using violates⟩
        rw [checkProbes_cons]
        exact Check.andThen_ok_iff.mpr ⟨checkProbe_ok_iff.mpr first, passed⟩
    · rintro ⟨earlier, definition, later, split, passed, violates⟩
      rcases List.cons_eq_append_iff.mp split with ⟨rfl, same⟩ | ⟨others, rfl, rfl⟩
      · cases same
        exact .inl violates
      · rw [checkProbes_cons, Check.andThen_ok_iff, checkProbe_ok_iff] at passed
        exact .inr ⟨passed.1, others, definition, later, rfl, passed.2, by simpa using violates⟩

theorem checkProbes_start_ok_iff :
    checkProbes [] definitions = .ok () ↔ AreWellDefined definitions := by
  rw [checkProbes_ok_iff]
  constructor
  · rintro ⟨distinct, each⟩
    exact ⟨fun _ member => (each _ member).named, distinct,
      fun _ member => (each _ member).settings⟩
  · rintro ⟨named, distinct, settings⟩
    exact ⟨distinct, fun _ member => ⟨named _ member, List.not_mem_nil, settings _ member⟩⟩

theorem checkProbes_start_error_iff :
    checkProbes [] definitions = .error failure ↔
      ∃ earlier definition later, definitions = earlier ++ definition :: later ∧
        AreWellDefined earlier ∧
        Violates (earlier.map ProbeDefinition.name) definition failure := by
  rw [checkProbes_error_iff]
  simp only [checkProbes_start_ok_iff, List.append_nil, violates_congr fun _ => List.mem_reverse]

theorem checkOrder_ok_iff {order : List String} :
    plan.checkOrder order = .ok () ↔ ∀ name ∈ order, plan.Defines name := by
  induction order with
  | nil => simp [checkOrder]
  | cons name rest ih =>
    rw [checkOrder, List.forall_mem_cons, ← ih, ← isSome_find?_iff]
    split
    · next found => simp [found]
    · next absent => simp [absent]

theorem checkOrder_error_iff {order : List String} :
    plan.checkOrder order = .error failure ↔
      ∃ before name after, order = before ++ name :: after ∧
        (∀ earlier ∈ before, plan.Defines earlier) ∧ ¬plan.Defines name ∧
        failure = unknownProbe name := by
  induction order with
  | nil => simp [checkOrder]
  | cons name rest ih =>
    rw [checkOrder]
    split
    · next found =>
      have defined := isSome_find?_iff.mp found
      rw [ih]
      constructor
      · rintro ⟨before, other, after, rfl, earlier, unknown⟩
        exact ⟨name :: before, other, after, rfl, List.forall_mem_cons.mpr ⟨defined, earlier⟩,
          unknown⟩
      · rintro ⟨before, other, after, split, earlier, absent, same⟩
        rcases List.cons_eq_append_iff.mp split with ⟨rfl, front⟩ | ⟨others, rfl, rfl⟩
        · cases front
          exact absurd defined absent
        · exact ⟨others, other, after, rfl, (List.forall_mem_cons.mp earlier).2, absent, same⟩
    · next missing =>
      have absent : ¬plan.Defines name := mt isSome_find?_iff.mpr missing
      constructor
      · intro failed
        cases failed
        exact ⟨[], name, rest, rfl, by simp, absent, rfl⟩
      · rintro ⟨before, other, after, split, earlier, -, rfl⟩
        rcases List.cons_eq_append_iff.mp split with ⟨rfl, same⟩ | ⟨later, rfl, -⟩
        · cases same
          rfl
        · exact absurd (earlier name List.mem_cons_self) absent

/-- What is required of a plan. -/
structure WellFormed (plan : Plan) : Prop where
  named : Text.isBlankText plan.info.name = false
  notEmpty : plan.probes ≠ []
  probes : AreWellDefined plan.probes
  order : ∀ order, plan.info.executionOrder = some order → ∀ name ∈ order, plan.Defines name

/-- The violation of a plan that stands first: name, probes one after the other, order. -/
inductive FirstViolation (plan : Plan) : Failure → Prop where
  | blankName : Text.isBlankText plan.info.name = true →
      FirstViolation plan
        (.invalidSetting "suite.name" plan.info.name "Value cannot be empty or whitespace-only")
  | noProbes : Text.isBlankText plan.info.name = false → plan.probes = [] →
      FirstViolation plan (.invalidSuite "probes" "Suite defines no probes")
  | probe {earlier later : List ProbeDefinition} {definition : ProbeDefinition}
      {failure : Failure} : Text.isBlankText plan.info.name = false →
      plan.probes = earlier ++ definition :: later → AreWellDefined earlier →
      Violates (earlier.map ProbeDefinition.name) definition failure →
      FirstViolation plan failure
  | order {before after : List String} {name : String} :
      Text.isBlankText plan.info.name = false → plan.probes ≠ [] →
      AreWellDefined plan.probes → plan.info.executionOrder = some (before ++ name :: after) →
      (∀ earlier ∈ before, plan.Defines earlier) → ¬plan.Defines name →
      FirstViolation plan
        (.invalidSuite "suite.execution_order" ("Unknown probe '" ++ name ++ "'"))

def checkNotEmpty (definitions : List ProbeDefinition) : Check.Result :=
  if definitions.isEmpty then .error (.invalidSuite "probes" "Suite defines no probes") else .ok ()

theorem checkNotEmpty_ok_iff : checkNotEmpty definitions = .ok () ↔ definitions ≠ [] := by
  simp [checkNotEmpty]

theorem checkNotEmpty_error_iff :
    checkNotEmpty definitions = .error failure ↔
      definitions = [] ∧ failure = .invalidSuite "probes" "Suite defines no probes" := by
  cases definitions <;> simp [checkNotEmpty, eq_comm]

theorem check_eq :
    plan.check = (do
      Check.notBlank "suite.name" plan.info.name
      checkNotEmpty plan.probes
      checkProbes [] plan.probes
      plan.checkOrder (plan.info.executionOrder.getD [])) := by
  unfold check checkNotEmpty
  cases plan.info.executionOrder <;> cases plan.probes.isEmpty <;> rfl

theorem check_ok_iff : plan.check = .ok () ↔ plan.WellFormed := by
  have order : (∀ name ∈ plan.info.executionOrder.getD [], plan.Defines name) ↔
      ∀ order, plan.info.executionOrder = some order → ∀ name ∈ order, plan.Defines name := by
    cases plan.info.executionOrder <;> simp
  rw [check_eq, Check.andThen_ok_iff, Check.andThen_ok_iff, Check.andThen_ok_iff,
    Check.notBlank_ok_iff, checkNotEmpty_ok_iff, checkProbes_start_ok_iff, checkOrder_ok_iff,
    order]
  exact ⟨fun ⟨named, notEmpty, probes, order⟩ => ⟨named, notEmpty, probes, order⟩,
    fun ⟨named, notEmpty, probes, order⟩ => ⟨named, notEmpty, probes, order⟩⟩

theorem check_error_iff : plan.check = .error failure ↔ plan.FirstViolation failure := by
  rw [check_eq]
  simp only [Check.andThen_error_iff, Check.notBlank_ok_iff, Check.notBlank_error_iff,
    checkNotEmpty_ok_iff, checkNotEmpty_error_iff, checkProbes_start_ok_iff,
    checkProbes_start_error_iff, checkOrder_error_iff]
  constructor
  · rintro (⟨blank, rfl⟩ | ⟨named, ⟨empty, rfl⟩ | ⟨notEmpty,
      ⟨earlier, definition, later, split, wellDefined, violates⟩ |
      ⟨probes, before, name, after, order, defined, unknown, rfl⟩⟩⟩)
    · exact .blankName blank
    · exact .noProbes named empty
    · exact .probe named split wellDefined violates
    · have given : plan.info.executionOrder = some (before ++ name :: after) := by
        rw [← order]
        cases names : plan.info.executionOrder with
        | none => simp [names] at order
        | some _ => rfl
      exact .order named notEmpty probes given defined unknown
  · intro violation
    cases violation with
    | blankName blank => exact .inl ⟨blank, rfl⟩
    | noProbes named empty => exact .inr ⟨named, .inl ⟨empty, rfl⟩⟩
    | probe named split wellDefined violates =>
      have notEmpty : plan.probes ≠ [] := by simp [split]
      exact .inr ⟨named, .inr ⟨notEmpty, .inl ⟨_, _, _, split, wellDefined, violates⟩⟩⟩
    | @order before after name named notEmpty probes given defined unknown =>
      have order : plan.info.executionOrder.getD [] = before ++ name :: after := by
        rw [given, Option.getD_some]
      exact .inr ⟨named, .inr ⟨notEmpty, .inr
        ⟨probes, before, name, after, order, defined, unknown, rfl⟩⟩⟩

theorem find?_of_distinct (distinct : (definitions.map ProbeDefinition.name).Nodup)
    (member : definition ∈ definitions) :
    definitions.find? (fun other => other.name == definition.name) = some definition := by
  induction definitions with
  | nil => cases member
  | cons head rest ih =>
    rw [List.map_cons, List.nodup_cons] at distinct
    obtain ⟨onlyOnce, distinct⟩ := distinct
    rcases List.mem_cons.mp member with rfl | member
    · exact List.find?_cons_of_pos (by simp)
    · have other : head.name ≠ definition.name := fun same =>
        onlyOnce (same ▸ List.mem_map_of_mem member)
      rw [List.find?_cons_of_neg (by simpa using other)]
      exact ih distinct member

/-- A plan passes its check just when it is well-formed, and then each of its probes is found under
its name. Any other plan fails as the first of its violations. -/
theorem check_exact (plan : Plan) :
    (plan.check = .ok () ↔ plan.WellFormed) ∧
      (∀ failure, plan.check = .error failure ↔ plan.FirstViolation failure) ∧
      (plan.check = .ok () →
        ∀ definition ∈ plan.probes, plan.find? definition.name = some definition) := by
  refine ⟨check_ok_iff, fun _ => check_error_iff, fun passed definition member => ?_⟩
  exact find?_of_distinct (check_ok_iff.mp passed).probes.distinct member

def orderly : Plan where
  info := ⟨"nightly", none, none, some ["end", "start", "end"]⟩
  probes := [⟨"start", none, .disconnect {}⟩, ⟨"end", some false, .disconnect { tls := false }⟩]

/-- A plan whose second probe has the name of the first one, and a port that is none. The name of
the third is blank, and the order names a probe that is missing. -/
def disorderly : Plan where
  info := ⟨"nightly", none, none, some ["missing"]⟩
  probes := [
    ⟨"start", none, .disconnect {}⟩,
    ⟨"start", none, .disconnect { port := 0 }⟩,
    ⟨" ", none, .disconnect {}⟩]

theorem orderly_disorderly :
    (orderly.check = .ok () ∧
        orderly.find? "end" = some ⟨"end", some false, .disconnect { tls := false }⟩) ∧
      disorderly.FirstViolation
        (.invalidSuite "probes.name" "Duplicate probe name 'start'") := by
  have passed : orderly.check = .ok () := rfl
  have refused : disorderly.check =
      .error (.invalidSuite "probes.name" "Duplicate probe name 'start'") := rfl
  obtain ⟨-, -, found⟩ := check_exact orderly
  obtain ⟨-, violation, -⟩ := check_exact disorderly
  have member : ⟨"end", some false, .disconnect { tls := false }⟩ ∈ orderly.probes := by decide
  exact ⟨⟨passed, found passed _ member⟩, (violation _).mp refused⟩

end ServerProbe.Suite.Plan
