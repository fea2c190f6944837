import ServerProbe.Proofs.Text.Cutting
import ServerProbe.Suite.Variables

/-! What replacing the references of a text makes of it.

A text is read from left to right as references and single characters. Where no
reference is left open in front of it, a text is replaced on its own. A reference
that a line leaves open ends at the next closing brace, on whatever line it stands.
-/

set_option autoImplicit false

namespace ServerProbe.Suite

variable (environment : Environment)

def IsName (name : List Char) : Prop :=
  name ≠ [] ∧ '\x7d' ∉ name

instance (name : List Char) : Decidable (IsName name) :=
  inferInstanceAs (Decidable (_ ∧ _))

/-- A reference stands at the start of a text. -/
def Refers (text : List Char) : Prop :=
  ∃ name rest, IsName name ∧ text = reference name ++ rest

theorem cutName?_append {name : List Char} (noEnd : '\x7d' ∉ name) (rest : List Char) :
    cutName? (name ++ '\x7d' :: rest) = if name.isEmpty then none else some (name, rest) := by
  simp only [cutName?, Text.takeWhile_append_mark noEnd, List.drop_left]

theorem cutName?_of_not_mem {text : List Char} (noEnd : '\x7d' ∉ text) :
    cutName? text = none := by
  simp only [cutName?, Text.takeWhile_of_not_mem noEnd, List.drop_length]

theorem cutName?_eq_some_iff {text name rest : List Char} :
    cutName? text = some (name, rest) ↔ IsName name ∧ text = name ++ '\x7d' :: rest := by
  constructor
  · intro cut
    by_cases ended : '\x7d' ∈ text
    · obtain ⟨front, after, rfl, noEnd⟩ := List.eq_append_cons_of_mem ended
      rw [cutName?_append noEnd] at cut
      split at cut
      · cases cut
      · next notEmpty =>
        cases cut
        exact ⟨⟨by simpa using notEmpty, noEnd⟩, rfl⟩
    · rw [cutName?_of_not_mem ended] at cut
      cases cut
  · rintro ⟨⟨notEmpty, noEnd⟩, rfl⟩
    rw [cutName?_append noEnd, if_neg (by simpa using notEmpty)]

theorem cutName?_named {name : List Char} (named : IsName name) (rest : List Char) :
    cutName? (name ++ '\x7d' :: rest) = some (name, rest) :=
  cutName?_eq_some_iff.mpr ⟨named, rfl⟩

theorem reference_append (name rest : List Char) :
    reference name ++ rest = '$' :: '\x7b' :: (name ++ '\x7d' :: rest) := by
  simp [reference]

theorem refers_iff {text : List Char} :
    Refers text ↔ ∃ after name rest,
      text = '$' :: '\x7b' :: after ∧ cutName? after = some (name, rest) := by
  constructor
  · rintro ⟨name, rest, named, rfl⟩
    exact ⟨_, name, rest, reference_append name rest, cutName?_named named rest⟩
  · rintro ⟨after, name, rest, rfl, cut⟩
    obtain ⟨named, rfl⟩ := cutName?_eq_some_iff.mp cut
    exact ⟨name, rest, named, (reference_append name rest).symm⟩

theorem substitute_reference {name : List Char} (named : IsName name) (rest : List Char) :
    substitute environment (reference name ++ rest) =
      replacement environment name ++ substitute environment rest := by
  rw [reference_append, substitute]
  split
  · next found =>
    cases (cutName?_named named rest).symm.trans found
    rfl
  · next found => cases (cutName?_named named rest).symm.trans found

theorem substitute_cons {c : Char} {rest : List Char} (plain : ¬Refers (c :: rest)) :
    substitute environment (c :: rest) = c :: substitute environment rest := by
  by_cases opens : ∃ after, c = '$' ∧ rest = '\x7b' :: after
  · obtain ⟨after, rfl, rfl⟩ := opens
    rw [substitute]
    split
    · next found => exact absurd (refers_iff.mpr ⟨_, _, _, rfl, found⟩) plain
    · rfl
  · rw [substitute]
    exact fun after isDollar isBrace => opens ⟨after, isDollar, isBrace⟩

theorem references_reference {name : List Char} (named : IsName name) (rest : List Char) :
    references (reference name ++ rest) = String.ofList name :: references rest := by
  rw [reference_append, references]
  split
  · next found =>
    cases (cutName?_named named rest).symm.trans found
    rfl
  · next found => cases (cutName?_named named rest).symm.trans found

theorem references_cons {c : Char} {rest : List Char} (plain : ¬Refers (c :: rest)) :
    references (c :: rest) = references rest := by
  by_cases opens : ∃ after, c = '$' ∧ rest = '\x7b' :: after
  · obtain ⟨after, rfl, rfl⟩ := opens
    rw [references]
    split
    · next found => exact absurd (refers_iff.mpr ⟨_, _, _, rfl, found⟩) plain
    · rfl
  · rw [references]
    exact fun after isDollar isBrace => opens ⟨after, isDollar, isBrace⟩

/-- Every text is read as references and, where none begins, single characters. -/
@[elab_as_elim]
theorem reading_induction {motive : List Char → Prop} (nil : motive [])
    (reference : ∀ name rest, IsName name → motive rest → motive (reference name ++ rest))
    (char : ∀ c rest, ¬Refers (c :: rest) → motive rest → motive (c :: rest))
    (text : List Char) : motive text := by
  by_cases refers : Refers text
  · obtain ⟨name, rest, named, rfl⟩ := refers
    exact reference name rest named (reading_induction nil reference char rest)
  · cases text with
    | nil => exact nil
    | cons c rest => exact char c rest refers (reading_induction nil reference char rest)
termination_by text.length
decreasing_by
  · subst_vars
    simp only [Suite.reference, List.length_append, List.length_cons]
    omega
  · simp

theorem substitute_of_unset {text : List Char}
    (unset : ∀ name ∈ references text, environment name = none) :
    substitute environment text = text := by
  induction text using reading_induction with
  | nil => rw [substitute]
  | reference name rest named ih =>
    rw [references_reference named] at unset
    obtain ⟨here, later⟩ := List.forall_mem_cons.mp unset
    rw [substitute_reference environment named, ih later, replacement, here]
  | char c rest plain ih =>
    rw [references_cons plain] at unset
    rw [substitute_cons environment plain, ih unset]

theorem substitute_of_no_end {text : List Char} (noEnd : '\x7d' ∉ text) :
    substitute environment text = text := by
  induction text using reading_induction with
  | nil => rw [substitute]
  | reference name rest named ih => exact absurd (by simp [reference]) noEnd
  | char c rest plain ih =>
    rw [substitute_cons environment plain, ih (List.not_mem_of_not_mem_cons noEnd)]

/-- A reference begins in a text and does not end in it. -/
def LeavesOpen (text : List Char) : Prop :=
  ∃ before name, text = before ++ '$' :: '\x7b' :: name ∧ '\x7d' ∉ name

theorem LeavesOpen.after {text : List Char} (leftOpen : LeavesOpen text) (front : List Char) :
    LeavesOpen (front ++ text) := by
  obtain ⟨before, name, rfl, noEnd⟩ := leftOpen
  exact ⟨front ++ before, name, by rw [List.append_assoc], noEnd⟩

theorem LeavesOpen.first {text : List Char} (leftOpen : LeavesOpen text) :
    ∃ before name, text = before ++ '$' :: '\x7b' :: name ∧ '\x7d' ∉ name ∧
      ¬LeavesOpen before := by
  obtain ⟨before, name, rfl, noEnd⟩ := leftOpen
  by_cases earlier : LeavesOpen before
  · obtain ⟨front, opened, rfl, noEarlierEnd, closed⟩ := earlier.first
    refine ⟨front, opened ++ '$' :: '\x7b' :: name, by simp, ?_, closed⟩
    simp [noEarlierEnd, noEnd]
  · exact ⟨before, name, rfl, noEnd, earlier⟩
termination_by text.length
decreasing_by
  subst_vars
  simp

theorem not_leavesOpen_ended (text : List Char) : ¬LeavesOpen (text ++ ['\x7d']) := by
  rintro ⟨before, name, whole, noEnd⟩
  have last := congrArg List.getLast? whole
  cases name with
  | nil => simp at last
  | cons c rest =>
    have isLast : (c :: rest).getLast? = some '\x7d' := by simpa using last.symm
    exact noEnd (List.mem_of_getLast? isLast)

/-- No reference begins in a text only because of what comes behind it, unless the text leaves one
open or is cut inside of its mark. -/
theorem not_refers_append {text rest : List Char} (notEmpty : text ≠ []) (plain : ¬Refers text)
    (closed : ¬LeavesOpen text) (seam : text.getLast? = some '$' → rest.head? ≠ some '\x7b') :
    ¬Refers (text ++ rest) := by
  rintro ⟨name, later, named, whole⟩
  rw [reference_append] at whole
  cases text with
  | nil => exact notEmpty rfl
  | cons c more =>
    obtain ⟨rfl, behind⟩ := List.cons_eq_cons.mp whole
    cases more with
    | nil => exact seam rfl (congrArg List.head? behind)
    | cons d more =>
      obtain ⟨rfl, inside⟩ := List.cons_eq_cons.mp behind
      by_cases ended : '\x7d' ∈ more
      · -- The first closing brace is the end of the name.
        obtain ⟨front, after, rfl, noEnd⟩ := List.eq_append_cons_of_mem ended
        have same := congrArg (List.takeWhile (· != '\x7d')) inside
        rw [List.append_eq, List.append_assoc, List.cons_append,
          Text.takeWhile_append_mark noEnd, Text.takeWhile_append_mark named.2] at same
        subst same
        exact plain ⟨front, after, named, (reference_append front after).symm⟩
      · exact closed ⟨[], more, rfl, ended⟩

theorem substitute_append {front rest : List Char} (closed : ¬LeavesOpen front)
    (seam : front.getLast? = some '$' → rest.head? ≠ some '\x7b') :
    substitute environment (front ++ rest) =
      substitute environment front ++ substitute environment rest := by
  induction front using reading_induction with
  | nil => rw [substitute, List.nil_append, List.nil_append]
  | reference name more named ih =>
    have closedMore : ¬LeavesOpen more := fun leftOpen => closed (leftOpen.after _)
    have seamMore : more.getLast? = some '$' → rest.head? ≠ some '\x7b' := fun last =>
      seam (by rw [List.getLast?_append, last, Option.some_or])
    rw [List.append_assoc, substitute_reference environment named, ih closedMore seamMore,
      substitute_reference environment named, List.append_assoc]
  | char c more plain ih =>
    have closedMore : ¬LeavesOpen more := fun leftOpen => closed (leftOpen.after [c])
    have seamMore : more.getLast? = some '$' → rest.head? ≠ some '\x7b' := fun last =>
      seam (by rw [List.getLast?_cons, last, Option.getD_some])
    have still := not_refers_append (List.cons_ne_nil c more) plain closed seam
    rw [List.cons_append] at still ⊢
    rw [substitute_cons environment still, ih closedMore seamMore,
      substitute_cons environment plain, List.cons_append]

/-! References between literal texts. -/

def IsLiteral (text : List Char) : Prop :=
  ¬['$', '\x7b'] <:+: text

instance (text : List Char) : Decidable (IsLiteral text) :=
  inferInstanceAs (Decidable (¬_))

/-- A text that starts with literal text; behind each name there is literal text again. -/
def spelled (write : List Char → List Char) (first : List Char) :
    List (List Char × List Char) → List Char
  | [] => first
  | (name, after) :: parts => first ++ write name ++ spelled write after parts

theorem IsLiteral.not_leavesOpen {text : List Char} (literal : IsLiteral text) :
    ¬LeavesOpen text := by
  rintro ⟨before, name, rfl, -⟩
  exact literal ⟨before, name, by simp⟩

theorem substitute_literal {text : List Char} (literal : IsLiteral text) :
    substitute environment text = text := by
  induction text using reading_induction with
  | nil => rw [substitute]
  | reference name rest named ih =>
    exact absurd ⟨[], name ++ '\x7d' :: rest, by simp [reference]⟩ literal
  | char c rest plain ih =>
    have later : IsLiteral rest := fun marked =>
      literal (marked.trans (List.suffix_cons c rest).isInfix)
    rw [substitute_cons environment plain, ih later]

theorem substitute_literal_reference {first name : List Char} (literal : IsLiteral first)
    (named : IsName name) (rest : List Char) :
    substitute environment (first ++ (reference name ++ rest)) =
      first ++ (replacement environment name ++ substitute environment rest) := by
  have seam : first.getLast? = some '$' → (reference name ++ rest).head? ≠ some '\x7b' := by
    simp [reference]
  rw [substitute_append environment literal.not_leavesOpen seam,
    substitute_literal environment literal, substitute_reference environment named]

/-- Each reference is replaced by the value of its name, whatever stands next to it and whatever
the values hold, and without values nothing changes. -/
theorem substitute_once :
    (∀ (first : List Char) (parts : List (List Char × List Char)), IsLiteral first →
      (∀ part ∈ parts, IsName part.1 ∧ IsLiteral part.2) →
      substitute environment (spelled reference first parts) =
        spelled (replacement environment) first parts) ∧
    ∀ text : List Char, (∀ name ∈ references text, environment name = none) →
      substitute environment text = text := by
  refine ⟨?_, fun text => substitute_of_unset environment⟩
  intro first parts literal each
  induction parts generalizing first with
  | nil => exact substitute_literal environment literal
  | cons part parts ih =>
    obtain ⟨name, after⟩ := part
    obtain ⟨⟨named, literalAfter⟩, later⟩ := List.forall_mem_cons.mp each
    calc
      substitute environment (spelled reference first ((name, after) :: parts))
      _ = substitute environment (first ++ (reference name ++ spelled reference after parts)) := by
        rw [spelled, List.append_assoc]
      _ = first ++
          (replacement environment name ++
            substitute environment (spelled reference after parts)) :=
        substitute_literal_reference environment literal named _
      _ = spelled (replacement environment) first ((name, after) :: parts) := by
        rw [ih after literalAfter later, spelled, List.append_assoc]

/-- A value that is a reference, and one that begins a reference before a brace. -/
def cleverValues : Environment :=
  .ofList [("A", "$\x7bB\x7d"), ("B", "x"), ("S", "$")]

def cleverParts : List (List Char × List Char) :=
  [("S".toList, "\x7bB\x7d".toList), ("A".toList, "\n".toList), ("a$\x7bB".toList, [])]

theorem cleverValues_once :
    (IsLiteral ['$'] ∧ ∀ part ∈ cleverParts, IsName part.1 ∧ IsLiteral part.2) ∧
      substitute cleverValues (spelled reference ['$'] cleverParts) =
        "$$\x7bB\x7d$\x7bB\x7d\n$\x7ba$\x7bB\x7d".toList ∧
      substitute (fun _ => none) "$\x7bA\x7d$\x7b".toList = "$\x7bA\x7d$\x7b".toList := by
  have literal : IsLiteral ['$'] := by decide
  have each : ∀ part ∈ cleverParts, IsName part.1 ∧ IsLiteral part.2 := by decide
  refine ⟨⟨literal, each⟩, ?_, (substitute_once _).2 _ fun _ _ => rfl⟩
  rw [(substitute_once cleverValues).1 ['$'] cleverParts literal each]
  decide

/-! Lines. -/

/-- Two lines are replaced together as each of them is on its own. -/
def LineLocal (first second : List Char) : Prop :=
  substitute environment (first ++ '\n' :: second) =
    substitute environment first ++ '\n' :: substitute environment second

/-- A reference that one line leaves open and that ends behind it. -/
structure Crossing where
  before : List Char
  /-- The name up to the end of the line. -/
  front : List Char
  /-- The name behind the end of the line. -/
  back : List Char
  rest : List Char
  closed : ¬LeavesOpen before
  front_noEnd : '\x7d' ∉ front
  back_noEnd : '\x7d' ∉ back

theorem substitute_opened {before name : List Char} (closed : ¬LeavesOpen before)
    (noEnd : '\x7d' ∉ name) :
    substitute environment (before ++ '$' :: '\x7b' :: name) =
      substitute environment before ++ '$' :: '\x7b' :: name := by
  have marked : '\x7d' ∉ '$' :: '\x7b' :: name := by simpa using noEnd
  rw [substitute_append environment closed (by simp), substitute_of_no_end environment marked]

theorem substitute_newline (text : List Char) :
    substitute environment ('\n' :: text) = '\n' :: substitute environment text := by
  refine substitute_cons environment ?_
  rintro ⟨name, rest, -, whole⟩
  rw [reference_append] at whole
  cases whole

theorem lineLocal_of_closed {first : List Char} (closed : ¬LeavesOpen first)
    (second : List Char) : LineLocal environment first second := by
  unfold LineLocal
  rw [substitute_append environment closed (by simp), substitute_newline]

theorem lineLocal_of_no_end (first : List Char) {second : List Char} (noEnd : '\x7d' ∉ second) :
    LineLocal environment first second := by
  by_cases leftOpen : LeavesOpen first
  · obtain ⟨before, name, rfl, noEndHere, closed⟩ := leftOpen.first
    have noEndBoth : '\x7d' ∉ name ++ '\n' :: second := by simp [noEndHere, noEnd]
    have whole := substitute_opened environment closed noEndBoth
    unfold LineLocal
    rw [substitute_opened environment closed noEndHere, substitute_of_no_end environment noEnd]
    simpa using whole
  · exact lineLocal_of_closed environment leftOpen second

namespace Crossing

variable (crossing : Crossing)

def first : List Char :=
  crossing.before ++ '$' :: '\x7b' :: crossing.front

def second : List Char :=
  crossing.back ++ '\x7d' :: crossing.rest

def name : List Char :=
  crossing.front ++ '\n' :: crossing.back

theorem isName_name : IsName crossing.name := by
  constructor
  · simp [name]
  · simp [name, crossing.front_noEnd, crossing.back_noEnd]

theorem substitute_together :
    substitute environment (crossing.first ++ '\n' :: crossing.second) =
      substitute environment crossing.before ++
        (replacement environment crossing.name ++ substitute environment crossing.rest) := by
  have whole : crossing.first ++ '\n' :: crossing.second =
      crossing.before ++ (reference crossing.name ++ crossing.rest) := by
    simp [first, second, name, reference]
  rw [whole, substitute_append environment crossing.closed (by simp [reference]),
    substitute_reference environment crossing.isName_name]

/-- On their own the first line keeps its mark, and the second has the references that begin in
what would be the end of the name. -/
theorem substitute_apart :
    substitute environment crossing.first ++ '\n' :: substitute environment crossing.second =
      substitute environment crossing.before ++
        ('$' :: '\x7b' :: (crossing.front ++
          '\n' :: substitute environment (crossing.back ++ ['\x7d'])) ++
            substitute environment crossing.rest) := by
  have later : substitute environment crossing.second =
      substitute environment (crossing.back ++ ['\x7d']) ++
        substitute environment crossing.rest := by
    rw [second, List.append_cons]
    exact substitute_append environment (not_leavesOpen_ended crossing.back) (by simp)
  rw [later, first, substitute_opened environment crossing.closed crossing.front_noEnd]
  simp

theorem lineLocal_iff :
    LineLocal environment crossing.first crossing.second ↔
      replacement environment crossing.name = '$' :: '\x7b' :: (crossing.front ++
        '\n' :: substitute environment (crossing.back ++ ['\x7d'])) := by
  unfold LineLocal
  rw [crossing.substitute_together, crossing.substitute_apart, List.append_cancel_left_eq,
    List.append_cancel_right_eq]

theorem lineLocal_iff_of_unset (unset : environment (String.ofList crossing.name) = none) :
    LineLocal environment crossing.first crossing.second ↔
      substitute environment (crossing.back ++ ['\x7d']) = crossing.back ++ ['\x7d'] := by
  rw [crossing.lineLocal_iff, replacement, unset, eq_comm]
  simp [reference, name]

end Crossing

theorem LeavesOpen.exists_crossing {first second : List Char} (leftOpen : LeavesOpen first)
    (ended : '\x7d' ∈ second) :
    ∃ crossing : Crossing, crossing.first = first ∧ crossing.second = second := by
  obtain ⟨before, front, rfl, front_noEnd, closed⟩ := leftOpen.first
  obtain ⟨back, rest, rfl, back_noEnd⟩ := List.eq_append_cons_of_mem ended
  exact ⟨{ before, front, back, rest, closed, front_noEnd, back_noEnd }, rfl, rfl⟩

/-- Lines are replaced on their own just when no reference crosses from one to the other, or what
replaces it is what the lines give without it. Whatever comes behind a line is replaced on its own
just when the line leaves nothing open. -/
theorem lineLocal_iff_crossing (first : List Char) :
    (∀ environment second, LineLocal environment first second ↔
      ∀ crossing : Crossing, crossing.first = first → crossing.second = second →
        replacement environment crossing.name = '$' :: '\x7b' :: (crossing.front ++
          '\n' :: substitute environment (crossing.back ++ ['\x7d']))) ∧
    ((∀ environment second, LineLocal environment first second) ↔ ¬LeavesOpen first) := by
  constructor
  · intro environment second
    constructor
    · rintro isLocal crossing rfl rfl
      exact (crossing.lineLocal_iff environment).mp isLocal
    · intro each
      by_cases leftOpen : LeavesOpen first
      · by_cases ended : '\x7d' ∈ second
        · obtain ⟨crossing, rfl, rfl⟩ := leftOpen.exists_crossing ended
          exact (crossing.lineLocal_iff environment).mpr (each crossing rfl rfl)
        · exact lineLocal_of_no_end environment first ended
      · exact lineLocal_of_closed environment leftOpen second
  · constructor
    · intro always leftOpen
      -- With every variable set to nothing, a closing brace takes away what is left open.
      have braced : '\x7d' ∈ ['\x7d'] := List.mem_cons_self
      obtain ⟨crossing, rfl, -⟩ := leftOpen.exists_crossing braced
      have kept := (crossing.lineLocal_iff fun _ => some "").mp (always _ _)
      cases kept
    · exact fun closed environment second => lineLocal_of_closed environment closed second

def oneWord : Environment :=
  .ofList [("A", "alpha")]

def openComment : Crossing where
  before := "# ".toList
  front := []
  back := "name = $\x7bA".toList
  rest := []
  closed := IsLiteral.not_leavesOpen (by decide)
  front_noEnd := by decide
  back_noEnd := by decide

theorem comment_hides_reference :
    ¬LineLocal oneWord "# $\x7b".toList "name = $\x7bA\x7d".toList := by
  intro isLocal
  have kept := (openComment.lineLocal_iff_of_unset oneWord (by decide)).mp isLocal
  have literal : IsLiteral "name = ".toList := fun marked =>
    absurd (marked.subset List.mem_cons_self) (by decide)
  have replaced := calc
    substitute oneWord (openComment.back ++ ['\x7d'])
    _ = substitute oneWord ("name = ".toList ++ (reference ['A'] ++ [])) := rfl
    _ = "name = ".toList ++ (replacement oneWord ['A'] ++ substitute oneWord []) :=
      substitute_literal_reference oneWord literal (by decide) []
    _ = "name = alpha".toList := by
      rw [substitute]
      rfl
  rw [replaced] at kept
  exact absurd kept (by decide)

end ServerProbe.Suite
