import Mathlib.Data.List.DropRight
import ServerProbe.Text.Blank

/-! What cutting and trimming give on text that was put together from known parts.

Trimming takes blank characters only, so it stops at the first solid character
from its side. A text has the same words with and without the blanks at its end.
-/

set_option autoImplicit false

namespace ServerProbe.Text

def IsSolid (text : List Char) : Prop := ∀ c ∈ text, isBlank c = false

def IsGap (text : List Char) : Prop := ∀ c ∈ text, isBlank c = true

def IsTrimmed (text : List Char) : Prop :=
  (∀ c ∈ text.head?, isBlank c = false) ∧ ∀ c ∈ text.getLast?, isBlank c = false

instance (text : List Char) : Decidable (IsSolid text) :=
  List.decidableBAll (fun c => isBlank c = false) text

instance (text : List Char) : Decidable (IsGap text) :=
  List.decidableBAll (fun c => isBlank c = true) text

instance (text : List Char) : Decidable (IsTrimmed text) :=
  @instDecidableAnd _ _ (Option.decidableForallMem text.head?)
    (Option.decidableForallMem text.getLast?)

theorem IsSolid.append {front back : List Char} (first : IsSolid front) (second : IsSolid back) :
    IsSolid (front ++ back) := fun c member =>
  (List.mem_append.mp member).elim (first c) (second c)

theorem IsSolid.not_mem {text : List Char} (solid : IsSolid text) {c : Char}
    (blank : isBlank c = true) : c ∉ text := by
  intro member
  rw [solid c member] at blank
  cases blank

theorem IsSolid.newline_not_mem {text : List Char} (solid : IsSolid text) : '\n' ∉ text :=
  solid.not_mem (by decide)

theorem IsSolid.isTrimmed {text : List Char} (solid : IsSolid text) : IsTrimmed text :=
  ⟨fun c first => solid c (List.mem_of_mem_head? first),
    fun c last => solid c (List.mem_of_mem_getLast? last)⟩

theorem trimEnd_eq_rdropWhile (text : List Char) : trimEnd text = text.rdropWhile isBlank := rfl

theorem trimEnd_isPrefix (text : List Char) : trimEnd text <+: text := by
  rw [trimEnd_eq_rdropWhile]
  exact List.rdropWhile_prefix ..

theorem trimEnd_append_gap (text : List Char) {gap : List Char} (blank : IsGap gap) :
    trimEnd (text ++ gap) = trimEnd text := by
  have reversed : ∀ c ∈ gap.reverse, isBlank c = true := fun c member =>
    blank c (List.mem_reverse.mp member)
  rw [trimEnd, List.reverse_append, List.dropWhile_append_of_pos reversed]
  rfl

theorem trimEnd_append_cons (front rest : List Char) {c : Char} (solid : isBlank c = false) :
    trimEnd (front ++ c :: rest) = front ++ c :: trimEnd rest := by
  -- What follows the solid character is taken apart from its end.
  induction rest using List.reverseRecOn with
  | nil =>
    rw [trimEnd_eq_rdropWhile, List.rdropWhile_concat_neg _ _ _ (by simp [solid])]
    rfl
  | append_singleton rest last ih =>
    have regroup : front ++ c :: (rest ++ [last]) = (front ++ c :: rest) ++ [last] := by simp
    rw [regroup]
    by_cases blank : isBlank last = true
    · have gap : IsGap [last] := by simpa [IsGap] using blank
      rw [trimEnd_append_gap _ gap, trimEnd_append_gap _ gap, ih]
    · rw [trimEnd_eq_rdropWhile, trimEnd_eq_rdropWhile,
        List.rdropWhile_concat_neg _ _ _ blank, List.rdropWhile_concat_neg _ _ _ blank]
      simp

theorem trimEnd_eq_self {text : List Char} (solid : ∀ c ∈ text.getLast?, isBlank c = false) :
    trimEnd text = text := by
  rcases List.eq_nil_or_concat text with rfl | ⟨front, last, rfl⟩
  · rfl
  · simpa [trimEnd] using trimEnd_append_cons front [] (solid last (by simp))

theorem trimEnd_gap {gap : List Char} (blank : IsGap gap) : trimEnd gap = [] :=
  trimEnd_append_gap [] blank

theorem dropWhile_gap_append {gap : List Char} (blank : IsGap gap) (text : List Char) :
    (gap ++ text).dropWhile isBlank = text.dropWhile isBlank :=
  List.dropWhile_append_of_pos blank

theorem dropWhile_of_isTrimmed {text : List Char} (trimmed : IsTrimmed text) :
    text.dropWhile isBlank = text := by
  cases text with
  | nil => rfl
  | cons c rest => simp [trimmed.1 c rfl]

theorem trim_of_isTrimmed {text : List Char} (trimmed : IsTrimmed text) : trim text = text := by
  rw [trim, dropWhile_of_isTrimmed trimmed, trimEnd_eq_self trimmed.2]

theorem trim_gap_append {gap text : List Char} (blank : IsGap gap) (trimmed : IsTrimmed text) :
    trim (gap ++ text) = text := by
  rw [trim, dropWhile_gap_append blank, ← trim, trim_of_isTrimmed trimmed]

theorem trim_append_gap (text : List Char) {gap : List Char} (blank : IsGap gap) :
    trim (text ++ gap) = trim text := by
  rw [trim, trim, List.dropWhile_append]
  split
  · next allBlank =>
    rw [List.isEmpty_iff] at allBlank
    rw [allBlank, List.dropWhile_eq_nil_iff.mpr blank]
  · exact trimEnd_append_gap _ blank

theorem trimEnd_prefix_append (front more : List Char) :
    trimEnd front <+: trimEnd (front ++ more) := by
  have split : trimEnd front ++ front.rtakeWhile isBlank = front := by
    rw [trimEnd_eq_rdropWhile, List.rdropWhile_append_rtakeWhile]
  have ends (c : Char) (last : c ∈ (trimEnd front).getLast?) : isBlank c = false := by
    rw [trimEnd_eq_rdropWhile] at last
    obtain ⟨notEmpty, rfl⟩ := List.mem_getLast?_eq_getLast last
    simpa using List.rdropWhile_last_not isBlank front notEmpty
  rcases List.eq_nil_or_concat (trimEnd front) with empty | ⟨init, last, ended⟩
  · rw [empty]
    exact List.nil_prefix
  · have solid : isBlank last = false := ends last (by simp [ended])
    have regroup : front ++ more = init ++ last :: (front.rtakeWhile isBlank ++ more) := by
      conv => lhs; rw [← split, ended]
      simp
    rw [ended, regroup, trimEnd_append_cons _ _ solid, List.concat_eq_append]
    exact ⟨_, List.append_assoc ..⟩

theorem trim_isPrefix {front text : List Char} (starts : front <+: text) :
    trim front <+: trim text := by
  obtain ⟨more, rfl⟩ := starts
  rw [trim, trim, List.dropWhile_append]
  split
  · next allBlank =>
    rw [List.isEmpty_iff.mp allBlank]
    exact List.nil_prefix
  · exact trimEnd_prefix_append _ more

theorem trim_trimEnd_gap_append {gap text : List Char} (blank : IsGap gap)
    (trimmed : IsTrimmed text) : trim (trimEnd (gap ++ text)) = text := by
  cases isEmpty : text with
  -- Before an empty text the gap itself stands at the end.
  | nil => rw [List.append_nil, trimEnd_gap blank]; rfl
  | cons c rest =>
    rw [← isEmpty]
    have kept : trimEnd (gap ++ text) = gap ++ text := by
      apply trimEnd_eq_self
      intro last member
      rw [List.getLast?_append_of_ne_nil gap (by simp [isEmpty])] at member
      exact trimmed.2 last member
    rw [kept, trim_gap_append blank trimmed]

theorem foldr_wordStep_gap {gap : List Char} (blank : IsGap gap) :
    gap.foldr wordStep ([], []) = ([], []) := by
  induction gap with
  | nil => rfl
  | cons c rest ih =>
    have isGap : isBlank c = true := blank c (by simp)
    have others : IsGap rest := fun d member => blank d (by simp [member])
    simp [List.foldr_cons, ih others, wordStep, isGap]

theorem words_append_gap (text : List Char) {gap : List Char} (blank : IsGap gap) :
    words (text ++ gap) = words text := by
  simp only [words, List.foldr_append, foldr_wordStep_gap blank]

theorem words_trimEnd (text : List Char) : words (trimEnd text) = words text := by
  have split : trimEnd text ++ text.rtakeWhile isBlank = text := by
    rw [trimEnd_eq_rdropWhile, List.rdropWhile_append_rtakeWhile]
  have blank : IsGap (text.rtakeWhile isBlank) := fun c member =>
    List.mem_rtakeWhile_imp member
  rw [← words_append_gap (trimEnd text) blank, split]

/-- The word being built stands at the front, and the others further on. -/
theorem foldr_wordStep_infix (text : List Char) :
    (text.foldr wordStep ([], [])).1 <+: text ∧
      ∀ word ∈ (text.foldr wordStep ([], [])).2, word <:+: text := by
  induction text with
  | nil => exact ⟨List.prefix_rfl, fun word member => by cases member⟩
  | cons c rest ih =>
    obtain ⟨front, others⟩ := ih
    rw [List.foldr_cons]
    -- A blank ends the word being built; any other character makes it longer.
    cases blank : isBlank c with
    | false =>
      simp only [wordStep, blank, Bool.false_eq_true, if_false]
      exact ⟨(List.prefix_cons_inj c).mpr front, fun word member => (others word member).trans
        (List.suffix_cons c rest).isInfix⟩
    | true =>
      simp only [wordStep, blank, if_true]
      refine ⟨List.nil_prefix, fun word member => ?_⟩
      split at member
      · exact (others word member).trans (List.suffix_cons c rest).isInfix
      · rcases List.mem_cons.mp member with rfl | later
        · exact front.isInfix.trans (List.suffix_cons c rest).isInfix
        · exact (others word later).trans (List.suffix_cons c rest).isInfix

theorem infix_of_mem_words {text word : List Char} (member : word ∈ words text) :
    word <:+: text := by
  obtain ⟨front, others⟩ := foldr_wordStep_infix text
  unfold words at member
  dsimp only at member
  split at member
  · exact others word member
  · rcases List.mem_cons.mp member with rfl | later
    · exact front.isInfix
    · exact others word later

theorem foldr_wordStep_blank {c : Char} (blank : isBlank c = true) (rest : List Char) :
    (c :: rest).foldr wordStep ([], []) = ([], words rest) := by
  simp only [List.foldr_cons, wordStep, blank, if_true, words]

theorem foldr_wordStep_solid {word : List Char} (solid : IsSolid word) (rest : List Char) :
    (word ++ rest).foldr wordStep ([], []) =
      (word ++ (rest.foldr wordStep ([], [])).1, (rest.foldr wordStep ([], [])).2) := by
  induction word with
  | nil => rfl
  | cons c word ih =>
    have isSolid : isBlank c = false := solid c (by simp)
    have others : IsSolid word := fun d member => solid d (by simp [member])
    rw [List.cons_append, List.foldr_cons, ih others]
    simp [wordStep, isSolid]

theorem words_solid_blank {word : List Char} (solid : IsSolid word) (notEmpty : word ≠ [])
    {c : Char} (blank : isBlank c = true) (rest : List Char) :
    words (word ++ c :: rest) = word :: words rest := by
  have step := foldr_wordStep_solid solid (c :: rest)
  rw [foldr_wordStep_blank blank] at step
  simp [words, step, notEmpty]

theorem takeWhile_of_not_mem {A : Type} [BEq A] [LawfulBEq A] {mark : A} {text : List A}
    (absent : mark ∉ text) : text.takeWhile (· != mark) = text := by
  rw [List.takeWhile_eq_self_iff]
  intro c member
  simpa using fun isMark : c = mark => absent (isMark ▸ member)

theorem takeWhile_append_mark {A : Type} [BEq A] [LawfulBEq A] {mark : A} {before : List A}
    (absent : mark ∉ before) (after : List A) :
    (before ++ mark :: after).takeWhile (· != mark) = before := by
  have whole := takeWhile_of_not_mem absent
  rw [List.takeWhile_append, whole, if_pos rfl, List.takeWhile_cons_of_neg (by simp),
    List.append_nil]

theorem cutAt?_of_not_mem {mark : Char} {text : List Char} (absent : mark ∉ text) :
    cutAt? mark text = none := by
  induction text with
  | nil => rfl
  | cons c text ih =>
    obtain ⟨other, later⟩ := List.ne_and_not_mem_of_not_mem_cons absent
    simp [cutAt?, other.symm, ih later]

theorem cutAt?_append {mark : Char} {before : List Char} (absent : mark ∉ before)
    (after : List Char) : cutAt? mark (before ++ mark :: after) = some (before, after) := by
  induction before with
  | nil => simp [cutAt?]
  | cons c before ih =>
    obtain ⟨other, later⟩ := List.ne_and_not_mem_of_not_mem_cons absent
    simp [cutAt?, other.symm, ih later]

theorem fields_of_not_mem {mark : Char} {text : List Char} (absent : mark ∉ text) :
    fields mark text = [text] := by
  induction text with
  | nil => rfl
  | cons c text ih =>
    obtain ⟨other, later⟩ := List.ne_and_not_mem_of_not_mem_cons absent
    simp [fields, other.symm, ih later]

theorem fields_append {mark : Char} {before : List Char} (absent : mark ∉ before)
    (after : List Char) : fields mark (before ++ mark :: after) = before :: fields mark after := by
  induction before with
  | nil => simp [fields]
  | cons c before ih =>
    obtain ⟨other, later⟩ := List.ne_and_not_mem_of_not_mem_cons absent
    simp [fields, other.symm, ih later]

theorem head?_fields (mark : Char) (text : List Char) :
    (fields mark text).head? = some (text.takeWhile (· != mark)) := by
  induction text with
  | nil => rfl
  | cons c rest ih =>
    unfold fields
    by_cases isMark : c = mark
    · simp [isMark]
    · rw [if_neg isMark, List.takeWhile_cons_of_pos (by simpa using isMark)]
      split
      · next first others cut =>
        rw [cut, List.head?_cons, Option.some.injEq] at ih
        rw [List.head?_cons, ih]
      · next cut =>
        rw [cut] at ih
        cases ih

/-- Of a text without the blanks at its end, the first part is the same but for blanks. -/
theorem trim_takeWhile_trimEnd (mark : Char) (text : List Char) :
    trim ((trimEnd text).takeWhile (· != mark)) = trim (text.takeWhile (· != mark)) := by
  have split : trimEnd text ++ text.rtakeWhile isBlank = text := by
    rw [trimEnd_eq_rdropWhile, List.rdropWhile_append_rtakeWhile]
  have blank : IsGap ((text.rtakeWhile isBlank).takeWhile (· != mark)) := fun c member =>
    List.mem_rtakeWhile_imp ((List.takeWhile_prefix _).subset member)
  conv => rhs; rw [← split, List.takeWhile_append]
  split
  · -- No mark stands before the blanks.
    next whole =>
    have kept : (trimEnd text).takeWhile (· != mark) = trimEnd text :=
      (List.takeWhile_prefix _).eq_of_length whole
    rw [kept, trim_append_gap _ blank]
  · rfl

theorem contains_iff_isInfix (part text : List Char) :
    contains part text = true ↔ part <:+: text := by
  induction text with
  | nil => simp [contains]
  | cons c rest ih =>
    simp only [contains, Bool.or_eq_true, List.isPrefixOf_iff_prefix, ih, List.infix_cons_iff]

end ServerProbe.Text
