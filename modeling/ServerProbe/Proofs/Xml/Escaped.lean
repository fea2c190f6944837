import ServerProbe.Proofs.Xml.Leaves

/-! Which texts are escaped ones.

An escaped text has none of the characters that entities stand for, but for the
ampersands with which the entities begin. Every text of this form is the escaped
form of exactly one text, the one that its entities spell from left to right.
-/

set_option autoImplicit false

namespace ServerProbe.Xml

def entities : List (List Char) :=
  ["&amp;", "&lt;", "&gt;", "&quot;", "&apos;"].map String.toList

/-- A text without raw brackets and quotes in which every ampersand begins an entity. -/
structure IsEscaped (text : List Char) : Prop where
  noRaw : ∀ c ∈ text, c ≠ '<' ∧ c ≠ '>' ∧ c ≠ '"' ∧ c ≠ '\''
  begun : ∀ rest, '&' :: rest <:+ text → ∃ entity ∈ entities, entity <+: '&' :: rest

namespace IsEscaped

theorem nil : IsEscaped [] where
  noRaw := by simp
  begun := by simp

theorem of_append (front : List Char) {back : List Char} (escaped : IsEscaped (front ++ back)) :
    IsEscaped back where
  noRaw := fun c member => escaped.noRaw c (List.mem_append_right front member)
  begun := fun rest inBack => escaped.begun rest (inBack.trans (List.suffix_append front back))

theorem append {front back : List Char}
    (plain : ∀ c ∈ front, c ≠ '&' ∧ c ≠ '<' ∧ c ≠ '>' ∧ c ≠ '"' ∧ c ≠ '\'')
    (escaped : IsEscaped back) : IsEscaped (front ++ back) := by
  induction front with
  | nil => exact escaped
  | cons c front ih =>
    obtain ⟨⟨noAmpersand, noRaw⟩, others⟩ := List.forall_mem_cons.mp plain
    have later := ih others
    refine ⟨List.forall_mem_cons.mpr ⟨noRaw, later.noRaw⟩, fun rest inText => ?_⟩
    rcases List.suffix_cons_iff.mp inText with same | inRest
    · exact absurd (List.cons.inj same).1.symm noAmpersand
    · exact later.begun rest inRest

theorem entity (name : List Char) {back : List Char} (known : '&' :: name ∈ entities)
    (plain : ∀ c ∈ name, c ≠ '&' ∧ c ≠ '<' ∧ c ≠ '>' ∧ c ≠ '"' ∧ c ≠ '\'')
    (escaped : IsEscaped back) : IsEscaped ('&' :: (name ++ back)) := by
  have later := append plain escaped
  refine ⟨List.forall_mem_cons.mpr ⟨by decide, later.noRaw⟩, fun rest inText => ?_⟩
  rcases List.suffix_cons_iff.mp inText with same | inRest
  · rw [same]
    exact ⟨_, known, List.prefix_append ('&' :: name) back⟩
  · exact later.begun rest inRest

end IsEscaped

theorem isEscaped_escapedChar (c : Char) {back : List Char} (escaped : IsEscaped back) :
    IsEscaped (escapedChar c ++ back) := by
  unfold escapedChar
  split
  · exact IsEscaped.entity ['a', 'm', 'p', ';'] (by decide) (by simp) escaped
  · exact IsEscaped.entity ['l', 't', ';'] (by decide) (by simp) escaped
  · exact IsEscaped.entity ['g', 't', ';'] (by decide) (by simp) escaped
  · exact IsEscaped.entity ['q', 'u', 'o', 't', ';'] (by decide) (by simp) escaped
  · exact IsEscaped.entity ['a', 'p', 'o', 's', ';'] (by decide) (by simp) escaped
  · next noAmpersand noOpen noClose noQuote noApostrophe =>
    refine IsEscaped.append ?_ escaped
    rw [List.forall_mem_singleton]
    exact ⟨noAmpersand, noOpen, noClose, noQuote, noApostrophe⟩

theorem isEscaped_escape (text : String) : IsEscaped (escape text).toList := by
  rw [escape, String.toList_ofList]
  induction text.toList with
  | nil => exact .nil
  | cons c rest ih =>
    rw [List.flatMap_cons]
    exact isEscaped_escapedChar c ih

/-- The text is read as one of which it is the escaped form. -/
def SpellsText (text : List Char) : Prop :=
  ∃ spelled, unescape? text = some spelled ∧ spelled.flatMap escapedChar = text

theorem SpellsText.cons (c : Char) {rest : List Char} (later : SpellsText rest) :
    SpellsText (escapedChar c ++ rest) := by
  obtain ⟨spelled, undone, same⟩ := later
  refine ⟨c :: spelled, ?_, ?_⟩
  · rw [unescape?_escapedChar, undone, Option.map_some]
  · rw [List.flatMap_cons, same]

theorem IsEscaped.spellsText {text : List Char} (escaped : IsEscaped text) : SpellsText text := by
  fun_induction unescape? text with
  | case1 => exact ⟨[], rfl, rfl⟩
  | case2 rest ih => exact .cons '&' (ih (escaped.of_append "&amp;".toList))
  | case3 rest ih => exact .cons '<' (ih (escaped.of_append "&lt;".toList))
  | case4 rest ih => exact .cons '>' (ih (escaped.of_append "&gt;".toList))
  | case5 rest ih => exact .cons '"' (ih (escaped.of_append "&quot;".toList))
  | case6 rest ih => exact .cons '\'' (ih (escaped.of_append "&apos;".toList))
  | case7 rest noAmp noLt noGt noQuot noApos =>
    -- An ampersand stands here that begins none of the five, which cannot be.
    obtain ⟨entity, known, more, same⟩ := escaped.begun rest List.suffix_rfl
    simp only [entities, List.map_cons, List.map_nil, List.mem_cons, List.not_mem_nil, or_false]
      at known
    rcases known with rfl | rfl | rfl | rfl | rfl
    · exact (noAmp more (List.cons.inj same).2.symm).elim
    · exact (noLt more (List.cons.inj same).2.symm).elim
    · exact (noGt more (List.cons.inj same).2.symm).elim
    · exact (noQuot more (List.cons.inj same).2.symm).elim
    · exact (noApos more (List.cons.inj same).2.symm).elim
  | case8 c rest _ _ _ _ _ noAmpersand ih =>
    obtain ⟨noOpen, noClose, noQuote, noApostrophe⟩ := escaped.noRaw c List.mem_cons_self
    have kept : escapedChar c = [c] := by
      rw [escapedChar] <;> assumption
    have spells := SpellsText.cons c (ih (escaped.of_append [c]))
    rwa [kept] at spells

theorem isEscaped_iff {text : String} :
    IsEscaped text.toList ↔ (textOf? text.toList).map escape = some text := by
  constructor
  · intro escaped
    obtain ⟨spelled, undone, same⟩ := escaped.spellsText
    rw [textOf?, undone, Option.map_some, Option.map_some, escape, String.toList_ofList, same,
      String.ofList_toList]
  · intro spells
    obtain ⟨spelled, -, rfl⟩ := Option.map_eq_some_iff.mp spells
    exact isEscaped_escape spelled

/-- Escaping is undone by reading the five entities from left to right. The escaped texts are those
that have none of the five characters raw, but for ampersands that begin an entity, and each of them
is the escaped form of what it is read as. -/
theorem escape_onto_escaped (text escaped : String) :
    textOf? (escape text).toList = some text ∧
      ((∃ raw, escape raw = escaped) ↔ IsEscaped escaped.toList) ∧
      (IsEscaped escaped.toList ↔ (textOf? escaped.toList).map escape = some escaped) := by
  refine ⟨textOf?_escape text, ⟨?_, fun isEscaped => ?_⟩, isEscaped_iff⟩
  · rintro ⟨raw, rfl⟩
    exact isEscaped_escape raw
  · obtain ⟨raw, -, same⟩ := Option.map_eq_some_iff.mp (isEscaped_iff.mp isEscaped)
    exact ⟨raw, same⟩

end ServerProbe.Xml
