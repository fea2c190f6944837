import ServerProbe.Proofs.Bytes.Base64
import ServerProbe.Proofs.Text.Numerals
import ServerProbe.Proofs.Xml.Document

/-! The texts of elements, read back.

Escaped text keeps clear of markup, and its entities stand for what they
replaced. Numbers, times and base-64 keep clear of markup without escaping.
-/

set_option autoImplicit false

namespace ServerProbe.Xml

theorem unescape?_cons {c : Char} (plain : c ≠ '&') (rest : List Char) :
    unescape? (c :: rest) = (unescape? rest).map (c :: ·) := by
  rw [unescape?] <;> simp [plain]

theorem unescape?_escapedChar (c : Char) (rest : List Char) :
    unescape? (escapedChar c ++ rest) = (unescape? rest).map (c :: ·) := by
  unfold escapedChar
  split
  · rfl
  · rfl
  · rfl
  · rfl
  · rfl
  · next plain _ _ _ _ => exact unescape?_cons plain rest

theorem textOf?_escape (text : String) : textOf? (escape text).toList = some text := by
  have undone : unescape? (escape text).toList = some text.toList := by
    rw [escape, String.toList_ofList]
    induction text.toList with
    | nil => rfl
    | cons c rest ih => rw [List.flatMap_cons, unescape?_escapedChar, ih, Option.map_some]
  rw [textOf?, undone, Option.map_some, String.ofList_toList]

theorem open_not_mem_escapedChar (c : Char) : '<' ∉ escapedChar c := by
  unfold escapedChar
  split
  · decide
  · decide
  · decide
  · decide
  · decide
  · next _ other _ _ _ =>
    intro member
    exact other (List.mem_singleton.mp member).symm

theorem open_not_mem_escape (text : String) : '<' ∉ (escape text).toList := by
  rw [escape, String.toList_ofList, List.mem_flatMap]
  rintro ⟨c, -, member⟩
  exact open_not_mem_escapedChar c member

def IsPlain (text : List Char) : Prop := ∀ c ∈ text, c ≠ '<' ∧ c ≠ '&'

instance (text : List Char) : Decidable (IsPlain text) :=
  List.decidableBAll (fun c => c ≠ '<' ∧ c ≠ '&') text

namespace IsPlain

theorem append {front back : List Char} (first : IsPlain front) (second : IsPlain back) :
    IsPlain (front ++ back) := fun c member =>
  (List.mem_append.mp member).elim (first c) (second c)

theorem subset {part text : List Char} (plain : IsPlain text) (inside : part ⊆ text) :
    IsPlain part := fun c member => plain c (inside member)

theorem open_not_mem {text : List Char} (plain : IsPlain text) : '<' ∉ text :=
  fun member => (plain '<' member).1 rfl

theorem unescape? {text : List Char} (plain : IsPlain text) : unescape? text = some text := by
  induction text with
  | nil => rfl
  | cons c rest ih =>
    have later : IsPlain rest := fun d member => plain d (List.mem_cons_of_mem c member)
    rw [unescape?_cons (plain c List.mem_cons_self).2, ih later, Option.map_some]

theorem textOf? {text : String} (plain : IsPlain text.toList) :
    textOf? text.toList = some text := by
  rw [Xml.textOf?, plain.unescape?, Option.map_some, String.ofList_toList]

end IsPlain

theorem isPlain_nat (value : Nat) : IsPlain (toString value).toList := by
  intro c member
  obtain ⟨digit, known⟩ := Text.isDigit_of_mem_toString member
  have range := Text.range_of_digitValue? (by decide) known
  constructor <;> (rintro rfl; simp at range)

theorem isPlain_replicate (count : Nat) : IsPlain (List.replicate count '0') := by
  intro c member
  rw [List.eq_of_mem_replicate member]
  decide

theorem isPlain_padded (width value : Nat) : IsPlain (Text.padded width value).toList := by
  rw [Text.padded, String.toList_append, String.toList_ofList]
  exact (isPlain_replicate _).append (isPlain_nat value)

theorem isPlain_signText (negative : Bool) : IsPlain (signText negative).toList := by
  cases negative <;> decide

theorem isPlain_decimal (value : Decimal) : IsPlain (value.positional "").toList := by
  have digits := isPlain_nat value.digits
  unfold Decimal.positional
  dsimp only
  split
  · rw [String.append_empty, String.toList_append]
    exact digits.append (by rw [zeros, String.toList_ofList]; exact isPlain_replicate _)
  · split
    · simp only [String.toList_append, String.toList_ofList]
      exact ((digits.subset (List.take_subset ..)).append (by decide)).append
        (digits.subset (List.drop_subset ..))
    · simp only [String.toList_append, zeros, String.toList_ofList]
      exact (IsPlain.append (by decide) (isPlain_replicate _)).append digits

theorem isPlain_double (value : Binary64) : IsPlain value.positional.toList := by
  unfold Binary64.positional
  cases value.shape with
  | nan => decide
  | infinite negative =>
    rw [String.toList_append]
    exact (isPlain_signText negative).append (by decide)
  | finite negative mantissa exponent =>
    rw [String.toList_append]
    exact (isPlain_signText negative).append (isPlain_decimal _)

theorem isPlain_yearText (year : Int) : IsPlain (CivilTime.yearText year).toList := by
  unfold CivilTime.yearText
  split
  · exact isPlain_padded 4 _
  · rw [String.toList_append]
    refine IsPlain.append ?_ (isPlain_padded 4 _)
    split <;> decide

theorem isPlain_dateTime (time : CivilTime) : IsPlain time.compact.toList := by
  have mark : IsPlain "T".toList ∧ IsPlain ":".toList := by decide
  unfold CivilTime.compact
  simp only [String.toList_append]
  exact (((((((isPlain_yearText _).append (isPlain_padded 2 _)).append (isPlain_padded 2 _)).append
    mark.1).append (isPlain_padded 2 _)).append mark.2).append (isPlain_padded 2 _)).append mark.2
      |>.append (isPlain_padded 2 _)

theorem isPlain_digit {value : Nat} (small : value < 64) {rest : List Char}
    (later : IsPlain rest) : IsPlain (Bytes.base64Digit value :: rest) := by
  intro c member
  rcases List.mem_cons.mp member with rfl | member
  · exact (Bytes.base64Digit_ne small).2
  · exact later c member

theorem isPlain_base64 (bytes : List UInt8) : IsPlain (Bytes.base64 bytes).toList := by
  rw [Bytes.base64, String.toList_ofList]
  fun_induction Bytes.base64Chars bytes with
  | case1 => decide
  | case2 a bits =>
    have inRange := a.toNat_lt
    exact isPlain_digit (by omega) (isPlain_digit (by omega) (by decide))
  | case3 a b bits =>
    have inRangeA := a.toNat_lt
    have inRangeB := b.toNat_lt
    exact isPlain_digit (by omega) (isPlain_digit (by omega) (isPlain_digit (by omega) (by decide)))
  | case4 a b c rest bits ih =>
    have inRangeA := a.toNat_lt
    have inRangeB := b.toNat_lt
    have inRangeC := c.toNat_lt
    exact isPlain_digit (by omega) (isPlain_digit (by omega) (isPlain_digit (by omega)
      (isPlain_digit (by omega) ih)))

theorem isPlain_int (value : Int) : IsPlain (toString value).toList := by
  cases value with
  | ofNat value => exact isPlain_nat value
  | negSucc value =>
    rw [show toString (Int.negSucc value) = "-" ++ toString (value + 1) from rfl,
      String.toList_append]
    exact IsPlain.append (by decide) (isPlain_nat _)

theorem leafOf?_int (value : Int32) :
    leafOf? "int" (toString value.toInt).toList = some (.int value) := by
  have read : Text.signed? 0x80000000 (toString value.toInt).toList = some value.toInt :=
    Text.signed?_toString value.le_toInt value.toInt_lt
  rw [leafOf?, read, Option.map_some, Int32.ofInt_toInt]

theorem leafOf?_boolean (value : Bool) :
    leafOf? "boolean" (if value then "1" else "0").toList = some (.boolean value) := by
  cases value <;> rfl

theorem leafOf?_double (value : Binary64) :
    leafOf? "double" value.positional.toList = some (.double value.positional) := by
  rw [leafOf?, (isPlain_double value).textOf?, Option.map_some]

theorem leafOf?_string (text : String) :
    leafOf? "string" (escape text).toList = some (.string text) := by
  rw [leafOf?, textOf?_escape, Option.map_some]

theorem leafOf?_base64 (bytes : List UInt8) :
    leafOf? "base64" (Bytes.base64 bytes).toList = some (.base64 bytes) := by
  rw [leafOf?, Bytes.base64, String.toList_ofList, Bytes.ofBase64Chars?_base64Chars,
    Option.map_some]

theorem leafOf?_dateTime (time : CivilTime) :
    leafOf? "dateTime.iso8601" time.compact.toList = some (.dateTime time.compact) := by
  rw [leafOf?, (isPlain_dateTime time).textOf?, Option.map_some]

end ServerProbe.Xml
