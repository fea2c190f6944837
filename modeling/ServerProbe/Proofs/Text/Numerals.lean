import ServerProbe.Text.Blank
import ServerProbe.Text.Numeral

/-! Numerals read back as the numbers they were written for.

The digits may have leading zeros, and letters among them either case. What
stands in a numeral is never blank and never a sign or a separator.
-/

set_option autoImplicit false

namespace ServerProbe.Text

theorem digitValue?_digitChar {base digit : Nat} (small : digit < base) (fits : base ≤ 16) :
    digitValue? base (Nat.digitChar digit) = some digit := by
  have known : ∀ base < 17, ∀ digit < base,
      digitValue? base (Nat.digitChar digit) = some digit := by decide
  exact known base (by omega) digit small

/-- The sixteen digits have the same value in both cases, and no other letter becomes a digit. -/
theorem digitValue?_toLower (c : Char) : digitValue? 16 c.toLower = digitValue? 16 c := by
  by_cases upper : 65 ≤ c.toNat ∧ c.toNat ≤ 90
  · have known : ∀ place < 26, digitValue? 16 (Char.ofNat (65 + place)).toLower =
        digitValue? 16 (Char.ofNat (65 + place)) := by decide
    have letter : Char.ofNat (65 + (c.toNat - 65)) = c := by
      rw [Nat.add_sub_cancel' upper.1, Char.ofNat_toNat]
    have same := known (c.toNat - 65) (by omega)
    rwa [letter] at same
  · have kept : c.toLower = c := dif_neg upper
    rw [kept]

theorem natOfDigitsFrom?_append (base value : Nat) (front back : List Char) :
    natOfDigitsFrom? base value (front ++ back) =
      (natOfDigitsFrom? base value front).bind fun next => natOfDigitsFrom? base next back := by
  induction front generalizing value with
  | nil => rfl
  | cons c front ih =>
    cases digit : digitValue? base c with
    | none => simp [natOfDigitsFrom?, digit]
    | some known => simp [natOfDigitsFrom?, digit, ih]

theorem natOfDigitsFrom?_toDigits {base : Nat} (proper : 1 < base) (fits : base ≤ 16)
    (value : Nat) : natOfDigitsFrom? base 0 (Nat.toDigits base value) = some value := by
  induction value using Nat.strongRecOn with
  | _ value ih =>
    rw [Nat.toDigits_eq_if proper]
    split
    · next small => simp [natOfDigitsFrom?, digitValue?_digitChar small fits]
    · next large =>
      have positive : 0 < value := by omega
      have lastDigit : value % base < base := Nat.mod_lt _ (by omega)
      -- The last digit comes off; the others are the numeral of the quotient.
      rw [natOfDigitsFrom?_append, ih _ (Nat.div_lt_self positive proper)]
      simp [natOfDigitsFrom?, digitValue?_digitChar lastDigit fits, Nat.div_add_mod']

theorem natOfDigitsFrom?_zeros {base : Nat} (positive : 0 < base) (count : Nat)
    (digits : List Char) :
    natOfDigitsFrom? base 0 (List.replicate count '0' ++ digits) =
      natOfDigitsFrom? base 0 digits := by
  have zero : digitValue? base '0' = some 0 := by
    simp [digitValue?, positive]
  induction count with
  | zero => rfl
  | succ count ih => simpa [List.replicate_succ, natOfDigitsFrom?, zero] using ih

theorem natOfDigitsFrom?_toLower (value : Nat) (digits : List Char) :
    natOfDigitsFrom? 16 value (digits.map Char.toLower) = natOfDigitsFrom? 16 value digits := by
  induction digits generalizing value with
  | nil => rfl
  | cons c digits ih => simp only [List.map_cons, natOfDigitsFrom?, digitValue?_toLower, ih]

theorem isDigit_of_natOfDigitsFrom? {base start value : Nat} {digits : List Char}
    (read : natOfDigitsFrom? base start digits = some value) :
    ∀ c ∈ digits, ∃ digit, digitValue? base c = some digit := by
  induction digits generalizing start with
  | nil => simp
  | cons c digits ih =>
    cases known : digitValue? base c with
    | none => simp [natOfDigitsFrom?, known] at read
    | some digit =>
      simp only [natOfDigitsFrom?, known] at read
      intro d member
      rcases List.mem_cons.mp member with rfl | later
      · exact ⟨digit, known⟩
      · exact ih read d later

theorem isDigit_of_mem_toString {value : Nat} {c : Char} (member : c ∈ (toString value).toList) :
    ∃ digit, digitValue? 10 c = some digit := by
  rw [show (toString value).toList = Nat.toDigits 10 value from Nat.toList_repr] at member
  have read := natOfDigitsFrom?_toDigits (by decide : 1 < 10) (by decide) value
  exact isDigit_of_natOfDigitsFrom? read c member

/-- Digits of every base lie in three ranges, where nothing but letters and digits stands. -/
theorem range_of_digitValue? {base digit : Nat} {c : Char} (fits : base ≤ 16)
    (known : digitValue? base c = some digit) :
    (48 ≤ c.toNat ∧ c.toNat ≤ 57) ∨ (97 ≤ c.toNat ∧ c.toNat ≤ 102) ∨
      (65 ≤ c.toNat ∧ c.toNat ≤ 70) := by
  unfold digitValue? at known
  dsimp only at known
  by_cases decimal : '0' ≤ c ∧ c ≤ '9'
  · exact Or.inl decimal
  by_cases lower : 'a' ≤ c ∧ c ≤ 'f'
  · exact Or.inr (Or.inl lower)
  by_cases upper : 'A' ≤ c ∧ c ≤ 'F'
  · exact Or.inr (Or.inr upper)
  rw [if_neg decimal, if_neg lower, if_neg upper, if_neg (by omega)] at known
  cases known

theorem not_isBlank_of_digitValue? {base digit : Nat} {c : Char} (fits : base ≤ 16)
    (known : digitValue? base c = some digit) : isBlank c = false := by
  have range := range_of_digitValue? fits known
  simp only [isBlank, Bool.or_eq_false_iff, Bool.and_eq_false_iff, decide_eq_false_iff_not,
    beq_eq_false_iff_ne]
  omega

theorem le_of_natOfDigitsFrom? {base start value : Nat} {digits : List Char} (positive : 0 < base)
    (read : natOfDigitsFrom? base start digits = some value) : start ≤ value := by
  induction digits generalizing start with
  | nil =>
    cases read
    exact Nat.le_refl _
  | cons c digits ih =>
    cases known : digitValue? base c with
    | none => simp [natOfDigitsFrom?, known] at read
    | some digit =>
      simp only [natOfDigitsFrom?, known] at read
      have small := ih read
      have larger := Nat.le_mul_of_pos_right start positive
      omega

theorem natOfDigits?_eq_some_iff {base value : Nat} {digits : List Char} :
    natOfDigits? base digits = some value ↔
      digits ≠ [] ∧ natOfDigitsFrom? base 0 digits = some value := by
  cases digits <;> simp [natOfDigits?]

theorem le_of_natOfDigits? {base smaller larger : Nat} {front text : List Char}
    (positive : 0 < base) (starts : front <+: text) (first : natOfDigits? base front = some smaller)
    (whole : natOfDigits? base text = some larger) : smaller ≤ larger := by
  obtain ⟨more, rfl⟩ := starts
  obtain ⟨-, readFront⟩ := natOfDigits?_eq_some_iff.mp first
  obtain ⟨-, read⟩ := natOfDigits?_eq_some_iff.mp whole
  rw [natOfDigitsFrom?_append, readFront, Option.bind_some] at read
  exact le_of_natOfDigitsFrom? positive read

/-- The digits of a numeral, without a plus sign in front. -/
def digitsOf : List Char → List Char
  | '+' :: rest => rest
  | text => text

theorem digitsOf_of_ne {c : Char} (noSign : c ≠ '+') (rest : List Char) :
    digitsOf (c :: rest) = c :: rest := by
  unfold digitsOf
  split
  · next plus => exact absurd (List.cons.inj plus).1 noSign
  · rfl

theorem unsigned?_eq_filter (base limit : Nat) (text : List Char) :
    unsigned? base limit text = (natOfDigits? base (digitsOf text)).filter (· < limit) := by
  cases text with
  | nil => rfl
  | cons c rest =>
    by_cases sign : c = '+'
    · rw [sign]
      rfl
    · rw [digitsOf_of_ne sign]
      unfold unsigned?
      split
      · next plus => exact absurd (List.cons.inj plus).1 sign
      · rfl

theorem unsigned?_eq_some_iff {base limit value : Nat} {text : List Char} :
    unsigned? base limit text = some value ↔
      natOfDigits? base (digitsOf text) = some value ∧ value < limit := by
  rw [unsigned?_eq_filter, Option.filter_eq_some_iff, decide_eq_true_iff]

theorem digitsOf_isPrefix {front text : List Char} (starts : front <+: text)
    (notEmpty : front ≠ []) : digitsOf front <+: digitsOf text := by
  obtain ⟨more, rfl⟩ := starts
  cases front with
  | nil => exact absurd rfl notEmpty
  | cons c front =>
    rw [List.cons_append]
    by_cases sign : c = '+'
    · rw [sign]
      exact List.prefix_append front more
    · rw [digitsOf_of_ne sign, digitsOf_of_ne sign]
      exact List.prefix_append (c :: front) more

/-- A beginning of a numeral is no larger number. -/
theorem le_of_unsigned? {base limit smaller larger : Nat} {front text : List Char}
    (positive : 0 < base) (starts : front <+: text)
    (first : unsigned? base limit front = some smaller)
    (whole : unsigned? base limit text = some larger) : smaller ≤ larger := by
  have readFront := (unsigned?_eq_some_iff.mp first).1
  have read := (unsigned?_eq_some_iff.mp whole).1
  have notEmpty : front ≠ [] := by
    rintro rfl
    cases readFront
  exact le_of_natOfDigits? positive (digitsOf_isPrefix starts notEmpty) readFront read

/-- The first digit of the text is a zero, which may have a sign in front. -/
def LeadsWithZero (text : List Char) : Prop := (digitsOf text).head? = some '0'

instance (text : List Char) : Decidable (LeadsWithZero text) :=
  inferInstanceAs (Decidable ((digitsOf text).head? = some '0'))

theorem eq_zero_of_digitValue? {base : Nat} {c : Char} (known : digitValue? base c = some 0) :
    c = '0' := by
  unfold digitValue? at known
  dsimp only at known
  rw [Option.ite_none_right_eq_some, Option.some.injEq] at known
  obtain ⟨-, isZero⟩ := known
  by_cases decimal : '0' ≤ c ∧ c ≤ '9'
  · have low : '0'.toNat ≤ c.toNat := decimal.1
    rw [if_pos decimal] at isZero
    exact Char.toNat_inj.mp (by omega)
  -- Letters are worth ten and more.
  · rw [if_neg decimal] at isZero
    split at isZero
    · omega
    · split at isZero <;> omega

theorem leadsWithZero_of_unsigned? {base limit : Nat} {text : List Char} (positive : 0 < base)
    (read : unsigned? base limit text = some 0) : LeadsWithZero text := by
  obtain ⟨notEmpty, digits⟩ := natOfDigits?_eq_some_iff.mp (unsigned?_eq_some_iff.mp read).1
  rw [LeadsWithZero]
  cases split : digitsOf text with
  | nil => exact absurd split notEmpty
  | cons c rest =>
    rw [split] at digits
    cases known : digitValue? base c with
    | none => simp [natOfDigitsFrom?, known] at digits
    | some digit =>
      simp only [natOfDigitsFrom?, known] at digits
      -- A first digit that is no zero would make the number at least as large.
      have small := le_of_natOfDigitsFrom? positive digits
      obtain rfl : digit = 0 := by omega
      rw [eq_zero_of_digitValue? known]
      rfl

theorem LeadsWithZero.mono {front text : List Char} (zero : LeadsWithZero front)
    (starts : front <+: text) : LeadsWithZero text := by
  have notEmpty : front ≠ [] := by
    rintro rfl
    cases zero
  obtain ⟨more, whole⟩ := digitsOf_isPrefix starts notEmpty
  rw [LeadsWithZero] at zero ⊢
  rw [← whole, List.head?_append, zero]
  rfl

theorem LeadsWithZero.exists_zero {text : List Char} (zero : LeadsWithZero text) :
    ∃ sign, (sign = [] ∨ sign = ['+']) ∧ sign ++ ['0'] <+: text := by
  rw [LeadsWithZero, List.head?_eq_some_iff] at zero
  obtain ⟨rest, digits⟩ := zero
  unfold digitsOf at digits
  split at digits
  · exact ⟨['+'], Or.inr rfl, rest, by rw [digits]; rfl⟩
  · exact ⟨[], Or.inl rfl, rest, by rw [digits]; rfl⟩

theorem unsigned?_of_digits {base limit value : Nat} {digits : List Char} (fits : base ≤ 16)
    (notEmpty : digits ≠ []) (read : natOfDigitsFrom? base 0 digits = some value)
    (inRange : value < limit) : unsigned? base limit digits = some value := by
  have unsignedDigits : ∀ rest, digits ≠ '+' :: rest := by
    intro rest same
    obtain ⟨digit, known⟩ := isDigit_of_natOfDigitsFrom? read '+' (by simp [same])
    have range := range_of_digitValue? fits known
    simp at range
  unfold unsigned?
  split
  · next rest => exact absurd rfl (unsignedDigits rest)
  · simp [natOfDigits?, notEmpty, read, inRange]

theorem natOfDigits?_toString (value : Nat) :
    natOfDigits? 10 (toString value).toList = some value := by
  rw [show (toString value).toList = Nat.toDigits 10 value from Nat.toList_repr]
  simp [natOfDigits?, natOfDigitsFrom?_toDigits]

theorem unsigned?_toString {limit value : Nat} (inRange : value < limit) :
    unsigned? 10 limit (toString value).toList = some value := by
  have digits : (toString value).toList = Nat.toDigits 10 value := Nat.toList_repr
  rw [digits]
  exact unsigned?_of_digits (by decide) Nat.toDigits_ne_nil
    (natOfDigitsFrom?_toDigits (by decide) (by decide) value) inRange

theorem signed?_toString {limit : Nat} {value : Int} (low : -(limit : Int) ≤ value)
    (high : value < limit) : signed? limit (toString value).toList = some value := by
  cases value with
  | ofNat value =>
    have inRange : value < limit := Int.ofNat_lt.mp high
    -- No digit is a sign.
    have noSign : ∀ rest, (toString value).toList ≠ '-' :: rest := by
      intro rest same
      have member : '-' ∈ (toString value).toList := by
        rw [same]
        exact List.mem_cons_self
      obtain ⟨digit, known⟩ := isDigit_of_mem_toString member
      have range := range_of_digitValue? (by decide) known
      simp at range
    rw [show toString (Int.ofNat value) = toString value from rfl]
    unfold signed?
    split
    · next rest same => exact absurd same (noSign rest)
    · rw [unsigned?_toString inRange]
      rfl
  | negSucc value =>
    have inRange : value + 1 ≤ limit := by omega
    have minus : (toString (Int.negSucc value)).toList = '-' :: (toString (value + 1)).toList := by
      rw [show toString (Int.negSucc value) = "-" ++ toString (value + 1) from rfl,
        String.toList_append]
      rfl
    rw [minus]
    simp only [signed?, natOfDigits?_toString, Option.filter_some, inRange, decide_true, if_true]
    rfl

/-- The digits are the hexadecimal numeral of a number, with letters of either case and perhaps
with zeros in front. -/
def SpellsHex (digits : List Char) (value : Nat) : Prop :=
  ∃ zeros, digits.map Char.toLower = List.replicate zeros '0' ++ Nat.toDigits 16 value

namespace SpellsHex

variable {digits : List Char} {value : Nat}

theorem ne_nil (spells : SpellsHex digits value) : digits ≠ [] := by
  obtain ⟨zeros, same⟩ := spells
  rintro rfl
  simp at same

theorem natOfDigitsFrom? (spells : SpellsHex digits value) :
    Text.natOfDigitsFrom? 16 0 digits = some value := by
  obtain ⟨zeros, same⟩ := spells
  rw [← natOfDigitsFrom?_toLower, same, natOfDigitsFrom?_zeros (by decide),
    natOfDigitsFrom?_toDigits (by decide) (by decide)]

theorem unsigned? {limit : Nat} (spells : SpellsHex digits value) (inRange : value < limit) :
    Text.unsigned? 16 limit digits = some value :=
  unsigned?_of_digits (by decide) spells.ne_nil spells.natOfDigitsFrom? inRange

theorem range (spells : SpellsHex digits value) {c : Char} (member : c ∈ digits) :
    isBlank c = false ∧ c ≠ '\n' ∧ c ≠ ';' := by
  obtain ⟨digit, known⟩ := isDigit_of_natOfDigitsFrom? spells.natOfDigitsFrom? c member
  have range := range_of_digitValue? (by decide) known
  refine ⟨not_isBlank_of_digitValue? (by decide) known, ?_, ?_⟩ <;>
    (rintro rfl; simp at range)

end SpellsHex

end ServerProbe.Text
