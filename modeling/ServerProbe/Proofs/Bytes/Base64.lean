import ServerProbe.Bytes.Base64

/-! Base-64 reads back as the bytes it was written for.

Three bytes and four digits are the same number of 24 bits. The last group has
fewer digits, and no digit is the padding character.
-/

set_option autoImplicit false

namespace ServerProbe.Bytes

theorem base64Value?_digit {value : Nat} (small : value < 64) :
    base64Value? (base64Digit value) = some value := by
  have known : ∀ value < 64, base64Value? (base64Digit value) = some value := by decide
  exact known value small

/-- What a digit never is: padding, or a character with a meaning in markup. -/
theorem base64Digit_ne {value : Nat} (small : value < 64) :
    base64Digit value ≠ '=' ∧ base64Digit value ≠ '<' ∧ base64Digit value ≠ '&' := by
  have known : ∀ value < 64, base64Digit value ≠ '=' ∧ base64Digit value ≠ '<' ∧
      base64Digit value ≠ '&' := by decide
  exact known value small

theorem ofNat_eq (byte : UInt8) {value : Nat} (same : value = byte.toNat) :
    UInt8.ofNat value = byte := by
  rw [same, UInt8.ofNat_toNat]

theorem ofBase64Chars?_group {a b c d : Nat} (smallA : a < 64) (smallB : b < 64) (smallC : c < 64)
    (smallD : d < 64) (rest : List Char) :
    ofBase64Chars? (base64Digit a :: base64Digit b :: base64Digit c :: base64Digit d :: rest) =
      (ofBase64Chars? rest).map fun bytes =>
        let bits := ((a * 64 + b) * 64 + c) * 64 + d
        UInt8.ofNat (bits / 65536) :: UInt8.ofNat (bits / 256 % 256) ::
          UInt8.ofNat (bits % 256) :: bytes := by
  have notPadding := (base64Digit_ne smallD).1
  rw [ofBase64Chars?]
  · simp only [base64Value?_digit, smallA, smallB, smallC, smallD, Option.bind_eq_bind,
      Option.bind_some]
    cases ofBase64Chars? rest <;> rfl
  · intro _ isPadding _
    exact notPadding isPadding
  · intro isPadding _
    exact notPadding isPadding

theorem ofBase64Chars?_base64Chars (bytes : List UInt8) :
    ofBase64Chars? (base64Chars bytes) = some bytes := by
  fun_induction base64Chars bytes with
  | case1 => rfl
  | case2 a bits =>
    have inRange := a.toNat_lt
    have first := base64Value?_digit (show bits / 64 < 64 by omega)
    have second := base64Value?_digit (show bits % 64 < 64 by omega)
    have back : UInt8.ofNat ((bits / 64 * 64 + bits % 64) / 16) = a := ofNat_eq a (by omega)
    rw [ofBase64Chars?]
    simp [first, second, back]
  | case3 a b bits =>
    have inRangeA := a.toNat_lt
    have inRangeB := b.toNat_lt
    have first := base64Value?_digit (show bits / 4096 < 64 by omega)
    have second := base64Value?_digit (show bits / 64 % 64 < 64 by omega)
    have third := base64Value?_digit (show bits % 64 < 64 by omega)
    have notPadding := (base64Digit_ne (show bits % 64 < 64 by omega)).1
    have whole : (bits / 4096 * 64 + bits / 64 % 64) * 64 + bits % 64 = bits := by omega
    have backA : UInt8.ofNat (bits / 1024) = a := ofNat_eq a (by omega)
    have backB : UInt8.ofNat (bits / 4 % 256) = b := ofNat_eq b (by omega)
    rw [ofBase64Chars?]
    · simp [first, second, third, whole, backA, backB]
    · exact notPadding
  | case4 a b c rest bits ih =>
    have inRangeA := a.toNat_lt
    have inRangeB := b.toNat_lt
    have inRangeC := c.toNat_lt
    rw [ofBase64Chars?_group (by omega) (by omega) (by omega) (by omega), ih]
    -- The four digits are one number of 24 bits again.
    have whole : ((bits / 262144 * 64 + bits / 4096 % 64) * 64 + bits / 64 % 64) * 64 +
        bits % 64 = bits := by omega
    simp only [Option.map_some, whole]
    rw [ofNat_eq a (by omega), ofNat_eq b (by omega), ofNat_eq c (by omega)]

end ServerProbe.Bytes
