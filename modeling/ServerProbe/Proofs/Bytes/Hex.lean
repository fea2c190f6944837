import ServerProbe.Bytes.Hex
import ServerProbe.Proofs.Text.Numerals

/-! Bytes in hexadecimal read back, and every even number of digits is some bytes. -/

set_option autoImplicit false

namespace ServerProbe

namespace Text

theorem digitValue?_hexDigit {value : Nat} (small : value < 16) :
    digitValue? 16 (hexDigit value) = some value := by
  have known : ∀ value < 16, digitValue? 16 (hexDigit value) = some value := by decide
  exact known value small

theorem ascii_of_digitValue? {c : Char} {value : Nat} (known : digitValue? 16 c = some value) :
    c.toNat < 128 := by
  have range := range_of_digitValue? (Nat.le_refl 16) known
  omega

theorem digitValue?_lt {c : Char} {value : Nat} (known : digitValue? 16 c = some value) :
    value < 16 := by
  unfold digitValue? at known
  dsimp only at known
  generalize (if '0' ≤ c ∧ c ≤ '9' then _ else _ : Nat) = found at known
  split at known
  · next small =>
    cases known
    exact small
  · cases known

theorem hexDigit_of_digitValue? {c : Char} {value : Nat}
    (known : digitValue? 16 c = some value) : hexDigit value = c.toLower := by
  have table : ∀ code < 128, ∀ value < 16, digitValue? 16 (Char.ofNat code) = some value →
      hexDigit value = (Char.ofNat code).toLower := by decide
  have found := table c.toNat (ascii_of_digitValue? known) value (digitValue?_lt known)
  rw [Char.ofNat_toNat] at found
  exact found known

end Text

namespace Bytes

open Text

theorem ofHexDigits?_hexPairs (bytes : List UInt8) :
    ofHexDigits? (bytes.flatMap hexPair) = some bytes := by
  induction bytes with
  | nil => rfl
  | cons byte rest ih =>
    have small : byte.toNat < 256 := byte.toNat_lt
    have high : digitValue? 16 (hexDigit (byte.toNat / 16)) = some (byte.toNat / 16) :=
      digitValue?_hexDigit (by omega)
    have low : digitValue? 16 (hexDigit (byte.toNat % 16)) = some (byte.toNat % 16) :=
      digitValue?_hexDigit (by omega)
    have whole : UInt8.ofNat (16 * (byte.toNat / 16) + byte.toNat % 16) = byte := by
      rw [Nat.div_add_mod, UInt8.ofNat_toNat]
    show ofHexDigits? (hexDigit _ :: hexDigit _ :: rest.flatMap hexPair) = some (byte :: rest)
    rw [ofHexDigits?, high, low, ih]
    exact congrArg (fun first => some (first :: rest)) whole

theorem hexPairs_injective {bytes others : List UInt8}
    (same : bytes.flatMap hexPair = others.flatMap hexPair) : bytes = others := by
  have read := ofHexDigits?_hexPairs bytes
  rw [same, ofHexDigits?_hexPairs] at read
  exact (Option.some.inj read).symm

theorem exists_hexPairs {digits : List Char} (count : Nat) (size : digits.length = 2 * count)
    (areDigits : ∀ c ∈ digits, isHexDigit c = true) :
    ∃ bytes : List UInt8, bytes.length = count ∧
      bytes.flatMap hexPair = digits.map Char.toLower := by
  induction count generalizing digits with
  | zero =>
    rw [List.length_eq_zero_iff.mp size]
    exact ⟨[], rfl, rfl⟩
  | succ count ih =>
    match digits with
    | high :: low :: rest =>
      obtain ⟨highDigit, lowDigit, others⟩ := by
        simpa only [List.forall_mem_cons] using areDigits
      obtain ⟨highValue, highKnown⟩ := Option.isSome_iff_exists.mp highDigit
      obtain ⟨lowValue, lowKnown⟩ := Option.isSome_iff_exists.mp lowDigit
      obtain ⟨bytes, length, written⟩ := ih (by simp at size; omega) others
      have highSmall := digitValue?_lt highKnown
      have lowSmall := digitValue?_lt lowKnown
      have fits : 16 * highValue + lowValue < 256 := by omega
      have value : (UInt8.ofNat (16 * highValue + lowValue)).toNat = 16 * highValue + lowValue :=
        UInt8.toNat_ofNat_of_lt' fits
      have quotient : (16 * highValue + lowValue) / 16 = highValue := by omega
      have remainder : (16 * highValue + lowValue) % 16 = lowValue := by omega
      refine ⟨UInt8.ofNat (16 * highValue + lowValue) :: bytes, by simp [length], ?_⟩
      rw [List.flatMap_cons, written, hexPair, value, quotient, remainder,
        hexDigit_of_digitValue? highKnown, hexDigit_of_digitValue? lowKnown]
      rfl
    | [_] => simp at size; omega
    | [] => simp at size

end Bytes

end ServerProbe
