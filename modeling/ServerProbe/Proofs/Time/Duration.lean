import ServerProbe.Proofs.Number.Binary64
import ServerProbe.Time.Duration

/-! Numbers of seconds that are lengths of time. -/

set_option autoImplicit false

namespace ServerProbe.Duration

open Binary64

theorem fits_of_le_ofSeconds {duration : Duration} {bound : Nat}
    (representable : bound < Text.wordLimit)
    (le : duration.nanoseconds ≤ (ofSeconds bound).nanoseconds) : duration.fits = true := by
  have seconds : duration.wholeSeconds ≤ bound :=
    Nat.div_le_of_le_mul (Nat.mul_comm perSecond bound ▸ le)
  exact decide_eq_true (Nat.lt_of_le_of_lt seconds representable)

/-- A number of seconds from zero up to a whole one is a length of time, and no longer one. Minus
zero and the subnormal numbers are no exceptions. -/
theorem ofSeconds?_of_le {seconds limit : Binary64} {bound : Nat} (whole : limit.IsWhole bound)
    (representable : bound < Text.wordLimit) (least : Binary64.zero.le seconds = true)
    (most : seconds.le limit = true) :
    ∃ duration, ofSeconds? seconds = some duration ∧
      duration.nanoseconds ≤ (ofSeconds bound).nanoseconds := by
  obtain ⟨mantissa, exponent, shape, unsigned, positive, within⟩ := shape_of_le whole least most
  unfold ofSeconds?
  rw [shape]
  dsimp only
  generalize scaled mantissa 1 exponent = quotient at positive within ⊢
  obtain ⟨numerator, denominator⟩ := quotient
  dsimp only at positive within ⊢
  have below : numerator < Text.wordLimit * denominator :=
    Nat.lt_of_le_of_lt within (Nat.mul_lt_mul_of_pos_right representable positive)
  have rounded : divideToEven (numerator * perSecond) denominator ≤ bound * perSecond := by
    refine divideToEven_le positive ?_
    rw [Nat.mul_right_comm]
    exact Nat.mul_le_mul_right _ within
  have fits : (Duration.mk (divideToEven (numerator * perSecond) denominator)).fits = true :=
    fits_of_le_ofSeconds representable rounded
  rw [if_neg unsigned, if_neg (Nat.not_le_of_lt below), if_pos fits]
  exact ⟨_, rfl, rounded⟩

end ServerProbe.Duration
