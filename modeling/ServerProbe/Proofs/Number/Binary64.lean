import ServerProbe.Number.Binary64

/-! The values of numbers as whole multiples of the least one.

Without their signs the words are ordered as these multiples are, from the
subnormal numbers up to the largest finite one. So a bound that is compared as a
number holds for the mantissa and the exponent that stand for the value.
-/

set_option autoImplicit false

namespace ServerProbe.Binary64

def magnitude (x : Binary64) : Nat :=
  x.bits.toNat % signWeight

/-- The places behind the point of the least positive number. -/
def leastPlaces : Nat := 1074

def leastPerOne : Nat := Nat.pow 2 leastPlaces

/-- How often the least positive number goes into the value of a word without sign. -/
def unitsOf (magnitude : Nat) : Nat :=
  let field := magnitude / leadingWeight
  let fraction := magnitude % leadingWeight
  if field = 0 then fraction else (leadingWeight + fraction) * Nat.pow 2 (field - 1)

theorem pow_two_pos (exponent : Nat) : 0 < Nat.pow 2 exponent :=
  Nat.pow_pos (by decide)

theorem leastPerOne_pos : 0 < leastPerOne := by
  unfold leastPerOne
  exact pow_two_pos leastPlaces

theorem unitsOf_lt (magnitude : Nat) :
    unitsOf magnitude < leadingWeight * Nat.pow 2 (magnitude / leadingWeight) := by
  have small : magnitude % leadingWeight < leadingWeight := Nat.mod_lt _ (by decide)
  unfold unitsOf
  dsimp only
  split
  · next subnormal =>
    rw [subnormal]
    exact Nat.lt_of_lt_of_eq small (Nat.mul_one _).symm
  · next normal =>
    obtain ⟨less, field⟩ := Nat.exists_eq_succ_of_ne_zero normal
    rw [field, Nat.succ_sub_one]
    calc (leadingWeight + magnitude % leadingWeight) * Nat.pow 2 less
        < (leadingWeight * 2) * Nat.pow 2 less :=
          Nat.mul_lt_mul_of_pos_right (by omega) (pow_two_pos _)
      _ = leadingWeight * Nat.pow 2 (less + 1) := by
          rw [Nat.mul_assoc, Nat.mul_comm 2]
          rfl

theorem le_unitsOf {magnitude : Nat} (normal : magnitude / leadingWeight ≠ 0) :
    leadingWeight * Nat.pow 2 (magnitude / leadingWeight - 1) ≤ unitsOf magnitude := by
  unfold unitsOf
  rw [if_neg normal]
  exact Nat.mul_le_mul_right _ (Nat.le_add_right _ _)

theorem unitsOf_mono {less more : Nat} (le : less ≤ more) : unitsOf less ≤ unitsOf more := by
  have fields : less / leadingWeight ≤ more / leadingWeight := Nat.div_le_div_right le
  rcases Nat.eq_or_lt_of_le fields with same | below
  · have fractions : less % leadingWeight ≤ more % leadingWeight := by
      have first := Nat.div_add_mod less leadingWeight
      have second := Nat.div_add_mod more leadingWeight
      rw [same] at first
      omega
    unfold unitsOf
    rw [same]
    dsimp only
    split
    · exact fractions
    · exact Nat.mul_le_mul_right _ (Nat.add_le_add_left fractions _)
  · have doubles : Nat.pow 2 (less / leadingWeight) ≤ Nat.pow 2 (more / leadingWeight - 1) :=
      Nat.pow_le_pow_right (by decide) (Nat.le_sub_one_of_lt below)
    calc unitsOf less
        ≤ leadingWeight * Nat.pow 2 (less / leadingWeight) := Nat.le_of_lt (unitsOf_lt less)
      _ ≤ leadingWeight * Nat.pow 2 (more / leadingWeight - 1) := Nat.mul_le_mul_left _ doubles
      _ ≤ unitsOf more := le_unitsOf (Nat.ne_of_gt (Nat.zero_lt_of_lt below))

theorem le_iff {x y : Binary64} :
    x.le y = true ↔ x.isNaN = false ∧ y.isNaN = false ∧ x.place ≤ y.place := by
  simp [le, and_assoc]

/-- A number from zero up to a positive one has no larger word, and is zero if it has a sign. -/
theorem magnitude_of_le {x limit : Binary64} (positive : limit.isNegative = false)
    (least : zero.le x = true) (most : x.le limit = true) :
    x.magnitude ≤ limit.magnitude ∧ (x.isNegative = true → x.magnitude = 0) := by
  have below : zero.place ≤ x.place := (le_iff.mp least).2.2
  have above : x.place ≤ limit.place := (le_iff.mp most).2.2
  have start : zero.place = 0 := by decide
  rw [start] at below
  unfold place at below above
  unfold magnitude
  rw [positive] at above
  cases sign : x.isNegative with
  | false =>
    simp only [sign, Bool.false_eq_true, ↓reduceIte] at above
    exact ⟨by omega, nofun⟩
  | true =>
    simp only [sign, ↓reduceIte] at below
    exact ⟨by omega, fun _ => by omega⟩

theorem exponentField_eq (x : Binary64) : x.exponentField = x.magnitude / leadingWeight := by
  unfold exponentField magnitude signWeight leadingWeight
  omega

theorem fraction_eq (x : Binary64) : x.fraction = x.magnitude % leadingWeight := by
  unfold fraction magnitude signWeight leadingWeight
  omega

structure IsRatio (units top bottom : Nat) : Prop where
  positive : 0 < bottom
  value : top * leastPerOne = units * bottom

-- The exponent is that of the least number or more, so `2 ^ places` times the value is whole.
theorem scaled_value (mantissa more places : Nat) :
    let quotient := scaled mantissa 1 ((more : Int) - places)
    0 < quotient.2 ∧
      quotient.1 * Nat.pow 2 places = mantissa * Nat.pow 2 more * quotient.2 := by
  unfold scaled
  split
  · next fractional =>
    have whole : more + ((more : Int) - places).natAbs = places := by omega
    have split := Nat.pow_add 2 more ((more : Int) - places).natAbs
    rw [whole] at split
    refine ⟨Nat.mul_pos Nat.one_pos (pow_two_pos _), ?_⟩
    dsimp only
    rw [Nat.one_mul, Nat.mul_assoc]
    exact congrArg (mantissa * ·) split
  · next whole =>
    have exponent : ((more : Int) - places).natAbs + places = more := by omega
    have split := Nat.pow_add 2 ((more : Int) - places).natAbs places
    rw [exponent] at split
    refine ⟨Nat.one_pos, ?_⟩
    dsimp only
    rw [Nat.mul_one, Nat.mul_assoc]
    exact congrArg (mantissa * ·) split.symm

theorem isRatio_scaled (mantissa more : Nat) :
    IsRatio (mantissa * Nat.pow 2 more) (scaled mantissa 1 ((more : Int) - 1074)).1
      (scaled mantissa 1 ((more : Int) - 1074)).2 := by
  have places : (leastPlaces : Int) = 1074 := rfl
  rw [← places]
  obtain ⟨positive, value⟩ := scaled_value mantissa more leastPlaces
  exact ⟨positive, by unfold leastPerOne; exact value⟩

theorem shape_of_finite {x : Binary64} (finite : x.magnitude / leadingWeight < 2047) :
    ∃ mantissa exponent, x.shape = .finite x.isNegative mantissa exponent ∧
      IsRatio (unitsOf x.magnitude) (scaled mantissa 1 exponent).1 (scaled mantissa 1 exponent).2 ∧
      (x.magnitude = 0 → mantissa = 0) := by
  unfold shape unitsOf
  rw [exponentField_eq, fraction_eq, if_neg (Nat.ne_of_lt finite)]
  dsimp only
  split
  · have ratio := isRatio_scaled (x.magnitude % leadingWeight) 0
    rw [show Nat.pow 2 0 = 1 from rfl, Nat.mul_one] at ratio
    exact ⟨_, _, rfl, ratio, fun isZero => by rw [isZero]; rfl⟩
  · next normal =>
    obtain ⟨less, field⟩ := Nat.exists_eq_succ_of_ne_zero normal
    have exponent : ((x.magnitude / leadingWeight : Nat) : Int) - 1075 = (less : Int) - 1074 := by
      omega
    refine ⟨_, _, rfl, ?_, fun isZero => absurd (by rw [isZero]; rfl) normal⟩
    rw [exponent, field, Nat.succ_sub_one]
    exact isRatio_scaled _ _

theorem divideToEven_le {numerator denominator bound : Nat} (positive : 0 < denominator)
    (le : numerator ≤ bound * denominator) : divideToEven numerator denominator ≤ bound := by
  have parts := Nat.div_add_mod numerator denominator
  have quotient : numerator / denominator ≤ bound := Nat.div_le_of_le_mul (by rwa [Nat.mul_comm])
  unfold divideToEven
  dsimp only
  split
  · next up =>
    refine Nat.lt_of_le_of_ne quotient fun whole => ?_
    have none : numerator % denominator = 0 := by
      rw [whole, Nat.mul_comm] at parts
      omega
    omega
  · exact quotient

structure IsWhole (x : Binary64) (value : Nat) : Prop where
  positive : x.isNegative = false
  finite : x.magnitude / leadingWeight < 2047
  units : unitsOf x.magnitude = value * leastPerOne

/-- The shape of a number from zero up to a whole number: minus zero is the only one with a sign. -/
theorem shape_of_le {x limit : Binary64} {bound : Nat} (whole : limit.IsWhole bound)
    (least : zero.le x = true) (most : x.le limit = true) :
    ∃ mantissa exponent, x.shape = .finite x.isNegative mantissa exponent ∧
      ¬(x.isNegative = true ∧ mantissa ≠ 0) ∧
      0 < (scaled mantissa 1 exponent).2 ∧
      (scaled mantissa 1 exponent).1 ≤ bound * (scaled mantissa 1 exponent).2 := by
  obtain ⟨le, onlyZero⟩ := magnitude_of_le whole.positive least most
  have finite : x.magnitude / leadingWeight < 2047 :=
    Nat.lt_of_le_of_lt (Nat.div_le_div_right le) whole.finite
  obtain ⟨mantissa, exponent, shape, ratio, isZero⟩ := shape_of_finite finite
  refine ⟨mantissa, exponent, shape, fun ⟨sign, notZero⟩ => notZero (isZero (onlyZero sign)),
    ratio.positive, ?_⟩
  have units : unitsOf x.magnitude ≤ bound * leastPerOne := whole.units ▸ unitsOf_mono le
  refine Nat.le_of_mul_le_mul_right ?_ leastPerOne_pos
  calc (scaled mantissa 1 exponent).1 * leastPerOne
      = unitsOf x.magnitude * (scaled mantissa 1 exponent).2 := ratio.value
    _ ≤ bound * leastPerOne * (scaled mantissa 1 exponent).2 := Nat.mul_le_mul_right _ units
    _ = bound * (scaled mantissa 1 exponent).2 * leastPerOne := Nat.mul_right_comm _ _ _

end ServerProbe.Binary64
