import RCAA.Library.Decimal

/-! Rounding a decimal to a fixed exponent, ties to the even coefficient, with the
number of digits the result may have. The rounded number is characterized by its
distance to the exact value, so equal rounding can be decided on either side. -/

namespace Decimal

/-- `n / d` to the nearest integer, a half to the even one. -/
def halfEven (n : Int) (d : Nat) : Int :=
  if 2 * (n % d) < d ∨ (2 * (n % d) = d ∧ n / d % 2 = 0) then n / d else n / d + 1

/-- The coefficient of a number rounded to an exponent. -/
def rescale (e : Int) (x : Decimal) : Int :=
  if e ≤ x.exponent then x.scaled e else halfEven x.coeff (10 ^ (e - x.exponent).toNat)

/-- The number rounded to an exponent, when it fits the precision. -/
def quantize (precision : Nat) (e : Int) (x : Decimal) : Option Decimal :=
  if (rescale e x).natAbs < 10 ^ precision then some ⟨rescale e x, e⟩ else none

/-- `d` is `x` rounded to the exponent `e`. -/
structure Rounds (e : Int) (x : ℚ) (d : Decimal) : Prop where
  exponent : d.exponent = e
  nearest : 2 * |d.toRat - x| ≤ (10 : ℚ) ^ e
  even : 2 * |d.toRat - x| = (10 : ℚ) ^ e → Even d.coeff

/-- Rounding down loses the remainder, and rounding up adds what it lacks. -/
theorem halfEven_cases {n : Int} {d : Nat} (positive : 0 < d) :
    ((2 * (n % d) < d ∨ 2 * (n % d) = d ∧ n / d % 2 = 0) ∧ halfEven n d = n / d ∧ |halfEven n d * d - n| = n % d) ∨
      (¬(2 * (n % d) < d ∨ 2 * (n % d) = d ∧ n / d % 2 = 0) ∧ halfEven n d = n / d + 1 ∧
        |halfEven n d * d - n| = d - n % d) := by
  have division := Int.mul_ediv_add_emod n d
  have lower := Int.emod_nonneg n (show (d : Int) ≠ 0 by omega)
  have upper := Int.emod_lt_of_pos n (show (0 : Int) < d by omega)
  have commuted : n / d * d = d * (n / d) := mul_comm _ _
  unfold halfEven
  split
  · next down =>
    refine .inl ⟨down, rfl, ?_⟩
    rw [show n / d * d - n = -(n % d) by omega, abs_neg, abs_of_nonneg lower]
  · next up =>
    refine .inr ⟨up, rfl, ?_⟩
    rw [add_mul, one_mul, show n / d * d + d - n = d - n % d by omega, abs_of_nonneg (by omega)]

theorem halfEven_nearest {n : Int} {d : Nat} (positive : 0 < d) : 2 * |halfEven n d * d - n| ≤ d := by
  rcases @halfEven_cases n d positive with ⟨down, _, error⟩ | ⟨up, _, error⟩
  · rw [error]
    omega
  · rw [error]
    omega

theorem halfEven_nonneg {n : Int} {d : Nat} (nonneg : 0 ≤ n) : 0 ≤ halfEven n d := by
  have quotient : 0 ≤ n / d := Int.ediv_nonneg nonneg (Int.natCast_nonneg d)
  unfold halfEven
  split <;> omega

theorem rescale_nonneg (e : Int) {x : Decimal} (nonneg : 0 ≤ x.coeff) : 0 ≤ rescale e x := by
  unfold rescale
  split
  · exact Int.mul_nonneg nonneg (by positivity)
  · exact halfEven_nonneg nonneg

theorem halfEven_even {n : Int} {d : Nat} (positive : 0 < d) (tie : 2 * |halfEven n d * d - n| = d) :
    Even (halfEven n d) := by
  rcases @halfEven_cases n d positive with ⟨down, rounded, error⟩ | ⟨up, rounded, error⟩
  · rw [error] at tie
    rw [Int.even_iff, rounded]
    omega
  · rw [error] at tie
    rw [Int.even_iff, rounded]
    omega

/-- Rounding keeps the number where it has the exponent already, and is the nearest
multiple otherwise. -/
theorem rescale_rounds (e : Int) (x : Decimal) : Rounds e x.toRat ⟨rescale e x, e⟩ := by
  by_cases exact : e ≤ x.exponent
  · have same : (⟨rescale e x, e⟩ : Decimal).toRat = x.toRat := by
      rw [← x.scaled_toRat exact, rescale, if_pos exact]
      rfl
    refine ⟨rfl, ?_, fun tie => ?_⟩
    · rw [same, sub_self, abs_zero, mul_zero]
      exact (power_pos e).le
    · rw [same, sub_self, abs_zero, mul_zero] at tie
      exact absurd tie (power_pos e).ne
  · obtain ⟨k, shift⟩ : ∃ k : Nat, e - x.exponent = k := ⟨(e - x.exponent).toNat, by omega⟩
    have positive : 0 < 10 ^ k := Nat.pow_pos (by decide)
    have unit : (10 : ℚ) ^ e = ((10 ^ k : Nat) : ℚ) * (10 : ℚ) ^ x.exponent := by
      rw [show e = k + x.exponent by omega, zpow_add₀ (by norm_num), zpow_natCast]
      push_cast
      rfl
    have digits : rescale e x = halfEven x.coeff (10 ^ k) := by
      rw [rescale, if_neg exact, shift, Int.toNat_natCast]
    have distance : |(⟨rescale e x, e⟩ : Decimal).toRat - x.toRat| =
        ((|halfEven x.coeff (10 ^ k) * (10 ^ k : Nat) - x.coeff| : Int) : ℚ) * (10 : ℚ) ^ x.exponent := by
      simp only [toRat, digits, unit]
      rw [← mul_assoc, ← sub_mul, abs_mul, abs_of_pos (power_pos x.exponent)]
      push_cast
      rfl
    refine ⟨rfl, ?_, fun tie => ?_⟩
    · rw [distance, unit, ← mul_assoc]
      apply mul_le_mul_of_nonneg_right _ (power_pos _).le
      exact_mod_cast halfEven_nearest positive
    · rw [distance, unit, ← mul_assoc, mul_left_inj' (power_pos _).ne'] at tie
      change Even (rescale e x)
      rw [digits]
      exact halfEven_even positive (by exact_mod_cast tie)

theorem quantize_rounds {precision : Nat} {e : Int} {x d : Decimal} (rounded : quantize precision e x = some d) :
    Rounds e x.toRat d := by
  unfold quantize at rounded
  split at rounded
  · cases rounded
    exact rescale_rounds e x
  · cases rounded

/-- A number rounds to one number only. -/
theorem Rounds.unique {e : Int} {x : ℚ} {a b : Decimal} (first : Rounds e x a) (second : Rounds e x b) : a = b := by
  obtain ⟨m, place⟩ := a
  obtain ⟨n, other⟩ := b
  obtain ⟨rfl : place = e, near, tie⟩ := first
  obtain ⟨rfl : other = place, near', tie'⟩ := second
  simp only [toRat] at near tie near' tie'
  have positive : (0 : ℚ) < 10 ^ other := power_pos other
  generalize (10 : ℚ) ^ other = unit at near tie near' tie' positive
  have between : |(m : ℚ) - n| * unit ≤ |m * unit - x| + |n * unit - x| := by
    calc |(m : ℚ) - n| * unit = |(m * unit - x) - (n * unit - x)| := by
          rw [← abs_of_pos positive, ← abs_mul, abs_of_pos positive]
          ring_nf
      _ ≤ |m * unit - x| + |n * unit - x| := abs_sub _ _
  have close : |(m : ℚ) - n| ≤ 1 := by
    by_contra apart
    have := mul_lt_mul_of_pos_right (not_le.mp apart) positive
    linarith
  have near1 : |m - n| ≤ 1 := by exact_mod_cast close
  rcases eq_or_ne m n with rfl | differ
  · rfl
  · -- Two different nearest coefficients are neighbours with the number halfway, so both are even.
    have one : |m - n| = 1 := le_antisymm near1 (Int.one_le_abs (sub_ne_zero.mpr differ))
    have oneRat : |(m : ℚ) - n| = 1 := by exact_mod_cast one
    rw [oneRat, one_mul] at between
    have even := tie (by linarith)
    have even' := tie' (by linarith)
    rw [Int.even_iff] at even even'
    rw [abs_eq (by norm_num)] at one
    omega

/-- What a number rounds to decides whether another rounds to the same. -/
theorem Rounds.iff_eq {e : Int} {x : ℚ} {a b : Decimal} (first : Rounds e x a) : Rounds e x b ↔ a = b :=
  ⟨first.unique, fun same => same ▸ first⟩

/-- The number rounded to an exponent, of any number of digits. -/
def round (e : Int) (x : Decimal) : Decimal := ⟨rescale e x, e⟩

theorem round_rounds (e : Int) (x : Decimal) : Rounds e x.toRat (x.round e) := rescale_rounds e x

theorem quantize_eq {precision : Nat} {e : Int} {x d : Decimal} (rounded : quantize precision e x = some d) :
    d = x.round e := (quantize_rounds rounded).unique (round_rounds e x)

@[simp] theorem round_round (e : Int) (x : Decimal) : (x.round e).round e = x.round e := by
  simp [round, rescale, scaled]

/-! ## Arithmetic in a context -/

/-- The number with the digits a context keeps. -/
def inContext (precision : Nat) (x : Decimal) : Decimal :=
  let places := x.exponent + ((Nat.toDigits 10 x.coeff.natAbs).length - precision : Nat)
  let kept := x.round places
  -- A coefficient rounded up to the next power of ten has a digit more.
  if kept.coeff.natAbs < 10 ^ precision then kept else ⟨kept.coeff / 10, places + 1⟩

/-- The number over a hundred, with the exponent of the number itself where the quotient
allows it. -/
def hundredth (x : Decimal) : Decimal :=
  if x.coeff % 100 = 0 then ⟨x.coeff / 100, x.exponent⟩
  else if x.coeff % 10 = 0 then ⟨x.coeff / 10, x.exponent - 1⟩
  else ⟨x.coeff, x.exponent - 2⟩

/-- The exact value of a float, whose denominator is a power of two. -/
def ofFloat (value : ℚ) : Decimal := ⟨value.num * 5 ^ value.den.log2, -value.den.log2⟩

theorem toRat_hundredth (x : Decimal) : x.hundredth.toRat = x.toRat / 100 := by
  have shift (k : Nat) : (10 : ℚ) ^ (x.exponent - k) = (10 : ℚ) ^ x.exponent / 10 ^ k := by
    rw [zpow_sub₀ (by norm_num), zpow_natCast]
  unfold hundredth
  split
  · next whole =>
    have exact : ((x.coeff / 100 : Int) : ℚ) = x.coeff / 100 := by
      rw [Int.cast_div (Int.dvd_of_emod_eq_zero whole) (by norm_num)]
      norm_num
    simp only [toRat, exact]
    ring
  · split
    · next tenths =>
      have exact : ((x.coeff / 10 : Int) : ℚ) = x.coeff / 10 := by
        rw [Int.cast_div (Int.dvd_of_emod_eq_zero tenths) (by norm_num)]
        norm_num
      simp only [toRat, exact]
      rw [show x.exponent - 1 = x.exponent - (1 : Nat) from rfl, shift]
      ring
    · simp only [toRat]
      rw [show x.exponent - 2 = x.exponent - (2 : Nat) from rfl, shift]
      ring

example : (⟨98800, 0⟩ : Decimal).hundredth = ⟨988, 0⟩ ∧ (⟨98850, 0⟩ : Decimal).hundredth = ⟨9885, -1⟩ := by decide

/-! ## Quotients -/

/-- The places a dividend is moved by, so that its quotient has a digit more than the
context keeps. -/
def quotientShift (precision : Nat) (a b : Decimal) : Int :=
  (Nat.toDigits 10 b.coeff.natAbs).length - (Nat.toDigits 10 a.coeff.natAbs).length + precision + 1

/-- The digits of a quotient; where some are cut off, the last one is made no tie. -/
def quotientDigits (a b : Decimal) (shift : Int) : Nat :=
  let numerator := a.coeff.natAbs * 10 ^ shift.toNat
  let denominator := b.coeff.natAbs * 10 ^ (-shift).toNat
  let whole := numerator / denominator
  if numerator % denominator ≠ 0 ∧ whole % 5 = 0 then whole + 1 else whole

/-- The quotient in a context. Only its value is read: an exact one keeps its zeros. -/
def quotient (precision : Nat) (a b : Decimal) : Decimal :=
  let shift := quotientShift precision a b
  inContext precision ⟨a.coeff.sign * b.coeff.sign * quotientDigits a b shift, a.exponent - b.exponent - shift⟩

theorem inContext_nonneg (precision : Nat) {x : Decimal} (nonneg : 0 ≤ x.coeff) : 0 ≤ (x.inContext precision).coeff := by
  unfold inContext
  have kept : 0 ≤ (x.round (x.exponent + ((Nat.toDigits 10 x.coeff.natAbs).length - precision : Nat))).coeff :=
    rescale_nonneg _ nonneg
  simp only
  split
  · exact kept
  · exact Int.ediv_nonneg kept (by decide)

/-- A number of `k + 1` digits is at least the power of ten. -/
theorem power_le_of_digits {n k : Nat} (long : k < (Nat.toDigits 10 n).length) (positive : 0 < k) : 10 ^ k ≤ n := by
  by_contra small
  have short := (Nat.length_toDigits_le_iff (by decide) positive).mpr (not_le.mp small)
  omega

/-- A context makes no number more than twice as large. -/
theorem toRat_inContext_le {precision : Nat} (positive : 0 < precision) {x : Decimal} (nonneg : 0 ≤ x.coeff) :
    (x.inContext precision).toRat ≤ 2 * x.toRat := by
  set places := x.exponent + ((Nat.toDigits 10 x.coeff.natAbs).length - precision : Nat) with at_places
  have value : 0 ≤ x.toRat := mul_nonneg (by exact_mod_cast nonneg) (power_pos _).le
  have rounded : (x.round places).toRat ≤ 2 * x.toRat := by
    obtain ⟨-, near, -⟩ := round_rounds places x
    rcases Nat.lt_or_ge precision (Nat.toDigits 10 x.coeff.natAbs).length with long | short
    · have digits : ((10 ^ ((Nat.toDigits 10 x.coeff.natAbs).length - precision) : Nat) : ℚ) ≤ x.coeff := by
        have power := power_le_of_digits (show (Nat.toDigits 10 x.coeff.natAbs).length - precision <
          (Nat.toDigits 10 x.coeff.natAbs).length by omega) (by omega)
        have whole : ((x.coeff.natAbs : Int) : ℚ) = x.coeff := by rw [Int.natAbs_of_nonneg nonneg]
        rw [← whole]
        exact_mod_cast power
      have unit : (10 : ℚ) ^ places ≤ x.toRat := by
        rw [at_places, zpow_add₀ (by norm_num), zpow_natCast, toRat, mul_comm]
        exact mul_le_mul_of_nonneg_right (by exact_mod_cast digits) (power_pos _).le
      have := le_abs_self ((x.round places).toRat - x.toRat)
      linarith
    · have same : places = x.exponent := by
        rw [at_places, Nat.sub_eq_zero_of_le short]
        simp
      have exact : (x.round places).toRat = x.toRat := by
        rw [← x.scaled_toRat same.le, round, rescale, if_pos same.le]
        rfl
      linarith
  refine le_trans ?_ rounded
  unfold inContext
  simp only [← at_places]
  split
  · exact le_rfl
  · have floor : (x.round places).coeff / 10 * 10 ≤ (x.round places).coeff := Int.ediv_mul_le _ (by decide)
    have tens : (10 : ℚ) ^ (places + 1) = 10 * 10 ^ places := by rw [zpow_add_one₀ (by norm_num), mul_comm]
    have exponent : (x.round places).exponent = places := rfl
    rw [toRat, toRat, tens, exponent, ← mul_assoc]
    exact mul_le_mul_of_nonneg_right (by exact_mod_cast floor) (power_pos _).le

/-- The digits of a quotient are at most twice the exact one. -/
theorem quotientDigits_le {a : Decimal} (b : Decimal) (precision : Nat) (dividend : 0 < a.coeff) :
    quotientDigits a b (quotientShift precision a b) * (b.coeff.natAbs * 10 ^ (-quotientShift precision a b).toNat) ≤
      2 * (a.coeff.natAbs * 10 ^ (quotientShift precision a b).toNat) := by
  have places : quotientShift precision a b =
    (Nat.toDigits 10 b.coeff.natAbs).length - (Nat.toDigits 10 a.coeff.natAbs).length + precision + 1 := rfl
  generalize quotientShift precision a b = shift at places ⊢
  have above : quotientDigits a b shift ≤
      a.coeff.natAbs * 10 ^ shift.toNat / (b.coeff.natAbs * 10 ^ (-shift).toNat) + 1 := by
    simp only [quotientDigits]
    split
    · exact le_rfl
    · exact Nat.le_succ _
  have lower : 10 ^ ((Nat.toDigits 10 a.coeff.natAbs).length - 1) ≤ a.coeff.natAbs := by
    rcases Nat.eq_zero_or_pos ((Nat.toDigits 10 a.coeff.natAbs).length - 1) with single | several
    · rw [single, pow_zero]
      omega
    · exact power_le_of_digits (by omega) several
  have upper : b.coeff.natAbs < 10 ^ (Nat.toDigits 10 b.coeff.natAbs).length :=
    (Nat.length_toDigits_le_iff (by decide) Nat.length_toDigits_pos).mp le_rfl
  have digits : 0 < (Nat.toDigits 10 a.coeff.natAbs).length := Nat.length_toDigits_pos
  set numerator := a.coeff.natAbs * 10 ^ shift.toNat
  set denominator := b.coeff.natAbs * 10 ^ (-shift).toNat
  have larger : denominator ≤ numerator := by
    calc denominator ≤ 10 ^ (Nat.toDigits 10 b.coeff.natAbs).length * 10 ^ (-shift).toNat := Nat.mul_le_mul_right _ upper.le
      _ = 10 ^ ((Nat.toDigits 10 b.coeff.natAbs).length + (-shift).toNat) := (Nat.pow_add ..).symm
      _ ≤ 10 ^ ((Nat.toDigits 10 a.coeff.natAbs).length - 1 + shift.toNat) := Nat.pow_le_pow_right (by decide) (by omega)
      _ = 10 ^ ((Nat.toDigits 10 a.coeff.natAbs).length - 1) * 10 ^ shift.toNat := Nat.pow_add ..
      _ ≤ numerator := Nat.mul_le_mul_right _ lower
  calc quotientDigits a b shift * denominator ≤ (numerator / denominator + 1) * denominator := Nat.mul_le_mul_right _ above
    _ = numerator / denominator * denominator + denominator := by ring
    _ ≤ numerator + numerator := Nat.add_le_add (Nat.div_mul_le_self _ _) larger
    _ = 2 * numerator := by ring

/-- A quotient of positive numbers, before it is rounded. -/
theorem toRat_quotientDigits_le (precision : Nat) {a b : Decimal} (dividend : 0 < a.coeff) (divisor : 0 < b.coeff) :
    (⟨quotientDigits a b (quotientShift precision a b), a.exponent - b.exponent - quotientShift precision a b⟩ :
      Decimal).toRat ≤ 2 * (a.toRat / b.toRat) := by
  have digits := quotientDigits_le b precision dividend
  set shift := quotientShift precision a b
  set marked := quotientDigits a b shift
  have divisorValue : 0 < b.toRat := mul_pos (by exact_mod_cast divisor) (power_pos _)
  have scale : ((10 ^ shift.toNat : Nat) : ℚ) = (10 : ℚ) ^ shift * ((10 ^ (-shift).toNat : Nat) : ℚ) := by
    push_cast
    rw [← zpow_natCast, ← zpow_natCast, ← zpow_add₀ (by norm_num)]
    congr 1
    omega
  have unit : (0 : ℚ) < ((10 ^ (-shift).toNat : Nat) : ℚ) := by positivity
  have bounded : (marked : ℚ) * b.coeff ≤ 2 * (a.coeff * (10 : ℚ) ^ shift) := by
    have cast : (marked : ℚ) * (b.coeff.natAbs * ((10 ^ (-shift).toNat : Nat) : ℚ)) ≤
        2 * (a.coeff.natAbs * ((10 ^ shift.toNat : Nat) : ℚ)) := by exact_mod_cast digits
    have dividendAbs : ((a.coeff.natAbs : Int) : ℚ) = a.coeff := by rw [Int.natAbs_of_nonneg dividend.le]
    have divisorAbs : ((b.coeff.natAbs : Int) : ℚ) = b.coeff := by rw [Int.natAbs_of_nonneg divisor.le]
    rw [Int.cast_natCast] at dividendAbs divisorAbs
    rw [dividendAbs, divisorAbs, scale, ← mul_assoc, ← mul_assoc, ← mul_assoc, mul_le_mul_iff_left₀ unit] at cast
    rwa [mul_assoc] at cast
  rw [mul_div_assoc', le_div_iff₀ divisorValue, toRat, toRat, toRat, zpow_sub₀ (by norm_num), zpow_sub₀ (by norm_num)]
  have first := (power_pos b.exponent).ne'
  have second := (power_pos shift).ne'
  calc ((marked : Int) : ℚ) * ((10 : ℚ) ^ a.exponent / 10 ^ b.exponent / 10 ^ shift) * (b.coeff * 10 ^ b.exponent)
      = marked * b.coeff * (10 ^ a.exponent / 10 ^ shift) * (10 ^ b.exponent / 10 ^ b.exponent) := by push_cast; ring
    _ = marked * b.coeff * (10 ^ a.exponent / 10 ^ shift) := by rw [div_self first, mul_one]
    _ ≤ 2 * (a.coeff * 10 ^ shift) * (10 ^ a.exponent / 10 ^ shift) :=
        mul_le_mul_of_nonneg_right bounded (div_pos (power_pos _) (power_pos _)).le
    _ = 2 * (a.coeff * 10 ^ a.exponent) * (10 ^ shift / 10 ^ shift) := by ring
    _ = 2 * (a.coeff * 10 ^ a.exponent) := by rw [div_self second, mul_one]

theorem toRat_quotient_le {precision : Nat} (positive : 0 < precision) {a b : Decimal} (dividend : 0 ≤ a.coeff)
    (divisor : 0 < b.coeff) : (quotient precision a b).toRat ≤ 4 * (a.toRat / b.toRat) := by
  have divisorSign : b.coeff.sign = 1 := Int.sign_eq_one_of_pos divisor
  rcases dividend.eq_or_lt with zero | dividend
  · have context : (quotient precision a b).toRat ≤
        2 * (⟨0, a.exponent - b.exponent - quotientShift precision a b⟩ : Decimal).toRat := by
      rw [quotient, ← zero, Int.sign_zero, zero_mul, zero_mul]
      exact toRat_inContext_le positive le_rfl
    have value : a.toRat = 0 := by rw [toRat, ← zero, Int.cast_zero, zero_mul]
    rw [value, zero_div, mul_zero]
    simpa [toRat] using context
  · have exact := toRat_quotientDigits_le precision dividend divisor
    have context := toRat_inContext_le positive (show 0 ≤ (⟨quotientDigits a b (quotientShift precision a b),
      a.exponent - b.exponent - quotientShift precision a b⟩ : Decimal).coeff from Int.natCast_nonneg _)
    rw [quotient, Int.sign_eq_one_of_pos dividend, divisorSign, one_mul, one_mul]
    linarith

theorem quotient_nonneg (precision : Nat) {a b : Decimal} (dividend : 0 ≤ a.coeff) (divisor : 0 ≤ b.coeff) :
    0 ≤ (quotient precision a b).coeff :=
  inContext_nonneg precision (mul_nonneg (mul_nonneg (Int.sign_nonneg_iff.mpr dividend) (Int.sign_nonneg_iff.mpr divisor))
    (Int.natCast_nonneg _))

/-- A small number fits the precision. -/
theorem quantize_isSome {x : Decimal} (nonneg : 0 ≤ x.coeff) {precision : Nat} {e : Int}
    (small : x.toRat + 10 ^ e ≤ (10 ^ precision : Nat) * (10 : ℚ) ^ e) : (x.quantize precision e).isSome = true := by
  have unit := power_pos e
  obtain ⟨-, near, -⟩ := rescale_rounds e x
  have above := le_abs_self ((⟨rescale e x, e⟩ : Decimal).toRat - x.toRat)
  have bound : (rescale e x : ℚ) * 10 ^ e < (10 ^ precision : Nat) * (10 : ℚ) ^ e := by
    have value : (⟨rescale e x, e⟩ : Decimal).toRat = rescale e x * (10 : ℚ) ^ e := rfl
    linarith
  have fits : (rescale e x).natAbs < 10 ^ precision := by
    have lower := rescale_nonneg e nonneg
    have upper : rescale e x < (10 ^ precision : Nat) := by exact_mod_cast (mul_lt_mul_iff_left₀ unit).mp bound
    omega
  rw [quantize, if_pos fits]
  rfl

/-! ## Ties away from zero -/

/-- `n / d` to the nearest integer, a half away from zero. -/
def halfAway (n : Int) (d : Nat) : Int :=
  if 0 ≤ n then (2 * n + d) / (2 * d) else -((-(2 * n) + d) / (2 * d))

/-- A number as a column of two places returns it. -/
def money (x : Decimal) : Decimal :=
  ⟨if -2 ≤ x.exponent then x.scaled (-2) else halfAway x.coeff (10 ^ (-2 - x.exponent).toNat), -2⟩

theorem halfAway_le {n m : Int} {d : Nat} (positive : 0 < d) (bound : n ≤ m * d) : halfAway n d ≤ m := by
  have twice : (0 : Int) < 2 * d := by omega
  have product : (m + 1) * (2 * d) = 2 * (m * d) + 2 * d := by ring
  unfold halfAway
  split
  · exact Int.lt_add_one_iff.mp ((Int.ediv_lt_iff_lt_mul twice).mpr (by omega))
  · have opposite : -m * (2 * d) = -(2 * (m * d)) := by ring
    have : -m ≤ (-(2 * n) + d) / (2 * d) := (Int.le_ediv_iff_mul_le twice).mpr (by omega)
    omega

@[simp] theorem money_exponent (x : Decimal) : x.money.exponent = -2 := rfl

/-- Rounding to two places does not pass a number of two places. -/
theorem money_le {x bound : Decimal} (places : bound.exponent = -2) (le : x.toRat ≤ bound.toRat) :
    x.money.toRat ≤ bound.toRat := by
  have unit := power_pos (-2)
  have scale : ∀ m : Int, (⟨m, -2⟩ : Decimal).toRat ≤ bound.toRat ↔ m ≤ bound.coeff := by
    intro m
    rw [toRat, toRat, places, mul_le_mul_iff_left₀ unit, Int.cast_le]
  rw [money, scale]
  split
  · next fine =>
    rw [← scale, ← show x.toRat = (⟨x.scaled (-2), -2⟩ : Decimal).toRat from (x.scaled_toRat fine).symm]
    exact le
  · next coarse =>
    obtain ⟨k, shift⟩ : ∃ k : Nat, -2 - x.exponent = k := ⟨(-2 - x.exponent).toNat, by omega⟩
    have split : (10 : ℚ) ^ (-2 : Int) = ((10 ^ k : Nat) : ℚ) * (10 : ℚ) ^ x.exponent := by
      rw [show (-2 : Int) = k + x.exponent by omega, zpow_add₀ (by norm_num), zpow_natCast]
      push_cast
      rfl
    rw [toRat, toRat, places, split, ← mul_assoc, mul_le_mul_iff_left₀ (power_pos x.exponent)] at le
    rw [shift, Int.toNat_natCast]
    exact halfAway_le (Nat.pow_pos (by decide)) (by exact_mod_cast le)

end Decimal
