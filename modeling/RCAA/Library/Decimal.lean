import Mathlib

/-! Decimal floating-point numbers as coefficient and exponent. Sums, differences
and comparisons are exact: no context precision is applied, which is what a
28-digit context computes on every operand of a fixed-scale money column. The
exponent is data (`1000` and `1000.00` print differently), so equality of
decimals is finer than equality of their values. -/

structure Decimal where
  coeff : Int
  exponent : Int
deriving DecidableEq, Repr

namespace Decimal

def zero : Decimal := ⟨0, 0⟩
def ofInt (n : Int) : Decimal := ⟨n, 0⟩

/-- The coefficient over a common exponent `e`, which must not exceed the
number's own. -/
def scaled (d : Decimal) (e : Int) : Int :=
  d.coeff * ((10 ^ (d.exponent - e).toNat : Nat) : Int)

def add (a b : Decimal) : Decimal :=
  let e := min a.exponent b.exponent
  ⟨a.scaled e + b.scaled e, e⟩

def neg (a : Decimal) : Decimal := ⟨-a.coeff, a.exponent⟩
def sub (a b : Decimal) : Decimal := add a b.neg
def abs (a : Decimal) : Decimal := ⟨a.coeff.natAbs, a.exponent⟩
def sum (ds : List Decimal) : Decimal := ds.foldl add zero

def isZero (a : Decimal) : Bool := a.coeff == 0

/-- Numerical order and equality, by integer comparison over a common exponent. -/
def le (a b : Decimal) : Bool :=
  let e := min a.exponent b.exponent
  decide (a.scaled e ≤ b.scaled e)

def lt (a b : Decimal) : Bool := !b.le a

def numEq (a b : Decimal) : Bool :=
  let e := min a.exponent b.exponent
  a.scaled e == b.scaled e

/-- The exact value. -/
def toRat (d : Decimal) : ℚ := d.coeff * (10 : ℚ) ^ d.exponent

theorem scaled_toRat (d : Decimal) (h : e ≤ d.exponent) :
    (d.scaled e : ℚ) * (10 : ℚ) ^ e = d.toRat := by
  have split : d.exponent = ((d.exponent - e).toNat : Int) + e := by omega
  have power : (10 : ℚ) ^ d.exponent = (10 : ℚ) ^ (d.exponent - e).toNat * (10 : ℚ) ^ e := by
    conv_lhs => rw [split]
    rw [zpow_add₀ (by norm_num), zpow_natCast]
  simp only [scaled, toRat, power]
  push_cast
  ring

theorem power_pos (e : Int) : (0 : ℚ) < (10 : ℚ) ^ e := zpow_pos (by norm_num) e

@[simp] theorem toRat_zero : zero.toRat = 0 := by simp [zero, toRat]

@[simp] theorem toRat_ofInt (n : Int) : (ofInt n).toRat = n := by simp [ofInt, toRat]

@[simp] theorem toRat_add (a b : Decimal) : (a.add b).toRat = a.toRat + b.toRat := by
  have ha := a.scaled_toRat (min_le_left a.exponent b.exponent)
  have hb := b.scaled_toRat (min_le_right a.exponent b.exponent)
  simp only [add, toRat] at ha hb ⊢
  push_cast
  rw [add_mul, ha, hb]

@[simp] theorem toRat_neg (a : Decimal) : a.neg.toRat = -a.toRat := by simp [neg, toRat]

@[simp] theorem toRat_sub (a b : Decimal) : (a.sub b).toRat = a.toRat - b.toRat := by
  simp [sub, sub_eq_add_neg]

@[simp] theorem toRat_abs (a : Decimal) : a.abs.toRat = |a.toRat| := by
  simp only [abs, toRat, abs_mul, abs_of_pos (power_pos a.exponent)]
  congr 1
  rw [Int.cast_natCast, Nat.cast_natAbs, Int.cast_abs]

theorem toRat_foldl (ds : List Decimal) (initial : Decimal) :
    (ds.foldl add initial).toRat = initial.toRat + (ds.map toRat).sum := by
  induction ds generalizing initial with
  | nil => simp
  | cons d rest ih => simp only [List.foldl_cons, ih, toRat_add, List.map_cons, List.sum_cons, add_assoc]

@[simp] theorem toRat_sum (ds : List Decimal) : (sum ds).toRat = (ds.map toRat).sum := by
  simp [sum, toRat_foldl]

/-- An exponent and a value have one coefficient. -/
theorem ext_toRat {a b : Decimal} (exponent : a.exponent = b.exponent) (value : a.toRat = b.toRat) : a = b := by
  obtain ⟨coeff, e⟩ := a
  obtain ⟨other, e'⟩ := b
  cases exponent
  rw [toRat, toRat, mul_left_inj' (power_pos e).ne', Int.cast_inj] at value
  cases (show coeff = other from value)
  rfl

theorem add_right_comm (a b c : Decimal) : (a.add b).add c = (a.add c).add b := by
  refine ext_toRat (min_right_comm a.exponent b.exponent c.exponent) ?_
  simp only [toRat_add]
  ring

/-- A sum depends on which numbers are added, not on their order. -/
theorem sum_perm {ds others : List Decimal} (same : ds.Perm others) : sum ds = sum others :=
  have : RightCommutative add := ⟨add_right_comm⟩
  same.foldl_eq zero

theorem isZero_iff (a : Decimal) : a.isZero = true ↔ a.toRat = 0 := by
  simp [isZero, toRat, (power_pos a.exponent).ne']

theorem le_iff (a b : Decimal) : a.le b = true ↔ a.toRat ≤ b.toRat := by
  rw [← a.scaled_toRat (min_le_left a.exponent b.exponent),
    ← b.scaled_toRat (min_le_right a.exponent b.exponent),
    mul_le_mul_iff_left₀ (power_pos _)]
  simp [le]

@[simp] theorem lt_iff (a b : Decimal) : a.lt b = true ↔ a.toRat < b.toRat := by
  rw [lt, Bool.not_eq_true', ← not_le, ← le_iff, Bool.not_eq_true]

theorem numEq_iff (a b : Decimal) : a.numEq b = true ↔ a.toRat = b.toRat := by
  rw [← a.scaled_toRat (min_le_left a.exponent b.exponent),
    ← b.scaled_toRat (min_le_right a.exponent b.exponent),
    mul_left_inj' (power_pos _).ne']
  simp [numEq]

end Decimal
