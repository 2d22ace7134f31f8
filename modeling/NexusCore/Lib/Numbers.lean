import Mathlib.Algebra.Order.Field.Rat
import Mathlib.Algebra.Order.Group.Abs
import Mathlib.Data.Rat.Cast.Order
import Mathlib.Order.Compare
import Mathlib.Tactic.Linarith

/-!
# Numbers of the IEEE 754 kind

Finite numbers, the two infinities and a value that is not a number, with the rules of the standard
for differences and comparisons. A finite number is its rational value, so the two zeros are one.
-/

namespace NexusCore.Lib

inductive Number where
  | finite (value : ℚ)
  | infinite (negative : Bool)
  | nan
  deriving DecidableEq

namespace Number

/-- The number of 64 bits: sign, exponent and fraction. -/
def ofBits (bits : UInt64) : Number :=
  let negative := bits >>> 63 != 0
  let exponent := ((bits >>> 52) &&& 0x7FF).toNat
  let fraction := (bits &&& 0xFFFFFFFFFFFFF).toNat
  let sign : ℚ := if negative then -1 else 1
  if exponent = 0x7FF then
    if fraction = 0 then infinite negative else nan
  else if exponent = 0 then
    finite (sign * (fraction / 2 ^ 1074))
  else
    finite (sign * ((2 ^ 52 + fraction) * 2 ^ exponent / 2 ^ 1075))

/-- A difference, of which the exact value is rounded to a number. -/
def sub (round : ℚ → Number) : Number → Number → Number
  | finite a, finite b => round (a - b)
  | finite _, infinite negative => infinite !negative
  | infinite negative, finite _ => infinite negative
  | infinite negative, infinite negative' =>
    if negative = negative' then nan else infinite negative
  | nan, _ => nan
  | _, nan => nan

def abs : Number → Number
  | finite a => finite |a|
  | infinite _ => infinite false
  | nan => nan

/-- Nothing compares with what is not a number. -/
def partialCmp : Number → Number → Option Ordering
  | finite a, finite b => some (compare a b)
  | finite _, infinite negative => some (if negative then .gt else .lt)
  | infinite negative, finite _ => some (if negative then .lt else .gt)
  | infinite negative, infinite negative' => some (compare negative' negative)
  | nan, _ => none
  | _, nan => none

def le (a b : Number) : Bool := (partialCmp a b).any (· != .gt)

@[simp] theorem le_finite (a b : ℚ) : (finite a).le (finite b) = decide (a ≤ b) := by
  rw [Bool.eq_iff_iff, decide_eq_true_iff, ← compare_le_iff_le]
  simp [le, partialCmp]

@[simp] theorem nan_le (b : Number) : nan.le b = false := rfl

@[simp] theorem le_nan (a : Number) : a.le nan = false := by
  cases a <;> rfl

@[simp] theorem finite_le_infinite (a : ℚ) (negative : Bool) :
    (finite a).le (infinite negative) = !negative := by
  cases negative <;> rfl

@[simp] theorem infinite_le_finite (negative : Bool) (b : ℚ) :
    (infinite negative).le (finite b) = negative := by
  cases negative <;> rfl

/-- How far apart two finite numbers may be. -/
def Within (tolerance : Number) (a b : ℚ) : Prop := (finite |a - b|).le tolerance

theorem le_of_le {a b : ℚ} {tolerance : Number} (below : a ≤ b)
    (le : (finite b).le tolerance) : (finite a).le tolerance := by
  cases tolerance with
  | finite value =>
    rw [le_finite, decide_eq_true_eq] at *
    exact below.trans le
  | infinite negative => rwa [finite_le_infinite] at *
  | nan => cases le

/-- Of two pairs that cross, neither distance grows beyond both when they are put in order. -/
theorem Within.uncross {tolerance : Number} {a a' b b' : ℚ} (left : a ≤ a') (right : b ≤ b')
    (near : Within tolerance a b') (near' : Within tolerance a' b) :
    Within tolerance a b ∧ Within tolerance a' b' := by
  have straight : max |a - b| |a' - b'| ≤ max |a - b'| |a' - b| := by
    grind
  have bound : (finite (max |a - b'| |a' - b|)).le tolerance := by
    rcases max_choice |a - b'| |a' - b| with same | same
    · rwa [same]
    · rwa [same]
  exact ⟨le_of_le ((le_max_left _ _).trans straight) bound,
    le_of_le ((le_max_right _ _).trans straight) bound⟩

@[simp] theorem infinite_le_infinite (negative negative' : Bool) :
    (infinite negative).le (infinite negative') = (negative || !negative') := by
  cases negative <;> cases negative' <;> rfl

theorem le_trans {a b c : Number} (before : a.le b) (before' : b.le c) : a.le c := by
  cases a <;> cases b <;> cases c <;>
    grind [le_finite, nan_le, le_nan, finite_le_infinite, infinite_le_finite, infinite_le_infinite]

theorem partialCmp_swap (a b : Number) : partialCmp b a = (partialCmp a b).map Ordering.swap := by
  have swap : ∀ x y : ℚ, compare y x = (compare x y).swap := fun x y => Std.OrientedCmp.eq_swap
  have swap' : ∀ x y : Bool, compare y x = (compare x y).swap := fun x y => Std.OrientedCmp.eq_swap
  cases a <;> cases b <;> grind [partialCmp, Ordering.swap]

/-- Numbers that compare as equal are the same. -/
theorem partialCmp_eq_iff {a b : Number} : partialCmp a b = some .eq ↔ a = b ∧ a ≠ nan := by
  cases a <;> cases b <;> grind [partialCmp, compare_eq_iff_eq]

theorem partialCmp_eq_none {a b : Number} : partialCmp a b = none ↔ a = nan ∨ b = nan := by
  cases a <;> cases b <;> simp [partialCmp]

end Number

end NexusCore.Lib
