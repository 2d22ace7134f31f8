import Mathlib.Data.Nat.Log
import Mathlib.Data.UInt

/-!
# Scores

A server that keeps its scores as double-precision numbers rounds an integer to 53 significant
bits, ties to even. Rounding keeps the order of two integers, but may make them equal; up to
`2 ^ 53` nothing is rounded.
-/

namespace NexusCore.Lib

namespace Scores

/-- The multiple of a unit that is nearest to a number, the even one of two. -/
def roundTo (unit n : Nat) : Nat :=
  let below := n / unit
  if 2 * (n % unit) < unit ∨ (2 * (n % unit) = unit ∧ below % 2 = 0) then below * unit
  else (below + 1) * unit

/-- The distance of the double-precision numbers around an integer. -/
def spacing (n : Nat) : Nat := 2 ^ (n.log2 - 52)

/-- The double-precision number nearest to an integer. -/
def nearest (n : Nat) : Nat := roundTo (spacing n) n

section RoundTo

variable {unit m n : Nat}

theorem roundTo_mul (positive : 0 < unit) (k : Nat) : roundTo unit (k * unit) = k * unit := by
  simp [roundTo, positive]

theorem roundTo_mono (le : m ≤ n) : roundTo unit m ≤ roundTo unit n := by
  have below : m / unit ≤ n / unit := Nat.div_le_div_right le
  have split := Nat.div_add_mod m unit
  have split' := Nat.div_add_mod n unit
  rcases below.lt_or_eq with less | same
  · -- the lower number rounds at most to the multiple at or below the higher one
    have up : roundTo unit m ≤ (m / unit + 1) * unit := by
      unfold roundTo
      dsimp only
      split_ifs
      · exact Nat.mul_le_mul_right _ (Nat.le_succ _)
      · exact le_rfl
    have down : n / unit * unit ≤ roundTo unit n := by
      unfold roundTo
      dsimp only
      split_ifs
      · exact le_rfl
      · exact Nat.mul_le_mul_right _ (Nat.le_succ _)
    have between : (m / unit + 1) * unit ≤ n / unit * unit := Nat.mul_le_mul_right _ less
    omega
  · have rests : m % unit ≤ n % unit := by
      rw [same] at split
      omega
    unfold roundTo
    dsimp only
    rw [same]
    split_ifs with a b
    · exact le_rfl
    · exact Nat.mul_le_mul_right _ (Nat.le_succ _)
    · omega
    · exact le_rfl

end RoundTo

section Nearest

variable {m n : Nat}

theorem spacing_pos (n : Nat) : 0 < spacing n := Nat.two_pow_pos _

/-- A power of two is a multiple of the distances below it. -/
theorem roundTo_pow {k : Nat} (n : Nat) (le : n.log2 - 52 ≤ k) :
    roundTo (spacing n) (2 ^ k) = 2 ^ k := by
  have multiple : 2 ^ k = 2 ^ (k - (n.log2 - 52)) * spacing n := by
    rw [spacing, ← Nat.pow_add, Nat.sub_add_cancel le]
  rw [multiple]
  exact roundTo_mul (spacing_pos n) _

theorem nearest_mono (le : m ≤ n) : nearest m ≤ nearest n := by
  by_cases zero : m = 0
  · subst zero
    exact Nat.zero_le _
  have logs : m.log2 ≤ n.log2 := by
    rw [Nat.log2_eq_log_two, Nat.log2_eq_log_two]
    exact Nat.log_mono_right le
  rcases logs.lt_or_eq with less | same
  · have upper : m ≤ 2 ^ (m.log2 + 1) := Nat.lt_log2_self.le
    have lower : 2 ^ n.log2 ≤ n := Nat.log2_self_le (by omega)
    calc nearest m ≤ roundTo (spacing m) (2 ^ (m.log2 + 1)) := roundTo_mono upper
      _ = 2 ^ (m.log2 + 1) := roundTo_pow m (by omega)
      _ ≤ 2 ^ n.log2 := Nat.pow_le_pow_right (by decide) less
      _ = roundTo (spacing n) (2 ^ n.log2) := (roundTo_pow n (by omega)).symm
      _ ≤ nearest n := roundTo_mono lower
  · have units : spacing m = spacing n := by rw [spacing, spacing, same]
    unfold nearest
    rw [units]
    exact roundTo_mono le

end Nearest

end Scores

/-- The score that a server keeps for an integer. -/
def toScore (n : Int) : Int := n.sign * Scores.nearest n.natAbs

section ToScore

variable {m n : Int}

@[simp] theorem toScore_natCast (n : Nat) : toScore n = Scores.nearest n := by
  cases n with
  | zero => rfl
  | succ n =>
    have positive : ((n + 1 : Nat) : Int).sign = 1 := Int.sign_natCast_of_ne_zero (by omega)
    rw [toScore, positive, Int.one_mul, Int.natAbs_natCast]

@[simp] theorem toScore_neg (n : Int) : toScore (-n) = -toScore n := by
  simp [toScore]

/-- Rounding keeps the order. -/
theorem toScore_mono (le : m ≤ n) : toScore m ≤ toScore n := by
  obtain ⟨a, rfl | rfl⟩ := m.eq_nat_or_neg <;> obtain ⟨b, rfl | rfl⟩ := n.eq_nat_or_neg
  · have ordered : Scores.nearest a ≤ Scores.nearest b := Scores.nearest_mono (by omega)
    simpa using ordered
  · obtain ⟨rfl, rfl⟩ : a = 0 ∧ b = 0 := by omega
    rfl
  · simp only [toScore_natCast, toScore_neg]
    omega
  · have ordered : Scores.nearest b ≤ Scores.nearest a := Scores.nearest_mono (by omega)
    simpa using ordered

end ToScore

end NexusCore.Lib
