import Mathlib.Algebra.GroupWithZero.Nat
import Mathlib.Data.List.Basic

/-!
Parts that are scaled one by one. Each is cut to a whole number, and what is lost is less
than one for each of them.
-/
namespace Peripheral.Floors

/-- Each part in units of which there are `k` for every `r` of the old ones. -/
def scaled (k r : Nat) (parts : List Nat) : Nat := (parts.map fun part => part * k / r).sum

variable {k r : Nat} {parts : List Nat}

theorem scaled_append (part : Nat) : scaled k r (parts ++ [part]) = scaled k r parts + part * k / r := by
  simp [scaled]

theorem mul_scaled_le (k r : Nat) (parts : List Nat) : r * scaled k r parts ≤ parts.sum * k := by
  induction parts with
  | nil => simp [scaled]
  | cons part parts ih =>
    have one : r * (part * k / r) ≤ part * k := Nat.mul_div_le _ _
    simp only [scaled, List.map_cons, List.sum_cons, Nat.mul_add, Nat.add_mul] at ih ⊢
    omega

theorem le_mul_scaled (positive : 0 < r) (parts : List Nat) :
    parts.sum * k ≤ r * scaled k r parts + parts.length * (r - 1) := by
  induction parts with
  | nil => simp
  | cons part parts ih =>
    have whole := Nat.div_add_mod (part * k) r
    have rest := Nat.mod_lt (part * k) positive
    simp only [scaled, List.map_cons, List.sum_cons, List.length_cons, Nat.mul_add, Nat.add_mul] at ih ⊢
    omega

theorem scaled_le (positive : 0 < r) (parts : List Nat) : scaled k r parts ≤ parts.sum * k / r := by
  rw [Nat.le_div_iff_mul_le positive, Nat.mul_comm]
  exact mul_scaled_le k r parts

theorem lt_scaled_add (positive : 0 < r) (some : parts ≠ []) : parts.sum * k / r < scaled k r parts + parts.length := by
  have few := @le_mul_scaled k r positive parts
  have length := List.length_pos_of_ne_nil some
  have lost : parts.length * (r - 1) < parts.length * r := Nat.mul_lt_mul_of_pos_left (by omega) length
  rw [Nat.div_lt_iff_lt_mul positive, Nat.add_mul, Nat.mul_comm (scaled k r parts)]
  omega

theorem part_eq (positive : 0 < r) (part : Nat) : part * k / r = part / r * k + part % r * k / r := by
  have whole : part * k = r * (part / r * k) + part % r * k := by
    conv_lhs => rw [← Nat.div_add_mod part r, Nat.add_mul, Nat.mul_assoc]
  rw [whole, Nat.mul_add_div positive]

end Peripheral.Floors
