import Mathlib.Tactic
import Mathlib.Data.List.GetD

/-!
Bytes at offsets. Memory seen through a pointer is a function from offsets to
bytes; numbers lie in it with their lowest byte first. A block is such memory
with the number of bytes that belong to it, and every access to a block is
checked against that number: an access that leaves the block has no result.
-/
namespace Peripheral.Bytes

/-- Memory seen through a pointer: the byte at each offset from it. -/
abbrev Mem := Nat → UInt8

/-- The number in the `w` bytes from `a` on, lowest byte first. -/
def load (m : Mem) (a : Nat) : Nat → Nat
  | 0 => 0
  | w+1 => (m a).toNat + 256 * load m (a+1) w

def digits (v : Nat) : Mem := fun i => UInt8.ofNat (v / 256^i)

/-- The memory `m` with `n` bytes of `src` copied to `a`. -/
def patch (m : Mem) (a n : Nat) (src : Mem) : Mem :=
  fun i => if a ≤ i ∧ i < a + n then src (i - a) else m i

def offset (m : Mem) (a : Nat) : Mem := fun i => m (a + i)

def bytes (m : Mem) (n : Nat) : List UInt8 := (List.range n).map m

theorem load_lt (m : Mem) (a w : Nat) : load m a w < 256^w := by
  induction w generalizing a with
  | zero => simp [load]
  | succ w ih =>
    have low := (m a).toNat_lt
    have high := ih (a+1)
    simp only [load, Nat.pow_succ]
    omega

theorem load_congr {m m' : Mem} {a a' w : Nat} (same : ∀ i < w, m (a + i) = m' (a' + i)) : load m a w = load m' a' w := by
  induction w generalizing a a' with
  | zero => rfl
  | succ w ih =>
    have first := same 0 (by omega)
    have rest : load m (a+1) w = load m' (a'+1) w := ih (by
      intro i inside
      have next := same (i+1) (by omega)
      rwa [show a + (i+1) = a+1+i by omega, show a' + (i+1) = a'+1+i by omega] at next)
    simp only [Nat.add_zero] at first
    simp only [load, first, rest]

theorem load_zero (a w : Nat) : load (fun _ => 0) a w = 0 := by
  induction w generalizing a with
  | zero => rfl
  | succ w ih => simp [load, ih]

theorem digits_load (m : Mem) (a : Nat) {w i : Nat} (inside : i < w) : digits (load m a w) i = m (a + i) := by
  induction w generalizing a i with
  | zero => omega
  | succ w ih =>
    have low := (m a).toNat_lt
    cases i with
    | zero =>
      apply UInt8.toNat_inj.mp
      simp only [digits, load, UInt8.toNat_ofNat', Nat.pow_zero, Nat.div_one, Nat.add_zero]
      omega
    | succ i =>
      have next := ih (a+1) (i := i) (by omega)
      rw [show a + (i+1) = a+1+i by omega, ← next]
      simp only [digits, load]
      rw [Nat.pow_succ, Nat.mul_comm (256^i), ← Nat.div_div_eq_div_mul,
        show ((m a).toNat + 256 * load m (a+1) w) / 256 = load m (a+1) w by omega]

theorem digits_succ (v i : Nat) : digits v (i+1) = digits (v / 256) i := by
  simp only [digits, Nat.pow_succ]
  rw [Nat.mul_comm (256^i), ← Nat.div_div_eq_div_mul]

theorem digits_zero : digits 0 = fun _ => 0 := by
  funext i
  simp [digits]

theorem load_digits (v w : Nat) : load (digits v) 0 w = v % 256^w := by
  induction w generalizing v with
  | zero => simp [load, Nat.mod_one]
  | succ w ih =>
    have rest : load (digits v) 1 w = (v / 256) % 256^w := by
      rw [← ih (v / 256)]
      apply load_congr
      intro i _
      rw [Nat.add_comm 1 i, digits_succ, Nat.zero_add]
    have first : (digits v 0).toNat = v % 256 := by simp [digits]
    simp only [load, Nat.zero_add, rest, first]
    rw [Nat.pow_succ, Nat.mul_comm (256^w) 256, Nat.mod_mul]

variable {m src : Mem}

theorem patch_inside {a n i : Nat} (low : a ≤ i) (high : i < a + n) :
    patch m a n src i = src (i - a) := by simp [patch, low, high]

theorem patch_outside {a n i : Nat} (out : i < a ∨ a + n ≤ i) : patch m a n src i = m i := by
  simp only [patch]
  rw [if_neg (by omega)]

@[simp] theorem patch_zero (m src : Mem) (a : Nat) : patch m a 0 src = m := by
  funext i
  exact patch_outside (by omega)

theorem load_patch_outside {a n b w : Nat} (out : b + w ≤ a ∨ a + n ≤ b) : load (patch m a n src) b w = load m b w :=
  load_congr (fun i inside => patch_outside (by omega))

theorem load_patch_inside {a n b w : Nat} (low : a ≤ b) (high : b + w ≤ a + n) :
    load (patch m a n src) b w = load src (b - a) w :=
  load_congr (fun i inside => by rw [patch_inside (by omega) (by omega), show b + i - a = b - a + i by omega])

theorem load_offset (m : Mem) (a b w : Nat) : load (offset m a) b w = load m (a + b) w :=
  load_congr (fun i _ => by rw [offset, Nat.add_assoc])

@[simp] theorem bytes_length (m : Mem) (n : Nat) : (bytes m n).length = n := by simp [bytes]

theorem bytes_getElem (m : Mem) {n i : Nat} (inside : i < (bytes m n).length) : (bytes m n)[i] = m i := by
  simp [bytes]

theorem bytes_congr {m m' : Mem} {n : Nat} (same : ∀ i < n, m i = m' i) : bytes m n = bytes m' n :=
  List.map_congr_left (fun i member => same i (List.mem_range.mp member))

theorem bytes_add (m : Mem) (a n : Nat) : bytes m (a + n) = bytes m a ++ bytes (offset m a) n := by
  rw [bytes, List.range_add, List.map_append, List.map_map]
  rfl

theorem bytes_getD (l : List UInt8) : bytes (fun i => l.getD i 0) l.length = l := by
  apply List.ext_getElem (bytes_length _ _)
  intro i inside _
  rw [bytes_getElem, List.getD_eq_getElem]

@[simp] theorem bytes_patch (m src : Mem) (a n : Nat) : bytes (offset (patch m a n src) a) n = bytes src n := by
  apply bytes_congr
  intro i inside
  rw [offset, patch_inside (by omega) (by omega)]
  congr 1
  omega

theorem patch_read (m src : Mem) (a n : Nat) : patch m a n (fun i => (bytes src n).getD i 0) = patch m a n src := by
  funext i
  by_cases inside : a ≤ i ∧ i < a + n
  · rw [patch_inside inside.1 inside.2, patch_inside inside.1 inside.2, List.getD_eq_getElem _ _ (by simp; omega),
      bytes_getElem]
  · rw [patch_outside (by omega), patch_outside (by omega)]

theorem patch_append (m src : Mem) (a p q : Nat) :
    patch (patch m a p src) (a + p) q (offset src p) = patch m a (p + q) src := by
  funext i
  by_cases first : a ≤ i ∧ i < a + p
  · rw [patch_outside (.inl first.2), patch_inside first.1 first.2, patch_inside first.1 (by omega)]
  · by_cases second : a + p ≤ i ∧ i < a + p + q
    · rw [patch_inside second.1 second.2, patch_inside (by omega) (by omega), offset]
      congr 1
      omega
    · rw [patch_outside (by omega), patch_outside (by omega), patch_outside (by omega)]

theorem offset_offset (m : Mem) (a b : Nat) : offset (offset m a) b = offset m (a + b) := by
  funext i
  simp only [offset, Nat.add_assoc]

structure Block where
  size : Nat
  byte : Mem

namespace Block

def zeroed (n : Nat) : Block := ⟨n, fun _ => 0⟩

def read32 (b : Block) (a : Nat) : Option Nat :=
  if a + 4 ≤ b.size then some (load b.byte a 4) else none

def readWord (b : Block) (a w : Nat) : Option Nat :=
  if a + w ≤ b.size then some (load b.byte a w) else none

def write (b : Block) (a n : Nat) (src : Mem) : Option Block :=
  if a + n ≤ b.size then some ⟨b.size, patch b.byte a n src⟩ else none

def write32 (b : Block) (a v : Nat) : Option Block := b.write a 4 (digits v)

/-- A checked read of the bytes from `a` on, for a copy out of the block. -/
def read (b : Block) (a n : Nat) : Option (List UInt8) :=
  if a + n ≤ b.size then some (bytes (offset b.byte a) n) else none

/-- A checked move of `n` bytes from `src` to `dst`; the ranges may overlap. -/
def move (b : Block) (dst src n : Nat) : Option Block :=
  if src + n ≤ b.size then b.write dst n (offset b.byte src) else none

variable {b b' : Block} {a n v : Nat}

theorem read32_inside (fits : a + 4 ≤ b.size) : b.read32 a = some (load b.byte a 4) := if_pos fits

theorem write_inside {src : Mem} (fits : a + n ≤ b.size) : b.write a n src = some ⟨b.size, patch b.byte a n src⟩ := if_pos fits

theorem write32_inside (fits : a + 4 ≤ b.size) : b.write32 a v = some ⟨b.size, patch b.byte a 4 (digits v)⟩ := if_pos fits

end Block
end Peripheral.Bytes
