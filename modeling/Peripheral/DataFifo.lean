import Mathlib.Data.List.Basic
import Mathlib.Data.Nat.Bitwise
import Mathlib.Data.Nat.ModEq

/-!
The byte ring of `data_fifo.h`. The indices run on past the end of the buffer and
past the end of the 32-bit numbers; a power of two as the size makes both harmless.
-/
namespace Peripheral
open List
open UInt32 (toNat_sub toNat_one toNat_add lt_iff_toNat_lt)

/-- `DataFifo`; the buffer is a list of bytes. -/
structure DataFifo where
  rdIdx : UInt32
  wrIdx : UInt32
  size : UInt32
  data : List UInt8
  deriving DecidableEq

namespace DataFifo

def init (size : UInt32) (data : List UInt8) : DataFifo := ⟨0, 0, size, data⟩

def isInitialized (fifo : DataFifo) : Bool := fifo.size ≠ 0

def reset (fifo : DataFifo) : DataFifo := { fifo with rdIdx := 0, wrIdx := 0 }

def len (fifo : DataFifo) : UInt32 := fifo.wrIdx - fifo.rdIdx

def isEmpty (fifo : DataFifo) : Bool := fifo.wrIdx = fifo.rdIdx

def isFull (fifo : DataFifo) : Bool := fifo.len > fifo.size - 1

def availSize (fifo : DataFifo) : UInt32 := fifo.size - fifo.len

def skip (fifo : DataFifo) (size : UInt32) : DataFifo := { fifo with rdIdx := fifo.rdIdx + size }

def slot (fifo : DataFifo) (idx : UInt32) : Nat := (idx &&& (fifo.size - 1)).toNat

def put (fifo : DataFifo) (byte : UInt8) : DataFifo :=
  { fifo with data := fifo.data.set (fifo.slot fifo.wrIdx) byte, wrIdx := fifo.wrIdx + 1 }

def write (fifo : DataFifo) (data : List UInt8) (size : UInt32) : UInt32 × DataFifo :=
  let size := if size < fifo.availSize then size else fifo.availSize
  (size, (data.take size.toNat).foldl put fifo)

def take (fifo : DataFifo) : Nat → List UInt8 × DataFifo
  | 0 => ([], fifo)
  | n + 1 =>
    let (bytes, rest) := take { fifo with rdIdx := fifo.rdIdx + 1 } n
    (fifo.data.getD (fifo.slot fifo.rdIdx) 0 :: bytes, rest)

def read (fifo : DataFifo) (size : UInt32) : List UInt8 × DataFifo :=
  fifo.take (if size < fifo.len then size else fifo.len).toNat

def contents (fifo : DataFifo) : List UInt8 :=
  (range fifo.len.toNat).map fun i => fifo.data.getD ((fifo.rdIdx.toNat + i) % fifo.size.toNat) 0

/-- The size is a power of two, or nothing was allocated, and no more is in the fifo than its size. -/
structure Valid (fifo : DataFifo) : Prop where
  power : fifo.size = 0 ∨ ∃ k, fifo.size.toNat = 2 ^ k
  memory : fifo.data.length = fifo.size.toNat
  bounded : fifo.len.toNat ≤ fifo.size.toNat

section
variable {fifo : DataFifo}

theorem Valid.init {size : UInt32} (power : size = 0 ∨ ∃ k, size.toNat = 2 ^ k) {data : List UInt8}
    (memory : data.length = size.toNat) : (DataFifo.init size data).Valid :=
  ⟨power, memory, by simp [DataFifo.init, len]⟩

@[simp] theorem contents_init (size : UInt32) (data : List UInt8) : (DataFifo.init size data).contents = [] := by
  simp [contents, DataFifo.init, len]

@[simp] theorem length_contents (fifo : DataFifo) : fifo.contents.length = fifo.len.toNat := by simp [contents]

theorem wrIdx_toNat (fifo : DataFifo) : fifo.wrIdx.toNat = (fifo.rdIdx.toNat + fifo.len.toNat) % 2 ^ 32 := by
  have := fifo.rdIdx.toNat_lt
  have := fifo.wrIdx.toNat_lt
  rw [len, toNat_sub]
  omega

theorem Valid.slot_eq (valid : fifo.Valid) (some_ : fifo.size ≠ 0) (idx : UInt32) :
    fifo.slot idx = idx.toNat % fifo.size.toNat := by
  obtain ⟨k, power⟩ := valid.power.resolve_left some_
  have positive := Nat.two_pow_pos k
  have small := fifo.size.toNat_lt
  have mask : (fifo.size - 1).toNat = 2 ^ k - 1 := by
    rw [toNat_sub, power]
    simp only [toNat_one]
    omega
  rw [slot, UInt32.toNat_and, mask, Nat.and_two_pow_sub_one_eq_mod, power]

theorem Valid.mod_wrap (valid : fifo.Valid) (some_ : fifo.size ≠ 0) (n : Nat) :
    n % 2 ^ 32 % fifo.size.toNat = n % fifo.size.toNat := by
  obtain ⟨k, power⟩ := valid.power.resolve_left some_
  have small := fifo.size.toNat_lt
  rw [power] at small ⊢
  have below : k ≤ 32 := Nat.le_of_lt ((Nat.pow_lt_pow_iff_right (by decide)).mp small)
  exact Nat.mod_mod_of_dvd _ (Nat.pow_dvd_pow 2 below)

theorem Valid.slot_wrIdx (valid : fifo.Valid) (some_ : fifo.size ≠ 0) :
    fifo.slot fifo.wrIdx = (fifo.rdIdx.toNat + fifo.len.toNat) % fifo.size.toNat := by
  rw [valid.slot_eq some_, wrIdx_toNat, valid.mod_wrap some_]

theorem size_ne_zero (room : fifo.len.toNat < fifo.size.toNat) : fifo.size ≠ 0 := by
  rintro zero
  rw [zero] at room
  simp at room

theorem put_len (room : fifo.len.toNat < fifo.size.toNat) (byte : UInt8) : (fifo.put byte).len.toNat = fifo.len.toNat + 1 := by
  have small := fifo.size.toNat_lt
  have := fifo.rdIdx.toNat_lt
  have := fifo.wrIdx.toNat_lt
  simp only [len, put, toNat_sub, toNat_add, toNat_one] at room ⊢
  omega

theorem Valid.put (valid : fifo.Valid) (room : fifo.len.toNat < fifo.size.toNat) (byte : UInt8) : (fifo.put byte).Valid := by
  refine ⟨valid.power, ?_, ?_⟩
  · simp only [DataFifo.put, length_set]
    exact valid.memory
  · rw [put_len room byte]
    exact room

theorem Valid.contents_put (valid : fifo.Valid) (room : fifo.len.toNat < fifo.size.toNat) (byte : UInt8) :
    (fifo.put byte).contents = fifo.contents ++ [byte] := by
  have some_ := size_ne_zero room
  have positive : 0 < fifo.size.toNat := by omega
  have place := valid.slot_wrIdx some_
  have inside : (fifo.rdIdx.toNat + fifo.len.toNat) % fifo.size.toNat < fifo.data.length := by
    rw [valid.memory]
    exact Nat.mod_lt _ positive
  unfold contents
  rw [put_len room byte, range_succ, map_append]
  congr 1
  · apply map_congr_left
    intro i member
    have older := mem_range.mp member
    have other : (fifo.rdIdx.toNat + fifo.len.toNat) % fifo.size.toNat ≠ (fifo.rdIdx.toNat + i) % fifo.size.toNat := by
      intro equal
      have same : fifo.len.toNat ≡ i [MOD fifo.size.toNat] := Nat.ModEq.add_left_cancel' _ equal
      have := same.eq_of_lt_of_lt room (by omega)
      omega
    simp only [DataFifo.put, place, getD_eq_getElem?_getD, getElem?_set_ne other]
  · simp only [DataFifo.put, place, map_cons, map_nil, getD_eq_getElem?_getD]
    rw [getElem?_set_self inside]
    rfl

theorem Valid.contents_foldl_put (valid : fifo.Valid) (bytes : List UInt8)
    (room : fifo.len.toNat + bytes.length ≤ fifo.size.toNat) :
    (bytes.foldl DataFifo.put fifo).contents = fifo.contents ++ bytes ∧ (bytes.foldl DataFifo.put fifo).Valid ∧
      (bytes.foldl DataFifo.put fifo).size = fifo.size := by
  induction bytes generalizing fifo with
  | nil => simp [valid]
  | cons byte bytes ih =>
    rw [length_cons] at room
    have first : fifo.len.toNat < fifo.size.toNat := by omega
    obtain ⟨contents, kept, size⟩ := ih (valid.put first byte) (by
      rw [put_len first byte]
      simp only [DataFifo.put]
      omega)
    refine ⟨?_, kept, size⟩
    rw [foldl_cons, contents, valid.contents_put first byte, append_assoc]
    rfl

theorem Valid.write (valid : fifo.Valid) {data : List UInt8} {size : UInt32} (there : size.toNat ≤ data.length) :
    (fifo.write data size).1.toNat = min size.toNat (fifo.size.toNat - fifo.len.toNat) ∧
      (fifo.write data size).2.contents = fifo.contents ++ data.take (fifo.write data size).1.toNat ∧
      (fifo.write data size).2.Valid ∧ (fifo.write data size).2.size = fifo.size := by
  have bounded := valid.bounded
  have small := fifo.size.toNat_lt
  have avail : fifo.availSize.toNat = fifo.size.toNat - fifo.len.toNat := by
    rw [availSize, toNat_sub]
    omega
  have written : (fifo.write data size).1.toNat = min size.toNat (fifo.size.toNat - fifo.len.toNat) := by
    simp only [DataFifo.write]
    split
    · rename_i less
      rw [lt_iff_toNat_lt] at less
      omega
    · rename_i more
      rw [lt_iff_toNat_lt] at more
      omega
  refine ⟨written, valid.contents_foldl_put (data.take (fifo.write data size).1.toNat) ?_⟩
  have taken : (data.take (fifo.write data size).1.toNat).length = (fifo.write data size).1.toNat := by
    rw [length_take]
    omega
  rw [taken]
  omega

theorem next_len (some_ : 0 < fifo.len.toNat) :
    ({ fifo with rdIdx := fifo.rdIdx + 1 } : DataFifo).len.toNat = fifo.len.toNat - 1 := by
  have := fifo.rdIdx.toNat_lt
  have := fifo.wrIdx.toNat_lt
  simp only [len, toNat_sub, toNat_add, toNat_one] at some_ ⊢
  omega

theorem Valid.contents_next (valid : fifo.Valid) (some_ : 0 < fifo.len.toNat) :
    fifo.contents = fifo.data.getD (fifo.slot fifo.rdIdx) 0 ::
      ({ fifo with rdIdx := fifo.rdIdx + 1 } : DataFifo).contents := by
  have bounded := valid.bounded
  have size : fifo.size ≠ 0 := by
    rintro zero
    rw [zero] at bounded
    simp at bounded
    omega
  obtain ⟨n, is⟩ : ∃ n, fifo.len.toNat = n + 1 := ⟨fifo.len.toNat - 1, by omega⟩
  unfold contents
  rw [next_len some_, is, range_succ_eq_map, map_cons, map_map, valid.slot_eq size]
  congr 1
  simp only [Nat.add_sub_cancel]
  apply map_congr_left
  intro i _
  have next : (fifo.rdIdx + 1).toNat ≡ fifo.rdIdx.toNat + 1 [MOD fifo.size.toNat] := by
    rw [toNat_add]
    exact valid.mod_wrap size _
  have place : ((fifo.rdIdx + 1).toNat + i) % fifo.size.toNat = (fifo.rdIdx.toNat + 1 + i) % fifo.size.toNat :=
    next.add_right i
  rw [place, Function.comp_apply, Nat.succ_eq_add_one, Nat.add_assoc, Nat.add_comm 1 i]

theorem Valid.next (valid : fifo.Valid) (some_ : 0 < fifo.len.toNat) :
    ({ fifo with rdIdx := fifo.rdIdx + 1 } : DataFifo).Valid := by
  have bounded := valid.bounded
  refine ⟨valid.power, valid.memory, ?_⟩
  rw [next_len some_]
  simp only
  omega

theorem Valid.take (valid : fifo.Valid) {n : Nat} (there : n ≤ fifo.len.toNat) :
    (fifo.take n).1 = fifo.contents.take n ∧ (fifo.take n).2.contents = fifo.contents.drop n ∧ (fifo.take n).2.Valid ∧
      (fifo.take n).2.size = fifo.size := by
  induction n generalizing fifo with
  | zero => simp [DataFifo.take, valid]
  | succ n ih =>
    have some_ : 0 < fifo.len.toNat := by omega
    obtain ⟨first, rest, kept, size⟩ := ih (valid.next some_) (by rw [next_len some_]; omega)
    rw [valid.contents_next some_]
    simp only [DataFifo.take, take_succ_cons, drop_succ_cons]
    exact ⟨by rw [first], rest, kept, size⟩

theorem Valid.read (valid : fifo.Valid) (size : UInt32) :
    (fifo.read size).1 = fifo.contents.take size.toNat ∧ (fifo.read size).2.contents = fifo.contents.drop size.toNat ∧
      (fifo.read size).2.Valid ∧ (fifo.read size).2.size = fifo.size := by
  unfold DataFifo.read
  by_cases less : size < fifo.len
  · rw [if_pos less]
    rw [lt_iff_toNat_lt] at less
    exact valid.take (Nat.le_of_lt less)
  · obtain ⟨first, rest, kept, size_⟩ := valid.take (Nat.le_refl _)
    rw [if_neg less]
    rw [lt_iff_toNat_lt] at less
    have long : fifo.contents.length ≤ size.toNat := by
      rw [length_contents]
      omega
    have all : fifo.contents.length ≤ fifo.len.toNat := by rw [length_contents]
    rw [first, rest, take_of_length_le all, take_of_length_le long, drop_of_length_le all, drop_of_length_le long]
    exact ⟨rfl, rfl, kept, size_⟩

end

end DataFifo

end Peripheral
