import Peripheral.BoundedQueue
import Peripheral.DataFifo
import Peripheral.Transitions

/-!
The fifo over whole runs: it is a bounded queue, however often its indices have come around.
-/
namespace Peripheral.DataFifo
open Transitions BoundedQueue

inductive Call
  | write (data : List UInt8) (size : UInt32)
  | read (size : UInt32)
  | reset
  | skip (size : UInt32)

def call (fifo : DataFifo) : Call → BoundedQueue.Reply UInt8 × DataFifo
  | .write data size =>
    let (written, fifo) := fifo.write data size
    (.written written.toNat, fifo)
  | .read size =>
    let (bytes, fifo) := fifo.read size
    (.got bytes, fifo)
  | .reset => (.done, fifo.reset)
  | .skip size => (.done, fifo.skip size)

def step (fifo : DataFifo) (c : Call) : DataFifo := (fifo.call c).2

def replies : DataFifo → List Call → List (BoundedQueue.Reply UInt8)
  | _, [] => []
  | fifo, c :: calls => (fifo.call c).1 :: replies (fifo.step c) calls

/-- As many bytes are there as are to be written, and no more is skipped than there is. -/
def May (fifo : DataFifo) : Call → Prop
  | .write data size => size.toNat ≤ data.length
  | .skip size => size ≤ fifo.len
  | .read _ | .reset => True

instance decidableMay (fifo : DataFifo) : (c : Call) → Decidable (May fifo c)
  | .write data size => inferInstanceAs (Decidable (size.toNat ≤ data.length))
  | .skip size => inferInstanceAs (Decidable (size ≤ fifo.len))
  | .read _ => inferInstanceAs (Decidable True)
  | .reset => inferInstanceAs (Decidable True)

def Call.op : Call → BoundedQueue.Op UInt8
  | .write data size => .write (data.take size.toNat)
  | .read size => .read size.toNat
  | .reset => .reset
  | .skip size => .skip size.toNat

variable {fifo : DataFifo}

theorem take_snd (fifo : DataFifo) (n : Nat) : (fifo.take n).2 = fifo.skip (UInt32.ofNat n) := by
  induction n generalizing fifo with
  | zero => simp [take, skip]
  | succ n ih =>
    rw [take, ih, skip, skip, UInt32.ofNat_add, UInt32.add_comm (UInt32.ofNat n), UInt32.add_assoc]
    rfl

theorem Valid.skip (valid : fifo.Valid) {size : UInt32} (there : size ≤ fifo.len) :
    (fifo.skip size).contents = fifo.contents.drop size.toNat ∧ (fifo.skip size).Valid ∧ (fifo.skip size).size = fifo.size := by
  have taken := (valid.take (UInt32.le_iff_toNat_le.mp there)).2
  rwa [take_snd, UInt32.ofNat_toNat] at taken

theorem Valid.reset (valid : fifo.Valid) : fifo.reset.contents = [] ∧ fifo.reset.Valid := by
  have empty : fifo.reset.len = 0 := by simp [DataFifo.reset, len]
  refine ⟨by simp [contents, empty], valid.power, valid.memory, ?_⟩
  rw [empty]
  exact Nat.zero_le _

theorem Valid.call (valid : fifo.Valid) {c : Call} (may : May fifo c) :
    ((fifo.call c).1, (fifo.call c).2.contents) = apply fifo.size.toNat fifo.contents c.op ∧
      (fifo.step c).Valid ∧ (fifo.step c).size = fifo.size := by
  cases c with
  | write data size =>
    obtain ⟨written, contents, kept, same⟩ := valid.write may
    have length : min (data.take size.toNat).length (fifo.size.toNat - fifo.contents.length) =
        (fifo.write data size).1.toNat := by
      rw [written, List.length_take, Nat.min_eq_left may, length_contents]
    have short : (fifo.write data size).1.toNat ≤ size.toNat := by
      rw [written]
      exact Nat.min_le_left _ _
    refine ⟨?_, kept, same⟩
    simp only [DataFifo.call, apply, Call.op, length, contents, List.take_take, Nat.min_eq_left short]
  | read size =>
    obtain ⟨first, rest, kept, same⟩ := valid.read size
    refine ⟨?_, kept, same⟩
    simp only [DataFifo.call, apply, Call.op, first, rest]
  | reset =>
    obtain ⟨empty, kept⟩ := valid.reset
    refine ⟨?_, kept, rfl⟩
    simp only [DataFifo.call, apply, Call.op, empty]
  | skip size =>
    obtain ⟨rest, kept, same⟩ := valid.skip may
    refine ⟨?_, kept, same⟩
    simp only [DataFifo.call, apply, Call.op, rest]

theorem Valid.run (valid : fifo.Valid) {calls : List Call} (taken : Takes step May fifo calls) :
    (replies fifo calls, (calls.foldl step fifo).contents) = run fifo.size.toNat fifo.contents (calls.map Call.op) := by
  induction calls generalizing fifo with
  | nil => rfl
  | cons c calls ih =>
    obtain ⟨first, kept, same⟩ := valid.call taken.1
    have rest := ih kept taken.2
    rw [same] at rest
    rw [List.map_cons, run, ← first]
    simp only [replies, List.foldl_cons]
    rw [← show (fifo.step c).contents = (fifo.call c).2.contents from rfl, ← rest]

/-- From its beginning on, the fifo replies as a queue of its size does, holds what that holds, and its length is that of the
    queue. -/
theorem refines_queue {size : UInt32} (power : ∃ k, size.toNat = 2 ^ k) {data : List UInt8} (memory : data.length = size.toNat)
    {calls : List Call} (taken : Takes step May (init size data) calls) :
    (replies (init size data) calls, (calls.foldl step (init size data)).contents) = run size.toNat [] (calls.map Call.op) ∧
      (calls.foldl step (init size data)).len.toNat = (run size.toNat [] (calls.map Call.op)).2.length ∧
      (calls.foldl step (init size data)).len.toNat ≤ size.toNat := by
  have run := (Valid.init (.inr power) memory).run taken
  rw [contents_init] at run
  have length : (calls.foldl step (init size data)).len.toNat = (BoundedQueue.run size.toNat [] (calls.map Call.op)).2.length := by
    rw [← length_contents]
    exact congrArg (fun r => r.2.length) run
  refine ⟨run, length, ?_⟩
  rw [length]
  exact BoundedQueue.run_bounded (Nat.zero_le _) _

def twoBytes : List Call := [.write [1, 2, 3] 3, .read 1, .write [4] 1, .skip 1, .read 5]

theorem refines_queue_two : (replies (init 2 [0, 0]) twoBytes, (twoBytes.foldl step (init 2 [0, 0])).contents) =
      run 2 [] (twoBytes.map Call.op) ∧
    (twoBytes.foldl step (init 2 [0, 0])).len.toNat = (run 2 [] (twoBytes.map Call.op)).2.length ∧
    (twoBytes.foldl step (init 2 [0, 0])).len.toNat ≤ 2 :=
  refines_queue ⟨1, rfl⟩ rfl (by decide)

end Peripheral.DataFifo
