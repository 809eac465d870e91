import Mathlib.Data.List.Basic

/-!
A queue that holds no more than so many elements. What is written goes to its end as far as there is room, and what is read is
taken from its front.
-/
namespace Peripheral.BoundedQueue

variable {α : Type}

inductive Op (α : Type)
  | write (l : List α)
  | read (n : Nat)
  | reset
  | skip (n : Nat)

inductive Reply (α : Type)
  | written (n : Nat)
  | got (l : List α)
  | done
  deriving DecidableEq

def apply (capacity : Nat) (queue : List α) : Op α → Reply α × List α
  | .write l =>
    let n := min l.length (capacity - queue.length)
    (.written n, queue ++ l.take n)
  | .read n => (.got (queue.take n), queue.drop n)
  | .reset => (.done, [])
  | .skip n => (.done, queue.drop n)

def run (capacity : Nat) : List α → List (Op α) → List (Reply α) × List α
  | queue, [] => ([], queue)
  | queue, op :: ops =>
    let (reply, queue) := apply capacity queue op
    let (replies, queue) := run capacity queue ops
    (reply :: replies, queue)

variable {capacity : Nat} {queue : List α}

theorem apply_bounded (bounded : queue.length ≤ capacity) (op : Op α) : (apply capacity queue op).2.length ≤ capacity := by
  cases op with
  | write l =>
    simp only [apply, List.length_append, List.length_take]
    omega
  | read n =>
    simp only [apply, List.length_drop]
    omega
  | reset => exact Nat.zero_le _
  | skip n =>
    simp only [apply, List.length_drop]
    omega

theorem run_bounded (bounded : queue.length ≤ capacity) (ops : List (Op α)) : (run capacity queue ops).2.length ≤ capacity := by
  induction ops generalizing queue with
  | nil => exact bounded
  | cons op ops ih => exact ih (apply_bounded bounded op)

end Peripheral.BoundedQueue
