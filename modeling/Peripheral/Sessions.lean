import Mathlib.Data.List.Basic

/-!
The sessions of many owners in one log. An owner opens and closes its session in turn; whether it is open is
undefined from the first call that is out of turn.
-/
namespace Peripheral.Sessions

variable {ι : Type} [DecidableEq ι]

inductive Call
  | opens
  | closes
  deriving DecidableEq

def Call.turn (state : Option Bool) : Call → Option Bool
  | .opens => if state = some false then some true else none
  | .closes => if state = some true then some false else none

def opened (log : List (ι × Call)) (i : ι) : Option Bool :=
  log.foldl (fun state entry => if entry.1 = i then entry.2.turn state else state) (some false)

variable {log more : List (ι × Call)} {i j : ι}

theorem opened_of_absent (absent : ∀ entry ∈ log, entry.1 ≠ i) : opened log i = some false := by
  unfold opened
  generalize some false = state
  induction log generalizing state with
  | nil => rfl
  | cons entry rest ih =>
    obtain ⟨first, behind⟩ := List.forall_mem_cons.mp absent
    rw [List.foldl_cons, if_neg first]
    exact ih behind state

theorem opened_append_self (log : List (ι × Call)) (i : ι) (calls : List Call) :
    opened (log ++ calls.map (Prod.mk i)) i = calls.foldl Call.turn (opened log i) := by
  rw [opened, List.foldl_append, ← opened, List.foldl_map]
  simp only [if_true]

theorem opened_append_other (log : List (ι × Call)) (calls : List Call) (other : i ≠ j) :
    opened (log ++ calls.map (Prod.mk i)) j = opened log j := by
  rw [opened, List.foldl_append, ← opened, List.foldl_map]
  simp only [if_neg other]
  induction calls with
  | nil => rfl
  | cons c rest ih => exact ih

theorem opened_append_none (wrong : opened log i = none) : opened (log ++ more) i = none := by
  rw [opened, List.foldl_append, ← opened, wrong]
  induction more with
  | nil => rfl
  | cons entry rest ih =>
    rw [List.foldl_cons]
    split
    · cases entry.2 <;> exact ih
    · exact ih

end Peripheral.Sessions
