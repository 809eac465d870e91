import Mathlib.Data.List.Induction
import Mathlib.Data.List.Sort

/-!
Lists that are kept in the order of a key. Items with the same key stand in the order in
which they arrived: one that arrives goes behind all whose key is not greater, and one that
is taken out is looked for among those with its key.
-/
namespace Peripheral.Stacking
open List

variable {α β κ : Type} [LinearOrder κ] {key : α → κ} {arrivals order others : List α}

/-- The items by their keys, and those with one key as they arrived. -/
structure Stacked (key : α → κ) (arrivals order : List α) : Prop where
  sorted : order.Pairwise fun a b => key a ≤ key b
  stable : ∀ k, order.filter (key · = k) = arrivals.filter (key · = k)

def put (key : α → κ) (a : α) (order : List α) : List α := order.orderedInsert (fun a b => key a < key b) a

def stack (key : α → κ) (arrivals : List α) : List α := arrivals.foldl (fun order a => put key a order) []

/-- The item is looked for in the range of its key. -/
def remove [DecidableEq α] (key : α → κ) (a : α) : List α → List α
  | [] => []
  | b :: rest =>
    if key b < key a then b :: remove key a rest
    else if key a < key b then b :: rest
    else if b = a then rest
    else b :: remove key a rest

@[simp] theorem stack_append (a : α) : stack key (arrivals ++ [a]) = put key a (stack key arrivals) := by
  simp [stack]

theorem mem_put {a b : α} : b ∈ put key a order ↔ b = a ∨ b ∈ order := mem_orderedInsert _

theorem put_sorted (a : α) (sorted : order.Pairwise fun a b => key a ≤ key b) :
    (put key a order).Pairwise fun a b => key a ≤ key b := by
  induction order with
  | nil => simp [put]
  | cons b rest ih =>
    obtain ⟨first, later⟩ := pairwise_cons.mp sorted
    rw [put, orderedInsert_cons]
    split
    · rename_i below
      refine pairwise_cons.mpr ⟨fun c member => ?_, sorted⟩
      rcases mem_cons.mp member with rfl | member
      · exact below.le
      · exact below.le.trans (first c member)
    · rename_i above
      refine pairwise_cons.mpr ⟨fun c member => ?_, ih later⟩
      rcases mem_put.mp member with rfl | member
      · exact not_lt.mp above
      · exact first c member

theorem put_filter (a : α) (k : κ) (sorted : order.Pairwise fun a b => key a ≤ key b) :
    (put key a order).filter (key · = k) = (order ++ [a]).filter (key · = k) := by
  induction order with
  | nil => simp [put]
  | cons b rest ih =>
    obtain ⟨first, later⟩ := pairwise_cons.mp sorted
    rw [put, orderedInsert_cons]
    split
    · -- Everything from here on has a greater key than the new item.
      rename_i below
      have greater : ∀ c ∈ b :: rest, key a < key c := by
        intro c member
        rcases mem_cons.mp member with rfl | member
        · exact below
        · exact below.trans_le (first c member)
      by_cases its : key a = k
      · have none : (b :: rest).filter (key · = k) = [] :=
          filter_eq_nil_iff.mpr fun c member => by simpa [← its] using (greater c member).ne'
        rw [filter_cons, filter_append, none]
        simp [its]
      · rw [filter_cons, filter_append]
        simp [its]
    · rw [cons_append, filter_cons, filter_cons, ← ih later]
      rfl

namespace Stacked

section
variable (stacked : Stacked key arrivals order)
include stacked

theorem put (a : α) : Stacked key (arrivals ++ [a]) (put key a order) where
  sorted := put_sorted a stacked.sorted
  stable k := by rw [put_filter a k stacked.sorted, filter_append, stacked.stable, ← filter_append]

theorem filter (p : α → Bool) : Stacked key (arrivals.filter p) (order.filter p) where
  sorted := stacked.sorted.filter p
  stable k := by
    rw [filter_comm, stacked.stable, filter_comm]

theorem perm : order.Perm arrivals := by
  classical
  refine perm_iff_count.mpr fun a => ?_
  rw [← count_filter (p := (key · = key a)) (by simp), stacked.stable, count_filter (by simp)]

theorem mem {a : α} : a ∈ order ↔ a ∈ arrivals := stacked.perm.mem_iff

/-- The order is settled by the arrivals. -/
theorem unique (again : Stacked key arrivals others) : order = others := by
  have same : ∀ k, order.filter (key · = k) = others.filter (key · = k) := fun k =>
    (stacked.stable k).trans (again.stable k).symm
  have sorted := stacked.sorted
  have alike := again.sorted
  clear stacked again
  induction order generalizing others with
  | nil =>
    cases others with
    | nil => rfl
    | cons b rest => simpa using same (key b)
  | cons a rest ih =>
    have there : a ∈ others := mem_of_mem_filter (p := (key · = key a)) (by rw [← same]; simp)
    cases others with
    | nil => cases there
    | cons b more =>
      have back : b ∈ a :: rest := mem_of_mem_filter (p := (key · = key b)) (by rw [same]; simp)
      obtain ⟨first, later⟩ := pairwise_cons.mp sorted
      obtain ⟨first', later'⟩ := pairwise_cons.mp alike
      have keys : key a = key b := by
        rcases mem_cons.mp there with rfl | there
        · rfl
        · rcases mem_cons.mp back with rfl | back
          · rfl
          · exact le_antisymm (first b back) (first' a there)
      have heads : a = b := by simpa [keys] using congrArg head? (same (key a))
      subst heads
      refine congrArg (a :: ·) (ih (fun k => ?_) later later')
      have all := same k
      rw [filter_cons, filter_cons] at all
      split at all
      · exact tail_eq_of_cons_eq all
      · exact all

end

end Stacked

theorem stacked_stack (key : α → κ) (arrivals : List α) : Stacked key arrivals (stack key arrivals) := by
  induction arrivals using reverseRecOn with
  | nil => exact ⟨.nil, fun _ => rfl⟩
  | append_singleton before a ih =>
    rw [stack_append]
    exact ih.put a

theorem stack_filter (p : α → Bool) : stack key (arrivals.filter p) = (stack key arrivals).filter p :=
  (stacked_stack key _).unique ((stacked_stack key arrivals).filter p)

@[simp] theorem mem_stack {a : α} : a ∈ stack key arrivals ↔ a ∈ arrivals := (stacked_stack key arrivals).mem

theorem put_map {key' : β → κ} (f : α → β) {a : α} (own : key' (f a) = key a) (same : ∀ b ∈ order, key' (f b) = key b) :
    put key' (f a) (order.map f) = (put key a order).map f := by
  induction order with
  | nil => rfl
  | cons b rest ih =>
    rw [map_cons, put, put, orderedInsert_cons, orderedInsert_cons, own, same b (by simp)]
    split
    · rfl
    · exact congrArg (f b :: ·) (ih fun c member => same c (mem_cons_of_mem _ member))

theorem stack_map {key' : β → κ} (f : α → β) (same : ∀ b ∈ arrivals, key' (f b) = key b) :
    stack key' (arrivals.map f) = (stack key arrivals).map f := by
  induction arrivals using reverseRecOn with
  | nil => rfl
  | append_singleton before a ih =>
    rw [map_append, map_singleton, stack_append, stack_append, ih fun b member => same b (by simp [member])]
    exact put_map f (same a (by simp)) fun b member => same b (by simp [mem_stack.mp member])

theorem remove_eq [DecidableEq α] (a : α) (sorted : order.Pairwise fun a b => key a ≤ key b) (distinct : order.Nodup) :
    remove key a order = order.filter (· ≠ a) := by
  induction order with
  | nil => rfl
  | cons b rest ih =>
    obtain ⟨first, later⟩ := pairwise_cons.mp sorted
    obtain ⟨alone, distinct⟩ := nodup_cons.mp distinct
    have goesOn (other : b ≠ a) : b :: remove key a rest = (b :: rest).filter (· ≠ a) := by
      rw [ih later distinct, filter_cons_of_pos (by simpa using other)]
    rw [remove]
    split
    · rename_i below
      exact goesOn fun same => (same ▸ below).false
    split
    · rename_i above
      refine (filter_eq_self.mpr fun c member => ?_).symm
      have greater : key a < key c := by
        rcases mem_cons.mp member with rfl | member
        · exact above
        · exact above.trans_le (first c member)
      simpa using fun same : c = a => (same ▸ greater).false
    split
    · rename_i same
      subst same
      rw [filter_cons_of_neg (by simp)]
      exact (filter_eq_self.mpr fun c member => by simpa using ne_of_mem_of_not_mem member alone).symm
    · exact goesOn ‹_›

end Peripheral.Stacking
