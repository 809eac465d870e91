import Mathlib.Data.List.Nodup
import Mathlib.Data.List.Perm.Basic

/-!
Lists from which the first element with a property is taken. A search finds the element
that `eraseP` removes, so that the two together keep what the list has.
-/
namespace Peripheral.Searches
open List

variable {α β : Type}

variable {l : List α}

theorem eraseP_of_find? [DecidableEq α] {p : α → Bool} {a : α} (found : l.find? p = some a) : l.eraseP p = l.erase a := by
  induction l with
  | nil => cases found
  | cons b l ih =>
    by_cases first : p b
    · rw [find?_cons_of_pos first] at found
      cases found
      rw [eraseP_cons_of_pos first, erase_cons_head]
    · rw [find?_cons_of_neg first] at found
      have differs : b ≠ a := fun same => first (same ▸ find?_some found)
      rw [eraseP_cons_of_neg first, ih found, erase_cons_tail (by simpa using differs)]

theorem perm_eraseP {p : α → Bool} {a : α} (found : l.find? p = some a) : l.Perm (a :: l.eraseP p) := by
  classical
  rw [eraseP_of_find? found]
  exact perm_cons_erase (mem_of_find?_eq_some found)

theorem mem_eraseP [DecidableEq β] {key : α → β} {list : List α} {b : β} (distinct : (list.map key).Nodup) (a : α) :
    a ∈ list.eraseP (fun a => key a = b) ↔ a ∈ list ∧ key a ≠ b := by
  induction list with
  | nil => simp
  | cons head rest ih =>
    rw [map_cons, nodup_cons] at distinct
    by_cases found : key head = b
    · have others : ∀ x ∈ rest, key x ≠ b := by
        intro x member same
        exact distinct.1 (mem_map.mpr ⟨x, member, same.trans found.symm⟩)
      rw [eraseP_cons_of_pos (by simpa using found), mem_cons]
      constructor
      · intro member
        exact ⟨.inr member, others a member⟩
      · rintro ⟨rfl | member, other⟩
        · exact absurd found other
        · exact member
    · rw [eraseP_cons_of_neg (by simpa using found), mem_cons, mem_cons, ih distinct.2]
      constructor
      · rintro (rfl | ⟨member, other⟩)
        · exact ⟨.inl rfl, found⟩
        · exact ⟨.inr member, other⟩
      · rintro ⟨rfl | member, other⟩
        · exact .inl rfl
        · exact .inr ⟨member, other⟩

/-- Of two searches through a list the one that finds less finds the same only if it finds each thing that the other does. -/
theorem filterMap_eq_iff {f g : α → Option β} (sub : ∀ a ∈ l, (f a).isSome → (g a).isSome) :
    l.filterMap f = l.filterMap g ↔ ∀ a ∈ l, f a = g a := by
  have fewer : ∀ l : List α, (∀ a ∈ l, (f a).isSome → (g a).isSome) → (l.filterMap f).length ≤ (l.filterMap g).length := by
    intro l
    induction l with
    | nil => exact fun _ => Nat.le_refl _
    | cons a rest ih =>
      intro sub
      have later := ih fun b member => sub b (mem_cons_of_mem _ member)
      have here := sub a mem_cons_self
      cases first : f a with
      | none =>
        rw [filterMap_cons_none first]
        cases other : g a with
        | none =>
          rw [filterMap_cons_none other]
          exact later
        | some c =>
          rw [filterMap_cons_some other, length_cons]
          exact Nat.le_succ_of_le later
      | some b =>
        rw [first] at here
        obtain ⟨c, other⟩ := Option.isSome_iff_exists.mp (here rfl)
        rw [filterMap_cons_some first, filterMap_cons_some other]
        exact Nat.succ_le_succ later
  induction l with
  | nil => simp
  | cons a rest ih =>
    have sub' : ∀ b ∈ rest, (f b).isSome → (g b).isSome := fun b member => sub b (mem_cons_of_mem _ member)
    have here := sub a mem_cons_self
    have tail := ih sub'
    rw [forall_mem_cons]
    cases first : f a with
    | none =>
      rw [filterMap_cons_none first]
      cases other : g a with
      | none =>
        rw [filterMap_cons_none other]
        exact ⟨fun same => ⟨rfl, tail.mp same⟩, fun all => tail.mpr all.2⟩
      | some c =>
        rw [filterMap_cons_some other]
        refine iff_of_false (fun same => ?_) (by simp)
        have less := fewer rest sub'
        rw [same, length_cons] at less
        exact Nat.not_succ_le_self _ less
    | some b =>
      rw [first] at here
      obtain ⟨c, other⟩ := Option.isSome_iff_exists.mp (here rfl)
      rw [filterMap_cons_some first, filterMap_cons_some other, cons.injEq, other, Option.some.injEq]
      exact and_congr_right fun _ => tail

end Peripheral.Searches
