import Peripheral.Tiling

/-!
Consecutive parts: a list is cut into parts of given lengths, each of which begins where the
one before ends.
-/
namespace Peripheral.Tiling

variable {α : Type}

def Interval.part (v : Interval) (l : List α) : List α := (l.drop v.start).take v.len

/-- The intervals of these lengths, one after the other. -/
def cuts (start : Nat) : List Nat → List Interval
  | [] => []
  | len :: lens => ⟨start, len⟩ :: cuts (start + len) lens

theorem cuts_bounded {start : Nat} {lens : List Nat} {v : Interval} (member : v ∈ cuts start lens) :
    v.start + v.len ≤ start + lens.sum := by
  induction lens generalizing start with
  | nil => simp [cuts] at member
  | cons len lens ih =>
    rw [cuts, List.mem_cons] at member
    rw [List.sum_cons]
    rcases member with rfl | member
    · simp
    · have bounded := ih member
      omega

theorem Tiles.cuts {l : List Interval} {n : Nat} (tiles : Tiles 1 l n) (lens : List Nat) :
    Tiles 1 (l ++ Tiling.cuts n lens) (n + lens.sum) := by
  induction lens generalizing l n with
  | nil => simpa [Tiling.cuts] using tiles
  | cons len lens ih =>
    have next := ih (tiles.snoc (Nat.one_dvd len))
    simpa [Tiling.cuts, Nat.add_assoc] using next

theorem part_cuts (before : List α) (parts : List (List α)) (behind : List α) :
    (cuts before.length (parts.map List.length)).map (fun v => v.part (before ++ parts.flatten ++ behind)) = parts := by
  induction parts generalizing before with
  | nil => rfl
  | cons part parts ih =>
    have rest := ih (before ++ part)
    simp only [List.append_assoc, List.length_append] at rest
    have first : (⟨before.length, part.length⟩ : Interval).part (before ++ (part ++ (parts.flatten ++ behind))) = part := by
      rw [Interval.part, List.drop_left, List.take_left]
    simp only [List.map_cons, cuts, List.flatten_cons, List.append_assoc, first, rest]

end Peripheral.Tiling
