import Mathlib.Logic.Basic

/-!
Systems that take one step after the other. A system is given by what each step does
and by when it may be taken; the states of its runs are those it `Reaches`. What holds
first and is kept by every step holds in all of them, and a run is checked by taking
its steps.
-/
namespace Peripheral.Transitions

variable {σ ε : Type}

/-- The states of the runs from `first` in which every step may be taken. -/
inductive Reaches (step : σ → ε → σ) (may : σ → ε → Prop) (first : σ) : σ → Prop
  | first : Reaches step may first first
  | next {s : σ} (before : Reaches step may first s) (e : ε) (ok : may s e) : Reaches step may first (step s e)

variable {step : σ → ε → σ} {may more : σ → ε → Prop} {first s t : σ}

namespace Reaches

theorem keeps {holds : σ → Prop} (begins : holds first) (kept : ∀ s e, holds s → may s e → holds (step s e))
    (reached : Reaches step may first s) : holds s := by
  induction reached with
  | first => exact begins
  | next _ e ok holds => exact kept _ e holds ok

theorem trans (reached : Reaches step may first s) (later : Reaches step may s t) : Reaches step may first t := by
  induction later with
  | first => exact reached
  | next _ e ok before => exact .next before e ok

end Reaches

def Takes (step : σ → ε → σ) (may : σ → ε → Prop) (s : σ) : List ε → Prop
  | [] => True
  | e :: rest => may s e ∧ Takes step may (step s e) rest

instance Takes.decide [decides : ∀ s e, Decidable (may s e)] :
    (s : σ) → (steps : List ε) → Decidable (Takes step may s steps)
  | _, [] => inferInstanceAs (Decidable True)
  | s, e :: rest => @instDecidableAnd _ _ (decides s e) (Takes.decide (step s e) rest)

theorem Takes.append {before behind : List ε} :
    Takes step may s (before ++ behind) ↔ Takes step may s before ∧ Takes step may (before.foldl step s) behind := by
  induction before generalizing s with
  | nil => simp [Takes]
  | cons e rest ih => simp only [List.cons_append, Takes, ih, List.foldl_cons, and_assoc]

variable {steps : List ε}

/-- What holds first and is kept by every step is there for each step of a run. -/
theorem Takes.mono {holds : σ → Prop} (kept : ∀ s e, holds s → may s e → more s e ∧ holds (step s e)) (begins : holds s)
    (taken : Takes step may s steps) : Takes step more s steps := by
  induction steps generalizing s with
  | nil => trivial
  | cons e rest later =>
    obtain ⟨first, after⟩ := kept s e begins taken.1
    exact ⟨first, later after taken.2⟩

theorem Takes.congr {holds : σ → Prop} (same : ∀ s e, holds s → (may s e ↔ more s e))
    (kept : ∀ s e, holds s → may s e → holds (step s e))
    (begins : holds s) : Takes step may s steps ↔ Takes step more s steps := by
  induction steps generalizing s with
  | nil => exact Iff.rfl
  | cons e rest later =>
    refine (and_congr_right fun first => later (kept s e begins first)).trans ?_
    exact and_congr_left' (same s e begins)

theorem Takes.reaches (taken : Takes step may s steps) : Reaches step may s (steps.foldl step s) := by
  induction steps generalizing s with
  | nil => exact .first
  | cons e rest later => exact (Reaches.first.next e taken.1).trans (later taken.2)

end Peripheral.Transitions
