import Mathlib.Logic.Basic

/-!
Systems whose steps answer, or halt so that nothing follows. Two of them have the same runs
when they answer alike, or halt alike, from all states that are related.
-/
namespace Peripheral.Simulations

variable {σ τ ε α η : Type}

/-- The answers of a run, and why it halted if it did. -/
def trace (step : σ → ε → Except η (σ × α)) : σ → List ε → List α × Option η
  | _, [] => ([], none)
  | s, e :: rest =>
    match step s e with
    | .error why => ([], some why)
    | .ok (next, answer) => (answer :: (trace step next rest).1, (trace step next rest).2)

inductive Alike (related : σ → τ → Prop) : Except η (σ × α) → Except η (τ × α) → Prop
  | halts (why : η) : Alike related (.error why) (.error why)
  | answers {s : σ} {t : τ} (now : related s t) (answer : α) : Alike related (.ok (s, answer)) (.ok (t, answer))

theorem Alike.mono {σ' τ' : Type} {related : σ → τ → Prop} {later : σ' → τ' → Prop} {r : Except η (σ × α)}
    {r' : Except η (τ × α)} (alike : Alike related r r') (f : σ → σ') (g : τ → τ')
    (leads : ∀ s t, related s t → later (f s) (g t)) :
    Alike later (r.map fun x => (f x.1, x.2)) (r'.map fun x => (g x.1, x.2)) := by
  cases alike with
  | halts why => exact .halts why
  | answers now answer => exact .answers (leads _ _ now) answer

theorem trace_eq {step : σ → ε → Except η (σ × α)} {step' : τ → ε → Except η (τ × α)} {related : σ → τ → Prop}
    (alike : ∀ s t e, related s t → Alike related (step s e) (step' t e)) (steps : List ε) {s : σ} {t : τ}
    (begins : related s t) : trace step s steps = trace step' t steps := by
  induction steps generalizing s t with
  | nil => rfl
  | cons e rest ih =>
    have first := alike s t e begins
    rw [trace, trace]
    cases did : step s e with
    | error why =>
      rw [did] at first
      cases would : step' t e with
      | error why' => rw [would] at first; cases first; rfl
      | ok after => rw [would] at first; cases first
    | ok after =>
      rw [did] at first
      cases would : step' t e with
      | error why' => rw [would] at first; cases first
      | ok after' =>
        rw [would] at first
        cases first with
        | answers now answer => simp only [ih now]

/-- What a run of steps that do not halt keeps. -/
theorem trace_goesOn {step : σ → ε → Except η (σ × α)} {holds : σ → List ε → Prop}
    (goesOn : ∀ s e rest, holds s (e :: rest) → ∃ next answer, step s e = .ok (next, answer) ∧ holds next rest)
    (steps : List ε) {s : σ} (begins : holds s steps) : (trace step s steps).2 = none := by
  induction steps generalizing s with
  | nil => rfl
  | cons e rest ih =>
    obtain ⟨next, answer, did, after⟩ := goesOn s e rest begins
    rw [trace, did]
    exact ih after

end Peripheral.Simulations
