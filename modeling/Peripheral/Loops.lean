import Mathlib.Tactic

/-!
Computations of programs whose loops need not end and whose accesses need not be
inside their memory. A computation is given some fuel: a loop that uses it up is
stuck, an access outside is a fault. What a computation comes to does not depend
on the fuel, as long as there is enough of it, and a loop that never ends is stuck
with any amount. The rules follow a program from its parts to the whole.
-/
namespace Peripheral.Loops

inductive Outcome (ε α : Type)
  | ret (a : α)
  | error (e : ε)
  | fault
  | stuck
  deriving DecidableEq

variable {ε α β σ : Type}

namespace Outcome

/-- The rest of a computation runs on what the first part returned. -/
def bind : Outcome ε α → (α → Outcome ε β) → Outcome ε β
  | .ret a, f => f a
  | .error e, _ => .error e
  | .fault, _ => .fault
  | .stuck, _ => .stuck

instance : Monad (Outcome ε) where
  pure := .ret
  bind := bind

@[simp] theorem pure_eq (a : α) : (pure a : Outcome ε α) = .ret a := rfl
@[simp] theorem ret_bind (a : α) (f : α → Outcome ε β) : (Outcome.ret a >>= f) = f a := rfl
@[simp] theorem error_bind (e : ε) (f : α → Outcome ε β) : (Outcome.error e >>= f) = .error e := rfl
@[simp] theorem fault_bind (f : α → Outcome ε β) : (Outcome.fault >>= f) = .fault := rfl
@[simp] theorem stuck_bind (f : α → Outcome ε β) : (Outcome.stuck >>= f) = .stuck := rfl

theorem bind_eq_ret {o : Outcome ε α} {f : α → Outcome ε β} {b : β} : (o >>= f) = .ret b ↔ ∃ a, o = .ret a ∧ f a = .ret b := by
  cases o <;> simp

def Ended : Outcome ε α → Prop
  | .ret _ | .error _ => True
  | .fault | .stuck => False

end Outcome

def iterate (body : Nat → σ → Outcome ε (σ ⊕ α)) : Nat → σ → Outcome ε α
  | 0, _ => .stuck
  | fuel+1, s => body fuel s >>= fun
    | .inl s => iterate body fuel s
    | .inr a => .ret a

/-- The computation gives `o` as soon as there is enough fuel, and never anything else but to be stuck. -/
def Comes (c : Nat → Outcome ε α) (o : Outcome ε α) : Prop :=
  (∃ enough, ∀ fuel ≥ enough, c fuel = o) ∧ ∀ fuel, c fuel = o ∨ c fuel = .stuck

namespace Comes
variable {c : Nat → Outcome ε α} {o : Outcome ε α}

theorem always (same : ∀ fuel, c fuel = o) : Comes c o := ⟨⟨0, fun fuel _ => same fuel⟩, fun fuel => .inl (same fuel)⟩

theorem const (o : Outcome ε α) : Comes (fun _ => o) o := always (fun _ => rfl)

theorem eq_of_eq {o' : Outcome ε α} (comes : Comes c o) {fuel : Nat} (is : c fuel = o') (ended : o' ≠ .stuck) : o = o' := by
  rcases comes.2 fuel with same | stuck
  · exact same.symm.trans is
  · exact absurd (is.symm.trans stuck) ended

theorem unique {o' : Outcome ε α} (first : Comes c o) (second : Comes c o') (ended : o' ≠ .stuck) : o = o' := by
  obtain ⟨enough, is⟩ := second.1
  exact first.eq_of_eq (is enough (Nat.le_refl _)) ended

theorem bind {k : Nat → α → Outcome ε β} {a : α} {p : Outcome ε β} (first : Comes c (.ret a))
    (rest : Comes (fun fuel => k fuel a) p) : Comes (fun fuel => c fuel >>= k fuel) p := by
  obtain ⟨⟨enough, is⟩, always⟩ := first
  obtain ⟨⟨enough', is'⟩, always'⟩ := rest
  constructor
  · refine ⟨max enough enough', fun fuel more => ?_⟩
    simp only [is fuel (by omega), Outcome.ret_bind]
    exact is' fuel (by omega)
  · intro fuel
    rcases always fuel with same | stuck
    · simp only [same, Outcome.ret_bind]
      exact always' fuel
    · simp [stuck]

theorem bind_fails {k : Nat → α → Outcome ε β} {p : Outcome ε β} (first : Comes c o)
    (fails : ∀ f : α → Outcome ε β, (o >>= f) = p) : Comes (fun fuel => c fuel >>= k fuel) p := by
  obtain ⟨⟨enough, is⟩, always⟩ := first
  constructor
  · refine ⟨enough, fun fuel more => ?_⟩
    simp only [is fuel more]
    exact fails _
  · intro fuel
    rcases always fuel with same | stuck
    · simp only [same]
      exact .inl (fails _)
    · simp [stuck]

theorem map {f : α → Outcome ε β} (first : Comes c o) : Comes (fun fuel => c fuel >>= f) (o >>= f) := by
  obtain ⟨⟨enough, is⟩, always⟩ := first
  constructor
  · exact ⟨enough, fun fuel more => by simp only [is fuel more]⟩
  · intro fuel
    rcases always fuel with same | stuck
    · exact .inl (by simp only [same])
    · exact .inr (by simp only [stuck, Outcome.stuck_bind])

end Comes

section
variable {body : Nat → σ → Outcome ε (σ ⊕ α)} {s s' : σ}

theorem iterate_succ (fuel : Nat) : iterate body (fuel + 1) s = body fuel s >>= fun
    | .inl s => iterate body fuel s
    | .inr a => .ret a := rfl

/-- A body that settles decides the loop, together with what the loop comes to from the next state. -/
theorem comes_iterate {b : Outcome ε (σ ⊕ α)} {o : Outcome ε α} (step : Comes (fun fuel => body fuel s) b)
    (rest : Comes (fun fuel => b >>= fun
      | .inl s => iterate body fuel s
      | .inr a => .ret a) o) : Comes (fun fuel => iterate body fuel s) o := by
  obtain ⟨⟨enough, is⟩, always⟩ := step
  obtain ⟨⟨enough', is'⟩, always'⟩ := rest
  constructor
  · refine ⟨max enough enough' + 1, fun fuel more => ?_⟩
    obtain ⟨fuel, rfl⟩ : ∃ n, fuel = n + 1 := ⟨fuel - 1, by omega⟩
    simp only [iterate_succ, is fuel (by omega)]
    exact is' fuel (by omega)
  · intro fuel
    cases fuel with
    | zero => exact .inr rfl
    | succ fuel =>
      rcases always fuel with same | stuck
      · simp only [iterate_succ, same]
        exact always' fuel
      · simp [iterate_succ, stuck]

theorem comes_iterate_next {o : Outcome ε α} (step : Comes (fun fuel => body fuel s) (.ret (.inl s')))
    (rest : Comes (fun fuel => iterate body fuel s') o) : Comes (fun fuel => iterate body fuel s) o :=
  comes_iterate step rest

theorem comes_iterate_break {a : α} (step : Comes (fun fuel => body fuel s) (.ret (.inr a))) :
    Comes (fun fuel => iterate body fuel s) (.ret a) :=
  comes_iterate step (Comes.const _)

theorem comes_iterate_same (step : Comes (fun fuel => body fuel s) (.ret (.inl s))) :
    Comes (fun fuel => iterate body fuel s) .stuck := by
  have stuck : ∀ fuel, iterate body fuel s = .stuck := by
    intro fuel
    induction fuel with
    | zero => rfl
    | succ fuel ih =>
      rcases step.2 fuel with same | stuck
      · simp only [iterate_succ, same, Outcome.ret_bind, ih]
      · simp [iterate_succ, stuck]
  exact Comes.always stuck

theorem iterate_invariant {inv : σ → Prop} {post : α → Prop} (next : ∀ fuel s s', inv s → body fuel s = .ret (.inl s') → inv s')
    (breaks : ∀ fuel s a, inv s → body fuel s = .ret (.inr a) → post a) {fuel : Nat} (start : inv s) {a : α}
    (is : iterate body fuel s = .ret a) : post a := by
  induction fuel generalizing s with
  | zero => cases is
  | succ fuel ih =>
    rw [iterate_succ, Outcome.bind_eq_ret] at is
    obtain ⟨result, executed, rest⟩ := is
    cases result with
    | inl s' => exact ih (next fuel s s' start executed) rest
    | inr b =>
      cases rest
      exact breaks fuel s a start executed

end

/-- How a computation ends. -/
inductive Fate
  | ends
  | stalls
  | leaves
  deriving DecidableEq

/-- What an outcome means, when `post` is asked of what is returned. -/
def Outcome.Meets (fate : Fate) (post : α → Prop) : Outcome ε α → Prop
  | .ret a => post a
  | .error _ => fate = .ends
  | .stuck => fate = .stalls
  | .fault => fate = .leaves

/-- The computation returns something with `post`, or fails the way `fate` says. -/
def Follows (c : Nat → Outcome ε α) (fate : Fate) (post : α → Prop) : Prop := ∃ o, Comes c o ∧ o.Meets fate post

namespace Follows
variable {c : Nat → Outcome ε α} {fate : Fate} {post : α → Prop}

theorem of_const {o : Outcome ε α} (meets : o.Meets fate post) : Follows (fun _ => o) fate post := ⟨o, Comes.const o, meets⟩

theorem mono {post' : α → Prop} (follows : Follows c fate post) (weaker : ∀ a, post a → post' a) : Follows c fate post' := by
  obtain ⟨o, comes, meets⟩ := follows
  refine ⟨o, comes, ?_⟩
  cases o with
  | ret a => exact weaker a meets
  | error e => exact meets
  | fault => exact meets
  | stuck => exact meets

theorem bind {k : Nat → α → Outcome ε β} {post' : β → Prop} (first : Follows c fate post)
    (rest : ∀ a, post a → Follows (fun fuel => k fuel a) fate post') : Follows (fun fuel => c fuel >>= k fuel) fate post' := by
  obtain ⟨o, comes, meets⟩ := first
  cases o with
  | ret a =>
    obtain ⟨p, comes', meets'⟩ := rest a meets
    exact ⟨p, comes.bind comes', meets'⟩
  | error e => exact ⟨.error e, comes.bind_fails (fun _ => rfl), meets⟩
  | fault => exact ⟨.fault, comes.bind_fails (fun _ => rfl), meets⟩
  | stuck => exact ⟨.stuck, comes.bind_fails (fun _ => rfl), meets⟩

theorem iterate {body : Nat → σ → Outcome ε (σ ⊕ α)} {s : σ} {next : σ ⊕ α → Prop}
    (step : Follows (fun fuel => body fuel s) fate next)
    (goes : ∀ s', next (.inl s') → Follows (fun fuel => Loops.iterate body fuel s') fate post)
    (breaks : ∀ a, next (.inr a) → post a) : Follows (fun fuel => Loops.iterate body fuel s) fate post := by
  obtain ⟨o, comes, meets⟩ := step
  cases o with
  | ret result =>
    cases result with
    | inl s' =>
      obtain ⟨p, comes', meets'⟩ := goes s' meets
      exact ⟨p, comes_iterate_next comes comes', meets'⟩
    | inr a => exact ⟨.ret a, comes_iterate_break comes, breaks a meets⟩
  | error e => exact ⟨.error e, comes_iterate comes (Comes.const _), meets⟩
  | fault => exact ⟨.fault, comes_iterate comes (Comes.const _), meets⟩
  | stuck => exact ⟨.stuck, comes_iterate comes (Comes.const _), meets⟩

theorem outcome (follows : Follows c fate (fun _ => fate = .ends)) :
    ∃ o, Comes c o ∧ (o.Ended ↔ fate = .ends) ∧ (o = .fault ↔ fate = .leaves) := by
  obtain ⟨o, comes, meets⟩ := follows
  refine ⟨o, comes, ?_⟩
  cases o with
  | ret a =>
    have is : fate = .ends := meets
    simp [Outcome.Ended, is]
  | error e =>
    have is : fate = .ends := meets
    simp [Outcome.Ended, is]
  | fault =>
    have is : fate = .leaves := meets
    simp [Outcome.Ended, is]
  | stuck =>
    have is : fate = .stalls := meets
    simp [Outcome.Ended, is]

end Follows
end Peripheral.Loops
