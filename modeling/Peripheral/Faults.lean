import Mathlib.Logic.Basic

/-!
Programs over a state that may return early and may go wrong. Such a program ends in one of
three ways, and from what is to hold at each of these ends one computes, from the end of
the program to its beginning, what has to hold before it.
-/
namespace Peripheral.Faults

variable {φ ρ σ α β : Type}

/-- Why a program stops before its end. -/
inductive Stop (φ ρ : Type)
  | returned (r : ρ)
  | wrong (fault : φ)

abbrev Prog (φ ρ σ : Type) := EStateM (Stop φ ρ) σ

def fail (r : ρ) : Prog φ ρ σ α := throw (.returned r)

def goWrong (fault : φ) : Prog φ ρ σ α := throw (.wrong fault)

def check (c : Bool) (r : ρ) : Prog φ ρ σ Unit := if c then pure () else fail r

def provided (c : Bool) (p : Prog φ ρ σ Unit) : Prog φ ρ σ Unit := if c then p else pure ()

def call {ρ' : Type} (p : Prog φ ρ σ ρ) : Prog φ ρ' σ ρ := fun s =>
  match p.run s with
  | .ok r t => .ok r t
  | .error (.returned r) t => .ok r t
  | .error (.wrong fault) t => .error (.wrong fault) t

/-- What is to hold when a program has gone wrong, when it has returned early, and at its end. -/
structure Ends (φ ρ σ α : Type) where
  wrong : φ → σ → Prop
  early : ρ → σ → Prop
  last : α → σ → Prop

/-- The same ends for what comes before: its own end is the beginning of the rest. -/
def Ends.before (ends : Ends φ ρ σ β) (last : α → σ → Prop) : Ends φ ρ σ α := ⟨ends.wrong, ends.early, last⟩

def Ends.Hold (ends : Ends φ ρ σ α) : EStateM.Result (Stop φ ρ) σ α → Prop
  | .ok a t => ends.last a t
  | .error (.returned r) t => ends.early r t
  | .error (.wrong fault) t => ends.wrong fault t

/-- What has to hold before the program. -/
def Needs (p : Prog φ ρ σ α) (ends : Ends φ ρ σ α) (s : σ) : Prop := ends.Hold (p.run s)

variable {ends : Ends φ ρ σ α} {s : σ}

@[simp] theorem needs_pure {a : α} : Needs (pure a) ends s ↔ ends.last a s := Iff.rfl

variable {r : ρ}

@[simp] theorem needs_fail : Needs (fail r) ends s ↔ ends.early r s := Iff.rfl

@[simp] theorem needs_goWrong {fault : φ} : Needs (goWrong fault) ends s ↔ ends.wrong fault s := Iff.rfl

@[simp] theorem needs_get {ends : Ends φ ρ σ σ} : Needs get ends s ↔ ends.last s s := Iff.rfl

@[simp] theorem needs_set {t : σ} {ends : Ends φ ρ σ PUnit} : Needs (set t) ends s ↔ ends.last () t := Iff.rfl

variable {f : σ → σ}

@[simp] theorem needs_modify {ends : Ends φ ρ σ PUnit} : Needs (modify f) ends s ↔ ends.last () (f s) := Iff.rfl

variable {p : Prog φ ρ σ α} {q : α → Prog φ ρ σ β}

@[simp] theorem needs_bind {ends : Ends φ ρ σ β} :
    Needs (p >>= q) ends s ↔ Needs p (ends.before fun a => Needs (q a) ends) s := by
  rw [Needs, Needs, EStateM.run_bind]
  cases p.run s with
  | ok a t => rfl
  | error stop t => cases stop <;> rfl

@[simp] theorem needs_map {f : β → α} {p : Prog φ ρ σ β} :
    Needs (f <$> p) ends s ↔ Needs p (ends.before fun b => ends.last (f b)) s := by
  rw [← bind_pure_comp, needs_bind]
  rfl

variable {c : Bool}

@[simp] theorem needs_check {ends : Ends φ ρ σ Unit} :
    Needs (check c r) ends s ↔ if c then ends.last () s else ends.early r s := by
  rw [check]
  split <;> rfl

@[simp] theorem needs_provided {p : Prog φ ρ σ Unit} {ends : Ends φ ρ σ Unit} :
    Needs (provided c p) ends s ↔ if c then Needs p ends s else ends.last () s := by
  rw [provided]
  split <;> rfl

@[simp] theorem needs_call {ρ' : Type} {p : Prog φ ρ σ ρ} {ends : Ends φ ρ' σ ρ} :
    Needs (call p) ends s ↔ Needs p ⟨ends.wrong, ends.last, ends.last⟩ s := by
  simp only [Needs, EStateM.run, call]
  match p s with
  | .ok r t => rfl
  | .error (.returned r) t => rfl
  | .error (.wrong fault) t => rfl

variable {last : α → σ → Prop}

@[simp] theorem before_wrong {ends : Ends φ ρ σ β} : (ends.before last).wrong = ends.wrong := rfl

@[simp] theorem before_early {ends : Ends φ ρ σ β} : (ends.before last).early = ends.early := rfl

@[simp] theorem before_last {ends : Ends φ ρ σ β} : (ends.before last).last = last := rfl

theorem needs_ite {c : Prop} [Decidable c] {p q : Prog φ ρ σ α} :
    Needs (if c then p else q) ends s ↔ if c then Needs p ends s else Needs q ends s := by
  split <;> rfl

theorem Needs.mono {ends more : Ends φ ρ σ α} (needs : Needs p ends s)
    (wrong : ∀ fault t, ends.wrong fault t → more.wrong fault t) (early : ∀ r t, ends.early r t → more.early r t)
    (last : ∀ a t, ends.last a t → more.last a t) : Needs p more s := by
  rw [Needs] at needs ⊢
  match p.run s, needs with
  | .ok a t, needs => exact last a t needs
  | .error (.returned r) t, needs => exact early r t needs
  | .error (.wrong fault) t, needs => exact wrong fault t needs

theorem needs_any : Needs p ⟨fun _ _ => True, fun _ _ => True, fun _ _ => True⟩ s := by
  rw [Needs]
  match p.run s with
  | .ok _ _ => trivial
  | .error (.returned _) _ => trivial
  | .error (.wrong _) _ => trivial

/-- What is to hold behind the last step, and nothing elsewhere. -/
def Ends.only (last : α → σ → Prop) : Ends φ ρ σ α := ⟨fun _ _ => True, fun _ _ => True, last⟩

theorem Needs.only (needs : Needs p ends s) {holds : α → σ → Prop}
    (last : ∀ a t, ends.last a t → holds a t) : Needs p (.only holds) s :=
  needs.mono (fun _ _ _ => trivial) (fun _ _ _ => trivial) last

theorem Needs.and {ends more : Ends φ ρ σ α} (first : Needs p ends s) (second : Needs p more s) :
    Needs p ⟨fun fault t => ends.wrong fault t ∧ more.wrong fault t, fun r t => ends.early r t ∧ more.early r t,
      fun a t => ends.last a t ∧ more.last a t⟩ s := by
  rw [Needs] at first second ⊢
  match p.run s, first, second with
  | .ok a t, first, second => exact ⟨first, second⟩
  | .error (.returned r) t, first, second => exact ⟨first, second⟩
  | .error (.wrong fault) t, first, second => exact ⟨first, second⟩

theorem Needs.bind {ends : Ends φ ρ σ β} {between : α → σ → Prop}
    (first : Needs p (ends.before between) s) (rest : ∀ a t, between a t → Needs (q a) ends t) : Needs (p >>= q) ends s :=
  needs_bind.mpr (first.mono (fun _ _ h => h) (fun _ _ h => h) rest)

def Ends.all (holds : σ → Prop) : Ends φ ρ σ α := ⟨fun _ _ => True, fun _ => holds, fun _ => holds⟩

/-- Unless the program goes wrong, what holds before it holds at its end, whichever that is. -/
def Keeps (holds : σ → Prop) (p : Prog φ ρ σ α) : Prop := ∀ s, holds s → Needs p (.all holds) s

section
variable {holds : σ → Prop}

theorem Keeps.bind (kept : Keeps holds p) (rest : ∀ a, Keeps holds (q a)) : Keeps holds (p >>= q) :=
  fun s h => Needs.bind (kept s h) rest

theorem keeps_pure {a : α} : Keeps holds (pure a : Prog φ ρ σ α) := fun _ h => h

theorem keeps_fail : Keeps holds (fail r : Prog φ ρ σ α) := fun _ h => h

theorem keeps_goWrong {fault : φ} : Keeps holds (goWrong fault : Prog φ ρ σ α) := fun _ _ => trivial

theorem keeps_get : Keeps holds (get : Prog φ ρ σ σ) := fun _ h => h

theorem keeps_modify (kept : ∀ s, holds s → holds (f s)) : Keeps holds (modify f : Prog φ ρ σ PUnit) := kept

theorem keeps_ite {c : Prop} {_ : Decidable c} {p q : Prog φ ρ σ α} (yes : Keeps holds p) (no : Keeps holds q) :
    Keeps holds (if c then p else q) := by
  split
  · exact yes
  · exact no

theorem keeps_unless {c : Prop} {_ : Decidable c} {rest : PUnit → Prog φ ρ σ α} (kept : Keeps holds (rest ⟨⟩)) :
    Keeps holds (if c then fail r >>= rest else rest ⟨⟩) :=
  keeps_ite (.bind keeps_fail fun _ => kept) kept

end

/-! ### What a program does not touch -/

/-- What is seen of the state is the same at every end. Only some faults are possible, and only some early returns. -/
def Leaves {ω : Type} (view : σ → ω) (possible : φ → Prop) (early : ρ → Prop) (p : Prog φ ρ σ α) : Prop :=
  ∀ s, Needs p ⟨fun fault _ => possible fault, fun r t => early r ∧ view t = view s, fun _ t => view t = view s⟩ s

section
variable {ω : Type} {view : σ → ω} {possible : φ → Prop} {early : ρ → Prop}

theorem Leaves.needs (leaves : Leaves view possible early p) (wrong : ∀ fault t, possible fault → ends.wrong fault t)
    (returned : ∀ r t, early r → view t = view s → ends.early r t)
    (last : ∀ a t, view t = view s → ends.last a t) : Needs p ends s :=
  (leaves s).mono wrong (fun r t ⟨h, same⟩ => returned r t h same) last

theorem Leaves.bind (first : Leaves view possible early p)
    (rest : ∀ a, Leaves view possible early (q a)) : Leaves view possible early (p >>= q) := by
  intro s
  refine Needs.bind (first s) fun a t same => ?_
  exact (rest a).needs (fun _ _ h => h) (fun _ _ h same' => ⟨h, same'.trans same⟩) (fun _ _ same' => same'.trans same)

theorem leaves_pure {a : α} : Leaves view possible early (pure a : Prog φ ρ σ α) := fun _ => rfl

theorem leaves_fail (h : early r) : Leaves view possible early (fail r : Prog φ ρ σ α) := fun _ => ⟨h, rfl⟩

theorem leaves_goWrong {fault : φ} (h : possible fault) : Leaves view possible early (goWrong fault : Prog φ ρ σ α) :=
  fun _ => h

theorem leaves_get : Leaves view possible early (get : Prog φ ρ σ σ) := fun _ => rfl

theorem leaves_modify (same : ∀ s, view (f s) = view s) : Leaves view possible early (modify f : Prog φ ρ σ PUnit) := same

theorem leaves_check (h : early r) : Leaves view possible early (check c r : Prog φ ρ σ Unit) := by
  rw [check]
  split
  · exact leaves_pure
  · exact leaves_fail h

theorem leaves_provided {p : Prog φ ρ σ Unit} (leaves : Leaves view possible early p) :
    Leaves view possible early (provided c p) := by
  rw [provided]
  split
  · exact leaves
  · exact leaves_pure

theorem Leaves.call {ρ' : Type} {early' : ρ' → Prop} {p : Prog φ ρ σ ρ} (leaves : Leaves view possible early p) :
    Leaves view possible early' (call p : Prog φ ρ' σ ρ) := by
  intro s
  rw [needs_call]
  exact leaves.needs (fun _ _ h => h) (fun _ _ _ same => same) (fun _ _ same => same)

end

end Peripheral.Faults
