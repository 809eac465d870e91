import Mathlib.Data.List.Induction

/-!
A queue by its history. Some events put something in, and with others somebody comes and
takes what is oldest, or goes away with nothing.
-/
namespace Peripheral.Fifo

variable {α β : Type}

inductive Event (α β : Type)
  | put (a : α)
  | take (b : β)
  deriving DecidableEq

def Event.pass (queue : List α) : Event α β → List α
  | .put a => queue ++ [a]
  | .take _ => queue.tail

def waiting (history : List (Event α β)) : List α := history.foldl Event.pass []

def puts (history : List (Event α β)) : List α :=
  history.filterMap fun
    | .put a => some a
    | .take _ => none

def takes (history : List (Event α β)) : List β :=
  history.filterMap fun
    | .put _ => none
    | .take b => some b

def Served (gets : β → Option α → Prop) (history : List (Event α β)) : Prop :=
  ∀ before b after, history = before ++ .take b :: after → gets b (waiting before).head?

def InTurn (history : List (Event α β)) : Prop :=
  ∀ before b after, history = before ++ .take b :: after → waiting before ≠ []

variable {gets : β → Option α → Prop} {history : List (Event α β)} {a : α} {b : β}

@[simp] theorem waiting_put : waiting (history ++ [.put a]) = waiting history ++ [a] := by
  simp [waiting, Event.pass]

@[simp] theorem waiting_take : waiting (history ++ [.take b]) = (waiting history).tail := by
  simp [waiting, Event.pass]

@[simp] theorem puts_put : puts (history ++ [.put a]) = puts history ++ [a] := by
  simp [puts]

@[simp] theorem puts_take : puts (history ++ [.take b]) = puts history := by
  simp [puts]

@[simp] theorem takes_put : takes (history ++ [.put a]) = takes history := by
  simp [takes]

@[simp] theorem takes_take : takes (history ++ [.take b]) = takes history ++ [b] := by
  simp [takes]

theorem concat_eq_take {e : Event α β} {before after : List (Event α β)} (split : history ++ [e] = before ++ .take b :: after) :
    (before = history ∧ e = .take b) ∨ ∃ rest, history = before ++ .take b :: rest := by
  rcases List.eq_nil_or_concat after with rfl | ⟨rest, last, rfl⟩
  · obtain ⟨same, event⟩ := List.append_inj' split rfl
    exact .inl ⟨same.symm, by simpa using event⟩
  · rw [List.concat_eq_append, ← List.cons_append, ← List.append_assoc] at split
    exact .inr ⟨rest, (List.append_inj' split rfl).1⟩

theorem Served.nil : Served gets ([] : List (Event α β)) := by
  intro before b after split
  simp at split

theorem Served.put (served : Served gets history) (a : α) : Served gets (history ++ [.put a]) := by
  intro before b after split
  rcases concat_eq_take split with ⟨-, event⟩ | ⟨rest, earlier⟩
  · cases event
  · exact served before b rest earlier

theorem Served.take (served : Served gets history) (now : gets b (waiting history).head?) :
    Served gets (history ++ [.take b]) := by
  intro before other after split
  rcases concat_eq_take split with ⟨rfl, event⟩ | ⟨rest, earlier⟩
  · cases event
    exact now
  · exact served before other rest earlier

theorem waiting_sublist (history : List (Event α β)) : (waiting history).Sublist (puts history) := by
  induction history using List.reverseRecOn with
  | nil => exact List.Sublist.slnil
  | append_singleton history e ih =>
    cases e with
    | put a => simpa using ih.append_right [a]
    | take b => simpa using (List.tail_sublist _).trans ih

/-- While nobody came in vain, what was put in is what was given, one for each who came, and what waits. -/
theorem InTurn.puts_eq (turn : InTurn history) :
    ∃ given : List α, given.length = (takes history).length ∧ puts history = given ++ waiting history := by
  induction history using List.reverseRecOn with
  | nil => exact ⟨[], rfl, rfl⟩
  | append_singleton history e ih =>
    have earlier : InTurn history := by
      intro before b after split
      exact turn before b (after ++ [e]) (by simp [split])
    obtain ⟨given, count, parts⟩ := ih earlier
    cases e with
    | put a => exact ⟨given, by simp [count], by simp [parts]⟩
    | take b =>
      have some := turn history b [] rfl
      obtain ⟨oldest, rest, waits⟩ := List.exists_cons_of_ne_nil some
      exact ⟨given ++ [oldest], by simp [count], by simp [parts, waits]⟩

theorem InTurn.head? (turn : InTurn history) : (waiting history).head? = (puts history)[(takes history).length]? := by
  obtain ⟨given, count, parts⟩ := turn.puts_eq
  rw [parts, ← count, List.getElem?_append_right (Nat.le_refl _), Nat.sub_self, List.head?_eq_getElem?]

end Peripheral.Fifo
