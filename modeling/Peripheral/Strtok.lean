import Mathlib.Data.List.TakeWhile

/-!
`strtok_r`. Delimiters are skipped until a token begins, and the token ends at the next
delimiter. Called again and again it gives the parts between the delimiters that are not
empty.
-/
namespace Peripheral.Strtok
open List

variable {α : Type} [BEq α]

def strtokR (delim : α) (s : List α) : Option (List α × List α) :=
  match s.dropWhile (· == delim) with
  | [] => none
  | a :: s => some ((a :: s).takeWhile (· != delim), ((a :: s).dropWhile (· != delim)).tail)

def tokens (delim : α) (s : List α) : List (List α) := (s.splitOn delim).filter (!·.isEmpty)

@[simp] theorem tokens_nil (delim : α) : tokens delim [] = [] := rfl

variable [LawfulBEq α] {delim : α} {s token : List α}

@[simp] theorem tokens_delim (delim : α) (s : List α) : tokens delim (delim :: s) = tokens delim s := by
  simp [tokens, splitOn_cons_eq_if_modifyHead]

theorem tokens_dropWhile (delim : α) (s : List α) : tokens delim (s.dropWhile (· == delim)) = tokens delim s := by
  induction s with
  | nil => rfl
  | cons a s ih =>
    rw [dropWhile_cons]
    split
    · rename_i same
      rw [ih, eq_of_beq same, tokens_delim]
    · rfl

theorem tokens_singleton (full : token ≠ []) (inside : delim ∉ token) : tokens delim token = [token] := by
  rw [tokens, splitOn_eq_singleton inside]
  simp [full]

theorem tokens_append (full : token ≠ []) (inside : delim ∉ token) (s : List α) :
    tokens delim (token ++ delim :: s) = token :: tokens delim s := by
  rw [tokens, splitOn_append_cons_self_of_not_mem inside, filter_cons_of_pos (by simpa using full)]
  rfl

theorem tokens_intercalate {parts : List (List α)} (each : ∀ part ∈ parts, part ≠ [] ∧ delim ∉ part) :
    tokens delim ([delim].intercalate parts) = parts := by
  by_cases none : parts = []
  · rw [none]
    rfl
  · rw [tokens, splitOn_intercalate delim (fun part member => (each part member).2) none, filter_eq_self]
    intro part member
    simpa using (each part member).1

/-- Each token has an element, and all but one a delimiter. -/
theorem length_tokens (delim : α) (s : List α) : 2 * (tokens delim s).length ≤ s.length + 1 := by
  have counted : ∀ parts : List (List α),
      2 * (parts.filter (!·.isEmpty)).length ≤ ([delim].intercalate parts).length + 1 := by
    intro parts
    induction parts with
    | nil => simp
    | cons part parts ih =>
      cases parts with
      | nil => cases part <;> simp
      | cons next others =>
        rw [intercalate_cons_cons]
        cases part with
        | nil => simp at ih ⊢; omega
        | cons a part => simp at ih ⊢; omega
  have whole := counted (s.splitOn delim)
  rwa [intercalate_splitOn] at whole

theorem takeWhile_inside (delim : α) (s : List α) : delim ∉ s.takeWhile (· != delim) := by
  intro member
  simpa using mem_takeWhile_imp member

theorem tokens_of_begins {a : α} (begins : a ≠ delim) (s : List α) : tokens delim (a :: s) =
      (a :: s).takeWhile (· != delim) :: tokens delim ((a :: s).dropWhile (· != delim)).tail := by
  have full : (a :: s).takeWhile (· != delim) ≠ [] := by simp [begins]
  have inside := takeWhile_inside delim (a :: s)
  have whole : (a :: s).takeWhile (· != delim) ++ (a :: s).dropWhile (· != delim) = a :: s := takeWhile_append_dropWhile
  have head := head?_dropWhile_not (· != delim) (a :: s)
  generalize (a :: s).takeWhile (· != delim) = token, (a :: s).dropWhile (· != delim) = behind at *
  rw [← whole]
  cases behind with
  | nil => rw [append_nil, tokens_singleton full inside, tail_nil, tokens_nil]
  | cons b rest =>
    have stop : b = delim := by simpa using head
    rw [stop, tokens_append full inside, tail_cons]

/-- `strtok_r` gives the next of the tokens. -/
theorem strtokR_eq (delim : α) (s : List α) : (strtokR delim s = none ∧ tokens delim s = []) ∨
      ∃ token rest, strtokR delim s = some (token, rest) ∧ tokens delim s = token :: tokens delim rest := by
  rw [← tokens_dropWhile, strtokR]
  cases behind : s.dropWhile (· == delim) with
  | nil => exact .inl ⟨rfl, tokens_nil delim⟩
  | cons a t =>
    have head := head?_dropWhile_not (· == delim) s
    have begins : a ≠ delim := by simpa [behind] using head
    exact .inr ⟨_, _, rfl, tokens_of_begins begins t⟩

end Peripheral.Strtok
