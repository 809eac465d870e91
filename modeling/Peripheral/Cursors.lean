import Mathlib.Data.List.Nodup

/-!
Cursors over a linked list that others change: a cursor stands at an item and has already chosen the
next one, so that its own item may go. Items are known by their keys. What is still ahead of a cursor
stays so while items are added at the end and others than these two are taken out.
-/
namespace Peripheral.Cursors
open List

variable {κ α : Type} {items : List (κ × α)} {pos next : Option κ} {todo : List (κ × α)} {label : α} {visits : Nat}

def keys (items : List (κ × α)) : List κ := items.map Prod.fst

/-- What a cursor at an item, with a next one or none, still comes to. -/
inductive Ahead (items : List (κ × α)) : Option κ → Option κ → List (κ × α) → Prop
  | done (next : Option κ) : Ahead items none next []
  | last (before : List (κ × α)) (item : κ × α) (behind : List (κ × α)) (split : items = before ++ item :: behind) :
      Ahead items (some item.1) none [item]
  | more (before : List (κ × α)) (item second : κ × α) (behind : List (κ × α))
      (split : items = before ++ item :: second :: behind) :
      Ahead items (some item.1) (some second.1) (item :: second :: behind)

theorem Ahead.none (ahead : Ahead items .none next todo) : todo = [] := by cases ahead; rfl

theorem Ahead.distinct (ahead : Ahead items pos next todo) (labels : (items.map Prod.snd).Nodup) :
    (todo.map Prod.snd).Nodup := by
  cases ahead with
  | done => exact nodup_nil
  | last => exact nodup_singleton _
  | more before item second behind split =>
    rw [split, map_append] at labels
    exact labels.of_append_right

theorem Ahead.append (ahead : Ahead items pos next todo) (new : κ × α) :
    Ahead (items ++ [new]) pos next todo ∨ Ahead (items ++ [new]) pos next (todo ++ [new]) := by
  cases ahead with
  | done => exact .inl (.done _)
  | last before item behind split => exact .inl (.last before item (behind ++ [new]) (by simp [split]))
  | more before item second behind split => exact .inr (.more before item second (behind ++ [new]) (by simp [split]))

/-- The item of a label has been visited once, or it is ahead if there is one, and has not been visited. -/
def Due (items : List (κ × α)) (pos next : Option κ) (label : α) (visits : Nat) : Prop :=
  ∃ todo, Ahead items pos next todo ∧
    (visits = 0 ∧ (∀ item ∈ items, item.2 = label → item ∈ todo) ∨ visits = 1 ∧ ∀ item ∈ todo, item.2 ≠ label)

theorem Due.done (due : Due items none next label visits) : visits = 1 ∨ visits = 0 ∧ ∀ item ∈ items, item.2 ≠ label := by
  obtain ⟨todo, ahead, ⟨never, waits⟩ | ⟨once, -⟩⟩ := due
  · refine .inr ⟨never, fun item listed its => ?_⟩
    have waiting := waits item listed its
    rw [ahead.none] at waiting
    cases waiting
  · exact .inl once

theorem Due.append (due : Due items pos next label visits) {new : κ × α} (differs : new.2 ≠ label) :
    Due (items ++ [new]) pos next label visits := by
  obtain ⟨todo, ahead, seen⟩ := due
  have unseen : ∀ item ∈ items ++ [new], item.2 = label → item ∈ items := by
    intro item there its
    rcases mem_append.mp there with before | same
    · exact before
    · exact absurd (mem_singleton.mp same ▸ its) differs
  rcases ahead.append new with same | longer
  · exact ⟨todo, same, seen.imp_left fun waits => ⟨waits.1, fun item there its => waits.2 item (unseen item there its) its⟩⟩
  · refine ⟨todo ++ [new], longer, ?_⟩
    rcases seen with ⟨never, waits⟩ | ⟨once, none_ahead⟩
    · exact .inl ⟨never, fun item there its => mem_append_left _ (waits item (unseen item there its) its)⟩
    · refine .inr ⟨once, fun item there => ?_⟩
      rcases mem_append.mp there with before | same
      · exact none_ahead item before
      · exact mem_singleton.mp same ▸ differs

variable [DecidableEq κ]

def follower (key : κ) : List (κ × α) → Option κ
  | [] => none
  | item :: rest => if item.1 = key then rest.head?.map Prod.fst else follower key rest

theorem follower_append {before : List (κ × α)} {item : κ × α} {behind : List (κ × α)} (apart : item.1 ∉ keys before) :
    follower item.1 (before ++ item :: behind) = behind.head?.map Prod.fst := by
  induction before with
  | nil => rw [nil_append, follower, if_pos rfl]
  | cons head rest later =>
    obtain ⟨differs, others⟩ := ne_and_not_mem_of_not_mem_cons apart
    rw [cons_append, follower, if_neg (Ne.symm differs), later others]

theorem follower_mem {key next : κ} (after : follower key items = some next) : next ∈ keys items := by
  induction items with
  | nil => cases after
  | cons head rest later =>
    rw [follower] at after
    by_cases here : head.1 = key
    · rw [if_pos here] at after
      obtain ⟨item, first, rfl⟩ := Option.map_eq_some_iff.mp after
      exact mem_cons_of_mem _ (mem_map_of_mem (mem_of_mem_head? first))
    · rw [if_neg here] at after
      exact mem_cons_of_mem _ (later after)

theorem ahead_first : Ahead items (items.head?.map Prod.fst) (items.head?.bind fun first => follower first.1 items) items := by
  match items with
  | [] => exact .done none
  | [only] =>
    simp only [head?_cons, Option.map_some, Option.bind_some, follower, if_pos, head?_nil, Option.map_none]
    exact .last [] only [] rfl
  | first :: second :: rest =>
    simp only [head?_cons, Option.map_some, Option.bind_some, follower, if_pos]
    exact .more [] first second rest rfl

theorem Ahead.moves {key : κ} (ahead : Ahead items (some key) next todo) (apart : (keys items).Nodup) :
    ∃ item rest, todo = item :: rest ∧ item.1 = key ∧ item ∈ items ∧
      Ahead items next (next.bind fun key => follower key items) rest := by
  cases ahead with
  | last before item behind split => exact ⟨item, [], rfl, rfl, by simp [split], .done _⟩
  | more before item second behind split =>
    refine ⟨item, second :: behind, rfl, rfl, by simp [split], ?_⟩
    have again : items = (before ++ [item]) ++ second :: behind := by simp [split]
    have differs : second.1 ∉ keys (before ++ [item]) := by
      rw [again, keys, map_append, nodup_append'] at apart
      intro there
      exact apart.2.2 there (by simp)
    rw [Option.bind_some]
    have after : follower second.1 items = behind.head?.map Prod.fst := again ▸ follower_append differs
    rw [after]
    match behind with
    | [] => exact .last _ second [] again
    | third :: rest => exact .more _ second third rest again

theorem Ahead.filter (ahead : Ahead items pos next todo) {gone : κ} (stands : pos ≠ some gone) (goes : next ≠ some gone) :
    Ahead (items.filter (·.1 ≠ gone)) pos next (todo.filter (·.1 ≠ gone)) := by
  cases ahead with
  | done => exact .done _
  | last before item behind split =>
    have stays : item.1 ≠ gone := fun same => stands (congrArg some same)
    rw [split, filter_append, filter_cons_of_pos (by simpa using stays),
      filter_cons_of_pos (by simpa using stays)]
    exact .last _ item _ rfl
  | more before item second behind split =>
    have stays : item.1 ≠ gone := fun same => stands (congrArg some same)
    have second_stays : second.1 ≠ gone := fun same => goes (congrArg some same)
    rw [split, filter_append]
    repeat rw [filter_cons_of_pos (by simpa using stays), filter_cons_of_pos (by simpa using second_stays)]
    exact .more _ item second _ rfl

theorem due_first : Due items (items.head?.map Prod.fst) (items.head?.bind fun first => follower first.1 items) label 0 :=
  ⟨items, ahead_first, .inl ⟨rfl, fun _ listed _ => listed⟩⟩

theorem Due.moves [DecidableEq α] {key : κ} (due : Due items (some key) next label visits) (apart : (keys items).Nodup)
    (labels : (items.map Prod.snd).Nodup) : ∃ item ∈ items, item.1 = key ∧
      Due items next (next.bind fun key => follower key items) label (if item.2 = label then visits + 1 else visits) := by
  obtain ⟨todo, ahead, seen⟩ := due
  obtain ⟨item, rest, rfl, its, listed, later⟩ := ahead.moves apart
  refine ⟨item, listed, its, rest, later, ?_⟩
  by_cases here : item.2 = label
  · rw [if_pos here]
    rcases seen with ⟨rfl, -⟩ | ⟨-, none_ahead⟩
    · refine .inr ⟨rfl, fun other there same => ?_⟩
      have distinct := ahead.distinct labels
      rw [map_cons, nodup_cons] at distinct
      exact distinct.1 (mem_map.mpr ⟨other, there, same.trans here.symm⟩)
    · exact absurd here (none_ahead item mem_cons_self)
  · rw [if_neg here]
    rcases seen with ⟨never, waits⟩ | ⟨once, none_ahead⟩
    · refine .inl ⟨never, fun other there same => ?_⟩
      rcases mem_cons.mp (waits other there same) with rfl | waiting
      · exact absurd same here
      · exact waiting
    · exact .inr ⟨once, fun other there => none_ahead other (mem_cons_of_mem _ there)⟩

theorem Due.filter (due : Due items pos next label visits) {gone : κ} (stands : pos ≠ some gone) (goes : next ≠ some gone) :
    Due (items.filter (·.1 ≠ gone)) pos next label visits := by
  obtain ⟨todo, ahead, seen⟩ := due
  refine ⟨_, ahead.filter stands goes, ?_⟩
  rcases seen with ⟨never, waits⟩ | ⟨once, none_ahead⟩
  · refine .inl ⟨never, fun item there its => ?_⟩
    obtain ⟨was, stays⟩ := mem_filter.mp there
    exact mem_filter.mpr ⟨waits item was its, stays⟩
  · exact .inr ⟨once, fun item there => none_ahead item (mem_filter.mp there).1⟩

end Peripheral.Cursors
