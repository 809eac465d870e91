import Peripheral.Bytes

/-!
Readers of byte strings. A reader takes what it reads from the front of the bytes and leaves
the rest, or refuses. A format is given by a reader and by how values are spelled; what is
spelled reads back, and what was read is the spelling of the value.
-/
namespace Peripheral.Formats
open Bytes List

variable {α β : Type}

abbrev Reader (α : Type) := StateT (List UInt8) Option α

def number (l : List UInt8) : Nat := load (fun i => l.getD i 0) 0 l.length

/-- A number as `w` bytes, lowest byte first. -/
def word (w v : Nat) : List UInt8 := bytes (digits v) w

/-- The next `n` bytes. -/
def take (n : Nat) : Reader (List UInt8) := fun l => if n ≤ l.length then some (l.take n, l.drop n) else none

/-- The next `w` bytes as a number. -/
def wordOf (w : Nat) : Reader Nat := number <$> take w

/-- The next `w` bytes have to be this number. -/
def expect (w v : Nat) : Reader Unit := do
  let n ← wordOf w
  if n = v then pure () else failure

def text : Reader (List UInt8)
  | [] => none
  | b :: l => if b = 0 then some ([], l) else (text l).map fun r => (b :: r.1, r.2)

def times (r : Reader α) : Nat → Reader (List α)
  | 0 => pure []
  | n + 1 => do
    let a ← r
    let others ← times r n
    pure (a :: others)

def whole (r : Reader α) (l : List UInt8) : Option α :=
  match r l with
  | some (a, []) => some a
  | _ => none

@[simp] theorem length_word (w v : Nat) : (word w v).length = w := by simp [word]

theorem number_word (w v : Nat) : number (word w v) = v % 256^w := by
  rw [number, length_word, ← load_digits]
  refine load_congr fun i inside => ?_
  have there : i < (word w v).length := by simpa using inside
  rw [Nat.zero_add, getD_eq_getElem _ _ there]
  exact bytes_getElem _ there

/-- The reader reads these bytes, whatever follows them, as the value. -/
def Reads (r : Reader α) (l : List UInt8) (a : α) : Prop := ∀ rest, r (l ++ rest) = some (a, rest)

/-- What the reader reads are the bytes that spell the value. -/
def Spells (r : Reader α) (spell : α → List UInt8) : Prop :=
  ∀ l a rest, r l = some (a, rest) → l = spell a ++ rest

section
variable {r : Reader α} {l m : List UInt8} {a : α} {b : β}

theorem reads_pure : Reads (pure a) [] a := fun _ => rfl

theorem Reads.bind {q : α → Reader β} (first : Reads r l a) (second : Reads (q a) m b) : Reads (r >>= q) (l ++ m) b := by
  intro rest
  rw [append_assoc]
  simp only [Bind.bind, StateT.bind, first (m ++ rest)]
  exact second rest

theorem Reads.next {q : α → Reader β} (first : Reads r l a) (rest : List UInt8) : (r >>= q) (l ++ rest) = q a rest := by
  simp only [Bind.bind, StateT.bind, first rest, Option.bind_some]

theorem Reads.map (f : α → β) (read : Reads r l a) : Reads (f <$> r) l (f a) := by
  intro rest
  simp only [Functor.map, StateT.map, Bind.bind, read rest]
  rfl

theorem reads_take {n : Nat} (width : l.length = n) : Reads (take n) l l := by
  intro rest
  subst width
  simp [take]

theorem reads_word {w v : Nat} (fits : v < 256^w) : Reads (wordOf w) (word w v) v := by
  have read := (reads_take (length_word w v)).map number
  rwa [number_word, Nat.mod_eq_of_lt fits] at read

theorem reads_expect {w v : Nat} (fits : v < 256^w) : Reads (expect w v) (word w v) () := by
  intro rest
  rw [expect, (reads_word fits).next, if_pos rfl]
  rfl

theorem reads_text (visible : ∀ c ∈ l, c ≠ 0) : Reads text (l ++ [0]) l := by
  intro rest
  induction l with
  | nil => simp [text]
  | cons c l ih =>
    have other := ih fun d among => visible d (mem_cons_of_mem c among)
    simp only [cons_append, text, if_neg (visible c mem_cons_self), other, Option.map_some]

/-- Values that read back one by one read back as a list. -/
theorem reads_times {spell : β → List UInt8} {value : β → α} {l : List β} (each : ∀ b ∈ l, Reads r (spell b) (value b)) :
    Reads (times r l.length) (l.flatMap spell) (l.map value) := by
  induction l with
  | nil => exact reads_pure
  | cons b l ih =>
    have others := ih fun c among => each c (mem_cons_of_mem b among)
    have last : Reads (times r l.length >>= fun as => pure (value b :: as)) (l.flatMap spell ++ []) (value b :: l.map value) :=
      others.bind reads_pure
    rw [append_nil] at last
    exact (each b mem_cons_self).bind last

theorem Reads.whole (read : Reads r l a) : whole r l = some a := by
  have all := read []
  rw [append_nil] at all
  rw [Formats.whole, all]

theorem whole_eq_some (h : whole r l = some a) : r l = some (a, []) := by
  rw [whole] at h
  split at h
  · rename_i c all
    cases h
    exact all
  · cases h

end

section
variable {r : Reader α} {spell : α → List UInt8}

theorem Spells.times (each : Spells r spell) (n : Nat) : Spells (times r n) (·.flatMap spell) := by
  induction n with
  | zero =>
    intro l as rest read
    cases read
    rfl
  | succ n ih =>
    intro l as rest read
    obtain ⟨⟨a, m⟩, first, read⟩ := Option.bind_eq_some_iff.mp read
    obtain ⟨⟨others, m'⟩, second, read⟩ := Option.bind_eq_some_iff.mp read
    cases read
    rw [each l a m first, ih m others rest second]
    simp

theorem length_times {n : Nat} {l : List UInt8} {as : List α} {rest : List UInt8} (read : times r n l = some (as, rest)) :
    as.length = n := by
  induction n generalizing l as rest with
  | zero =>
    cases read
    rfl
  | succ n ih =>
    obtain ⟨⟨a, m⟩, _, read⟩ := Option.bind_eq_some_iff.mp read
    obtain ⟨⟨others, m'⟩, second, read⟩ := Option.bind_eq_some_iff.mp read
    cases read
    simpa using ih second

theorem times_all {holds : α → Prop} (each : ∀ l a rest, r l = some (a, rest) → holds a) {n : Nat} {l : List UInt8} {as : List α}
    {rest : List UInt8} (read : times r n l = some (as, rest)) : ∀ a ∈ as, holds a := by
  induction n generalizing l as rest with
  | zero =>
    cases read
    simp
  | succ n ih =>
    obtain ⟨⟨a, m⟩, first, read⟩ := Option.bind_eq_some_iff.mp read
    obtain ⟨⟨others, m'⟩, second, read⟩ := Option.bind_eq_some_iff.mp read
    cases read
    rintro b (_ | ⟨_, among⟩)
    · exact each l a m first
    · exact ih second b among

theorem word_number {l : List UInt8} : word l.length (number l) = l := by
  have same : ∀ i < l.length, digits (number l) i = l.getD i 0 := fun i inside => by
    rw [number, digits_load _ _ inside, Nat.zero_add]
  rw [word, bytes_congr same, bytes_getD]

theorem spells_wordOf (w : Nat) : Spells (wordOf w) (word w) := by
  intro l v rest read
  obtain ⟨⟨first, m⟩, taken, read⟩ := Option.bind_eq_some_iff.mp read
  cases read
  rw [take] at taken
  split at taken
  · rename_i inside
    cases taken
    have width : (l.take w).length = w := by
      rw [length_take]
      omega
    have same : word w (number (l.take w)) = l.take w := by simpa only [width] using word_number (l := l.take w)
    rw [same, take_append_drop]
  · cases taken

theorem spells_text : Spells text (· ++ [0]) := by
  intro l t rest read
  induction l generalizing t with
  | nil => cases read
  | cons c l ih =>
    rw [text] at read
    split at read
    · rename_i zero
      cases read
      simp [zero]
    · obtain ⟨⟨t', rest'⟩, other, read⟩ := Option.map_eq_some_iff.mp read
      cases read
      rw [ih t' other]
      rfl

end

section
open List (Sublist replicate)

private theorem sublist_past_zeros {c : UInt8} (other : c ≠ 0) {k : Nat} {l m : List UInt8}
    (sub : (c :: l).Sublist (replicate k 0 ++ m)) : (c :: l).Sublist m := by
  induction k with
  | zero => simpa using sub
  | succ k ih =>
    rw [replicate_succ, cons_append] at sub
    cases sub with
    | cons _ sub => exact ih sub
    | cons_cons _ sub => exact absurd rfl other

private theorem zero_of_sublist {l m : List UInt8} (nonempty : m ≠ []) {k : Nat} (sub : (l ++ m).Sublist (replicate k 0 ++ l)) :
    ∀ c ∈ l, c = 0 := by
  induction l generalizing k with
  | nil => simp
  | cons c l ih =>
    by_cases zero : c = 0
    · have moved : replicate k 0 ++ c :: l = c :: (replicate k 0 ++ l) := by
        rw [zero, ← cons_append, ← replicate_succ, replicate_succ', append_assoc]
        rfl
      rw [moved, cons_append, cons_sublist_cons] at sub
      rintro d (_ | ⟨_, among⟩)
      · exact zero
      · exact ih sub d among
    · rw [cons_append] at sub
      have short := (sublist_past_zeros zero sub).length_le
      have long := length_pos_iff.mpr nonempty
      simp only [length_append, length_cons] at short
      omega

theorem word_zero {w v : Nat} (fits : v < 256^w) : (∀ c ∈ word w v, c = 0) ↔ v = 0 := by
  constructor
  · intro zero
    have none : number (word w v) = load (fun _ => 0) 0 (word w v).length := load_congr fun i inside => by
      rw [getD_eq_getElem _ _ (by omega)]
      exact zero _ (getElem_mem _)
    rwa [number_word, Nat.mod_eq_of_lt fits, load_zero] at none
  · rintro rfl c among
    rw [word, digits_zero] at among
    obtain ⟨i, _, rfl⟩ := mem_map.mp among
    rfl

theorem pad_zeros {l b : List UInt8} (zero : ∀ c ∈ l, c = 0) (zero' : ∀ c ∈ b, c = 0) (short : l.length ≤ b.length) :
    ∃ k, l ++ replicate k 0 = b := by
  refine ⟨b.length - l.length, ?_⟩
  rw [eq_replicate_of_mem zero, length_replicate, replicate_append_replicate, Nat.add_sub_of_le short]
  exact (eq_replicate_of_mem zero').symm

/-- Bytes of which some are left out, with zero bytes after them, are the bytes with something before them only where all of
    them are zero. -/
theorem zero_of_shift {l m b : List UInt8} {k : Nat} (sub : l.Sublist b) (nonempty : m ≠ []) (same : l ++ replicate k 0 = m ++ b) :
    ∀ c ∈ b, c = 0 := by
  have back : replicate k 0 ++ l.reverse = b.reverse ++ m.reverse := by
    simpa using congrArg reverse same
  have sub' := reverse_sublist.mpr sub
  have nonempty' : m.reverse ≠ [] := by simpa using nonempty
  intro c among
  rw [← mem_reverse] at among
  obtain ⟨d, all, after⟩ | ⟨d, zeros, _⟩ := append_eq_append_iff.mp back
  · rw [all] at sub' among
    rw [after] at sub'
    obtain among | among := mem_append.mp among
    · exact eq_of_mem_replicate among
    · exact zero_of_sublist nonempty' sub' c among
  · exact eq_of_mem_replicate (by rw [zeros]; exact mem_append_left d among)

end
end Peripheral.Formats
