import Mathlib.Tactic

/-!
Intervals that tile a range of numbers from zero on: they are apart from each
other, aligned, and together they are exactly the range. A tiling can grow at
its end, and an interval can be taken out of it when the ones behind it move
down to close the gap. Empty intervals lie nowhere.
-/
namespace Peripheral.Tiling
open List

/-- The numbers from `start` on, `len` of them. -/
structure Interval where
  start : Nat
  len : Nat
  deriving DecidableEq

def Apart (v w : Interval) : Prop :=
  v.len = 0 ∨ w.len = 0 ∨ v.start + v.len ≤ w.start ∨ w.start + w.len ≤ v.start

/-- The intervals are apart, start and end at multiples of `d`, and together are the numbers below `n`. -/
structure Tiles (d : Nat) (l : List Interval) (n : Nat) : Prop where
  apart : ∀ {i j : Nat} {v w : Interval}, i ≠ j → l[i]? = some v → l[j]? = some w → Apart v w
  aligned : ∀ v ∈ l, 0 < v.len → d ∣ v.start ∧ d ∣ v.len
  bounded : ∀ v ∈ l, 0 < v.len → v.start + v.len ≤ n
  covered : ∀ x < n, ∃ v ∈ l, v.start ≤ x ∧ x < v.start + v.len

/-- Where an interval goes when the `k` numbers from `o` on are taken away. -/
def close (o k : Nat) (v : Interval) : Interval := if 0 < v.len ∧ o < v.start then ⟨v.start - k, v.len⟩ else v

variable {d n : Nat} {l : List Interval}

theorem close_len (o k : Nat) (v : Interval) : (close o k v).len = v.len := by
  unfold close; split <;> rfl

theorem Tiles.nil (d : Nat) : Tiles d [] 0 :=
  ⟨by simp, by simp, by simp, by simp⟩

theorem Tiles.union (tiles : Tiles d l n) (x : Nat) : x < n ↔ ∃ v ∈ l, v.start ≤ x ∧ x < v.start + v.len := by
  refine ⟨tiles.covered x, ?_⟩
  rintro ⟨v, member, low, high⟩
  have := tiles.bounded v member (by omega)
  omega

theorem Tiles.ends (tiles : Tiles d l n) : d ∣ n := by
  rcases Nat.eq_zero_or_pos n with rfl | pos
  · exact dvd_zero d
  · obtain ⟨v, member, low, high⟩ := tiles.covered (n-1) (by omega)
    have aligned := tiles.aligned v member (by omega)
    have bounded := tiles.bounded v member (by omega)
    have ends : n = v.start + v.len := by omega
    rw [ends]
    exact Nat.dvd_add aligned.1 aligned.2

theorem Tiles.sum (tiles : Tiles d l n) : (l.map Interval.len).sum = n := by
  let tile (i : Fin l.length) : Finset Nat := Finset.Ico (l.get i).start ((l.get i).start + (l.get i).len)
  have apart : ∀ i ∈ Finset.univ, ∀ j ∈ Finset.univ, i ≠ j → Disjoint (tile i) (tile j) := by
    intro i _ j _ ne
    rw [Finset.disjoint_left]
    intro x inI inJ
    have separate := tiles.apart (i := i) (j := j) (fun same => ne (Fin.ext same)) (getElem?_eq_getElem i.isLt)
      (getElem?_eq_getElem j.isLt)
    simp only [tile, Finset.mem_Ico, get_eq_getElem] at inI inJ
    unfold Apart at separate
    omega
  have covered : Finset.univ.biUnion tile = Finset.range n := by
    ext x
    rw [Finset.mem_range, tiles.union, Finset.mem_biUnion]
    constructor
    · rintro ⟨i, _, inside⟩
      exact ⟨l.get i, get_mem l i, Finset.mem_Ico.mp inside⟩
    · rintro ⟨v, member, inside⟩
      obtain ⟨i, rfl⟩ := get_of_mem member
      exact ⟨i, Finset.mem_univ i, Finset.mem_Ico.mpr inside⟩
  calc (l.map Interval.len).sum = ∑ i : Fin l.length, (l.get i).len := by
        rw [← sum_ofFn]
        congr 1
        apply ext_getElem <;> simp
    _ = ∑ i : Fin l.length, (tile i).card := by simp [tile]
    _ = (Finset.univ.biUnion tile).card := (Finset.card_biUnion apart).symm
    _ = n := by rw [covered, Finset.card_range]
variable {v : Interval}

/-- An interval apart from `[o, o+k)` is before it or moves down behind it. -/
theorem close_start {o k : Nat} (apart : Apart v ⟨o, k⟩) (some_ : 0 < v.len) (gap : 0 < k) :
    (v.start + v.len ≤ o ∧ close o k v = v) ∨ (o + k ≤ v.start ∧ close o k v = ⟨v.start - k, v.len⟩) := by
  simp only [Apart] at apart
  by_cases behind : o < v.start
  · exact .inr ⟨by omega, by simp [close, some_, behind]⟩
  · exact .inl ⟨by omega, by simp [close, behind]⟩

section
variable (tiles : Tiles d l n)
include tiles

theorem Tiles.snoc {k : Nat} (multiple : d ∣ k) : Tiles d (l ++ [⟨n, k⟩]) (n + k) := by
  have old : ∀ {i : Nat} {v : Interval}, (l ++ [⟨n, k⟩])[i]? = some v →
      (l[i]? = some v ∧ i < l.length) ∨ (v = ⟨n, k⟩ ∧ i = l.length) := by
    intro i v found
    by_cases inside : i < l.length
    · exact .inl ⟨by rwa [getElem?_append_left inside] at found, inside⟩
    · rw [getElem?_append_right (by omega)] at found
      have := (List.getElem?_eq_some_iff.mp found).1
      simp only [length_singleton] at this
      have at_end : i - l.length = 0 := by omega
      rw [at_end] at found
      exact .inr ⟨by simpa using found.symm, by omega⟩
  refine ⟨?_, ?_, ?_, ?_⟩
  · intro i j v w ne atI atJ
    rcases old atI with ⟨vOld, _⟩ | ⟨rfl, iEnd⟩
    · rcases old atJ with ⟨wOld, _⟩ | ⟨rfl, _⟩
      · exact tiles.apart ne vOld wOld
      · by_cases empty : v.len = 0
        · exact .inl empty
        · have := tiles.bounded v (mem_of_getElem? vOld) (by omega)
          exact .inr (.inr (.inl this))
    · rcases old atJ with ⟨wOld, _⟩ | ⟨rfl, jEnd⟩
      · by_cases empty : w.len = 0
        · exact .inr (.inl empty)
        · have := tiles.bounded w (mem_of_getElem? wOld) (by omega)
          exact .inr (.inr (.inr this))
      · omega
  · intro v member pos
    rcases mem_append.mp member with before | last
    · exact tiles.aligned v before pos
    · rw [mem_singleton.mp last]; exact ⟨tiles.ends, multiple⟩
  · intro v member pos
    rcases mem_append.mp member with before | last
    · have := tiles.bounded v before pos; omega
    · rw [mem_singleton.mp last]
  · intro x below
    by_cases inside : x < n
    · obtain ⟨v, member, holds⟩ := tiles.covered x inside
      exact ⟨v, mem_append_left _ member, holds⟩
    · exact ⟨⟨n, k⟩, by simp, by simp only; omega⟩

theorem Tiles.snoc_empty (o : Nat) : Tiles d (l ++ [⟨o, 0⟩]) n := by
  have grown := tiles.snoc (dvd_zero d)
  refine ⟨?_, ?_, ?_, ?_⟩
  · intro i j v w ne atI atJ
    have same : ∀ {i : Nat} {v : Interval}, (l ++ [⟨o, 0⟩])[i]? = some v →
        v.len = 0 ∨ (l ++ [⟨n, 0⟩])[i]? = some v := by
      intro i v found
      by_cases inside : i < l.length
      · rw [getElem?_append_left inside] at found ⊢; exact .inr found
      · have := mem_of_getElem? found
        rw [getElem?_append_right (by omega)] at found
        have := mem_of_getElem? found
        rw [mem_singleton.mp this]; exact .inl rfl
    rcases same atI with empty | atI
    · exact .inl empty
    · rcases same atJ with empty | atJ
      · exact .inr (.inl empty)
      · exact grown.apart ne atI atJ
  · intro v member pos
    rcases mem_append.mp member with before | last
    · exact tiles.aligned v before pos
    · rw [mem_singleton.mp last] at pos; simp at pos
  · intro v member pos
    rcases mem_append.mp member with before | last
    · exact tiles.bounded v before pos
    · rw [mem_singleton.mp last] at pos; simp at pos
  · intro x below
    obtain ⟨v, member, holds⟩ := tiles.covered x below
    exact ⟨v, mem_append_left _ member, holds⟩

theorem Tiles.covered_other {i x : Nat} (found : l[i]? = some v) (below : x < n) (outside : ¬(v.start ≤ x ∧ x < v.start + v.len)) :
    ∃ j w, j ≠ i ∧ l[j]? = some w ∧ w.start ≤ x ∧ x < w.start + w.len := by
  obtain ⟨w, member, holds⟩ := tiles.covered x below
  obtain ⟨j, atJ⟩ := mem_iff_getElem?.mp member
  refine ⟨j, w, ?_, atJ, holds⟩
  rintro rfl
  rw [found] at atJ
  cases atJ
  exact outside holds

theorem Tiles.erase_empty {i : Nat} (found : l[i]? = some v) (empty : v.len = 0) : Tiles d (l.eraseIdx i) n := by
  refine ⟨?_, fun w member => tiles.aligned w (mem_of_mem_eraseIdx member),
    fun w member => tiles.bounded w (mem_of_mem_eraseIdx member), ?_⟩
  · intro j k w u ne atJ atK
    rw [getElem?_eraseIdx] at atJ atK
    split at atJ
    · split at atK
      · exact tiles.apart ne atJ atK
      · exact tiles.apart (by omega) atJ atK
    · split at atK
      · exact tiles.apart (by omega) atJ atK
      · exact tiles.apart (by omega) atJ atK
  · intro x below
    obtain ⟨j, w, other, atJ, holds⟩ := tiles.covered_other found below (by omega)
    exact ⟨w, mem_eraseIdx_iff_getElem?.mpr ⟨j, other, atJ⟩, holds⟩

theorem Tiles.set_empty {i : Nat} (found : l[i]? = some v) (empty : v.len = 0) (x : Nat) : Tiles d (l.set i ⟨x, 0⟩) n := by
  have old : ∀ {j : Nat} {w : Interval}, (l.set i ⟨x, 0⟩)[j]? = some w → 0 < w.len → l[j]? = some w := by
    intro j w atJ pos
    by_cases same : i = j
    · subst same
      rw [List.getElem?_set_self (List.getElem?_eq_some_iff.mp found).1] at atJ
      rw [← Option.some.inj atJ] at pos
      simp at pos
    · rwa [getElem?_set_ne same] at atJ
  refine ⟨?_, ?_, ?_, ?_⟩
  · intro j k w u ne atJ atK
    by_cases wEmpty : w.len = 0
    · exact .inl wEmpty
    · by_cases uEmpty : u.len = 0
      · exact .inr (.inl uEmpty)
      · exact tiles.apart ne (old atJ (by omega)) (old atK (by omega))
  · intro w member pos
    obtain ⟨j, atJ⟩ := mem_iff_getElem?.mp member
    exact tiles.aligned w (mem_of_getElem? (old atJ pos)) pos
  · intro w member pos
    obtain ⟨j, atJ⟩ := mem_iff_getElem?.mp member
    exact tiles.bounded w (mem_of_getElem? (old atJ pos)) pos
  · intro y below
    obtain ⟨j, w, other, atJ, holds⟩ := tiles.covered_other found below (by omega)
    exact ⟨w, mem_iff_getElem?.mpr ⟨j, (getElem?_set_ne other.symm).trans atJ⟩, holds⟩

theorem Tiles.fill {i : Nat} (found : l[i]? = some v)
    (empty : v.len = 0) {k : Nat} (multiple : d ∣ k) : Tiles d (l.set i ⟨n, k⟩) (n + k) := by
  have inside : i < l.length := (List.getElem?_eq_some_iff.mp found).1
  have old : ∀ {j : Nat} {w : Interval}, (l.set i ⟨n, k⟩)[j]? = some w →
      (j ≠ i ∧ l[j]? = some w) ∨ (j = i ∧ w = ⟨n, k⟩) := by
    intro j w atJ
    by_cases same : i = j
    · subst same
      rw [getElem?_set_self inside] at atJ
      exact .inr ⟨rfl, (Option.some.inj atJ).symm⟩
    · rw [getElem?_set_ne same] at atJ
      exact .inl ⟨fun e => same e.symm, atJ⟩
  have oldMem : ∀ w ∈ l.set i ⟨n, k⟩, w ∈ l ∨ w = ⟨n, k⟩ := fun w member => mem_or_eq_of_mem_set member
  refine ⟨?_, ?_, ?_, ?_⟩
  · intro a b w u ne atA atB
    rcases old atA with ⟨_, wOld⟩ | ⟨aIs, rfl⟩
    · rcases old atB with ⟨_, uOld⟩ | ⟨_, rfl⟩
      · exact tiles.apart ne wOld uOld
      · by_cases none : w.len = 0
        · exact .inl none
        · exact .inr (.inr (.inl (tiles.bounded w (mem_of_getElem? wOld) (by omega))))
    · rcases old atB with ⟨_, uOld⟩ | ⟨bIs, rfl⟩
      · by_cases none : u.len = 0
        · exact .inr (.inl none)
        · exact .inr (.inr (.inr (tiles.bounded u (mem_of_getElem? uOld) (by omega))))
      · omega
  · intro w member pos
    rcases oldMem w member with before | rfl
    · exact tiles.aligned w before pos
    · exact ⟨tiles.ends, multiple⟩
  · intro w member pos
    rcases oldMem w member with before | rfl
    · have := tiles.bounded w before pos; omega
    · exact Nat.le_refl _
  · intro x below
    by_cases before : x < n
    · obtain ⟨j, w, other, atJ, holds⟩ := tiles.covered_other found before (by omega)
      exact ⟨w, mem_iff_getElem?.mpr ⟨j, (getElem?_set_ne other.symm).trans atJ⟩, holds⟩
    · refine ⟨⟨n, k⟩, mem_iff_getElem?.mpr ⟨i, getElem?_set_self inside⟩, ?_⟩
      simp only; omega

theorem Tiles.take {i o k x : Nat} (found : l[i]? = some ⟨o, k⟩) (gap : 0 < k) :
    Tiles d ((l.map (close o k)).set i ⟨x, 0⟩) (n - k) := by
  have inside : i < l.length := (List.getElem?_eq_some_iff.mp found).1
  have taken := tiles.aligned _ (mem_of_getElem? found) gap
  have room := tiles.bounded _ (mem_of_getElem? found) gap
  simp only at taken room
  have old : ∀ {j : Nat} {w : Interval}, ((l.map (close o k)).set i ⟨x, 0⟩)[j]? = some w →
      w.len = 0 ∨ ∃ u, j ≠ i ∧ l[j]? = some u ∧ w = close o k u := by
    intro j w atJ
    by_cases same : i = j
    · subst same
      rw [getElem?_set_self (by simpa using inside)] at atJ
      exact .inl (by rw [← Option.some.inj atJ])
    · rw [getElem?_set_ne same, getElem?_map, Option.map_eq_some_iff] at atJ
      obtain ⟨u, atU, rfl⟩ := atJ
      exact .inr ⟨u, fun e => same e.symm, atU, rfl⟩
  -- Every interval that remains is where it was, before the gap, or `k` lower, behind it.
  have moved : ∀ {j : Nat} {u : Interval}, j ≠ i → l[j]? = some u → 0 < u.len →
      (u.start + u.len ≤ o ∧ close o k u = u) ∨ (o + k ≤ u.start ∧ close o k u = ⟨u.start - k, u.len⟩) :=
    fun ne atJ pos => close_start (tiles.apart ne atJ found) pos gap
  refine ⟨?_, ?_, ?_, ?_⟩
  · intro a b w u ne atA atB
    rcases old atA with none | ⟨w0, aNe, wOld, rfl⟩
    · exact .inl none
    · rcases old atB with none | ⟨u0, bNe, uOld, rfl⟩
      · exact .inr (.inl none)
      · by_cases wEmpty : w0.len = 0
        · exact .inl (by rw [close_len]; exact wEmpty)
        · by_cases uEmpty : u0.len = 0
          · exact .inr (.inl (by rw [close_len]; exact uEmpty))
          · have apart := tiles.apart ne wOld uOld
            simp only [Apart] at apart ⊢
            rcases moved aNe wOld (by omega) with ⟨wLow, wIs⟩ | ⟨wHigh, wIs⟩
            · rcases moved bNe uOld (by omega) with ⟨uLow, uIs⟩ | ⟨uHigh, uIs⟩
              · rw [wIs, uIs]; omega
              · rw [wIs, uIs]; simp only; omega
            · rcases moved bNe uOld (by omega) with ⟨uLow, uIs⟩ | ⟨uHigh, uIs⟩
              · rw [wIs, uIs]; simp only; omega
              · rw [wIs, uIs]; simp only; omega
  · intro w member pos
    obtain ⟨j, atJ⟩ := mem_iff_getElem?.mp member
    rcases old atJ with none | ⟨u, ne, uOld, rfl⟩
    · omega
    · rw [close_len] at pos
      have was := tiles.aligned u (mem_of_getElem? uOld) pos
      rcases moved ne uOld pos with ⟨_, uIs⟩ | ⟨_, uIs⟩
      · rw [uIs]; exact was
      · rw [uIs]; exact ⟨Nat.dvd_sub was.1 taken.2, was.2⟩
  · intro w member pos
    obtain ⟨j, atJ⟩ := mem_iff_getElem?.mp member
    rcases old atJ with none | ⟨u, ne, uOld, rfl⟩
    · omega
    · rw [close_len] at pos
      have was := tiles.bounded u (mem_of_getElem? uOld) pos
      rcases moved ne uOld pos with ⟨_, uIs⟩ | ⟨_, uIs⟩
      · rw [uIs]; omega
      · rw [uIs]; simp only; omega
  · intro y below
    -- Below the gap nothing moved; a number at or above it was `k` higher.
    have source : ∃ z, z < n ∧ ((z = y ∧ y < o) ∨ (z = y + k ∧ o ≤ y)) := by
      by_cases low : y < o
      · exact ⟨y, by omega, .inl ⟨rfl, low⟩⟩
      · exact ⟨y + k, by omega, .inr ⟨rfl, by omega⟩⟩
    obtain ⟨z, inRange, from_⟩ := source
    obtain ⟨j, u, other, atJ, low, high⟩ := tiles.covered_other found inRange (by simp only; omega)
    refine ⟨close o k u, mem_iff_getElem?.mpr ⟨j, ?_⟩, ?_⟩
    · rw [getElem?_set_ne (fun e => other e.symm), getElem?_map, atJ]; rfl
    · rcases moved other atJ (by omega) with ⟨before, uIs⟩ | ⟨behind, uIs⟩
      · rw [uIs]; omega
      · rw [uIs]; simp only; omega

end

/-- Intervals with something in them that follow each other from zero up to `n`. -/
inductive Consecutive : List Interval → Nat → Prop
  | nil : Consecutive [] 0
  | snoc {l : List Interval} {n k : Nat} (before : Consecutive l n) (pos : 0 < k) :
      Consecutive (l ++ [⟨n, k⟩]) (n + k)

namespace Consecutive

section
variable (consecutive : Consecutive l n)
include consecutive

theorem tiles : Tiles 1 l n := by
  induction consecutive with
  | nil => exact Tiles.nil 1
  | snoc _ _ before => exact before.snoc (one_dvd _)

theorem pos : ∀ v ∈ l, 0 < v.len := by
  induction consecutive with
  | nil => nofun
  | snoc _ pos before =>
    intro v member
    rcases mem_append.mp member with old | last
    · exact before v old
    · rw [mem_singleton.mp last]
      exact pos

theorem bounded (member : v ∈ l) : v.start + v.len ≤ n :=
  consecutive.tiles.bounded v member (consecutive.pos v member)

theorem nodup : l.Nodup := by
  induction consecutive with
  | nil => exact nodup_nil
  | @snoc l n k before pos once =>
    refine List.Nodup.append once (nodup_singleton _) ?_
    rw [disjoint_singleton]
    intro member
    have := before.bounded member
    have := before.pos _ member
    simp only at *
    omega

theorem apart {v w : Interval} (first : v ∈ l) (second : w ∈ l) (differ : v ≠ w) :
    v.start + v.len ≤ w.start ∨ w.start + w.len ≤ v.start := by
  obtain ⟨i, atI⟩ := mem_iff_getElem?.mp first
  obtain ⟨j, atJ⟩ := mem_iff_getElem?.mp second
  have other : i ≠ j := by
    rintro rfl
    exact differ (Option.some.inj (atI.symm.trans atJ))
  have apart := consecutive.tiles.apart other atI atJ
  have := consecutive.pos v first
  have := consecutive.pos w second
  unfold Apart at apart
  omega

end

end Consecutive

end Peripheral.Tiling
