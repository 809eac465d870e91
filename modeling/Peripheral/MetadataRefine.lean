import Peripheral.MetadataStore

/-!
The bytes of a metadata buffer represent a store: the header fields, the entries
and the data area are where the layout puts them. Every operation on a buffer
that represents a store runs without leaving the buffer, returns what the call on
the store returns, and leaves a buffer that represents the store after the call.
-/
namespace Peripheral.Metadata
open Peripheral.Bytes Peripheral.Tiling Store List Option

def field (b : Block) (a : Nat) : Nat := load b.byte a 4

def slotAt (i : Nat) : Nat := headerLength + itemLen * i

def slot (b : Block) (i : Nat) : Entry :=
  ⟨field b (slotAt i), field b (slotAt i + 4), field b (slotAt i + 8), field b (slotAt i + itemFixedLen)⟩

def dataAt (itemCapacity : Nat) : Nat := headerLength + itemLen * itemCapacity

/-- The buffer `b` holds the store `s`. -/
structure Represents (b : Block) (s : Store) : Prop where
  itemsStart : field b itemsStartAt = headerLength
  dataStart : field b dataStartAt = dataAt s.itemCapacity
  itemCapacity : field b itemCapacityAt = s.itemCapacity
  dataCapacity : field b dataCapacityAt = s.dataCapacity
  itemCount : field b itemCountAt = s.entries.length
  dataCount : field b dataCountAt = s.dataCount
  entries : ∀ {i : Nat} {e : Entry}, s.entries[i]? = some e → slot b i = e
  data : ∀ x < s.dataCapacity, b.byte (dataAt s.itemCapacity + x) = s.data x
  room : dataAt s.itemCapacity + s.dataCapacity ≤ b.size
  itemsFit : s.entries.length ≤ s.itemCapacity
  dataFits : s.dataCount ≤ s.dataCapacity

theorem field_lt (b : Block) (a : Nat) : field b a < 2^32 := load_lt b.byte a 4

theorem field_patch {b : Block} {a n x : Nat} {src : Mem} (out : x + 4 ≤ a ∨ a + n ≤ x) :
    field ⟨b.size, patch b.byte a n src⟩ x = field b x := load_patch_outside out

theorem field_written {b : Block} {a v : Nat} : field ⟨b.size, patch b.byte a 4 (digits v)⟩ a = v % 2^32 := by
  unfold field
  rw [load_patch_inside (Nat.le_refl _) (Nat.le_refl _), Nat.sub_self, load_digits]; rfl

theorem slot_patch {b : Block} {a n i : Nat} {src : Mem} (out : slotAt i + 16 ≤ a ∨ a + n ≤ slotAt i) :
    slot ⟨b.size, patch b.byte a n src⟩ i = slot b i := by
  unfold slot itemFixedLen
  rw [field_patch (by omega), field_patch (by omega), field_patch (by omega), field_patch (by omega)]

theorem slot_copied {b c : Block} {a n o i j : Nat} (low : a ≤ slotAt i) (high : slotAt i + itemLen ≤ a + n)
    (same : o + (slotAt i - a) = slotAt j) : slot ⟨b.size, patch b.byte a n (offset c.byte o)⟩ i = slot c j := by
  have copied : ∀ {k}, k + 4 ≤ itemLen → field ⟨b.size, patch b.byte a n (offset c.byte o)⟩ (slotAt i + k) =
      field c (slotAt j + k) := by
    intro k part
    unfold field
    rw [load_patch_inside (by omega) (by omega), load_offset]
    congr 1
    omega
  exact Entry.ext (copied (k := 0) (by decide)) (copied (by decide)) (copied (by decide)) (copied (by decide))

section
variable {b : Block} {i v : Nat}

theorem slot_write_clear : slot ⟨b.size, patch b.byte (slotAt i) itemLen (fun _ => 0)⟩ i = ⟨0, 0, 0, 0⟩ := by
  have cleared : ∀ {k}, k + 4 ≤ itemLen →
      field ⟨b.size, patch b.byte (slotAt i) itemLen (fun _ => 0)⟩ (slotAt i + k) = 0 := by
    intro k part
    rw [field, load_patch_inside (by omega) (by omega), load_zero]
  exact Entry.ext (cleared (k := 0) (by decide)) (cleared (by decide)) (cleared (by decide)) (cleared (by decide))

theorem slot_write_item :
    slot ⟨b.size, patch b.byte (slotAt i) 4 (digits v)⟩ i = { slot b i with item := v % 2^32 } :=
  Entry.ext field_written (field_patch (.inr (by omega))) (field_patch (.inr (by omega)))
    (field_patch (.inr (by unfold itemFixedLen; omega)))

theorem slot_write_dataType :
    slot ⟨b.size, patch b.byte (slotAt i + 4) 4 (digits v)⟩ i = { slot b i with dataType := v % 2^32 } :=
  Entry.ext (field_patch (.inl (by omega))) field_written (field_patch (.inr (by omega)))
    (field_patch (.inr (by unfold itemFixedLen; omega)))

theorem slot_write_count :
    slot ⟨b.size, patch b.byte (slotAt i + 8) 4 (digits v)⟩ i = { slot b i with count := v % 2^32 } :=
  Entry.ext (field_patch (.inl (by omega))) (field_patch (.inl (by omega))) field_written
    (field_patch (.inr (by unfold itemFixedLen; omega)))

theorem slot_write_offset :
    slot ⟨b.size, patch b.byte (slotAt i + itemFixedLen) 4 (digits v)⟩ i = { slot b i with data := v % 2^32 } :=
  Entry.ext (field_patch (.inl (by unfold itemFixedLen; omega))) (field_patch (.inl (by unfold itemFixedLen; omega)))
    (field_patch (.inl (by unfold itemFixedLen; omega))) field_written

theorem slot_write_value {n : Nat} {data : Mem} :
    slot ⟨b.size, patch b.byte (slotAt i + itemFixedLen) n data⟩ i =
      { slot b i with data := inlineData (digits (slot b i).data) n data } := by
  refine Entry.ext (field_patch (.inl (by unfold itemFixedLen; omega)))
    (field_patch (.inl (by unfold itemFixedLen; omega)))
    (field_patch (.inl (by unfold itemFixedLen; omega))) ?_
  refine load_congr (fun k below => ?_)
  rw [Nat.zero_add]
  simp only
  by_cases written : k < n
  · rw [patch_inside (by omega) (by omega), patch_inside (by omega) (by omega)]
    congr 1
    omega
  · rw [patch_outside (by omega), patch_outside (by omega)]
    exact (digits_load b.byte _ below).symm

end

namespace Represents
open Store (securecOk_iff payload_count)
variable {b : Block} {s : Store}

section
variable (rep : Represents b s)
include rep

theorem size_pos : headerLength ≤ b.size := by
  have := rep.room; unfold dataAt at this; omega

theorem read_field {a : Nat} (header : a + 4 ≤ headerLength) :
    b.read32 a = some (field b a) := Block.read32_inside (by have := rep.size_pos; omega)

theorem read_itemCount : b.read32 itemCountAt = some s.entries.length := by
  rw [rep.read_field (by decide), rep.itemCount]
theorem read_itemCapacity : b.read32 itemCapacityAt = some s.itemCapacity := by
  rw [rep.read_field (by decide), rep.itemCapacity]
theorem read_dataCount : b.read32 dataCountAt = some s.dataCount := by
  rw [rep.read_field (by decide), rep.dataCount]
theorem read_dataCapacity : b.read32 dataCapacityAt = some s.dataCapacity := by
  rw [rep.read_field (by decide), rep.dataCapacity]
theorem read_dataStart : getMetadataData b = some (dataAt s.itemCapacity) := by
  rw [getMetadataData, rep.read_field (by decide), rep.dataStart]
theorem read_items (i : Nat) : getMetadataItems b i = some (slotAt i) := by
  unfold getMetadataItems
  rw [rep.read_field (by decide), rep.itemsStart]; rfl

theorem read_slot {i k : Nat} (inside : i < s.itemCapacity) (part : k + 4 ≤ itemLen) :
    b.read32 (slotAt i + k) = some (field b (slotAt i + k)) := by
  apply Block.read32_inside
  have room := rep.room
  unfold slotAt dataAt headerLength itemLen at *
  omega

end

section
variable {i : Nat} {e : Entry} (rep : Represents b s) (found : s.entries[i]? = some e)
include rep found

theorem index_lt : i < s.itemCapacity := by
  have := (List.getElem?_eq_some_iff.mp found).1
  have := rep.itemsFit
  omega

theorem read_item : b.read32 (slotAt i) = some e.item := by
  rw [← rep.entries found]; exact rep.read_slot (k := 0) (rep.index_lt found) (by decide)
theorem read_dataType : b.read32 (slotAt i + 4) = some e.dataType := by
  rw [← rep.entries found]; exact rep.read_slot (rep.index_lt found) (by decide)
theorem read_count : b.read32 (slotAt i + 8) = some e.count := by
  rw [← rep.entries found]; exact rep.read_slot (rep.index_lt found) (by decide)
theorem read_offset : b.read32 (slotAt i + itemFixedLen) = some e.data := by
  rw [← rep.entries found]; exact rep.read_slot (rep.index_lt found) (by decide)

end

section
variable (rep : Represents b s)
include rep

theorem write_data {o n : Nat} (src : Mem) (fits : o + n ≤ s.dataCapacity) :
    ∃ b', b.write (dataAt s.itemCapacity + o) n src = some b' ∧
      Represents b' { s with data := patch s.data o n src } ∧ ∀ i < s.itemCapacity, slot b' i = slot b i := by
  have room := rep.room
  have itemsFit := rep.itemsFit
  have low : headerLength ≤ dataAt s.itemCapacity := by unfold dataAt; omega
  have header : ∀ {x}, x + 4 ≤ headerLength →
      field ⟨b.size, patch b.byte (dataAt s.itemCapacity + o) n src⟩ x = field b x := fun below => field_patch (.inl (by omega))
  have slots : ∀ i < s.itemCapacity, slot ⟨b.size, patch b.byte (dataAt s.itemCapacity + o) n src⟩ i = slot b i := by
    intro i inside
    exact slot_patch (.inl (by unfold slotAt dataAt headerLength itemLen; omega))
  refine ⟨_, Block.write_inside (by omega), ?_, slots⟩
  refine ⟨?_, ?_, ?_, ?_, ?_, ?_, ?_, ?_, rep.room, rep.itemsFit, rep.dataFits⟩
  · rw [header (by decide), rep.itemsStart]
  · rw [header (by decide), rep.dataStart]
  · rw [header (by decide), rep.itemCapacity]
  · rw [header (by decide), rep.dataCapacity]
  · rw [header (by decide), rep.itemCount]
  · rw [header (by decide), rep.dataCount]
  · intro i e found
    rw [slots i (rep.index_lt found), rep.entries found]
  · intro x below
    by_cases written : o ≤ x ∧ x < o + n
    · simp only
      rw [patch_inside (by omega) (by omega), patch_inside written.1 written.2]
      congr 1
      omega
    · simp only
      rw [patch_outside (by omega), patch_outside (by omega)]
      exact rep.data x below

theorem write_array {a n : Nat} (src : Mem) (low : headerLength ≤ a)
    (high : a + n ≤ dataAt s.itemCapacity) :
    ∃ b', b.write a n src = some b' ∧ b' = ⟨b.size, patch b.byte a n src⟩ ∧
      Represents b' { s with entries := (range s.entries.length).map (slot b') } := by
  have room := rep.room
  have header : ∀ {x}, x + 4 ≤ headerLength → field ⟨b.size, patch b.byte a n src⟩ x = field b x :=
    fun below => field_patch (.inl (by omega))
  refine ⟨_, Block.write_inside (by omega), rfl, ?_⟩
  refine ⟨?_, ?_, ?_, ?_, ?_, ?_, ?_, ?_, rep.room, by simpa using rep.itemsFit, rep.dataFits⟩
  · rw [header (by decide), rep.itemsStart]
  · rw [header (by decide), rep.dataStart]
  · rw [header (by decide), rep.itemCapacity]
  · rw [header (by decide), rep.dataCapacity]
  · rw [header (by decide), rep.itemCount, length_map, length_range]
  · rw [header (by decide), rep.dataCount]
  · intro i e found
    rw [getElem?_map, map_eq_some_iff] at found
    obtain ⟨j, atI, rfl⟩ := found
    rw [List.getElem?_range (by have := (List.getElem?_eq_some_iff.mp atI).1; simpa using this)] at atI
    rw [some.inj atI]
  · intro x below
    rw [← rep.data x below]
    exact patch_outside (.inr (by simp only at *; omega))

theorem write_slot {i a n : Nat} (src : Mem) (inside : i < s.itemCapacity)
    (low : slotAt i ≤ a) (high : a + n ≤ slotAt i + itemLen) :
    ∃ b', b.write a n src = some b' ∧ b' = ⟨b.size, patch b.byte a n src⟩ ∧
      Represents b' { s with entries := s.entries.set i (slot b' i) } := by
  obtain ⟨b', written, is, rep'⟩ := rep.write_array src (a := a) (n := n) (by unfold slotAt at low; omega)
    (by unfold slotAt dataAt itemLen at *; omega)
  have entries : (range s.entries.length).map (slot b') = s.entries.set i (slot b' i) := by
    apply ext_getElem?
    intro j
    by_cases counted : j < s.entries.length
    · rw [getElem?_map, getElem?_range counted, map_some]
      by_cases same : i = j
      · subst same
        rw [getElem?_set_self counted]
      · have kept := rep.entries (getElem?_eq_getElem counted)
        rw [getElem?_set_ne same, getElem?_eq_getElem counted, is,
          slot_patch (by unfold slotAt itemLen at *; omega), kept]
    · rw [getElem?_eq_none (by simpa using counted), getElem?_eq_none (by simpa using counted)]
  rw [entries] at rep'
  exact ⟨b', written, is, rep'⟩

theorem write_dataCount {v : Nat} (fits : v ≤ s.dataCapacity) :
    ∃ b', b.write32 dataCountAt v = some b' ∧ Represents b' { s with dataCount := v } ∧ ∀ i, slot b' i = slot b i := by
  have slots : ∀ i, slot ⟨b.size, patch b.byte dataCountAt 4 (digits v)⟩ i = slot b i :=
    fun i => slot_patch (.inr (by unfold slotAt dataCountAt headerLength; omega))
  have size := rep.size_pos
  have bound : v < 2^32 := by have := field_lt b dataCapacityAt; rw [rep.dataCapacity] at this; omega
  refine ⟨_, Block.write32_inside (by unfold dataCountAt headerLength at *; omega), ?_, slots⟩
  refine ⟨?_, ?_, ?_, ?_, ?_, ?_, ?_, ?_, rep.room, rep.itemsFit, fits⟩
  · rw [field_patch (by decide), rep.itemsStart]
  · rw [field_patch (by decide), rep.dataStart]
  · rw [field_patch (by decide), rep.itemCapacity]
  · rw [field_patch (by decide), rep.dataCapacity]
  · rw [field_patch (by decide), rep.itemCount]
  · rw [field_written, Nat.mod_eq_of_lt bound]
  · intro i e found
    rw [slots i, rep.entries found]
  · intro x below
    rw [← rep.data x below]
    exact patch_outside (.inr (by unfold dataAt dataCountAt headerLength; omega))

theorem write_itemCount {l : List Entry} (fits : l.length ≤ s.itemCapacity)
    (there : ∀ {i : Nat} {e : Entry}, l[i]? = some e → slot b i = e) :
    ∃ b', b.write32 itemCountAt l.length = some b' ∧ Represents b' { s with entries := l } := by
  have size := rep.size_pos
  have bound : l.length < 2^32 := by have := field_lt b itemCapacityAt; rw [rep.itemCapacity] at this; omega
  refine ⟨_, Block.write32_inside (by unfold itemCountAt headerLength at *; omega), ?_⟩
  refine ⟨?_, ?_, ?_, ?_, ?_, ?_, ?_, ?_, rep.room, fits, rep.dataFits⟩
  · rw [field_patch (by decide), rep.itemsStart]
  · rw [field_patch (by decide), rep.dataStart]
  · rw [field_patch (by decide), rep.itemCapacity]
  · rw [field_patch (by decide), rep.dataCapacity]
  · rw [field_written, Nat.mod_eq_of_lt bound]
  · rw [field_patch (by decide), rep.dataCount]
  · intro i e found
    rw [slot_patch (.inr (by unfold slotAt itemCountAt headerLength; omega)), there found]
  · intro x below
    rw [← rep.data x below]
    exact patch_outside (.inr (by unfold dataAt itemCountAt headerLength; omega))

end

section
variable {i n : Nat} (data : Mem)

section
variable (rep : Represents b s)
include rep

theorem writeEntry_next (free : s.entries.length < s.itemCapacity) (item dataType count : Nat) :
    ∃ b', writeEntry b (slotAt s.entries.length) item dataType count = some b' ∧ Represents b' s ∧
      slot b' s.entries.length = ⟨item % 2^32, dataType % 2^32, count % 2^32, 0⟩ := by
  obtain ⟨b1, write1, is1, rep1⟩ := rep.write_slot (n := itemLen) (fun _ => 0) free (Nat.le_refl _) (Nat.le_refl _)
  simp only [set_eq_of_length_le (Nat.le_refl _)] at rep1
  obtain ⟨b2, write2, is2, rep2⟩ := rep1.write_slot (n := 4) (digits item) free (Nat.le_refl _) (by unfold itemLen; omega)
  simp only [set_eq_of_length_le (Nat.le_refl _)] at rep2
  obtain ⟨b3, write3, is3, rep3⟩ := rep2.write_slot (a := slotAt s.entries.length + 4) (n := 4) (digits dataType) free
    (by omega) (by unfold itemLen; omega)
  simp only [set_eq_of_length_le (Nat.le_refl _)] at rep3
  obtain ⟨b4, write4, is4, rep4⟩ := rep3.write_slot (a := slotAt s.entries.length + 8) (n := 4) (digits count) free
    (by omega) (by unfold itemLen; omega)
  simp only [set_eq_of_length_le (Nat.le_refl _)] at rep4
  refine ⟨b4, ?_, rep4, ?_⟩
  · simp only [writeEntry, Block.write32, write1, write2, write3, write4, bind_eq_bind, bind_some]
  · rw [is4, slot_write_count, is3, slot_write_dataType, is2, slot_write_item, is1, slot_write_clear]

theorem incItemCount_next (free : s.entries.length < s.itemCapacity) {e : Entry}
    (there : slot b s.entries.length = e) :
    ∃ b', incItemCount b = some b' ∧ Represents b' { s with entries := s.entries ++ [e] } := by
  have length : (s.entries ++ [e]).length = s.entries.length + 1 := by simp
  obtain ⟨b', written, rep'⟩ := rep.write_itemCount (l := s.entries ++ [e]) (by omega) (by
    intro i f found
    by_cases before : i < s.entries.length
    · rw [getElem?_append_left before] at found
      exact rep.entries found
    · have last := (List.getElem?_eq_some_iff.mp found).1
      have is : i = s.entries.length := by omega
      subst is
      rw [there]
      simpa using found)
  refine ⟨b', ?_, rep'⟩
  rw [length] at written
  simp only [incItemCount, rep.read_itemCount, bind_eq_bind, bind_some, written]

theorem addDataCount_spec {k : Nat} (fits : s.dataCount + k ≤ s.dataCapacity) :
    ∃ b', addDataCount b k = some b' ∧ Represents b' { s with dataCount := s.dataCount + k } ∧
      ∀ i, slot b' i = slot b i := by
  obtain ⟨b', written, rep', slots⟩ := rep.write_dataCount fits
  refine ⟨b', ?_, rep', slots⟩
  simp only [addDataCount, rep.read_dataCount, bind_eq_bind, bind_some, written]

theorem placeAtEnd_spec (inside : i < s.itemCapacity) :
    ∃ b', placeAtEnd b (slotAt i) = some b' ∧ slot b' i = { slot b i with data := s.dataCount } ∧
      Represents b' { s with entries := s.entries.set i (slot b' i) } := by
  obtain ⟨b', written, is, rep'⟩ := rep.write_slot (a := slotAt i + itemFixedLen) (n := 4) (digits s.dataCount) inside
    (by omega) (by unfold itemLen itemFixedLen; omega)
  refine ⟨b', ?_, ?_, rep'⟩
  · simp only [placeAtEnd, rep.read_dataCount, bind_eq_bind, bind_some, Block.write32, written]
  · have bound : s.dataCount < 2^32 := by rw [← rep.dataCount]; exact field_lt b dataCountAt
    rw [is, slot_write_offset, Nat.mod_eq_of_lt bound]

theorem copyToValue_spec (inside : i < s.itemCapacity) (copied : securecOk n n) (fits : n ≤ 4) :
    ∃ b', copyToValue b (slotAt i) n data = some (.success, b') ∧
      slot b' i = { slot b i with data := inlineData (digits (slot b i).data) n data } ∧
      Represents b' { s with entries := s.entries.set i (slot b' i) } := by
  obtain ⟨b', written, is, rep'⟩ := rep.write_slot (a := slotAt i + itemFixedLen) (n := n) data inside
    (by omega) (by unfold itemLen itemFixedLen; omega)
  refine ⟨b', ?_, by rw [is, slot_write_value], rep'⟩
  simp only [copyToValue, copied, if_true, written, Option.bind_eq_bind, Option.bind_some, Option.pure_def]

theorem copyToData_spec (inside : i < s.itemCapacity) (copied : securecOk n n)
    (fits : (slot b i).data + n ≤ s.dataCapacity) :
    ∃ b', copyToData b (slotAt i) n data = some (.success, b') ∧
      Represents b' { s with data := patch s.data (slot b i).data n data } ∧ ∀ j < s.itemCapacity, slot b' j = slot b j := by
  obtain ⟨b', written, rep', slots⟩ := rep.write_data data fits
  refine ⟨b', ?_, rep', slots⟩
  simp only [copyToData, copied, if_true, rep.read_dataStart, rep.read_slot inside (k := itemFixedLen) (by decide),
    Option.bind_eq_bind, Option.bind_some, Option.pure_def]
  simp only [slot] at written
  rw [written]
  rfl

end

end

theorem congr_data (rep : Represents b s) {data : Mem} (same : ∀ x < s.dataCapacity, s.data x = data x) :
    Represents b { s with data := data } :=
  ⟨rep.itemsStart, rep.dataStart, rep.itemCapacity, rep.dataCapacity, rep.itemCount, rep.dataCount, rep.entries,
    fun x below => (rep.data x below).trans (same x below), rep.room, rep.itemsFit, rep.dataFits⟩

theorem sub32_of_le {x y : Nat} (bound : x < 2^32) (le : y ≤ x) : sub32 x y = x - y := by unfold sub32; omega
theorem sub64_of_le {x y : Nat} (bound : x < 2^64) (le : y ≤ x) : sub64 x y = x - y := by unfold sub64; omega

theorem setOffset_spec (rep : Represents b s) {i j : Nat} {e f : Entry} (found : s.entries[i]? = some e)
    (current : s.entries[j]? = some f) {k : Nat} (behind : f.size > 0 → f.data > e.data → k ≤ f.data) :
    ∃ b', setOffset b (slotAt j) (slotAt i) k = some b' ∧
      Represents b' { s with entries := s.entries.set j (f.close e.data k) } := by
  have inside := rep.index_lt current
  simp only [setOffset, rep.read_dataType current, rep.read_count current, rep.read_offset current,
    rep.read_offset found, Option.bind_eq_bind, Option.bind_some, Option.pure_def]
  by_cases moves : f.size > 0 ∧ f.data > e.data
  · have bound : f.data < 2^32 := by rw [← rep.entries current]; exact field_lt b _
    obtain ⟨b', written, is, rep'⟩ := rep.write_slot (a := slotAt j + itemFixedLen) (n := 4)
      (digits (sub32 f.data k)) inside (by omega) (by unfold itemLen itemFixedLen; omega)
    refine ⟨b', ?_, ?_⟩
    · rw [if_pos (by exact moves), Block.write32, written]
    · have lowered : slot b' j = f.close e.data k := by
        rw [is, slot_write_offset, rep.entries current, sub32_of_le bound (behind moves.1 moves.2),
          Nat.mod_eq_of_lt (by omega), Entry.close, if_pos moves]
      rwa [lowered] at rep'
  · refine ⟨b, if_neg (by exact moves), ?_⟩
    have kept : f.close e.data k = f := if_neg moves
    have inList := (List.getElem?_eq_some_iff.mp current).1
    rw [kept, ← (List.getElem?_eq_some_iff.mp current).2, List.set_getElem_self]
    exact rep

theorem setOffsets_spec (rep : Represents b s) {i j k remaining : Nat} {e : Entry} (found : s.entries[i]? = some e)
    (rest : j + remaining = s.entries.length)
    (behind : ∀ f ∈ s.entries.drop j, f.size > 0 → f.data > e.data → k ≤ f.data) :
    ∃ b', setOffsets b (slotAt i) k j remaining = some b' ∧
      Represents b' { s with entries := s.entries.take j ++ (s.entries.drop j).map (Entry.close e.data k) } := by
  induction remaining generalizing b s j with
  | zero =>
    refine ⟨b, rfl, ?_⟩
    rw [take_of_length_le (by omega), drop_of_length_le (by omega)]
    simpa using rep
  | succ remaining ih =>
    have inside : j < s.entries.length := by omega
    have current := getElem?_eq_getElem inside
    have first : s.entries.drop j = s.entries[j] :: s.entries.drop (j+1) := drop_eq_getElem_cons inside
    obtain ⟨b1, step, rep1⟩ := rep.setOffset_spec found current (k := k)
      (behind _ (by rw [first]; exact mem_cons_self))
    have found1 : (s.entries.set j ((s.entries[j]).close e.data k))[i]? = some e := by
      by_cases same : j = i
      · subst same
        have is : s.entries[j] = e := some.inj (current.symm.trans found)
        rw [getElem?_set_self inside, is, Entry.close_self]
      · rw [getElem?_set_ne same, found]
    have rest1 : (s.entries.set j ((s.entries[j]).close e.data k)).drop (j+1) = s.entries.drop (j+1) :=
      drop_set_of_lt (by omega)
    obtain ⟨b', loop, rep'⟩ := ih rep1 (j := j+1) found1 (by rw [length_set]; omega) (by
      intro f member
      rw [rest1] at member
      exact behind f (by rw [first]; exact mem_cons_of_mem _ member))
    refine ⟨b', ?_, ?_⟩
    · simp only [setOffsets, rep.read_items, bind_eq_bind, bind_some, step, loop]
    · simp only [rest1] at rep'
      rw [first, map_cons]
      have taken : (s.entries.set j ((s.entries[j]).close e.data k)).take (j+1) =
          s.entries.take j ++ [(s.entries[j]).close e.data k] := by
        rw [take_succ_eq_append_getElem (by rw [length_set]; exact inside), getElem_set_self,
          take_set_of_le (Nat.le_refl _)]
      rw [taken, append_assoc] at rep'
      exact rep'

section
variable {i : Nat} {e : Entry} (rep : Represents b s) (tiled : s.Tiled) (found : s.entries[i]? = some e)
  (gap : 0 < e.size)
include rep tiled found gap

theorem tail_eq : sub64 (sub32 s.dataCount e.data) e.size = s.tail e := by
  have bound : s.dataCount < 2^32 := by rw [← rep.dataCount]; exact field_lt b dataCountAt
  have fits := tiled.bounded (mem_of_getElem? found) gap
  rw [sub32_of_le bound (by omega), sub64_of_le (by omega) (by omega)]
  rfl

omit rep in
theorem offsets_behind : ∀ f ∈ s.entries, f.size > 0 → f.data > e.data → e.size ≤ f.data := by
  intro f member outside behind
  obtain ⟨j, atJ⟩ := mem_iff_getElem?.mp member
  have other : i ≠ j := by
    rintro rfl
    rw [found] at atJ
    cases atJ
    omega
  have apart : e.size = 0 ∨ f.size = 0 ∨ e.data + e.size ≤ f.data ∨ f.data + f.size ≤ e.data := tiled.apart other found atJ
  omega

theorem moveDown_data (movable : s.tail e ≤ securecMemMaxLen) :
    ∃ b', moveDown b (dataAt s.itemCapacity + e.data) (dataAt s.itemCapacity + e.data + e.size) (s.tail e) =
        some (.success, b') ∧ Represents b' { s with data := (s.release e.data e.size).data } := by
  have fits := tiled.bounded (mem_of_getElem? found) gap
  have tailIs : s.tail e = s.dataCount - e.data - e.size := rfl
  have dataFits := rep.dataFits
  have room := rep.room
  by_cases none : s.tail e = 0
  · refine ⟨b, by simp [moveDown, none], rep.congr_data ?_⟩
    intro x _
    simp only [release]
    rw [← tailIs, none, patch_zero]
  · obtain ⟨b', written, rep', _⟩ := rep.write_data
      (offset b.byte (dataAt s.itemCapacity + e.data + e.size)) (o := e.data) (n := s.tail e) (by omega)
    have copied : securecOk (s.tail e) (s.tail e) := by simp [securecOk, movable]; omega
    refine ⟨b', ?_, rep'.congr_data ?_⟩
    · rw [moveDown, if_neg none, if_pos copied, Block.move, if_pos (by omega), written]
      rfl
    · intro x below
      simp only [release]
      rw [← tailIs]
      by_cases inside : e.data ≤ x ∧ x < e.data + s.tail e
      · rw [patch_inside inside.1 inside.2, patch_inside inside.1 inside.2, offset, offset, ← rep.data _ (by omega)]
        congr 1
        omega
      · rw [patch_outside (by omega), patch_outside (by omega)]

theorem metadataExpandItemMem_spec (movable : s.tail e ≤ securecMemMaxLen) :
    ∃ b', metadataExpandItemMem b (slotAt i) e.size = some (.success, b') ∧ Represents b' (s.release e.data e.size) := by
  have fits := tiled.bounded (mem_of_getElem? found) gap
  have dataFits := rep.dataFits
  have bound : s.dataCount < 2^32 := by rw [← rep.dataCount]; exact field_lt b dataCountAt
  obtain ⟨b1, move, rep1⟩ := rep.moveDown_data tiled found gap movable
  have count1 : b1.read32 dataCountAt = some s.dataCount := rep1.read_dataCount
  obtain ⟨b2, counted, rep2, _⟩ := rep1.write_dataCount (v := s.dataCount - e.size) (by simp only; omega)
  have items2 : b2.read32 itemCountAt = some s.entries.length := rep2.read_itemCount
  obtain ⟨b3, loop, rep3⟩ := rep2.setOffsets_spec (i := i) (k := e.size) found (Nat.zero_add s.entries.length)
    (fun f member => offsets_behind tiled found gap f (by simpa using member))
  refine ⟨b3, ?_, by simpa [release] using rep3⟩
  simp only [metadataExpandItemMem, rep.read_dataStart, rep.read_offset found, rep.read_dataCount,
    rep.tail_eq tiled found gap, move, onSuccess, Option.bind_eq_bind, Option.bind_some, Option.pure_def, if_true,
    count1, sub32_of_le bound (show e.size ≤ s.dataCount by omega), counted, items2, loop]

theorem metadataExpandItemMem_fails (tooLong : securecMemMaxLen < s.tail e) :
    metadataExpandItemMem b (slotAt i) e.size = some (.failure, b) := by
  have refused : ¬ securecOk (s.tail e) (s.tail e) := by simp [securecOk]; omega
  simp only [metadataExpandItemMem, rep.read_dataStart, rep.read_offset found, rep.read_dataCount,
    rep.tail_eq tiled found gap, onSuccess, moveDown, if_neg refused, bind_eq_bind, bind_some,
    if_neg (show ¬ s.tail e = 0 by omega), reduceCtorEq, if_false]

end

theorem itemDataSize_count {dataType size dataCount : Nat} (known : ohosCameraMetadataTypeSize dataType = some size)
    (small : dataCount * size % 2^64 < 2^31) : calculateCameraMetadataItemDataSize dataType (dataCount % 2^32) =
      calculateCameraMetadataItemDataSize dataType dataCount := by
  have same := payload_count known small
  simp only [calculateCameraMetadataItemDataSize, known, same, Nat.mod_mod]

theorem itemType_lt {item dataType : Nat} (type : getCameraMetadataItemType item = some dataType) :
    item < 2^32 ∧ dataType < 2^32 := by
  unfold getCameraMetadataItemType getMetadataSection at type
  constructor
  · by_contra large
    have beyond : item >>> 16 ≥ ohosAbilitySectionEnd := by
      rw [Nat.shiftRight_eq_div_pow, ohosAbilitySectionEnd]; omega
    rw [if_pos beyond] at type
    cases type
  · split at type
    · cases type
    · split at type
      · cases type
      · obtain ⟨kind, _, rfl⟩ := map_eq_some_iff.mp type
        cases kind <;> decide

theorem payload_fits {dataType size dataCount : Nat} (known : ohosCameraMetadataTypeSize dataType = some size)
    (small : dataCount * size % 2^64 < 2^31) :
    (calculateCameraMetadataItemDataSize dataType dataCount = 0 → dataCount * size % 2^64 ≤ 4) ∧
    (calculateCameraMetadataItemDataSize dataType dataCount ≠ 0 →
      dataCount * size % 2^64 ≤ calculateCameraMetadataItemDataSize dataType dataCount) := by
  rw [← itemDataSize_count known small, ← payload_count known small] at *
  rw [itemDataSize_eq known small]
  split
  · exact ⟨fun _ => by assumption, fun away => absurd rfl away⟩
  · exact ⟨fun empty => by omega, fun _ => by omega⟩

section
variable {item dataType size dataCount : Nat} {data : Mem} (rep : Represents b s)
  (free : s.entries.length < s.itemCapacity) (type : getCameraMetadataItemType item = some dataType)
  (known : ohosCameraMetadataTypeSize dataType = some size)
include rep free type known

section
variable (room : calculateCameraMetadataItemDataSize dataType dataCount + s.dataCount ≤ s.dataCapacity)
include room

theorem add_start (some_ : dataCount ≠ 0) {b1 : Block}
    (written : writeEntry b (slotAt s.entries.length) item dataType dataCount = some b1) :
    addCameraMetadataItem b item (some data) dataCount = if calculateCameraMetadataItemDataSize dataType dataCount = 0 then
        onSuccess (copyToValue b1 (slotAt s.entries.length) (dataCount * size % 2^64) data) fun dst =>
          (incItemCount dst).bind fun dst => some (.success, dst) else (placeAtEnd b1 (slotAt s.entries.length)).bind fun dst =>
        onSuccess (copyToData dst (slotAt s.entries.length) (dataCount * size % 2^64) data) fun dst =>
          (addDataCount dst (calculateCameraMetadataItemDataSize dataType dataCount)).bind fun dst =>
            (incItemCount dst).bind fun dst => some (.success, dst) := by
  simp [addCameraMetadataItem, some_, rep.read_itemCount, rep.read_itemCapacity, rep.read_dataCount,
    rep.read_dataCapacity, rep.read_items, type, known, written, show s.entries.length ≠ s.itemCapacity by omega,
    show ¬ s.dataCapacity < calculateCameraMetadataItemDataSize dataType dataCount + s.dataCount by omega]

theorem add_copied (some_ : dataCount ≠ 0) (copied : securecOk (dataCount * size % 2^64) (dataCount * size % 2^64)) :
    ∃ b', addCameraMetadataItem b item (some data) dataCount = some (.success, b') ∧
      Represents b' (s.add item dataType (dataCount % 2^32) (dataCount * size % 2^64) data) := by
  have small : dataCount * size % 2^64 < 2^31 := by
    have := (securecOk_iff.mp copied).2
    unfold securecMemMaxLen at this
    omega
  have fits := payload_fits known small
  obtain ⟨itemLt, typeLt⟩ := itemType_lt type
  obtain ⟨b1, write1, rep1, slot1⟩ := rep.writeEntry_next free item dataType dataCount
  rw [Nat.mod_eq_of_lt itemLt, Nat.mod_eq_of_lt typeLt] at slot1
  rw [rep.add_start free type known room some_ write1]
  unfold add
  simp only [itemDataSize_count known small]
  by_cases inline_ : calculateCameraMetadataItemDataSize dataType dataCount = 0
  · obtain ⟨b2, copy2, slot2, rep2⟩ := rep1.copyToValue_spec data free copied (fits.1 inline_)
    simp only [set_eq_of_length_le (Nat.le_refl _)] at rep2
    rw [slot1, digits_zero] at slot2
    obtain ⟨b3, count3, rep3⟩ := rep2.incItemCount_next free slot2
    refine ⟨b3, ?_, ?_⟩
    · simp only [inline_, if_true, copy2, onSuccess, bind_some, count3]
    · simp only [inline_, if_true]
      exact rep3
  · obtain ⟨b2, place2, slot2, rep2⟩ := rep1.placeAtEnd_spec free
    simp only [set_eq_of_length_le (Nat.le_refl _)] at rep2
    rw [slot1] at slot2
    have offset2 : (slot b2 s.entries.length).data = s.dataCount := by rw [slot2]
    have below := fits.2 inline_
    obtain ⟨b3, copy3, rep3, slots3⟩ := rep2.copyToData_spec data free copied
      (show (slot b2 s.entries.length).data + _ ≤ s.dataCapacity by rw [offset2]; omega)
    obtain ⟨b4, count4, rep4, slots4⟩ := rep3.addDataCount_spec
      (k := calculateCameraMetadataItemDataSize dataType dataCount) (by simp only; omega)
    obtain ⟨b5, count5, rep5⟩ := rep4.incItemCount_next free
      (by rw [slots4, slots3 _ free, slot2])
    refine ⟨b5, ?_, ?_⟩
    · simp only [inline_, if_false, place2, copy3, onSuccess, bind_some, if_true, count4, count5]
    · simp only [inline_, if_false]
      rw [offset2] at rep5
      exact rep5

/-- A payload that cannot be copied: the entry was written and is not counted. -/
theorem add_refused (some_ : dataCount ≠ 0) (refused : ¬ securecOk (dataCount * size % 2^64) (dataCount * size % 2^64)) :
    ∃ b', addCameraMetadataItem b item (some data) dataCount = some (.failure, b') ∧ Represents b' s := by
  obtain ⟨b1, write1, rep1, _⟩ := rep.writeEntry_next free item dataType dataCount
  obtain ⟨b2, place2, _, rep2⟩ := rep1.placeAtEnd_spec free
  simp only [set_eq_of_length_le (Nat.le_refl _)] at rep2
  rw [rep.add_start free type known room some_ write1]
  by_cases inline_ : calculateCameraMetadataItemDataSize dataType dataCount = 0
  · exact ⟨b1, by simp only [inline_, if_true, copyToValue, refused, onSuccess]; rfl, rep1⟩
  · exact ⟨b2, by simp only [inline_, if_false, place2, copyToData, refused, onSuccess, bind_some]; rfl, rep2⟩

end

end

theorem addCameraMetadataItem_spec (rep : Represents b s) (item : Nat) (data : Option Mem) (dataCount : Nat) :
    ∃ b', addCameraMetadataItem b item data dataCount = some ((s.addItem item data dataCount).1, b') ∧
      Represents b' (s.addItem item data dataCount).2 := by
  by_cases none : dataCount = 0
  · refine ⟨b, ?_, ?_⟩
    · cases data <;> cases type : getCameraMetadataItemType item <;>
        simp [addCameraMetadataItem, addItem, none, type]
    · cases data <;> cases type : getCameraMetadataItemType item <;> simpa [addItem, none, type] using rep
  cases data with
  | none => exact ⟨b, by simp [addCameraMetadataItem, addItem, none], by simpa [addItem] using rep⟩
  | some data =>
    by_cases full : s.entries.length = s.itemCapacity
    · refine ⟨b, ?_, ?_⟩
      · cases type : getCameraMetadataItemType item <;>
          simp [addCameraMetadataItem, addItem, none, rep.read_itemCount, rep.read_itemCapacity, full, type]
      · cases type : getCameraMetadataItemType item <;> simpa [addItem, none, full, type] using rep
    cases type : getCameraMetadataItemType item with
    | none =>
      refine ⟨b, ?_, by simpa [addItem, none, full, type] using rep⟩
      simp [addCameraMetadataItem, addItem, none, rep.read_itemCount, rep.read_itemCapacity, full, type]
    | some dataType =>
      obtain ⟨size, known⟩ := itemType_known type
      have free : s.entries.length < s.itemCapacity := by have := rep.itemsFit; omega
      by_cases exceeds : calculateCameraMetadataItemDataSize dataType dataCount + s.dataCount > s.dataCapacity
      · refine ⟨b, ?_, by simpa [addItem, none, full, type, exceeds] using rep⟩
        simp [addCameraMetadataItem, addItem, none, rep.read_itemCount, rep.read_itemCapacity,
          rep.read_dataCount, rep.read_dataCapacity, full, type, exceeds]
      · by_cases copied : securecOk (dataCount * size % 2^64) (dataCount * size % 2^64)
        · simp only [addItem, none, full, type, exceeds, known, copied, getD_some, if_false, if_true]
          exact rep.add_copied free type known (by omega) none copied
        · simp only [addItem, none, full, type, exceeds, known, copied, getD_some, if_false]
          exact rep.add_refused free type known (by omega) none copied

theorem write_count (rep : Represents b s) {i : Nat} (inside : i < s.itemCapacity) (v : Nat) :
    ∃ b', b.write32 (slotAt i + 8) v = some b' ∧ slot b' i = { slot b i with count := v % 2^32 } ∧
      Represents b' { s with entries := s.entries.set i (slot b' i) } := by
  obtain ⟨b', written, is, rep'⟩ := rep.write_slot (a := slotAt i + 8) (n := 4) (digits v) inside
    (by omega) (by unfold itemLen; omega)
  exact ⟨b', written, by rw [is, slot_write_count], rep'⟩

section
variable {i size n : Nat} {e : Entry} (data : Mem) (rep : Represents b s) (found : s.entries[i]? = some e)
include rep found

theorem place_spec (fits : s.dataCount + size ≤ s.dataCapacity) (copied : securecOk n n) (below : n ≤ size) :
    ∃ b', ((placeAtEnd b (slotAt i)).bind fun dst => onSuccess (copyToData dst (slotAt i) n data) fun dst =>
        (addDataCount dst size).bind fun dst => some (.success, dst)) = some (.success, b') ∧
      Represents b' { s with
        entries := s.entries.set i { e with data := s.dataCount }
        dataCount := s.dataCount + size
        data := patch s.data s.dataCount n data } := by
  have inside := rep.index_lt found
  obtain ⟨b1, place1, slot1, rep1⟩ := rep.placeAtEnd_spec inside
  rw [rep.entries found] at slot1
  rw [slot1] at rep1
  have offset1 : (slot b1 i).data = s.dataCount := by rw [slot1]
  obtain ⟨b2, copy2, rep2, _⟩ := rep1.copyToData_spec data inside copied
    (show (slot b1 i).data + n ≤ s.dataCapacity by omega)
  obtain ⟨b3, count3, rep3, _⟩ := rep2.addDataCount_spec (k := size) fits
  rw [offset1] at rep3
  refine ⟨b3, ?_, rep3⟩
  simp only [place1, copy2, onSuccess, bind_some, if_true, count3]

theorem value_spec (copied : securecOk n n) (fits : n ≤ 4) {dataCount : Nat} (bound : dataCount < 2^32) :
    ∃ b', (onSuccess (copyToValue b (slotAt i) n data) fun dst => (dst.write32 (slotAt i + 8) dataCount).bind
        fun dst => some (.success, dst)) = some (.success, b') ∧
      Represents b' { s with
        entries := s.entries.set i { e with count := dataCount, data := inlineData (digits e.data) n data } } := by
  have inside := rep.index_lt found
  obtain ⟨b1, copy1, slot1, rep1⟩ := rep.copyToValue_spec data inside copied fits
  obtain ⟨b2, count2, slot2, rep2⟩ := rep1.write_count inside dataCount
  rw [slot1, rep.entries found, Nat.mod_eq_of_lt bound] at slot2
  simp only [slot2, set_set] at rep2
  refine ⟨b2, ?_, rep2⟩
  simp only [copy1, onSuccess, bind_some, if_true, count2]

theorem count_spec {dataCount : Nat} (bound : dataCount < 2^32) :
    ∃ b', b.write32 (slotAt i + 8) dataCount = some b' ∧
      Represents b' { s with entries := s.entries.set i { e with count := dataCount } } := by
  obtain ⟨b', written, slot', rep'⟩ := rep.write_count (rep.index_lt found) dataCount
  rw [rep.entries found, Nat.mod_eq_of_lt bound] at slot'
  rw [slot'] at rep'
  exact ⟨b', written, rep'⟩

end

theorem update_start (rep : Represents b s) {i dataCount typeSize : Nat} {e : Entry} (data : Mem)
    (found : s.entries[i]? = some e) (some_ : dataCount ≠ 0) (known : ohosCameraMetadataTypeSize e.dataType = some typeSize) :
    updateCameraMetadataItemByIndex b i (some data) dataCount = onSuccess
        (if calculateCameraMetadataItemDataSize e.dataType dataCount ≠ e.size then
          resizeItem b (slotAt i) (calculateCameraMetadataItemDataSize e.dataType dataCount) e.size (dataCount * typeSize) data
        else if calculateCameraMetadataItemDataSize e.dataType dataCount ≠ 0 then
          copyToData b (slotAt i) (dataCount * typeSize) data else some (.success, b)) fun dst =>
      onSuccess (if calculateCameraMetadataItemDataSize e.dataType dataCount = 0 then
          copyToValue dst (slotAt i) (dataCount * typeSize) data else some (.success, dst)) fun dst =>
      (dst.write32 (slotAt i + 8) dataCount).bind fun dst => some (.success, dst) := by
  have inside := (List.getElem?_eq_some_iff.mp found).1
  simp only [updateCameraMetadataItemByIndex, rep.read_itemCount, rep.read_items, rep.read_dataType found,
    rep.read_count found, known, Option.bind_eq_bind, Option.bind_some, Option.pure_def,
    if_neg (show ¬ s.entries.length ≤ i by omega), some_, if_false, ge_iff_le]
  rfl

theorem payload_fits_copied {dataType typeSize dataCount : Nat} (known : ohosCameraMetadataTypeSize dataType = some typeSize)
    (copied : securecOk (dataCount * typeSize) (dataCount * typeSize)) :
    (calculateCameraMetadataItemDataSize dataType dataCount = 0 → dataCount * typeSize ≤ 4) ∧
    (calculateCameraMetadataItemDataSize dataType dataCount ≠ 0 →
      dataCount * typeSize ≤ calculateCameraMetadataItemDataSize dataType dataCount) := by
  have small : dataCount * typeSize < 2^31 := by
    have := (securecOk_iff.mp copied).2
    unfold securecMemMaxLen at this
    omega
  have fits := payload_fits known (show dataCount * typeSize % 2^64 < 2^31 by omega)
  rwa [Nat.mod_eq_of_lt (show dataCount * typeSize < 2^64 by omega)] at fits

section
variable {i dataCount typeSize : Nat} {e : Entry} {data : Mem} (rep : Represents b s) (tiled : s.Tiled)
  (found : s.entries[i]? = some e) (known : ohosCameraMetadataTypeSize e.dataType = some typeSize)
include rep tiled found known

theorem update_inPlace (some_ : dataCount ≠ 0) (bound : dataCount < 2^32)
    (same : calculateCameraMetadataItemDataSize e.dataType dataCount = e.size)
    (copied : securecOk (dataCount * typeSize) (dataCount * typeSize)) :
    ∃ b', updateCameraMetadataItemByIndex b i (some data) dataCount = some (.success, b') ∧
      Represents b' (s.update i e dataCount (dataCount * typeSize) data) := by
  have inside := rep.index_lt found
  have fits := payload_fits_copied known copied
  rw [rep.update_start _ found some_ known]
  by_cases inline_ : e.size = 0
  · obtain ⟨b1, run, rep1⟩ := rep.value_spec data found copied (fits.1 (same.trans inline_)) bound
    refine ⟨b1, ?_, ?_⟩
    · simpa [same, inline_, onSuccess] using run
    · simpa [update, same, inline_] using rep1
  · have area := tiled.bounded (mem_of_getElem? found) (by omega)
    have below := fits.2 (by omega)
    have dataFits := rep.dataFits
    obtain ⟨b1, copy1, rep1, _⟩ := rep.copyToData_spec (i := i) data inside copied
      (by rw [rep.entries found]; omega)
    rw [rep.entries found] at rep1
    obtain ⟨b2, count2, rep2⟩ := rep1.count_spec found bound
    refine ⟨b2, ?_, ?_⟩
    · simp [same, inline_, onSuccess, copy1, count2]
    · simpa [update, same, inline_] using rep2

omit known in
theorem released (movable : e.size ≠ 0 → s.tail e ≤ securecMemMaxLen) :
    ∃ b', (if e.size ≠ 0 then metadataExpandItemMem b (slotAt i) e.size else some (.success, b)) = some (.success, b') ∧
      Represents b' (if e.size ≠ 0 then s.release e.data e.size else s) ∧
      (if e.size ≠ 0 then s.release e.data e.size else s).entries[i]? = some e := by
  by_cases outside : e.size ≠ 0
  · obtain ⟨b', run, rep'⟩ := rep.metadataExpandItemMem_spec tiled found (by omega) (movable outside)
    refine ⟨b', by rw [if_pos outside]; exact run, by rw [if_pos outside]; exact rep', ?_⟩
    rw [if_pos outside]
    simp only [release, getElem?_map, found, map_some, Entry.close_self]
  · exact ⟨b, by rw [if_neg outside], by rw [if_neg outside]; exact rep, by rw [if_neg outside]; exact found⟩

omit known in
theorem resize_start {size : Nat} (bound : size < 2^32) (n : Nat) (src : Mem) : resizeItem b (slotAt i) size e.size n src =
      if s.dataCapacity < s.dataCount + size - e.size then some (.dataCapExceed, b) else
      onSuccess (if e.size ≠ 0 then metadataExpandItemMem b (slotAt i) e.size else some (.success, b)) fun dst =>
        if size ≠ 0 then (placeAtEnd dst (slotAt i)).bind fun dst => onSuccess (copyToData dst (slotAt i) n src) fun dst =>
            (addDataCount dst size).bind fun dst => some (.success, dst) else some (.success, dst) := by
  have countLt : s.dataCount < 2^32 := by rw [← rep.dataCount]; exact field_lt b dataCountAt
  have taken : e.size ≤ s.dataCount := by
    by_cases outside : 0 < e.size
    · have := tiled.bounded (mem_of_getElem? found) outside; omega
    · omega
  simp only [resizeItem, rep.read_dataCapacity, rep.read_dataCount, Option.bind_eq_bind, Option.bind_some,
    Option.pure_def, sub64_of_le (show s.dataCount + size < 2^64 by omega) (show e.size ≤ s.dataCount + size by omega)]

theorem update_resized (some_ : dataCount ≠ 0) (bound : dataCount < 2^32)
    (changes : calculateCameraMetadataItemDataSize e.dataType dataCount ≠ e.size)
    (room : s.resized e dataCount ≤ s.dataCapacity) (movable : e.size ≠ 0 → s.tail e ≤ securecMemMaxLen)
    (copied : securecOk (dataCount * typeSize) (dataCount * typeSize)) :
    ∃ b', updateCameraMetadataItemByIndex b i (some data) dataCount = some (.success, b') ∧
      Represents b' (s.update i e dataCount (dataCount * typeSize) data) := by
  have fits := payload_fits_copied known copied
  obtain ⟨b1, release1, rep1, found1⟩ := rep.released tiled found movable
  have capacity1 : (if e.size ≠ 0 then s.release e.data e.size else s).dataCapacity = s.dataCapacity := by
    split <;> rfl
  have count1 : (if e.size ≠ 0 then s.release e.data e.size else s).dataCount +
      calculateCameraMetadataItemDataSize e.dataType dataCount = s.resized e dataCount := by
    unfold resized
    by_cases outside : e.size ≠ 0
    · have area := tiled.bounded (mem_of_getElem? found) (by omega)
      rw [if_pos outside]
      simp only [release]
      omega
    · rw [if_neg outside]
      omega
  rw [rep.update_start _ found some_ known, if_pos changes, rep.resize_start tiled found (itemDataSize_lt _ _) _ _,
    if_neg (by unfold resized at room; omega)]
  simp only [release1, onSuccess, bind_some, if_true]
  unfold update
  simp only [if_neg (show ¬ (calculateCameraMetadataItemDataSize e.dataType dataCount = e.size ∧
    calculateCameraMetadataItemDataSize e.dataType dataCount ≠ 0) from fun both => changes both.1)]
  generalize (if e.size ≠ 0 then s.release e.data e.size else s) = t at *
  by_cases inline_ : calculateCameraMetadataItemDataSize e.dataType dataCount = 0
  · obtain ⟨b2, run2, rep2⟩ := rep1.value_spec data found1 copied (fits.1 inline_) bound
    refine ⟨b2, ?_, ?_⟩
    · simpa [inline_, onSuccess] using run2
    · simpa [inline_] using rep2
  · have below := fits.2 inline_
    obtain ⟨b2, run2, rep2⟩ := rep1.place_spec data found1 (by omega) copied below
    have inside1 := (List.getElem?_eq_some_iff.mp found1).1
    obtain ⟨b3, run3, rep3⟩ := rep2.count_spec (getElem?_set_self inside1) bound
    simp only [set_set] at rep3
    refine ⟨b3, ?_, ?_⟩
    · simp only [onSuccess] at run2
      simp only [ne_eq, inline_, not_false_eq_true, if_true, if_false, run2, bind_some, run3]
    · simp only [inline_, if_false]
      exact rep3

end

section
variable (rep : Represents b s)
include rep

theorem updateCameraMetadataItemByIndex_spec (tiled : s.Tiled) (index : Nat) (data : Option Mem)
    {dataCount : Nat} (bound : dataCount < 2^32) (clean : data.isSome → s.UpdateClean index dataCount) :
    ∃ b', updateCameraMetadataItemByIndex b index data dataCount = some ((s.updateAt index data dataCount).1, b') ∧
      Represents b' (s.updateAt index data dataCount).2 := by
  cases found : s.entries[index]? with
  | none =>
    have outside := getElem?_eq_none_iff.mp found
    refine ⟨b, ?_, by simpa [updateAt, found] using rep⟩
    simp [updateCameraMetadataItemByIndex, updateAt, rep.read_itemCount, outside]
  | some e =>
    have inside := (List.getElem?_eq_some_iff.mp found).1
    by_cases none : dataCount = 0
    · refine ⟨b, ?_, ?_⟩
      · cases data <;> simp [updateCameraMetadataItemByIndex, updateAt, rep.read_itemCount, none, inside]
      · cases data <;> simpa [updateAt, found, none] using rep
    cases data with
    | none =>
      refine ⟨b, ?_, by simpa [updateAt, found] using rep⟩
      simp [updateCameraMetadataItemByIndex, updateAt, rep.read_itemCount, none, inside]
    | some data =>
      obtain ⟨typeSize, known⟩ := itemType_known (tiled.entriesOk e (mem_of_getElem? found)).typed
      have start := rep.update_start data found none known
      have clean := clean rfl e found
      simp only [updateAt, found, known, getD_some, none, if_false] at clean ⊢
      by_cases same : calculateCameraMetadataItemDataSize e.dataType dataCount = e.size
      · simp only [same, ne_eq, not_true_eq_false, false_and, if_false]
        by_cases copied : securecOk (dataCount * typeSize) (dataCount * typeSize)
        · simp only [copied, if_true]
          exact rep.update_inPlace tiled found known none bound same copied
        · refine ⟨b, ?_, by simpa [copied] using rep⟩
          rw [start]
          by_cases inline_ : e.size = 0 <;>
            simp [same, inline_, onSuccess, copyToData, copyToValue, copied]
      · simp only [ne_eq, same, not_false_eq_true, true_and]
        have resize := rep.resize_start tiled found (itemDataSize_lt e.dataType dataCount) (dataCount * typeSize) data
        by_cases exceeds : s.dataCapacity < s.resized e dataCount
        · refine ⟨b, ?_, by simpa [exceeds] using rep⟩
          rw [start, if_pos same, resize, if_pos (by exact exceeds)]
          simp [exceeds, onSuccess]
        simp only [exceeds, if_false]
        by_cases stuck : e.size ≠ 0 ∧ securecMemMaxLen < s.tail e
        · have failed := rep.metadataExpandItemMem_fails tiled found (by omega) stuck.2
          refine ⟨b, ?_, by simpa [stuck] using rep⟩
          rw [start, if_pos same, resize, if_neg (by exact exceeds), if_pos stuck.1, failed]
          simp [stuck, onSuccess]
        · have copied : securecOk (dataCount * typeSize) (dataCount * typeSize) := by
            have positive : 0 < typeSize := by have := typeSize_cases known; omega
            refine securecOk_iff.mpr ⟨Nat.mul_pos (by omega) positive, ?_⟩
            rcases clean with small | sizes | full | late
            · exact small
            · exact absurd sizes same
            · exact absurd full exceeds
            · exact absurd late stuck
          simp only [ne_eq] at stuck
          simp only [stuck, copied, if_false, if_true]
          exact rep.update_resized tiled found known none bound same (by omega)
            (fun outside => by by_contra long; exact stuck ⟨outside, by omega⟩) copied

theorem moveDown_array {i m : Nat} (inside : i + 1 + m = s.entries.length) (movable : itemLen * m ≤ securecMemMaxLen) :
    ∃ b' s', moveDown b (slotAt i) (slotAt i + itemLen) (itemLen * m) = some (.success, b') ∧ Represents b' s' ∧
      s'.itemCapacity = s.itemCapacity ∧ s'.dataCapacity = s.dataCapacity ∧ s'.dataCount = s.dataCount ∧
      s'.data = s.data ∧ s'.entries.length = s.entries.length ∧
      ∀ j, (j < i → slot b' j = slot b j) ∧ (i ≤ j → j < i + m → slot b' j = slot b (j+1)) := by
  have room := rep.room
  have fits := rep.itemsFit
  by_cases none : m = 0
  · subst none
    exact ⟨b, s, by simp [moveDown], rep, rfl, rfl, rfl, rfl, rfl, fun j => ⟨fun _ => rfl, fun _ _ => by omega⟩⟩
  · have copied : securecOk (itemLen * m) (itemLen * m) :=
      securecOk_iff.mpr ⟨Nat.mul_pos (by decide) (by omega), movable⟩
    have last : slotAt i + itemLen + itemLen * m ≤ dataAt s.itemCapacity := by
      unfold slotAt dataAt itemLen; omega
    obtain ⟨b', written, is, rep'⟩ := rep.write_array (offset b.byte (slotAt i + itemLen)) (a := slotAt i)
      (n := itemLen * m) (by unfold slotAt; omega) (by omega)
    refine ⟨b', _, ?_, rep', rfl, rfl, rfl, rfl, by simp, ?_⟩
    · rw [moveDown, if_neg (Nat.mul_ne_zero (by decide) none), if_pos copied, Block.move, if_pos (by omega), written]
      rfl
    · intro j
      refine ⟨fun before => ?_, fun low high => ?_⟩
      · rw [is, slot_patch (.inl (by unfold slotAt itemLen; omega))]
      · rw [is]
        exact slot_copied (by unfold slotAt itemLen; omega) (by unfold slotAt itemLen; omega) (by unfold slotAt itemLen; omega)

theorem eraseItem_spec {i : Nat} (inside : i < s.entries.length)
    (movable : itemLen * (s.entries.length - i - 1) ≤ securecMemMaxLen) :
    ∃ b', eraseItem b (slotAt i) i = some (.success, b') ∧ Represents b' { s with entries := s.entries.eraseIdx i } := by
  have bound : s.entries.length < 2^32 := by rw [← rep.itemCount]; exact field_lt b itemCountAt
  have fits := rep.itemsFit
  obtain ⟨b1, s1, move1, rep1, itemCap, dataCap, count, data, length, slots⟩ := rep.moveDown_array (i := i)
    (m := s.entries.length - i - 1) (by omega) movable
  have shorter : (s.entries.eraseIdx i).length = s.entries.length - 1 := List.length_eraseIdx_of_lt inside
  obtain ⟨b2, count2, rep2⟩ := rep1.write_itemCount (l := s.entries.eraseIdx i) (by omega) (by
    intro j e found
    have counted := (List.getElem?_eq_some_iff.mp found).1
    rw [getElem?_eraseIdx] at found
    split at found
    · rw [(slots j).1 (by assumption), rep.entries found]
    · rw [(slots j).2 (by omega) (by omega), rep.entries found])
  rw [shorter] at count2
  have read1 : b1.read32 itemCountAt = some s.entries.length := by rw [rep1.read_itemCount, length]
  refine ⟨b2, ?_, ?_⟩
  · simp only [eraseItem, rep.read_itemCount, sub32_of_le bound (show i ≤ s.entries.length by omega),
      sub32_of_le (show s.entries.length - i < 2^32 by omega) (show 1 ≤ s.entries.length - i by omega), move1, onSuccess,
      Option.bind_eq_bind, Option.bind_some, Option.pure_def, if_true, read1,
      sub32_of_le bound (show 1 ≤ s.entries.length by omega), count2]
  · cases s1
    simp only at itemCap dataCap count data
    subst itemCap dataCap count data
    exact rep2

theorem eraseItem_fails {i : Nat} (inside : i < s.entries.length)
    (tooLong : securecMemMaxLen < itemLen * (s.entries.length - i - 1)) : eraseItem b (slotAt i) i = some (.failure, b) := by
  have bound : s.entries.length < 2^32 := by rw [← rep.itemCount]; exact field_lt b itemCountAt
  have refused : ¬ securecOk (itemLen * (s.entries.length - i - 1)) (itemLen * (s.entries.length - i - 1)) := by
    rw [securecOk_iff]; omega
  simp only [eraseItem, rep.read_itemCount, sub32_of_le bound (show i ≤ s.entries.length by omega),
    sub32_of_le (show s.entries.length - i < 2^32 by omega) (show 1 ≤ s.entries.length - i by omega), moveDown,
    if_neg (show ¬ itemLen * (s.entries.length - i - 1) = 0 by omega), if_neg refused, onSuccess,
    bind_eq_bind, bind_some, reduceCtorEq, if_false]

theorem deleteCameraMetadataItemByIndex_spec (tiled : s.Tiled) {index : Nat} (clean : s.DeleteClean index) :
    ∃ b', deleteCameraMetadataItemByIndex b index = some ((s.deleteAt index).1, b') ∧ Represents b' (s.deleteAt index).2 := by
  cases found : s.entries[index]? with
  | none =>
    have outside := getElem?_eq_none_iff.mp found
    refine ⟨b, ?_, by simpa [deleteAt, found] using rep⟩
    simp [deleteCameraMetadataItemByIndex, deleteAt, rep.read_itemCount, outside]
  | some e =>
    have inside := (List.getElem?_eq_some_iff.mp found).1
    have start : deleteCameraMetadataItemByIndex b index =
        onSuccess (if e.size > 0 then metadataExpandItemMem b (slotAt index) e.size else some (.success, b))
          fun dst => eraseItem dst (slotAt index) index := by
      simp only [deleteCameraMetadataItemByIndex, rep.read_itemCount, rep.read_items, rep.read_dataType found,
        rep.read_count found, Option.bind_eq_bind, Option.bind_some, Option.pure_def, ge_iff_le,
        if_neg (show ¬ s.entries.length ≤ index by omega)]
      rfl
    have clean := clean e found
    rw [start]
    simp only [deleteAt, found]
    by_cases stuck : e.size ≠ 0 ∧ securecMemMaxLen < s.tail e
    · have failed := rep.metadataExpandItemMem_fails tiled found (by omega) stuck.2
      refine ⟨b, ?_, by simpa [stuck] using rep⟩
      rw [if_pos (by omega), failed]
      simp [stuck, onSuccess]
    rw [if_neg stuck]
    by_cases outside : e.size ≠ 0
    · have movable : itemLen * (s.entries.length - index - 1) ≤ securecMemMaxLen := by omega
      obtain ⟨b1, release1, rep1⟩ := rep.metadataExpandItemMem_spec tiled found (by omega) (by omega)
      have length1 : (s.release e.data e.size).entries.length = s.entries.length := by simp [release]
      obtain ⟨b2, erase2, rep2⟩ := rep1.eraseItem_spec (i := index) (by omega) (by rw [length1]; exact movable)
      refine ⟨b2, ?_, ?_⟩
      · rw [if_pos (by omega), release1, if_neg (by omega)]
        simpa [onSuccess] using erase2
      · rw [if_neg (by omega)]
        simpa [delete, show 0 < e.size by omega] using rep2
    · by_cases long : securecMemMaxLen < itemLen * (s.entries.length - index - 1)
      · refine ⟨b, ?_, by simpa [long] using rep⟩
        rw [if_neg (by omega), if_pos long]
        simpa [onSuccess] using rep.eraseItem_fails inside long
      · obtain ⟨b1, erase1, rep1⟩ := rep.eraseItem_spec inside (by omega)
        refine ⟨b1, ?_, ?_⟩
        · rw [if_neg (by omega), if_neg long]
          simpa [onSuccess] using erase1
        · rw [if_neg long]
          simpa [delete, show ¬ 0 < e.size by omega] using rep1

end

end Represents
end Peripheral.Metadata
