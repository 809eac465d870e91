import Peripheral.MetadataOps
import Peripheral.Tiling

/-!
What a metadata buffer holds, apart from where it holds it: its entries in
order, the data area and how much of it is used. The data of the entries that do
not fit into the entry itself tile the used part of the data area. Each operation
of the buffer has its counterpart here, which keeps the tiling and does to the
list of items what it is for.
-/
namespace Peripheral.Metadata
open Peripheral.Bytes Peripheral.Tiling List
open Option (getD_some map_some some.injEq)

theorem and_low_zero (x : Nat) : x &&& (2^32 - 1 - 7) = x / 8 % 2^29 * 8 := by
  have mask : 2^32 - 1 - 7 = (2^29 - 1) <<< 3 := by decide
  have scaled : x / 8 % 2^29 * 8 = (x >>> 3 % 2^29) <<< 3 := by
    rw [Nat.shiftRight_eq_div_pow, Nat.shiftLeft_eq]
  rw [mask, scaled]
  apply Nat.eq_of_testBit_eq
  intro i
  simp only [Nat.testBit_and, Nat.testBit_shiftLeft, Nat.testBit_two_pow_sub_one, Nat.testBit_mod_two_pow,
    Nat.testBit_shiftRight]
  by_cases low : 3 ≤ i
  · rw [show 3 + (i - 3) = i by omega]
    cases x.testBit i <;> simp [low]
  · simp [low]

theorem alignTo_eight (v : Nat) : alignTo v 8 = (v % 2^32 + 7) / 8 * 8 % 2^32 := by
  have bound : v % 2^32 < 2^32 := Nat.mod_lt _ (by decide)
  simp only [alignTo]
  rw [show (8 : Nat) - 1 = 7 from rfl, and_low_zero]
  omega

theorem alignTo_eight_small {v : Nat} (small : v + 7 < 2^32) : alignTo v 8 = (v + 7) / 8 * 8 := by
  rw [alignTo_eight, Nat.mod_eq_of_lt (show v < 2^32 by omega)]
  omega

theorem alignTo_eight_dvd (v : Nat) : 8 ∣ alignTo v 8 := by
  rw [alignTo_eight]; omega

theorem alignTo_eight_lt (v : Nat) : alignTo v 8 < 2^32 := by
  rw [alignTo_eight]; exact Nat.mod_lt _ (by decide)

theorem typeSize_cases {t size : Nat} (known : ohosCameraMetadataTypeSize t = some size) : size = 1 ∨ size = 4 ∨ size = 8 := by
  have inside := (List.getElem?_eq_some_iff.mp known).1
  simp only [List.length_cons, List.length_nil] at inside
  interval_cases t <;> simp [ohosCameraMetadataTypeSize] at known <;> omega

theorem itemType_known {item t : Nat} (typed : getCameraMetadataItemType item = some t) :
    ∃ size, ohosCameraMetadataTypeSize t = some size := by
  unfold getCameraMetadataItemType at typed
  split at typed
  · cases typed
  · split at typed
    · cases typed
    · obtain ⟨type, _, rfl⟩ := Option.map_eq_some_iff.mp typed
      cases type <;> exact ⟨_, rfl⟩

theorem itemDataSize_eq {t size count : Nat} (known : ohosCameraMetadataTypeSize t = some size) (small : count * size < 2^31) :
    calculateCameraMetadataItemDataSize t count = if count * size ≤ 4 then 0 else (count * size + 7) / 8 * 8 := by
  simp only [calculateCameraMetadataItemDataSize, known, dataAlignment]
  rw [Nat.mod_eq_of_lt (show count * size < 2^64 by omega), alignTo_eight_small (by omega)]

theorem itemDataSize_dvd (t count : Nat) : 8 ∣ calculateCameraMetadataItemDataSize t count := by
  unfold calculateCameraMetadataItemDataSize
  split
  · exact dvd_zero 8
  · simp only
    split
    · exact dvd_zero 8
    · exact alignTo_eight_dvd _

theorem itemDataSize_lt (t count : Nat) : calculateCameraMetadataItemDataSize t count < 2^32 := by
  unfold calculateCameraMetadataItemDataSize
  split
  · decide
  · simp only
    split
    · decide
    · exact alignTo_eight_lt _

/-! ### Entries, stores and items -/

/-- `camera_metadata_item_entry_t`; `data` is its union read as a number. -/
@[ext] structure Entry where
  item : Nat
  dataType : Nat
  count : Nat
  data : Nat
  deriving DecidableEq

namespace Entry

def size (e : Entry) : Nat := calculateCameraMetadataItemDataSize e.dataType e.count
def interval (e : Entry) : Interval := ⟨e.data, e.size⟩
def payloadLength (e : Entry) : Nat := e.count * (ohosCameraMetadataTypeSize e.dataType).getD 0
/-- Its offset is lowered when it lies behind the data that is taken away. -/
def close (o k : Nat) (e : Entry) : Entry :=
  if e.size > 0 ∧ e.data > o then { e with data := e.data - k } else e

structure Ok (e : Entry) : Prop where
  typed : getCameraMetadataItemType e.item = some e.dataType
  counted : 0 < e.count
  small : e.payloadLength < 2^31

theorem Ok.size_eq {e : Entry} (ok : e.Ok) : e.size = if e.payloadLength ≤ 4 then 0 else (e.payloadLength + 7) / 8 * 8 := by
  obtain ⟨size, known⟩ := itemType_known ok.typed
  have small := ok.small
  simp only [payloadLength, known, getD_some] at small ⊢
  exact itemDataSize_eq known small

theorem Ok.payload_le {e : Entry} (ok : e.Ok) (outside : 0 < e.size) : e.payloadLength ≤ e.size := by
  rw [ok.size_eq] at outside ⊢
  split at outside
  · omega
  · rw [if_neg (by assumption)]; omega

theorem Ok.payload_inline {e : Entry} (ok : e.Ok) (inside : e.size = 0) : e.payloadLength ≤ 4 := by
  rw [ok.size_eq] at inside
  split at inside
  · assumption
  · omega

theorem close_item (o k : Nat) (e : Entry) : (e.close o k).item = e.item := by unfold close; split <;> rfl
theorem close_dataType (o k : Nat) (e : Entry) : (e.close o k).dataType = e.dataType := by
  unfold close; split <;> rfl
theorem close_count (o k : Nat) (e : Entry) : (e.close o k).count = e.count := by unfold close; split <;> rfl
theorem close_size (o k : Nat) (e : Entry) : (e.close o k).size = e.size := by
  simp only [size, close_dataType, close_count]
theorem close_payloadLength (o k : Nat) (e : Entry) : (e.close o k).payloadLength = e.payloadLength := by
  simp only [payloadLength, close_dataType, close_count]

theorem close_interval (o k : Nat) (e : Entry) : (e.close o k).interval = Tiling.close o k e.interval := by
  unfold interval Tiling.close
  rw [close_size]
  by_cases behind : 0 < e.size ∧ o < e.data
  · have moved : e.close o k = { e with data := e.data - k } := if_pos behind
    simp [behind, moved]
  · have kept : e.close o k = e := if_neg behind
    simp [behind, kept]

theorem close_self (k : Nat) (e : Entry) : e.close e.data k = e := if_neg (by omega)

theorem Ok.close {e : Entry} (ok : e.Ok) (o k : Nat) : (e.close o k).Ok :=
  ⟨by rw [close_item, close_dataType]; exact ok.typed, by rw [close_count]; exact ok.counted,
    by rw [close_payloadLength]; exact ok.small⟩

end Entry

structure Store where
  itemCapacity : Nat
  dataCapacity : Nat
  entries : List Entry
  dataCount : Nat
  data : Mem

/-- An item as a reader sees it. -/
structure Item where
  item : Nat
  dataType : Nat
  count : Nat
  payload : List UInt8
  deriving DecidableEq

namespace Store

def payload (s : Store) (e : Entry) : List UInt8 :=
  bytes (if e.size = 0 then digits e.data else offset s.data e.data) e.payloadLength

def itemOf (s : Store) (e : Entry) : Item := ⟨e.item, e.dataType, e.count, s.payload e⟩

def items (s : Store) : List Item := s.entries.map s.itemOf

/-- The data area invariant. -/
structure Tiled (s : Store) : Prop where
  entriesOk : ∀ e ∈ s.entries, e.Ok
  tiles : Tiles 8 (s.entries.map Entry.interval) s.dataCount

variable {s : Store}

theorem Tiled.bounded (tiled : s.Tiled) {e : Entry} (member : e ∈ s.entries) (outside : 0 < e.size) :
    e.data + e.size ≤ s.dataCount :=
  tiled.tiles.bounded e.interval (mem_map_of_mem member) outside

theorem Tiled.apart (tiled : s.Tiled) {i j : Nat} {e f : Entry} (ne : i ≠ j) (atI : s.entries[i]? = some e)
    (atJ : s.entries[j]? = some f) : Apart e.interval f.interval :=
  tiled.tiles.apart ne (by rw [getElem?_map, atI]; rfl) (by rw [getElem?_map, atJ]; rfl)

variable {t : Store}

theorem payload_congr (tiled : s.Tiled) (same : ∀ x < s.dataCount, t.data x = s.data x) {e : Entry}
    (member : e ∈ s.entries) : t.payload e = s.payload e := by
  unfold payload
  apply bytes_congr
  intro i inside
  by_cases inline_ : e.size = 0
  · simp [inline_]
  · have fits := tiled.bounded member (by omega)
    have within := (tiled.entriesOk e member).payload_le (by omega)
    simp only [inline_, if_false, offset]
    exact same _ (by omega)

theorem payload_patch {a n : Nat} {src : Mem} (written : t.data = patch s.data a n src) {e : Entry}
    (ok : e.Ok) (apart : e.size = 0 ∨ e.data + e.size ≤ a ∨ a + n ≤ e.data) : t.payload e = s.payload e := by
  unfold payload
  apply bytes_congr
  intro i inside
  by_cases inline_ : e.size = 0
  · simp [inline_]
  · have within := ok.payload_le (by omega)
    simp only [inline_, if_false, offset, written]
    exact patch_outside (by omega)

/-- The value of an entry that was zero and got `n` bytes. -/
def inlineData (old : Mem) (n : Nat) (data : Mem) : Nat := load (patch old 0 n data) 0 4

theorem bytes_inlineData (old data : Mem) {n : Nat} (fits : n ≤ 4) :
    bytes (digits (inlineData old n data)) n = bytes data n := by
  apply bytes_congr
  intro i inside
  rw [inlineData, digits_load _ _ (show i < 4 by omega), patch_inside (by omega) (by omega)]
  congr 1
  omega

/-- A new entry with `n` bytes of payload. -/
def add (s : Store) (item dataType count n : Nat) (data : Mem) : Store :=
  let size := calculateCameraMetadataItemDataSize dataType count
  if size = 0 then
    { s with entries := s.entries ++ [⟨item, dataType, count, inlineData (fun _ => 0) n data⟩] }
  else
    { s with
      entries := s.entries ++ [⟨item, dataType, count, s.dataCount⟩]
      dataCount := s.dataCount + size
      data := patch s.data s.dataCount n data }

section
variable {item dataType count n : Nat} {data : Mem}

theorem add_tiled (tiled : s.Tiled) (ok : ∀ d, (Entry.mk item dataType count d).Ok) :
    (s.add item dataType count n data).Tiled := by
  unfold add
  simp only
  split
  · rename_i inline_
    refine ⟨?_, ?_⟩
    · intro e member
      rcases mem_append.mp member with before | last
      · exact tiled.entriesOk e before
      · rw [mem_singleton.mp last]; exact ok _
    · have grown := tiled.tiles.snoc_empty (inlineData (fun _ => 0) n data)
      simpa [Entry.interval, Entry.size, inline_] using grown
  · refine ⟨?_, ?_⟩
    · intro e member
      rcases mem_append.mp member with before | last
      · exact tiled.entriesOk e before
      · rw [mem_singleton.mp last]; exact ok _
    · have grown := tiled.tiles.snoc (itemDataSize_dvd dataType count)
      simpa [Entry.interval, Entry.size] using grown

theorem add_items (tiled : s.Tiled) (ok : ∀ d, (Entry.mk item dataType count d).Ok)
    (length : n = (Entry.mk item dataType count 0).payloadLength) :
    (s.add item dataType count n data).items = s.items ++ [⟨item, dataType, count, bytes data n⟩] := by
  have new := ok 0
  have sizeIs : ∀ d, (Entry.mk item dataType count d).size = calculateCameraMetadataItemDataSize dataType count :=
    fun _ => rfl
  unfold add
  simp only
  split
  · rename_i inline_
    have fits := new.payload_inline inline_
    simp only [items, map_append, map_cons, map_nil]
    congr 2
    simp only [itemOf, payload, sizeIs, inline_, if_true]
    rw [show (Entry.mk item dataType count (inlineData (fun _ => 0) n data)).payloadLength = n from length.symm,
      bytes_inlineData _ _ (by omega)]
  · rename_i outside
    simp only [items, map_append, map_cons, map_nil]
    congr 1
    · apply map_congr_left
      intro e member
      simp only [itemOf]
      congr 1
      apply payload_patch rfl (tiled.entriesOk e member)
      by_cases inline_ : e.size = 0
      · exact .inl inline_
      · exact .inr (.inl (tiled.bounded member (by omega)))
    · congr 1
      simp only [itemOf, payload, sizeIs, outside, if_false]
      rw [show (Entry.mk item dataType count s.dataCount).payloadLength = n from length.symm, bytes_patch]

end

/-- The `k` bytes of data from `o` on are taken away and the ones behind them move down. -/
def release (s : Store) (o k : Nat) : Store :=
  { s with
    entries := s.entries.map (Entry.close o k)
    dataCount := s.dataCount - k
    data := patch s.data o (s.dataCount - o - k) (offset s.data (o + k)) }

theorem release_payload (tiled : s.Tiled) {o k : Nat} (gap : 0 < k) {e : Entry} (member : e ∈ s.entries)
    (apart : Apart e.interval ⟨o, k⟩) : (s.release o k).payload (e.close o k) = s.payload e := by
  unfold payload
  rw [Entry.close_size, Entry.close_payloadLength]
  by_cases inline_ : e.size = 0
  · have kept : e.close o k = e := if_neg (by omega)
    simp [inline_, kept]
  · have fits := tiled.bounded member (by omega)
    have within := (tiled.entriesOk e member).payload_le (by omega)
    simp only [inline_, if_false]
    apply bytes_congr
    intro i inside
    simp only [offset, release]
    have apart' : e.size = 0 ∨ k = 0 ∨ e.data + e.size ≤ o ∨ o + k ≤ e.data := apart
    by_cases behind : o < e.data
    · have moved : e.close o k = { e with data := e.data - k } := if_pos ⟨by omega, behind⟩
      rw [moved, patch_inside (by simp only; omega) (by simp only; omega)]
      show s.data (o + k + (e.data - k + i - o)) = s.data (e.data + i)
      congr 1
      omega
    · have kept : e.close o k = e := if_neg (by omega)
      rw [kept, patch_outside (.inl (by omega))]

theorem release_tiles (tiled : s.Tiled) {i : Nat} {e : Entry} (found : s.entries[i]? = some e) (gap : 0 < e.size) (x : Nat) :
    Tiles 8 (((s.entries.map (Entry.close e.data e.size)).map Entry.interval).set i ⟨x, 0⟩) (s.dataCount - e.size) := by
  have taken := tiled.tiles.take (i := i) (o := e.data) (k := e.size) (x := x)
    (by rw [getElem?_map, found]; rfl) gap
  have same : (s.entries.map (Entry.close e.data e.size)).map Entry.interval =
      (s.entries.map Entry.interval).map (Tiling.close e.data e.size) := by
    simp only [map_map]
    apply map_congr_left
    intro f _
    exact Entry.close_interval _ _ f
  rw [same]
  exact taken

theorem release_itemOf (tiled : s.Tiled) {i j : Nat} {e f : Entry} (found : s.entries[i]? = some e)
    (gap : 0 < e.size) (other : s.entries[j]? = some f) (ne : j ≠ i) :
    (s.release e.data e.size).itemOf (f.close e.data e.size) = s.itemOf f := by
  have apart := tiled.apart ne other found
  have kept := release_payload tiled gap (mem_of_getElem? other) apart
  simp only [itemOf, Entry.close_item, Entry.close_dataType, Entry.close_count, kept]

/-- Entry `i`, which is `e`, is deleted with its data. -/
def delete (s : Store) (i : Nat) (e : Entry) : Store :=
  let s' := if e.size > 0 then s.release e.data e.size else s
  { s' with entries := s'.entries.eraseIdx i }

theorem delete_items (tiled : s.Tiled) {i : Nat} {e : Entry} (found : s.entries[i]? = some e) :
    (s.delete i e).items = s.items.eraseIdx i := by
  unfold delete
  simp only
  split
  · rename_i gap
    simp only [items]
    apply ext_getElem?
    intro j
    simp only [getElem?_map, getElem?_eraseIdx]
    -- Behind the deleted entry the list is one shorter.
    have step : ∀ j', j' ≠ i → Option.map (fun f => ({ s.release e.data e.size with
          entries := (s.release e.data e.size).entries.eraseIdx i } : Store).itemOf f)
          ((s.release e.data e.size).entries[j']?) = Option.map s.itemOf s.entries[j']? := by
      intro j' ne
      have mapped : (s.release e.data e.size).entries[j']? = s.entries[j']?.map (Entry.close e.data e.size) := by
        simp only [release, getElem?_map]
      rw [mapped]
      cases other : s.entries[j']? with
      | none => rfl
      | some f =>
        simp only [map_some, some.injEq]
        exact release_itemOf tiled found gap other ne
    split
    · exact step j (by omega)
    · exact step (j+1) (by omega)
  · simp only [items]
    rw [eraseIdx_map]
    rfl

theorem delete_tiled (tiled : s.Tiled) {i : Nat} {e : Entry} (found : s.entries[i]? = some e) : (s.delete i e).Tiled := by
  have inside : i < s.entries.length := (List.getElem?_eq_some_iff.mp found).1
  unfold delete
  simp only
  split
  · rename_i gap
    refine ⟨?_, ?_⟩
    · intro f member
      have member := mem_of_mem_eraseIdx member
      obtain ⟨f0, member0, rfl⟩ := mem_map.mp member
      exact (tiled.entriesOk f0 member0).close _ _
    · have taken := release_tiles tiled found gap 0
      have erased := taken.erase_empty (i := i) (v := ⟨0, 0⟩)
        (getElem?_set_self (by simpa using inside)) rfl
      rw [eraseIdx_set_eq] at erased
      rw [eraseIdx_map] at erased
      exact erased
  · rename_i noData
    refine ⟨fun f member => tiled.entriesOk f (mem_of_mem_eraseIdx member), ?_⟩
    have erased := tiled.tiles.erase_empty (i := i) (v := e.interval)
      (by rw [getElem?_map, found]; rfl) (by simp only [Entry.interval]; omega)
    rw [eraseIdx_map] at erased
    exact erased

/-- Entry `i`, which is `e`, gets `count` elements with `n` bytes of payload. Data that changes its
    size goes to the end of the data area. -/
def update (s : Store) (i : Nat) (e : Entry) (count n : Nat) (data : Mem) : Store :=
  let size := calculateCameraMetadataItemDataSize e.dataType count
  if size = e.size ∧ size ≠ 0 then
    { s with entries := s.entries.set i { e with count := count }, data := patch s.data e.data n data }
  else
    let s' := if e.size ≠ 0 then s.release e.data e.size else s
    if size = 0 then
      { s' with entries := s'.entries.set i { e with count := count, data := inlineData (digits e.data) n data } }
    else
      { s' with
        entries := s'.entries.set i { e with count := count, data := s'.dataCount }
        dataCount := s'.dataCount + size
        data := patch s'.data s'.dataCount n data }

/-- The store `t` has the items of `s`, but entry `i` lies nowhere. -/
structure Vacant (s t : Store) (i : Nat) : Prop where
  length : t.entries.length = s.entries.length
  entriesOk : ∀ e ∈ t.entries, e.Ok
  tiles : ∀ x, Tiles 8 ((t.entries.map Entry.interval).set i ⟨x, 0⟩) t.dataCount
  others : ∀ j ≠ i, t.entries[j]?.map t.itemOf = s.entries[j]?.map s.itemOf

theorem release_vacant (tiled : s.Tiled) {i : Nat} {e : Entry} (found : s.entries[i]? = some e) :
    Vacant s (if e.size ≠ 0 then s.release e.data e.size else s) i := by
  split
  · rename_i gap
    refine ⟨by simp [release], ?_, release_tiles tiled found (by omega), ?_⟩
    · intro f member
      obtain ⟨f0, member0, rfl⟩ := mem_map.mp member
      exact (tiled.entriesOk f0 member0).close _ _
    · intro j ne
      have mapped : (s.release e.data e.size).entries[j]? = s.entries[j]?.map (Entry.close e.data e.size) := by
        simp only [release, getElem?_map]
      rw [mapped]
      cases other : s.entries[j]? with
      | none => rfl
      | some f =>
        simp only [map_some, some.injEq]
        exact release_itemOf tiled found (by omega) other ne
  · rename_i noData
    refine ⟨rfl, tiled.entriesOk, fun x => ?_, fun _ _ => rfl⟩
    exact tiled.tiles.set_empty (v := e.interval) (by rw [getElem?_map, found]; rfl)
      (by simp only [Entry.interval]; omega) x

theorem Vacant.bounded {i j : Nat} (vacant : Vacant s t i) {f : Entry} (other : t.entries[j]? = some f)
    (ne : j ≠ i) (outside : 0 < f.size) : f.data + f.size ≤ t.dataCount := by
  have here : ((t.entries.map Entry.interval).set i ⟨0, 0⟩)[j]? = some f.interval := by
    rw [getElem?_set_ne (fun same => ne same.symm), getElem?_map, other]; rfl
  exact (vacant.tiles 0).bounded f.interval (mem_of_getElem? here) outside

theorem items_set {i : Nat} {e : Entry} {x : Item} (others : ∀ j ≠ i, t.entries[j]?.map t.itemOf = s.entries[j]?.map s.itemOf)
    (written : t.entries[i]? = some e) (item : t.itemOf e = x) (inside : i < s.entries.length) : t.items = s.items.set i x := by
  apply ext_getElem?
  intro j
  by_cases same : i = j
  · subst same
    rw [getElem?_set_self (by simpa [items] using inside)]
    simp only [items, getElem?_map, written, map_some, item]
  · rw [getElem?_set_ne same]
    simp only [items, getElem?_map]
    exact others j (fun e => same e.symm)

section
variable {i count n : Nat} {e : Entry} {data : Mem}

theorem update_tiled (tiled : s.Tiled) (found : s.entries[i]? = some e)
    (ok : ∀ d, ({ e with count := count, data := d } : Entry).Ok) : (s.update i e count n data).Tiled := by
  have vacant := release_vacant tiled found
  have inside : i < s.entries.length := (List.getElem?_eq_some_iff.mp found).1
  have newOk : ∀ {l : List Entry} {d : Nat}, (∀ f ∈ l, f.Ok) →
      ∀ f ∈ l.set i { e with count := count, data := d }, f.Ok := by
    intro l d old f member
    rcases mem_or_eq_of_mem_set member with before | rfl
    · exact old f before
    · exact ok d
  unfold update
  simp only
  split
  · rename_i same
    refine ⟨newOk tiled.entriesOk, ?_⟩
    have unmoved : (s.entries.set i { e with count := count }).map Entry.interval = s.entries.map Entry.interval := by
      have kept : ({ e with count := count } : Entry).interval = e.interval := by
        simp only [Entry.interval, Interval.mk.injEq, true_and]
        exact same.1
      have there : i < (s.entries.map Entry.interval).length := by simpa using inside
      have value : (s.entries.map Entry.interval)[i] = e.interval := by
        rw [List.getElem_map, (List.getElem?_eq_some_iff.mp found).2]
      rw [map_set, kept, ← value, set_getElem_self]
    simp only [unmoved]
    exact tiled.tiles
  · generalize (if e.size ≠ 0 then s.release e.data e.size else s) = t at vacant
    split
    · rename_i inline_
      refine ⟨newOk vacant.entriesOk, ?_⟩
      have placed := vacant.tiles (inlineData (digits e.data) n data)
      simp only [map_set, Entry.interval, Entry.size, inline_]
      exact placed
    · rename_i outside
      refine ⟨newOk vacant.entriesOk, ?_⟩
      have free := vacant.tiles 0
      have placed := free.fill (i := i) (v := ⟨0, 0⟩)
        (getElem?_set_self (by simpa [vacant.length] using inside)) rfl (itemDataSize_dvd e.dataType count)
      rw [set_set] at placed
      simp only [map_set]
      exact placed

theorem update_items (tiled : s.Tiled) (found : s.entries[i]? = some e)
    (ok : ∀ d, ({ e with count := count, data := d } : Entry).Ok)
    (length : n = ({ e with count := count } : Entry).payloadLength) :
    (s.update i e count n data).items = s.items.set i ⟨e.item, e.dataType, count, bytes data n⟩ := by
  have vacant := release_vacant tiled found
  have inside : i < s.entries.length := (List.getElem?_eq_some_iff.mp found).1
  have new := ok e.data
  have lengthIs : ∀ d, ({ e with count := count, data := d } : Entry).payloadLength = n := fun _ => length.symm
  have sizeIs : ∀ d, ({ e with count := count, data := d } : Entry).size =
      calculateCameraMetadataItemDataSize e.dataType count := fun _ => rfl
  unfold update
  simp only
  split
  · rename_i same
    apply items_set (i := i) (e := { e with count := count }) _ (getElem?_set_self inside) _ inside
    · intro j ne
      simp only [getElem?_set_ne (fun e => ne e.symm)]
      cases other : s.entries[j]? with
      | none => rfl
      | some f =>
        have apart : Apart f.interval e.interval := tiled.apart ne other found
        have apart' : f.size = 0 ∨ e.size = 0 ∨ f.data + f.size ≤ e.data ∨ e.data + e.size ≤ f.data := apart
        have fits : n ≤ e.size := by
          have := new.payload_le (by rw [sizeIs]; omega)
          rwa [lengthIs, sizeIs, same.1] at this
        simp only [map_some, itemOf, some.injEq, Item.mk.injEq, true_and]
        exact payload_patch rfl (tiled.entriesOk f (mem_of_getElem? other)) (by omega)
    · simp only [itemOf, payload, sizeIs, same.2, if_false, lengthIs, bytes_patch]
  · generalize (if e.size ≠ 0 then s.release e.data e.size else s) = t at vacant
    have there : i < t.entries.length := by rw [vacant.length]; exact inside
    split
    · rename_i inline_
      apply items_set (i := i) (e := { e with count := count, data := inlineData (digits e.data) n data }) _
        (getElem?_set_self there) _ inside
      · intro j ne
        simp only [getElem?_set_ne (fun e => ne e.symm)]
        exact vacant.others j ne
      · have fits := new.payload_inline inline_
        simp only [itemOf, payload, sizeIs, inline_, if_true, lengthIs]
        rw [bytes_inlineData _ _ (by rw [lengthIs] at fits; exact fits)]
    · rename_i outside
      apply items_set (i := i) (e := { e with count := count, data := t.dataCount }) _
        (getElem?_set_self there) _ inside
      · intro j ne
        rw [← vacant.others j ne]
        simp only [getElem?_set_ne (fun e => ne e.symm)]
        cases other : t.entries[j]? with
        | none => rfl
        | some f =>
          simp only [map_some, itemOf, some.injEq, Item.mk.injEq, true_and]
          apply payload_patch rfl (vacant.entriesOk f (mem_of_getElem? other))
          by_cases inline_ : f.size = 0
          · exact .inl inline_
          · exact .inr (.inl (vacant.bounded other ne (by omega)))
      · simp only [itemOf, payload, sizeIs, outside, if_false, lengthIs, bytes_patch]

end

/-- What `AddCameraMetadataItem` does to a store. -/
def addItem (s : Store) (item : Nat) (data : Option Mem) (dataCount : Nat) : Ret × Store :=
  match data, getCameraMetadataItemType item with
  | some data, some dataType =>
    let payload := dataCount * (ohosCameraMetadataTypeSize dataType).getD 0 % 2^64
    if dataCount = 0 then (.invalidParam, s)
    else if s.entries.length = s.itemCapacity then (.itemCapExceed, s)
    else if calculateCameraMetadataItemDataSize dataType dataCount + s.dataCount > s.dataCapacity then (.dataCapExceed, s)
    else if securecOk payload payload then (.success, s.add item dataType (dataCount % 2^32) payload data)
    else (.failure, s)
  | some _, none =>
    if dataCount = 0 then (.invalidParam, s)
    else if s.entries.length = s.itemCapacity then (.itemCapExceed, s)
    else (.invalidParam, s)
  | none, _ => (.invalidParam, s)

def tail (s : Store) (e : Entry) : Nat := s.dataCount - e.data - e.size

def resized (s : Store) (e : Entry) (dataCount : Nat) : Nat :=
  s.dataCount + calculateCameraMetadataItemDataSize e.dataType dataCount - e.size

/-- What `UpdateCameraMetadataItemByIndex` does to a store when a failed call changes nothing. -/
def updateAt (s : Store) (index : Nat) (data : Option Mem) (dataCount : Nat) : Ret × Store :=
  match s.entries[index]?, data with
  | some e, some data =>
    let size := calculateCameraMetadataItemDataSize e.dataType dataCount
    let payload := dataCount * (ohosCameraMetadataTypeSize e.dataType).getD 0
    if dataCount = 0 then (.invalidParam, s)
    else if size ≠ e.size ∧ s.dataCapacity < s.resized e dataCount then (.dataCapExceed, s)
    else if size ≠ e.size ∧ e.size ≠ 0 ∧ securecMemMaxLen < s.tail e then (.failure, s)
    else if securecOk payload payload then (.success, s.update index e dataCount payload data)
    else (.failure, s)
  | _, _ => (.invalidParam, s)

/-- A failed update changes nothing: its payload can be copied, or the call fails before data is moved. -/
def UpdateClean (s : Store) (index dataCount : Nat) : Prop :=
  ∀ e, s.entries[index]? = some e →
    dataCount * (ohosCameraMetadataTypeSize e.dataType).getD 0 ≤ securecMemMaxLen ∨
    calculateCameraMetadataItemDataSize e.dataType dataCount = e.size ∨
    s.dataCapacity < s.resized e dataCount ∨ (e.size ≠ 0 ∧ securecMemMaxLen < s.tail e)

/-- What `DeleteCameraMetadataItemByIndex` does to a store when a failed call changes nothing. -/
def deleteAt (s : Store) (index : Nat) : Ret × Store :=
  match s.entries[index]? with
  | some e =>
    if e.size ≠ 0 ∧ securecMemMaxLen < s.tail e then (.failure, s)
    else if securecMemMaxLen < itemLen * (s.entries.length - index - 1) then (.failure, s)
    else (.success, s.delete index e)
  | none => (.invalidParam, s)

/-- A failed deletion changes nothing: the entries behind can be moved, or the call fails before data is moved. -/
def DeleteClean (s : Store) (index : Nat) : Prop :=
  ∀ e, s.entries[index]? = some e →
    e.size = 0 ∨ securecMemMaxLen < s.tail e ∨ itemLen * (s.entries.length - index - 1) ≤ securecMemMaxLen

def find (s : Store) (item : Nat) : Option Nat := s.entries.findIdx? (fun e => e.item = item)

theorem securecOk_iff {n : Nat} : securecOk n n ↔ 0 < n ∧ n ≤ securecMemMaxLen := by
  simp [securecOk]

/-- The count that is stored, when its payload was not cut off by the width of `size_t`. -/
theorem payload_count {dataType size dataCount : Nat} (known : ohosCameraMetadataTypeSize dataType = some size)
    (small : dataCount * size % 2^64 < 2^31) : dataCount % 2^32 * size = dataCount * size % 2^64 := by
  rcases typeSize_cases known with rfl | rfl | rfl <;> omega

/-- A call of the store that succeeds, or leaves the store as it is. -/
theorem addItem_cases (s : Store) (item : Nat) (data : Option Mem) (dataCount : Nat) :
    ((s.addItem item data dataCount).1 ≠ .success ∧ (s.addItem item data dataCount).2 = s) ∨
    ∃ d dataType size, data = some d ∧ getCameraMetadataItemType item = some dataType ∧
      ohosCameraMetadataTypeSize dataType = some size ∧ securecOk (dataCount * size % 2^64) (dataCount * size % 2^64) ∧
      s.addItem item data dataCount = (.success, s.add item dataType (dataCount % 2^32) (dataCount * size % 2^64) d) := by
  unfold addItem
  split
  · rename_i d dataType typed
    obtain ⟨size, known⟩ := itemType_known typed
    simp only [known, getD_some]
    split
    · exact .inl ⟨by simp, rfl⟩
    · split
      · exact .inl ⟨by simp, rfl⟩
      · split
        · exact .inl ⟨by simp, rfl⟩
        · split
          · exact .inr ⟨d, dataType, size, rfl, typed, known, by assumption, rfl⟩
          · exact .inl ⟨by simp, rfl⟩
  · left
    split
    · exact ⟨by simp, rfl⟩
    · split <;> exact ⟨by simp, rfl⟩
  · exact .inl ⟨by simp, rfl⟩

theorem updateAt_cases (s : Store) (index : Nat) (data : Option Mem) (dataCount : Nat) :
    ((s.updateAt index data dataCount).1 ≠ .success ∧ (s.updateAt index data dataCount).2 = s) ∨
    ∃ d e, data = some d ∧ s.entries[index]? = some e ∧ dataCount ≠ 0 ∧
      dataCount * (ohosCameraMetadataTypeSize e.dataType).getD 0 ≤ securecMemMaxLen ∧ s.updateAt index data dataCount =
        (.success, s.update index e dataCount (dataCount * (ohosCameraMetadataTypeSize e.dataType).getD 0) d) := by
  unfold updateAt
  split
  · rename_i e d found
    simp only
    split
    · exact .inl ⟨by simp, rfl⟩
    · split
      · exact .inl ⟨by simp, rfl⟩
      · split
        · exact .inl ⟨by simp, rfl⟩
        · split
          · rename_i copied
            exact .inr ⟨d, e, rfl, found, by assumption, (securecOk_iff.mp copied).2, rfl⟩
          · exact .inl ⟨by simp, rfl⟩
  · exact .inl ⟨by simp, rfl⟩

theorem deleteAt_cases (s : Store) (index : Nat) : ((s.deleteAt index).1 ≠ .success ∧ (s.deleteAt index).2 = s) ∨
    ∃ e, s.entries[index]? = some e ∧ s.deleteAt index = (.success, s.delete index e) := by
  unfold deleteAt
  split
  · rename_i e found
    split
    · exact .inl ⟨by simp, rfl⟩
    · split
      · exact .inl ⟨by simp, rfl⟩
      · exact .inr ⟨e, found, rfl⟩
  · exact .inl ⟨by simp, rfl⟩

theorem added_ok {item dataType size dataCount : Nat} (typed : getCameraMetadataItemType item = some dataType)
    (known : ohosCameraMetadataTypeSize dataType = some size)
    (copied : securecOk (dataCount * size % 2^64) (dataCount * size % 2^64)) (d : Nat) :
    (Entry.mk item dataType (dataCount % 2^32) d).Ok ∧
      (Entry.mk item dataType (dataCount % 2^32) d).payloadLength = dataCount * size % 2^64 := by
  have range := securecOk_iff.mp copied
  have length : (Entry.mk item dataType (dataCount % 2^32) d).payloadLength = dataCount * size % 2^64 := by
    simp only [Entry.payloadLength, known, getD_some]
    exact payload_count known (by unfold securecMemMaxLen at range; omega)
  refine ⟨⟨typed, ?_, by rw [length]; unfold securecMemMaxLen at range; omega⟩, length⟩
  rcases Nat.eq_zero_or_pos (dataCount % 2^32) with zero | positive
  · simp only [Entry.payloadLength, known, getD_some, zero, Nat.zero_mul] at length
    omega
  · exact positive

theorem addItem_tiled (tiled : s.Tiled) (item : Nat) (data : Option Mem) (dataCount : Nat) :
    (s.addItem item data dataCount).2.Tiled := by
  rcases s.addItem_cases item data dataCount with ⟨_, same⟩ | ⟨d, dataType, size, rfl, typed, known, copied, is⟩
  · rw [same]; exact tiled
  · rw [is]; exact add_tiled tiled (fun d => (added_ok typed known copied d).1)

theorem updated_ok {e : Entry} (ok : e.Ok) {dataCount : Nat} (some_ : dataCount ≠ 0)
    (small : dataCount * (ohosCameraMetadataTypeSize e.dataType).getD 0 ≤ securecMemMaxLen) (d : Nat) :
    ({ e with count := dataCount, data := d } : Entry).Ok :=
  ⟨ok.typed, by simp only; omega, by simp only [Entry.payloadLength]; unfold securecMemMaxLen at small; omega⟩

theorem updateAt_tiled (tiled : s.Tiled) (index : Nat) (data : Option Mem) (dataCount : Nat) :
    (s.updateAt index data dataCount).2.Tiled := by
  rcases s.updateAt_cases index data dataCount with ⟨_, same⟩ | ⟨d, e, rfl, found, some_, small, is⟩
  · rw [same]; exact tiled
  · rw [is]
    exact update_tiled tiled found (updated_ok (tiled.entriesOk e (mem_of_getElem? found)) some_ small)

theorem deleteAt_tiled (tiled : s.Tiled) (index : Nat) : (s.deleteAt index).2.Tiled := by
  rcases s.deleteAt_cases index with ⟨_, same⟩ | ⟨e, found, is⟩
  · rw [same]; exact tiled
  · rw [is]; exact delete_tiled tiled found

theorem add_capacities (s : Store) (item dataType count n : Nat) (data : Mem) :
    (s.add item dataType count n data).itemCapacity = s.itemCapacity ∧
      (s.add item dataType count n data).dataCapacity = s.dataCapacity := by
  unfold add
  simp only
  split <;> exact ⟨rfl, rfl⟩

theorem update_capacities (s : Store) (i : Nat) (e : Entry) (count n : Nat) (data : Mem) :
    (s.update i e count n data).itemCapacity = s.itemCapacity ∧ (s.update i e count n data).dataCapacity = s.dataCapacity := by
  have released : (if e.size ≠ 0 then s.release e.data e.size else s).itemCapacity = s.itemCapacity ∧
      (if e.size ≠ 0 then s.release e.data e.size else s).dataCapacity = s.dataCapacity := by
    split <;> exact ⟨rfl, rfl⟩
  unfold update
  simp only
  split
  · exact ⟨rfl, rfl⟩
  · split <;> exact released

theorem delete_capacities (s : Store) (i : Nat) (e : Entry) :
    (s.delete i e).itemCapacity = s.itemCapacity ∧ (s.delete i e).dataCapacity = s.dataCapacity := by
  unfold delete
  simp only
  split <;> exact ⟨rfl, rfl⟩

theorem addItem_capacities (s : Store) (item : Nat) (data : Option Mem) (dataCount : Nat) :
    (s.addItem item data dataCount).2.itemCapacity = s.itemCapacity ∧
      (s.addItem item data dataCount).2.dataCapacity = s.dataCapacity := by
  rcases s.addItem_cases item data dataCount with ⟨_, same⟩ | ⟨d, dataType, size, _, _, _, _, is⟩
  · rw [same]; exact ⟨rfl, rfl⟩
  · rw [is]; exact add_capacities ..

theorem updateAt_capacities (s : Store) (index : Nat) (data : Option Mem) (dataCount : Nat) :
    (s.updateAt index data dataCount).2.itemCapacity = s.itemCapacity ∧
      (s.updateAt index data dataCount).2.dataCapacity = s.dataCapacity := by
  rcases s.updateAt_cases index data dataCount with ⟨_, same⟩ | ⟨d, e, _, _, _, _, is⟩
  · rw [same]; exact ⟨rfl, rfl⟩
  · rw [is]; exact update_capacities ..

theorem deleteAt_capacities (s : Store) (index : Nat) :
    (s.deleteAt index).2.itemCapacity = s.itemCapacity ∧ (s.deleteAt index).2.dataCapacity = s.dataCapacity := by
  rcases s.deleteAt_cases index with ⟨_, same⟩ | ⟨e, _, is⟩
  · rw [same]; exact ⟨rfl, rfl⟩
  · rw [is]; exact delete_capacities ..

end Store
end Peripheral.Metadata
