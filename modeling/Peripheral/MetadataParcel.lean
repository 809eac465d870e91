import Mathlib.Data.UInt
import Peripheral.MetadataApi

/-!
Metadata in a `MessageParcel`, as `EncodeCameraMetadata` and `DecodeCameraMetadata`
of `metadata_utils.cpp` write and read it. A parcel is a queue of typed values;
the elements of a vector are their bit patterns. The reader rebuilds the store
with additions whose failures it does not look at.
-/
namespace Peripheral.Metadata
open Peripheral.Bytes Peripheral.Tiling List

/-- A value of a parcel; the elements of a vector are bit patterns. -/
inductive ParcelValue
  | int32 (v : Nat)
  | uint32 (v : Nat)
  | uint8 (v : Nat)
  | uint8Vector (l : List Nat)
  | int32Vector (l : List Nat)
  | uint32Vector (l : List Nat)
  | floatVector (l : List Nat)
  | int64Vector (l : List Nat)
  | doubleVector (l : List Nat)
  deriving DecidableEq

/-- The values of a parcel in the order they were written; a read that finds another type has no result. -/
abbrev Parcel := List ParcelValue

def readInt32 : Parcel → Option (Nat × Parcel)
  | .int32 v :: data => some (v, data)
  | _ => none

def readUint32 : Parcel → Option (Nat × Parcel)
  | .uint32 v :: data => some (v, data)
  | _ => none

def readUint8 : Parcel → Option (Nat × Parcel)
  | .uint8 v :: data => some (v, data)
  | _ => none

def metaType (dataType : Nat) : Option MetaType :=
  [.byte, .int32, .uint32, .float, .int64, .double, .rational][dataType]?

/-- The loop that pushes `count` elements of `width` bytes from the element `i` on. -/
def pushElements (src : Block) (data width i : Nat) : Nat → Option (List Nat)
  | 0 => some []
  | remaining+1 => do
    let element ← src.readWord (data + width * i) width
    let buffers ← pushElements src data width (i + 1) remaining
    return element :: buffers

def pushRationals (src : Block) (data i : Nat) : Nat → Option (List Nat)
  | 0 => some []
  | remaining+1 => do
    let numerator ← src.readWord (data + 8 * i) 4
    let denominator ← src.readWord (data + 8 * i + 4) 4
    let buffers ← pushRationals src data (i + 1) remaining
    return numerator :: denominator :: buffers

def itemVector (src : Block) (item : CameraMetadataItem) : MetaType → Option ParcelValue
  | .byte => (pushElements src item.data 1 0 item.count).map .uint8Vector
  | .int32 => (pushElements src item.data 4 0 item.count).map .int32Vector
  | .uint32 => (pushElements src item.data 4 0 item.count).map .uint32Vector
  | .float => (pushElements src item.data 4 0 item.count).map .floatVector
  | .int64 => (pushElements src item.data 8 0 item.count).map .int64Vector
  | .double => (pushElements src item.data 8 0 item.count).map .doubleVector
  | .rational => (pushRationals src item.data 0 item.count).map .int32Vector

/-- The loop that copies the elements from `i` on; `at` throws behind the end of the vector. -/
def copyElements (buffers : List Nat) (width : Nat) (m : Mem) (i : Nat) : Nat → Option Mem
  | 0 => some m
  | remaining+1 => do
    let element ← buffers[i]?
    copyElements buffers width (patch m (width * i) width (digits element)) (i + 1) remaining

def copyRationals (buffers : List Nat) (m : Mem) (i j : Nat) : Nat → Option Mem
  | 0 => some m
  | remaining+1 =>
    if j < buffers.length then do
      let numerator ← buffers[j]?
      let denominator ← buffers[j+1]?
      copyRationals buffers (patch (patch m (8 * i) 4 (digits numerator)) (8 * i + 4) 4 (digits denominator)) (i + 1)
        (j + indexCounter) remaining
    else some m

/-- The memory of an item of a type, read from the front of a parcel into the new array `fresh`. -/
def takeVector (fresh : Mem) (count : Nat) : MetaType → Parcel → Option (Mem × Parcel)
  | .byte, .uint8Vector buffers :: data => (copyElements buffers 1 fresh 0 count).map (·, data)
  | .int32, .int32Vector buffers :: data => (copyElements buffers 4 fresh 0 count).map (·, data)
  | .uint32, .uint32Vector buffers :: data => (copyElements buffers 4 fresh 0 count).map (·, data)
  | .float, .floatVector buffers :: data => (copyElements buffers 4 fresh 0 count).map (·, data)
  | .int64, .int64Vector buffers :: data => (copyElements buffers 8 fresh 0 count).map (·, data)
  | .double, .doubleVector buffers :: data => (copyElements buffers 8 fresh 0 count).map (·, data)
  | .rational, .int32Vector buffers :: data => (copyRationals buffers fresh 0 0 count).map (·, data)
  | _, _ => none

/-- The flag is false when the type is none of the seven; nothing is written then. -/
def writeMetadata (src : Block) (item : CameraMetadataItem) (data : Parcel) : Option (Bool × Parcel) :=
  match metaType item.dataType with
  | some type => do
    let vector ← itemVector src item type
    return (true, data ++ [vector])
  | none => some (false, data)

/-- The loop of `EncodeCameraMetadata` from `i` on. After a failed write nothing more is written. -/
def encodeFrom (src : Block) (bRet : Bool) (data : Parcel) (i : Nat) : Nat → Option (Bool × Parcel)
  | 0 => some (bRet, data)
  | remaining+1 => do
    let some item ← getCameraMetadataItem src i | return (false, data)
    if bRet then
      let data := data ++ [.uint32 item.index, .uint32 item.item, .uint32 item.dataType, .uint32 item.count]
      let (bRet, data) ← writeMetadata src item data
      encodeFrom src bRet data (i + 1) remaining
    else encodeFrom src bRet data (i + 1) remaining

def encodeCameraMetadata (metadata : Block) (data : Parcel) : Option (Bool × Parcel) := do
  let tagCount ← metadata.read32 itemCountAt
  let itemCapacity ← metadata.read32 itemCapacityAt
  let dataCapacity ← metadata.read32 dataCapacityAt
  encodeFrom metadata true (data ++ [.uint32 tagCount, .uint32 itemCapacity, .uint32 dataCapacity]) 0 tagCount

/-- An item that was read from a parcel: what `AddCameraMetadataItem` is called with. -/
structure ParcelItem where
  item : Nat
  count : Nat
  buffer : Option Mem

/-- `ReadMetadata` and `ItemDataToBuffer`; there is no buffer when the type is none of the seven. -/
def readMetadata (fresh : Mem) (dataType count : Nat) (data : Parcel) : Option (Option Mem × Parcel) :=
  match metaType dataType with
  | some type => (takeVector fresh count type data).map fun (buffer, data) => (some buffer, data)
  | none => some (none, data)

def maxSupportedTags : Nat := 1000
def maxSupportedItems : Nat := 1000
def maxItemCapacity : Nat := 1000 * 10
def maxDataCapacity : Nat := 1000 * 10 * 10

/-- The loop that reads the items from `i` on; `fresh i` is what the array of the item `i` holds when it is new. -/
def readParcelItems (fresh : Nat → Mem) (data : Parcel) (i : Nat) : Nat → Option (List ParcelItem × Parcel)
  | 0 => some ([], data)
  | remaining+1 => do
    let (_, data) ← readUint32 data
    let (item, data) ← readUint32 data
    let (dataType, data) ← readUint32 data
    let (count, data) ← readUint32 data
    let count := min count maxSupportedItems
    let (buffer, data) ← readMetadata (fresh i) dataType count data
    let (items, data) ← readParcelItems fresh data (i + 1) remaining
    return (⟨item, count, buffer⟩ :: items, data)

def addParcelItems (metadata : Block) : List ParcelItem → Option Block
  | [] => some metadata
  | item :: items => do
    let (_, metadata) ← addCameraMetadataItem metadata item.item item.buffer item.count
    addParcelItems metadata items

def decodeCameraMetadata (fresh : Nat → Mem) (data : Parcel) : Option (Block × Parcel) := do
  let (tagCount, data) ← readUint32 data
  let (itemCapacity, data) ← readUint32 data
  let (dataCapacity, data) ← readUint32 data
  let (items, data) ← readParcelItems fresh data 0 (min tagCount maxSupportedTags)
  let metadata ← cameraMetadata (min itemCapacity maxItemCapacity) (min dataCapacity maxDataCapacity)
  let metadata ← addParcelItems metadata items
  return (metadata, data)

def MetaType.width : MetaType → Nat
  | .byte => 1 | .int32 => 4 | .uint32 => 4 | .float => 4 | .int64 => 8 | .double => 8 | .rational => 8

def elements (m : Mem) (width count : Nat) : List Nat := (range count).map fun i => load m (width * i) width

def vector (m : Mem) (count : Nat) : MetaType → ParcelValue
  | .byte => .uint8Vector (elements m 1 count)
  | .int32 => .int32Vector (elements m 4 count)
  | .uint32 => .uint32Vector (elements m 4 count)
  | .float => .floatVector (elements m 4 count)
  | .int64 => .int64Vector (elements m 8 count)
  | .double => .doubleVector (elements m 8 count)
  | .rational => .int32Vector (elements m 4 (2 * count))

theorem elements_getElem? (m : Mem) (width : Nat) {count i : Nat} (inside : i < count) :
    (elements m width count)[i]? = some (load m (width * i) width) := by
  simp [elements, getElem?_range inside]

theorem elements_congr {m m' : Mem} {width count : Nat} (same : ∀ k < width * count, m k = m' k) :
    elements m width count = elements m' width count := by
  apply map_congr_left
  intro i member
  have inside := mem_range.mp member
  have ends : width * i + width ≤ width * count := by
    rw [← Nat.mul_succ]
    exact Nat.mul_le_mul_left width inside
  apply load_congr
  intro k below
  exact same _ (by omega)

variable {count : Nat}

theorem vector_congr {m m' : Mem} (type : MetaType) (same : ∀ k < type.width * count, m k = m' k) :
    vector m count type = vector m' count type := by
  cases type with
  | rational =>
    simp only [vector]
    rw [elements_congr (fun k below => same k (by simp only [MetaType.width]; omega))]
  | byte | int32 | uint32 | float | int64 | double => exact congrArg _ (elements_congr same)

variable {src : Block}

theorem readWord_inside {a w : Nat} (fits : a + w ≤ src.size) : src.readWord a w = some (load src.byte a w) := if_pos fits

theorem pushElements_eq {data width : Nat} (i remaining : Nat) (fits : data + width * (i + remaining) ≤ src.size) :
    pushElements src data width i remaining =
      some ((range' i remaining).map fun k => load (offset src.byte data) (width * k) width) := by
  induction remaining generalizing i with
  | zero => rfl
  | succ remaining ih =>
    have first : width * i + width ≤ width * (i + (remaining + 1)) := by
      rw [← Nat.mul_succ]
      exact Nat.mul_le_mul_left width (by omega)
    simp only [pushElements, readWord_inside (show data + width * i + width ≤ src.size by omega),
      ih (i + 1) (by rw [show i + 1 + remaining = i + (remaining + 1) by omega]; exact fits), range'_succ,
      Option.bind_eq_bind, Option.bind_some, Option.pure_def, map_cons, load_offset]

theorem pushRationals_eq {data : Nat} (i remaining : Nat) (fits : data + 8 * (i + remaining) ≤ src.size) :
    pushRationals src data i remaining =
      some ((range' (2 * i) (2 * remaining)).map fun k => load (offset src.byte data) (4 * k) 4) := by
  induction remaining generalizing i with
  | zero => rfl
  | succ remaining ih =>
    have numerator : src.readWord (data + 8 * i) 4 = some (load (offset src.byte data) (4 * (2 * i)) 4) := by
      rw [readWord_inside (by omega), load_offset, show 8 * i = 4 * (2 * i) by omega]
    have denominator : src.readWord (data + 8 * i + 4) 4 = some (load (offset src.byte data) (4 * (2 * i + 1)) 4) := by
      rw [readWord_inside (by omega), load_offset, show data + 8 * i + 4 = data + 4 * (2 * i + 1) by omega]
    rw [show 2 * (remaining + 1) = 2 * remaining + 1 + 1 by omega, range'_succ, range'_succ]
    simp only [pushRationals, numerator, denominator, ih (i + 1) (by omega), Option.bind_eq_bind, Option.bind_some,
      Option.pure_def, map_cons]
    rfl

theorem itemVector_eq {item : CameraMetadataItem} (type : MetaType) (fits : item.data + type.width * item.count ≤ src.size) :
    itemVector src item type = some (vector (offset src.byte item.data) item.count type) := by
  cases type with
  | rational =>
    simp only [itemVector, pushRationals_eq 0 item.count (by simpa [MetaType.width] using fits), vector, elements,
      range_eq_range', Option.map_some, Nat.mul_zero]
  | _ =>
    simp only [itemVector, vector, elements, range_eq_range']
    rw [pushElements_eq 0 item.count (by simpa [MetaType.width] using fits)]
    rfl

theorem patch_load (m src : Mem) (a x w : Nat) : patch m a w (digits (load src x w)) = patch m a w (offset src x) := by
  funext k
  by_cases inside : a ≤ k ∧ k < a + w
  · rw [patch_inside inside.1 inside.2, patch_inside inside.1 inside.2, digits_load src x (by omega), offset]
  · rw [patch_outside (by omega), patch_outside (by omega)]

theorem copyElements_elements (m fresh : Mem) (width : Nat) (i remaining : Nat) (rest : i + remaining = count) :
    copyElements (elements m width count) width (patch fresh 0 (width * i) m) i remaining =
      some (patch fresh 0 (width * count) m) := by
  induction remaining generalizing i with
  | zero =>
    have done : i = count := by omega
    rw [copyElements, done]
  | succ remaining ih =>
    have copied := patch_append fresh m 0 (width * i) width
    rw [Nat.zero_add, ← Nat.mul_succ] at copied
    simp only [copyElements, elements_getElem? m width (show i < count by omega), Option.bind_eq_bind,
      Option.bind_some, patch_load, copied]
    exact ih (i + 1) (by omega)

theorem copyRationals_elements (m fresh : Mem) (i remaining : Nat) (rest : i + remaining = count) :
    copyRationals (elements m 4 (2 * count)) (patch fresh 0 (8 * i) m) i (2 * i) remaining =
      some (patch fresh 0 (8 * count) m) := by
  induction remaining generalizing i with
  | zero =>
    have done : i = count := by omega
    rw [copyRationals, done]
  | succ remaining ih =>
    have length : (elements m 4 (2 * count)).length = 2 * count := by simp [elements]
    have numerator := patch_append fresh m 0 (8 * i) 4
    have denominator := patch_append fresh m 0 (8 * i + 4) 4
    rw [Nat.zero_add] at numerator denominator
    simp only [copyRationals, length, if_pos (show 2 * i < 2 * count by omega),
      elements_getElem? m 4 (show 2 * i < 2 * count by omega),
      elements_getElem? m 4 (show 2 * i + 1 < 2 * count by omega), Option.bind_eq_bind, Option.bind_some, patch_load,
      show 4 * (2 * i) = 8 * i by omega, show 4 * (2 * i + 1) = 8 * i + 4 by omega, numerator, denominator]
    exact ih (i + 1) (by omega)

theorem takeVector_vector (m fresh : Mem) (count : Nat) (type : MetaType) (data : Parcel) :
    takeVector fresh count type (vector m count type :: data) = some (patch fresh 0 (type.width * count) m, data) := by
  have start : patch fresh 0 0 m = fresh := patch_zero ..
  cases type with
  | rational =>
    have copied := copyRationals_elements m fresh 0 count (Nat.zero_add count)
    rw [Nat.mul_zero, start] at copied
    simp only [vector, takeVector]
    rw [copied]
    rfl
  | _ =>
    simp only [vector, takeVector, MetaType.width]
    rw [← start, copyElements_elements m fresh _ 0 count (Nat.zero_add count), start]
    rfl

theorem metaType_code (type : MetaType) : metaType type.code = some type := by cases type <;> rfl

theorem typeSize_code (type : MetaType) : ohosCameraMetadataTypeSize type.code = some type.width := by
  cases type <;> rfl

theorem uint32_not_listed (sec : MetadataSection) : .uint32 ∉ ohosItemInfo sec := by
  cases sec <;> decide

theorem metaType_of_typed {item dataType : Nat} (typed : getCameraMetadataItemType item = some dataType) :
    ∃ type, metaType dataType = some type ∧ ohosCameraMetadataTypeSize dataType = some type.width ∧ type ≠ .uint32 := by
  unfold getCameraMetadataItemType at typed
  split at typed
  · cases typed
  · rename_i sec _
    split at typed
    · cases typed
    · obtain ⟨type, listed, rfl⟩ := Option.map_eq_some_iff.mp typed
      refine ⟨type, metaType_code type, typeSize_code type, ?_⟩
      rintro rfl
      exact uint32_not_listed sec (mem_of_getElem? listed)

namespace Item

structure Ok (y : Item) : Prop where
  typed : getCameraMetadataItemType y.item = some y.dataType
  counted : 0 < y.count
  length : y.payload.length = payloadBytes y.dataType y.count
  small : y.payload.length < 2^31

def size (y : Item) : Nat := calculateCameraMetadataItemDataSize y.dataType y.count

/-- The payload, in memory. -/
def memory (y : Item) : Mem := fun k => y.payload.getD k 0

def type (y : Item) : MetaType := (metaType y.dataType).getD .byte

variable {y : Item}

theorem Ok.metaType (ok : y.Ok) : Metadata.metaType y.dataType = some y.type := by
  obtain ⟨type, is, _⟩ := metaType_of_typed ok.typed
  rw [Item.type, is]
  rfl

theorem Ok.known (ok : y.Ok) : ohosCameraMetadataTypeSize y.dataType = some y.type.width := by
  obtain ⟨type, is, known, _⟩ := metaType_of_typed ok.typed
  rw [Item.type, is]
  exact known

theorem Ok.width (ok : y.Ok) : y.payload.length = y.type.width * y.count := by
  rw [ok.length, payloadBytes, ok.known, Option.getD_some, Nat.mul_comm]

theorem Ok.count_lt (ok : y.Ok) : y.count < 2^31 := by
  have positive : 0 < y.type.width := by cases y.type <;> decide
  have small := ok.small
  rw [ok.width] at small
  exact lt_of_le_of_lt (Nat.le_mul_of_pos_left _ positive) small

end Item

namespace Store
variable {s : Store}

theorem Tiled.items_ok (tiled : s.Tiled) : ∀ y ∈ s.items, y.Ok := by
  intro y member
  obtain ⟨e, among, rfl⟩ := mem_map.mp member
  have ok := tiled.entriesOk e among
  have length : (s.payload e).length = e.payloadLength := by simp [payload]
  exact ⟨ok.typed, ok.counted, length, by rw [itemOf, length]; exact ok.small⟩

/-- The used part of the data area is as long as what the items take. -/
theorem Tiled.sum_sizes (tiled : s.Tiled) : (s.items.map Item.size).sum = s.dataCount := by
  rw [← tiled.tiles.sum, items, map_map, map_map]
  rfl

/-- What the additions of the reader do to a store. -/
def addAll (s : Store) (l : List ParcelItem) : Store :=
  l.foldl (fun s p => (s.addItem p.item p.buffer p.count).2) s

theorem addAll_tiled (tiled : s.Tiled) (l : List ParcelItem) : (s.addAll l).Tiled := by
  induction l generalizing s with
  | nil => exact tiled
  | cons p l ih => exact ih (addItem_tiled tiled p.item p.buffer p.count)

theorem addAll_capacities (s : Store) (l : List ParcelItem) :
    (s.addAll l).itemCapacity = s.itemCapacity ∧ (s.addAll l).dataCapacity = s.dataCapacity := by
  induction l generalizing s with
  | nil => exact ⟨rfl, rfl⟩
  | cons p l ih =>
    have one := s.addItem_capacities p.item p.buffer p.count
    have rest := ih (s.addItem p.item p.buffer p.count).2
    exact ⟨rest.1.trans one.1, rest.2.trans one.2⟩

theorem addItem_fits (tiled : s.Tiled) {y : Item} (ok : y.Ok) {m : Mem} (carried : bytes m y.payload.length = y.payload)
    (free : s.entries.length < s.itemCapacity) (room : s.dataCount + y.size ≤ s.dataCapacity) :
    (s.addItem y.item (some m) y.count).2.items = s.items ++ [y] := by
  have length : y.payload.length = y.count * y.type.width := by rw [ok.width, Nat.mul_comm]
  have small := ok.small
  have counted := ok.counted
  have positive : 0 < y.type.width := by cases y.type <;> decide
  have some_ := Nat.mul_pos counted positive
  have cut : y.count * y.type.width % 2^64 = y.payload.length := by rw [length]; exact Nat.mod_eq_of_lt (by omega)
  have copied : securecOk (y.count * y.type.width % 2^64) (y.count * y.type.width % 2^64) := by
    rw [securecOk_iff, cut]
    unfold securecMemMaxLen
    omega
  have stored : y.count % 2^32 = y.count := Nat.mod_eq_of_lt (by have := ok.count_lt; omega)
  have is : s.addItem y.item (some m) y.count =
      (.success, s.add y.item y.dataType (y.count % 2^32) (y.count * y.type.width % 2^64) m) := by
    unfold Item.size at room
    simp only [addItem, ok.typed, ok.known, Option.getD_some, if_neg (show y.count ≠ 0 by omega),
      if_neg (show s.entries.length ≠ s.itemCapacity by omega),
      if_neg (show ¬ calculateCameraMetadataItemDataSize y.dataType y.count + s.dataCount > s.dataCapacity by omega),
      if_pos copied]
  rw [is]
  simp only
  rw [add_items tiled (fun d => (added_ok ok.typed ok.known copied d).1) (added_ok ok.typed ok.known copied 0).2.symm,
    stored, cut, carried]

end Store

def Item.CarriedBy (y : Item) (p : ParcelItem) : Prop :=
  p.item = y.item ∧ p.count = y.count ∧ ∃ m, p.buffer = some m ∧ bytes m y.payload.length = y.payload

variable {items : List Item}

theorem Store.addAll_items {s : Store} (tiled : s.Tiled) {l : List ParcelItem}
    (carried : List.Forall₂ Item.CarriedBy items l) (ok : ∀ y ∈ items, y.Ok)
    (free : s.items.length + items.length ≤ s.itemCapacity)
    (room : s.dataCount + (items.map Item.size).sum ≤ s.dataCapacity) : (s.addAll l).items = s.items ++ items := by
  induction carried generalizing s with
  | nil => simp [addAll]
  | @cons y p items l one rest ih =>
    obtain ⟨item, count, m, buffer, payload⟩ := one
    simp only [length_cons, map_cons, sum_cons] at free room
    have added := addItem_fits tiled (ok y (by simp)) payload (by simp only [Store.items, length_map] at free; omega)
      (by omega)
    have capacities := s.addItem_capacities y.item (some m) y.count
    have tiled' := addItem_tiled tiled y.item (some m) y.count
    have sum' := tiled'.sum_sizes
    have sum := tiled.sum_sizes
    rw [added, map_append, sum_append, sum] at sum'
    simp only [map_cons, map_nil, sum_cons, sum_nil] at sum'
    have all := ih tiled' (fun z member => ok z (by simp [member]))
      (by rw [added, capacities.1, length_append, length_singleton]; omega) (by rw [capacities.2]; omega)
    have step : s.addAll (p :: l) = (s.addItem y.item (some m) y.count).2.addAll l := by
      rw [← item, ← buffer, ← count]
      rfl
    rw [step, all, added, append_assoc, singleton_append]

theorem Represents.addParcelItems_spec {b : Block} {s : Store} (rep : Represents b s) (l : List ParcelItem) :
    ∃ b', addParcelItems b l = some b' ∧ Represents b' (s.addAll l) := by
  induction l generalizing b s with
  | nil => exact ⟨b, rfl, rep⟩
  | cons p l ih =>
    obtain ⟨b1, added, rep1⟩ := rep.addCameraMetadataItem_spec p.item p.buffer p.count
    obtain ⟨b', rest, rep'⟩ := ih rep1
    exact ⟨b', by simp only [addParcelItems, added, Option.bind_eq_bind, Option.bind_some, rest], rep'⟩

def Item.wire (i : Nat) (y : Item) : Parcel :=
  [.uint32 i, .uint32 y.item, .uint32 y.dataType, .uint32 y.count, vector y.memory y.count y.type]

/-- What is written for items whose indices start at `i`, when `wire` is written for one. -/
def wires (wire : Nat → Item → Parcel) (i : Nat) : List Item → Parcel
  | [] => []
  | y :: items => wire i y ++ wires wire (i + 1) items

namespace Represents
variable {b : Block} {s : Store}

theorem itemVector_spec (rep : Represents b s) (tiled : s.Tiled) {i : Nat} {e : Entry} (found : s.entries[i]? = some e) :
    ∃ item, getCameraMetadataItem b i = some (some item) ∧ item.index = i ∧ item.item = e.item ∧
      item.dataType = e.dataType ∧ item.count = e.count ∧
      itemVector b item (s.itemOf e).type = some (vector (s.itemOf e).memory e.count (s.itemOf e).type) := by
  have member := mem_of_getElem? found
  have ok := tiled.items_ok _ (mem_map_of_mem member)
  have width : e.payloadLength = (s.itemOf e).type.width * e.count := by
    have length : (s.payload e).length = e.payloadLength := by simp [Store.payload]
    rw [← length]
    exact ok.width
  have read := rep.read_payload found (rep.readable_of_tiled tiled member)
  refine ⟨_, rep.getCameraMetadataItem_spec found, rfl, rfl, rfl, rfl, ?_⟩
  generalize (if e.size = 0 then slotAt i + itemFixedLen else dataAt s.itemCapacity + e.data) = place at read
  unfold Block.read at read
  split at read
  · rename_i fits
    rw [itemVector_eq _ (by rw [← width]; exact fits)]
    apply congrArg some
    apply vector_congr
    intro k below
    rw [← width] at below
    have payload : (s.itemOf e).payload = bytes (offset b.byte place) e.payloadLength := (Option.some.inj read).symm
    rw [Item.memory, payload, getD_eq_getElem _ _ (by simpa using below), bytes_getElem]
  · cases read

theorem encodeFrom_spec (rep : Represents b s) (tiled : s.Tiled) (data : Parcel) (i remaining : Nat)
    (rest : i + remaining = s.entries.length) :
    encodeFrom b true data i remaining = some (true, data ++ wires Item.wire i (s.items.drop i)) := by
  induction remaining generalizing i data with
  | zero =>
    rw [drop_of_length_le (by simp only [Store.items, length_map]; omega)]
    simp [encodeFrom, wires]
  | succ remaining ih =>
    have inside : i < s.entries.length := by omega
    have found := getElem?_eq_getElem inside
    have listed : i < s.items.length := by simpa [Store.items] using inside
    have here : s.items[i] = s.itemOf s.entries[i] := by simp [Store.items]
    have ok := tiled.items_ok _ (getElem_mem listed)
    rw [here] at ok
    obtain ⟨item, got, index, tag, dataType, count, written⟩ := rep.itemVector_spec tiled found
    have type : metaType s.entries[i].dataType = some (s.itemOf s.entries[i]).type := ok.metaType
    simp only [encodeFrom, got, Option.bind_eq_bind, Option.bind_some, if_true, writeMetadata, index, tag, dataType,
      count, type, written, Option.pure_def]
    rw [ih _ (i + 1) (by omega), drop_eq_getElem_cons listed, here]
    simp only [wires, Item.wire, append_assoc, cons_append, nil_append]
    rfl

/-- What is written depends only on the capacities and the items. -/
theorem encodeCameraMetadata_spec (rep : Represents b s) (tiled : s.Tiled) (data : Parcel) :
    encodeCameraMetadata b data = some (true, data ++
      ([.uint32 s.items.length, .uint32 s.itemCapacity, .uint32 s.dataCapacity] ++ wires Item.wire 0 s.items)) := by
  simp only [encodeCameraMetadata, rep.read_itemCount, rep.read_itemCapacity, rep.read_dataCapacity, Option.bind_eq_bind,
    Option.bind_some, rep.encodeFrom_spec tiled _ 0 s.entries.length (Nat.zero_add _), drop_zero,
    append_assoc, Store.items, length_map]

end Represents

theorem readMetadata_vector (fresh : Mem) {y : Item} (ok : y.Ok) (data : Parcel) :
    ∃ m, readMetadata fresh y.dataType y.count (vector y.memory y.count y.type :: data) = some (some m, data) ∧
      bytes m y.payload.length = y.payload := by
  refine ⟨patch fresh 0 (y.type.width * y.count) y.memory, ?_, ?_⟩
  · simp only [readMetadata, ok.metaType, takeVector_vector, Option.map_some]
  · rw [← ok.width]
    apply ext_getElem
    · simp
    · intro k low high
      rw [bytes_getElem, patch_inside (by omega) (by omega), Item.memory, Nat.sub_zero, getD_eq_getElem _ _ high]

theorem readParcelItems_wires (fresh : Nat → Mem) (data : Parcel) (ok : ∀ y ∈ items, y.Ok)
    (counts : ∀ y ∈ items, y.count ≤ maxSupportedItems) (i : Nat) :
    ∃ l, readParcelItems fresh (wires Item.wire i items ++ data) i items.length = some (l, data) ∧
      List.Forall₂ Item.CarriedBy items l := by
  induction items generalizing i with
  | nil => exact ⟨[], rfl, .nil⟩
  | cons y items ih =>
    obtain ⟨l, rest, carried⟩ := ih (fun z member => ok z (by simp [member]))
      (fun z member => counts z (by simp [member])) (i + 1)
    obtain ⟨m, taken, payload⟩ := readMetadata_vector (fresh i) (ok y (by simp))
      (wires Item.wire (i + 1) items ++ data)
    have count : min y.count maxSupportedItems = y.count := Nat.min_eq_left (counts y (by simp))
    refine ⟨⟨y.item, y.count, some m⟩ :: l, ?_, .cons ⟨rfl, rfl, m, rfl, payload⟩ carried⟩
    simp only [wires, Item.wire, cons_append, nil_append, length_cons, readParcelItems, readUint32,
      Option.bind_eq_bind, Option.bind_some, count, taken, rest, Option.pure_def]

/-- Adding what was read to a new object with room for it gives the items again. -/
theorem addParcelItems_items (itemCapacity dataCapacity : Nat) (layout : LayoutFits itemCapacity (alignTo dataCapacity 8))
    {l : List ParcelItem} (carried : List.Forall₂ Item.CarriedBy items l) (ok : ∀ y ∈ items, y.Ok)
    (free : items.length ≤ itemCapacity) (room : (items.map Item.size).sum ≤ alignTo dataCapacity 8) :
    ∃ metadata b', cameraMetadata itemCapacity dataCapacity = some metadata ∧ addParcelItems metadata l = some b' ∧
      readItems b' = some items := by
  have small : itemCapacity < 2^32 := by unfold LayoutFits itemLen at layout; omega
  obtain ⟨metadata, allocated, rep⟩ := allocateCameraMetadataBuffer_spec layout
  obtain ⟨b', added, rep'⟩ := rep.addParcelItems_spec l
  have empty := empty_tiled itemCapacity (alignTo dataCapacity 8)
  have tiled' := Store.addAll_tiled empty l
  have all := Store.addAll_items empty carried ok (by simpa [Store.items] using free) (by simpa using room)
  refine ⟨metadata, b', ?_, added, ?_⟩
  · rw [cameraMetadata, Nat.mod_eq_of_lt small, dataAlignment, allocated]
  · rw [rep'.readItems_spec (fun e member => rep'.readable_of_tiled tiled' member), all]
    rfl

/-- Writing into an empty parcel and reading back gives the same items and uses up the parcel. -/
def ParcelRoundTrips (fresh : Nat → Mem) (b : Block) : Prop :=
  ∃ data b' items, encodeCameraMetadata b [] = some (true, data) ∧ decodeCameraMetadata fresh data = some (b', []) ∧
    readItems b = some items ∧ readItems b' = some items

/-- The bounds below which the reader does not cut off anything. -/
structure Supported (b : Block) : Prop where
  tags : field b itemCountAt ≤ maxSupportedTags
  counts : ∀ e ∈ entriesOf b, e.count ≤ maxSupportedItems
  itemCapacity : field b itemCapacityAt ≤ maxItemCapacity
  dataCapacity : field b dataCapacityAt ≤ maxDataCapacity

/-- Every object that no call has left half changed survives the parcel. -/
theorem parcelRoundTrips {b : Block} (fresh : Nat → Mem) (reached : Reachable LayoutFits CleanCall b)
    (supported : Supported b) : ParcelRoundTrips fresh b := by
  obtain ⟨tags, counts, itemCapacity, dataCapacity⟩ := supported
  obtain ⟨s, rep, tiled, layout⟩ := reached.represents
  rw [rep.itemCount] at tags
  rw [rep.entriesOf_eq] at counts
  rw [rep.itemCapacity] at itemCapacity
  rw [rep.dataCapacity] at dataCapacity
  have ok := tiled.items_ok
  have countsItems : ∀ y ∈ s.items, y.count ≤ maxSupportedItems := by
    intro y member
    obtain ⟨e, among, rfl⟩ := mem_map.mp member
    exact counts e among
  have tagCount : s.items.length = s.entries.length := by simp [Store.items]
  have aligned : alignTo s.dataCapacity 8 = (s.dataCapacity + 7) / 8 * 8 :=
    alignTo_eight_small (by unfold maxDataCapacity at dataCapacity; omega)
  have dataFits := rep.dataFits
  obtain ⟨l, taken, carried⟩ := readParcelItems_wires fresh [] ok countsItems 0
  obtain ⟨metadata, b', made, added, read⟩ := addParcelItems_items s.itemCapacity s.dataCapacity
    (by rw [aligned]; unfold LayoutFits headerLength itemLen maxItemCapacity maxDataCapacity at *; omega) carried ok
    (by rw [tagCount]; exact rep.itemsFit) (by rw [tiled.sum_sizes, aligned]; omega)
  refine ⟨_, b', s.items, rep.encodeCameraMetadata_spec tiled [], ?_,
    rep.readItems_spec (fun e member => rep.readable_of_tiled tiled member), read⟩
  rw [append_nil] at taken
  simp only [decodeCameraMetadata, nil_append, cons_append, readUint32, Option.bind_eq_bind, Option.bind_some,
    Nat.min_eq_left (show s.items.length ≤ maxSupportedTags by omega), Nat.min_eq_left itemCapacity,
    Nat.min_eq_left dataCapacity, taken, made, added, Option.pure_def]

theorem parcelRoundTrips_one : ∃ b, Reachable LayoutFits CleanCall b ∧ Supported b ∧ ParcelRoundTrips (fun _ _ => 0) b := by
  obtain ⟨b, s, reached, rep, _, _, itemCapacity, dataCapacity, entries, _⟩ :=
    one_long 2 (by decide) (by unfold LayoutFits; decide)
  have supported : Supported b := by
    refine ⟨?_, ?_, ?_, ?_⟩
    · rw [rep.itemCount, entries]
      decide
    · rw [rep.entriesOf_eq, entries]
      decide
    · rw [rep.itemCapacity, itemCapacity]
      decide
    · rw [rep.dataCapacity, dataCapacity]
      decide
  exact ⟨b, reached, supported, parcelRoundTrips _ reached supported⟩

/-- An object whose update failed after it had taken the old data away, and then got a second item over the same data. -/
def overlapping : Option Block := do
  let b ← cameraMetadata 2 8
  let b ← ApiCall.perform b (.addEntry 131072 (some (fun _ => 1)) 1)
  let b ← ApiCall.perform b (.updateEntry 131072 (some (fun _ => 0)) (2^29))
  ApiCall.perform b (.addEntry 131072 (some (fun _ => 2)) 1)

/-- The number of items after writing and reading back. -/
def itemsAfterParcel (b : Block) : Option Nat := do
  let (_, data) ← encodeCameraMetadata b []
  let (b', _) ← decodeCameraMetadata (fun _ _ => 0) data
  let items ← readItems b'
  return items.length

/-- The reader has no room for the second item of an object whose items overlap. -/
theorem overlapping_not_parcelRoundTrips :
    ∃ b, Reachable LayoutFits (fun _ _ => True) b ∧ Supported b ∧ ¬ ParcelRoundTrips (fun _ _ => 0) b := by
  have made : overlapping.isSome := by decide
  obtain ⟨b, is⟩ := Option.isSome_iff_exists.mp made
  have supported : (overlapping.map fun b => decide (field b itemCountAt ≤ maxSupportedTags ∧
      (∀ e ∈ entriesOf b, e.count ≤ maxSupportedItems) ∧ field b itemCapacityAt ≤ maxItemCapacity ∧
      field b dataCapacityAt ≤ maxDataCapacity)) = some true := by decide
  have lost : (overlapping.bind readItems).map length ≠ overlapping.bind itemsAfterParcel := by decide
  rw [is] at supported lost
  obtain ⟨tags, counts, itemCapacity, dataCapacity⟩ := of_decide_eq_true (Option.some.inj supported)
  refine ⟨b, ?_, ⟨tags, counts, itemCapacity, dataCapacity⟩, ?_⟩
  · simp only [overlapping, Option.bind_eq_bind, Option.bind_eq_some_iff] at is
    obtain ⟨b0, created, b1, first, b2, failed, second⟩ := is
    have layout : LayoutFits ((2 : UInt64).toNat % 2^32) (alignTo (8 : UInt64).toNat dataAlignment) := by
      unfold LayoutFits
      decide
    exact .call _ (.call _ (.call _ (.create 2 8 layout created) trivial first) trivial failed) trivial second
  · rintro ⟨data, b', items, encodes, decodes, before, after⟩
    apply lost
    simp only [Option.bind_some, before, Option.map_some, itemsAfterParcel, encodes, decodes, after,
      Option.bind_eq_bind, Option.pure_def]

end Peripheral.Metadata
