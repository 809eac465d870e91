import Peripheral.MetadataParcel

/-!
Metadata in the messages of the HDI services, as `utils_data_stub.cpp` writes and
reads it. The message has no capacities, and the reader makes an object whose
data area has one byte for each item, rounded up to a multiple of eight.
-/
namespace Peripheral.Metadata
open Peripheral.Bytes Peripheral.Tiling List

namespace UtilsDataStub

/-- Nothing is written when the type is `uint32_t` or none of the seven. -/
def writeMetadata (src : Block) (entry : CameraMetadataItem) (data : Parcel) : Option Parcel :=
  match metaType entry.dataType with
  | some .uint32 | none => some data
  | some type => do
    let vector ← itemVector src entry type
    return data ++ [vector]

/-- The loop of `EncodeCameraMetadata` from `i` on. The code that is compared with the result of the search is
    none it returns, so that an entry that was not found is used as it is, without a value. -/
def encodeFrom (src : Block) (data : Parcel) (i : Nat) : Nat → Option Parcel
  | 0 => some data
  | remaining+1 => do
    let item ← getMetadataItems src i
    let tag ← src.read32 item
    let some entry ← findCameraMetadataItem src tag | none
    let data := data ++ [.uint32 entry.index, .uint32 entry.item, .uint8 (entry.dataType % 2^8), .uint32 entry.count]
    let data ← writeMetadata src entry data
    encodeFrom src data (i + 1) remaining

def encodeCameraMetadata (metadata : Block) (data : Parcel) : Option Parcel := do
  let tagCount ← metadata.read32 itemCountAt
  encodeFrom metadata (data ++ [.int32 tagCount]) 0 tagCount

/-- `ReadMetadata` and `EntryDataToBuffer`. -/
def readMetadata (fresh : Mem) (dataType count : Nat) (data : Parcel) : Option (Option Mem × Parcel) :=
  match metaType dataType with
  | some .uint32 | none => some (none, data)
  | some type => (takeVector fresh count type data).map fun (buffer, data) => (some buffer, data)

/-- The loop that reads the entries from `i` on. -/
def readEntrys (fresh : Nat → Mem) (data : Parcel) (i : Nat) : Nat → Option (List ParcelItem × Parcel)
  | 0 => some ([], data)
  | remaining+1 => do
    let (_, data) ← readUint32 data
    let (item, data) ← readUint32 data
    let (dataType, data) ← readUint8 data
    let (count, data) ← readUint32 data
    let (buffer, data) ← readMetadata (fresh i) dataType count data
    let (entrys, data) ← readEntrys fresh data (i + 1) remaining
    return (⟨item, count, buffer⟩ :: entrys, data)

/-- The loop that adds the entries that have a buffer; the return codes are not looked at. -/
def addEntrys (metadata : Block) : List ParcelItem → Option Block
  | [] => some metadata
  | entry :: entrys =>
    match entry.buffer with
    | none => addEntrys metadata entrys
    | some buffer => do
      let (_, metadata) ← addCameraMetadataItem metadata entry.item (some buffer) entry.count
      addEntrys metadata entrys

/-- No object when the count is not positive; the counted `metadataSize` is the number of entries. -/
def decodeCameraMetadata (fresh : Nat → Mem) (data : Parcel) : Option (Option Block × Parcel) := do
  let (tagCount, data) ← readInt32 data
  if tagCount = 0 ∨ 2^31 ≤ tagCount then return (none, data)
  let (entrys, data) ← readEntrys fresh data 0 tagCount
  let metadataSize := tagCount
  let metadata ← cameraMetadata tagCount metadataSize
  let metadata ← addEntrys metadata entrys
  return (some metadata, data)

def sections : List MetadataSection :=
  [.cameraProperties, .cameraSensor, .cameraSensorInfo, .cameraStatistics, .cameraControl, .deviceExposure,
    .deviceFocus, .deviceFlash, .deviceZoom, .streamAbility, .streamJpeg]

def tags : List Nat := sections.flatMap fun sec => (range (ohosItemInfo sec).length).map (sectionStart sec + ·)

theorem sectionStart_eq {number : Nat} {sec : MetadataSection} (is : getMetadataSection number = some sec) :
    sectionStart sec = number <<< 16 := by
  unfold getMetadataSection at is
  simp only [ite_eq_iff, Option.some.injEq, reduceCtorEq, and_false, or_false, false_or] at is
  obtain ⟨_, ⟨rfl, rfl⟩ | ⟨_, ⟨rfl, rfl⟩ | ⟨_, ⟨rfl, rfl⟩ | ⟨_, ⟨rfl, rfl⟩ | ⟨_, ⟨rfl, rfl⟩ | ⟨_, ⟨rfl, rfl⟩ | ⟨_,
    ⟨rfl, rfl⟩ | ⟨_, ⟨rfl, rfl⟩ | ⟨_, ⟨rfl, rfl⟩ | ⟨_, ⟨rfl, rfl⟩ | ⟨_, rfl, rfl⟩⟩⟩⟩⟩⟩⟩⟩⟩⟩⟩ := is <;> rfl

theorem mem_tags {item dataType : Nat} (typed : getCameraMetadataItemType item = some dataType) : item ∈ tags := by
  unfold getCameraMetadataItemType at typed
  split at typed
  · cases typed
  · rename_i sec is
    split at typed
    · cases typed
    · obtain ⟨type, listed, _⟩ := Option.map_eq_some_iff.mp typed
      have inside := (List.getElem?_eq_some_iff.mp listed).1
      have start := sectionStart_eq is
      have parts : item = sectionStart sec + (item &&& 0xFFFF) := by
        rw [start, Nat.shiftLeft_eq, Nat.shiftRight_eq_div_pow,
          show (0xFFFF : Nat) = 2^16 - 1 from rfl, Nat.and_two_pow_sub_one_eq_mod]
        omega
      refine mem_flatMap.mpr ⟨sec, by cases sec <;> decide, mem_map.mpr ⟨_, mem_range.mpr inside, ?_⟩⟩
      exact parts.symm

theorem length_le_of_nodup {items : List Item} (ok : ∀ y ∈ items, y.Ok) (distinct : (items.map Item.item).Nodup) :
    items.length ≤ 64 := by
  have listed : items.map Item.item ⊆ tags := by
    intro tag member
    obtain ⟨y, among, rfl⟩ := mem_map.mp member
    exact mem_tags (ok y among).typed
  have fewer := (subperm_of_subset distinct listed).length_le
  have all : tags.length = 64 := by decide
  rw [length_map, all] at fewer
  exact fewer

def wire (i : Nat) (y : Item) : Parcel :=
  [.uint32 i, .uint32 y.item, .uint8 y.dataType, .uint32 y.count, vector y.memory y.count y.type]

theorem type_listed {y : Item} (ok : y.Ok) : y.type ≠ .uint32 := by
  obtain ⟨type, is, _, listed⟩ := metaType_of_typed ok.typed
  rw [Item.type, is]
  exact listed

theorem dataType_small {y : Item} (ok : y.Ok) : y.dataType % 2^8 = y.dataType := by
  have inside := (List.getElem?_eq_some_iff.mp ok.metaType).1
  simp only [List.length_cons, List.length_nil] at inside
  omega

theorem find_of_nodup {s : Store} (distinct : (s.entries.map Entry.item).Nodup) {i : Nat} (inside : i < s.entries.length) :
    s.find s.entries[i].item = some i := by
  rw [Store.find, findIdx?_eq_some_iff_getElem]
  refine ⟨inside, by simp, ?_⟩
  intro j before
  have apart := pairwise_iff_getElem.mp distinct j i (by simp; omega) (by simpa using inside) before
  simpa using apart

section
variable {b : Block} {s : Store} (rep : Represents b s) (tiled : s.Tiled)
include rep tiled

theorem writeMetadata_spec {i : Nat} (inside : i < s.entries.length) :
    ∃ entry, getCameraMetadataItem b i = some (some entry) ∧ entry.index = i ∧ entry.item = s.entries[i].item ∧
      entry.dataType = s.entries[i].dataType ∧ entry.count = s.entries[i].count ∧ ∀ data,
      writeMetadata b entry data = some (data ++
        [vector (s.itemOf s.entries[i]).memory s.entries[i].count (s.itemOf s.entries[i]).type]) := by
  have ok := tiled.items_ok _ (mem_map_of_mem (getElem_mem inside))
  obtain ⟨entry, got, index, tag, dataType, count, written⟩ := rep.itemVector_spec tiled (getElem?_eq_getElem inside)
  refine ⟨entry, got, index, tag, dataType, count, fun data => ?_⟩
  have type : metaType entry.dataType = some (s.itemOf s.entries[i]).type := by rw [dataType]; exact ok.metaType
  have listed := type_listed ok
  unfold writeMetadata
  rw [type]
  generalize (s.itemOf s.entries[i]).type = type at written listed
  cases type with
  | uint32 => exact absurd rfl listed
  | byte | int32 | float | int64 | double | rational =>
    simp only [written, Option.bind_eq_bind, Option.bind_some, Option.pure_def]

theorem encodeFrom_spec (distinct : (s.entries.map Entry.item).Nodup) (data : Parcel) (i remaining : Nat)
    (rest : i + remaining = s.entries.length) :
    encodeFrom b data i remaining = some (data ++ wires wire i (s.items.drop i)) := by
  induction remaining generalizing i data with
  | zero =>
    rw [drop_of_length_le (by simp only [Store.items, length_map]; omega)]
    simp [encodeFrom, wires]
  | succ remaining ih =>
    have inside : i < s.entries.length := by omega
    have listed : i < s.items.length := by simpa [Store.items] using inside
    have here : s.items[i] = s.itemOf s.entries[i] := by simp [Store.items]
    have ok := tiled.items_ok _ (getElem_mem listed)
    rw [here] at ok
    have small : s.entries[i].dataType % 2^8 = s.entries[i].dataType := dataType_small ok
    obtain ⟨entry, got, index, tag, dataType, count, written⟩ := writeMetadata_spec rep tiled inside
    have found : findCameraMetadataItem b s.entries[i].item = some (some entry) := by
      simp only [findCameraMetadataItem, rep.findCameraMetadataItemIndex_spec, find_of_nodup distinct inside,
        Option.bind_eq_bind, Option.bind_some, got]
    simp only [encodeFrom, rep.read_items, rep.read_item (getElem?_eq_getElem inside), found, Option.bind_eq_bind,
      Option.bind_some, written, index, tag, dataType, count, small]
    rw [ih _ (i + 1) (by omega), drop_eq_getElem_cons listed, here]
    simp only [wires, wire, append_assoc, cons_append, nil_append]
    rfl

theorem encodeCameraMetadata_spec (distinct : (s.entries.map Entry.item).Nodup) (data : Parcel) :
    encodeCameraMetadata b data = some (data ++ ([.int32 s.items.length] ++ wires wire 0 s.items)) := by
  simp only [encodeCameraMetadata, rep.read_itemCount, Option.bind_eq_bind, Option.bind_some,
    encodeFrom_spec rep tiled distinct _ 0 s.entries.length (Nat.zero_add _), drop_zero, append_assoc, Store.items, length_map]

end

theorem readMetadata_vector (fresh : Mem) {y : Item} (ok : y.Ok) (data : Parcel) :
    readMetadata fresh y.dataType y.count (vector y.memory y.count y.type :: data) =
      Metadata.readMetadata fresh y.dataType y.count (vector y.memory y.count y.type :: data) := by
  have listed := type_listed ok
  unfold readMetadata Metadata.readMetadata
  rw [ok.metaType]
  generalize y.type = type at listed
  cases type with
  | uint32 => exact absurd rfl listed
  | byte | int32 | float | int64 | double | rational => rfl

theorem readEntrys_wires (fresh : Nat → Mem) (data : Parcel) {items : List Item} (ok : ∀ y ∈ items, y.Ok) (i : Nat) :
    ∃ l, readEntrys fresh (wires wire i items ++ data) i items.length = some (l, data) ∧
      List.Forall₂ Item.CarriedBy items l := by
  induction items generalizing i with
  | nil => exact ⟨[], rfl, .nil⟩
  | cons y items ih =>
    obtain ⟨l, rest, carried⟩ := ih (fun z member => ok z (by simp [member])) (i + 1)
    obtain ⟨m, taken, payload⟩ := Metadata.readMetadata_vector (fresh i) (ok y (by simp))
      (wires wire (i + 1) items ++ data)
    rw [← readMetadata_vector (fresh i) (ok y (by simp))] at taken
    refine ⟨⟨y.item, y.count, some m⟩ :: l, ?_, .cons ⟨rfl, rfl, m, rfl, payload⟩ carried⟩
    simp only [wires, wire, cons_append, nil_append, length_cons, readEntrys, readUint32, readUint8,
      Option.bind_eq_bind, Option.bind_some, taken, rest, Option.pure_def]

/-- Skipping an entry without a buffer is as good as trying to add it. -/
theorem addEntrys_eq (metadata : Block) (l : List ParcelItem) : addEntrys metadata l = addParcelItems metadata l := by
  induction l generalizing metadata with
  | nil => rfl
  | cons p l ih =>
    obtain ⟨item, count, buffer⟩ := p
    cases buffer with
    | none =>
      have refused : addCameraMetadataItem metadata item none count = some (.invalidParam, metadata) := by
        simp [addCameraMetadataItem]
      simp only [addEntrys, addParcelItems, refused, Option.bind_eq_bind, Option.bind_some]
      exact ih metadata
    | some m => simp only [addEntrys, addParcelItems, ih]

/-- What is read back from the message has the same items. -/
def RoundTrips (fresh : Nat → Mem) (b : Block) : Prop :=
  ∃ data b' rest items, encodeCameraMetadata b [] = some data ∧
    decodeCameraMetadata fresh data = some (some b', rest) ∧ readItems b = some items ∧ readItems b' = some items

section
variable {b : Block} {s : Store} (rep : Represents b s) (tiled : s.Tiled) (some_ : 0 < s.items.length)
  (distinct : (s.entries.map Entry.item).Nodup)
include rep tiled some_ distinct

/-- What is read back are the entries that fitted into the new object. -/
theorem decodeCameraMetadata_spec (fresh : Nat → Mem) :
    ∃ data l b', encodeCameraMetadata b [] = some data ∧ decodeCameraMetadata fresh data = some (some b', []) ∧
      List.Forall₂ Item.CarriedBy s.items l ∧
      Represents b' (Store.addAll ⟨s.items.length, alignTo s.items.length 8, [], 0, fun _ => 0⟩ l) := by
  have tags : (s.items.map Item.item).Nodup := by
    rw [Store.items, map_map]
    exact distinct
  have few := length_le_of_nodup tiled.items_ok tags
  have aligned : alignTo s.items.length 8 = (s.items.length + 7) / 8 * 8 := alignTo_eight_small (by omega)
  have layout : LayoutFits s.items.length (alignTo s.items.length 8) := by
    rw [aligned]
    unfold LayoutFits headerLength itemLen
    omega
  obtain ⟨l, taken, carried⟩ := readEntrys_wires fresh [] tiled.items_ok 0
  obtain ⟨metadata, allocated, empty⟩ := allocateCameraMetadataBuffer_spec layout
  have made : cameraMetadata s.items.length s.items.length = some metadata := by
    rw [cameraMetadata, Nat.mod_eq_of_lt (by omega), dataAlignment, allocated]
  obtain ⟨b', added, rep'⟩ := empty.addParcelItems_spec l
  refine ⟨_, l, b', encodeCameraMetadata_spec rep tiled distinct [], ?_, carried, rep'⟩
  rw [append_nil] at taken
  simp only [decodeCameraMetadata, nil_append, cons_append, readInt32, Option.bind_eq_bind, Option.bind_some,
    if_neg (show ¬ (s.items.length = 0 ∨ 2^31 ≤ s.items.length) by omega), taken, made, addEntrys_eq, added,
    Option.pure_def]

theorem roundTrips_iff (fresh : Nat → Mem) : RoundTrips fresh b ↔ s.dataCount ≤ alignTo s.items.length 8 := by
  obtain ⟨data, l, b', encodes, decodes, carried, rep'⟩ := decodeCameraMetadata_spec rep tiled some_ distinct fresh
  have empty := empty_tiled s.items.length (alignTo s.items.length 8)
  have tiled' := Store.addAll_tiled empty l
  have capacities := Store.addAll_capacities ⟨s.items.length, alignTo s.items.length 8, [], 0, fun _ => 0⟩ l
  have read := rep.readItems_spec (fun e member => rep.readable_of_tiled tiled member)
  have read' := rep'.readItems_spec (fun e member => rep'.readable_of_tiled tiled' member)
  constructor
  · rintro ⟨data', b'', rest, items, encodes', decodes', before, after⟩
    rw [encodes] at encodes'
    cases encodes'
    rw [decodes] at decodes'
    cases decodes'
    rw [read] at before
    rw [read', ← before] at after
    -- The same items take as much of the new data area as of the old one.
    have sum := tiled'.sum_sizes
    rw [Option.some.inj after, tiled.sum_sizes] at sum
    have fits := rep'.dataFits
    rw [capacities.2, ← sum] at fits
    exact fits
  · intro room
    refine ⟨data, b', [], s.items, encodes, decodes, read, ?_⟩
    rw [read', Store.addAll_items empty carried tiled.items_ok (by simp [Store.items])
      (by rw [tiled.sum_sizes]; simpa using room)]
    rfl

end

/-- Non-empty objects with distinct tags survive the message exactly when their data takes no more bytes than one for
    each item, rounded up to a multiple of eight. -/
theorem roundTrips_iff_dataCount_le {b : Block} (fresh : Nat → Mem) (reached : Reachable LayoutFits CleanCall b)
    (some_ : 0 < field b itemCountAt) (distinct : ((entriesOf b).map Entry.item).Nodup) :
    RoundTrips fresh b ↔ field b dataCountAt ≤ alignTo (field b itemCountAt) dataAlignment := by
  obtain ⟨s, rep, tiled, _⟩ := reached.represents
  have count : s.items.length = s.entries.length := by simp [Store.items]
  rw [rep.itemCount] at some_
  rw [rep.entriesOf_eq] at distinct
  rw [rep.dataCount, rep.itemCount, ← count]
  exact roundTrips_iff rep tiled (by omega) distinct fresh

/-- An object with one item of one 64-bit number. -/
theorem roundTrips_one : ∃ b, Reachable LayoutFits CleanCall b ∧ 0 < field b itemCountAt ∧ RoundTrips (fun _ _ => 0) b := by
  obtain ⟨b, s, reached, rep, _, _, _, _, entries, dataCount⟩ := one_long 1 (by decide) (by unfold LayoutFits; decide)
  have one : field b itemCountAt = 1 := by rw [rep.itemCount, entries]; rfl
  refine ⟨b, reached, by rw [one]; decide, (roundTrips_iff_dataCount_le _ reached (by rw [one]; decide) ?_).mpr ?_⟩
  · rw [rep.entriesOf_eq, entries]
    decide
  · rw [rep.dataCount, dataCount, one]
    decide

def twoLongs : Option Block := do
  let b ← allocateCameraMetadataBuffer 1 16
  ApiCall.perform b (.operate (.add 131072 (some (fun _ => 1)) 2))

/-- The reader has no room for sixteen bytes. -/
theorem twoLongs_not_roundTrips :
    ∃ b, Reachable LayoutFits CleanCall b ∧ field b itemCountAt = 1 ∧ ((entriesOf b).map Entry.item).Nodup ∧
      ¬ RoundTrips (fun _ _ => 0) b := by
  have made : twoLongs.isSome := by decide
  obtain ⟨b, is⟩ := Option.isSome_iff_exists.mp made
  have fields : twoLongs.map (fun b => (field b itemCountAt, field b dataCountAt, (entriesOf b).map Entry.item)) =
      some (1, 16, [131072]) := by decide
  rw [is] at fields
  simp only [Option.map_some, Option.some.injEq, Prod.mk.injEq] at fields
  obtain ⟨one, sixteen, tag⟩ := fields
  have reached : Reachable LayoutFits CleanCall b := by
    simp only [twoLongs, Option.bind_eq_bind, Option.bind_eq_some_iff] at is
    obtain ⟨b0, allocated, added⟩ := is
    have clean : CleanCall b0 (.operate (.add 131072 (some (fun _ => 1)) 2)) := id
    exact .call _ (.allocate 1 16 (by unfold LayoutFits; decide) allocated) clean added
  have distinct : ((entriesOf b).map Entry.item).Nodup := by rw [tag]; decide
  refine ⟨b, reached, one, distinct, ?_⟩
  obtain ⟨s, rep, tiled, _⟩ := reached.represents
  have length : s.items.length = 1 := by rw [← one, rep.itemCount]; simp [Store.items]
  rw [rep.entriesOf_eq] at distinct
  rw [roundTrips_iff rep tiled (by omega) distinct, ← rep.dataCount, sixteen, length]
  decide

end UtilsDataStub
end Peripheral.Metadata
