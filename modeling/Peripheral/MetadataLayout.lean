import Peripheral.MetadataApi

/-!
Where a buffer has room for what its header says: exactly while no sum of the layout reaches 2^32. An
object that grows within that limit has the same items as one that need not grow.
-/
namespace Peripheral.Metadata
open Peripheral.Bytes Peripheral.Tiling

/-! ### The layout of a new buffer -/

structure LaidOut (b : Block) (itemCapacity dataCapacity : Nat) : Prop where
  items : field b itemsStartAt + itemLen * itemCapacity ≤ field b dataStartAt
  data : field b dataStartAt + dataCapacity ≤ b.size

theorem write32_some {b b' : Block} {a v : Nat} (written : b.write32 a v = some b') : a + 4 ≤ b.size ∧ b'.size = b.size := by
  rw [Block.write32, Block.write] at written
  by_cases fits : a + 4 ≤ b.size
  · rw [if_pos fits] at written
    cases written
    exact ⟨fits, rfl⟩
  · rw [if_neg fits] at written
    cases written

theorem fillCameraMetadata_room {b b' : Block} {memoryRequired itemCapacity dataCapacity : Nat}
    (filled : fillCameraMetadata b memoryRequired itemCapacity dataCapacity = some b') : headerLength ≤ b.size := by
  simp only [fillCameraMetadata, Option.bind_eq_bind, Option.bind_eq_some_iff] at filled
  obtain ⟨b1, write1, b2, write2, b3, write3, b4, write4, b5, write5, b6, write6, b7, write7, _, -, _, -, write8⟩ := filled
  have sizes := (write32_some write1).2
  have size2 := (write32_some write2).2
  have size3 := (write32_some write3).2
  have size4 := (write32_some write4).2
  have size5 := (write32_some write5).2
  have size6 := (write32_some write6).2
  have size7 := (write32_some write7).2
  have room := (write32_some write8).1
  unfold dataStartAt at room
  unfold headerLength
  omega

theorem memoryRequired_eight (itemCapacity dataCapacity : Nat) :
    ∃ v, calculateCameraMetadataMemoryRequired itemCapacity dataCapacity = alignTo v 8 :=
  ⟨_, rfl⟩

/-- A new buffer is laid out as its header says exactly if no sum of the layout reaches 2^32. -/
theorem laidOut_iff (itemCapacity dataCapacity : UInt32) :
    (∃ b, allocateCameraMetadataBuffer itemCapacity.toNat dataCapacity.toNat = some b ∧
      LaidOut b itemCapacity.toNat dataCapacity.toNat) ↔ LayoutFits itemCapacity.toNat dataCapacity.toNat := by
  have items_lt := itemCapacity.toNat_lt
  constructor
  · rintro ⟨b, made, items, data⟩
    have room := fillCameraMetadata_room made
    obtain ⟨b', filled, size, -, -, -, itemsStart, -, -, dataStart, -⟩ :=
      fillCameraMetadata_spec room (calculateCameraMetadataMemoryRequired itemCapacity.toNat dataCapacity.toNat)
        itemCapacity.toNat dataCapacity.toNat
    cases made.symm.trans filled
    obtain ⟨v, required⟩ := memoryRequired_eight itemCapacity.toNat dataCapacity.toNat
    have whole := alignTo_eight_dvd v
    have below := alignTo_eight_lt v
    rw [itemsStart, dataStart, dataAlignment, alignTo_eight, Nat.mod_eq_of_lt items_lt] at items
    rw [dataStart, dataAlignment, alignTo_eight, Nat.mod_eq_of_lt items_lt, size, Block.zeroed, required] at data
    unfold LayoutFits
    unfold headerLength itemLen at *
    dsimp only at data
    omega
  · intro fits
    have required := memoryRequired_eq fits
    obtain ⟨b, made, rep⟩ := allocateCameraMetadataBuffer_spec fits
    refine ⟨b, made, ?_, ?_⟩
    · rw [rep.itemsStart, rep.dataStart, dataAt]
    · rw [rep.dataStart]
      exact rep.room

/-- With room for 2^28 entries the sizes wrap to those of a header alone. -/
theorem many_not_laidOut :
    ∃ b, allocateCameraMetadataBuffer (2 ^ 28) 0 = some b ∧ b.size = 32 ∧ field b itemCapacityAt = 2 ^ 28 ∧
      ¬ LaidOut b (2 ^ 28) 0 := by
  have required : calculateCameraMetadataMemoryRequired (2 ^ 28) 0 = 32 := by decide +kernel
  obtain ⟨b, made, size, -, -, itemCapacity, itemsStart, -, -, dataStart, -⟩ :=
    @fillCameraMetadata_spec (Block.zeroed 32) (Nat.le_refl 32) 32 (2 ^ 28) 0
  refine ⟨b, ?_, size, itemCapacity, fun laidOut => ?_⟩
  · rw [allocateCameraMetadataBuffer, required]
    exact made
  · have items := laidOut.items
    rw [itemsStart, dataStart] at items
    revert items
    decide +kernel

def totalPayload (b : Block) : Nat := ((entriesOf b).map Entry.payloadLength).sum

/-- A call of the object after which its payloads together stay below 2^27 bytes. -/
def Modest (b : Block) : ApiCall → Prop
  | .addEntry item _ dataCount => ∀ dataType, getCameraMetadataItemType item.toNat = some dataType →
    totalPayload b + payloadBytes dataType dataCount.toNat < 2^27
  | .updateEntry tag _ dataCount => ∀ i, findCameraMetadataItemIndex b tag.toNat = some (some i) →
    totalPayload b - (slot b i).payloadLength + payloadBytes (slot b i).dataType dataCount.toNat < 2^27
  | .operate _ => False

/-- A call that moves to another buffer only where no sum of its layout reaches 2^32. -/
def Roomy (b : Block) : ApiCall → Prop
  | .addEntry item data dataCount => ∀ ret b', addCameraMetadataItem b item.toNat data dataCount.toNat = some (ret, b') →
    (ret = .itemCapExceed ∨ ret = .dataCapExceed) → GrowthFits b item.toNat dataCount.toNat
  | _ => True

theorem Modest.clean {b : Block} {call : ApiCall} (modest : Modest b call) (roomy : Roomy b call) : CleanCall b call := by
  cases call with
  | addEntry item data dataCount => exact roomy
  | updateEntry tag data dataCount =>
    rintro i found ⟨-, -, long, -⟩
    have small := modest i found
    have less :=
      Nat.mul_le_mul_right ((ohosCameraMetadataTypeSize (slot b i).dataType).getD 0) (Nat.mod_le dataCount.toNat (2^32))
    unfold payloadBytes at small
    unfold securecMemMaxLen at long
    omega
  | operate call => exact modest.elim

theorem Reachable.modest {b : Block} (reached : Reachable LayoutFits (fun b call => Modest b call ∧ Roomy b call) b) :
    Reachable LayoutFits CleanCall b := by
  induction reached with
  | create itemCapacity dataCapacity layout made => exact .create itemCapacity dataCapacity layout made
  | allocate itemCapacity dataCapacity layout made => exact .allocate itemCapacity dataCapacity layout made
  | call call _ ok executed ih => exact .call call ih (ok.1.clean ok.2) executed

namespace Store
variable {s : Store}

/-- Of payloads that are not empty there are as many as bytes at most, and they take twice their bytes at most. -/
theorem Tiled.bounds (tiled : s.Tiled) : s.entries.length ≤ (s.entries.map Entry.payloadLength).sum ∧
    s.dataCount ≤ 2 * (s.entries.map Entry.payloadLength).sum := by
  have sizes := tiled.tiles.sum
  rw [List.map_map] at sizes
  have each : ∀ e ∈ s.entries, 1 ≤ e.payloadLength ∧ (Interval.len ∘ Entry.interval) e ≤ 2 * e.payloadLength := by
    intro e member
    have ok := tiled.entriesOk e member
    obtain ⟨size, known⟩ := itemType_known ok.typed
    have positive : 0 < size := by have := typeSize_cases known; omega
    have some_ : 1 ≤ e.payloadLength := by
      rw [Entry.payloadLength, known, Option.getD_some]
      exact Nat.mul_pos ok.counted positive
    refine ⟨some_, ?_⟩
    change e.size ≤ _
    rw [ok.size_eq]
    split <;> omega
  clear tiled
  rw [← sizes]
  clear sizes
  generalize s.entries = entries at each
  induction entries with
  | nil => simp
  | cons e rest ih =>
    obtain ⟨length, area⟩ := ih fun f member => each f (List.mem_cons_of_mem _ member)
    obtain ⟨one, fits⟩ := each e List.mem_cons_self
    simp only [List.length_cons, List.map_cons, List.sum_cons]
    omega

theorem addItem_success {item dataType dataCount : Nat} {data : Mem} (typed : getCameraMetadataItemType item = some dataType)
    (some_ : dataCount ≠ 0) (small : payloadBytes dataType dataCount < 2^31) (free : s.entries.length ≠ s.itemCapacity)
    (fits : calculateCameraMetadataItemDataSize dataType dataCount + s.dataCount ≤ s.dataCapacity) :
    (s.addItem item (some data) dataCount).1 = .success := by
  obtain ⟨size, known⟩ := itemType_known typed
  have positive : 0 < size := by have := typeSize_cases known; omega
  rw [payloadBytes, known, Option.getD_some] at small
  have copied : securecOk (dataCount * size % 2^64) (dataCount * size % 2^64) := by
    rw [Nat.mod_eq_of_lt (by omega)]
    exact securecOk_iff.mpr ⟨Nat.mul_pos (by omega) positive, by unfold securecMemMaxLen; omega⟩
  simp only [addItem, typed, known, Option.getD_some, if_neg some_, if_neg free, if_neg (Nat.not_lt.mpr fits), copied, if_true]

theorem addEntry_success (tiled : s.Tiled) (itemsFit : s.entries.length ≤ s.itemCapacity)
    (dataFits : s.dataCount ≤ s.dataCapacity) {item : UInt32} {dataType : Nat} {data : Mem} {dataCount : UInt64}
    (typed : getCameraMetadataItemType item.toNat = some dataType) (some_ : dataCount.toNat ≠ 0)
    (modest : (s.entries.map Entry.payloadLength).sum + payloadBytes dataType dataCount.toNat < 2^27) :
    (s.addEntry item.toNat (some data) dataCount.toNat).1 = true ∧ (s.addEntry item.toNat (some data) dataCount.toNat).2.items =
        s.items ++ [⟨item.toNat, dataType, dataCount.toNat, bytes data (payloadBytes dataType dataCount.toNat)⟩] := by
  obtain ⟨few, short⟩ := tiled.bounds
  have small : ∀ type, getCameraMetadataItemType item.toNat = some type → payloadBytes type dataCount.toNat < 2^31 := by
    intro type its
    cases typed.symm.trans its
    omega
  have applied (l : List Item) : (Call.add item (some data) dataCount).apply l =
      l ++ [⟨item.toNat, dataType, dataCount.toNat, bytes data (payloadBytes dataType dataCount.toNat)⟩] := by
    simp only [Call.apply, typed]
  rw [addEntry]
  by_cases room : s.entries.length ≠ s.itemCapacity ∧
      calculateCameraMetadataItemDataSize dataType dataCount.toNat + s.dataCount ≤ s.dataCapacity
  · have success : (s.addItem item.toNat (some data) dataCount.toNat).1 = .success :=
      addItem_success typed some_ (small dataType typed) room.1 room.2
    rw [if_pos success]
    refine ⟨rfl, ?_⟩
    rw [addItem_items tiled small, if_pos success, applied]
  · have refused : s.addItem item.toNat (some data) dataCount.toNat = (.itemCapExceed, s) ∨
        s.addItem item.toNat (some data) dataCount.toNat = (.dataCapExceed, s) := by
      simp only [addItem, typed, if_neg some_]
      by_cases full : s.entries.length = s.itemCapacity
      · exact .inl (if_pos full)
      · rw [if_neg full]
        exact .inr (if_pos (Nat.not_le.mp fun fits => room ⟨full, fits⟩))
    have grown : s.addEntry item.toNat (some data) dataCount.toNat = s.resizeAdd item.toNat (some data) dataCount.toNat := by
      rw [addEntry]
      rcases refused with is | is <;> rw [is] <;> rfl
    rw [← addEntry, grown]
    simp only [resizeAdd, typed]
    have movable : ¬ (securecMemMaxLen < itemLen * s.entries.length ∨ securecMemMaxLen < s.dataCount) := by
      unfold securecMemMaxLen itemLen
      omega
    rw [if_neg movable]
    have larger : s.dataCapacity + calculateCameraMetadataItemDataSize dataType dataCount.toNat ≤
        (s.doubled dataType dataCount.toNat).2 := by
      unfold doubled
      dsimp only
      omega
    have bigger := grown_tiled tiled (s.doubled dataType dataCount.toNat).1 (s.doubled dataType dataCount.toNat).2
    have success : ((s.grown (s.doubled dataType dataCount.toNat).1
        (s.doubled dataType dataCount.toNat).2).addItem item.toNat (some data) dataCount.toNat).1 = .success := by
      refine addItem_success typed some_ (small dataType typed) ?_ ?_
      · change s.entries.length ≠ (s.itemCapacity + 1) * 2
        omega
      · change _ + s.dataCount ≤ (s.doubled dataType dataCount.toNat).2
        omega
    rw [if_pos success]
    refine ⟨rfl, ?_⟩
    rw [addItem_items bigger small, if_pos success, applied, grown_items tiled]

end Store

/-- An object of modest size takes every item of a known type behind the ones it has, in its buffer or in a larger one. -/
theorem addEntry_appends {b : Block} (reached : Reachable LayoutFits (fun b call => Modest b call ∧ Roomy b call) b)
    {item : UInt32}
    {dataType : Nat} (typed : getCameraMetadataItemType item.toNat = some dataType) (data : Mem) {dataCount : UInt64}
    (some_ : dataCount.toNat ≠ 0) (modest : Modest b (.addEntry item (some data) dataCount))
    (roomy : Roomy b (.addEntry item (some data) dataCount)) :
    ∃ b' items, addEntry b item.toNat (some data) dataCount.toNat = some (true, b') ∧ readItems b = some items ∧ readItems b' =
        some (items ++ [⟨item.toNat, dataType, dataCount.toNat, bytes data (payloadBytes dataType dataCount.toNat)⟩]) := by
  obtain ⟨s, rep, tiled, layout⟩ := reached.modest.represents
  have bound := modest dataType typed
  rw [totalPayload, rep.entriesOf_eq] at bound
  obtain ⟨success, items⟩ := Store.addEntry_success tiled rep.itemsFit rep.dataFits typed some_ bound
  obtain ⟨b1, added, -⟩ := rep.addCameraMetadataItem_spec item.toNat (some data) dataCount.toNat
  have fits := roomy _ b1 added
  unfold GrowthFits at fits
  rw [rep.itemCapacity, rep.dataCapacity] at fits
  obtain ⟨b', executed, rep'⟩ := rep.addEntry_spec item.toNat (some data) dataCount.toNat fits
  rw [success] at executed
  refine ⟨b', s.items, executed, rep.readItems_spec fun e member => rep.readable_of_tiled tiled member, ?_⟩
  rw [rep'.readItems_spec fun e member => rep'.readable_of_tiled (Store.addEntry_tiled tiled _ _ _) member, items]

/-- An object made without any room gets room for its first item. -/
theorem addEntry_appends_roomless :
    ∃ b b' items, cameraMetadata 0 0 = some b ∧ addEntry b 131072 (some fun _ => 1) 1 = some (true, b') ∧
      readItems b = some items ∧ readItems b' = some (items ++ [⟨131072, 4, 1, bytes (fun _ => 1) (payloadBytes 4 1)⟩]) := by
  have layout : LayoutFits ((0 : UInt64).toNat % 2^32) (alignTo (0 : UInt64).toNat dataAlignment) := by
    unfold LayoutFits; decide
  obtain ⟨b, made, rep⟩ := allocateCameraMetadataBuffer_spec layout
  have typed : getCameraMetadataItemType (131072 : UInt32).toNat = some 4 := by decide
  have modest : Modest b (.addEntry 131072 (some fun _ => 1) 1) := by
    intro dataType its
    cases typed.symm.trans its
    rw [totalPayload, rep.entriesOf_eq]
    decide
  have roomy : Roomy b (.addEntry 131072 (some fun _ => 1) 1) := by
    intro ret b' added failed dataType its
    cases typed.symm.trans its
    rw [rep.itemCapacity, rep.dataCapacity]
    unfold LayoutFits
    decide
  obtain ⟨b', items, appended, before, after⟩ :=
    addEntry_appends (.create 0 0 layout made) typed (fun _ => 1) (by decide) modest roomy
  exact ⟨b, b', items, made, appended, before, after⟩

/-- An object made with room for 2^28 items has no memory for its first one. -/
theorem many_not_appends : ∃ b, cameraMetadata (2^28) 0 = some b ∧ totalPayload b = 0 ∧ getCameraMetadataItemType 0 = some 0 ∧
      addEntry b 0 (some fun _ => 7) 1 = none := by
  cases made : cameraMetadata (2^28) 0 with
  | none => exact absurd made (Option.isSome_iff_ne_none.mp (by decide +kernel))
  | some b =>
    have total : (cameraMetadata (2^28) 0).map totalPayload = some 0 := by decide +kernel
    have added : ((cameraMetadata (2^28) 0).bind fun b => addEntry b 0 (some fun _ => 7) 1).isNone := by decide +kernel
    rw [made] at total added
    exact ⟨b, rfl, Option.some.inj total, by decide, Option.isNone_iff_eq_none.mp added⟩

end Peripheral.Metadata
