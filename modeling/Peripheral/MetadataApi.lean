import Peripheral.MetadataItems

/-!
The `CameraMetadata` object over its whole life: the constructor, `addEntry` with
the move to a larger buffer, `updateEntry`, and the operations on the buffer
itself. What every state reached that way has in common, as long as no size
wraps and no call fails with its work half done.
-/
namespace Peripheral.Metadata
open Peripheral.Bytes Peripheral.Tiling Option

namespace Store
variable {s : Store}

def grown (s : Store) (itemCapacity dataCapacity : Nat) : Store :=
  ⟨itemCapacity, dataCapacity, s.entries, s.dataCount, patch (fun _ => 0) 0 s.dataCount s.data⟩

theorem grown_tiled (tiled : s.Tiled) (itemCapacity dataCapacity : Nat) : (s.grown itemCapacity dataCapacity).Tiled :=
  ⟨tiled.entriesOk, tiled.tiles⟩

theorem grown_items (tiled : s.Tiled) (itemCapacity dataCapacity : Nat) :
    (s.grown itemCapacity dataCapacity).items = s.items := by
  apply List.map_congr_left
  intro e member
  have kept : (s.grown itemCapacity dataCapacity).payload e = s.payload e := by
    apply payload_congr tiled _ member
    intro x below
    simp only [grown]
    rw [patch_inside (by omega) (by omega), Nat.sub_zero]
  simp only [itemOf, kept]

/-- The capacities `resize_add_metadata` asks for. -/
def doubled (s : Store) (dataType dataCount : Nat) : Nat × Nat :=
  ((s.itemCapacity + 1) * 2,
    ((s.dataCapacity + calculateCameraMetadataItemDataSize dataType dataCount) * 2 + 7) / 8 * 8)

def resizeAdd (s : Store) (item : Nat) (data : Option Mem) (dataCount : Nat) : Bool × Store :=
  match getCameraMetadataItemType item with
  | none => (false, s)
  | some dataType =>
    if securecMemMaxLen < itemLen * s.entries.length ∨ securecMemMaxLen < s.dataCount then (false, s)
    else
      let added := (s.grown (s.doubled dataType dataCount).1 (s.doubled dataType dataCount).2).addItem item data dataCount
      if added.1 = .success then (true, added.2) else (false, s)

def addEntry (s : Store) (item : Nat) (data : Option Mem) (dataCount : Nat) : Bool × Store :=
  let added := s.addItem item data dataCount
  if added.1 = .success then (true, added.2)
  else if added.1 ≠ .itemCapExceed ∧ added.1 ≠ .dataCapExceed then (false, added.2)
  else added.2.resizeAdd item data dataCount

theorem addEntry_tiled (tiled : s.Tiled) (item : Nat) (data : Option Mem) (dataCount : Nat) :
    (s.addEntry item data dataCount).2.Tiled := by
  have added := addItem_tiled tiled item data dataCount
  unfold addEntry
  simp only
  split
  · exact added
  · split
    · exact added
    · unfold resizeAdd
      split
      · exact added
      · simp only
        split
        · exact added
        · split
          · exact addItem_tiled (grown_tiled added _ _) item data dataCount
          · exact added

/-- The capacities stay, or become the doubled ones. -/
theorem addEntry_layout (layout : LayoutFits s.itemCapacity s.dataCapacity) (item : Nat) (data : Option Mem) (dataCount : Nat)
    (fits : (s.addItem item data dataCount).1 = .itemCapExceed ∨ (s.addItem item data dataCount).1 = .dataCapExceed →
      ∀ dataType, getCameraMetadataItemType item = some dataType →
        LayoutFits (s.doubled dataType dataCount).1 (s.doubled dataType dataCount).2) :
    LayoutFits (s.addEntry item data dataCount).2.itemCapacity (s.addEntry item data dataCount).2.dataCapacity := by
  have kept : LayoutFits (s.addItem item data dataCount).2.itemCapacity (s.addItem item data dataCount).2.dataCapacity := by
    rw [(s.addItem_capacities item data dataCount).1, (s.addItem_capacities item data dataCount).2]
    exact layout
  unfold addEntry
  simp only
  split
  · exact kept
  · rename_i failed
    split
    · exact kept
    · rename_i capacity
      rcases s.addItem_cases item data dataCount with ⟨_, same⟩ | ⟨_, _, _, _, _, _, _, success⟩
      · rw [same]
        unfold resizeAdd
        split
        · exact layout
        · rename_i dataType type
          simp only
          split
          · exact layout
          · split
            · rw [(addItem_capacities _ item data dataCount).1, (addItem_capacities _ item data dataCount).2]
              refine fits ?_ dataType type
              by_contra neither
              exact capacity (not_or.mp neither)
            · exact layout
      · exact absurd (by rw [success]) failed

end Store

theorem copyBlock_spec (dst src : Block) (dest source length : Nat) (readable : source + length ≤ src.size)
    (writable : dest + length ≤ dst.size) (short : length ≤ securecMemMaxLen) :
    ∃ b', copyBlock dst src dest source length = some (.success, b') ∧
      dst.write dest length (offset src.byte source) = some b' := by
  refine ⟨_, ?_, Block.write_inside writable⟩
  unfold copyBlock
  by_cases none : length = 0
  · subst none
    simp only [if_true, patch_zero]
  · have copied : securecOk length length := Store.securecOk_iff.mpr ⟨by omega, short⟩
    rw [if_neg none, if_pos copied]
    simp only [Block.read, if_pos readable, bind_eq_bind, bind_some, pure_def, Block.write_inside writable, patch_read]

theorem copyBlock_fails {dst src : Block} {dest source length : Nat} (long : securecMemMaxLen < length) :
    copyBlock dst src dest source length = some (.failure, dst) := by
  have refused : ¬ securecOk length length := by rw [Store.securecOk_iff]; omega
  unfold copyBlock
  rw [if_neg (by omega), if_neg refused]

namespace Represents
variable {b b' : Block} {s : Store} {itemCapacity dataCapacity : Nat} (old : Represents b s)
  (new : Represents b' ⟨itemCapacity, dataCapacity, [], 0, fun _ => 0⟩)
  (items : s.entries.length ≤ itemCapacity) (short : itemLen * s.entries.length ≤ securecMemMaxLen)
include old new items short

theorem copy_array : ∃ b1, copyBlock b' b headerLength headerLength (itemLen * s.entries.length) = some (.success, b1) ∧
    Represents b1 ⟨itemCapacity, dataCapacity, [], 0, fun _ => 0⟩ ∧ ∀ i < s.entries.length, slot b1 i = slot b i := by
  have room := new.room
  have oldRoom := old.room
  have fits := old.itemsFit
  simp only [dataAt] at room oldRoom
  have inside : headerLength + itemLen * s.entries.length ≤ dataAt itemCapacity := by unfold dataAt itemLen; omega
  obtain ⟨b1, copied, written⟩ := copyBlock_spec b' b headerLength headerLength (itemLen * s.entries.length)
    (by unfold itemLen at *; omega) (by unfold itemLen at *; omega) short
  obtain ⟨b2, written2, is, rep⟩ := new.write_array (offset b.byte headerLength) (a := headerLength)
    (n := itemLen * s.entries.length) (Nat.le_refl _) inside
  have same : b2 = b1 := some.inj (written2.symm.trans written)
  subst same
  refine ⟨b2, copied, rep, ?_⟩
  intro i counted
  rw [is]
  exact slot_copied (by unfold slotAt; omega) (by unfold slotAt itemLen; omega) (by unfold slotAt; omega)

/-- The copy of the entries and the data into an empty buffer. -/
theorem copyCameraMetadataItems_spec (data : s.dataCount ≤ dataCapacity) (shortData : s.dataCount ≤ securecMemMaxLen) :
    ∃ b3, copyCameraMetadataItems b' b = some (.success, b3) ∧ Represents b3 (s.grown itemCapacity dataCapacity) := by
  obtain ⟨b1, copy1, rep1, slots1⟩ := old.copy_array new items short
  have oldRoom := old.room
  have dataFits := old.dataFits
  have room := rep1.room
  obtain ⟨b2, copy2, written2⟩ := copyBlock_spec b1 b (dataAt itemCapacity) (dataAt s.itemCapacity) s.dataCount
    (by omega) (by simp only at room; omega) shortData
  obtain ⟨b2', written, rep2, slots2⟩ := rep1.write_data (offset b.byte (dataAt s.itemCapacity)) (o := 0)
    (n := s.dataCount) (by simp only; omega)
  have same : b2' = b2 := some.inj (written.symm.trans written2)
  subst same
  obtain ⟨b3, count3, rep3⟩ := rep2.write_itemCount (l := s.entries) items (by
    intro i e found
    have inside := (List.getElem?_eq_some_iff.mp found).1
    rw [slots2 i (by simp only; omega), slots1 i inside, old.entries found])
  obtain ⟨b4, count4, rep4, _⟩ := rep3.write_dataCount (v := s.dataCount) data
  refine ⟨b4, ?_, rep4.congr_data ?_⟩
  · have start : getMetadataItems b' 0 = some headerLength := new.read_items 0
    have oldStart : getMetadataItems b 0 = some headerLength := old.read_items 0
    have dataStart : getMetadataData b1 = some (dataAt itemCapacity) := rep1.read_dataStart
    simp only [copyCameraMetadataItems, old.read_itemCount, start, oldStart, copy1, onSuccess, bind_eq_bind,
      bind_some, if_true, old.read_dataCount, dataStart, old.read_dataStart, copy2, count3, count4, pure_def]
  · intro x _
    simp only
    by_cases inside : x < s.dataCount
    · rw [patch_inside (by omega) (by omega), patch_inside (by omega) (by omega), offset, Nat.sub_zero,
        old.data x (by omega)]
    · rw [patch_outside (by omega), patch_outside (by omega)]

omit items short in
theorem copyCameraMetadataItems_fails (items : s.entries.length ≤ itemCapacity)
    (long : securecMemMaxLen < itemLen * s.entries.length ∨ securecMemMaxLen < s.dataCount) :
    ∃ b3, copyCameraMetadataItems b' b = some (.failure, b3) := by
  have start : getMetadataItems b' 0 = some headerLength := new.read_items 0
  have oldStart : getMetadataItems b 0 = some headerLength := old.read_items 0
  by_cases longItems : securecMemMaxLen < itemLen * s.entries.length
  · refine ⟨b', ?_⟩
    simp only [copyCameraMetadataItems, old.read_itemCount, start, oldStart, copyBlock_fails longItems, onSuccess,
      bind_eq_bind, bind_some, reduceCtorEq, if_false]
  · obtain ⟨b1, copy1, rep1, _⟩ := old.copy_array new items (by omega)
    have dataStart : getMetadataData b1 = some (dataAt itemCapacity) := rep1.read_dataStart
    refine ⟨b1, ?_⟩
    simp only [copyCameraMetadataItems, old.read_itemCount, start, oldStart, copy1, onSuccess, bind_eq_bind,
      bind_some, if_true, old.read_dataCount, dataStart, old.read_dataStart,
      copyBlock_fails (show securecMemMaxLen < s.dataCount by omega), reduceCtorEq, if_false]

end Represents

namespace Represents
variable {b : Block} {s : Store}

theorem resizeAddMetadata_spec (rep : Represents b s) (item : Nat) (data : Option Mem) (dataCount : Nat)
    (fits : ∀ dataType, getCameraMetadataItemType item = some dataType →
      LayoutFits (s.doubled dataType dataCount).1 (s.doubled dataType dataCount).2) :
    ∃ b', resizeAddMetadata b item data dataCount = some ((s.resizeAdd item data dataCount).1, b') ∧
      Represents b' (s.resizeAdd item data dataCount).2 := by
  cases type : getCameraMetadataItemType item with
  | none =>
    refine ⟨b, ?_, ?_⟩
    · simp [resizeAddMetadata, Store.resizeAdd, type, rep.read_itemCapacity, rep.read_dataCapacity]
    · simpa [Store.resizeAdd, type] using rep
  | some dataType =>
    have fits := fits dataType type
    have itemsFit := rep.itemsFit
    have dataFits := rep.dataFits
    obtain ⟨b0, allocated, empty⟩ := allocateCameraMetadataBuffer_spec fits
    have doubledItems : (s.doubled dataType dataCount).1 = (s.itemCapacity + 1) * 2 := rfl
    have doubledData : (s.doubled dataType dataCount).2 =
      ((s.dataCapacity + calculateCameraMetadataItemDataSize dataType dataCount) * 2 + 7) / 8 * 8 := rfl
    unfold LayoutFits headerLength itemLen at fits
    have start : resizeAddMetadata b item data dataCount =
        (copyCameraMetadataItems b0 b).bind fun copied =>
          if copied.1 ≠ .success then some (false, b) else
          (addCameraMetadataItem copied.2 item data dataCount).bind fun added =>
            if added.1 ≠ .success then some (false, b) else some (true, added.2) := by
      have items : (s.itemCapacity + 1) * indexCounter % 2^32 = (s.doubled dataType dataCount).1 := by
        unfold indexCounter
        exact Nat.mod_eq_of_lt (by omega)
      have aligned : alignTo ((s.dataCapacity + calculateCameraMetadataItemDataSize dataType dataCount) * indexCounter)
          dataAlignment = (s.doubled dataType dataCount).2 := by
        unfold indexCounter dataAlignment
        exact alignTo_eight_small (by omega)
      simp only [resizeAddMetadata, type, rep.read_itemCapacity, rep.read_dataCapacity, bind_eq_bind,
        bind_some, items, aligned, allocated, pure_def]
    rw [start]
    simp only [Store.resizeAdd, type]
    by_cases long : securecMemMaxLen < itemLen * s.entries.length ∨ securecMemMaxLen < s.dataCount
    · obtain ⟨b1, failed⟩ := rep.copyCameraMetadataItems_fails empty (by omega) long
      refine ⟨b, ?_, by simpa [long] using rep⟩
      simp [failed, long]
    · obtain ⟨b1, copied, rep1⟩ := rep.copyCameraMetadataItems_spec empty (by omega) (by omega) (by omega) (by omega)
      obtain ⟨b2, added, rep2⟩ := rep1.addCameraMetadataItem_spec item data dataCount
      simp only [if_neg long, copied, bind_some, ne_eq, not_true_eq_false, if_false, added]
      generalize (s.grown _ _).addItem item data dataCount = result at rep2 ⊢
      by_cases done : result.1 = .success
      · exact ⟨b2, by simp [done], by simpa [done] using rep2⟩
      · exact ⟨b, by simp [done], by simpa [done] using rep⟩

theorem addEntry_spec (rep : Represents b s) (item : Nat) (data : Option Mem) (dataCount : Nat)
    (fits : (s.addItem item data dataCount).1 = .itemCapExceed ∨ (s.addItem item data dataCount).1 = .dataCapExceed →
      ∀ dataType, getCameraMetadataItemType item = some dataType →
        LayoutFits (s.doubled dataType dataCount).1 (s.doubled dataType dataCount).2) :
    ∃ b', addEntry b item data dataCount = some ((s.addEntry item data dataCount).1, b') ∧
      Represents b' (s.addEntry item data dataCount).2 := by
  obtain ⟨b1, added, rep1⟩ := rep.addCameraMetadataItem_spec item data dataCount
  simp only [addEntry, added, Store.addEntry, bind_eq_bind, bind_some, pure_def]
  split
  · exact ⟨b1, rfl, rep1⟩
  · rename_i failed
    split
    · exact ⟨b1, rfl, rep1⟩
    · rename_i capacity
      -- An addition that fails leaves the store as it is, so the capacities are the old ones.
      rcases s.addItem_cases item data dataCount with ⟨_, same⟩ | ⟨_, _, _, _, _, _, _, success⟩
      · rw [same] at rep1 ⊢
        refine rep1.resizeAddMetadata_spec item data dataCount (fits ?_)
        by_contra neither
        exact capacity (not_or.mp neither)
      · exact absurd (by rw [success]) failed

end Represents

/-- A call on a `CameraMetadata` object, or one of the operations on its buffer. -/
inductive ApiCall
  | addEntry (item : UInt32) (data : Option Mem) (dataCount : UInt64)
  | updateEntry (tag : UInt32) (data : Option Mem) (dataCount : UInt64)
  | operate (call : Call)

def ApiCall.perform (b : Block) : ApiCall → Option Block
  | .addEntry item data dataCount => (Metadata.addEntry b item.toNat data dataCount.toNat).map Prod.snd
  | .updateEntry tag data dataCount => (Metadata.updateEntry b tag.toNat data dataCount.toNat).map Prod.snd
  | .operate call => (Metadata.perform b call).map Prod.snd

/-- The buffer an addition moves to has no layout sum that reaches 2^32. -/
def GrowthFits (b : Block) (item : Nat) (dataCount : Nat) : Prop :=
  ∀ dataType, getCameraMetadataItemType item = some dataType →
    LayoutFits ((field b itemCapacityAt + 1) * 2)
      (((field b dataCapacityAt + calculateCameraMetadataItemDataSize dataType dataCount) * 2 + 7) / 8 * 8)

/-- An update of the entry at `i` that takes the old data away and then cannot copy the new one. -/
def LateUpdate (b : Block) (i : Nat) (data : Option Mem) (dataCount : Nat) : Prop :=
  data.isSome ∧ i < field b itemCountAt ∧
    securecMemMaxLen < dataCount * (ohosCameraMetadataTypeSize (slot b i).dataType).getD 0 ∧
    calculateCameraMetadataItemDataSize (slot b i).dataType dataCount ≠ (slot b i).size ∧
    field b dataCountAt + calculateCameraMetadataItemDataSize (slot b i).dataType dataCount - (slot b i).size ≤
      field b dataCapacityAt ∧
    ((slot b i).size ≠ 0 → field b dataCountAt - (slot b i).data - (slot b i).size ≤ securecMemMaxLen)

/-- A call whose sizes do not wrap and which, if it fails, fails before it changes anything. -/
def CleanCall (b : Block) : ApiCall → Prop
  | .addEntry item data dataCount =>
    ∀ ret b', addCameraMetadataItem b item.toNat data dataCount.toNat = some (ret, b') →
      (ret = .itemCapExceed ∨ ret = .dataCapExceed) → GrowthFits b item.toNat dataCount.toNat
  | .updateEntry tag data dataCount =>
    ∀ i, findCameraMetadataItemIndex b tag.toNat = some (some i) → ¬ LateUpdate b i data (dataCount.toNat % 2^32)
  | .operate call@(.update _ data dataCount) | .operate call@(.updateByIndex _ data dataCount) =>
    ∀ i, target b call = some i → ¬ LateUpdate b i data dataCount.toNat
  | .operate call => ¬ Immovable b call

/-- The buffers of objects, when the layouts at creation satisfy `fits` and the calls satisfy `clean`. -/
inductive Reachable (fits : Nat → Nat → Prop) (clean : Block → ApiCall → Prop) : Block → Prop
  | create (itemCapacity dataCapacity : UInt64) {b : Block}
      (layout : fits (itemCapacity.toNat % 2^32) (alignTo dataCapacity.toNat dataAlignment))
      (made : cameraMetadata itemCapacity.toNat dataCapacity.toNat = some b) : Reachable fits clean b
  | allocate (itemCapacity dataCapacity : UInt32) {b : Block} (layout : fits itemCapacity.toNat dataCapacity.toNat)
      (made : allocateCameraMetadataBuffer itemCapacity.toNat dataCapacity.toNat = some b) : Reachable fits clean b
  | call {b b' : Block} (call : ApiCall) (before : Reachable fits clean b) (ok : clean b call)
      (executed : call.perform b = some b') : Reachable fits clean b'

namespace Represents
variable {b : Block} {s : Store}

theorem updateClean_of_not_late (rep : Represents b s) {i dataCount : Nat} {data : Option Mem}
    (notLate : ¬ LateUpdate b i data dataCount) (given : data.isSome) : s.UpdateClean i dataCount := by
  intro e found
  have inside := (List.getElem?_eq_some_iff.mp found).1
  unfold LateUpdate at notLate
  rw [rep.entries found, rep.itemCount, rep.dataCount, rep.dataCapacity] at notLate
  unfold Store.resized Store.tail
  by_contra dirty
  simp only [not_or, not_and, Nat.not_le, Nat.not_lt] at dirty
  exact notLate ⟨given, inside, dirty.1, dirty.2.1, dirty.2.2.1, dirty.2.2.2⟩

theorem callClean_of_clean (rep : Represents b s) {call : Call} (clean : CleanCall b (.operate call)) : s.CallClean call := by
  cases call with
  | add => trivial
  | update item data dataCount =>
    intro given i found
    exact rep.updateClean_of_not_late (clean i (by rw [target, rep.target_index, found])) given
  | updateByIndex index data dataCount => exact rep.updateClean_of_not_late (clean index.toNat rfl)
  | delete item =>
    intro i found
    exact rep.deleteClean (fun blocked => clean ⟨i, by rw [target, rep.target_index, found], blocked⟩)
  | deleteByIndex index => exact rep.deleteClean (fun blocked => clean ⟨index.toNat, rfl, blocked⟩)

theorem api_spec (rep : Represents b s) (tiled : s.Tiled) (layout : LayoutFits s.itemCapacity s.dataCapacity)
    {call : ApiCall} (clean : CleanCall b call) :
    ∃ b' s', call.perform b = some b' ∧ Represents b' s' ∧ s'.Tiled ∧ LayoutFits s'.itemCapacity s'.dataCapacity := by
  cases call with
  | addEntry item data dataCount =>
    obtain ⟨b1, added, _⟩ := rep.addCameraMetadataItem_spec item.toNat data dataCount.toNat
    have fits := clean _ b1 added
    unfold GrowthFits at fits
    rw [rep.itemCapacity, rep.dataCapacity] at fits
    obtain ⟨b', executed, rep'⟩ := rep.addEntry_spec item.toNat data dataCount.toNat fits
    exact ⟨b', _, by simp only [ApiCall.perform, executed, map_some], rep',
      Store.addEntry_tiled tiled item.toNat data dataCount.toNat,
      Store.addEntry_layout layout item.toNat data dataCount.toNat fits⟩
  | updateEntry tag data dataCount =>
    cases found : s.find tag.toNat with
    | none =>
      refine ⟨b, s, ?_, rep, tiled, layout⟩
      simp [ApiCall.perform, updateEntry, findCameraMetadataItem, rep.findCameraMetadataItemIndex_spec, found]
    | some i =>
      have inside := Store.find_lt found
      have entry := List.getElem?_eq_getElem inside
      have notLate := clean i (by rw [rep.findCameraMetadataItemIndex_spec, found])
      obtain ⟨b', executed, rep'⟩ := rep.updateCameraMetadataItemByIndex_spec tiled i data
        (Nat.mod_lt dataCount.toNat (show 2^32 > 0 by decide)) (rep.updateClean_of_not_late notLate)
      have capacities := s.updateAt_capacities i data (dataCount.toNat % 2^32)
      refine ⟨b', _, ?_, rep', Store.updateAt_tiled tiled _ _ _, by rw [capacities.1, capacities.2]; exact layout⟩
      simp only [ApiCall.perform, updateEntry, findCameraMetadataItem, rep.findCameraMetadataItemIndex_spec, found,
        rep.getCameraMetadataItem_spec entry, bind_eq_bind, bind_some, executed, pure_def, map_some]
  | operate call =>
    obtain ⟨b', executed, rep'⟩ := rep.perform_spec tiled (rep.callClean_of_clean clean)
    have capacities := s.perform_capacities call
    exact ⟨b', _, by simp only [ApiCall.perform, executed, map_some], rep', Store.perform_tiled tiled call,
      by rw [capacities.1, capacities.2]; exact layout⟩

end Represents

/-- What every state of an object has in common. -/
theorem Reachable.represents {b : Block} (reached : Reachable LayoutFits CleanCall b) :
    ∃ s, Represents b s ∧ s.Tiled ∧ LayoutFits s.itemCapacity s.dataCapacity := by
  induction reached with
  | create itemCapacity dataCapacity layout made =>
    obtain ⟨b, allocated, rep⟩ := allocateCameraMetadataBuffer_spec layout
    rw [cameraMetadata, allocated] at made
    cases made
    exact ⟨_, rep, empty_tiled _ _, layout⟩
  | allocate itemCapacity dataCapacity layout made =>
    obtain ⟨b, allocated, rep⟩ := allocateCameraMetadataBuffer_spec layout
    rw [allocated] at made
    cases made
    exact ⟨_, rep, empty_tiled _ _, layout⟩
  | call call _ clean executed ih =>
    obtain ⟨s, rep, tiled, layout⟩ := ih
    obtain ⟨b', s', ran, rep', tiled', layout'⟩ := rep.api_spec tiled layout clean
    rw [ran] at executed
    cases executed
    exact ⟨s', rep', tiled', layout'⟩

theorem one_long (itemCapacity : Nat) (some_ : 0 < itemCapacity) (layout : LayoutFits itemCapacity 8) :
    ∃ b s, Reachable LayoutFits CleanCall b ∧ Represents b s ∧ s.Tiled ∧ LayoutFits s.itemCapacity s.dataCapacity ∧
      s.itemCapacity = itemCapacity ∧ s.dataCapacity = 8 ∧ s.entries = [⟨131072, 4, 1, 0⟩] ∧ s.dataCount = 8 := by
  have small : itemCapacity < 2^32 := by unfold LayoutFits itemLen at layout; omega
  have wide : (UInt64.ofNat itemCapacity).toNat = itemCapacity := by
    rw [UInt64.toNat_ofNat']
    exact Nat.mod_eq_of_lt (by omega)
  have cut : (UInt64.ofNat itemCapacity).toNat % 2^32 = itemCapacity := by rw [wide, Nat.mod_eq_of_lt small]
  have aligned : alignTo (8 : UInt64).toNat dataAlignment = 8 := by decide
  obtain ⟨b, allocated, rep⟩ := allocateCameraMetadataBuffer_spec layout
  have made : cameraMetadata (UInt64.ofNat itemCapacity).toNat (8 : UInt64).toNat = some b := by
    rw [cameraMetadata, cut, aligned, allocated]
  have created : Reachable LayoutFits CleanCall b :=
    .create (UInt64.ofNat itemCapacity) 8 (by rw [cut, aligned]; exact layout) made
  have added := addLong_perform ⟨itemCapacity, 8, [], 0, fun _ => 0⟩ 1 some_ (Nat.le_refl _)
  have success : (Store.addItem ⟨itemCapacity, 8, [], 0, fun _ => 0⟩ 131072 (some (fun _ => 1)) 1).1 = .success :=
    congrArg Prod.fst added
  have clean : CleanCall b (.addEntry 131072 (some (fun _ => 1)) 1) := by
    intro ret b1 executed failed
    obtain ⟨b2, executed2, _⟩ := rep.addCameraMetadataItem_spec 131072 (some (fun _ => 1)) 1
    have same := (Prod.mk.inj (some.inj (executed.symm.trans executed2))).1
    rw [same, success] at failed
    simp at failed
  obtain ⟨b', executed, rep'⟩ := rep.addEntry_spec 131072 (some (fun _ => 1)) 1 (by rw [success]; simp)
  have tiled := Store.addEntry_tiled (empty_tiled itemCapacity 8) 131072 (some (fun _ => 1)) 1
  have is : Store.addEntry ⟨itemCapacity, 8, [], 0, fun _ => 0⟩ 131072 (some (fun _ => 1)) 1 =
      (true, (Store.perform ⟨itemCapacity, 8, [], 0, fun _ => 0⟩ (addLong 1)).2) := if_pos success
  have performed : ApiCall.perform b (.addEntry 131072 (some (fun _ => 1)) 1) = some b' :=
    congrArg (Option.map Prod.snd) executed
  rw [is, added] at rep' tiled
  exact ⟨b', _, .call _ created clean performed, rep', tiled, layout, rfl, rfl, rfl, rfl⟩

end Peripheral.Metadata
