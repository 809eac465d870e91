import Peripheral.MetadataRefine

/-!
Runs of calls on a metadata buffer. The items read back after a run are the ones a
list has after the same calls, and the data area stays tiled, as long as no
deletion takes the data of an entry away and then cannot move the entries behind
it: it fails then, with the data already gone.
-/
namespace Peripheral.Metadata
open Peripheral.Bytes Peripheral.Tiling Store
open Option (bind_eq_bind bind_some pure_def getD_some some.injEq some.inj)

def readItem (src : Block) (index : Nat) : Option Item := do
  let some item ← getCameraMetadataItem src index | none
  let size ← ohosCameraMetadataTypeSize item.dataType
  let payload ← src.read item.data (item.count * size)
  return ⟨item.item, item.dataType, item.count, payload⟩

/-- All items, `GetCameraMetadataItem` for every index below `item_count`. -/
def readItems (src : Block) : Option (List Item) := do
  let itemCount ← src.read32 itemCountAt
  (List.range itemCount).mapM (readItem src)

def Store.Readable (s : Store) (e : Entry) : Prop :=
  (ohosCameraMetadataTypeSize e.dataType).isSome ∧
    if e.size = 0 then e.payloadLength ≤ 4 else e.data + e.payloadLength ≤ s.dataCapacity

theorem mapM_of_map {α β : Type} {l : List α} {f : α → Option β} {r : List β} (same : l.map f = r.map some) :
    l.mapM f = some r := by
  induction l generalizing r with
  | nil => cases r with
    | nil => rfl
    | cons => cases same
  | cons x l ih => cases r with
    | nil => cases same
    | cons y r =>
      simp only [List.map_cons, List.cons.injEq] at same
      simp [List.mapM_cons, same.1, ih same.2]

namespace Represents
variable {b : Block} {s : Store}

section
variable (rep : Represents b s)
include rep

variable {e : Entry}

theorem getCameraMetadataItem_spec {i : Nat} (found : s.entries[i]? = some e) :
    getCameraMetadataItem b i = some (some ⟨i, e.item, e.dataType, e.count,
      if e.size = 0 then slotAt i + itemFixedLen else dataAt s.itemCapacity + e.data⟩) := by
  have inside := (List.getElem?_eq_some_iff.mp found).1
  simp only [getCameraMetadataItem, rep.read_itemCount, rep.read_items, rep.read_item found, rep.read_dataType found,
    rep.read_count found, rep.read_dataStart, rep.read_offset found, bind_eq_bind, bind_some,
    pure_def, ge_iff_le, if_neg (show ¬ s.entries.length ≤ i by omega)]
  by_cases inline_ : e.size = 0
  · rw [if_pos (by exact inline_), if_pos inline_]
  · rw [if_neg (by exact inline_), if_neg inline_]

theorem read_payload {i : Nat} (found : s.entries[i]? = some e) (readable : s.Readable e) :
    b.read (if e.size = 0 then slotAt i + itemFixedLen else dataAt s.itemCapacity + e.data) e.payloadLength =
      some (s.payload e) := by
  obtain ⟨_, place⟩ := readable
  have room := rep.room
  have inside := rep.index_lt found
  unfold Block.read payload
  by_cases inline_ : e.size = 0
  · simp only [inline_, if_true] at place ⊢
    have ends : slotAt i + itemLen ≤ dataAt s.itemCapacity := by unfold slotAt dataAt itemLen; omega
    rw [if_pos (by unfold itemLen itemFixedLen at *; omega)]
    apply congrArg some
    apply bytes_congr
    intro k below
    rw [← rep.entries found, offset]
    exact (digits_load b.byte _ (by omega)).symm
  · simp only [inline_, if_false] at place ⊢
    rw [if_pos (by omega)]
    apply congrArg some
    apply bytes_congr
    intro k below
    rw [offset, offset, Nat.add_assoc]
    exact rep.data _ (by omega)

theorem readItem_spec {i : Nat} (found : s.entries[i]? = some e)
    (readable : s.Readable e) : readItem b i = some (s.itemOf e) := by
  obtain ⟨size, known⟩ := Option.isSome_iff_exists.mp readable.1
  have length : e.count * size = e.payloadLength := by simp only [Entry.payloadLength, known, getD_some]
  simp only [readItem, rep.getCameraMetadataItem_spec found, known, bind_eq_bind, bind_some,
    pure_def, length, rep.read_payload found readable, itemOf]

theorem readable_of_tiled (tiled : s.Tiled) (member : e ∈ s.entries) : s.Readable e := by
  have ok := tiled.entriesOk e member
  obtain ⟨size, known⟩ := itemType_known ok.typed
  refine ⟨by rw [known]; rfl, ?_⟩
  split
  · exact ok.payload_inline (by assumption)
  · have := tiled.bounded member (by omega)
    have := ok.payload_le (by omega)
    have := rep.dataFits
    omega

theorem readItems_spec (readable : ∀ e ∈ s.entries, s.Readable e) : readItems b = some s.items := by
  simp only [readItems, rep.read_itemCount, bind_eq_bind, bind_some]
  have read : ∀ i ∈ List.range s.entries.length, readItem b i = (s.entries[i]?).map s.itemOf := by
    intro i member
    have inside := List.mem_range.mp member
    have found := List.getElem?_eq_getElem inside
    rw [found, rep.readItem_spec found (readable _ (List.getElem_mem inside))]
    rfl
  have listed : (List.range s.entries.length).map (fun i => (s.entries[i]?).map s.itemOf) = s.items.map some := by
    apply List.ext_getElem
    · simp [items]
    · intro i low _
      have inside : i < s.entries.length := by simpa using low
      simp [items, List.getElem?_eq_getElem inside]
  exact mapM_of_map ((List.map_congr_left read).trans listed)

theorem findFrom_spec {item index remaining : Nat} (rest : index + remaining = s.entries.length) :
    findFrom b item index remaining = some (((s.entries.drop index).findIdx? (fun e => e.item = item)).map (· + index)) := by
  induction remaining generalizing index with
  | zero =>
    rw [List.drop_of_length_le (by omega)]
    rfl
  | succ remaining ih =>
    have inside : index < s.entries.length := by omega
    rw [List.drop_eq_getElem_cons inside, List.findIdx?_cons]
    simp only [findFrom, rep.read_items, rep.read_item (List.getElem?_eq_getElem inside), bind_eq_bind,
      bind_some, pure_def]
    by_cases here : (s.entries[index]).item = item
    · simp [here]
    · rw [if_neg here, ih (by omega)]
      simp only [here, decide_false, Bool.false_eq_true, if_false, Option.map_map, some.injEq]
      congr 1
      funext i
      simp only [Function.comp_apply]
      omega

theorem findCameraMetadataItemIndex_spec (item : Nat) : findCameraMetadataItemIndex b item = some (s.find item) := by
  simp only [findCameraMetadataItemIndex, rep.read_itemCount, bind_eq_bind, bind_some,
    rep.findFrom_spec (Nat.zero_add _), List.drop_zero, Nat.add_zero, Option.map_id', find]

end

end Represents

/-- No sum of the layout reaches 2^32. -/
def LayoutFits (itemCapacity dataCapacity : Nat) : Prop :=
  headerLength + itemLen * itemCapacity + dataCapacity + 7 < 2^32

theorem memoryRequired_eq {itemCapacity dataCapacity : Nat} (fits : LayoutFits itemCapacity dataCapacity) :
    calculateCameraMetadataMemoryRequired itemCapacity dataCapacity =
      (headerLength + itemLen * itemCapacity + dataCapacity + 7) / 8 * 8 := by
  unfold LayoutFits headerLength itemLen at fits
  have header : alignTo headerLength itemAlignment = 32 := by decide
  have packet : metadataPacketAlignment = 8 := by decide
  simp only [calculateCameraMetadataMemoryRequired, header, packet, dataAlignment]
  unfold headerLength itemLen
  rw [alignTo_eight_small (v := 32 + 16 * itemCapacity) (by omega), alignTo_eight_small (by omega)]
  omega

theorem write_field {b : Block} {a v : Nat} (room : a + 4 ≤ b.size) :
    ∃ b', b.write32 a v = some b' ∧ b'.size = b.size ∧ field b' a = v % 2^32 ∧
      (∀ x, x + 4 ≤ a ∨ a + 4 ≤ x → field b' x = field b x) ∧ ∀ x, x < a ∨ a + 4 ≤ x → b'.byte x = b.byte x :=
  ⟨_, Block.write32_inside room, rfl, field_written, fun _ out => field_patch out, fun _ out => patch_outside out⟩

theorem fillCameraMetadata_spec {b : Block} (room : headerLength ≤ b.size) (memoryRequired itemCapacity dataCapacity : Nat) :
    ∃ b', fillCameraMetadata b memoryRequired itemCapacity dataCapacity = some b' ∧ b'.size = b.size ∧
      field b' sizeAt = memoryRequired % 2^32 ∧ field b' itemCountAt = 0 ∧
      field b' itemCapacityAt = itemCapacity % 2^32 ∧ field b' itemsStartAt = headerLength ∧ field b' dataCountAt = 0 ∧
      field b' dataCapacityAt = dataCapacity % 2^32 ∧
      field b' dataStartAt = alignTo (headerLength + itemLen * (itemCapacity % 2^32)) dataAlignment ∧
      ∀ x, headerLength ≤ x → b'.byte x = b.byte x := by
  have header : alignTo headerLength itemAlignment = 32 := by decide
  unfold headerLength at room ⊢
  obtain ⟨b1, write1, size1, _, keep1, rest1⟩ := write_field (b := b) (a := versionAt) (v := 1)
    (by unfold versionAt; omega)
  obtain ⟨b2, write2, size2, field2, keep2, rest2⟩ := write_field (b := b1) (a := sizeAt) (v := memoryRequired)
    (by unfold sizeAt; omega)
  obtain ⟨b3, write3, size3, field3, keep3, rest3⟩ := write_field (b := b2) (a := itemCountAt) (v := 0)
    (by unfold itemCountAt; omega)
  obtain ⟨b4, write4, size4, field4, keep4, rest4⟩ := write_field (b := b3) (a := itemCapacityAt) (v := itemCapacity)
    (by unfold itemCapacityAt; omega)
  obtain ⟨b5, write5, size5, field5, keep5, rest5⟩ := write_field (b := b4) (a := itemsStartAt) (v := 32)
    (by unfold itemsStartAt; omega)
  obtain ⟨b6, write6, size6, field6, keep6, rest6⟩ := write_field (b := b5) (a := dataCountAt) (v := 0)
    (by unfold dataCountAt; omega)
  obtain ⟨b7, write7, size7, field7, keep7, rest7⟩ := write_field (b := b6) (a := dataCapacityAt) (v := dataCapacity)
    (by unfold dataCapacityAt; omega)
  have start7 : b7.read32 itemsStartAt = some 32 := by
    rw [Block.read32_inside (by unfold itemsStartAt; omega)]
    exact congrArg some (by rw [← field, keep7 _ (by decide), keep6 _ (by decide), field5]; rfl)
  have capacity7 : b7.read32 itemCapacityAt = some (itemCapacity % 2^32) := by
    rw [Block.read32_inside (by unfold itemCapacityAt; omega)]
    exact congrArg some (by
      rw [← field, keep7 _ (by decide), keep6 _ (by decide), keep5 _ (by decide), field4])
  obtain ⟨b8, write8, size8, field8, keep8, rest8⟩ := write_field (b := b7) (a := dataStartAt)
    (v := alignTo (32 + itemLen * (itemCapacity % 2^32)) dataAlignment) (by unfold dataStartAt; omega)
  refine ⟨b8, ?_, by omega, ?_, ?_, ?_, ?_, ?_, ?_, ?_, ?_⟩
  · simp only [fillCameraMetadata, header, write1, write2, write3, write4, write5, write6, write7, start7, capacity7, write8,
    bind_eq_bind, bind_some]
  · rw [keep8 _ (by decide), keep7 _ (by decide), keep6 _ (by decide), keep5 _ (by decide), keep4 _ (by decide),
      keep3 _ (by decide), field2]
  · rw [keep8 _ (by decide), keep7 _ (by decide), keep6 _ (by decide), keep5 _ (by decide), keep4 _ (by decide), field3]; rfl
  · rw [keep8 _ (by decide), keep7 _ (by decide), keep6 _ (by decide), keep5 _ (by decide), field4]
  · rw [keep8 _ (by decide), keep7 _ (by decide), keep6 _ (by decide), field5]; rfl
  · rw [keep8 _ (by decide), keep7 _ (by decide), field6]; rfl
  · rw [keep8 _ (by decide), field7]
  · rw [field8]
    exact Nat.mod_eq_of_lt (alignTo_eight_lt _)
  · intro x behind
    rw [rest8 x (by unfold dataStartAt; omega), rest7 x (by unfold dataCapacityAt; omega),
      rest6 x (by unfold dataCountAt; omega), rest5 x (by unfold itemsStartAt; omega),
      rest4 x (by unfold itemCapacityAt; omega), rest3 x (by unfold itemCountAt; omega),
      rest2 x (by unfold sizeAt; omega), rest1 x (by unfold versionAt; omega)]

theorem allocateCameraMetadataBuffer_spec {itemCapacity dataCapacity : Nat} (fits : LayoutFits itemCapacity dataCapacity) :
    ∃ b, allocateCameraMetadataBuffer itemCapacity dataCapacity = some b ∧
      Represents b ⟨itemCapacity, dataCapacity, [], 0, fun _ => 0⟩ := by
  have required := memoryRequired_eq fits
  unfold LayoutFits at fits
  have layout : headerLength + itemLen * itemCapacity + dataCapacity + 7 < 2^32 := fits
  unfold headerLength itemLen at fits
  have enough : headerLength ≤ (Block.zeroed (calculateCameraMetadataMemoryRequired itemCapacity dataCapacity)).size := by
    simp only [Block.zeroed, required]
    omega
  obtain ⟨b, filled, size, _, itemCount, itemCap, itemsStart, dataCount, dataCap, dataStart, rest⟩ :=
    fillCameraMetadata_spec enough (calculateCameraMetadataMemoryRequired itemCapacity dataCapacity) itemCapacity
      dataCapacity
  rw [Nat.mod_eq_of_lt (show itemCapacity < 2^32 by omega)] at itemCap dataStart
  rw [Nat.mod_eq_of_lt (show dataCapacity < 2^32 by omega)] at dataCap
  refine ⟨b, filled, itemsStart, ?_, itemCap, dataCap, itemCount, dataCount, by simp, ?_, ?_, by simp, by simp⟩
  · show field b dataStartAt = dataAt itemCapacity
    rw [dataStart, dataAlignment, alignTo_eight_small (by unfold headerLength itemLen; omega), dataAt]
    unfold headerLength itemLen
    omega
  · intro x _
    rw [rest _ (by unfold dataAt; omega)]
    rfl
  · show dataAt itemCapacity + dataCapacity ≤ b.size
    rw [size]
    simp only [Block.zeroed, required, dataAt]
    omega

inductive Call
  | add (item : UInt32) (data : Option Mem) (dataCount : UInt64)
  | update (item : UInt32) (data : Option Mem) (dataCount : UInt32)
  | updateByIndex (index : UInt32) (data : Option Mem) (dataCount : UInt32)
  | delete (item : UInt32)
  | deleteByIndex (index : UInt32)

def perform (b : Block) : Call → Option (Ret × Block)
  | .add item data dataCount => addCameraMetadataItem b item.toNat data dataCount.toNat
  | .update item data dataCount => updateCameraMetadataItem b item.toNat data dataCount.toNat
  | .updateByIndex index data dataCount => updateCameraMetadataItemByIndex b index.toNat data dataCount.toNat
  | .delete item => deleteCameraMetadataItem b item.toNat
  | .deleteByIndex index => deleteCameraMetadataItemByIndex b index.toNat

def run (b : Block) : List Call → Option (List Ret × Block)
  | [] => some ([], b)
  | call :: calls => do
    let (ret, b) ← perform b call
    let (rets, b) ← run b calls
    return (ret :: rets, b)

def payloadBytes (dataType count : Nat) : Nat := count * (ohosCameraMetadataTypeSize dataType).getD 0

def Item.replace (data : Option Mem) (dataCount : Nat) (x : Item) : Item :=
  match data with
  | some data => { x with count := dataCount, payload := bytes data (payloadBytes x.dataType dataCount) }
  | none => x

def Call.apply (l : List Item) : Call → List Item
  | .add item data dataCount =>
    match data, getCameraMetadataItemType item.toNat with
    | some data, some dataType =>
      l ++ [⟨item.toNat, dataType, dataCount.toNat, bytes data (payloadBytes dataType dataCount.toNat)⟩]
    | _, _ => l
  | .update item data dataCount =>
    l.modify (l.findIdx (fun x => x.item = item.toNat)) (Item.replace data dataCount.toNat)
  | .updateByIndex index data dataCount => l.modify index.toNat (Item.replace data dataCount.toNat)
  | .delete item => l.eraseIdx (l.findIdx (fun x => x.item = item.toNat))
  | .deleteByIndex index => l.eraseIdx index.toNat

/-- The list of items after calls that returned `rets`; a call that fails changes nothing. -/
def history (l : List Item) : List Call → List Ret → List Item
  | call :: calls, ret :: rets => history (if ret = .success then call.apply l else l) calls rets
  | _, _ => l

def target (b : Block) : Call → Option Nat
  | .add .. => none
  | .update item .. | .delete item => (findCameraMetadataItemIndex b item.toNat).bind id
  | .updateByIndex index .. | .deleteByIndex index => some index.toNat

/-- The payload of a call is below 2^31 bytes. -/
def SmallPayload (b : Block) : Call → Prop
  | .add item _ dataCount =>
    ∀ dataType, getCameraMetadataItemType item.toNat = some dataType → payloadBytes dataType dataCount.toNat < 2^31
  | call@(.update _ _ dataCount) | call@(.updateByIndex _ _ dataCount) =>
    ∀ i, target b call = some i → i < field b itemCountAt → payloadBytes (slot b i).dataType dataCount.toNat < 2^31
  | _ => True

/-- A deletion of an entry with data in the data area, with so many entries behind it that `memmove_s` refuses to
    move them. -/
def Immovable (b : Block) : Call → Prop
  | call@(.delete _) | call@(.deleteByIndex _) =>
    ∃ i, target b call = some i ∧ i < field b itemCountAt ∧ (slot b i).size ≠ 0 ∧ 2^27 ≤ field b itemCountAt - i - 1
  | _ => False

/-- Every call of the run satisfies `p` in the state it is made in. -/
def Along (p : Block → Call → Prop) (b : Block) : List Call → Prop
  | [] => True
  | call :: calls => p b call ∧ ∀ ret b', perform b call = some (ret, b') → Along p b' calls

namespace Store
variable {s : Store}

def perform (s : Store) : Call → Ret × Store
  | .add item data dataCount => s.addItem item.toNat data dataCount.toNat
  | .update item data dataCount =>
    if dataCount.toNat = 0 ∨ data.isNone then (.invalidParam, s)
    else match s.find item.toNat with
      | some index => s.updateAt index data dataCount.toNat
      | none => (.itemNotFound, s)
  | .updateByIndex index data dataCount => s.updateAt index.toNat data dataCount.toNat
  | .delete item =>
    match s.find item.toNat with
    | some index => s.deleteAt index
    | none => (.itemNotFound, s)
  | .deleteByIndex index => s.deleteAt index.toNat

def CallClean (s : Store) : Call → Prop
  | .add .. => True
  | .update item data dataCount => data.isSome → ∀ i, s.find item.toNat = some i → s.UpdateClean i dataCount.toNat
  | .updateByIndex index data dataCount => data.isSome → s.UpdateClean index.toNat dataCount.toNat
  | .delete item => ∀ i, s.find item.toNat = some i → s.DeleteClean i
  | .deleteByIndex index => s.DeleteClean index.toNat

theorem perform_tiled (tiled : s.Tiled) (call : Call) : (s.perform call).2.Tiled := by
  cases call with
  | add item data dataCount => exact addItem_tiled tiled _ _ _
  | update item data dataCount =>
    simp only [perform]
    split
    · exact tiled
    · split
      · exact updateAt_tiled tiled _ _ _
      · exact tiled
  | updateByIndex index data dataCount => exact updateAt_tiled tiled _ _ _
  | delete item =>
    simp only [perform]
    split
    · exact deleteAt_tiled tiled _
    · exact tiled
  | deleteByIndex index => exact deleteAt_tiled tiled _

theorem perform_capacities (s : Store) (call : Call) :
    (s.perform call).2.itemCapacity = s.itemCapacity ∧ (s.perform call).2.dataCapacity = s.dataCapacity := by
  cases call with
  | add item data dataCount => exact addItem_capacities ..
  | update item data dataCount =>
    simp only [perform]
    split
    · exact ⟨rfl, rfl⟩
    · split
      · exact updateAt_capacities ..
      · exact ⟨rfl, rfl⟩
  | updateByIndex index data dataCount => exact updateAt_capacities ..
  | delete item =>
    simp only [perform]
    split
    · exact deleteAt_capacities ..
    · exact ⟨rfl, rfl⟩
  | deleteByIndex index => exact deleteAt_capacities ..

def run (s : Store) : List Call → List Ret × Store
  | [] => ([], s)
  | call :: calls => ((s.perform call).1 :: ((s.perform call).2.run calls).1, ((s.perform call).2.run calls).2)

theorem run_tiled (tiled : s.Tiled) (calls : List Call) : (s.run calls).2.Tiled := by
  induction calls generalizing s with
  | nil => exact tiled
  | cons call calls ih => exact ih (perform_tiled tiled call)

theorem find_items {item i : Nat} (found : s.find item = some i) : s.items.findIdx (fun x => x.item = item) = i := by
  have first := (List.findIdx?_eq_some_iff_findIdx_eq.mp found).2
  rw [items, List.findIdx_map]
  exact first

theorem find_lt {item i : Nat} (found : s.find item = some i) : i < s.entries.length :=
  (List.findIdx?_eq_some_iff_findIdx_eq.mp found).1

theorem addItem_items (tiled : s.Tiled) {item : UInt32} {data : Option Mem} {dataCount : UInt64}
    (small : ∀ dataType, getCameraMetadataItemType item.toNat = some dataType → payloadBytes dataType dataCount.toNat < 2^31) :
    (s.addItem item.toNat data dataCount.toNat).2.items =
      if (s.addItem item.toNat data dataCount.toNat).1 = .success then (Call.add item data dataCount).apply s.items
      else s.items := by
  rcases s.addItem_cases item.toNat data dataCount.toNat with ⟨failed, same⟩ | ⟨d, dataType, size, rfl, typed, known, copied, is⟩
  · rw [same, if_neg failed]
  · have length := (added_ok typed known copied 0).2
    have payload := small dataType typed
    simp only [payloadBytes, known, getD_some] at payload
    have positive : 0 < size := by have := typeSize_cases known; omega
    have counted : dataCount.toNat ≤ dataCount.toNat * size := Nat.le_mul_of_pos_right _ positive
    rw [is, if_pos rfl]
    simp only [Call.apply, typed]
    rw [add_items tiled (fun d => (added_ok typed known copied d).1) length.symm,
      Nat.mod_eq_of_lt (show dataCount.toNat < 2^32 by omega), payloadBytes, known, getD_some,
      Nat.mod_eq_of_lt (show dataCount.toNat * size < 2^64 by omega)]

theorem updateAt_items (tiled : s.Tiled) (index : Nat) (data : Option Mem) (dataCount : Nat) :
    (s.updateAt index data dataCount).2.items =
      if (s.updateAt index data dataCount).1 = .success then s.items.modify index (Item.replace data dataCount)
      else s.items := by
  rcases s.updateAt_cases index data dataCount with ⟨failed, same⟩ | ⟨d, e, rfl, found, some_, small, is⟩
  · rw [same, if_neg failed]
  · have ok := tiled.entriesOk e (List.mem_of_getElem? found)
    have there : s.items[index]? = some (s.itemOf e) := by rw [items, List.getElem?_map, found]; rfl
    rw [is, if_pos rfl, List.modify_eq_set_getElem?, there]
    simp only
    exact update_items tiled found (updated_ok ok some_ small) rfl

theorem deleteAt_items (tiled : s.Tiled) (index : Nat) :
    (s.deleteAt index).2.items = if (s.deleteAt index).1 = .success then s.items.eraseIdx index else s.items := by
  rcases s.deleteAt_cases index with ⟨failed, same⟩ | ⟨e, found, is⟩
  · rw [same, if_neg failed]
  · rw [is, if_pos rfl]
    exact delete_items tiled found

end Store

namespace Represents
variable {b : Block} {s : Store}

theorem target_index (rep : Represents b s) {item : UInt32} :
    (findCameraMetadataItemIndex b item.toNat).bind id = s.find item.toNat := by
  rw [rep.findCameraMetadataItemIndex_spec]; rfl

theorem updateClean (rep : Represents b s) {i dataCount : Nat}
    (small : i < field b itemCountAt → payloadBytes (slot b i).dataType dataCount < 2^31) : s.UpdateClean i dataCount := by
  intro e found
  have inside := (List.getElem?_eq_some_iff.mp found).1
  have bound := small (by rw [rep.itemCount]; exact inside)
  rw [rep.entries found, payloadBytes] at bound
  exact .inl (by unfold securecMemMaxLen; omega)

theorem deleteClean (rep : Represents b s) {i : Nat}
    (movable : ¬ (i < field b itemCountAt ∧ (slot b i).size ≠ 0 ∧ 2^27 ≤ field b itemCountAt - i - 1)) : s.DeleteClean i := by
  intro e found
  have inside := (List.getElem?_eq_some_iff.mp found).1
  rw [rep.itemCount, rep.entries found] at movable
  unfold securecMemMaxLen itemLen
  omega

variable {call : Call}

theorem perform_spec (rep : Represents b s) (tiled : s.Tiled) (clean : s.CallClean call) :
    ∃ b', perform b call = some ((s.perform call).1, b') ∧ Represents b' (s.perform call).2 := by
  cases call with
  | add item data dataCount => exact rep.addCameraMetadataItem_spec _ _ _
  | update item data dataCount =>
    simp only [perform, Store.perform, updateCameraMetadataItem]
    by_cases none : dataCount.toNat = 0
    · exact ⟨b, by simp [none], by simpa [none] using rep⟩
    cases data with
    | none => exact ⟨b, by simp [none], by simpa [none] using rep⟩
    | some data =>
      simp only [none, if_false, Option.isNone_some, Bool.false_eq_true, or_self, rep.findCameraMetadataItemIndex_spec,
        bind_eq_bind, bind_some]
      cases found : s.find item.toNat with
      | none => exact ⟨b, rfl, rep⟩
      | some index =>
        exact rep.updateCameraMetadataItemByIndex_spec tiled index (some data) dataCount.toNat_lt
          (fun given => clean given index found)
  | updateByIndex index data dataCount =>
    exact rep.updateCameraMetadataItemByIndex_spec tiled index.toNat data dataCount.toNat_lt clean
  | delete item =>
    simp only [perform, Store.perform, deleteCameraMetadataItem, rep.findCameraMetadataItemIndex_spec,
      bind_eq_bind, bind_some]
    cases found : s.find item.toNat with
    | none => exact ⟨b, rfl, rep⟩
    | some index => exact rep.deleteCameraMetadataItemByIndex_spec tiled (clean index found)
  | deleteByIndex index => exact rep.deleteCameraMetadataItemByIndex_spec tiled clean

/-- A small payload and entries that can be moved make a call clean. -/
theorem callClean (rep : Represents b s) (small : SmallPayload b call) (movable : ¬ Immovable b call) : s.CallClean call := by
  cases call with
  | add => trivial
  | update item data dataCount =>
    intro _ i found
    exact rep.updateClean (small i (by rw [target, rep.target_index, found]))
  | updateByIndex index data dataCount =>
    intro _
    exact rep.updateClean (small index.toNat rfl)
  | delete item =>
    intro i found
    exact rep.deleteClean (fun blocked => movable ⟨i, by rw [target, rep.target_index, found], blocked⟩)
  | deleteByIndex index => exact rep.deleteClean (fun blocked => movable ⟨index.toNat, rfl, blocked⟩)

theorem perform_items (tiled : s.Tiled) (small : SmallPayload b call) :
    (s.perform call).2.items = if (s.perform call).1 = .success then call.apply s.items else s.items := by
  cases call with
  | add item data dataCount => exact addItem_items tiled small
  | update item data dataCount =>
    simp only [Store.perform]
    split
    · rw [if_neg (by simp)]
    · cases found : s.find item.toNat with
      | none => simp
      | some index =>
        simp only
        rw [updateAt_items tiled, Call.apply, find_items found]
  | updateByIndex index data dataCount => exact updateAt_items tiled _ _ _
  | delete item =>
    cases found : s.find item.toNat with
    | none =>
      have is : s.perform (.delete item) = (.itemNotFound, s) := by simp only [Store.perform, found]
      rw [is, if_neg (by simp)]
    | some index =>
      have is : s.perform (.delete item) = s.deleteAt index := by simp only [Store.perform, found]
      rw [is, deleteAt_items tiled, Call.apply, find_items found]
  | deleteByIndex index => exact deleteAt_items tiled _

theorem run_spec (rep : Represents b s) (tiled : s.Tiled) {calls : List Call} (small : Along SmallPayload b calls)
    (movable : Along (fun b call => ¬ Immovable b call) b calls) :
    ∃ b', run b calls = some ((s.run calls).1, b') ∧ Represents b' (s.run calls).2 ∧
      (s.run calls).2.items = history s.items calls (s.run calls).1 := by
  induction calls generalizing b s with
  | nil => exact ⟨b, rfl, rep, rfl⟩
  | cons call calls ih =>
    obtain ⟨b1, step, rep1⟩ := rep.perform_spec tiled (rep.callClean small.1 movable.1)
    obtain ⟨b2, rest, rep2, items2⟩ := ih rep1 (perform_tiled tiled call) (small.2 _ _ step) (movable.2 _ _ step)
    refine ⟨b2, ?_, rep2, ?_⟩
    · simp only [run, step, rest, bind_eq_bind, bind_some, pure_def, Store.run]
    · simp only [Store.run, history, items2, perform_items tiled small.1]

/-- A buffer for fewer than 2^27 items never gets a deletion that fails too late. -/
theorem movable_of_capacity (rep : Represents b s) (tiled : s.Tiled) (few : s.itemCapacity ≤ 2^27) {calls : List Call}
    (small : Along SmallPayload b calls) : Along (fun b call => ¬ Immovable b call) b calls := by
  induction calls generalizing b s with
  | nil => trivial
  | cons call calls ih =>
    have movable : ¬ Immovable b call := by
      have fits := rep.itemsFit
      rw [← rep.itemCount] at fits
      cases call with
      | delete | deleteByIndex =>
        rintro ⟨i, _, inside, _, many⟩
        omega
      | _ => exact id
    refine ⟨movable, fun ret b' executed => ?_⟩
    obtain ⟨b1, step, rep1⟩ := rep.perform_spec tiled (rep.callClean small.1 movable)
    have is : b1 = b' := congrArg Prod.snd (some.inj (step.symm.trans executed))
    rw [is] at rep1
    exact ih rep1 (perform_tiled tiled call) (by rw [(s.perform_capacities call).1]; exact few)
      (small.2 _ _ executed)

end Represents

def entriesOf (b : Block) : List Entry := (List.range (field b itemCountAt)).map (slot b)

structure DataAreaTiled (b : Block) : Prop where
  items : field b itemCountAt ≤ field b itemCapacityAt
  data : field b dataCountAt ≤ field b dataCapacityAt
  tiles : Tiles 8 ((entriesOf b).map Entry.interval) (field b dataCountAt)

theorem Represents.entriesOf_eq {b : Block} {s : Store} (rep : Represents b s) : entriesOf b = s.entries := by
  unfold entriesOf
  rw [rep.itemCount]
  apply List.ext_getElem
  · simp
  · intro i low high
    simp only [List.getElem_map, List.getElem_range]
    exact rep.entries (List.getElem?_eq_getElem high)

theorem Represents.dataAreaTiled {b : Block} {s : Store} (rep : Represents b s) (tiled : s.Tiled) : DataAreaTiled b :=
  ⟨by rw [rep.itemCount, rep.itemCapacity]; exact rep.itemsFit,
    by rw [rep.dataCount, rep.dataCapacity]; exact rep.dataFits,
    by rw [rep.entriesOf_eq, rep.dataCount]; exact tiled.tiles⟩

theorem empty_tiled (itemCapacity dataCapacity : Nat) : (⟨itemCapacity, dataCapacity, [], 0, fun _ => 0⟩ : Store).Tiled :=
  ⟨by simp, Tiles.nil 8⟩

section
variable {itemCapacity dataCapacity : Nat} {b : Block} {calls : List Call}
  (fits : LayoutFits itemCapacity dataCapacity)
  (allocated : allocateCameraMetadataBuffer itemCapacity dataCapacity = some b)
  (small : Along SmallPayload b calls) (movable : Along (fun b call => ¬ Immovable b call) b calls)
include fits allocated small movable

theorem run_new : ∃ rets b' s', run b calls = some (rets, b') ∧ Represents b' s' ∧ s'.Tiled ∧
    s'.items = history [] calls rets := by
  obtain ⟨b0, made, rep⟩ := allocateCameraMetadataBuffer_spec fits
  have is : b0 = b := some.inj (made.symm.trans allocated)
  rw [is] at rep
  obtain ⟨b', executed, rep', items⟩ := rep.run_spec (empty_tiled _ _) small movable
  exact ⟨_, b', _, executed, rep', run_tiled (empty_tiled _ _) calls, items⟩

/-- The items read back after a run are the ones of the list. -/
theorem readItems_run : ∃ rets b', run b calls = some (rets, b') ∧ readItems b' = some (history [] calls rets) := by
  obtain ⟨rets, b', s', executed, rep', tiled', items⟩ := run_new fits allocated small movable
  refine ⟨rets, b', executed, ?_⟩
  rw [← items]
  exact rep'.readItems_spec (fun e member => rep'.readable_of_tiled tiled' member)

/-- The data area is tiled after every run. -/
theorem dataAreaTiled_run : ∃ rets b', run b calls = some (rets, b') ∧ DataAreaTiled b' := by
  obtain ⟨rets, b', s', executed, rep', tiled', _⟩ := run_new fits allocated small movable
  exact ⟨rets, b', executed, rep'.dataAreaTiled tiled'⟩

end

theorem Along.of_forall {p : Block → Call → Prop} {calls : List Call} (holds : ∀ call ∈ calls, ∀ b, p b call) (b : Block) :
    Along p b calls := by
  induction calls generalizing b with
  | nil => trivial
  | cons call calls ih =>
    exact ⟨holds call (by simp) b, fun _ b' _ => ih (fun c member => holds c (by simp [member])) b'⟩

def addByte : Call := .add 0 (some (fun _ => 0)) 1
def addLong (value : UInt8) : Call := .add 131072 (some (fun _ => value)) 1

theorem addByte_small (b : Block) : SmallPayload b addByte := by
  intro dataType typed
  have type : getCameraMetadataItemType (0 : UInt32).toNat = some 0 := by decide
  rw [type] at typed
  cases typed
  decide

theorem addLong_small (value : UInt8) (b : Block) : SmallPayload b (addLong value) := by
  intro dataType typed
  have type : getCameraMetadataItemType (131072 : UInt32).toNat = some 4 := by decide
  rw [type] at typed
  cases typed
  decide

/-- The conditions of a run hold for two additions, the second of a byte, and a deletion of the first item. -/
theorem readItems_run_small : ∃ b rets b', allocateCameraMetadataBuffer 2 16 = some b ∧
      run b [addLong 1, addByte, .deleteByIndex 0] = some (rets, b') ∧
      readItems b' = some (history [] [addLong 1, addByte, .deleteByIndex 0] rets) := by
  have fits : LayoutFits 2 16 := by unfold LayoutFits; decide
  obtain ⟨b, allocated, rep⟩ := allocateCameraMetadataBuffer_spec fits
  have small : Along SmallPayload b [addLong 1, addByte, .deleteByIndex 0] :=
    ⟨addLong_small 1 b, fun _ b1 _ => ⟨addByte_small b1, fun _ _ _ => ⟨trivial, fun _ _ _ => trivial⟩⟩⟩
  obtain ⟨rets, b', executed, items⟩ := readItems_run fits allocated small
    (rep.movable_of_capacity (empty_tiled 2 16) (by decide) small)
  exact ⟨b, rets, b', allocated, executed, items⟩

theorem dataAreaTiled_run_small : ∃ b rets b', allocateCameraMetadataBuffer 2 16 = some b ∧
      run b [addLong 1, addLong 2, .deleteByIndex 0] = some (rets, b') ∧ DataAreaTiled b' := by
  have fits : LayoutFits 2 16 := by unfold LayoutFits; decide
  obtain ⟨b, allocated, rep⟩ := allocateCameraMetadataBuffer_spec fits
  have small : Along SmallPayload b [addLong 1, addLong 2, .deleteByIndex 0] :=
    ⟨addLong_small 1 b, fun _ b1 _ => ⟨addLong_small 2 b1, fun _ _ _ => ⟨trivial, fun _ _ _ => trivial⟩⟩⟩
  obtain ⟨rets, b', executed, tiled⟩ := dataAreaTiled_run fits allocated small
    (rep.movable_of_capacity (empty_tiled 2 16) (by decide) small)
  exact ⟨b, rets, b', allocated, executed, tiled⟩

/-! ### The deletion that fails too late -/

/-- The deletion of an entry whose data is moved away before the entries behind it turn out to be too many. -/
theorem Represents.delete_immovable {b : Block} {s : Store} (rep : Represents b s) (tiled : s.Tiled) {i : Nat} {e : Entry}
    (found : s.entries[i]? = some e) (gap : 0 < e.size) (short : s.tail e ≤ securecMemMaxLen)
    (tooLong : securecMemMaxLen < itemLen * (s.entries.length - i - 1)) :
    ∃ b', deleteCameraMetadataItemByIndex b i = some (.failure, b') ∧ Represents b' (s.release e.data e.size) := by
  have inside := (List.getElem?_eq_some_iff.mp found).1
  obtain ⟨b', released, rep'⟩ := rep.metadataExpandItemMem_spec tiled found gap short
  have length : (s.release e.data e.size).entries.length = s.entries.length := by simp [release]
  have failed := rep'.eraseItem_fails (i := i) (by omega) (by rw [length]; exact tooLong)
  refine ⟨b', ?_, rep'⟩
  simp only [deleteCameraMetadataItemByIndex, rep.read_itemCount, rep.read_items, rep.read_dataType found,
    rep.read_count found, bind_eq_bind, bind_some, pure_def, ge_iff_le,
    if_neg (show ¬ s.entries.length ≤ i by omega)]
  have sized : calculateCameraMetadataItemDataSize e.dataType e.count = e.size := rfl
  rw [sized, if_pos gap, released]
  simp only [onSuccess, bind_some, if_true, failed]

theorem run_append {b b' : Block} {calls calls' : List Call} {rets : List Ret} (first : run b calls = some (rets, b')) :
    run b (calls ++ calls') = (run b' calls').map fun (rets', b'') => (rets ++ rets', b'') := by
  induction calls generalizing b rets with
  | nil =>
    simp only [run, some.injEq, Prod.mk.injEq] at first
    obtain ⟨rfl, rfl⟩ := first
    simp
  | cons call calls ih =>
    simp only [run, bind_eq_bind, pure_def, Option.bind_eq_some_iff, Prod.exists, some.injEq,
      Prod.mk.injEq] at first
    obtain ⟨ret, b1, step, rets1, b2, rest, rfl, rfl⟩ := first
    simp only [List.cons_append, run, step, bind_eq_bind, bind_some, ih rest, pure_def]
    cases run b2 calls' <;> rfl

theorem history_append {l : List Item} {calls calls' : List Call} {rets rets' : List Ret}
    (length : rets.length = calls.length) :
    history l (calls ++ calls') (rets ++ rets') = history (history l calls rets) calls' rets' := by
  induction calls generalizing l rets with
  | nil =>
    have none : rets = [] := List.length_eq_zero_iff.mp length
    rw [none]
    cases calls' <;> cases rets' <;> rfl
  | cons call calls ih =>
    cases rets with
    | nil => simp at length
    | cons ret rets => exact ih (by simpa using length)

/-- Two items in the data area and `n` behind them. -/
def crowd (n : Nat) : List Call := [addLong 1, addLong 2] ++ List.replicate n addByte

theorem addByte_run (n : Nat) (s : Store) (free : s.entries.length + n ≤ s.itemCapacity)
    (fits : s.dataCount ≤ s.dataCapacity) :
    s.run (List.replicate n addByte) = (List.replicate n .success,
      { s with entries := s.entries ++ List.replicate n ⟨0, 0, 1, 0⟩ }) := by
  induction n generalizing s with
  | zero => simp [Store.run]
  | succ n ih =>
    have added : s.perform addByte = (.success, { s with entries := s.entries ++ [⟨0, 0, 1, 0⟩] }) := by
      have type : getCameraMetadataItemType 0 = some 0 := by decide
      have size : calculateCameraMetadataItemDataSize 0 1 = 0 := by decide
      have inlined : inlineData (fun _ => 0) 1 (fun _ => 0) = 0 := by decide
      have one : 1 * (ohosCameraMetadataTypeSize 0).getD 0 % 2^64 = 1 := by decide
      simp only [addByte, Store.perform, Store.addItem, show (0 : UInt32).toNat = 0 from rfl,
        show (1 : UInt64).toNat = 1 from rfl, type, size, Store.add, inlined, one, Nat.one_ne_zero, if_false,
          if_neg (show ¬ s.entries.length = s.itemCapacity by omega),
        if_neg (show ¬ 0 + s.dataCount > s.dataCapacity by omega)]
      rfl
    rw [List.replicate_succ]
    simp only [Store.run, added, ih { s with entries := s.entries ++ [⟨0, 0, 1, 0⟩] } (by simp; omega) fits]
    simp [List.replicate_succ]

theorem addLong_perform (s : Store) (value : UInt8) (free : s.entries.length < s.itemCapacity)
    (fits : s.dataCount + 8 ≤ s.dataCapacity) :
    s.perform (addLong value) = (.success, { s with
      entries := s.entries ++ [⟨131072, 4, 1, s.dataCount⟩]
      dataCount := s.dataCount + 8
      data := patch s.data s.dataCount 8 (fun _ => value) }) := by
  have type : getCameraMetadataItemType 131072 = some 4 := by decide
  have size : calculateCameraMetadataItemDataSize 4 1 = 8 := by decide
  have one : 1 * (ohosCameraMetadataTypeSize 4).getD 0 % 2^64 = 8 := by decide
  simp only [addLong, Store.perform, Store.addItem, show (131072 : UInt32).toNat = 131072 from rfl,
    show (1 : UInt64).toNat = 1 from rfl, type, size, Store.add, one, Nat.one_ne_zero, if_false,
    if_neg (show ¬ s.entries.length = s.itemCapacity by omega),
    if_neg (show ¬ 8 + s.dataCount > s.dataCapacity by omega)]
  rfl

/-- The store with two items in the data area and `n` behind them. -/
def crowded (n : Nat) : Store :=
  ⟨n + 2, 16, [⟨131072, 4, 1, 0⟩, ⟨131072, 4, 1, 8⟩] ++ List.replicate n ⟨0, 0, 1, 0⟩, 16,
    patch (patch (fun _ => 0) 0 8 (fun _ => 1)) 8 8 (fun _ => 2)⟩

theorem crowd_run (n : Nat) :
    (⟨n + 2, 16, [], 0, fun _ => 0⟩ : Store).run (crowd n) = (List.replicate (n + 2) .success, crowded n) := by
  have first := addLong_perform ⟨n + 2, 16, [], 0, fun _ => 0⟩ 1 (by simp) (by simp)
  have second := addLong_perform
    ⟨n + 2, 16, [⟨131072, 4, 1, 0⟩], 8, patch (fun _ => 0) 0 8 (fun _ => 1)⟩ 2 (by simp) (by simp)
  have rest := addByte_run n ⟨n + 2, 16, [⟨131072, 4, 1, 0⟩, ⟨131072, 4, 1, 8⟩], 16,
    patch (patch (fun _ => 0) 0 8 (fun _ => 1)) 8 8 (fun _ => 2)⟩ (by simp; omega) (by simp)
  simp only [List.nil_append, List.cons_append, Nat.zero_add] at first second
  simp only [crowd, List.cons_append, List.nil_append, Store.run, first, second, rest, crowded, List.replicate_succ]

theorem crowded_size : (Entry.mk 131072 4 1 0).size = 8 := by decide

theorem crowded_released (n : Nat) : ((crowded n).release 0 8).entries =
    [⟨131072, 4, 1, 0⟩, ⟨131072, 4, 1, 0⟩] ++ List.replicate n ⟨0, 0, 1, 0⟩ := by
  have first : (Entry.mk 131072 4 1 0).close 0 8 = ⟨131072, 4, 1, 0⟩ := by decide
  have second : (Entry.mk 131072 4 1 8).close 0 8 = ⟨131072, 4, 1, 0⟩ := by decide
  have others : (Entry.mk 0 0 1 0).close 0 8 = ⟨0, 0, 1, 0⟩ := by decide
  simp only [release, crowded, List.map_append, List.map_cons, List.map_nil, first, second, others, List.map_replicate]

/-- After the failed deletion the first item has the bytes of the second. -/
theorem crowd_deleted {n : Nat} (many : 2^27 ≤ n + 1) (fits : LayoutFits (n + 2) 16) :
    ∃ b rets b', allocateCameraMetadataBuffer (n + 2) 16 = some b ∧ Along SmallPayload b (crowd n ++ [.deleteByIndex 0]) ∧
      run b (crowd n ++ [.deleteByIndex 0]) = some (rets, b') ∧ Represents b' ((crowded n).release 0 8) ∧
      history [] (crowd n ++ [.deleteByIndex 0]) rets = (crowded n).items := by
  obtain ⟨b, allocated, rep⟩ := allocateCameraMetadataBuffer_spec fits
  have small : ∀ call ∈ crowd n ++ [.deleteByIndex 0], ∀ b, SmallPayload b call := by
    intro call member b
    simp only [crowd, List.mem_append, List.mem_cons, List.mem_replicate, List.not_mem_nil, or_false] at member
    rcases member with ((rfl | rfl) | ⟨_, rfl⟩) | rfl
    · exact addLong_small 1 b
    · exact addLong_small 2 b
    · exact addByte_small b
    · trivial
  have movable : ∀ call ∈ crowd n, ∀ b, ¬ Immovable b call := by
    intro call member b
    simp only [crowd, List.mem_append, List.mem_cons, List.mem_replicate, List.not_mem_nil, or_false] at member
    rcases member with (rfl | rfl) | ⟨_, rfl⟩ <;> exact id
  have empty := empty_tiled (n + 2) 16
  have smallBefore : Along SmallPayload b (crowd n) :=
    Along.of_forall (fun call member => small call (List.mem_append_left _ member)) b
  obtain ⟨b1, executed, rep1, items⟩ := rep.run_spec empty smallBefore (Along.of_forall movable b)
  have tiled := run_tiled empty (crowd n)
  rw [crowd_run] at executed rep1 items tiled
  simp only at executed rep1 items tiled
  obtain ⟨b2, failed, rep2⟩ := rep1.delete_immovable tiled (i := 0) (e := ⟨131072, 4, 1, 0⟩) rfl (by decide)
    (by simp [tail, crowded, crowded_size, securecMemMaxLen]) (by simp [crowded, securecMemMaxLen, itemLen]; omega)
  refine ⟨b, List.replicate (n + 2) .success ++ [.failure], b2, allocated, Along.of_forall small b, ?_, ?_, ?_⟩
  · rw [run_append executed]
    simp only [run, perform, show (0 : UInt32).toNat = 0 from rfl, failed]
    rfl
  · exact rep2
  · rw [history_append (by simp [crowd])]
    simp only [history, reduceCtorEq, if_false]
    rw [items]
    rfl

theorem crowded_readable (n : Nat) : ∀ e ∈ ((crowded n).release 0 8).entries, ((crowded n).release 0 8).Readable e := by
  intro e member
  rw [crowded_released] at member
  have capacity : ((crowded n).release 0 8).dataCapacity = 16 := rfl
  simp only [List.mem_append, List.mem_cons, List.mem_replicate, List.not_mem_nil, or_false] at member
  rw [Store.Readable, capacity]
  rcases member with (rfl | rfl) | ⟨_, rfl⟩ <;> decide

/-- With 2^27 entries behind it, the deletion of an item in the data area fails and still changes an item. -/
theorem failed_delete_changes_item :
    ∃ b rets b', LayoutFits (2^27 + 2) 16 ∧ allocateCameraMetadataBuffer (2^27 + 2) 16 = some b ∧
      Along SmallPayload b (crowd (2^27) ++ [.deleteByIndex 0]) ∧ run b (crowd (2^27) ++ [.deleteByIndex 0]) = some (rets, b') ∧
      readItems b' ≠ some (history [] (crowd (2^27) ++ [.deleteByIndex 0]) rets) := by
  have fits : LayoutFits (2^27 + 2) 16 := by unfold LayoutFits headerLength itemLen; omega
  generalize is : 2^27 = n at fits ⊢
  obtain ⟨b, rets, b', allocated, small, executed, rep, items⟩ := crowd_deleted (n := n) (by omega) fits
  refine ⟨b, rets, b', fits, allocated, small, executed, ?_⟩
  rw [rep.readItems_spec (crowded_readable n), items]
  intro same
  have first : ((crowded n).release 0 8).items[0]? = (crowded n).items[0]? := by rw [some.inj same]
  rw [Store.items, Store.items, crowded_released] at first
  have payloads : ((crowded n).release 0 8).payload ⟨131072, 4, 1, 0⟩ = (crowded n).payload ⟨131072, 4, 1, 0⟩ :=
    congrArg Item.payload (some.inj first)
  have bytes_differ : ((crowded 0).release 0 8).payload ⟨131072, 4, 1, 0⟩ ≠ (crowded 0).payload ⟨131072, 4, 1, 0⟩ := by
    decide
  exact bytes_differ payloads

/-- With 2^27 entries behind it, the failed deletion leaves two items over the same data. -/
theorem failed_delete_overlaps : ∃ b rets b', LayoutFits (2^27 + 2) 16 ∧ allocateCameraMetadataBuffer (2^27 + 2) 16 = some b ∧
      Along SmallPayload b (crowd (2^27) ++ [.deleteByIndex 0]) ∧
      run b (crowd (2^27) ++ [.deleteByIndex 0]) = some (rets, b') ∧ ¬ DataAreaTiled b' := by
  have fits : LayoutFits (2^27 + 2) 16 := by unfold LayoutFits headerLength itemLen; omega
  generalize is : 2^27 = n at fits ⊢
  obtain ⟨b, rets, b', allocated, small, executed, rep, _⟩ := crowd_deleted (n := n) (by omega) fits
  refine ⟨b, rets, b', fits, allocated, small, executed, fun tiled => ?_⟩
  have intervals := tiled.tiles
  rw [rep.entriesOf_eq, crowded_released] at intervals
  have apart := intervals.apart (i := 0) (j := 1) (v := ⟨0, 8⟩) (w := ⟨0, 8⟩) (by decide) rfl rfl
  simp [Apart] at apart

end Peripheral.Metadata
