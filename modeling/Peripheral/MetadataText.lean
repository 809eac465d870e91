import Peripheral.MetadataLayout

/-!
`EncodeToString` and `DecodeFromString` of `metadata_utils.cpp`. A string is a
block of its bytes; the decoder is also given the capacity of the string, which
is what it measures the input by. The encoder copies the header, the counted
entries and the used data; the decoder allocates by the counts and then restores
the header it found, with the starts that were computed for the old capacities.
-/
namespace Peripheral.Metadata
open Peripheral.Bytes Peripheral.Tiling Option

/-- `memcpy_s(dst + dest, destMax, src + source, count)`; no block when it fails. A negative length is a huge one. -/
def memcpyS (dst src : Block) (dest : Nat) (destMax : Int) (source count : Nat) : Option (Option Block) :=
  if 0 < destMax ∧ destMax ≤ securecMemMaxLen ∧ count ≤ destMax then do
    let copied ← src.read source count
    let dst ← dst.write dest count (fun i => copied.getD i 0)
    return some dst
  else some none

/-- The rest of a function after a copy whose failure is the result `failed`. -/
def onCopied {α β : Type} (call : Option (Option α)) (failed : β) (rest : α → Option β) : Option β :=
  call.bind fun
    | some copied => rest copied
    | none => some failed

/-- The loop of `EncodeToString` over `remaining` entries from `item` on. -/
def encodeItems (metadata s : Block) (encodeData : Nat) (encodeDataLen : Int) (item : Nat) : Nat → Option (Option Block)
  | 0 => some (some s)
  | remaining+1 =>
    onCopied (memcpyS s metadata encodeData encodeDataLen item itemFixedLen) none fun s =>
    onCopied (memcpyS s metadata (encodeData + itemFixedLen) (encodeDataLen - itemFixedLen) (item + itemFixedLen)
      (itemLen - itemFixedLen)) none fun s =>
    encodeItems metadata s (encodeData + itemLen) (encodeDataLen - itemLen) (item + itemLen) remaining

/-- The string; the constructor of `std::string` throws when the length is negative. -/
def encodeToString (metadata : Block) : Option Block := do
  let itemCount ← metadata.read32 itemCountAt
  let dataCount ← metadata.read32 dataCountAt
  let encodeDataLen := (headerLength + itemLen * itemCount + dataCount) % 2^32
  if 2^31 ≤ encodeDataLen then none
  onCopied (memcpyS (Block.zeroed encodeDataLen) metadata 0 encodeDataLen 0 headerLength) (Block.zeroed 0) fun s => do
    let item ← getMetadataItems metadata 0
    onCopied (encodeItems metadata s headerLength (encodeDataLen - headerLength) item itemCount) (Block.zeroed 0) fun s =>
      if dataCount = 0 then some s
      else do
        let data ← getMetadataData metadata
        onCopied (memcpyS s metadata (headerLength + itemLen * itemCount)
          (encodeDataLen - headerLength - itemLen * itemCount) data dataCount) (Block.zeroed 0) some

/-- The loop of `DecodeFromString` from `index` on, with the position it leaves off at. The position grows by
    16 up to `totalLen`, so that `totalLen / 16 + 1` rounds are never used up. -/
def decodeItems (setting metadata : Block) (totalLen decodeData item index : Nat) : Nat → Option (Option (Block × Nat))
  | 0 => none
  | rounds+1 => do
    let itemCount ← metadata.read32 itemCountAt
    if index ≥ itemCount then return some (metadata, decodeData)
    if totalLen < decodeData + itemLen then return none
    let fixed ← setting.read decodeData itemFixedLen
    let metadata ← metadata.write item itemFixedLen (fun i => fixed.getD i 0)
    let data ← setting.read (decodeData + itemFixedLen) (itemLen - itemFixedLen)
    let metadata ← metadata.write (item + itemFixedLen) (itemLen - itemFixedLen) (fun i => data.getD i 0)
    decodeItems setting metadata totalLen (decodeData + itemLen) (item + itemLen) (index + 1) rounds

/-- The copy of the data at the end of `DecodeFromString`. -/
def decodeData (setting metadata : Block) (totalLen position : Nat) : Option (Option Block) := do
  let dataCount ← metadata.read32 dataCountAt
  if dataCount = 0 then return some metadata
  if totalLen < (position + dataCount) % 2^32 then return none
  if ¬ securecOk dataCount dataCount then return none
  let data ← getMetadataData metadata
  let copied ← setting.read position dataCount
  let metadata ← metadata.write data dataCount (fun i => copied.getD i 0)
  return some metadata

/-- `none` as the object for a null pointer. -/
def decodeFromString (setting : Block) (capacity : Nat) : Option (Option Block) := do
  let totalLen := capacity % 2^32
  if totalLen < headerLength then return none
  let copied ← setting.read 0 headerLength
  let header : Block := ⟨headerLength, fun i => copied.getD i 0⟩
  let itemCount ← header.read32 itemCountAt
  let header ← header.write32 itemCapacityAt itemCount
  let dataCount ← header.read32 dataCountAt
  let header ← header.write32 dataCapacityAt dataCount
  let metadata ← cameraMetadata itemCount dataCount
  let metadata ← metadata.write 0 headerLength header.byte
  let item ← getMetadataItems metadata 0
  let some (metadata, position) ← decodeItems setting metadata totalLen headerLength item 0 (totalLen / itemLen + 1)
    | return none
  decodeData setting metadata totalLen position

def entryFrom (b : Block) (a : Nat) : Entry := ⟨field b a, field b (a + 4), field b (a + 8), field b (a + itemFixedLen)⟩

def allocated (setting : Block) : Nat :=
  calculateCameraMetadataMemoryRequired (field setting itemCountAt) (alignTo (field setting dataCountAt) dataAlignment)

def copiedItems (setting : Block) (totalLen : Nat) :
    Nat := min (field setting itemCountAt) ((totalLen - headerLength) / itemLen)

/-- The buffer the decoder starts from: the found header over fresh zeros, with the capacities set to the counts. -/
structure Restored (setting metadata : Block) : Prop where
  size : metadata.size = allocated setting
  itemCount : field metadata itemCountAt = field setting itemCountAt
  itemCapacity : field metadata itemCapacityAt = field setting itemCountAt
  itemsStart : field metadata itemsStartAt = field setting itemsStartAt
  dataCount : field metadata dataCountAt = field setting dataCountAt
  dataCapacity : field metadata dataCapacityAt = field setting dataCountAt
  dataStart : field metadata dataStartAt = field setting dataStartAt

variable {setting : Block} {capacity : Nat}

theorem decodeFromString_short (short : capacity % 2^32 < headerLength) : decodeFromString setting capacity = some none := by
  simp only [decodeFromString, if_pos short, pure_def]

section
variable (long : headerLength ≤ capacity % 2^32)
include long

/-- The decoder up to the allocation: the header it goes on with is the found one with the capacities set to the counts. -/
theorem decodeFromString_start
    (readable : headerLength ≤ setting.size) :
    ∃ header : Block,
      (∀ {a}, a + 4 ≤ headerLength → (a + 4 ≤ itemCapacityAt ∨ itemCapacityAt + 4 ≤ a) →
        (a + 4 ≤ dataCapacityAt ∨ dataCapacityAt + 4 ≤ a) → field header a = field setting a) ∧
      field header itemCapacityAt = field setting itemCountAt ∧ field header dataCapacityAt = field setting dataCountAt ∧
      decodeFromString setting capacity =
        (cameraMetadata (field setting itemCountAt) (field setting dataCountAt)).bind fun metadata =>
        (metadata.write 0 headerLength header.byte).bind fun metadata =>
        (getMetadataItems metadata 0).bind fun item =>
        (decodeItems setting metadata (capacity % 2^32) headerLength item 0 (capacity % 2^32 / itemLen + 1)).bind fun
          | some (metadata, position) => decodeData setting metadata (capacity % 2^32) position
          | none => some none := by
  have copied : setting.read 0 headerLength = some (bytes (offset setting.byte 0) headerLength) :=
    if_pos (by omega)
  obtain ⟨header, is⟩ : ∃ header : Block,
      header = ⟨headerLength, fun i => (bytes (offset setting.byte 0) headerLength).getD i 0⟩ := ⟨_, rfl⟩
  have size : header.size = 32 := by rw [is]; rfl
  have header0 : ∀ {a}, a + 4 ≤ headerLength → field header a = field setting a := by
    intro a below
    apply load_congr
    intro i inside
    rw [is]
    simp only
    rw [List.getD_eq_getElem _ _ (by simp; omega), bytes_getElem, offset, Nat.zero_add]
  obtain ⟨header1, write1, size1, field1, keep1, _⟩ := write_field (b := header) (a := itemCapacityAt)
    (v := field setting itemCountAt) (by rw [size]; decide)
  obtain ⟨header2, write2, size2, field2, keep2, _⟩ := write_field (b := header1) (a := dataCapacityAt)
    (v := field setting dataCountAt) (by rw [size1, size]; decide)
  refine ⟨header2, ?_, ?_, ?_, ?_⟩
  · intro a below first second
    rw [keep2 _ second, keep1 _ first, header0 below]
  · rw [keep2 _ (by decide), field1, Nat.mod_eq_of_lt (field_lt _ _)]
  · rw [field2, Nat.mod_eq_of_lt (field_lt _ _)]
  · have count0 : header.read32 itemCountAt = some (field setting itemCountAt) := by
      rw [Block.read32_inside (by rw [size]; decide)]
      exact congrArg some (header0 (by decide))
    have count1 : header1.read32 dataCountAt = some (field setting dataCountAt) := by
      rw [Block.read32_inside (by rw [size1, size]; decide)]
      exact congrArg some ((keep1 _ (by decide)).trans (header0 (by decide)))
    simp only [decodeFromString, if_neg (show ¬ capacity % 2^32 < headerLength by omega), copied, ← is, count0, write1,
      count1, write2, bind_eq_bind, bind_some, pure_def]
    congr 1
    funext metadata
    congr 1
    funext metadata
    congr 1
    funext item
    congr 1
    funext result
    cases result <;> rfl

theorem decodeFromString_room {result : Option Block} (executed : decodeFromString setting capacity = some result) :
    headerLength ≤ setting.size ∧ headerLength ≤ allocated setting := by
  have readable : headerLength ≤ setting.size := by
    by_contra short
    have unread : setting.read 0 headerLength = none := if_neg (by omega)
    simp only [decodeFromString, if_neg (show ¬ capacity % 2^32 < headerLength by omega), unread,
      bind_eq_bind, bind_none, reduceCtorEq] at executed
  refine ⟨readable, ?_⟩
  obtain ⟨header, _, _, _, start⟩ := decodeFromString_start long readable
  rw [start] at executed
  obtain ⟨metadata, made, _⟩ := bind_eq_some_iff.mp executed
  rw [cameraMetadata, Nat.mod_eq_of_lt (field_lt setting itemCountAt)] at made
  exact fillCameraMetadata_room made

theorem decodeFromString_header
    (readable : headerLength ≤ setting.size) (room : headerLength ≤ allocated setting) :
    ∃ metadata, Restored setting metadata ∧ decodeFromString setting capacity =
      (decodeItems setting metadata (capacity % 2^32) headerLength (field setting itemsStartAt) 0
        (capacity % 2^32 / itemLen + 1)).bind fun
        | some (metadata, position) => decodeData setting metadata (capacity % 2^32) position
        | none => some none := by
  obtain ⟨header, kept, itemCapacity, dataCapacity, start⟩ := decodeFromString_start long readable
  have enough : headerLength ≤ (Block.zeroed (allocated setting)).size := room
  obtain ⟨b0, filled, size0, _⟩ := fillCameraMetadata_spec enough (allocated setting) (field setting itemCountAt)
    (alignTo (field setting dataCountAt) dataAlignment)
  have made : cameraMetadata (field setting itemCountAt) (field setting dataCountAt) = some b0 := by
    rw [cameraMetadata, Nat.mod_eq_of_lt (field_lt setting itemCountAt)]
    exact filled
  have final : ∀ {a}, a + 4 ≤ headerLength →
      field ⟨b0.size, patch b0.byte 0 headerLength header.byte⟩ a = field header a := by
    intro a below
    exact load_patch_inside (Nat.zero_le a) (by omega)
  have fitsAll : 0 + headerLength ≤ b0.size := by rw [size0, Nat.zero_add]; exact enough
  have itemsStart : field ⟨b0.size, patch b0.byte 0 headerLength header.byte⟩ itemsStartAt = field setting itemsStartAt := by
    rw [final (by decide), kept (by decide) (by decide) (by decide)]
  refine ⟨⟨b0.size, patch b0.byte 0 headerLength header.byte⟩, ⟨size0, ?_, ?_, itemsStart, ?_, ?_, ?_⟩, ?_⟩
  · rw [final (by decide), kept (by decide) (by decide) (by decide)]
  · rw [final (by decide), itemCapacity]
  · rw [final (by decide), kept (by decide) (by decide) (by decide)]
  · rw [final (by decide), dataCapacity]
  · rw [final (by decide), kept (by decide) (by decide) (by decide)]
  · have first : getMetadataItems ⟨b0.size, patch b0.byte 0 headerLength header.byte⟩ 0 =
        some (field setting itemsStartAt) := by
      rw [getMetadataItems, Block.read32_inside (by unfold itemsStartAt headerLength at *; simp only; omega)]
      exact congrArg some itemsStart
    rw [start, made]
    simp only [bind_some, Block.write_inside fitsAll, first]

end

theorem copyItem_eq {setting metadata : Block} {position item : Nat} {α : Type} (rest : Block → Option α) :
    ((setting.read position itemFixedLen).bind fun fixed =>
      (metadata.write item itemFixedLen (fun i => fixed.getD i 0)).bind fun metadata =>
      (setting.read (position + itemFixedLen) (itemLen - itemFixedLen)).bind fun data =>
      (metadata.write (item + itemFixedLen) (itemLen - itemFixedLen) (fun i => data.getD i 0)).bind rest) =
    if position + itemLen ≤ setting.size ∧ item + itemLen ≤ metadata.size then
      rest ⟨metadata.size, patch metadata.byte item itemLen (offset setting.byte position)⟩ else none := by
  have whole : itemFixedLen + (itemLen - itemFixedLen) = itemLen := by decide
  have outside : ∀ {fits : Prop}, ¬ fits → (position + itemLen ≤ setting.size ∧ item + itemLen ≤ metadata.size → fits) →
      (if position + itemLen ≤ setting.size ∧ item + itemLen ≤ metadata.size then
        rest ⟨metadata.size, patch metadata.byte item itemLen (offset setting.byte position)⟩ else none) = none :=
    fun out inside => if_neg (fun both => out (inside both))
  simp only [Block.read]
  by_cases first : position + itemFixedLen ≤ setting.size
  · simp only [if_pos first, bind_some, Block.write, patch_read]
    by_cases wrote : item + itemFixedLen ≤ metadata.size
    · simp only [if_pos wrote, bind_some]
      by_cases second : position + itemFixedLen + (itemLen - itemFixedLen) ≤ setting.size
      · simp only [if_pos second, bind_some, patch_read]
        by_cases wroteAll : item + itemFixedLen + (itemLen - itemFixedLen) ≤ metadata.size
        · rw [if_pos wroteAll, if_pos (by omega), ← offset_offset, patch_append, whole]
          rfl
        · rw [outside wroteAll (by omega), if_neg wroteAll]
          rfl
      · rw [outside second (by omega), if_neg second]
        rfl
    · rw [outside wrote (by omega), if_neg wrote]
      rfl
  · rw [outside first (by omega), if_neg first]
    rfl

theorem decodeItems_eq (setting : Block) {totalLen start itemCount copied : Nat} (long : headerLength ≤ totalLen)
    (is : copied = min itemCount ((totalLen - headerLength) / itemLen)) (apart : copied = 0 ∨ headerLength ≤ start)
    {metadata : Block} (counted : field metadata itemCountAt = itemCount) (room : headerLength ≤ metadata.size)
    {index rounds : Nat} (before : index ≤ copied) (enough : copied - index < rounds) :
    decodeItems setting metadata totalLen (headerLength + itemLen * index) (start + itemLen * index) index rounds =
      if index < copied ∧ ¬ (headerLength + itemLen * copied ≤ setting.size ∧ start + itemLen * copied ≤ metadata.size) then
        none else if copied < itemCount then some none
      else some (some (⟨metadata.size, patch metadata.byte (start + itemLen * index) (itemLen * (copied - index))
        (offset setting.byte (headerLength + itemLen * index))⟩, headerLength + itemLen * itemCount)) := by
  induction rounds generalizing index metadata with
  | zero => omega
  | succ rounds ih =>
    have readCount : metadata.read32 itemCountAt = some itemCount := by
      rw [← counted]
      exact Block.read32_inside (by unfold itemCountAt headerLength at *; omega)
    unfold headerLength at long is
    unfold itemLen at is
    simp only [decodeItems, readCount, bind_eq_bind, bind_some, pure_def]
    by_cases last : index = copied
    · rw [if_neg (show ¬ (index < copied ∧ _) by omega)]
      by_cases all : copied = itemCount
      · rw [if_pos (by omega), if_neg (by omega), last, Nat.sub_self, Nat.mul_zero, patch_zero, all]
      · rw [if_neg (by omega), if_pos (by unfold headerLength itemLen; omega), if_pos (by omega)]
    · rw [if_neg (by omega), if_neg (by unfold headerLength itemLen; omega), copyItem_eq]
      by_cases fits : headerLength + itemLen * index + itemLen ≤ setting.size ∧
          start + itemLen * index + itemLen ≤ metadata.size
      · have counted' : field ⟨metadata.size, patch metadata.byte (start + itemLen * index) itemLen
            (offset setting.byte (headerLength + itemLen * index))⟩ itemCountAt = itemCount := by
          rw [field_patch (.inl (by unfold itemCountAt headerLength at *; omega)), counted]
        have next := ih counted' room (show index + 1 ≤ copied by omega) (by omega)
        have advance : itemLen * (index + 1) = itemLen * index + itemLen := by unfold itemLen; omega
        rw [if_pos fits, Nat.add_assoc, Nat.add_assoc, ← advance, next]
        have joined : patch (patch metadata.byte (start + itemLen * index) itemLen
            (offset setting.byte (headerLength + itemLen * index))) (start + itemLen * (index + 1))
            (itemLen * (copied - (index + 1))) (offset setting.byte (headerLength + itemLen * (index + 1))) =
            patch metadata.byte (start + itemLen * index) (itemLen * (copied - index))
              (offset setting.byte (headerLength + itemLen * index)) := by
          rw [advance, ← Nat.add_assoc, ← Nat.add_assoc, ← offset_offset setting.byte _ itemLen, patch_append]
          congr 1
          unfold itemLen
          omega
        simp only [joined]
        by_cases inside : headerLength + itemLen * copied ≤ setting.size ∧ start + itemLen * copied ≤ metadata.size
        · simp only [inside, and_self, not_true_eq_false, and_false, if_false]
        · -- The entry fits and the last one does not, so it is not the last one.
          have more : index + 1 < copied := by
            by_contra none
            have is : index + 1 = copied := by omega
            rw [← is, advance] at inside
            omega
          rw [if_pos ⟨more, inside⟩, if_pos ⟨by omega, inside⟩]
      · rw [if_neg fits, if_pos ⟨by omega, by unfold itemLen at *; omega⟩]

theorem decodeData_eq {setting metadata : Block} {totalLen position : Nat} (room : headerLength ≤ metadata.size) :
    decodeData setting metadata totalLen position = if field metadata dataCountAt = 0 then some (some metadata)
      else if totalLen < (position + field metadata dataCountAt) % 2^32 ∨ 2^31 ≤ field metadata dataCountAt then some none
      else if position + field metadata dataCountAt ≤ setting.size ∧
          field metadata dataStartAt + field metadata dataCountAt ≤ metadata.size then
        some (some ⟨metadata.size, patch metadata.byte (field metadata dataStartAt) (field metadata dataCountAt)
          (offset setting.byte position)⟩) else none := by
  have count : metadata.read32 dataCountAt = some (field metadata dataCountAt) :=
    Block.read32_inside (by unfold dataCountAt headerLength at *; omega)
  have start : getMetadataData metadata = some (field metadata dataStartAt) :=
    Block.read32_inside (by unfold dataStartAt headerLength at *; omega)
  simp only [decodeData, count, start, bind_eq_bind, bind_some, pure_def]
  by_cases none : field metadata dataCountAt = 0
  · simp only [none, if_true]
  · rw [if_neg none, if_neg none]
    by_cases short : totalLen < (position + field metadata dataCountAt) % 2^32
    · rw [if_pos short, if_pos (.inl short)]
    · rw [if_neg short]
      by_cases long : 2^31 ≤ field metadata dataCountAt
      · have refused : ¬ securecOk (field metadata dataCountAt) (field metadata dataCountAt) = true := by
          rw [Store.securecOk_iff]; unfold securecMemMaxLen; omega
        rw [if_pos refused, if_pos (.inr long)]
      · have copied : securecOk (field metadata dataCountAt) (field metadata dataCountAt) = true := by
          rw [Store.securecOk_iff]; unfold securecMemMaxLen; omega
        rw [if_neg (by simpa using copied), if_neg (by omega)]
        by_cases readable : position + field metadata dataCountAt ≤ setting.size
        · simp only [Block.read, if_pos readable, bind_some, Block.write, patch_read]
          by_cases writable : field metadata dataStartAt + field metadata dataCountAt ≤ metadata.size
          · rw [if_pos writable, if_pos ⟨readable, writable⟩]
            rfl
          · rw [if_neg writable, if_neg (fun both => writable both.2)]
            rfl
        · rw [if_neg (fun both => readable both.1), Block.read, if_neg readable]
          rfl

def decoded (setting metadata : Block) : Block :=
  ⟨metadata.size, patch (patch metadata.byte (field setting itemsStartAt) (itemLen * field setting itemCountAt)
    (offset setting.byte headerLength)) (field setting dataStartAt) (field setting dataCountAt)
    (offset setting.byte (headerLength + itemLen * field setting itemCountAt))⟩

/-- The decoder in all cases in which the entries it copies do not lie over the header. -/
theorem decodeFromString_eq (long : headerLength ≤ capacity % 2^32)
    (readable : headerLength ≤ setting.size) (room : headerLength ≤ allocated setting)
    (apart : copiedItems setting (capacity % 2^32) = 0 ∨ headerLength ≤ field setting itemsStartAt) :
    ∃ metadata, Restored setting metadata ∧ decodeFromString setting capacity = if 0 < copiedItems setting (capacity % 2^32) ∧
          ¬ (headerLength + itemLen * copiedItems setting (capacity % 2^32) ≤ setting.size ∧
            field setting itemsStartAt + itemLen * copiedItems setting (capacity % 2^32) ≤ allocated setting) then none
      else if copiedItems setting (capacity % 2^32) < field setting itemCountAt then some none
      else if field setting dataCountAt = 0 then some (some (decoded setting metadata))
      else if capacity % 2^32 < (headerLength + itemLen * field setting itemCountAt + field setting dataCountAt) % 2^32 ∨
          2^31 ≤ field setting dataCountAt then some none
      else if headerLength + itemLen * field setting itemCountAt + field setting dataCountAt ≤ setting.size ∧
          field setting dataStartAt + field setting dataCountAt ≤ allocated setting then some (some (decoded setting metadata))
      else none := by
  obtain ⟨metadata, restored, start⟩ := decodeFromString_header long readable room
  refine ⟨metadata, restored, ?_⟩
  have enough : copiedItems setting (capacity % 2^32) - 0 < capacity % 2^32 / itemLen + 1 := by
    unfold copiedItems headerLength itemLen
    omega
  have copies : copiedItems setting (capacity % 2^32) =
    min (field setting itemCountAt) ((capacity % 2^32 - headerLength) / itemLen) := rfl
  have loop := decodeItems_eq setting long copies apart restored.itemCount (by rw [restored.size]; exact room)
    (Nat.zero_le _) enough
  simp only [Nat.mul_zero, Nat.add_zero, Nat.sub_zero, restored.size] at loop
  rw [start, loop]
  by_cases fault : 0 < copiedItems setting (capacity % 2^32) ∧
      ¬ (headerLength + itemLen * copiedItems setting (capacity % 2^32) ≤ setting.size ∧
        field setting itemsStartAt + itemLen * copiedItems setting (capacity % 2^32) ≤ allocated setting)
  · rw [if_pos fault, if_pos fault]
    rfl
  rw [if_neg fault, if_neg fault]
  by_cases few : copiedItems setting (capacity % 2^32) < field setting itemCountAt
  · rw [if_pos few, if_pos few]
    rfl
  rw [if_neg few, if_neg few]
  have all : copiedItems setting (capacity % 2^32) = field setting itemCountAt := by
    omega
  have header : ∀ {a}, a + 4 ≤ headerLength → field ⟨allocated setting, patch metadata.byte (field setting itemsStartAt)
      (itemLen * copiedItems setting (capacity % 2^32)) (offset setting.byte headerLength)⟩ a = field metadata a := by
    intro a below
    rcases apart with none | behind
    · rw [none, Nat.mul_zero, patch_zero]; rfl
    · exact load_patch_outside (.inl (by omega))
  simp only [bind_some]
  rw [decodeData_eq (by exact room), header (by decide), header (by decide), restored.dataCount, restored.dataStart]
  simp only [decoded, restored.size, all]
  split
  · rename_i none
    rw [none, patch_zero]
  · rfl

end Peripheral.Metadata
