import Peripheral.MetadataDecoding

/-!
The round trip of a metadata object through a string. The encoder writes only the
counted entries, but the header it copies still has the start of the data area
that goes with the capacity. The decoder allocates for the counts, so its buffer
fits the header exactly when the capacity was used up.
-/
namespace Peripheral.Metadata
open Peripheral.Bytes Peripheral.Tiling

theorem memcpyS_inside {dst src : Block} {dest source count : Nat} {destMax : Int} (some_ : 0 < destMax)
    (short : destMax ≤ securecMemMaxLen) (fits : (count : Int) ≤ destMax) (readable : source + count ≤ src.size)
    (writable : dest + count ≤ dst.size) : memcpyS dst src dest destMax source count =
      some (some ⟨dst.size, patch dst.byte dest count (offset src.byte source)⟩) := by
  unfold memcpyS
  rw [if_pos ⟨some_, short, fits⟩]
  simp only [Block.read, if_pos readable, Option.bind_eq_bind, Option.bind_some, Block.write_inside writable, patch_read,
    Option.pure_def]

theorem encodeItems_eq (metadata s : Block) (at_ remaining : Nat) {encodeDataLen : Int}
    (short : encodeDataLen ≤ securecMemMaxLen) (fits : ((itemLen * remaining : Nat) : Int) ≤ encodeDataLen)
    (readable : at_ + itemLen * remaining ≤ metadata.size) (writable : at_ + itemLen * remaining ≤ s.size) :
    encodeItems metadata s at_ encodeDataLen at_ remaining =
      some (some ⟨s.size, patch s.byte at_ (itemLen * remaining) (offset metadata.byte at_)⟩) := by
  induction remaining generalizing s at_ encodeDataLen with
  | zero => simp [encodeItems]
  | succ remaining ih =>
    have whole : itemFixedLen + (itemLen - itemFixedLen) = itemLen := by decide
    unfold itemLen at fits readable writable
    have first : memcpyS s metadata at_ encodeDataLen at_ itemFixedLen =
        some (some ⟨s.size, patch s.byte at_ itemFixedLen (offset metadata.byte at_)⟩) :=
      memcpyS_inside (by omega) short (by unfold itemFixedLen; omega) (by unfold itemFixedLen; omega)
        (by unfold itemFixedLen; omega)
    have second : memcpyS ⟨s.size, patch s.byte at_ itemFixedLen (offset metadata.byte at_)⟩ metadata
        (at_ + itemFixedLen) (encodeDataLen - itemFixedLen) (at_ + itemFixedLen) (itemLen - itemFixedLen) =
        some (some ⟨s.size, patch s.byte at_ itemLen (offset metadata.byte at_)⟩) := by
      rw [memcpyS_inside (by unfold itemFixedLen; omega) (by unfold itemFixedLen; omega)
        (by unfold itemLen itemFixedLen; omega) (by unfold itemLen itemFixedLen; omega)
        (by unfold itemLen itemFixedLen; simp only; omega), ← offset_offset, patch_append, whole]
    have advance : itemLen + itemLen * remaining = itemLen * (remaining + 1) := by unfold itemLen; omega
    have rest : encodeItems metadata ⟨s.size, patch s.byte at_ itemLen (offset metadata.byte at_)⟩ (at_ + itemLen)
        (encodeDataLen - itemLen) (at_ + itemLen) remaining =
        some (some ⟨s.size, patch s.byte at_ (itemLen * (remaining + 1)) (offset metadata.byte at_)⟩) := by
      rw [ih _ _ (by unfold itemLen; omega) (by unfold itemLen; omega) (by unfold itemLen; omega)
        (by unfold itemLen; simp only; omega), ← offset_offset, patch_append, advance]
    simp only [encodeItems, first, second, onCopied, Option.bind_some, rest]

def encoded (b : Block) : Block :=
  ⟨headerLength + itemLen * field b itemCountAt + field b dataCountAt,
    patch (patch (patch (fun _ => 0) 0 headerLength (offset b.byte 0)) headerLength (itemLen * field b itemCountAt)
      (offset b.byte headerLength)) (headerLength + itemLen * field b itemCountAt) (field b dataCountAt)
      (offset b.byte (field b dataStartAt))⟩

namespace Represents
variable {b : Block} {s : Store}

theorem encodeToString_eq (rep : Represents b s)
    (short : headerLength + itemLen * field b itemCountAt + field b dataCountAt < 2^31) :
    encodeToString b = some (encoded b) := by
  have room := rep.room
  have itemsFit := rep.itemsFit
  have dataFits := rep.dataFits
  have count := rep.itemCount
  have dataCount := rep.dataCount
  have area := rep.dataStart
  unfold dataAt headerLength itemLen at room
  have size : field b dataStartAt + field b dataCountAt ≤ b.size := by
    rw [area, dataCount]; unfold dataAt headerLength itemLen; omega
  have array : headerLength + itemLen * field b itemCountAt ≤ b.size := by
    rw [count]; unfold headerLength itemLen; omega
  have readCount : b.read32 itemCountAt = some (field b itemCountAt) := rep.read_field (by decide)
  have readData : b.read32 dataCountAt = some (field b dataCountAt) := rep.read_field (by decide)
  have items : getMetadataItems b 0 = some headerLength := rep.read_items 0
  have start : getMetadataData b = some (field b dataStartAt) := rep.read_field (by decide)
  generalize length : headerLength + itemLen * field b itemCountAt + field b dataCountAt = total at short
  have headerCopy : memcpyS (Block.zeroed total) b 0 total 0 headerLength =
      some (some ⟨total, patch (fun _ => 0) 0 headerLength (offset b.byte 0)⟩) := by
    rw [memcpyS_inside (by unfold headerLength at *; omega) (by unfold securecMemMaxLen; omega) (by omega) (by omega)
      (by simp only [Block.zeroed]; omega)]
    rfl
  have itemsCopy := encodeItems_eq b ⟨total, patch (fun _ => 0) 0 headerLength (offset b.byte 0)⟩ headerLength
    (field b itemCountAt) (show (total : Int) - headerLength ≤ securecMemMaxLen by unfold securecMemMaxLen; omega)
    (by omega) array (by simp only; omega)
  simp only [encodeToString, readCount, readData, Option.bind_eq_bind, Option.bind_some, length,
    Nat.mod_eq_of_lt (show total < 2^32 by omega), if_neg (show ¬ 2^31 ≤ total by omega), headerCopy, onCopied, items,
    itemsCopy, start, encoded]
  by_cases none : field b dataCountAt = 0
  · rw [if_pos none, none, patch_zero]
  · rw [if_neg none, memcpyS_inside (by omega) (by unfold securecMemMaxLen; omega) (by omega) size
      (by simp only; omega)]
    rfl

theorem encodeToString_long (rep : Represents b s) (layout : LayoutFits s.itemCapacity s.dataCapacity)
    (long : 2^31 ≤ headerLength + itemLen * field b itemCountAt + field b dataCountAt) : encodeToString b = none := by
  have itemsFit := rep.itemsFit
  have dataFits := rep.dataFits
  have readCount : b.read32 itemCountAt = some (field b itemCountAt) := rep.read_field (by decide)
  have readData : b.read32 dataCountAt = some (field b dataCountAt) := rep.read_field (by decide)
  have bound : headerLength + itemLen * field b itemCountAt + field b dataCountAt < 2^32 := by
    rw [rep.itemCount, rep.dataCount]
    unfold LayoutFits headerLength itemLen at *
    omega
  simp only [encodeToString, readCount, readData, Option.bind_eq_bind, Option.bind_some, Nat.mod_eq_of_lt bound, if_pos long]
  rfl

end Represents

section
variable {b : Block}

theorem encoded_header {a : Nat} (header : a + 4 ≤ headerLength) : field (encoded b) a = field b a := by
  unfold encoded field
  rw [load_patch_outside (.inl (by omega)), load_patch_outside (.inl (by omega)),
    load_patch_inside (by omega) (by omega), load_offset, Nat.zero_add, Nat.sub_zero]

theorem encoded_entry {i : Nat} (inside : i < field b itemCountAt) :
    entryFrom (encoded b) (headerLength + itemLen * i) = slot b i := by
  have ends : itemLen * i + itemLen ≤ itemLen * field b itemCountAt := by unfold itemLen; omega
  unfold encoded
  rw [entryFrom_patch_outside (b := ⟨headerLength + itemLen * field b itemCountAt + field b dataCountAt,
      patch (patch (fun _ => 0) 0 headerLength (offset b.byte 0)) headerLength (itemLen * field b itemCountAt)
      (offset b.byte headerLength)⟩) (by omega),
    entryFrom_patch_inside (b := ⟨_, patch (fun _ => 0) 0 headerLength (offset b.byte 0)⟩) (by omega) (by omega),
    Nat.add_sub_cancel_left]
  rfl

theorem encoded_data {x : Nat} (inside : x < field b dataCountAt) :
    (encoded b).byte (headerLength + itemLen * field b itemCountAt + x) = b.byte (field b dataStartAt + x) := by
  unfold encoded
  simp only
  rw [patch_inside (by omega) (by omega), Nat.add_sub_cancel_left, offset]

end

theorem decoded_size (setting metadata : Block) : (decoded setting metadata).size = metadata.size := rfl

namespace Represents
variable {b metadata : Block} {s : Store}

theorem encoded_separate (rep : Represents b s) : Separate (encoded b) := by
  have itemsFit := rep.itemsFit
  refine ⟨.inr ?_, .inr ⟨?_, .inr (.inr ?_)⟩⟩
  · rw [encoded_header (by decide), rep.itemsStart]
  · rw [encoded_header (by decide), rep.dataStart]
    unfold dataAt
    omega
  · rw [encoded_header (by decide), encoded_header (by decide), encoded_header (by decide), rep.itemsStart,
      rep.itemCount, rep.dataStart]
    unfold dataAt itemLen
    omega

theorem encoded_allocated (rep : Represents b s) (tiled : s.Tiled)
    (short : headerLength + itemLen * field b itemCountAt + field b dataCountAt < 2^31) :
    allocated (encoded b) = headerLength + itemLen * field b itemCountAt + field b dataCountAt := by
  have aligned : 8 ∣ field b dataCountAt := by rw [rep.dataCount]; exact tiled.tiles.ends
  unfold headerLength itemLen at short
  have even : alignTo (field b dataCountAt) dataAlignment = field b dataCountAt := by
    rw [dataAlignment, alignTo_eight_small (by omega)]
    omega
  unfold allocated
  rw [encoded_header (by decide), encoded_header (by decide), even,
    memoryRequired_eq (by unfold LayoutFits headerLength itemLen; omega)]
  unfold headerLength itemLen
  omega

theorem decodeFromString_encoded (rep : Represents b s) (tiled : s.Tiled)
    (short : headerLength + itemLen * field b itemCountAt + field b dataCountAt < 2^31) {capacity : Nat}
    (holds : (encoded b).size ≤ capacity) (bound : capacity < 2^32) :
    ∃ metadata, Restored (encoded b) metadata ∧ decodeFromString (encoded b) capacity =
      if field b dataCountAt = 0 ∨ field b itemCountAt = field b itemCapacityAt then some (some (decoded (encoded b) metadata))
      else none := by
  have room := rep.encoded_allocated tiled short
  have itemsFit := rep.itemsFit
  have size : (encoded b).size = headerLength + itemLen * field b itemCountAt + field b dataCountAt := rfl
  have total : capacity % 2^32 = capacity := Nat.mod_eq_of_lt bound
  have all : copiedItems (encoded b) capacity = field b itemCountAt := by
    unfold copiedItems
    rw [encoded_header (by decide)]
    unfold headerLength itemLen at *
    omega
  obtain ⟨metadata, restored, is⟩ := decodeFromString_eq
    (show headerLength ≤ capacity % 2^32 by omega) (show headerLength ≤ (encoded b).size by omega) (by omega)
    (.inr (by rw [encoded_header (by decide), rep.itemsStart]))
  refine ⟨metadata, restored, ?_⟩
  rw [is, total, all]
  have itemCount : field (encoded b) itemCountAt = field b itemCountAt := encoded_header (by decide)
  have dataCount : field (encoded b) dataCountAt = field b dataCountAt := encoded_header (by decide)
  have itemsStart : field (encoded b) itemsStartAt = headerLength := by
    rw [encoded_header (by decide), rep.itemsStart]
  have dataStart : field (encoded b) dataStartAt = dataAt (field b itemCapacityAt) := by
    rw [encoded_header (by decide), rep.dataStart, rep.itemCapacity]
  rw [itemCount, dataCount, itemsStart, dataStart, room, size, if_neg (by omega), if_neg (by omega),
    Nat.mod_eq_of_lt (show headerLength + itemLen * field b itemCountAt + field b dataCountAt < 2^32 by omega)]
  by_cases none : field b dataCountAt = 0
  · rw [if_pos none, if_pos (.inl none)]
  · rw [if_neg none, if_neg (by omega)]
    rw [rep.itemCount, rep.itemCapacity] at *
    by_cases full : s.entries.length = s.itemCapacity
    · rw [if_pos (by unfold dataAt; rw [full]; omega), if_pos (.inr full)]
    · rw [if_neg (by unfold dataAt itemLen; omega), if_neg (by omega)]

/-- The decoded buffer holds the store with its capacities cut down to the counts. -/
theorem decoded_represents (rep : Represents b s) (tiled : s.Tiled)
    (short : headerLength + itemLen * field b itemCountAt + field b dataCountAt < 2^31)
    (full : field b itemCountAt = field b itemCapacityAt) (restored : Restored (encoded b) metadata) :
    Represents (decoded (encoded b) metadata) (s.grown s.itemCapacity s.dataCount) := by
  have separate := rep.encoded_separate
  have room := rep.encoded_allocated tiled short
  rw [rep.itemCount, rep.itemCapacity] at full
  refine ⟨?_, ?_, ?_, ?_, ?_, ?_, ?_, ?_, ?_, rep.itemsFit, Nat.le_refl _⟩
  · rw [decoded_header separate (by decide), restored.itemsStart, encoded_header (by decide), rep.itemsStart]
  · rw [decoded_header separate (by decide), restored.dataStart, encoded_header (by decide), rep.dataStart]
    rfl
  · rw [decoded_header separate (by decide), restored.itemCapacity, encoded_header (by decide), rep.itemCount, full]
    rfl
  · rw [decoded_header separate (by decide), restored.dataCapacity, encoded_header (by decide), rep.dataCount]
    rfl
  · rw [decoded_header separate (by decide), restored.itemCount, encoded_header (by decide), rep.itemCount]
    rfl
  · rw [decoded_header separate (by decide), restored.dataCount, encoded_header (by decide), rep.dataCount]
    rfl
  · intro i e found
    have inside : i < field b itemCountAt := by
      rw [rep.itemCount]; exact (List.getElem?_eq_some_iff.mp found).1
    have entry := decoded_entry metadata separate (i := i)
      (by rw [encoded_header (by decide)]; exact inside)
    rw [encoded_header (by decide), rep.itemsStart, encoded_entry inside] at entry
    exact entry.trans (rep.entries found)
  · intro x below
    have below : x < field b dataCountAt := by rw [rep.dataCount]; exact below
    have start : field (encoded b) dataStartAt = dataAt s.itemCapacity := by
      rw [encoded_header (by decide), rep.dataStart]
    have count : field (encoded b) dataCountAt = field b dataCountAt := encoded_header (by decide)
    have items : field (encoded b) itemCountAt = field b itemCountAt := encoded_header (by decide)
    have copied := encoded_data below
    have fits := rep.dataFits
    rw [rep.dataStart] at copied
    simp only [decoded, Store.grown, start, count, items]
    rw [patch_inside (by omega) (by omega), Nat.add_sub_cancel_left, offset, copied,
      patch_inside (by omega) (by rw [← rep.dataCount]; omega), Nat.sub_zero]
    exact rep.data x (by rw [rep.dataCount] at below; omega)
  · have size : (decoded (encoded b) metadata).size = dataAt s.itemCapacity + s.dataCount := by
      rw [decoded_size, restored.size, room, rep.itemCount, rep.dataCount, full, dataAt]
    exact le_of_eq size.symm

end Represents

/-- The start and the capacities describe the buffer that was allocated, and later calls stay inside it. -/
structure DescribesBuffer (b : Block) : Prop where
  array : field b itemsStartAt + itemLen * field b itemCapacityAt ≤ field b dataStartAt
  data : field b dataStartAt + field b dataCapacityAt ≤ b.size
  calls : ∀ calls, Along SmallPayload b calls → Along (fun b call => ¬ Immovable b call) b calls → (run b calls).isSome

/-- The string of the buffer is decoded to a store with the same items, whatever capacity the string has. -/
def RoundTrips (b : Block) : Prop :=
  ∃ text, encodeToString b = some text ∧ ∀ capacity, text.size ≤ capacity → capacity < 2^32 →
    ∃ b' items, decodeFromString text capacity = some (some b') ∧ readItems b = some items ∧
      readItems b' = some items ∧ DescribesBuffer b'

theorem Represents.describesBuffer {b : Block} {s : Store} (rep : Represents b s) (tiled : s.Tiled) : DescribesBuffer b := by
  refine ⟨?_, ?_, ?_⟩
  · rw [rep.itemsStart, rep.itemCapacity, rep.dataStart, dataAt]
  · rw [rep.dataStart, rep.dataCapacity]
    exact rep.room
  · intro calls small movable
    obtain ⟨b', executed, _⟩ := rep.run_spec tiled small movable
    rw [executed]
    rfl

theorem Represents.roundTrips_iff {b : Block} {s : Store} (rep : Represents b s) (tiled : s.Tiled)
    (layout : LayoutFits s.itemCapacity s.dataCapacity) : RoundTrips b ↔ field b itemCountAt = field b itemCapacityAt ∧
      headerLength + itemLen * field b itemCountAt + field b dataCountAt < 2^31 := by
  have read := rep.readItems_spec (fun e member => rep.readable_of_tiled tiled member)
  constructor
  · rintro ⟨text, encodes, decodes⟩
    have short : headerLength + itemLen * field b itemCountAt + field b dataCountAt < 2^31 := by
      by_contra long
      rw [rep.encodeToString_long layout (by omega)] at encodes
      cases encodes
    refine ⟨?_, short⟩
    rw [rep.encodeToString_eq short] at encodes
    cases encodes
    have size : (encoded b).size = headerLength + itemLen * field b itemCountAt + field b dataCountAt := rfl
    obtain ⟨b', items, executed, _, _, describes⟩ := decodes (encoded b).size (Nat.le_refl _) (by omega)
    obtain ⟨metadata, restored, is⟩ := rep.decodeFromString_encoded tiled short (Nat.le_refl _) (by omega)
    rw [is] at executed
    by_contra spare
    split at executed
    · rename_i none
      have none := none.resolve_right spare
      have result : decoded (encoded b) metadata = b' := Option.some.inj (Option.some.inj executed)
      -- Without data there is nothing to copy, and the start of the data area is behind the buffer.
      have data := describes.data
      rw [← result, decoded_header rep.encoded_separate (by decide), decoded_header rep.encoded_separate (by decide),
        restored.dataStart, restored.dataCapacity, encoded_header (by decide), encoded_header (by decide),
        rep.dataStart] at data
      rw [decoded_size, restored.size, rep.encoded_allocated tiled short] at data
      have fits := rep.itemsFit
      rw [rep.itemCount, rep.itemCapacity] at spare
      rw [rep.itemCount] at data
      unfold dataAt itemLen at data
      omega
    · cases executed
  · rintro ⟨full, short⟩
    refine ⟨encoded b, rep.encodeToString_eq short, ?_⟩
    intro capacity holds bound
    obtain ⟨metadata, restored, is⟩ := rep.decodeFromString_encoded tiled short holds bound
    rw [if_pos (.inr full)] at is
    have rep' := rep.decoded_represents tiled short full restored
    have tiled' := Store.grown_tiled tiled s.itemCapacity s.dataCount
    refine ⟨_, s.items, is, read, ?_, rep'.describesBuffer tiled'⟩
    rw [rep'.readItems_spec (fun e member => rep'.readable_of_tiled tiled' member), Store.grown_items tiled]

/-- An object survives the round trip exactly when its item capacity is used up and its string is not too long. -/
theorem roundTrips_iff_full {b : Block} (reached : Reachable LayoutFits CleanCall b) :
    RoundTrips b ↔ field b itemCountAt = field b itemCapacityAt ∧
      headerLength + itemLen * field b itemCountAt + field b dataCountAt < 2^31 := by
  obtain ⟨s, rep, tiled, layout⟩ := reached.represents
  exact rep.roundTrips_iff tiled layout

/-- A full object. -/
theorem roundTrips_one_of_one : ∃ b, Reachable LayoutFits CleanCall b ∧ field b itemCountAt = 1 ∧ RoundTrips b := by
  obtain ⟨b, s, reached, rep, _, _, capacity, _, entries, data⟩ :=
    one_long 1 (by decide) (by unfold LayoutFits; decide)
  refine ⟨b, reached, by rw [rep.itemCount, entries]; rfl, (roundTrips_iff_full reached).mpr ?_⟩
  rw [rep.itemCount, rep.itemCapacity, rep.dataCount, capacity, entries, data]
  decide

/-- An object with room for a second item. -/
theorem not_roundTrips_one_of_two :
    ∃ b, Reachable LayoutFits CleanCall b ∧ field b itemCountAt = 1 ∧ field b itemCapacityAt = 2 ∧ ¬ RoundTrips b := by
  obtain ⟨b, s, reached, rep, tiled, layout, capacity, _, entries, _⟩ :=
    one_long 2 (by decide) (by unfold LayoutFits; decide)
  refine ⟨b, reached, by rw [rep.itemCount, entries]; rfl, by rw [rep.itemCapacity, capacity], ?_⟩
  rw [rep.roundTrips_iff tiled layout, rep.itemCount, rep.itemCapacity, entries, capacity]
  simp

end Peripheral.Metadata
