import Peripheral.MetadataText

/-!
When the decoder of metadata strings is safe. It believes the counts and the
starts of the header it reads and measures the string by its capacity, so that
what it reads and writes, and what the store it returns describes, is inside the
string and the buffer only for some strings.
-/
namespace Peripheral.Metadata
open Peripheral.Bytes

/-- A store whose entries, intervals and data are inside the buffer that was allocated for it. -/
structure WellPlaced (b : Block) : Prop where
  items : field b itemCountAt ≤ field b itemCapacityAt
  intervals : ∀ i < field b itemCountAt, (entryFrom b (field b itemsStartAt + itemLen * i)).size ≠ 0 →
    (entryFrom b (field b itemsStartAt + itemLen * i)).data + (entryFrom b (field b itemsStartAt + itemLen * i)).size ≤
      field b dataCountAt
  data : field b dataStartAt + field b dataCountAt ≤ b.size
  array : field b itemsStartAt + itemLen * field b itemCapacityAt ≤ b.size

/-- The decoder reads only the string, writes only its buffer, and returns null or a well placed store. -/
def SafelyDecoded (setting : Block) (capacity : Nat) : Prop :=
  ∃ result, decodeFromString setting capacity = some result ∧ ∀ b, result = some b → WellPlaced b

/-- Entries and data that the header places outside the header and outside each other. -/
def Separate (setting : Block) : Prop :=
  (field setting itemCountAt = 0 ∨ headerLength ≤ field setting itemsStartAt) ∧
  (field setting dataCountAt = 0 ∨ (headerLength ≤ field setting dataStartAt ∧ (field setting itemCountAt = 0 ∨
    field setting dataStartAt + field setting dataCountAt ≤ field setting itemsStartAt ∨
    field setting itemsStartAt + itemLen * field setting itemCountAt ≤ field setting dataStartAt)))

/-- The entries that are copied before the decoder stops are inside the string and the buffer. -/
def ItemsInside (setting : Block) (totalLen : Nat) : Prop :=
  copiedItems setting totalLen = 0 ∨ (headerLength ≤ field setting itemsStartAt ∧
    headerLength + itemLen * copiedItems setting totalLen ≤ setting.size ∧
    field setting itemsStartAt + itemLen * copiedItems setting totalLen ≤ allocated setting)

/-- The decoder returns null after the header: the length it goes by is too short, or the data is too long to copy. -/
def Refused (setting : Block) (totalLen : Nat) : Prop :=
  copiedItems setting totalLen < field setting itemCountAt ∨ (field setting dataCountAt ≠ 0 ∧
    (totalLen < (headerLength + itemLen * field setting itemCountAt + field setting dataCountAt) % 2^32 ∨
      2^31 ≤ field setting dataCountAt))

/-- The header describes the string and the buffer allocated for its counts. -/
def Described (setting : Block) : Prop :=
  field setting itemsStartAt + itemLen * field setting itemCountAt ≤ allocated setting ∧
  field setting dataStartAt + field setting dataCountAt ≤ allocated setting ∧
  (field setting dataCountAt = 0 ∨
    headerLength + itemLen * field setting itemCountAt + field setting dataCountAt ≤ setting.size) ∧
  Separate setting ∧
  ∀ i < field setting itemCountAt, (entryFrom setting (headerLength + itemLen * i)).size ≠ 0 →
    (entryFrom setting (headerLength + itemLen * i)).data + (entryFrom setting (headerLength + itemLen * i)).size ≤
      field setting dataCountAt

/-- The strings, with their capacities, for which the decoder is safe. -/
def Sound (setting : Block) (capacity : Nat) : Prop :=
  capacity % 2^32 < headerLength ∨
  (headerLength ≤ setting.size ∧ headerLength ≤ allocated setting ∧ ItemsInside setting (capacity % 2^32) ∧
    (Refused setting (capacity % 2^32) ∨ Described setting))

section
variable {setting metadata : Block}

theorem entryFrom_patch_outside {b : Block} {a n x : Nat} {src : Mem} (out : x + itemLen ≤ a ∨ a + n ≤ x) :
    entryFrom ⟨b.size, patch b.byte a n src⟩ x = entryFrom b x := by
  unfold itemLen at out
  unfold entryFrom itemFixedLen
  rw [field_patch (by omega), field_patch (by omega), field_patch (by omega), field_patch (by omega)]

theorem entryFrom_patch_inside {b src : Block} {a n p x : Nat} (low : a ≤ x) (high : x + itemLen ≤ a + n) :
    entryFrom ⟨b.size, patch b.byte a n (offset src.byte p)⟩ x = entryFrom src (p + (x - a)) := by
  unfold itemLen at high
  have moved : ∀ {k}, k + 4 ≤ 16 →
      field ⟨b.size, patch b.byte a n (offset src.byte p)⟩ (x + k) = field src (p + (x - a) + k) := by
    intro k part
    unfold field
    rw [load_patch_inside (by omega) (by omega), load_offset]
    congr 1
    omega
  exact Entry.ext (moved (k := 0) (by omega)) (moved (by omega)) (moved (by omega)) (moved (by decide))

theorem decoded_header (separate : Separate setting) {a : Nat} (header : a + 4 ≤ headerLength) :
    field (decoded setting metadata) a = field metadata a := by
  have items : field ⟨metadata.size, patch metadata.byte (field setting itemsStartAt)
      (itemLen * field setting itemCountAt) (offset setting.byte headerLength)⟩ a = field metadata a := by
    rcases separate.1 with none | behind
    · rw [none, Nat.mul_zero, patch_zero]
    · exact field_patch (.inl (by omega))
  rw [← items]
  rcases separate.2 with none | ⟨behind, _⟩
  · unfold decoded
    rw [none, patch_zero]
  · exact load_patch_outside (.inl (by omega))

theorem decoded_entry (metadata : Block) (separate : Separate setting) {i : Nat} (inside : i < field setting itemCountAt) :
    entryFrom (decoded setting metadata) (field setting itemsStartAt + itemLen * i) =
      entryFrom setting (headerLength + itemLen * i) := by
  have ends : itemLen * i + itemLen ≤ itemLen * field setting itemCountAt := by unfold itemLen; omega
  have items : entryFrom ⟨metadata.size, patch metadata.byte (field setting itemsStartAt)
      (itemLen * field setting itemCountAt) (offset setting.byte headerLength)⟩ (field setting itemsStartAt + itemLen * i) =
      entryFrom setting (headerLength + itemLen * i) := by
    rw [entryFrom_patch_inside (by omega) (by omega), Nat.add_sub_cancel_left]
  rw [← items]
  rcases separate.2 with none | ⟨_, apart⟩
  · unfold decoded
    rw [none, patch_zero]
  · exact entryFrom_patch_outside
      (b := ⟨metadata.size, patch metadata.byte (field setting itemsStartAt)
        (itemLen * field setting itemCountAt) (offset setting.byte headerLength)⟩) (by omega)

theorem decoded_wellPlaced (restored : Restored setting metadata) (separate : Separate setting) :
    WellPlaced (decoded setting metadata) ↔
      field setting itemsStartAt + itemLen * field setting itemCountAt ≤ allocated setting ∧
      field setting dataStartAt + field setting dataCountAt ≤ allocated setting ∧
      ∀ i < field setting itemCountAt, (entryFrom setting (headerLength + itemLen * i)).size ≠ 0 →
        (entryFrom setting (headerLength + itemLen * i)).data + (entryFrom setting (headerLength + itemLen * i)).size ≤
          field setting dataCountAt := by
  have itemCount : field (decoded setting metadata) itemCountAt = field setting itemCountAt := by
    rw [decoded_header separate (by decide), restored.itemCount]
  have itemCapacity : field (decoded setting metadata) itemCapacityAt = field setting itemCountAt := by
    rw [decoded_header separate (by decide), restored.itemCapacity]
  have itemsStart : field (decoded setting metadata) itemsStartAt = field setting itemsStartAt := by
    rw [decoded_header separate (by decide), restored.itemsStart]
  have dataCount : field (decoded setting metadata) dataCountAt = field setting dataCountAt := by
    rw [decoded_header separate (by decide), restored.dataCount]
  have dataStart : field (decoded setting metadata) dataStartAt = field setting dataStartAt := by
    rw [decoded_header separate (by decide), restored.dataStart]
  have size : (decoded setting metadata).size = allocated setting := restored.size
  constructor
  · rintro ⟨_, intervals, data, array⟩
    rw [itemsStart, itemCapacity, size] at array
    rw [dataStart, dataCount, size] at data
    refine ⟨array, data, fun i inside outside => ?_⟩
    have bounded := intervals i (by rw [itemCount]; exact inside)
    rw [itemsStart, decoded_entry metadata separate inside, dataCount] at bounded
    exact bounded outside
  · rintro ⟨array, data, intervals⟩
    refine ⟨by rw [itemCount, itemCapacity], ?_, by rw [dataStart, dataCount, size]; exact data,
      by rw [itemsStart, itemCapacity, size]; exact array⟩
    intro i inside
    rw [itemCount] at inside
    rw [itemsStart, decoded_entry metadata separate inside, dataCount]
    exact intervals i inside

end

theorem safelyDecoded_of_sound {setting : Block} {capacity : Nat} (sound : Sound setting capacity) :
    SafelyDecoded setting capacity := by
  by_cases short : capacity % 2^32 < headerLength
  · exact ⟨none, decodeFromString_short short, by simp⟩
  rcases sound with short' | ⟨readable, room, inside, rest⟩
  · exact absurd short' short
  have apart : copiedItems setting (capacity % 2^32) = 0 ∨ headerLength ≤ field setting itemsStartAt :=
    inside.imp_right And.left
  obtain ⟨metadata, restored, is⟩ := decodeFromString_eq (by omega) readable room apart
  rw [if_neg (by rintro ⟨some_, out⟩; rcases inside with none | ⟨_, both⟩; omega; exact out both)] at is
  by_cases few : copiedItems setting (capacity % 2^32) < field setting itemCountAt
  · rw [if_pos few] at is
    exact ⟨none, is, by simp⟩
  rw [if_neg few] at is
  have placed : Described setting → ∀ b, some (decoded setting metadata) = some b → WellPlaced b := by
    rintro ⟨array, data, _, separate, intervals⟩ b same
    rw [← Option.some.inj same]
    exact (decoded_wellPlaced restored separate).mpr ⟨array, data, intervals⟩
  by_cases refused : field setting dataCountAt ≠ 0 ∧
      (capacity % 2^32 < (headerLength + itemLen * field setting itemCountAt + field setting dataCountAt) % 2^32 ∨
        2^31 ≤ field setting dataCountAt)
  · rw [if_neg refused.1, if_pos refused.2] at is
    exact ⟨none, is, by simp⟩
  have described : Described setting := by
    rcases rest with (less | again) | described
    · exact absurd less few
    · exact absurd again refused
    · exact described
  by_cases none : field setting dataCountAt = 0
  · rw [if_pos none] at is
    exact ⟨_, is, placed described⟩
  · have fits : headerLength + itemLen * field setting itemCountAt + field setting dataCountAt ≤ setting.size :=
      described.2.2.1.resolve_left none
    rw [if_neg none, if_neg (fun again => refused ⟨none, again⟩), if_pos ⟨fits, described.2.1⟩] at is
    exact ⟨_, is, placed described⟩

theorem sound_of_safelyDecoded {setting : Block} {capacity : Nat} (separate : Separate setting)
    (safe : SafelyDecoded setting capacity) : Sound setting capacity := by
  obtain ⟨result, executed, placed⟩ := safe
  by_cases short : capacity % 2^32 < headerLength
  · exact .inl short
  obtain ⟨readable, room⟩ := decodeFromString_room (by omega) executed
  have apart : copiedItems setting (capacity % 2^32) = 0 ∨ headerLength ≤ field setting itemsStartAt := by
    refine separate.1.imp_left (fun none => ?_)
    unfold copiedItems
    rw [none, Nat.zero_min]
  obtain ⟨metadata, restored, is⟩ := decodeFromString_eq (by omega) readable room apart
  rw [is] at executed
  have described : result = some (decoded setting metadata) →
      (field setting dataCountAt = 0 ∨
        headerLength + itemLen * field setting itemCountAt + field setting dataCountAt ≤ setting.size) →
      Described setting := by
    intro returned fits
    obtain ⟨array, data, intervals⟩ := (decoded_wellPlaced restored separate).mp (placed _ returned)
    exact ⟨array, data, fits, separate, intervals⟩
  refine .inr ⟨readable, room, ?_, ?_⟩
  · by_cases none : copiedItems setting (capacity % 2^32) = 0
    · exact .inl none
    · refine .inr ⟨apart.resolve_left none, ?_⟩
      by_contra out
      rw [if_pos ⟨by omega, out⟩] at executed
      cases executed
  · split at executed
    · cases executed
    · split at executed
      · rename_i few
        exact .inl (.inl few)
      · split at executed
        · rename_i none
          exact .inr (described (Option.some.inj executed).symm (.inl none))
        · rename_i none
          split at executed
          · rename_i refused
            exact .inl (.inr ⟨none, refused⟩)
          · split at executed
            · rename_i fits
              exact .inr (described (Option.some.inj executed).symm (.inr fits.1))
            · cases executed

/-- A sound string is decoded safely, and of the strings whose parts are separate no other is. -/
theorem safelyDecoded_iff_sound (setting : Block) (capacity : Nat) : (Sound setting capacity → SafelyDecoded setting capacity) ∧
      (Separate setting → SafelyDecoded setting capacity → Sound setting capacity) :=
  ⟨safelyDecoded_of_sound, sound_of_safelyDecoded⟩

def placed : Block := ⟨48, fun i => if i = 8 ∨ i = 12 then 1 else if i = 16 then 32 else if i = 28 then 48 else 0⟩

theorem placed_safelyDecoded : SafelyDecoded placed 48 := by
  apply (safelyDecoded_iff_sound placed 48).1
  have one : field placed itemCountAt = 1 := by decide
  refine .inr ⟨by decide, by decide, .inr (by decide), .inr ⟨by decide, by decide, .inl (by decide), ?_, ?_⟩⟩
  · exact ⟨.inr (by decide), .inl (by decide)⟩
  · intro i inside
    have first : i = 0 := by omega
    subst first
    decide

def misplaced : Block := ⟨48, fun i => if i = 8 then 1 else if i = 17 then 16 else 0⟩

/-- The decoder writes the entry outside its buffer of 48 bytes. -/
theorem misplaced_not_safelyDecoded : ¬ SafelyDecoded misplaced 48 := by
  have faults : (decodeFromString misplaced 48).isNone = true := by decide
  rintro ⟨result, executed, _⟩
  rw [executed] at faults
  cases faults

end Peripheral.Metadata
