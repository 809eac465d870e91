import Mathlib.Data.UInt
import Peripheral.MetadataApi

/-!
Which failing updates of an item leave a buffer as it is: all but those that make room for a payload
which then turns out to be too long to be copied.
-/
namespace Peripheral.Metadata
open Peripheral.Bytes Peripheral.Tiling

structure Unchanged (b b' : Block) : Prop where
  itemCount : field b' itemCountAt = field b itemCountAt
  dataCount : field b' dataCountAt = field b dataCountAt
  entries : entriesOf b' = entriesOf b
  payloads : readItems b' = readItems b

/-- An update has a result, and changes nothing unless it succeeds. -/
def AtomicUpdate (b : Block) (index : Nat) (data : Mem) (dataCount : Nat) : Prop :=
  ∃ ret b', updateCameraMetadataItemByIndex b index (some data) dataCount = some (ret, b') ∧
    (ret ≠ .success → Unchanged b b')

/-- A late failing update, unless the place it gives to a payload in the entry is that payload itself. -/
def Torn (b : Block) (i : Nat) (data : Mem) (dataCount : Nat) : Prop :=
  LateUpdate b i (some data) dataCount ∧ ((slot b i).size = 0 → (slot b i).data ≠ field b dataCountAt)

namespace Represents
variable {b b' : Block} {s : Store}

theorem unchanged (rep : Represents b s) (rep' : Represents b' s) (tiled : s.Tiled) : Unchanged b b' := by
  refine ⟨by rw [rep'.itemCount, rep.itemCount], by rw [rep'.dataCount, rep.dataCount], by rw [rep'.entriesOf_eq,
    rep.entriesOf_eq], ?_⟩
  rw [rep'.readItems_spec fun e member => rep'.readable_of_tiled tiled member,
    rep.readItems_spec fun e member => rep.readable_of_tiled tiled member]

theorem atomic_of_not_late (rep : Represents b s) (tiled : s.Tiled) {index dataCount : Nat} (bound : dataCount < 2^32)
    {data : Mem} (early : ¬ LateUpdate b index (some data) dataCount) : AtomicUpdate b index data dataCount := by
  obtain ⟨b', executed, rep'⟩ := rep.updateCameraMetadataItemByIndex_spec tiled index (some data) bound
    (rep.updateClean_of_not_late early)
  refine ⟨_, b', executed, fun failed => ?_⟩
  rcases s.updateAt_cases index (some data) dataCount with ⟨-, same⟩ | ⟨_, _, _, _, _, _, success⟩
  · rw [same] at rep'
    exact rep.unchanged rep' tiled
  · rw [success] at failed
    exact absurd rfl failed

section
variable {i dataCount typeSize : Nat} {e : Entry} {data : Mem} (rep : Represents b s) (tiled : s.Tiled)
  (found : s.entries[i]? = some e) (known : ohosCameraMetadataTypeSize e.dataType = some typeSize)
include rep tiled found known

theorem late_update (some_ : dataCount ≠ 0) (changes : calculateCameraMetadataItemDataSize e.dataType dataCount ≠ e.size)
    (room : s.resized e dataCount ≤ s.dataCapacity) (movable : e.size ≠ 0 → s.tail e ≤ securecMemMaxLen)
    (tooLong : securecMemMaxLen < dataCount * typeSize) :
    ∃ b' t, (if e.size ≠ 0 then s.release e.data e.size else s) = t ∧
      updateCameraMetadataItemByIndex b i (some data) dataCount = some (.failure, b') ∧
      Represents b' (if calculateCameraMetadataItemDataSize e.dataType dataCount = 0 then t
        else { t with entries := t.entries.set i { e with data := t.dataCount } }) := by
  have refused : ¬ securecOk (dataCount * typeSize) (dataCount * typeSize) := fun copied =>
    absurd (Store.securecOk_iff.mp copied).2 (Nat.not_le.mpr tooLong)
  obtain ⟨b1, release1, rep1, found1⟩ := rep.released tiled found movable
  have fitting : ¬ s.dataCapacity < s.dataCount + calculateCameraMetadataItemDataSize e.dataType dataCount - e.size := by
    unfold Store.resized at room
    omega
  rw [rep.update_start _ found some_ known, if_pos changes, rep.resize_start tiled found (itemDataSize_lt _ _) _ _,
    if_neg fitting]
  simp only [release1, onSuccess, Option.bind_some, if_true]
  generalize is : (if e.size ≠ 0 then s.release e.data e.size else s) = t at rep1 found1
  by_cases inline_ : calculateCameraMetadataItemDataSize e.dataType dataCount = 0
  · exact ⟨b1, t, rfl, by simp [inline_, copyToValue, refused], by simpa [inline_] using rep1⟩
  · have inside1 := rep1.index_lt found1
    obtain ⟨b2, placed, put, rep2⟩ := rep1.placeAtEnd_spec inside1
    rw [put, rep1.entries found1] at rep2
    exact ⟨b2, t, rfl, by simp [inline_, placed, copyToData, refused], by simpa [inline_] using rep2⟩

end

theorem late_entry (rep : Represents b s) {i dataCount : Nat} {data : Option Mem} (late : LateUpdate b i data dataCount) :
    ∃ e, s.entries[i]? = some e ∧ slot b i = e ∧ securecMemMaxLen < dataCount * (ohosCameraMetadataTypeSize e.dataType).getD 0 ∧
      calculateCameraMetadataItemDataSize e.dataType dataCount ≠ e.size ∧ s.resized e dataCount ≤ s.dataCapacity ∧
      (e.size ≠ 0 → s.tail e ≤ securecMemMaxLen) := by
  obtain ⟨-, inside, tooLong, changes, room, movable⟩ := late
  rw [rep.itemCount] at inside
  have found := List.getElem?_eq_getElem inside
  rw [rep.entries found] at tooLong changes room movable
  rw [rep.dataCount] at room movable
  rw [rep.dataCapacity] at room
  exact ⟨_, found, rep.entries found, tooLong, changes, room, movable⟩

theorem late_result (rep : Represents b s) (tiled : s.Tiled) {i dataCount : Nat} {data : Mem}
    (late : LateUpdate b i (some data) dataCount) :
    ∃ e b' t, s.entries[i]? = some e ∧ slot b i = e ∧ (e.size ≠ 0 → s.release e.data e.size = t) ∧
      (e.size = 0 → s = t) ∧
      updateCameraMetadataItemByIndex b i (some data) dataCount = some (.failure, b') ∧
      Represents b' (if calculateCameraMetadataItemDataSize e.dataType dataCount = 0 then t
        else { t with entries := t.entries.set i { e with data := t.dataCount } }) ∧
      (e.size = 0 → calculateCameraMetadataItemDataSize e.dataType dataCount ≠ 0) := by
  obtain ⟨e, found, there, tooLong, changes, room, movable⟩ := rep.late_entry late
  obtain ⟨typeSize, known⟩ := itemType_known (tiled.entriesOk e (List.mem_of_getElem? found)).typed
  have some_ : dataCount ≠ 0 := by
    rintro rfl
    rw [Nat.zero_mul] at tooLong
    omega
  rw [known, Option.getD_some] at tooLong
  obtain ⟨b', t, is, failed, rep'⟩ :=
    @late_update b s i dataCount typeSize e data rep tiled found known some_ changes room movable tooLong
  exact ⟨e, b', t, found, there, fun some_ => (if_pos some_).symm.trans is,
    fun none => (if_neg (not_not.mpr none)).symm.trans is,
    failed, rep', fun outside none => changes (none.trans outside.symm)⟩

theorem not_atomic_of_torn (rep : Represents b s) (tiled : s.Tiled) {i dataCount : Nat} {data : Mem}
    (torn : Torn b i data dataCount) : ¬ AtomicUpdate b i data dataCount := by
  obtain ⟨e, b', t, found, there, released, kept, failed, rep', stored⟩ := rep.late_result tiled torn.1
  rintro ⟨ret, b2, executed, unchanged⟩
  cases failed.symm.trans executed
  by_cases outside : e.size = 0
  · -- Nothing was taken away, but the entry points behind the payloads.
    have moved := torn.2
    rw [there, rep.dataCount] at moved
    have entries := (unchanged nofun).entries
    rw [if_neg (stored outside), ← kept outside] at rep'
    rw [rep'.entriesOf_eq, rep.entriesOf_eq] at entries
    have same : (s.entries.set i { e with data := s.dataCount })[i]? = s.entries[i]? := congrArg (·[i]?) entries
    rw [List.getElem?_set_self (List.getElem?_eq_some_iff.mp found).1, found] at same
    exact moved outside (congrArg Entry.data (Option.some.inj same)).symm
  · -- The old data are gone, and are not counted any more.
    have taken := tiled.bounded (List.mem_of_getElem? found)
    have count := (unchanged nofun).dataCount
    have less : field b' dataCountAt = s.dataCount - e.size := by
      rw [rep'.dataCount, ← released outside]
      split <;> rfl
    rw [less, rep.dataCount] at count
    omega

theorem atomic_of_not_torn (rep : Represents b s) (tiled : s.Tiled) {i dataCount : Nat} (bound : dataCount < 2^32) {data : Mem}
    (whole : ¬ Torn b i data dataCount) : AtomicUpdate b i data dataCount := by
  by_cases late : LateUpdate b i (some data) dataCount
  · obtain ⟨e, b', t, found, there, released, kept, failed, rep', stored⟩ := rep.late_result tiled late
    have there' : e.size = 0 ∧ e.data = s.dataCount := by
      rw [Torn, there, rep.dataCount] at whole
      exact ⟨by_contra fun some_ => whole ⟨late, fun none => absurd none some_⟩, by_contra fun other => whole ⟨late,
        fun _ => other⟩⟩
    -- The entry is given the place that it has.
    have same : s.entries.set i { e with data := s.dataCount } = s.entries := by
      rw [← there'.2]
      obtain ⟨inside, rfl⟩ := List.getElem?_eq_some_iff.mp found
      exact List.set_getElem_self inside
    rw [if_neg (stored there'.1), ← kept there'.1, same] at rep'
    exact ⟨_, b', failed, fun _ => rep.unchanged rep' tiled⟩
  · exact rep.atomic_of_not_late tiled bound late

end Represents

/-- A failing update changes nothing exactly if it is not torn. -/
theorem atomicUpdate_iff {b : Block} (reached : Reachable LayoutFits CleanCall b) (index dataCount : UInt32) (data : Mem) :
    AtomicUpdate b index.toNat data dataCount.toNat ↔ ¬ Torn b index.toNat data dataCount.toNat := by
  obtain ⟨s, rep, tiled, -⟩ := reached.represents
  exact ⟨fun atomic torn => rep.not_atomic_of_torn tiled torn atomic, rep.atomic_of_not_torn tiled dataCount.toNat_lt⟩

theorem oneLong_torn :
    ∃ b, Reachable LayoutFits CleanCall b ∧ Torn b (0 : UInt32).toNat (fun _ => 0) (2^29 : UInt32).toNat := by
  obtain ⟨b, s, reached, rep, _, _, _, dataCapacity, entries, dataCount⟩ :=
    one_long 1 (by decide) (by unfold LayoutFits; decide)
  have there : slot b 0 = ⟨131072, 4, 1, 0⟩ := rep.entries (by rw [entries]; rfl)
  have count : field b itemCountAt = 1 := by
    rw [rep.itemCount, entries]
    rfl
  refine ⟨b, reached, ⟨rfl, ?_, ?_, ?_, ?_, ?_⟩, ?_⟩ <;>
    simp only [show (0 : UInt32).toNat = 0 from rfl, there, count, rep.dataCount, rep.dataCapacity, dataCount,
      dataCapacity] <;>
    decide

/-- Its data are taken away before their replacement is found to be too long. -/
theorem oneLong_not_atomicUpdate :
    ∃ b, Reachable LayoutFits CleanCall b ∧ ¬ AtomicUpdate b (0 : UInt32).toNat (fun _ => 0) (2^29 : UInt32).toNat := by
  obtain ⟨b, reached, torn⟩ := oneLong_torn
  obtain ⟨s, rep, tiled, -⟩ := reached.represents
  exact ⟨b, reached, rep.not_atomic_of_torn tiled torn⟩

theorem oneLong_atomicUpdate :
    ∃ b, Reachable LayoutFits CleanCall b ∧ AtomicUpdate b (0 : UInt32).toNat (fun _ => 0) (2 : UInt32).toNat := by
  obtain ⟨b, s, reached, rep, _, _, _, _, entries, _⟩ := one_long 1 (by decide) (by unfold LayoutFits; decide)
  have there : slot b 0 = ⟨131072, 4, 1, 0⟩ := rep.entries (by rw [entries]; rfl)
  refine ⟨b, reached, (atomicUpdate_iff reached 0 2 _).mpr ?_⟩
  rintro ⟨⟨-, -, tooLong, -⟩, -⟩
  rw [show (0 : UInt32).toNat = 0 from rfl, there] at tooLong
  revert tooLong
  decide

end Peripheral.Metadata
