import Peripheral.MetadataLayout
import Peripheral.MetadataParcel

/-!
What `DecodeCameraMetadata` reads of the vectors of a parcel: the elements that `ReadMetadata` takes with `at`,
and the payloads that are copied from the arrays made of them. The transmitted count, the length of the vector
and the type that the tables give to the tag need not agree; the array is as long as the count and the transmitted
type say.
-/
namespace Peripheral.Metadata
open Peripheral.Bytes List Option

/-- An element of a vector taken with `at`, first the length of the vector, or bytes copied from the array that was made of it,
first how many of the array were decoded. -/
inductive Access
  | element (length i : Nat)
  | payload (length bytes : Nat)
  deriving DecidableEq

def Access.Within : Access → Prop
  | .element length i => i < length
  | .payload length bytes => bytes ≤ length

/-- `at` throws, and nothing is read. -/
def Access.Thrown : Access → Prop
  | .element length i => length ≤ i
  | .payload .. => False

instance : DecidablePred Access.Within
  | .element length i => inferInstanceAs (Decidable (i < length))
  | .payload length bytes => inferInstanceAs (Decidable (bytes ≤ length))

instance : DecidablePred Access.Thrown
  | .element length i => inferInstanceAs (Decidable (length ≤ i))
  | .payload .. => inferInstanceAs (Decidable False)

theorem Access.not_thrown {a : Access} (within : a.Within) : ¬ a.Thrown := by
  cases a with
  | element length i => exact Nat.not_le.mpr within
  | payload => exact id

/-- The accesses of `copyElements`, to the first that throws. -/
def elementAccesses (length i : Nat) : Nat → List Access
  | 0 => []
  | remaining+1 => .element length i :: if i < length then elementAccesses length (i + 1) remaining else []

/-- The accesses of `copyRationals`, to the first that throws. -/
def rationalAccesses (length j : Nat) : Nat → List Access
  | 0 => []
  | remaining+1 =>
    if j < length then
      .element length j :: .element length (j + 1) ::
        if j + 1 < length then rationalAccesses length (j + indexCounter) remaining else []
    else []

def payloadCopied (dst : Block) (item : Nat) (data : Option Mem) (dataCount : Nat) : Option Nat := do
  let (ret, _) ← addCameraMetadataItem dst item data dataCount
  let dataType ← getCameraMetadataItemType item
  let typeSize ← ohosCameraMetadataTypeSize dataType
  if ret = .success then some (dataCount * typeSize % 2^64) else none

def MetaType.elementWidth : MetaType → Nat
  | .byte => 1 | .int32 => 4 | .uint32 => 4 | .float => 4 | .int64 => 8 | .double => 8 | .rational => 4

def MetaType.vector (buffers : List Nat) : MetaType → ParcelValue
  | .byte => .uint8Vector buffers
  | .int32 => .int32Vector buffers
  | .uint32 => .uint32Vector buffers
  | .float => .floatVector buffers
  | .int64 => .int64Vector buffers
  | .double => .doubleVector buffers
  | .rational => .int32Vector buffers

/-- The size of an element of the array that `ReadMetadata` makes. -/
def MetaType.arrayWidth : MetaType → Nat
  | .rational => 8
  | type => type.elementWidth

structure SentItem where
  index : UInt32
  item : UInt32
  dataType : UInt32
  count : UInt32
  buffers : List Nat

namespace SentItem

def type (p : SentItem) : Option MetaType := metaType p.dataType.toNat

def cut (p : SentItem) : Nat := min p.count.toNat maxSupportedItems

/-- How many bytes of the array come from the vector. -/
def decoded (p : SentItem) : Nat :=
  match p.type with
  | none => 0
  | some type => min (p.cut * type.arrayWidth) (p.buffers.length * type.elementWidth)

def vectors (p : SentItem) : Parcel := (p.type.map (MetaType.vector p.buffers)).toList

def values (p : SentItem) : Parcel :=
  [.uint32 p.index.toNat, .uint32 p.item.toNat, .uint32 p.dataType.toNat, .uint32 p.count.toNat] ++ p.vectors

/-- The accesses of `ReadMetadata`. -/
def accesses (p : SentItem) : List Access :=
  match p.type with
  | none => []
  | some .rational => rationalAccesses p.buffers.length 0 p.cut
  | some _ => elementAccesses p.buffers.length 0 p.cut

/-- There is an element for every number that is taken. -/
def Complete (p : SentItem) : Prop :=
  match p.type with
  | none => True
  | some .rational => 2 * p.cut ≤ p.buffers.length ∨ 2 ∣ p.buffers.length
  | some _ => p.cut ≤ p.buffers.length

/-- The type in the tables of an item that has data and finds room behind `n` others with `used` bytes. -/
def stored (p : SentItem) (itemCapacity dataCapacity n used : Nat) : Option Nat :=
  match getCameraMetadataItemType p.item.toNat with
  | some dataType =>
    if p.type.isSome ∧ 0 < p.cut ∧ n < itemCapacity ∧
        calculateCameraMetadataItemDataSize dataType p.cut + used ≤ dataCapacity then some dataType
    else none
  | none => none

end SentItem

structure Sent where
  tagCount : UInt32
  itemCapacity : UInt32
  dataCapacity : UInt32
  items : List SentItem
  counted : items.length = min tagCount.toNat maxSupportedTags

/-- As much was decoded as the payloads of the items need that are stored, behind `n` others with `used` bytes. -/
def Covered (itemCapacity dataCapacity n used : Nat) : List SentItem → Prop
  | [] => True
  | p :: items =>
    match p.stored itemCapacity dataCapacity n used with
    | some dataType => payloadBytes dataType p.cut ≤ p.decoded ∧
        Covered itemCapacity dataCapacity (n + 1) (used + calculateCameraMetadataItemDataSize dataType p.cut) items
    | none => Covered itemCapacity dataCapacity n used items

/-- The accesses of all `ReadMetadata`, to the first that throws. -/
def readAccesses : List SentItem → List Access
  | [] => []
  | p :: items => p.accesses ++ if ∀ a ∈ p.accesses, a.Within then readAccesses items else []

def copyAccesses (metadata : Block) : List (ParcelItem × Nat) → List Access
  | [] => []
  | (p, decoded) :: items =>
    ((payloadCopied metadata p.item p.buffer p.count).map (Access.payload decoded)).toList ++
      match addCameraMetadataItem metadata p.item p.buffer p.count with
      | some (_, metadata) => copyAccesses metadata items
      | none => []

namespace Sent

def values (sent : Sent) : Parcel :=
  [.uint32 sent.tagCount.toNat, .uint32 sent.itemCapacity.toNat, .uint32 sent.dataCapacity.toNat] ++
    sent.items.flatMap SentItem.values

def metadata (sent : Sent) : Option Block :=
  cameraMetadata (min sent.itemCapacity.toNat maxItemCapacity) (min sent.dataCapacity.toNat maxDataCapacity)

def taken (fresh : Nat → Mem) (sent : Sent) : Option (List ParcelItem × Parcel) :=
  readParcelItems fresh (sent.items.flatMap SentItem.values) 0 sent.items.length

/-- The accesses of `DecodeCameraMetadata`. -/
def accesses (fresh : Nat → Mem) (sent : Sent) : List Access :=
  readAccesses sent.items ++
    match sent.taken fresh, sent.metadata with
    | some (items, _), some metadata => copyAccesses metadata (items.zip (sent.items.map SentItem.decoded))
    | _, _ => []

def Complete (sent : Sent) : Prop := ∀ p ∈ sent.items, p.Complete

/-- No payload is longer than what was decoded for it. -/
def Covered (sent : Sent) : Prop :=
  Metadata.Covered (min sent.itemCapacity.toNat maxItemCapacity)
    (alignTo (min sent.dataCapacity.toNat maxDataCapacity) dataAlignment) 0 0 sent.items

end Sent

theorem elementAccesses_within (length i remaining : Nat) :
    (∀ a ∈ elementAccesses length i remaining, a.Within) ↔ remaining = 0 ∨ i + remaining ≤ length := by
  induction remaining generalizing i with
  | zero => simp [elementAccesses]
  | succ remaining ih =>
    rw [elementAccesses, forall_mem_cons]
    by_cases inside : i < length
    · rw [if_pos inside, ih, Access.Within]
      omega
    · rw [Access.Within]
      omega

theorem copyElements_isSome (buffers : List Nat) (width : Nat) (m : Mem) (i remaining : Nat) :
    (copyElements buffers width m i remaining).isSome ↔ remaining = 0 ∨ i + remaining ≤ buffers.length := by
  induction remaining generalizing m i with
  | zero => simp [copyElements]
  | succ remaining ih =>
    by_cases inside : i < buffers.length
    · simp only [copyElements, getElem?_eq_getElem inside, bind_eq_bind, bind_some, ih]
      omega
    · simp only [copyElements, getElem?_eq_none (Nat.not_lt.mp inside), bind_eq_bind, bind_none, isSome_none]
      simp
      omega

theorem rationalAccesses_within (length j remaining : Nat) : (∀ a ∈ rationalAccesses length j remaining, a.Within) ↔
      j + 2 * remaining ≤ length ∨ length ≤ j ∨ 2 ∣ length - j := by
  induction remaining generalizing j with
  | zero =>
    simp [rationalAccesses]
    omega
  | succ remaining ih =>
    rw [rationalAccesses]
    by_cases first : j < length
    · rw [if_pos first, forall_mem_cons, forall_mem_cons]
      by_cases second : j + 1 < length
      · rw [if_pos second, ih, Access.Within, Access.Within, indexCounter]
        omega
      · rw [Access.Within, Access.Within]
        omega
    · simp only [if_neg first, not_mem_nil, false_imp_iff, implies_true, true_iff]
      omega

theorem copyRationals_isSome (buffers : List Nat) (m : Mem) (i j remaining : Nat) :
    (copyRationals buffers m i j remaining).isSome ↔
      j + 2 * remaining ≤ buffers.length ∨ buffers.length ≤ j ∨ 2 ∣ buffers.length - j := by
  induction remaining generalizing m i j with
  | zero =>
    simp [copyRationals]
    omega
  | succ remaining ih =>
    rw [copyRationals]
    by_cases first : j < buffers.length
    · rw [if_pos first, getElem?_eq_getElem first]
      by_cases second : j + 1 < buffers.length
      · simp only [getElem?_eq_getElem second, bind_eq_bind, bind_some, ih, indexCounter]
        omega
      · simp only [getElem?_eq_none (Nat.not_lt.mp second), bind_eq_bind, bind_some, bind_none, isSome_none]
        simp
        omega
    · simp only [if_neg first, isSome_some, true_iff]
      omega

namespace SentItem

theorem accesses_within (p : SentItem) : (∀ a ∈ p.accesses, a.Within) ↔ p.Complete := by
  unfold accesses Complete
  cases p.type with
  | none => simp
  | some type =>
    cases type with
    | rational =>
      rw [rationalAccesses_within]
      omega
    | _ =>
      dsimp only
      rw [elementAccesses_within]
      omega

/-- Reading an item delivers an array if its type is one of the seven, unless an element is missing. -/
theorem readMetadata_spec (p : SentItem) (fresh : Mem) (data : Parcel) :
    (p.Complete → ∃ buffer, readMetadata fresh p.dataType.toNat p.cut (p.vectors ++ data) = some (buffer, data) ∧
      (buffer.isSome ↔ p.type.isSome)) ∧
    (¬ p.Complete → readMetadata fresh p.dataType.toNat p.cut (p.vectors ++ data) = none) := by
  cases is : p.type with
  | none =>
    have unknown : metaType p.dataType.toNat = none := is
    simp [Complete, readMetadata, vectors, is, unknown]
  | some type =>
    have known : metaType p.dataType.toNat = some type := is
    -- The array is there exactly if the loop for the type does not throw.
    have loop : ∃ copied : Option Mem, (copied.isSome ↔ p.Complete) ∧
        readMetadata fresh p.dataType.toNat p.cut (p.vectors ++ data) = copied.map fun m => (some m, data) := by
      simp only [readMetadata, known, vectors, is, map_some, toList_some, singleton_append, Complete]
      cases type with
      | rational =>
        refine ⟨copyRationals p.buffers fresh 0 0 p.cut, ?_, by simp only [MetaType.vector, takeVector, Option.map_map]; rfl⟩
        rw [copyRationals_isSome]
        omega
      | byte | int32 | uint32 | float | int64 | double =>
        refine ⟨_, ?_, by simp only [MetaType.vector, takeVector, Option.map_map]; rfl⟩
        rw [copyElements_isSome]
        omega
    obtain ⟨copied, complete, read⟩ := loop
    rw [read, ← complete]
    cases copied <;> simp

end SentItem

/-- The item that the reader makes of what is sent. -/
structure ReadAs (p : SentItem) (y : ParcelItem) : Prop where
  item : y.item = p.item.toNat
  count : y.count = p.cut
  buffer : y.buffer.isSome ↔ p.type.isSome

variable {items : List SentItem}

/-- The loop that reads delivers every item, if no element is missing. -/
theorem readParcelItems_complete (fresh : Nat → Mem) (data : Parcel) (i : Nat) (complete : ∀ p ∈ items, p.Complete) :
    ∃ l, readParcelItems fresh (items.flatMap SentItem.values ++ data) i items.length = some (l, data) ∧
      List.Forall₂ ReadAs items l := by
  induction items generalizing i with
  | nil => exact ⟨[], rfl, .nil⟩
  | cons p items ih =>
    obtain ⟨first, rest⟩ := forall_mem_cons.mp complete
    obtain ⟨l, read, each⟩ := ih (i + 1) rest
    obtain ⟨buffer, one, given⟩ := (p.readMetadata_spec (fresh i) (items.flatMap SentItem.values ++ data)).1 first
    refine ⟨⟨p.item.toNat, p.cut, buffer⟩ :: l, ?_, .cons ⟨rfl, rfl, given⟩ each⟩
    unfold SentItem.cut at one ⊢
    simp only [flatMap_cons, SentItem.values, cons_append, nil_append, append_assoc, length_cons,
      readParcelItems, readUint32, Option.bind_eq_bind, Option.bind_some, Option.pure_def, one, read]

theorem readParcelItems_incomplete (fresh : Nat → Mem) (data : Parcel) (i : Nat) (incomplete : ¬ ∀ p ∈ items, p.Complete) :
    readParcelItems fresh (items.flatMap SentItem.values ++ data) i items.length = none := by
  induction items generalizing i with
  | nil => simp at incomplete
  | cons p items ih =>
    have spec := p.readMetadata_spec (fresh i) (items.flatMap SentItem.values ++ data)
    simp only [flatMap_cons, SentItem.values, cons_append, nil_append, append_assoc, length_cons,
      readParcelItems, readUint32, Option.bind_eq_bind, Option.bind_some, Option.pure_def]
    rw [← SentItem.cut]
    by_cases first : p.Complete
    · obtain ⟨buffer, one, -⟩ := spec.1 first
      have rest : ¬ ∀ p ∈ items, p.Complete := fun rest => incomplete (forall_mem_cons.mpr ⟨first, rest⟩)
      rw [one]
      simp only [bind_some]
      rw [ih (i + 1) rest]
      rfl
    · rw [spec.2 first]
      rfl

theorem readAccesses_within (items : List SentItem) : (∀ a ∈ readAccesses items, a.Within) ↔ ∀ p ∈ items, p.Complete := by
  induction items with
  | nil => simp [readAccesses]
  | cons p items ih =>
    rw [readAccesses, forall_mem_append, forall_mem_cons, ← p.accesses_within]
    refine and_congr_right fun complete => ?_
    rw [if_pos complete, ih]

theorem elementAccesses_thrown (length i remaining : Nat) : ∀ a ∈ elementAccesses length i remaining, a.Thrown ∨ a.Within := by
  induction remaining generalizing i with
  | zero => simp [elementAccesses]
  | succ remaining ih =>
    rw [elementAccesses, forall_mem_cons]
    refine ⟨le_or_gt .., ?_⟩
    split
    · exact ih (i + 1)
    · simp

theorem rationalAccesses_thrown (length j remaining : Nat) :
    ∀ a ∈ rationalAccesses length j remaining, a.Thrown ∨ a.Within := by
  induction remaining generalizing j with
  | zero => simp [rationalAccesses]
  | succ remaining ih =>
    rw [rationalAccesses]
    split
    · rw [forall_mem_cons, forall_mem_cons]
      refine ⟨le_or_gt .., le_or_gt .., ?_⟩
      split
      · exact ih (j + indexCounter)
      · simp
    · simp

theorem readAccesses_thrown (items : List SentItem) : ∀ a ∈ readAccesses items, a.Thrown ∨ a.Within := by
  induction items with
  | nil => simp [readAccesses]
  | cons p items ih =>
    rw [readAccesses, forall_mem_append]
    constructor
    · unfold SentItem.accesses
      split
      · simp
      · exact rationalAccesses_thrown _ _ _
      · exact elementAccesses_thrown _ _ _
    · split
      · exact ih
      · simp

theorem SentItem.cut_le (p : SentItem) : p.cut ≤ maxSupportedItems := Nat.min_le_right ..

theorem SentItem.stored_eq_some {p : SentItem} {itemCapacity dataCapacity n used dataType : Nat} :
    p.stored itemCapacity dataCapacity n used = some dataType ↔
      getCameraMetadataItemType p.item.toNat = some dataType ∧ p.type.isSome ∧ 0 < p.cut ∧ n < itemCapacity ∧
        calculateCameraMetadataItemDataSize dataType p.cut + used ≤ dataCapacity := by
  unfold stored
  cases getCameraMetadataItemType p.item.toNat with
  | none => simp
  | some type =>
    simp only [ite_none_right_eq_some, some.injEq]
    constructor
    · rintro ⟨room, rfl⟩
      exact ⟨rfl, room⟩
    · rintro ⟨rfl, room⟩
      exact ⟨room, rfl⟩

namespace Store
variable {s : Store} {p : SentItem} {y : ParcelItem}

theorem add_length (s : Store) (item dataType count n : Nat) (data : Mem) :
    (s.add item dataType count n data).entries.length = s.entries.length + 1 := by
  unfold add
  dsimp only
  split <;> exact length_append

theorem add_dataCount (s : Store) (item dataType count n : Nat) (data : Mem) : (s.add item dataType count n data).dataCount =
      s.dataCount + calculateCameraMetadataItemDataSize dataType count := by
  unfold add
  dsimp only
  split
  · rename_i none
    rw [none, Nat.add_zero]
  · rfl

theorem addItem_stored {dataType : Nat} (read : ReadAs p y)
    (is : p.stored s.itemCapacity s.dataCapacity s.entries.length s.dataCount = some dataType) :
    (s.addItem y.item y.buffer y.count).1 = .success ∧
      (s.addItem y.item y.buffer y.count).2.entries.length = s.entries.length + 1 ∧
      (s.addItem y.item y.buffer y.count).2.dataCount = s.dataCount + calculateCameraMetadataItemDataSize dataType p.cut := by
  obtain ⟨typed, given, some_, free, room⟩ := SentItem.stored_eq_some.mp is
  obtain ⟨m, buffer⟩ := isSome_iff_exists.mp (read.buffer.mpr given)
  have cut := p.cut_le
  unfold maxSupportedItems at cut
  obtain ⟨size, known⟩ := itemType_known typed
  have width := typeSize_cases known
  have small : payloadBytes dataType p.cut < 2^31 := by
    rw [payloadBytes, known, getD_some]
    rcases width with rfl | rfl | rfl <;> omega
  have success : (s.addItem p.item.toNat (some m) p.cut).1 = .success :=
    addItem_success typed (Nat.ne_of_gt some_) small (Nat.ne_of_lt free) room
  rw [read.item, read.count, buffer]
  refine ⟨success, ?_⟩
  rcases s.addItem_cases p.item.toNat (some m) p.cut with ⟨failed, -⟩ | ⟨d, type, size, -, its, -, -, result⟩
  · exact absurd success failed
  · cases typed.symm.trans its
    rw [result, add_length, add_dataCount, Nat.mod_eq_of_lt (show p.cut < 2^32 by omega)]
    exact ⟨rfl, rfl⟩

theorem addItem_not_stored (read : ReadAs p y) (free : s.entries.length ≤ s.itemCapacity)
    (is : p.stored s.itemCapacity s.dataCapacity s.entries.length s.dataCount = none) :
    (s.addItem y.item y.buffer y.count).1 ≠ .success ∧ (s.addItem y.item y.buffer y.count).2 = s := by
  rcases s.addItem_cases y.item y.buffer y.count with same | ⟨d, dataType, size, buffer, typed, known, copied, result⟩
  · exact same
  · -- A successful addition passed all the checks.
    exfalso
    rw [read.item] at typed
    have given := read.buffer.mp (isSome_iff_exists.mpr ⟨d, buffer⟩)
    have refused : ¬ (0 < p.cut ∧ s.entries.length < s.itemCapacity ∧
        calculateCameraMetadataItemDataSize dataType p.cut + s.dataCount ≤ s.dataCapacity) := by
      rintro ⟨some_, room⟩
      rw [SentItem.stored_eq_some.mpr ⟨typed, given, some_, room⟩] at is
      cases is
    rw [← read.count] at refused
    have success : (s.addItem y.item y.buffer y.count).1 = .success := by rw [result]
    rw [← read.item] at typed
    simp only [addItem, buffer, typed] at success
    split at success
    · cases success
    · split at success
      · cases success
      · split at success
        · cases success
        · omega

end Store

theorem copyAccesses_within {b : Block} {s : Store} (rep : Represents b s) {l : List ParcelItem}
    (each : List.Forall₂ ReadAs items l) : (∀ a ∈ copyAccesses b (l.zip (items.map SentItem.decoded)), a.Within) ↔
      Covered s.itemCapacity s.dataCapacity s.entries.length s.dataCount items := by
  induction each generalizing b s with
  | nil => simp [copyAccesses, Covered]
  | @cons p y items l read _ ih =>
    obtain ⟨b', executed, rep'⟩ := rep.addCameraMetadataItem_spec y.item y.buffer y.count
    have capacities := s.addItem_capacities y.item y.buffer y.count
    have rest := ih rep'
    rw [capacities.1, capacities.2] at rest
    rw [map_cons, zip_cons_cons, copyAccesses, executed, forall_mem_append]
    dsimp only
    rw [rest, Covered]
    cases is : p.stored s.itemCapacity s.dataCapacity s.entries.length s.dataCount with
    | some dataType =>
      obtain ⟨success, length, used⟩ := Store.addItem_stored read is
      obtain ⟨typed, -⟩ := SentItem.stored_eq_some.mp is
      obtain ⟨size, known⟩ := itemType_known typed
      have width := typeSize_cases known
      have cut := p.cut_le
      unfold maxSupportedItems at cut
      have whole : y.count * size % 2^64 = payloadBytes dataType p.cut := by
        rw [read.count, payloadBytes, known, getD_some]
        apply Nat.mod_eq_of_lt
        rcases width with rfl | rfl | rfl <;> omega
      have copied : payloadCopied b y.item y.buffer y.count = some (payloadBytes dataType p.cut) := by
        rw [← read.item] at typed
        simp only [payloadCopied, executed, typed, known, success, bind_eq_bind, bind_some, if_true, whole]
      rw [copied, length, used]
      simp [Access.Within]
    | none =>
      obtain ⟨failed, same⟩ := Store.addItem_not_stored read rep.itemsFit is
      have copied : payloadCopied b y.item y.buffer y.count = none := by
        simp [payloadCopied, executed, failed]
      rw [copied, same]
      simp

theorem copyAccesses_not_thrown (b : Block) (items : List (ParcelItem × Nat)) : ∀ a ∈ copyAccesses b items, ¬ a.Thrown := by
  induction items generalizing b with
  | nil => simp [copyAccesses]
  | cons item items ih =>
    obtain ⟨y, length⟩ := item
    rw [copyAccesses, forall_mem_append]
    constructor
    · intro a member
      obtain ⟨bytes, -, rfl⟩ := map_eq_some_iff.mp (mem_toList.mp member)
      exact id
    · split
      · exact ih _
      · simp

namespace Sent
variable (fresh : Nat → Mem) (sent : Sent)

theorem metadata_spec : ∃ b, sent.metadata = some b ∧ Represents b ⟨min sent.itemCapacity.toNat maxItemCapacity,
    alignTo (min sent.dataCapacity.toNat maxDataCapacity) dataAlignment, [], 0, fun _ => 0⟩ := by
  have items : min sent.itemCapacity.toNat maxItemCapacity ≤ maxItemCapacity := Nat.min_le_right ..
  have data : min sent.dataCapacity.toNat maxDataCapacity ≤ maxDataCapacity := Nat.min_le_right ..
  unfold maxItemCapacity at items
  unfold maxDataCapacity at data
  have cut : min sent.itemCapacity.toNat maxItemCapacity % 2^32 = min sent.itemCapacity.toNat maxItemCapacity :=
    Nat.mod_eq_of_lt (by unfold maxItemCapacity; omega)
  rw [metadata, cameraMetadata, cut]
  apply allocateCameraMetadataBuffer_spec
  unfold LayoutFits headerLength itemLen dataAlignment maxItemCapacity maxDataCapacity
  rw [alignTo_eight_small (by omega)]
  omega

/-- The accesses are those of a reader that found everything, and the copies, or those of a reader that threw. -/
theorem accesses_cases : (sent.Complete ∧ ∃ b l, Represents b ⟨min sent.itemCapacity.toNat maxItemCapacity,
        alignTo (min sent.dataCapacity.toNat maxDataCapacity) dataAlignment, [], 0, fun _ => 0⟩ ∧
      List.Forall₂ ReadAs sent.items l ∧
      sent.accesses fresh = readAccesses sent.items ++ copyAccesses b (l.zip (sent.items.map SentItem.decoded))) ∨
    (¬ sent.Complete ∧ sent.accesses fresh = readAccesses sent.items) := by
  by_cases complete : sent.Complete
  · obtain ⟨l, read, each⟩ := readParcelItems_complete fresh [] 0 complete
    obtain ⟨b, made, rep⟩ := sent.metadata_spec
    rw [append_nil] at read
    exact .inl ⟨complete, b, l, rep, each, by rw [accesses, taken, read, made]⟩
  · have read := readParcelItems_incomplete fresh [] 0 complete
    rw [append_nil] at read
    exact .inr ⟨complete, by rw [accesses, taken, read, append_nil]⟩

/-- Decoding reads all items and then adds them. -/
theorem decodeCameraMetadata_values : decodeCameraMetadata fresh sent.values = (sent.taken fresh).bind fun (items, data) =>
    sent.metadata.bind fun metadata => (addParcelItems metadata items).map (·, data) := by
  simp only [decodeCameraMetadata, values, cons_append, nil_append, readUint32, ← sent.counted, taken, metadata,
    Option.map_eq_bind, Option.bind_eq_bind, Option.bind_some, Option.pure_def]
  rfl

/-- Decoding ends without metadata exactly if an element is missing. -/
theorem decodeCameraMetadata_eq_none : decodeCameraMetadata fresh sent.values = none ↔ ¬ sent.Complete := by
  rw [decodeCameraMetadata_values]
  by_cases complete : sent.Complete
  · obtain ⟨l, read, -⟩ := readParcelItems_complete fresh [] 0 complete
    obtain ⟨b, made, rep⟩ := sent.metadata_spec
    obtain ⟨b', added, -⟩ := rep.addParcelItems_spec l
    rw [append_nil] at read
    simp [taken, read, made, added, complete]
  · have read := readParcelItems_incomplete fresh [] 0 complete
    rw [append_nil] at read
    simp [taken, read, complete]

/-- Every access stays inside exactly if no element is missing and as much was decoded as is copied; those that do not throw,
exactly if as much was decoded whenever no element is missing. The accesses that throw are those that end the decoding. -/
theorem decode_within : ((∀ a ∈ sent.accesses fresh, a.Within) ↔ sent.Complete ∧ sent.Covered) ∧
    ((∀ a ∈ sent.accesses fresh, a.Thrown ∨ a.Within) ↔ (sent.Complete → sent.Covered)) ∧
    (decodeCameraMetadata fresh sent.values = none ↔ ∃ a ∈ sent.accesses fresh, a.Thrown) := by
  have reads := readAccesses_within sent.items
  have refused := readAccesses_thrown sent.items
  rw [decodeCameraMetadata_eq_none]
  rcases sent.accesses_cases fresh with ⟨complete, b, l, rep, each, is⟩ | ⟨incomplete, is⟩
  · have copies := copyAccesses_within rep each
    have kept := copyAccesses_not_thrown b (l.zip (sent.items.map SentItem.decoded))
    rw [is, forall_mem_append, forall_mem_append]
    refine ⟨and_congr reads copies, ?_, iff_of_false (not_not.mpr complete) ?_⟩
    · rw [Covered, length_nil] at *
      rw [← copies]
      constructor
      · rintro ⟨-, each⟩ - a member
        exact (each a member).resolve_left (kept a member)
      · exact fun each => ⟨refused, fun a member => .inr (each complete a member)⟩
    · rintro ⟨a, member, thrown⟩
      rcases mem_append.mp member with read | copy
      · exact Access.not_thrown (reads.mpr complete a read) thrown
      · exact kept a copy thrown
  · rw [is]
    refine ⟨⟨fun each => absurd (reads.mp each) incomplete, fun both => absurd both.1 incomplete⟩,
      ⟨fun _ complete => absurd complete incomplete, fun _ => refused⟩, iff_of_true incomplete ?_⟩
    by_contra none
    refine incomplete (reads.mp fun a member => (refused a member).resolve_left fun thrown => none ⟨a, member, thrown⟩)

end Sent

def oneByte : Sent := ⟨1, 1, 8, [⟨0, 131072, 0, 1, [7]⟩], by decide⟩

/-- Eight bytes are copied from the array of one. -/
theorem oneByte_not_within : ¬ (∀ a ∈ oneByte.accesses fun _ _ => 0, a.Within) ∧
    ¬ (∀ a ∈ oneByte.accesses fun _ _ => 0, a.Thrown ∨ a.Within) := by
  constructor <;> decide +kernel

end Peripheral.Metadata
