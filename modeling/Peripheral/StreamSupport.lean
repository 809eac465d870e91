import Mathlib.Data.Int.Interval
import Mathlib.Data.List.Destutter
import Peripheral.StreamCommit

/-!
`IsStreamsSupported` of `stream_operator.cpp`: whether streams can be created beside the
ones that are there. Ids are compared with their neighbours only, and which of the
current streams are in the list comes from two differences of sets.
-/
namespace Peripheral.Camera

/-- What `IsStreamsSupported` finds; nothing where it refuses the call. -/
inductive StreamSupportType
  | dynamicSupported
  | reConfiguredRequired
  | notSupported
  deriving DecidableEq

/-- The fields are valid, and the id is a signed number of 32 bits. -/
def StreamInfo.Valid (info : StreamInfo) : Prop := info.check = true ∧ info.streamId < 2 ^ 31

instance (info : StreamInfo) : Decidable info.Valid := inferInstanceAs (Decidable (_ ∧ _))

/-- `StreamPipelineCore::CheckStreamsSupported` for streams with these intents. -/
def PipelineTables.checkStreamsSupported (tables : PipelineTables) (hosts : HostStreams) (mode : Int) (modeSetting : Bool)
    (intents : List Int) : DynamicStreamSwitchMode :=
  if !modeSetting then .notSupport
  else if intents = [] then .notSupport
  else
    let types := intents.insertionSort (· ≤ ·)
    if tables.checkPipelineSpecExist mode types then
      if hosts.getStreamIds ≠ [] then .needInnerRestart else .support
    else .notSupport

namespace StreamOperator

/-- The answer where the mode stays and the pipeline must be restarted. -/
def restartSupport (s : StreamOperator) (inputIDSet : Finset Int) : StreamSupportType :=
  let currentIDSet := (s.streamMap.map (·.streamId)).toFinset
  if currentIDSet = ∅ then .dynamicSupported
  else
    let cfiSet := inputIDSet \ currentIDSet
    let expectCurrentSet := inputIDSet \ cfiSet
    if expectCurrentSet = currentIDSet then .dynamicSupported else .reConfiguredRequired

/-- `mode_` is the mode of the pipeline. -/
def isStreamsSupported (tables : PipelineTables) (s : StreamOperator) (mode_ mode : Int) (modeSetting : Bool)
    (pInfo : List StreamInfo) : CamRetCode × Option StreamSupportType :=
  if !modeSetting then (.invalidArgument, none)
  else if !pInfo.all StreamInfo.check then (.invalidArgument, none)
  else
    let checkStreamIdVec := pInfo.map (·.streamId)
    let inputIDSet := checkStreamIdVec.toFinset
    if inputIDSet = ∅ then (.invalidArgument, none)
    -- what `unique` leaves is counted in 32 bits
    else if checkStreamIdVec.length ≠ (checkStreamIdVec.destutter (· ≠ ·)).length % 2 ^ 32 then (.invalidArgument, none)
    else
      match tables.checkStreamsSupported s.hosts mode modeSetting (pInfo.map (·.intent)) with
      | .support => (.noError, some .dynamicSupported)
      | .notSupport => (.noError, some .notSupported)
      | .needInnerRestart =>
        (.noError, some (if mode ≠ mode_ then .reConfiguredRequired else s.restartSupport inputIDSet))

/-- What is to be decided about streams with valid fields: only no streams and streams with the same id are refused, and where
    the pipeline must be restarted for the mode it is in, the list must have all current streams. -/
structure Decides (tables : PipelineTables) (s : StreamOperator) (mode_ mode : Int) (pInfo : List StreamInfo) : Prop where
  refuses : (s.isStreamsSupported tables mode_ mode true pInfo).1 = .invalidArgument ↔
    pInfo = [] ∨ ¬ (pInfo.map (·.streamId)).Nodup
  answers : (s.isStreamsSupported tables mode_ mode true pInfo).1 = .noError →
    tables.checkStreamsSupported s.hosts mode true (pInfo.map (·.intent)) = .needInnerRestart → mode = mode_ →
    (s.isStreamsSupported tables mode_ mode true pInfo).2 =
      some (if ∀ x ∈ s.streamMap, x.streamId ∈ pInfo.map (·.streamId) then .dynamicSupported else .reConfiguredRequired)

end StreamOperator

/-- `unique` leaves a list as long as it was exactly if no two neighbours are equal. -/
theorem length_destutter_eq_iff (ids : List Int) : (ids.destutter (· ≠ ·)).length = ids.length ↔ ids.IsChain (· ≠ ·) := by
  rw [← List.destutter_eq_self_iff]
  constructor
  · intro same
    exact (List.destutter_sublist (· ≠ ·) ids).eq_of_length same
  · intro same
    rw [same]

/-- The count in 32 bits differs where neighbours are equal, and for every list that it cannot count. -/
theorem length_eq_unique_iff (ids : List Int) :
    ids.length = (ids.destutter (· ≠ ·)).length % 2 ^ 32 ↔ ids.IsChain (· ≠ ·) ∧ ids.length < 2 ^ 32 := by
  have shorter : (ids.destutter (· ≠ ·)).length ≤ ids.length := (List.destutter_sublist (· ≠ ·) ids).length_le
  rw [← length_destutter_eq_iff]
  constructor
  · intro counted
    omega
  · rintro ⟨same, small⟩
    rw [same, Nat.mod_eq_of_lt small]

theorem length_lt_of_nodup {pInfo : List StreamInfo} (valid : ∀ info ∈ pInfo, info.Valid)
    (nodup : (pInfo.map (·.streamId)).Nodup) : pInfo.length < 2 ^ 32 := by
  have inside : (pInfo.map (·.streamId)).toFinset ⊆ Finset.Ico 0 (2 ^ 31) := by
    intro id member
    simp only [List.mem_toFinset, List.mem_map] at member
    obtain ⟨info, listed, rfl⟩ := member
    have check := (valid info listed).1
    simp only [StreamInfo.check, Bool.not_eq_true', Bool.or_eq_false_iff, decide_eq_false_iff_not] at check
    simp only [Finset.mem_Ico]
    exact ⟨by omega, (valid info listed).2⟩
  have count := Finset.card_le_card inside
  rw [List.toFinset_card_of_nodup nodup] at count
  simp at count
  omega

namespace StreamOperator
variable {tables : PipelineTables} {s : StreamOperator} {mode_ mode : Int} {pInfo : List StreamInfo}

/-- The two differences leave the current streams that are in the list. -/
theorem restartSupport_eq (ids : List Int) : s.restartSupport ids.toFinset =
      if ∀ x ∈ s.streamMap, x.streamId ∈ ids then .dynamicSupported else .reConfiguredRequired := by
  have subset : (s.streamMap.map (·.streamId)).toFinset ⊆ ids.toFinset ↔ ∀ x ∈ s.streamMap, x.streamId ∈ ids := by
    simp [Finset.subset_iff]
  by_cases none : s.streamMap = []
  · simp [restartSupport, none]
  · have some : (s.streamMap.map (·.streamId)).toFinset ≠ ∅ := by simpa using none
    simp only [restartSupport, if_neg some, Finset.sdiff_sdiff_self_left, Finset.inter_eq_right, subset]

/-- A list is refused exactly if it is empty, has equal neighbours, or cannot be counted. -/
theorem isStreamsSupported_refuses (valid : ∀ info ∈ pInfo, info.Valid) :
    (s.isStreamsSupported tables mode_ mode true pInfo).1 = .invalidArgument ↔
      pInfo = [] ∨ ¬ (pInfo.map (·.streamId)).IsChain (· ≠ ·) ∨ 2 ^ 32 ≤ pInfo.length := by
  have checked : pInfo.all StreamInfo.check = true := List.all_eq_true.mpr fun info listed => (valid info listed).1
  have counts := length_eq_unique_iff (pInfo.map (·.streamId))
  by_cases empty : pInfo = []
  · simp [isStreamsSupported, empty]
  · by_cases unique : (pInfo.map (·.streamId)).length = ((pInfo.map (·.streamId)).destutter (· ≠ ·)).length % 2 ^ 32
    · have plain := counts.mp unique
      rw [List.length_map] at plain
      simp only [isStreamsSupported, Bool.not_true, Bool.false_eq_true, if_false, checked, List.toFinset_eq_empty_iff,
        List.map_eq_nil_iff, empty, unique, ne_eq, not_true_eq_false, plain.1, false_or]
      constructor
      · intro refused
        split at refused <;> simp at refused
      · intro uncounted
        omega
    · have refused : ¬ (pInfo.map (·.streamId)).IsChain (· ≠ ·) ∨ 2 ^ 32 ≤ pInfo.length := by
        by_contra plain
        rw [not_or, not_not, not_le] at plain
        exact unique (counts.mpr ⟨plain.1, by simpa using plain.2⟩)
      simp only [isStreamsSupported, Bool.not_true, Bool.false_eq_true, if_false, checked, List.toFinset_eq_empty_iff,
        List.map_eq_nil_iff, empty, false_or, ne_eq, unique, not_false_eq_true, if_true, true_iff]
      exact refused

/-- An accepted list of streams gets the right answer. -/
theorem isStreamsSupported_answers (accepted : (s.isStreamsSupported tables mode_ mode true pInfo).1 = .noError)
    (restart : tables.checkStreamsSupported s.hosts mode true (pInfo.map (·.intent)) = .needInnerRestart) (stays : mode = mode_) :
    (s.isStreamsSupported tables mode_ mode true pInfo).2 =
      some (if ∀ x ∈ s.streamMap, x.streamId ∈ pInfo.map (·.streamId) then .dynamicSupported else .reConfiguredRequired) := by
  rw [← restartSupport_eq]
  subst stays
  unfold isStreamsSupported at accepted ⊢
  simp only [restart] at accepted ⊢
  split_ifs at accepted ⊢ <;> simp_all

/-- The call decides what it is to decide exactly for lists where an id that is there twice is there twice in a row. -/
theorem isStreamsSupported_decides_iff (tables : PipelineTables) (s : StreamOperator) (mode_ mode : Int) (pInfo : List StreamInfo)
    (valid : ∀ info ∈ pInfo, info.Valid) : s.Decides tables mode_ mode pInfo ↔
      (¬ (pInfo.map (·.streamId)).Nodup → ¬ (pInfo.map (·.streamId)).IsChain (· ≠ ·) ∨ 2 ^ 32 ≤ pInfo.length) := by
  have refused := @isStreamsSupported_refuses tables s mode_ mode pInfo valid
  constructor
  · intro decides twice
    rcases refused.mp (decides.refuses.mpr (.inr twice)) with rfl | found
    · exact absurd List.nodup_nil twice
    · exact found
  · intro found
    refine ⟨refused.trans ⟨?_, ?_⟩, isStreamsSupported_answers⟩
    · rintro (empty | neighbours | long)
      · exact .inl empty
      · exact .inr fun nodup => neighbours (List.Pairwise.isChain nodup)
      · exact .inr fun nodup => absurd (length_lt_of_nodup valid nodup) (not_lt.mpr long)
    · rintro (empty | twice)
      · exact .inl empty
      · exact .inr (found twice)

def previewInfo (streamId : Int) : StreamInfo := ⟨streamId, 640, 480, 0, 0, 0, true, none, 0, 0, 0, 0⟩

theorem neighbours_decided : new.Decides ⟨[], [], []⟩ 0 0 [previewInfo 1, previewInfo 1, previewInfo 2] :=
  (isStreamsSupported_decides_iff ⟨[], [], []⟩ new 0 0 _ (by decide)).mpr (by decide)

/-- The same id with another between. -/
theorem twice_not_decided : ¬ new.Decides ⟨[], [], []⟩ 0 0 [previewInfo 1, previewInfo 2, previewInfo 1] := by
  intro decides
  have accepted : (new.isStreamsSupported ⟨[], [], []⟩ 0 0 true [previewInfo 1, previewInfo 2, previewInfo 1]).1 = .noError := by
    decide
  have refused := decides.refuses.mpr (.inr (by decide))
  rw [accepted] at refused
  exact absurd refused (by decide)

end StreamOperator

end Peripheral.Camera
