import Mathlib.Data.List.Forall2
import Mathlib.Data.List.Induction
import Mathlib.Tactic.IntervalCases
import Peripheral.AudioExtraParams

/-!
What a list of extra parameters says, and that a render is set to it. The items of a list
are what stands between its semicolons, and the numbers of an item are those of the
attribute that it names. A list that a render prints says what the render is.
-/
namespace Peripheral.AudioHal
open Strtok Strtol Option List
open Audio (AUDIO_HAL_SUCCESS AUDIO_HAL_ERR_INTERNAL AUDIO_HAL_ERR_INVALID_PARAM HDF_FAILURE)

inductive AttrKey
  | route
  | format
  | channels
  | frameCount
  | samplingRate
  deriving DecidableEq

namespace AttrKey

def name : AttrKey → List Char
  | .route => AUDIO_ATTR_PARAM_ROUTE
  | .format => AUDIO_ATTR_PARAM_FORMAT
  | .channels => AUDIO_ATTR_PARAM_CHANNELS
  | .frameCount => AUDIO_ATTR_PARAM_FRAME_COUNT
  | .samplingRate => AUDIO_ATTR_PARAM_SAMPLING_RATE

/-- The numbers that the attribute may have. That of a format is its bits. -/
def Allows : AttrKey → Int → Prop
  | .route, n => 0 ≤ n ∧ n ≤ 3
  | .format, n => n = 8 ∨ n = 16 ∨ n = 24 ∨ n = 32
  | .channels, n => n = 1 ∨ n = 2
  | .frameCount, n => 0 ≤ n ∧ n < 2 ^ 64
  | .samplingRate, n => ∃ rate ∈ samplingRates, n = rate.toNat

def Holds : AttrKey → Int → Prop
  | .route, n => LONG_MIN ≤ n ∧ n ≤ LONG_MAX
  | .format, n => LONG_MIN ≤ n ∧ n ≤ LONG_MAX
  | .channels, n => n.natAbs < 2 ^ 64
  | .frameCount, n => n.natAbs < 2 ^ 64
  | .samplingRate, n => n.natAbs < 2 ^ 64

def bits : AttrKey → Nat
  | .frameCount => 64
  | _ => 32

/-- The number is allowed, or one that is has the same last bits. -/
def Wraps (key : AttrKey) (n : Int) : Prop := key.Holds n ∧ ∃ m, key.Allows m ∧ m % 2 ^ key.bits = n % 2 ^ key.bits

def put : AttrKey → Int → ExtraParams → ExtraParams
  | .route, n, params => { params with route := .ofInt n }
  | .format, n, params => { params with format := ((bitsToFormat (.ofInt n)).getD 0).toInt32 }
  | .channels, n, params => { params with channels := .ofInt n }
  | .frameCount, n, params => { params with frames := .ofInt n, flag := true }
  | .samplingRate, n, params => { params with sampleRate := .ofInt n }

end AttrKey

def Gives (item : List Char) (e : AttrKey × Int) : Prop :=
  ∃ value behind, tokens '=' item = e.1.name :: value :: behind ∧ value.length < EXTPARAM_LEN - 1 ∧ decimal value = some e.2 ∧
    e.1.Allows e.2

structure Describes (list : List Char) (entries : List (AttrKey × Int)) : Prop where
  room : list.length < KEY_VALUE_LIST_LEN - 1
  some : entries ≠ []
  items : List.Forall₂ Gives (tokens ';' list) entries

/-- The values of attributes are numbers, and none is taken for one that is allowed without being so. -/
def Plain (list : List Char) : Prop :=
  ∀ item ∈ tokens ';' list, ∀ (key : AttrKey) value behind, tokens '=' item = key.name :: value :: behind →
    ∃ n, decimal value = some n ∧ (key.Wraps n → key.Allows n)

def lastValue (entries : List (AttrKey × Int)) (key : AttrKey) : Option Int :=
  (entries.reverse.find? fun e => e.1 = key).map (·.2)

def HwRender.named (render : HwRender) (entries : List (AttrKey × Int)) : HwRender :=
  let attrs := render.stream.param.attrs
  { render with
    pathroute := ((lastValue entries .route).map Int32.ofInt).getD render.pathroute
    frames := ((lastValue entries .frameCount).map UInt64.ofInt).getD render.frames
    stream.param.attrs.format := ((lastValue entries .format).map fun n => (bitsToFormat (.ofInt n)).getD 0).getD attrs.format
    stream.param.attrs.channelCount := ((lastValue entries .channels).map UInt32.ofInt).getD attrs.channelCount
    stream.param.attrs.sampleRate := ((lastValue entries .samplingRate).map UInt32.ofInt).getD attrs.sampleRate }

theorem readItem_eq_some {item : List Char} {entry : ParamVal} : readItem item = some entry ↔
      ∃ behind, tokens '=' item = entry.key :: entry.value :: behind ∧ entry.key.length < EXTPARAM_LEN - 1 ∧
        entry.value.length < EXTPARAM_LEN - 1 := by
  unfold readItem
  obtain ⟨none, empty⟩ | ⟨key, rest, some, first⟩ := strtokR_eq '=' item
  · simp [none, empty]
  · rw [some, first]
    obtain ⟨none, empty⟩ | ⟨value, behind, some, second⟩ := strtokR_eq '=' rest
    · simp [none, empty]
    · rw [second]
      simp only [some]
      cases entry
      grind

/-- The map has room for the items of every list that is as long as the buffer. -/
theorem readItems_eq {left : Nat} {buffer : List Char} (room : (tokens ';' buffer).length ≤ left) (map : List ParamVal) :
    readItems left buffer map = ((tokens ';' buffer).mapM readItem).map (map ++ ·) := by
  induction left generalizing buffer map with
  | zero =>
    have empty : tokens ';' buffer = [] := length_eq_zero_iff.mp (by omega)
    simp [readItems, empty]
  | succ left ih =>
    obtain ⟨none, empty⟩ | ⟨item, rest, some, next⟩ := strtokR_eq ';' buffer
    · simp [readItems, none, empty]
    · rw [next, length_cons] at room
      simp only [readItems, some, next, mapM_cons]
      cases readItem item with
      | none => rfl
      | some entry =>
        have later := @ih rest (by omega) (map ++ [entry])
        simp only [later]
        cases (tokens ';' rest).mapM readItem <;> simp

theorem keyValueListToMap_eq (list : List Char) :
    keyValueListToMap list = if KEY_VALUE_LIST_LEN - 1 ≤ list.length then none else (tokens ';' list).mapM readItem := by
  unfold keyValueListToMap
  split
  · rfl
  · rename_i short
    have few := length_tokens ';' list
    rw [readItems_eq]
    · simp
    · simp only [KEY_VALUE_LIST_LEN, MAP_MAX] at short ⊢
      omega

section
variable {inval : Bool} {value : List Char} {n : Int}

theorem readable_zero {α : Type} [DecidableEq α] (value : α) (bounds : List α) (zero : α) :
    unreadable ⟨value, .zero⟩ bounds zero = false := by
  simp [unreadable]

section
variable (number : decimal value = some n)
include number

theorem strtol_holds (holds : LONG_MIN ≤ n ∧ n ≤ LONG_MAX) : strtol inval value = ⟨n, .zero⟩ := by
  rw [strtol_decimal inval number, if_neg (by omega), if_neg (by omega)]

theorem strtol_unreadable (not : ¬ (LONG_MIN ≤ n ∧ n ≤ LONG_MAX)) :
    unreadable (strtol inval value) [LONG_MAX, LONG_MIN] 0 = true := by
  rw [strtol_decimal inval number]
  by_cases above : LONG_MAX < n
  · rw [if_pos above]
    decide
  · rw [if_neg above, if_pos (by omega)]
    decide

theorem strtoul_holds (holds : n.natAbs < 2 ^ 64) : strtoul inval value = ⟨.ofInt n, .zero⟩ := by
  rw [strtoul_decimal inval number, if_neg (by omega)]

theorem strtoul_unreadable (not : ¬ n.natAbs < 2 ^ 64) : unreadable (strtoul inval value) [.ofNat ULONG_MAX] 0 = true := by
  rw [strtoul_decimal inval number, if_pos (by omega)]
  decide

end

theorem emod_of_int32 {m : Int} (same : Int32.ofInt n = .ofInt m) : m % 2 ^ 32 = n % 2 ^ 32 := by
  have bits (k : Int) : (Int32.ofInt k).toInt % 2 ^ 32 = k % 2 ^ 32 := by
    rw [Int32.toInt_ofInt]
    exact Int.bmod_emod
  rw [← bits m, ← bits n, same]

theorem emod_of_uint32 {m : Int} (same : UInt32.ofInt n = .ofInt m) : m % 2 ^ 32 = n % 2 ^ 32 := by
  have bits := congrArg UInt32.toNat same
  simp only [UInt32.ofInt, UInt32.toNat_ofNat'] at bits
  omega

theorem toUInt32_ofInt (n : Int) : (UInt64.ofInt n).toUInt32 = .ofInt n := by
  rw [← UInt32.toNat_inj, UInt64.toNat_toUInt32, UInt64.ofInt, UInt32.ofInt, UInt64.toNat_ofNat', UInt32.toNat_ofNat']
  omega

theorem ofInt_toNat (v : UInt32) : UInt32.ofInt v.toNat = v := by
  have bound := v.toNat_lt
  rw [← UInt32.toNat_inj, UInt32.ofInt, UInt32.toNat_ofNat']
  omega

theorem checkAttrRoute_eq (param : Int32) : checkAttrRoute param = HDF_SUCCESS ↔ 0 ≤ param.toInt ∧ param.toInt ≤ 3 := by
  have bounds : ¬ (param < DEEP_BUFF ∨ LOW_LATRNCY < param) ↔ 0 ≤ param.toInt ∧ param.toInt ≤ 3 := by
    rw [not_or, Int32.lt_iff_toInt_lt, Int32.lt_iff_toInt_lt, not_lt, not_lt]
    rfl
  rw [← bounds, checkAttrRoute]
  by_cases outside : param < DEEP_BUFF ∨ LOW_LATRNCY < param
  · rw [if_pos outside]
    exact iff_of_false (by decide) (not_not.mpr outside)
  · rw [if_neg outside]
    exact iff_of_true rfl outside

theorem transferRoute_allows (number : decimal value = some n) (allows : AttrKey.route.Allows n) :
    transferRoute inval value = some (.ofInt n) := by
  have holds : LONG_MIN ≤ n ∧ n ≤ LONG_MAX := by
    simp only [AttrKey.Allows, LONG_MIN, LONG_MAX] at allows ⊢
    omega
  have checked : checkAttrRoute (.ofInt n) = HDF_SUCCESS := by
    obtain ⟨least, most⟩ := allows
    interval_cases n <;> decide
  simp only [transferRoute, strtol_holds number holds, readable_zero, Bool.false_eq_true, if_false, checked, if_true]

theorem transferRoute_not (number : decimal value = some n) (not : ¬ AttrKey.route.Wraps n) : transferRoute inval value = none := by
  by_cases holds : LONG_MIN ≤ n ∧ n ≤ LONG_MAX
  · have checked : checkAttrRoute (.ofInt n) ≠ HDF_SUCCESS := by
      intro checked
      exact not ⟨holds, (Int32.ofInt n).toInt, (checkAttrRoute_eq _).mp checked, emod_of_int32 (Int32.ofInt_toInt _).symm⟩
    simp only [transferRoute, strtol_holds number holds, readable_zero, Bool.false_eq_true, if_false, checked]
  · simp only [transferRoute, strtol_unreadable number holds, if_true]

theorem bitsToFormat_allows (allows : AttrKey.format.Allows n) :
    ∃ format, bitsToFormat (.ofInt n) = some format ∧ checkAttrFormat format = HDF_SUCCESS := by
  rcases allows with rfl | rfl | rfl | rfl
  · exact ⟨AUDIO_FORMAT_PCM_8_BIT, rfl, rfl⟩
  · exact ⟨AUDIO_FORMAT_PCM_16_BIT, rfl, rfl⟩
  · exact ⟨AUDIO_FORMAT_PCM_24_BIT, rfl, rfl⟩
  · exact ⟨AUDIO_FORMAT_PCM_32_BIT, rfl, rfl⟩

theorem bitsToFormat_none (not : ∀ m, AttrKey.format.Allows m → Int32.ofInt n ≠ .ofInt m) : bitsToFormat (.ofInt n) = none := by
  have format8 := not 8 (.inl rfl)
  have format16 := not 16 (.inr (.inl rfl))
  have format24 := not 24 (.inr (.inr (.inl rfl)))
  have format32 := not 32 (.inr (.inr (.inr rfl)))
  exact (if_neg format32).trans ((if_neg format24).trans ((if_neg format16).trans (if_neg format8)))

section
variable (number : decimal value = some n)
include number

theorem transferFormat_allows (allows : AttrKey.format.Allows n) :
    transferFormat inval value = some ((bitsToFormat (.ofInt n)).getD 0).toInt32 := by
  have holds : LONG_MIN ≤ n ∧ n ≤ LONG_MAX := by
    simp only [AttrKey.Allows, LONG_MIN, LONG_MAX] at allows ⊢
    omega
  obtain ⟨format, bits, checked⟩ := bitsToFormat_allows allows
  simp only [transferFormat, strtol_holds number holds, readable_zero, Bool.false_eq_true, if_false, bits, checked, if_true,
    getD_some]

theorem transferFormat_not (not : ¬ AttrKey.format.Wraps n) : transferFormat inval value = none := by
  by_cases holds : LONG_MIN ≤ n ∧ n ≤ LONG_MAX
  · have bits : bitsToFormat (.ofInt n) = none :=
      bitsToFormat_none fun m allows same => not ⟨holds, m, allows, emod_of_int32 same⟩
    simp only [transferFormat, strtol_holds number holds, readable_zero, Bool.false_eq_true, if_false, bits]
  · simp only [transferFormat, strtol_unreadable number holds, if_true]

theorem transferChannels_allows (allows : AttrKey.channels.Allows n) : transferChannels inval value = some (.ofInt n) := by
  have holds : n.natAbs < 2 ^ 64 := by
    simp only [AttrKey.Allows] at allows
    omega
  have checked : checkAttrChannel (.ofInt n) = HDF_SUCCESS := by
    rcases allows with rfl | rfl <;> rfl
  simp only [transferChannels, strtoul_holds number holds, readable_zero, Bool.false_eq_true, if_false, toUInt32_ofInt, checked,
    if_true]

theorem transferChannels_not (not : ¬ AttrKey.channels.Wraps n) : transferChannels inval value = none := by
  by_cases holds : n.natAbs < 2 ^ 64
  · have mono : UInt32.ofInt n ≠ 1 := fun same => not ⟨holds, 1, .inl rfl, emod_of_uint32 same⟩
    have stereo : UInt32.ofInt n ≠ 2 := fun same => not ⟨holds, 2, .inr rfl, emod_of_uint32 same⟩
    have checked : checkAttrChannel (.ofInt n) ≠ HDF_SUCCESS := by
      rw [checkAttrChannel, if_pos ⟨mono, stereo⟩]
      decide
    simp only [transferChannels, strtoul_holds number holds, readable_zero, Bool.false_eq_true, if_false, toUInt32_ofInt, checked]
  · simp only [transferChannels, strtoul_unreadable number holds, if_true]

theorem transferFrames_allows (allows : AttrKey.frameCount.Allows n) : transferFrames inval value = some (.ofInt n) := by
  have holds : n.natAbs < 2 ^ 64 := by
    simp only [AttrKey.Allows] at allows
    omega
  simp only [transferFrames, strtoul_holds number holds, readable_zero, Bool.false_eq_true, if_false]

/-- All numbers of 64 bits are allowed, so that none is refused that can be read. -/
theorem transferFrames_not (not : ¬ AttrKey.frameCount.Wraps n) : transferFrames inval value = none := by
  have holds : ¬ n.natAbs < 2 ^ 64 := by
    intro holds
    refine not ⟨holds, n % 2 ^ 64, ⟨by omega, by omega⟩, ?_⟩
    exact Int.emod_emod_of_dvd n dvd_rfl
  simp only [transferFrames, strtoul_unreadable number holds, if_true]

theorem transferSampleRate_allows (allows : AttrKey.samplingRate.Allows n) :
    transferSampleRate inval value = some (.ofInt n) := by
  obtain ⟨rate, listed, rfl⟩ := allows
  have bound := rate.toNat_lt
  have holds : (rate.toNat : Int).natAbs < 2 ^ 64 := by omega
  have checked : checkAttrSamplingRate rate = HDF_SUCCESS := if_pos listed
  simp only [transferSampleRate, strtoul_holds number holds, readable_zero, Bool.false_eq_true, if_false, toUInt32_ofInt,
    ofInt_toNat, checked, if_true]

theorem transferSampleRate_not (not : ¬ AttrKey.samplingRate.Wraps n) : transferSampleRate inval value = none := by
  by_cases holds : n.natAbs < 2 ^ 64
  · have listed : UInt32.ofInt n ∉ samplingRates := fun listed =>
      not ⟨holds, (UInt32.ofInt n).toNat, ⟨_, listed, rfl⟩, emod_of_uint32 (ofInt_toNat _).symm⟩
    have checked : checkAttrSamplingRate (.ofInt n) ≠ HDF_SUCCESS := by
      rw [checkAttrSamplingRate, if_neg listed]
      decide
    simp only [transferSampleRate, strtoul_holds number holds, readable_zero, Bool.false_eq_true, if_false, toUInt32_ofInt, checked]
  · simp only [transferSampleRate, strtoul_unreadable number holds, if_true]

end

theorem setExtParam_allows (key : AttrKey) (number : decimal value = some n) (allows : key.Allows n) (params : ExtraParams) :
    setExtParam inval value key.name params = some (key.put n params) := by
  cases key with
  | route => exact congrArg (Option.map _) (transferRoute_allows number allows)
  | format => exact congrArg (Option.map _) (transferFormat_allows number allows)
  | channels => exact congrArg (Option.map _) (transferChannels_allows number allows)
  | frameCount => exact congrArg (Option.map _) (transferFrames_allows number allows)
  | samplingRate => exact congrArg (Option.map _) (transferSampleRate_allows number allows)

theorem setExtParam_not (key : AttrKey) (number : decimal value = some n) (not : ¬ key.Wraps n) (params : ExtraParams) :
    setExtParam inval value key.name params = none := by
  cases key with
  | route => exact congrArg (Option.map _) (transferRoute_not number not)
  | format => exact congrArg (Option.map _) (transferFormat_not number not)
  | channels => exact congrArg (Option.map _) (transferChannels_not number not)
  | frameCount => exact congrArg (Option.map _) (transferFrames_not number not)
  | samplingRate => exact congrArg (Option.map _) (transferSampleRate_not number not)

theorem setExtParam_key {key : List Char} {params after : ExtraParams} (sets : setExtParam inval value key params = some after) :
    ∃ known : AttrKey, key = known.name := by
  by_cases route : key = AUDIO_ATTR_PARAM_ROUTE
  · exact ⟨.route, route⟩
  by_cases format : key = AUDIO_ATTR_PARAM_FORMAT
  · exact ⟨.format, format⟩
  by_cases channels : key = AUDIO_ATTR_PARAM_CHANNELS
  · exact ⟨.channels, channels⟩
  by_cases frameCount : key = AUDIO_ATTR_PARAM_FRAME_COUNT
  · exact ⟨.frameCount, frameCount⟩
  by_cases samplingRate : key = AUDIO_ATTR_PARAM_SAMPLING_RATE
  · exact ⟨.samplingRate, samplingRate⟩
  simp [setExtParam, route, format, channels, frameCount, samplingRate] at sets

def Means (entry : ParamVal) (e : AttrKey × Int) : Prop := entry.key = e.1.name ∧ decimal entry.value = some e.2 ∧ e.1.Allows e.2

theorem name_short (key : AttrKey) : key.name.length < EXTPARAM_LEN - 1 := by cases key <;> decide

variable {entries : List (AttrKey × Int)} {items : List (List Char)}

theorem allows_of_gives (gives : List.Forall₂ Gives items entries) : ∀ e ∈ entries, e.1.Allows e.2 := by
  induction gives with
  | nil => simp
  | cons first _ ih =>
    obtain ⟨_, _, _, _, _, allows⟩ := first
    exact forall_mem_cons.mpr ⟨allows, ih⟩

theorem mapM_gives (gives : List.Forall₂ Gives items entries) :
    ∃ map, items.mapM readItem = some map ∧ List.Forall₂ Means map entries := by
  induction gives with
  | nil => exact ⟨[], rfl, .nil⟩
  | @cons item e _ _ first _ ih =>
    obtain ⟨map, reads, means⟩ := ih
    obtain ⟨value, behind, parts, short, number, allows⟩ := first
    have entry : readItem item = some ⟨e.1.name, value⟩ := readItem_eq_some.mpr ⟨behind, parts, name_short e.1, short⟩
    exact ⟨⟨e.1.name, value⟩ :: map, by simp [mapM_cons, entry, reads], .cons ⟨rfl, number, allows⟩ means⟩

def putAll (entries : List (AttrKey × Int)) (params : ExtraParams) : ExtraParams :=
  entries.foldl (fun params e => e.1.put e.2 params) params

theorem setExtParams_means {map : List ParamVal} (means : List.Forall₂ Means map entries) (params : ExtraParams) (sumOk : Nat) :
    setExtParams inval map params sumOk = some (putAll entries params, sumOk + map.length) := by
  induction means generalizing params sumOk with
  | nil => rfl
  | cons first _ ih =>
    obtain ⟨key, number, allows⟩ := first
    simp only [setExtParams, key, setExtParam_allows _ number allows, ih, putAll, foldl_cons, length_cons,
      some.injEq, Prod.mk.injEq, true_and]
    omega

theorem gives_of_mapM (plain : ∀ item ∈ items, ∀ (key : AttrKey) value behind, tokens '=' item = key.name :: value :: behind →
      ∃ n, decimal value = some n ∧ (key.Wraps n → key.Allows n))
    {map : List ParamVal} (reads : items.mapM readItem = some map) {params : ExtraParams} {sumOk : Nat}
    (sets : (setExtParams inval map params sumOk).isSome = true) : ∃ entries, List.Forall₂ Gives items entries := by
  induction items generalizing map params sumOk with
  | nil => exact ⟨[], .nil⟩
  | cons item items ih =>
    rw [forall_mem_cons] at plain
    rw [mapM_cons] at reads
    obtain ⟨entry, entryReads, reads⟩ := bind_eq_some_iff.mp reads
    obtain ⟨others, othersRead, same⟩ := bind_eq_some_iff.mp reads
    cases same
    simp only [setExtParams] at sets
    split at sets
    · cases sets
    · rename_i after entrySets
      obtain ⟨entries, gives⟩ := ih plain.2 othersRead sets
      obtain ⟨behind, parts, _, short⟩ := readItem_eq_some.mp entryReads
      obtain ⟨key, known⟩ := setExtParam_key entrySets
      rw [known] at parts entrySets
      obtain ⟨n, number, honest⟩ := plain.1 key entry.value behind parts
      have wraps : key.Wraps n := by
        by_contra not
        rw [setExtParam_not key number not] at entrySets
        cases entrySets
      exact ⟨(key, n) :: entries, .cons ⟨entry.value, behind, parts, short, number, honest wraps⟩ gives⟩

end

theorem lastValue_append (entries : List (AttrKey × Int)) (e : AttrKey × Int) (key : AttrKey) :
    lastValue (entries ++ [e]) key = if e.1 = key then some e.2 else lastValue entries key := by
  rw [lastValue, reverse_append, reverse_singleton, singleton_append, find?_cons]
  by_cases same : e.1 = key <;> simp [same, lastValue]

theorem lastValue_mem {entries : List (AttrKey × Int)} {key : AttrKey} {n : Int} (last : lastValue entries key = some n) :
    (key, n) ∈ entries := by
  obtain ⟨e, found, number⟩ := map_eq_some_iff.mp last
  have own : e.1 = key := by simpa using find?_some found
  have member := mem_reverse.mp (mem_of_find?_eq_some found)
  rwa [← own, ← number]

theorem putAll_new (entries : List (AttrKey × Int)) : putAll entries .new =
      { route := ((lastValue entries .route).map Int32.ofInt).getD (-1)
        format := ((lastValue entries .format).map fun n => ((bitsToFormat (.ofInt n)).getD 0).toInt32).getD (-1)
        channels := ((lastValue entries .channels).map UInt32.ofInt).getD 0
        frames := ((lastValue entries .frameCount).map UInt64.ofInt).getD 0
        sampleRate := ((lastValue entries .samplingRate).map UInt32.ofInt).getD 0
        flag := (lastValue entries .frameCount).isSome } := by
  induction entries using reverseRecOn with
  | nil => rfl
  | append_singleton entries e ih =>
    rw [putAll] at ih
    obtain ⟨key, n⟩ := e
    rw [putAll, foldl_append, ih]
    cases key <;> simp [lastValue_append, AttrKey.put]

theorem setValue_eq (params : ExtraParams) (render : HwRender) :
    setValue params render =
      { render with
        pathroute := if params.route ≠ -1 then params.route else render.pathroute
        frames := if params.flag then params.frames else render.frames
        stream.param.attrs.format :=
          if params.format ≠ -1 then params.format.toUInt32 else render.stream.param.attrs.format
        stream.param.attrs.channelCount := if params.channels ≠ 0 then params.channels else render.stream.param.attrs.channelCount
        stream.param.attrs.sampleRate :=
          if params.sampleRate ≠ 0 then params.sampleRate else render.stream.param.attrs.sampleRate } := by
  simp only [setValue]
  split_ifs <;> rfl

theorem getD_unless {α β : Type} [DecidableEq α] {last : Option Int} {f : Int → α} {default : α} (g : α → β) (old : β)
    (differs : ∀ n, last = some n → f n ≠ default) :
    (if (last.map f).getD default ≠ default then g ((last.map f).getD default) else old) = (last.map fun n => g (f n)).getD old := by
  cases last with
  | none => simp
  | some n => simp [differs n rfl]

theorem getD_differs {α : Type} [DecidableEq α] {last : Option Int} {f : Int → α} {default : α} (old : α)
    (differs : ∀ n, last = some n → f n ≠ default) :
    (if (last.map f).getD default ≠ default then (last.map f).getD default else old) = (last.map f).getD old :=
  getD_unless id old differs

theorem setValue_putAll {entries : List (AttrKey × Int)} (allowed : ∀ e ∈ entries, e.1.Allows e.2) (render : HwRender) :
    setValue (putAll entries .new) render = render.named entries := by
  have last (key : AttrKey) (n : Int) (is : lastValue entries key = some n) : key.Allows n := allowed _ (lastValue_mem is)
  have route (n : Int) (is : lastValue entries .route = some n) : Int32.ofInt n ≠ -1 := by
    obtain ⟨least, most⟩ := last .route n is
    interval_cases n <;> decide
  have format (n : Int) (is : lastValue entries .format = some n) : ((bitsToFormat (.ofInt n)).getD 0).toInt32 ≠ -1 := by
    rcases last .format n is with rfl | rfl | rfl | rfl <;> decide
  have channels (n : Int) (is : lastValue entries .channels = some n) : UInt32.ofInt n ≠ 0 := by
    rcases last .channels n is with rfl | rfl <;> decide
  have samplingRate (n : Int) (is : lastValue entries .samplingRate = some n) : UInt32.ofInt n ≠ 0 := by
    obtain ⟨rate, listed, rfl⟩ := last .samplingRate n is
    rw [ofInt_toNat]
    rintro rfl
    exact absurd listed (by decide)
  have frames : (if (lastValue entries .frameCount).isSome then ((lastValue entries .frameCount).map UInt64.ofInt).getD 0
      else render.frames) = ((lastValue entries .frameCount).map UInt64.ofInt).getD render.frames := by
    cases lastValue entries .frameCount <;> rfl
  rw [putAll_new, setValue_eq]
  simp only [getD_differs _ route, getD_unless Int32.toUInt32 _ format, getD_differs _ channels, getD_differs _ samplingRate,
    frames]
  rfl

theorem set_describes (inval : Bool) {o : Outside} (listed : o.checkAddr = AUDIO_HAL_SUCCESS) {list : List Char}
    {entries : List (AttrKey × Int)} (describes : Describes list entries) (render : HwRender) :
    audioRenderSetExtraParams inval o (some list) render = (AUDIO_HAL_SUCCESS, render.named entries) := by
  obtain ⟨map, reads, means⟩ := mapM_gives describes.items
  have room : ¬ KEY_VALUE_LIST_LEN - 1 ≤ list.length := not_le.mpr describes.room
  have length : map.length ≠ 0 := by
    rw [means.length_eq]
    simpa using describes.some
  have address : ¬ o.checkAddr < 0 := by rw [listed]; decide
  have sets : audioSetExtraParams inval list = some (map.length, putAll entries .new, map.length) := by
    simp only [audioSetExtraParams, keyValueListToMap_eq, if_neg room, reads, setExtParams_means means, map_some, Nat.zero_add]
  simp only [audioRenderSetExtraParams, if_neg address, sets, length, ne_eq, not_false_eq_true, true_and, if_true,
    setValue_putAll (allows_of_gives describes.items)]

theorem describes_of_set {inval : Bool} {o : Outside} {list : List Char} {render : HwRender} (plain : Plain list)
    (set : (audioRenderSetExtraParams inval o (some list) render).1 = AUDIO_HAL_SUCCESS) : ∃ entries, Describes list entries := by
  have address : ¬ o.checkAddr < 0 := by
    intro refused
    simp only [audioRenderSetExtraParams, if_pos refused] at set
    rw [set] at refused
    exact absurd refused (by decide)
  simp only [audioRenderSetExtraParams, if_neg address] at set
  split at set
  · cases set
  · rename_i count params sumOk sets
    split at set
    · rename_i counted
      rw [audioSetExtraParams, keyValueListToMap_eq] at sets
      by_cases room : KEY_VALUE_LIST_LEN - 1 ≤ list.length
      · simp [room] at sets
      · rw [if_neg room] at sets
        split at sets
        · cases sets
        · rename_i map reads
          obtain ⟨⟨after, ok⟩, run, same⟩ := map_eq_some_iff.mp sets
          cases same
          obtain ⟨entries, gives⟩ := gives_of_mapM plain reads (by rw [run]; rfl)
          refine ⟨entries, not_le.mp room, ?_, gives⟩
          rintro rfl
          rw [forall₂_nil_right_iff.mp gives] at reads
          cases reads
          exact counted.1 rfl
    · cases set

theorem set_fails (inval : Bool) (o : Outside) (list : Option (List Char)) (render : HwRender)
    (fails : (audioRenderSetExtraParams inval o list render).1 ≠ AUDIO_HAL_SUCCESS) :
    (audioRenderSetExtraParams inval o list render).2 = render := by
  unfold audioRenderSetExtraParams at fails ⊢
  grind

end Peripheral.AudioHal
