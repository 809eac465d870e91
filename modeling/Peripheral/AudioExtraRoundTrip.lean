import Peripheral.AudioExtraLists

/-!
A render that is set to the list it prints. Every element of the list has the number of
its attribute, and all of them have room in both buffers.
-/
namespace Peripheral.AudioHal
open Strtok Strtol List
open Audio (AUDIO_HAL_SUCCESS AUDIO_HAL_ERR_INTERNAL AUDIO_HAL_ERR_INVALID_PARAM)

structure HwRender.Settable (render : HwRender) : Prop where
  route : AttrKey.route.Allows render.pathroute.toInt
  format : ∃ formatBits, formatToBits render.stream.param.attrs.format = some formatBits
  channels : AttrKey.channels.Allows render.stream.param.attrs.channelCount.toNat
  samplingRate : render.stream.param.attrs.sampleRate ∈ samplingRates

def HwRender.entries (render : HwRender) : List (AttrKey × Int) :=
  let attrs := render.stream.param.attrs
  [(.route, render.pathroute.toInt), (.format, ((formatToBits attrs.format).getD 0).toNat), (.channels, attrs.channelCount.toNat),
    (.frameCount, render.frames.toNat), (.samplingRate, attrs.sampleRate.toNat)]

def itemText (e : AttrKey × Int) : List Char := e.1.name ++ '=' :: printed e.2

def HwRender.texts (render : HwRender) : List (List Char) :=
  let attrs := render.stream.param.attrs
  [itemText (.route, render.pathroute.toInt) ++ [';'], itemText (.format, ((formatToBits attrs.format).getD 0).toNat) ++ [';'],
    itemText (.channels, attrs.channelCount.toNat) ++ [';'], itemText (.frameCount, render.frames.toNat) ++ [';'],
    itemText (.samplingRate, attrs.sampleRate.toNat)]

def HwRender.text (render : HwRender) : List Char := [';'].intercalate (render.entries.map itemText)

variable {n : Int}

theorem printed_nonneg (nonneg : 0 ≤ n) : printed n = Nat.toDigits 10 n.natAbs := if_neg (by omega)

theorem not_mem_printed (nonneg : 0 ≤ n) {c : Char} (other : c.isDigit = false) : c ∉ printed n := by
  intro member
  rw [printed_nonneg nonneg] at member
  have digit := Nat.isDigit_of_mem_toDigits (by decide) (by decide) member
  simp [other] at digit

theorem length_printed (nonneg : 0 ≤ n) {k : Nat} (some : 0 < k) (small : n.natAbs < 10 ^ k) : (printed n).length ≤ k := by
  rwa [printed_nonneg nonneg, Nat.length_toDigits_le_iff (by decide) some]

theorem decimal_printed (nonneg : 0 ≤ n) : decimal (printed n) = some n := by
  rw [printed_nonneg nonneg, decimal_toDigits, Int.natAbs_of_nonneg nonneg]

theorem AttrKey.name_plain (key : AttrKey) : key.name ≠ [] ∧ '=' ∉ key.name ∧ ';' ∉ key.name := by cases key <;> decide

theorem AttrKey.Allows.nonneg {key : AttrKey} (allows : key.Allows n) : 0 ≤ n ∧ n < 2 ^ 64 := by
  cases key with
  | route => exact ⟨allows.1, by have := allows.2; omega⟩
  | format => simp only [AttrKey.Allows] at allows; omega
  | channels => simp only [AttrKey.Allows] at allows; omega
  | frameCount => exact allows
  | samplingRate =>
    obtain ⟨rate, _, rfl⟩ := allows
    have bound := rate.toNat_lt
    omega

variable {e : AttrKey × Int}

theorem gives_itemText (allows : e.1.Allows e.2) : Gives (itemText e) e := by
  obtain ⟨nonneg, bound⟩ := allows.nonneg
  obtain ⟨full, inside, _⟩ := e.1.name_plain
  have short : (printed e.2).length ≤ 20 := length_printed nonneg (by decide) (by omega)
  have number : printed e.2 ≠ [] := by
    rw [printed_nonneg nonneg]
    exact Nat.toDigits_ne_nil
  refine ⟨printed e.2, [], ?_, by simp only [EXTPARAM_LEN]; omega, decimal_printed nonneg, allows⟩
  rw [itemText, tokens_append full inside, tokens_singleton number (not_mem_printed nonneg rfl)]

theorem tokens_items {entries : List (AttrKey × Int)} (allows : ∀ e ∈ entries, e.1.Allows e.2) :
    tokens ';' ([';'].intercalate (entries.map itemText)) = entries.map itemText := by
  refine tokens_intercalate fun item member => ?_
  obtain ⟨e, listed, rfl⟩ := mem_map.mp member
  have nonneg := (allows e listed).nonneg.1
  refine ⟨by simp [itemText], ?_⟩
  simp [itemText, e.1.name_plain.2.2, not_mem_printed nonneg]

theorem describes_items {entries : List (AttrKey × Int)} (some : entries ≠ []) (allows : ∀ e ∈ entries, e.1.Allows e.2)
    (room : ([';'].intercalate (entries.map itemText)).length < KEY_VALUE_LIST_LEN - 1) :
    Describes ([';'].intercalate (entries.map itemText)) entries := by
  refine ⟨room, some, ?_⟩
  rw [tokens_items allows, forall₂_map_left_iff, forall₂_same]
  exact fun e member => gives_itemText (allows e member)

theorem addElementsToList_room {listLenth : Nat} (texts : List (List Char)) {list : List Char}
    (room : (list ++ texts.flatten).length < listLenth) :
    addElementsToList listLenth (texts.map some) list = (AUDIO_HAL_SUCCESS, list ++ texts.flatten) := by
  induction texts generalizing list with
  | nil => simp [addElementsToList]
  | cons text texts ih =>
    rw [flatten_cons, ← append_assoc] at room
    have fits : ¬ listLenth ≤ list.length + text.length := by
      simp only [length_append] at room
      omega
    rw [map_cons, addElementsToList, if_neg fits, ih room, flatten_cons, append_assoc]

section
variable {render : HwRender} (settable : render.Settable)
include settable

theorem HwRender.Settable.allows : ∀ e ∈ render.entries, e.1.Allows e.2 := by
  obtain ⟨formatBits, bits⟩ := settable.format
  have format : AttrKey.format.Allows ((formatToBits render.stream.param.attrs.format).getD 0).toNat := by
    simp only [formatToBits] at bits ⊢
    split_ifs at bits ⊢ <;> simp [AttrKey.Allows] at bits ⊢
  have frames := render.frames.toNat_lt
  simp only [HwRender.entries, forall_mem_cons, not_mem_nil, false_implies, implies_true, and_true]
  exact ⟨settable.route, format, settable.channels, ⟨by omega, by omega⟩, _, settable.samplingRate, rfl⟩

theorem HwRender.Settable.lengths : (printed render.pathroute.toInt).length ≤ 1 ∧
      (printed ((formatToBits render.stream.param.attrs.format).getD 0).toNat).length ≤ 2 ∧
      (printed render.stream.param.attrs.channelCount.toNat).length ≤ 1 ∧ (printed render.frames.toNat).length ≤ 20 ∧
      (printed render.stream.param.attrs.sampleRate.toNat).length ≤ 5 := by
  have allows := settable.allows
  simp only [HwRender.entries, forall_mem_cons, not_mem_nil, false_implies, implies_true, and_true] at allows
  obtain ⟨route, format, channels, frames, _⟩ := allows
  have rate : ∀ rate ∈ samplingRates, rate.toNat < 10 ^ 5 := by simp [samplingRates]
  have few := rate _ settable.samplingRate
  simp only [AttrKey.Allows] at route format channels frames
  refine ⟨length_printed ?_ ?_ ?_, length_printed ?_ ?_ ?_, length_printed ?_ ?_ ?_, length_printed ?_ ?_ ?_,
    length_printed ?_ ?_ ?_⟩ <;> omega

theorem HwRender.Settable.elements_eq : elements render = render.texts.map some := by
  obtain ⟨formatBits, bits⟩ := settable.format
  have lengths := settable.lengths
  rw [bits, Option.getD_some] at lengths
  have prints (key : AttrKey) (n : Int) (tail : List Char) (short : (printed n).length ≤ 20) (one : tail.length ≤ 1) :
      strValue key.name n tail = some (itemText (key, n) ++ tail) := by
    have name := name_short key
    simp only [EXTPARAM_LEN] at name
    refine if_pos ?_
    simp only [length_append, length_cons, MAP_MAX]
    omega
  have route := prints .route render.pathroute.toInt [';'] (by omega) (by decide)
  have format := prints .format formatBits.toNat [';'] (by omega) (by decide)
  have channels := prints .channels render.stream.param.attrs.channelCount.toNat [';'] (by omega) (by decide)
  have frames := prints .frameCount render.frames.toNat [';'] (by omega) (by decide)
  have rate := prints .samplingRate render.stream.param.attrs.sampleRate.toNat [] (by omega) (by decide)
  simp only [AttrKey.name] at route format channels frames rate
  simp only [elements, HwRender.texts, bits, Option.bind_some, Option.getD_some, route, format, channels, frames, rate, map_cons, map_nil,
    append_nil]

omit settable in
theorem text_eq : render.text = render.texts.flatten := by
  simp [HwRender.text, HwRender.texts, HwRender.entries, intercalate, intersperse]

theorem HwRender.Settable.length_text : render.text.length < bufferSize := by
  have lengths := settable.lengths
  have names : AUDIO_ATTR_PARAM_ROUTE.length = 10 ∧ AUDIO_ATTR_PARAM_FORMAT.length = 11 ∧ AUDIO_ATTR_PARAM_CHANNELS.length = 13 ∧
      AUDIO_ATTR_PARAM_FRAME_COUNT.length = 16 ∧ AUDIO_ATTR_PARAM_SAMPLING_RATE.length = 18 := by decide
  have size : bufferSize = 107 := by decide
  rw [text_eq, size]
  simp only [HwRender.texts, itemText, AttrKey.name, flatten_cons, flatten_nil, length_append, length_cons, length_nil]
  omega

theorem HwRender.Settable.get {o : Outside} (listed : o.checkAddr = AUDIO_HAL_SUCCESS) {listLenth : Int32}
    (room : (bufferSize : Int) ≤ listLenth.toInt) :
    audioRenderGetExtraParams o render (some []) listLenth = (AUDIO_HAL_SUCCESS, some render.text) := by
  have address : ¬ o.checkAddr < 0 := by rw [listed]; decide
  have size : 0 < bufferSize := by decide
  have positive : ¬ listLenth ≤ 0 := by
    rw [Int32.le_iff_toInt_le, Int32.toInt_zero]
    omega
  have short := settable.length_text
  rw [text_eq] at short ⊢
  have prints : addElementsToList listLenth.toInt.toNat (render.texts.map some) [] = (AUDIO_HAL_SUCCESS, render.texts.flatten) :=
    addElementsToList_room render.texts (by rw [nil_append]; omega)
  simp only [audioRenderGetExtraParams, if_neg address, if_neg positive, if_neg (not_lt.mpr room), settable.elements_eq, prints]
  rfl

theorem HwRender.Settable.describes : Describes render.text render.entries := by
  have short := settable.length_text
  have size : bufferSize ≤ KEY_VALUE_LIST_LEN - 1 := by decide
  exact describes_items (by simp [HwRender.entries]) settable.allows (lt_of_lt_of_le short size)

theorem HwRender.Settable.named : render.named render.entries = render := by
  obtain ⟨formatBits, bits⟩ := settable.format
  have format : (bitsToFormat (.ofInt ((formatToBits render.stream.param.attrs.format).getD 0).toNat)).getD 0 =
      render.stream.param.attrs.format := by
    simp only [formatToBits] at bits ⊢
    split_ifs at bits ⊢ with word triple half byte
    · rw [word]; rfl
    · rw [triple]; rfl
    · rw [half]; rfl
    · rw [byte]; rfl
  have frames : UInt64.ofInt render.frames.toNat = render.frames := by rw [ofInt_natCast, UInt64.ofNat_toNat]
  simp [HwRender.named, HwRender.entries, lastValue, format, frames, ofInt_toNat]

end

/-- Well-formed lists set what they say, others nothing as long as their values are plain, and a render that is settable is
    set to itself by the list that it prints. -/
theorem extraParams_correct (inval : Bool) {o : Outside} (listed : o.checkAddr = AUDIO_HAL_SUCCESS) (render : HwRender) :
    (∀ list, Plain list →
        ((audioRenderSetExtraParams inval o (some list) render).1 = AUDIO_HAL_SUCCESS ↔ ∃ entries, Describes list entries)) ∧
      (∀ list entries, Describes list entries →
        audioRenderSetExtraParams inval o (some list) render = (AUDIO_HAL_SUCCESS, render.named entries)) ∧
      (∀ list, (audioRenderSetExtraParams inval o list render).1 ≠ AUDIO_HAL_SUCCESS →
        (audioRenderSetExtraParams inval o list render).2 = render) ∧
      (render.Settable → ∀ listLenth : Int32, (bufferSize : Int) ≤ listLenth.toInt →
        ∃ text, audioRenderGetExtraParams o render (some []) listLenth = (AUDIO_HAL_SUCCESS, some text) ∧
          audioRenderSetExtraParams inval o (some text) render = (AUDIO_HAL_SUCCESS, render)) := by
  refine ⟨fun list plain => ⟨describes_of_set plain, ?_⟩, ?_, fun list => set_fails inval o list render, ?_⟩
  · rintro ⟨entries, describes⟩
    rw [set_describes inval listed describes]
  · exact fun list entries describes => set_describes inval listed describes render
  · intro settable listLenth room
    refine ⟨render.text, settable.get listed room, ?_⟩
    rw [set_describes inval listed settable.describes, settable.named]

def speaker : HwRender := ⟨newStream, 0, 0⟩
def testList : List Char := "attr-route=1;attr-format=32;attr-channels=2;attr-frame-count=82;attr-sampling-rate=48000".toList
def testEntries : List (AttrKey × Int) :=
  [(.route, 1), (.format, 32), (.channels, 2), (.frameCount, 82), (.samplingRate, 48000)]

theorem testEntries_allowed : ∀ e ∈ testEntries, e.1.Allows e.2 := by
  simp only [testEntries, forall_mem_cons, not_mem_nil, false_implies, implies_true, and_true]
  exact ⟨⟨by decide, by decide⟩, .inr (.inr (.inr rfl)), .inr rfl, ⟨by decide, by decide⟩, 48000, by decide, rfl⟩

theorem testList_correct :
    audioRenderSetExtraParams true willing (some testList) speaker =
        (AUDIO_HAL_SUCCESS,
          ⟨{ speaker.stream with param.attrs.format := AUDIO_FORMAT_PCM_32_BIT }, 1, 82⟩) ∧
      ∃ text, audioRenderGetExtraParams willing speaker (some []) 128 = (AUDIO_HAL_SUCCESS, some text) ∧
        audioRenderSetExtraParams true willing (some text) speaker = (AUDIO_HAL_SUCCESS, speaker) := by
  have correct := extraParams_correct true (show willing.checkAddr = AUDIO_HAL_SUCCESS from rfl) speaker
  have describes : Describes testList testEntries := describes_items (by decide) testEntries_allowed (by decide)
  have settable : speaker.Settable := ⟨⟨by decide, by decide⟩, ⟨16, rfl⟩, .inr rfl, by decide⟩
  exact ⟨correct.2.1 testList testEntries describes, correct.2.2.2 settable 128 (by decide)⟩

/-! ### Lists that are taken for others -/

def Tells (item : List Char) (e : AttrKey × Int) : Prop :=
  ∃ value, item = e.1.name ++ '=' :: value ∧ decimal value = some e.2 ∧ e.1.Allows e.2

/-- One item or more, with one semicolon between two of them. -/
def Separated (list : List Char) : Prop :=
  ∃ items entries, items ≠ [] ∧ list = [';'].intercalate items ∧ List.Forall₂ Tells items entries

theorem tells_plain {item : List Char} (tells : Tells item e) : ';' ∉ item := by
  obtain ⟨value, rfl, number, _⟩ := tells
  have digits : ';' ∉ value := fun member => absurd (mem_decimal number member) (by decide)
  simp [e.1.name_plain.2.2, digits]

theorem separated_iff (list : List Char) : Separated list ↔ ∃ entries, List.Forall₂ Tells (list.splitOn ';') entries := by
  constructor
  · rintro ⟨items, entries, some, rfl, tells⟩
    refine ⟨entries, ?_⟩
    rwa [splitOn_intercalate ';' _ some]
    clear some
    induction tells with
    | nil => simp
    | cons first _ ih => exact forall_mem_cons.mpr ⟨tells_plain first, ih⟩
  · rintro ⟨entries, tells⟩
    exact ⟨_, entries, splitOn_ne_nil ';' list, (intercalate_splitOn ';').symm, tells⟩

theorem tells_itemText (allows : e.1.Allows e.2) : Tells (itemText e) e :=
  ⟨printed e.2, rfl, decimal_printed allows.nonneg.1, allows⟩

theorem not_tells_nil (e : AttrKey × Int) : ¬ Tells [] e := by
  rintro ⟨value, empty, _⟩
  simp at empty

def emptyItemList : List Char := "attr-route=1;;attr-channels=2".toList

def longList : List Char := [';'].intercalate (replicate 7 (itemText (.frameCount, 1)))

/-- A list is accepted that is none, and one is refused. -/
theorem not_separated_accepted :
    ((audioRenderSetExtraParams true willing (some emptyItemList) speaker).1 = AUDIO_HAL_SUCCESS ∧ ¬ Separated emptyItemList) ∧
      (audioRenderSetExtraParams true willing (some longList) speaker).1 ≠ AUDIO_HAL_SUCCESS ∧ Separated longList := by
  refine ⟨⟨by decide +kernel, ?_⟩, by decide +kernel, ?_⟩
  · rw [separated_iff]
    rintro ⟨entries, tells⟩
    have items : emptyItemList.splitOn ';' = ["attr-route=1".toList, [], "attr-channels=2".toList] := by decide +kernel
    rw [items] at tells
    obtain ⟨_, _, _, behind, _⟩ := forall₂_cons_left_iff.mp tells
    obtain ⟨e, _, second, _⟩ := forall₂_cons_left_iff.mp behind
    exact not_tells_nil e second
  · have one : Tells (itemText (.frameCount, 1)) (.frameCount, 1) := tells_itemText ⟨by decide, by decide⟩
    refine ⟨_, replicate 7 (.frameCount, 1), by decide, rfl, ?_⟩
    simp only [replicate, forall₂_cons, one, true_and, List.Forall₂.nil]

end Peripheral.AudioHal
