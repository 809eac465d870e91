import Peripheral.AudioStream
import Peripheral.Strtok
import Peripheral.Strtol

/-!
The extra parameters of a render as a text, `audio_render.c` and
`audio_adapter_info_common.c`. A list of keys and values is cut into its items, each value
is converted with `strtol` or `strtoul`, and only when all have been converted is anything
set. The same list is printed from what is set. Texts have no zero in them.
-/
namespace Peripheral.AudioHal
open Strtok Strtol
open Audio (AUDIO_HAL_SUCCESS AUDIO_HAL_ERR_INTERNAL AUDIO_HAL_ERR_INVALID_PARAM HDF_FAILURE)

def MAP_MAX : Nat := 100
def EXTPARAM_LEN : Nat := 32
def KEY_VALUE_LIST_LEN : Nat := 128
def DEEP_BUFF : Int32 := 0
def LOW_LATRNCY : Int32 := 3
def AUDIO_ATTR_PARAM_ROUTE : List Char := "attr-route".toList
def ROUTE_SAMPLE : List Char := "attr-route=x;".toList
def AUDIO_ATTR_PARAM_FORMAT : List Char := "attr-format".toList
def FORMAT_SAMPLE : List Char := "attr-format=xx;".toList
def AUDIO_ATTR_PARAM_CHANNELS : List Char := "attr-channels".toList
def CHANNELS_SAMPLE : List Char := "attr-channels=x;".toList
def AUDIO_ATTR_PARAM_FRAME_COUNT : List Char := "attr-frame-count".toList
def FRAME_COUNT_SAMPLE : List Char := "attr-frame-count=xxxxxxxxxxxxxxxxxxxx;".toList
def AUDIO_ATTR_PARAM_SAMPLING_RATE : List Char := "attr-sampling-rate".toList
def SAMPLING_RATE_SAMPLE : List Char := "attr-sampling-rate=xxxxx".toList

structure HwRender where
  stream : HwStream
  pathroute : Int32
  frames : UInt64
  deriving DecidableEq

structure ParamVal where
  key : List Char
  value : List Char
  deriving DecidableEq

/-- `flag` is whether there is a number of frames. -/
structure ExtraParams where
  route : Int32
  format : Int32
  channels : UInt32
  frames : UInt64
  sampleRate : UInt32
  flag : Bool
  deriving DecidableEq

/-- An item of the list, with the parts that `strtok_r` finds in it. What is behind the second part is not read. -/
def readItem (item : List Char) : Option ParamVal :=
  match strtokR '=' item with
  | none => none
  | some (key, behind) =>
    if EXTPARAM_LEN - 1 ≤ key.length then none
    else
      match strtokR '=' behind with
      | none => none
      | some (value, _) => if EXTPARAM_LEN - 1 ≤ value.length then none else some ⟨key, value⟩

/-- The loop of `KeyValueListToMap`, with as many places left in the map. -/
def readItems : Nat → List Char → List ParamVal → Option (List ParamVal)
  | 0, _, map => some map
  | left + 1, buffer, map =>
    match strtokR ';' buffer with
    | none => some map
    | some (item, rest) =>
      match readItem item with
      | none => none
      | some entry => readItems left rest (map ++ [entry])

def keyValueListToMap (keyValueList : List Char) : Option (List ParamVal) :=
  if KEY_VALUE_LIST_LEN - 1 ≤ keyValueList.length then none else readItems MAP_MAX keyValueList []

def checkAttrRoute (param : Int32) : Int := if param < DEEP_BUFF ∨ LOW_LATRNCY < param then HDF_FAILURE else HDF_SUCCESS
def checkAttrChannel (param : UInt32) : Int := if param ≠ 1 ∧ param ≠ 2 then HDF_FAILURE else HDF_SUCCESS

def bitsToFormat (formatBits : Int32) : Option UInt32 :=
  if formatBits = 32 then some AUDIO_FORMAT_PCM_32_BIT
  else if formatBits = 24 then some AUDIO_FORMAT_PCM_24_BIT
  else if formatBits = 16 then some AUDIO_FORMAT_PCM_16_BIT
  else if formatBits = 8 then some AUDIO_FORMAT_PCM_8_BIT
  else none

def formatToBits (format : UInt32) : Option UInt32 :=
  if format = AUDIO_FORMAT_PCM_32_BIT then some 32
  else if format = AUDIO_FORMAT_PCM_24_BIT then some 24
  else if format = AUDIO_FORMAT_PCM_16_BIT then some 16
  else if format = AUDIO_FORMAT_PCM_8_BIT then some 8
  else none

def unreadable {α : Type} [DecidableEq α] (temp : Converted α) (bounds : List α) (zero : α) : Bool :=
  decide (temp.errno = .range ∧ temp.value ∈ bounds ∨ temp.errno ≠ .zero ∧ temp.value = zero)

section
variable (inval : Bool) (value : List Char)

/-- The check is given 32 bits of the number. -/
def transferRoute : Option Int32 :=
  let tempRoute := strtol inval value
  if unreadable tempRoute [LONG_MAX, LONG_MIN] 0 then none
  else if checkAttrRoute (.ofInt tempRoute.value) = HDF_SUCCESS then some (.ofInt tempRoute.value)
  else none

def transferFormat : Option Int32 :=
  let tempFormat := strtol inval value
  if unreadable tempFormat [LONG_MAX, LONG_MIN] 0 then none
  else
    match bitsToFormat (.ofInt tempFormat.value) with
    | none => none
    | some audioFormat => if checkAttrFormat audioFormat = HDF_SUCCESS then some audioFormat.toInt32 else none

def transferChannels : Option UInt32 :=
  let tempChannels := strtoul inval value
  if unreadable tempChannels [.ofNat ULONG_MAX] 0 then none
  else if checkAttrChannel tempChannels.value.toUInt32 = HDF_SUCCESS then some tempChannels.value.toUInt32
  else none

def transferFrames : Option UInt64 :=
  let tempFrames := strtoul inval value
  if unreadable tempFrames [.ofNat ULONG_MAX] 0 then none else some tempFrames.value

def transferSampleRate : Option UInt32 :=
  let tempSampleRate := strtoul inval value
  if unreadable tempSampleRate [.ofNat ULONG_MAX] 0 then none
  else if checkAttrSamplingRate tempSampleRate.value.toUInt32 = HDF_SUCCESS then some tempSampleRate.value.toUInt32
  else none

def setExtParam (key : List Char) (params : ExtraParams) : Option ExtraParams :=
  if key = AUDIO_ATTR_PARAM_ROUTE then (transferRoute inval value).map fun route => { params with route }
  else if key = AUDIO_ATTR_PARAM_FORMAT then (transferFormat inval value).map fun format => { params with format }
  else if key = AUDIO_ATTR_PARAM_CHANNELS then (transferChannels inval value).map fun channels => { params with channels }
  else if key = AUDIO_ATTR_PARAM_FRAME_COUNT then
    (transferFrames inval value).map fun frames => { params with frames, flag := true }
  else if key = AUDIO_ATTR_PARAM_SAMPLING_RATE then
    (transferSampleRate inval value).map fun sampleRate => { params with sampleRate }
  else none

end

def ExtraParams.new : ExtraParams := ⟨-1, -1, 0, 0, 0, false⟩

/-- The loop of `AudioSetExtraParams`, and how many have been set. -/
def setExtParams (inval : Bool) : List ParamVal → ExtraParams → Nat → Option (ExtraParams × Nat)
  | [], params, sumOk => some (params, sumOk)
  | entry :: rest, params, sumOk =>
    match setExtParam inval entry.value entry.key params with
    | none => none
    | some params => setExtParams inval rest params (sumOk + 1)

/-- The number of entries, what they set, and how many have been set. -/
def audioSetExtraParams (inval : Bool) (keyValueList : List Char) : Option (Nat × ExtraParams × Nat) :=
  match keyValueListToMap keyValueList with
  | none => none
  | some map => (setExtParams inval map .new 0).map fun set => (map.length, set)

def setValue (params : ExtraParams) (render : HwRender) : HwRender :=
  let routed := if params.route ≠ -1 then { render with pathroute := params.route } else render
  let formatted := if params.format ≠ -1 then { routed with stream.param.attrs.format := params.format.toUInt32 } else routed
  let mixed := if params.channels ≠ 0 then { formatted with stream.param.attrs.channelCount := params.channels } else formatted
  let framed := if params.flag then { mixed with frames := params.frames } else mixed
  if params.sampleRate ≠ 0 then { framed with stream.param.attrs.sampleRate := params.sampleRate } else framed

def audioRenderSetExtraParams (inval : Bool) (o : Outside) (keyValueList : Option (List Char)) (render : HwRender) :
    Int × HwRender :=
  if o.checkAddr < 0 then (o.checkAddr, render)
  else
    match keyValueList with
    | none => (AUDIO_HAL_ERR_INVALID_PARAM, render)
    | some keyValueList =>
      match audioSetExtraParams inval keyValueList with
      | none => (AUDIO_HAL_ERR_INTERNAL, render)
      | some (count, params, sumOk) =>
        if count ≠ 0 ∧ sumOk = count then (AUDIO_HAL_SUCCESS, setValue params render) else (AUDIO_HAL_ERR_INTERNAL, render)

def printed (n : Int) : List Char := if n < 0 then '-' :: Nat.toDigits 10 n.natAbs else Nat.toDigits 10 n.natAbs

def strValue (key : List Char) (n : Int) (ends : List Char) : Option (List Char) :=
  let text := key ++ '=' :: printed n ++ ends
  if text.length < MAP_MAX then some text else none

/-- The five elements, in their order. The last has no delimiter behind it. -/
def elements (render : HwRender) : List (Option (List Char)) :=
  let attrs := render.stream.param.attrs
  [strValue AUDIO_ATTR_PARAM_ROUTE render.pathroute.toInt [';'],
    (formatToBits attrs.format).bind fun formatBits => strValue AUDIO_ATTR_PARAM_FORMAT formatBits.toNat [';'],
    strValue AUDIO_ATTR_PARAM_CHANNELS attrs.channelCount.toNat [';'],
    strValue AUDIO_ATTR_PARAM_FRAME_COUNT render.frames.toNat [';'], strValue AUDIO_ATTR_PARAM_SAMPLING_RATE attrs.sampleRate.toNat []]

/-- A text that does not fit leaves an empty list. -/
def addElementsToList (listLenth : Nat) : List (Option (List Char)) → List Char → Int × List Char
  | [], keyValueList => (AUDIO_HAL_SUCCESS, keyValueList)
  | none :: _, keyValueList => (AUDIO_HAL_ERR_INTERNAL, keyValueList)
  | some text :: rest, keyValueList =>
    if listLenth ≤ keyValueList.length + text.length then (AUDIO_HAL_ERR_INTERNAL, [])
    else addElementsToList listLenth rest (keyValueList ++ text)

def bufferSize : Nat :=
  ROUTE_SAMPLE.length + FORMAT_SAMPLE.length + CHANNELS_SAMPLE.length + FRAME_COUNT_SAMPLE.length + SAMPLING_RATE_SAMPLE.length + 1

/-- The code, and what the list holds that was given with so much room. -/
def audioRenderGetExtraParams (o : Outside) (render : HwRender) (keyValueList : Option (List Char)) (listLenth : Int32) :
    Int × Option (List Char) :=
  if o.checkAddr < 0 then (o.checkAddr, keyValueList)
  else
    match keyValueList with
    | none => (AUDIO_HAL_ERR_INVALID_PARAM, none)
    | some list =>
      if listLenth ≤ 0 then (AUDIO_HAL_ERR_INVALID_PARAM, some list)
      else if listLenth.toInt < bufferSize then (AUDIO_HAL_ERR_INTERNAL, some list)
      else (addElementsToList listLenth.toInt.toNat (elements render) list).map id some

end Peripheral.AudioHal
