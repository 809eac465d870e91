import Peripheral.AudioDispatch

/-!
A render or a capture of the audio HAL, `audio_render.c` and `audio_capture.c`. A call
writes what it is to set into the parameters, hands them to the driver, and takes it back
if the driver refuses them. What the driver and the system answer comes with the call, and
all that the driver has accepted stands beside the stream, the last first.
-/
namespace Peripheral.AudioHal
open Transitions
open Audio (AUDIO_HAL_SUCCESS AUDIO_HAL_ERR_INTERNAL AUDIO_HAL_ERR_NOT_SUPPORT AUDIO_HAL_ERR_INVALID_PARAM
  AUDIO_HAL_ERR_INVALID_OBJECT AUDIO_HAL_ERR_MALLOC_FAIL AUDIO_HAL_ERR_AI_BUSY AUDIO_HAL_ERR_AO_BUSY AudioDeviceDescriptor
  AudioSampleAttributes AudioSceneDescriptor Direction)

def HDF_SUCCESS : Int := 0
def HDF_ERR_NOT_SUPPORT : Int := -2
def PIN_NONE : UInt32 := 0
def AUDIO_TURN_STANDBY_LATER : UInt32 := 0
def AUDIO_TURN_STANDBY_NOW : UInt32 := 1
def AUDIO_IN_MEDIA : UInt32 := 0
def AUDIO_IN_COMMUNICATION : UInt32 := 1
def AUDIO_FORMAT_PCM_8_BIT : UInt32 := 1
def AUDIO_FORMAT_PCM_16_BIT : UInt32 := 2
def AUDIO_FORMAT_PCM_24_BIT : UInt32 := 3
def AUDIO_FORMAT_PCM_32_BIT : UInt32 := 4

/-- What a failing call is to leave as it was. Of the frame buffer it is whether there is one, and of the gain the bits of
    the `float`. -/
structure HwParam where
  buffer : Bool
  pause : Bool
  mute : Bool
  gain : UInt32
  mode : UInt32
  pins : UInt32
  attrs : AudioSampleAttributes
  deriving DecidableEq

/-- An `AudioHwRender` or an `AudioHwCapture`. -/
structure HwStream where
  param : HwParam
  turnStandbyStatus : UInt32
  devDataHandle : Bool
  devCtlHandle : Bool
  deriving DecidableEq

/-- What a call finds outside the stream: the flag and the list that guard the addresses, the library for the driver,
    what the driver returns, memory, and what the path selection returns, if the HAL is built with it. -/
structure Outside where
  fuzzCheckFlag : Bool
  listed : Bool
  interfaceLib : Bool
  ret : Int
  calloc : Bool
  pathSelAnalysisJson : Option Int
  deriving DecidableEq

inductive Ioctl
  | start
  | stop
  | hwParams
  | pauseWrite
  | muteWrite
  | gainWrite
  | channelModeWrite
  | sceneSelect
  deriving DecidableEq

structure Request where
  cmd : Ioctl
  param : HwParam
  deriving DecidableEq

structure Called where
  ret : Int
  stream : HwStream
  accepted : List Request
  deriving DecidableEq

/-- `AudioCheckRenderAddr` and `AudioCheckCaptureAddr` of an address that is not null. -/
def Outside.checkAddr (o : Outside) : Int := if o.fuzzCheckFlag && !o.listed then AUDIO_HAL_ERR_INVALID_OBJECT else AUDIO_HAL_SUCCESS

def willing : Outside := ⟨false, true, true, 0, true, some 0⟩

def newStream : HwStream :=
  ⟨⟨false, false, false, 0, 0, 1, ⟨0, true, 2, 48000, 2, 0, 0, false, true, 0, 0, 0, 0⟩⟩, 0, true, true⟩

def HwStream.refuse (s : HwStream) (ret : Int) : Called := ⟨ret, s, []⟩

/-- The standby calls return one error for all that a STOP returns. -/
def Called.standby (stopped : Called) : Called :=
  { stopped with ret := if stopped.ret < 0 then AUDIO_HAL_ERR_INTERNAL else AUDIO_HAL_SUCCESS }

def start (busy : Int) (o : Outside) (s : HwStream) : Called :=
  if o.checkAddr < 0 then s.refuse o.checkAddr
  else if !o.interfaceLib then s.refuse AUDIO_HAL_ERR_INTERNAL
  else if s.param.buffer then s.refuse busy
  else if !s.devDataHandle then s.refuse AUDIO_HAL_ERR_INTERNAL
  else if o.ret < 0 then s.refuse AUDIO_HAL_ERR_INTERNAL
  else if !o.calloc then ⟨AUDIO_HAL_ERR_MALLOC_FAIL, s, [⟨.start, s.param⟩]⟩
  else ⟨AUDIO_HAL_SUCCESS, { s with param.buffer := true }, [⟨.start, s.param⟩]⟩

def audioRenderStart : Outside → HwStream → Called := start AUDIO_HAL_ERR_AO_BUSY
def audioCaptureStart : Outside → HwStream → Called := start AUDIO_HAL_ERR_AI_BUSY

/-- The buffer is freed before anything is asked. -/
def audioRenderStop (o : Outside) (s : HwStream) : Called :=
  if o.checkAddr < 0 then s.refuse o.checkAddr
  else if !s.param.buffer then s.refuse AUDIO_HAL_ERR_NOT_SUPPORT
  else
    let freed := { s with param.buffer := false }
    if !freed.devDataHandle then freed.refuse AUDIO_HAL_ERR_INTERNAL
    else if !o.interfaceLib then freed.refuse AUDIO_HAL_ERR_INTERNAL
    else
      let later := { freed with turnStandbyStatus := AUDIO_TURN_STANDBY_LATER }
      if o.ret < 0 then later.refuse AUDIO_HAL_ERR_INTERNAL else ⟨AUDIO_HAL_SUCCESS, later, [⟨.stop, freed.param⟩]⟩

def audioCaptureStop (o : Outside) (s : HwStream) : Called :=
  if o.checkAddr < 0 then s.refuse o.checkAddr
  else if !s.devDataHandle then s.refuse AUDIO_HAL_ERR_INTERNAL
  else if !s.param.buffer then s.refuse AUDIO_HAL_ERR_NOT_SUPPORT
  else
    let freed := { s with param.buffer := false }
    if !o.interfaceLib then freed.refuse AUDIO_HAL_ERR_INTERNAL
    else if o.ret < 0 then freed.refuse AUDIO_HAL_ERR_INTERNAL
    else ⟨AUDIO_HAL_SUCCESS, freed, [⟨.stop, freed.param⟩]⟩

def audioRenderTurnStandbyMode (o : Outside) (s : HwStream) : Called :=
  (audioRenderStop o { s with turnStandbyStatus := AUDIO_TURN_STANDBY_NOW }).standby

def audioCaptureTurnStandbyMode (o : Outside) (s : HwStream) : Called :=
  if o.checkAddr < 0 then s.refuse o.checkAddr else (audioCaptureStop o { s with param.pins := PIN_NONE }).standby

/-- A change of the parameters, and how it is taken back: from the old ones and those that are there now. -/
structure Change where
  set : HwParam → HwParam
  restore : HwParam → HwParam → HwParam
  restores : ∀ old, restore old (set old) = old

def Change.pause (pause : Bool) : Change where
  set param := { param with pause }
  restore old param := { param with pause := old.pause }
  restores _ := rfl

def Change.mute (mute : Bool) : Change where
  set param := { param with mute }
  restore old param := { param with mute := old.mute }
  restores _ := rfl

def Change.gain (gain : UInt32) : Change where
  set param := { param with gain }
  restore old param := { param with gain := old.gain }
  restores _ := rfl

def Change.mode (mode : UInt32) : Change where
  set param := { param with mode }
  restore old param := { param with mode := old.mode }
  restores _ := rfl

/-- All attributes but the identifier of the stream. -/
def Change.attrs (attrs : AudioSampleAttributes) : Change where
  set param := { param with attrs := { attrs with streamId := param.attrs.streamId } }
  restore old param := { param with attrs := old.attrs }
  restores _ := rfl

def Change.scene (scene : AudioSceneDescriptor) : Change where
  set param := { param with pins := scene.desc.pins, attrs.type := scene.id }
  restore old param := { param with pins := old.pins, attrs.type := old.attrs.type }
  restores _ := rfl

namespace HwStream

def tried (s : HwStream) (change : Change) : HwStream := { s with param := change.restore s.param (change.set s.param) }

def ask (s : HwStream) (o : Outside) (cmd : Ioctl) (change : Change) : Called :=
  if o.ret < 0 then (s.tried change).refuse AUDIO_HAL_ERR_INTERNAL
  else ⟨AUDIO_HAL_SUCCESS, { s with param := change.set s.param }, [⟨cmd, change.set s.param⟩]⟩

end HwStream

def pause (o : Outside) (s : HwStream) : Called :=
  if o.checkAddr < 0 then s.refuse o.checkAddr
  else if !s.param.buffer then s.refuse AUDIO_HAL_ERR_INTERNAL
  else if s.param.pause then s.refuse AUDIO_HAL_ERR_NOT_SUPPORT
  else if !s.devDataHandle then s.refuse AUDIO_HAL_ERR_INTERNAL
  else if !o.interfaceLib then s.refuse AUDIO_HAL_ERR_INTERNAL
  else s.ask o .pauseWrite (.pause true)

def audioRenderPause : Outside → HwStream → Called := pause
def audioCapturePause : Outside → HwStream → Called := pause

def resume (o : Outside) (s : HwStream) : Called :=
  if o.checkAddr < 0 then s.refuse o.checkAddr
  else if !s.param.pause then s.refuse AUDIO_HAL_ERR_NOT_SUPPORT
  else if !s.devDataHandle then s.refuse AUDIO_HAL_ERR_INTERNAL
  else if !o.interfaceLib then s.refuse AUDIO_HAL_ERR_INTERNAL
  else s.ask o .pauseWrite (.pause false)

def audioRenderResume : Outside → HwStream → Called := resume
def audioCaptureResume : Outside → HwStream → Called := resume

def setMute (mute : Bool) (o : Outside) (s : HwStream) : Called :=
  if o.checkAddr < 0 then s.refuse o.checkAddr
  else if !s.devCtlHandle then s.refuse AUDIO_HAL_ERR_INTERNAL
  else if !o.interfaceLib then s.refuse AUDIO_HAL_ERR_INTERNAL
  else s.ask o .muteWrite (.mute mute)

def audioRenderSetMute : Bool → Outside → HwStream → Called := setMute
def audioCaptureSetMute : Bool → Outside → HwStream → Called := setMute

/-- `gain < 0`, which a zero and a NaN are not. -/
def isNegative (gain : UInt32) : Bool := decide (0x80000000 < gain ∧ gain ≤ 0xFF800000)

def audioRenderSetGain (gain : UInt32) (o : Outside) (s : HwStream) : Called :=
  if o.checkAddr < 0 then s.refuse o.checkAddr
  else if isNegative gain then s.refuse AUDIO_HAL_ERR_INVALID_PARAM
  else if !s.devCtlHandle then (s.tried (.gain gain)).refuse AUDIO_HAL_ERR_INTERNAL
  else if !o.interfaceLib then (s.tried (.gain gain)).refuse AUDIO_HAL_ERR_INTERNAL
  else s.ask o .gainWrite (.gain gain)

def audioCaptureSetGain (gain : UInt32) (o : Outside) (s : HwStream) : Called :=
  if o.checkAddr < 0 then s.refuse o.checkAddr
  else if isNegative gain then s.refuse AUDIO_HAL_ERR_INVALID_PARAM
  else if !s.devCtlHandle then s.refuse AUDIO_HAL_ERR_INTERNAL
  else if !o.interfaceLib then (s.tried (.gain gain)).refuse AUDIO_HAL_ERR_INTERNAL
  else s.ask o .gainWrite (.gain gain)

def audioRenderSetChannelMode (mode : UInt32) (o : Outside) (s : HwStream) : Called :=
  if o.checkAddr < 0 then s.refuse o.checkAddr
  else if !s.devCtlHandle then s.refuse AUDIO_HAL_ERR_INTERNAL
  else if !o.interfaceLib then (s.tried (.mode mode)).refuse AUDIO_HAL_ERR_INTERNAL
  else s.ask o .channelModeWrite (.mode mode)

/-- No scene is a null pointer. -/
def selectScene (scene : Option AudioSceneDescriptor) (o : Outside) (s : HwStream) : Called :=
  if o.checkAddr < 0 then s.refuse o.checkAddr
  else
    match scene with
    | none => s.refuse AUDIO_HAL_ERR_INVALID_PARAM
    | some scene =>
      if !s.devCtlHandle then s.refuse AUDIO_HAL_ERR_INTERNAL
      else
        match o.pathSelAnalysisJson with
        | none => s.refuse AUDIO_HAL_ERR_NOT_SUPPORT
        | some selected =>
          if selected < 0 then (s.tried (.scene scene)).refuse AUDIO_HAL_ERR_INTERNAL
          else if !o.interfaceLib then (s.tried (.scene scene)).refuse AUDIO_HAL_ERR_INTERNAL
          else s.ask o .sceneSelect (.scene scene)

def audioRenderSelectScene : Option AudioSceneDescriptor → Outside → HwStream → Called := selectScene
def audioCaptureSelectScene : Option AudioSceneDescriptor → Outside → HwStream → Called := selectScene

/-- `TELHPONE_RATE` to `AUDIO_SAMPLE_RATE_96000`. -/
def samplingRates : List UInt32 := [8000, 11025, 22050, 32000, 44100, 48000, 12000, 16000, 24000, 64000, 96000]

def checkAttrSamplingRate (param : UInt32) : Int := if param ∈ samplingRates then HDF_SUCCESS else HDF_ERR_NOT_SUPPORT

/-- The formats of PCM, and `AUDIO_FORMAT_AAC_MAIN` to `AUDIO_FORMAT_AAC_HE_V2`. -/
def attrFormats : List UInt32 :=
  [AUDIO_FORMAT_PCM_8_BIT, AUDIO_FORMAT_PCM_16_BIT, AUDIO_FORMAT_PCM_24_BIT, AUDIO_FORMAT_PCM_32_BIT, 0x1000001, 0x1000002,
    0x1000003, 0x1000004, 0x1000005, 0x1000006]

def checkAttrFormat (param : UInt32) : Int := if param ∈ attrFormats then HDF_SUCCESS else HDF_ERR_NOT_SUPPORT

def audioCheckParaAttr (attrs : AudioSampleAttributes) : Int :=
  if attrs.type ≠ AUDIO_IN_MEDIA ∧ attrs.type ≠ AUDIO_IN_COMMUNICATION then HDF_ERR_NOT_SUPPORT
  else if checkAttrFormat attrs.format < 0 then checkAttrFormat attrs.format
  else checkAttrSamplingRate attrs.sampleRate

def audioRenderSetSampleAttributes (attrs : Option AudioSampleAttributes) (o : Outside) (s : HwStream) : Called :=
  if o.checkAddr < 0 then s.refuse o.checkAddr
  else
    match attrs with
    | none => s.refuse AUDIO_HAL_ERR_INVALID_PARAM
    | some attrs =>
      if !s.devDataHandle then s.refuse AUDIO_HAL_ERR_INVALID_PARAM
      else if audioCheckParaAttr attrs ≠ AUDIO_HAL_SUCCESS then s.refuse (audioCheckParaAttr attrs)
      else if !o.interfaceLib then (s.tried (.attrs attrs)).refuse AUDIO_HAL_ERR_INTERNAL
      else s.ask o .hwParams (.attrs attrs)

def audioCaptureSetSampleAttributes (attrs : Option AudioSampleAttributes) (o : Outside) (s : HwStream) : Called :=
  if o.checkAddr < 0 then s.refuse o.checkAddr
  else
    match attrs with
    | none => s.refuse AUDIO_HAL_ERR_INVALID_PARAM
    | some attrs =>
      if audioCheckParaAttr attrs ≠ AUDIO_HAL_SUCCESS then s.refuse (audioCheckParaAttr attrs)
      else if !o.interfaceLib then (s.tried (.attrs attrs)).refuse AUDIO_HAL_ERR_INTERNAL
      else if !s.devDataHandle then (s.tried (.attrs attrs)).refuse AUDIO_HAL_ERR_INTERNAL
      else s.ask o .hwParams (.attrs attrs)

inductive StreamCall : Direction → Type
  | start {d : Direction} : StreamCall d
  | stop {d : Direction} : StreamCall d
  | pause {d : Direction} : StreamCall d
  | resume {d : Direction} : StreamCall d
  | turnStandbyMode {d : Direction} : StreamCall d
  | setMute {d : Direction} (mute : Bool) : StreamCall d
  | setGain {d : Direction} (gain : UInt32) : StreamCall d
  | setChannelMode (mode : UInt32) : StreamCall .render
  | selectScene {d : Direction} (scene : Option AudioSceneDescriptor) : StreamCall d
  | setSampleAttributes {d : Direction} (attrs : Option AudioSampleAttributes) : StreamCall d

def StreamCall.call : {d : Direction} → StreamCall d → Outside → HwStream → Called
  | .render, .start => audioRenderStart
  | .capture, .start => audioCaptureStart
  | .render, .stop => audioRenderStop
  | .capture, .stop => audioCaptureStop
  | .render, .pause => audioRenderPause
  | .capture, .pause => audioCapturePause
  | .render, .resume => audioRenderResume
  | .capture, .resume => audioCaptureResume
  | .render, .turnStandbyMode => audioRenderTurnStandbyMode
  | .capture, .turnStandbyMode => audioCaptureTurnStandbyMode
  | .render, .setMute mute => audioRenderSetMute mute
  | .capture, .setMute mute => audioCaptureSetMute mute
  | .render, .setGain gain => audioRenderSetGain gain
  | .capture, .setGain gain => audioCaptureSetGain gain
  | .render, .setChannelMode mode => audioRenderSetChannelMode mode
  | .render, .selectScene scene => audioRenderSelectScene scene
  | .capture, .selectScene scene => audioCaptureSelectScene scene
  | .render, .setSampleAttributes attrs => audioRenderSetSampleAttributes attrs
  | .capture, .setSampleAttributes attrs => audioCaptureSetSampleAttributes attrs

structure Session where
  stream : HwStream
  accepted : List Request
  deriving DecidableEq

def Session.step {d : Direction} (s : Session) (e : StreamCall d × Outside) : Session :=
  let called := e.1.call e.2 s.stream
  ⟨called.stream, called.accepted ++ s.accepted⟩

def Session.Created (s : Session) : Prop := s.accepted = [] ∧ s.stream.param.buffer = false ∧ s.stream.param.pause = false

/-- The last START or STOP is a START. -/
def driverStarted : List Request → Bool
  | [] => false
  | ⟨.start, _⟩ :: _ => true
  | ⟨.stop, _⟩ :: _ => false
  | _ :: before => driverStarted before

/-- The last PAUSE_WRITE behind the last START is one that pauses. -/
def driverPaused : List Request → Bool
  | [] => false
  | ⟨.start, _⟩ :: _ => false
  | ⟨.pauseWrite, param⟩ :: _ => param.pause
  | _ :: before => driverPaused before

structure Session.Mirrors (s : Session) : Prop where
  started : s.stream.param.buffer = driverStarted s.accepted
  paused : s.stream.param.pause = driverPaused s.accepted

def Session.Keeps {d : Direction} (s : Session) (e : StreamCall d × Outside) : Prop :=
  (e.1.call e.2 s.stream).ret ≠ AUDIO_HAL_SUCCESS → (s.step e).stream.param = s.stream.param

/-- After each call the stream is what it is for the driver, and what failed has changed nothing. -/
def Session.Faithful {d : Direction} (s : Session) (calls : List (StreamCall d × Outside)) : Prop :=
  Takes Session.step (fun s e => (s.step e).Mirrors ∧ s.Keeps e) s calls

/-! ### When the HAL and the driver part -/

/-- The driver is asked to start the stream, and accepts. -/
def Outside.Starts (o : Outside) (s : HwStream) : Prop :=
  o.checkAddr = AUDIO_HAL_SUCCESS ∧ o.interfaceLib = true ∧ s.param.buffer = false ∧ s.devDataHandle = true ∧ 0 ≤ o.ret

def Outside.Answers (o : Outside) : Prop := o.interfaceLib = true ∧ 0 ≤ o.ret

/-- A START that is accepted finds memory and no pause. What is started is stopped only with the consent of the driver, and
    no capture that cannot be stopped is put into standby while it has pins. -/
def Meets : {d : Direction} → HwStream → StreamCall d × Outside → Prop
  | _, s, (.start, o) => o.Starts s → o.calloc = true ∧ s.param.pause = false
  | .render, s, (.stop, o) => o.checkAddr = AUDIO_HAL_SUCCESS → s.param.buffer = true → s.devDataHandle = true ∧ o.Answers
  | .capture, s, (.stop, o) => o.checkAddr = AUDIO_HAL_SUCCESS → s.devDataHandle = true → s.param.buffer = true → o.Answers
  | .render, s, (.turnStandbyMode, o) =>
    o.checkAddr = AUDIO_HAL_SUCCESS → s.param.buffer = true → s.devDataHandle = true ∧ o.Answers
  | .capture, s, (.turnStandbyMode, o) =>
    o.checkAddr = AUDIO_HAL_SUCCESS →
      if s.devDataHandle = true ∧ s.param.buffer = true then o.Answers else s.param.pins = PIN_NONE
  | _, _, _ => True

def Session.Careful {d : Direction} (s : Session) (calls : List (StreamCall d × Outside)) : Prop :=
  Takes Session.step (fun s e => Meets s.stream e) s calls

end Peripheral.AudioHal
