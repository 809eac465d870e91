import Peripheral.AudioMessages

/-!
`HdiServiceDispatch` of the audio server with all its handlers, from the bytes of a
request to the pointers that are called through. Each handler takes what it calls from
the adapter table, through one of the lookup functions; not all of these turn a null
pointer away, and not all handlers look at what they got.
-/
namespace Peripheral.Audio
open RemoteCalls Hdf Transitions

def AUDIO_HAL_ERR_NOT_SUPPORT : Int := -2
def AUDIO_HAL_ERR_MALLOC_FAIL : Int := -6
def STR_MAX : Int32 := 512

inductive Pointer
  | adapter (address : Option Nat)
  | object (render : Option HalObject)
  deriving DecidableEq

def Pointer.isNull : Pointer → Bool
  | .adapter address => address.isNone
  | .object render => render.isNone

/-- `manager` says whether `g_serverManager` is set, `initialized` whether the table has been made. Before that the lookups
    find nothing. -/
structure Service where
  manager : Bool
  initialized : Bool
  server : AudioServer
  deriving DecidableEq

/-- What the functions return that the handlers call; `descs` are the names of the cards, if `GetAllAdapters` succeeds, `ret`
    is what comes back from a call on an adapter or an object. -/
structure Answers where
  manager : Bool
  descs : Option (List String)
  calloc : Bool
  loaded : Except Int Nat
  hal : HalAnswers
  ret : Int

structure Handled where
  service : Service
  ret : Int
  obtained : List Pointer
  called : Bool
  deriving DecidableEq

/-- The handler took nothing from the table. -/
def Service.refuse (s : Service) (ret : Int) : Handled := ⟨s, ret, [], false⟩

abbrev Part := HdfSBuf → Handled

def readable {α : Type} (reader : Reader Value Int32 α) (data : HdfSBuf) : Bool :=
  match reader.run data with
  | .ok _ _ => true
  | .error _ _ => false

def reading {α : Type} (reader : Reader Value Int32 α) (refused : Handled) (next : α → Part) : Part := fun data =>
  match reader.run data with
  | .ok a behind => next a behind
  | .error _ _ => refused

def Service.finding (s : Service) (adapterName : String) (missing : Int) (next : AudioInfoInAdapter → Part) :
    Part := fun data =>
  match s.server.entry adapterName with
  | none => s.refuse missing
  | some e => next e data

def Service.step (s : Service) (c : Command) : Service := { s with server := s.server.step c }

def Service.crash (s : Service) : Service := { s with server.running := false }

def asReturned (ret : Int) : Int := ret

def onlyErrors (ret : Int) : Int := if ret < 0 then ret else AUDIO_HAL_SUCCESS

def internalIfNegative (ret : Int) : Int := if ret < 0 then AUDIO_HAL_ERR_INTERNAL else AUDIO_HAL_SUCCESS

def internalUnlessZero (ret : Int) : Int := if ret ≠ 0 then AUDIO_HAL_ERR_INTERNAL else AUDIO_HAL_SUCCESS

/-- The handlers by what they do with the table. Those of the last two kinds only read their arguments, call one member and
    return; `refused` is returned when an argument cannot be read. -/
inductive Handler
  | getFuncs
  | getAllAdapter
  | loadAdapter
  | unloadAdapter
  | getDevStatusByPnp
  | initAllPorts
  | creat (d : Direction)
  | destory (d : Direction)
  | frame (d : Direction)
  | onAdapter (arguments : Reader Value Int32 Unit) (returned : Int → Int)
  | onObject (d : Direction) (arguments : Reader Value Int32 Unit) (refused : Int) (returned : Int → Int)

namespace Service

variable (s : Service) (answers : Answers)

def hdiServiceGetFuncs : Part := fun _ =>
  if s.manager then s.refuse AUDIO_HAL_SUCCESS
  else if answers.manager then { s with manager := true }.refuse AUDIO_HAL_SUCCESS
  else s.refuse AUDIO_HAL_ERR_INTERNAL

def hdiServiceGetAllAdapter : Part := fun _ =>
  if !s.manager then s.refuse AUDIO_HAL_ERR_INVALID_PARAM
  else match answers.descs with
    | none => s.refuse AUDIO_HAL_ERR_INTERNAL
    | some descs =>
      if descs.length > MAX_AUDIO_ADAPTER_NUM_SERVER ∨ descs = [] then s.refuse AUDIO_HAL_ERR_NOT_SUPPORT
      else if s.initialized then s.refuse AUDIO_HAL_SUCCESS
      else if !answers.calloc then s.refuse HDF_FAILURE
      else { s with initialized := true, server := .new descs }.refuse AUDIO_HAL_SUCCESS

def hdiServiceLoadAdapter : Part :=
  reading readString (s.refuse AUDIO_HAL_ERR_INVALID_PARAM) fun adapterName data =>
    -- The direction of the port is read only for a card that is not in use.
    let unused := (s.server.adapters.find? (counted adapterName)).any (·.adapterUserNum ≤ 0)
    if unused && !readable readWord data then s.refuse AUDIO_HAL_ERR_INTERNAL
    else
      (s.step (.loadAdapter adapterName answers.loaded)).refuse
        (s.server.hdiServiceLoadAdapter adapterName answers.loaded).ret

def hdiServiceUnloadAdapter : Part :=
  if !s.manager then fun _ => s.refuse AUDIO_HAL_ERR_INVALID_PARAM
  else reading readString (s.refuse AUDIO_HAL_ERR_INVALID_PARAM) fun adapterName _ =>
    (s.step (.unloadAdapter adapterName)).refuse (s.server.hdiServiceUnloadAdapter adapterName).ret

def hdiServiceGetDevStatusByPnp : Part :=
  reading readString (s.refuse AUDIO_HAL_ERR_INTERNAL) fun _ _ => s.refuse answers.ret

def hdiServiceInitAllPorts : Part :=
  reading readString (s.refuse AUDIO_HAL_ERR_INVALID_PARAM) fun adapterName =>
    s.finding adapterName AUDIO_HAL_ERR_INTERNAL fun e _ =>
      ⟨if e.adapter = none then s.crash else s, internalUnlessZero answers.ret, [.adapter e.adapter], true⟩

/-- `HdiServiceCreatRender` and `HdiServiceCreatCapture`. What has been created is looked at only for one that is to be replaced. -/
def hdiServiceCreat (d : Direction) : Part :=
  reading readString (s.refuse AUDIO_HAL_ERR_INVALID_PARAM) fun adapterName =>
    reading readWord (s.refuse AUDIO_HAL_ERR_INTERNAL) fun pid =>
      reading (getInitPara 0) (s.refuse AUDIO_HAL_ERR_INTERNAL) fun (_, attrs) =>
        s.finding adapterName AUDIO_HAL_ERR_INTERNAL fun e _ =>
          let checked := e.audioCreatCheck answers.hal (priorityOf attrs.type) d
          let replaces := e.adapter ≠ none ∧ (e.side d).status ≠ 0 ∧ (e.side d).priority ≤ priorityOf attrs.type
          ⟨s.step (.creat d adapterName pid attrs.type answers.hal), (e.hdiServiceCreat d pid attrs.type answers.hal).ret,
            .adapter e.adapter :: if replaces then [.object (e.side d).object] else [],
            e.adapter ≠ none && (0 ≤ checked.ret || checked.calls ≠ [])⟩

def hdiServiceRenderDestory : Part :=
  reading hdiServiceRenderCaptureReadData (s.refuse AUDIO_HAL_ERR_INTERNAL) fun (adapterName, pid) =>
    s.finding adapterName HDF_ERR_INVALID_PARAM fun e _ =>
      if e.render.pid ≠ pid then s.refuse AUDIO_HAL_ERR_INVALID_OBJECT
      else
        ⟨s.step (.destory .render adapterName pid answers.ret), (e.hdiServiceRenderDestory pid answers.ret).ret,
          [.adapter e.adapter, .object e.render.object], e.adapter ≠ none && e.render.object ≠ none⟩

/-- This one looks neither at the adapter nor at the capture. -/
def hdiServiceCaptureDestory : Part :=
  reading hdiServiceRenderCaptureReadData (s.refuse AUDIO_HAL_ERR_INTERNAL) fun (adapterName, pid) =>
    s.finding adapterName HDF_ERR_INVALID_PARAM fun e _ =>
      if e.capture.pid ≠ pid then s.refuse AUDIO_HAL_ERR_INVALID_OBJECT
      else
        ⟨s.step (.destory .capture adapterName pid answers.ret), (e.hdiServiceCaptureDestory pid answers.ret).ret,
          [.adapter e.adapter, .object e.capture.object], true⟩

/-- What `HdiServiceRenderRenderFrame` and `HdiServiceCaptureCaptureFrame` need beside the object: the frame, or its size and
    memory for it. -/
def frameReady (data : HdfSBuf) : Direction → Bool
  | .render => readable readBuffer data
  | .capture => readable readUint64 data && answers.calloc

def hdiServiceFrame (d : Direction) : Part :=
  let missing := if d = .capture && s.initialized then HDF_FAILURE else HDF_ERR_INVALID_PARAM
  reading hdiServiceRenderCaptureReadData (s.refuse AUDIO_HAL_ERR_INTERNAL) fun (adapterName, pid) =>
    s.finding adapterName missing fun e data =>
      if (e.side d).pid ≠ pid then s.refuse AUDIO_HAL_ERR_INVALID_OBJECT
      else if (e.side d).destory then ⟨s.step (.frame d adapterName pid), HDF_FAILURE, [.object (e.side d).object], false⟩
      else if !frameReady answers data d then
        let starved := d = .capture ∧ readable readUint64 data
        ⟨s, if starved then AUDIO_HAL_ERR_MALLOC_FAIL else AUDIO_HAL_ERR_INTERNAL, [.object (e.side d).object], false⟩
      else ⟨s.step (.frame d adapterName pid), onlyErrors answers.ret, [.object (e.side d).object], true⟩

/-- `HdiServiceGetPortCapability` and the two for the passthrough mode. -/
def onAdapter (arguments : Reader Value Int32 Unit) (returned : Int → Int) : Part :=
  reading readString (s.refuse AUDIO_HAL_ERR_INVALID_PARAM) fun adapterName =>
    reading arguments (s.refuse AUDIO_HAL_ERR_INTERNAL) fun _ =>
      s.finding adapterName AUDIO_HAL_ERR_INTERNAL fun e _ =>
        if e.adapter = none then ⟨s, AUDIO_HAL_ERR_INVALID_PARAM, [.adapter e.adapter], false⟩
        else ⟨s, returned answers.ret, [.adapter e.adapter], true⟩

/-- `AudioAdapterListCheckAndGetRender` or `AudioAdapterListCheckAndGetCapture`, then the arguments. -/
def onObject (d : Direction) (arguments : Reader Value Int32 Unit) (refused : Int) (returned : Int → Int) : Part :=
  reading hdiServiceRenderCaptureReadData (s.refuse HDF_FAILURE) fun (adapterName, pid) =>
    s.finding adapterName HDF_ERR_INVALID_PARAM fun e =>
      match e.audioAdapterListGet d pid with
      | .error code => fun _ => s.refuse code
      | .ok none => fun _ => ⟨s, HDF_FAILURE, [.object none], false⟩
      | .ok (some object) =>
        reading arguments ⟨s, refused, [.object (some object)], false⟩ fun _ _ =>
          ⟨s, returned answers.ret, [.object (some object)], true⟩

def handle : Handler → Part
  | .getFuncs => s.hdiServiceGetFuncs answers
  | .getAllAdapter => s.hdiServiceGetAllAdapter answers
  | .loadAdapter => s.hdiServiceLoadAdapter answers
  | .unloadAdapter => s.hdiServiceUnloadAdapter
  | .getDevStatusByPnp => s.hdiServiceGetDevStatusByPnp answers
  | .initAllPorts => s.hdiServiceInitAllPorts answers
  | .creat d => s.hdiServiceCreat answers d
  | .destory .render => s.hdiServiceRenderDestory answers
  | .destory .capture => s.hdiServiceCaptureDestory answers
  | .frame d => s.hdiServiceFrame answers d
  | .onAdapter arguments returned => s.onAdapter answers arguments returned
  | .onObject d arguments refused returned => s.onObject answers d arguments refused returned

end Service

section

variable (d : Direction)

def control : Handler := .onObject d (pure ()) AUDIO_HAL_ERR_INTERNAL asReturned

def getter : Handler := .onObject d (pure ()) AUDIO_HAL_ERR_INTERNAL onlyErrors

def setter {α : Type} (reader : Reader Value Int32 α) :
    Handler := .onObject d (discard reader) AUDIO_HAL_ERR_INTERNAL asReturned

def hdiServiceStart : Handler := control d
def hdiServiceStop : Handler := control d
def hdiServicePause : Handler := control d
def hdiServiceResume : Handler := control d
def hdiServiceFlush : Handler := control d
def hdiServiceTurnStandbyMode : Handler := control d
def hdiServiceGetFrameSize : Handler := .onObject d (pure ()) AUDIO_HAL_ERR_INTERNAL internalUnlessZero
def hdiServiceGetFrameCount : Handler := .onObject d (pure ()) AUDIO_HAL_ERR_INTERNAL internalUnlessZero
def hdiServiceSetSampleAttr : Handler := setter d (readAudioSapmleAttrbutes 0)
def hdiServiceGetSampleAttr : Handler := getter d
def hdiServiceGetCurChannelId : Handler := getter d
def hdiServiceCheckSceneCapability : Handler := .onObject d (discard (readScene 0)) AUDIO_HAL_ERR_INTERNAL onlyErrors
def hdiServiceSelectScene : Handler := setter d (readScene 0)
def hdiServiceGetMute : Handler := getter d
def hdiServiceSetMute : Handler := setter d readFlag
def hdiServiceSetVolume : Handler := setter d readWord
def hdiServiceGetVolume : Handler := getter d
def hdiServiceGetGainThreshold : Handler := getter d
def hdiServiceGetGain : Handler := getter d
def hdiServiceSetGain : Handler := setter d readWord
def hdiServiceGetPosition : Handler := getter d
def hdiServiceSetExtraParams (refused : Int) : Handler := .onObject d (discard readString) refused asReturned

def hdiServiceGetExtraParams : Handler :=
  let arguments := do
    let listLenth ← readNumber
    if listLenth ≤ 0 ∨ listLenth > STR_MAX - 1 then throw Hdf.HDF_FAILURE
  .onObject d arguments AUDIO_HAL_ERR_INTERNAL onlyErrors

def hdiServiceReqMmap : Handler := setter d hdiServiceReqMmapBuffer
def hdiServiceGetMmapPosition : Handler := getter d

def hdiServiceDevDump : Handler := setter d do
  let range ← readNumber
  let fd ← readFileDescriptor
  pure (range, fd)

end

def hdiServiceRenderGetLatency : Handler := getter .render
def hdiServiceRenderGetSpeed : Handler := getter .render
def hdiServiceRenderSetSpeed : Handler := setter .render readUint64
def hdiServiceRenderSetChannelMode : Handler := setter .render readWord
def hdiServiceRenderGetChannelMode : Handler := getter .render

def hdiServiceRenderRegCallback : Handler := setter .render do
  let cookie ← readUint64
  let callback ← readUint64
  pure (cookie, callback)

def hdiServiceRenderDrainBuffer : Handler := setter .render readWord

def readPort : Reader Value Int32 (UInt32 × UInt32 × String) := do
  let dir ← readWord
  let portId ← readWord
  let portName ← readString
  pure (dir, portId, portName)

def hdiServiceGetPortCapability : Handler := .onAdapter (discard readPort) internalIfNegative

def hdiServiceSetPassthroughMode : Handler :=
  let arguments := do
    let _ ← readPort
    discard readWord
  .onAdapter arguments asReturned

def hdiServiceGetPassthroughMode : Handler := .onAdapter (discard readPort) internalIfNegative

/-- The commands are numbered in this order, those of a capture after the others. -/
def g_hdiServiceDispatchCmdHandleList : List Handler :=
  [.getFuncs, .getAllAdapter, .loadAdapter, .unloadAdapter, .initAllPorts, hdiServiceGetPortCapability, hdiServiceSetPassthroughMode,
    hdiServiceGetPassthroughMode, .getDevStatusByPnp, .creat .render, .destory .render, hdiServiceStart .render,
    hdiServiceStop .render, hdiServicePause .render, hdiServiceResume .render, hdiServiceFlush .render,
    hdiServiceGetFrameSize .render, hdiServiceGetFrameCount .render, hdiServiceSetSampleAttr .render,
    hdiServiceGetSampleAttr .render, hdiServiceGetCurChannelId .render, hdiServiceCheckSceneCapability .render,
    hdiServiceSelectScene .render, hdiServiceGetMute .render, hdiServiceSetMute .render, hdiServiceSetVolume .render,
    hdiServiceGetVolume .render, hdiServiceGetGainThreshold .render, hdiServiceGetGain .render, hdiServiceSetGain .render,
    hdiServiceRenderGetLatency, .frame .render, hdiServiceGetPosition .render, hdiServiceRenderGetSpeed,
    hdiServiceRenderSetSpeed, hdiServiceRenderSetChannelMode, hdiServiceRenderGetChannelMode,
    hdiServiceSetExtraParams .render AUDIO_HAL_ERR_INTERNAL, hdiServiceGetExtraParams .render, hdiServiceReqMmap .render,
    hdiServiceGetMmapPosition .render, hdiServiceTurnStandbyMode .render, hdiServiceDevDump .render,
    hdiServiceRenderRegCallback, hdiServiceRenderDrainBuffer]

def g_hdiServiceDispatchCmdHandleCapList : List Handler :=
  [.creat .capture, .destory .capture, hdiServiceStart .capture, hdiServiceStop .capture, hdiServicePause .capture,
    hdiServiceResume .capture, hdiServiceFlush .capture, hdiServiceGetFrameSize .capture, hdiServiceGetFrameCount .capture,
    hdiServiceSetSampleAttr .capture, hdiServiceGetSampleAttr .capture, hdiServiceGetCurChannelId .capture,
    hdiServiceCheckSceneCapability .capture, hdiServiceSelectScene .capture, hdiServiceGetMute .capture,
    hdiServiceSetMute .capture, hdiServiceSetVolume .capture, hdiServiceGetVolume .capture, hdiServiceGetGainThreshold .capture,
    hdiServiceGetGain .capture, hdiServiceSetGain .capture, .frame .capture, hdiServiceGetPosition .capture,
    hdiServiceSetExtraParams .capture AUDIO_HAL_ERR_INVALID_PARAM, hdiServiceGetExtraParams .capture, hdiServiceReqMmap .capture,
    hdiServiceGetMmapPosition .capture, hdiServiceTurnStandbyMode .capture, hdiServiceDevDump .capture]

def handlerOf (cmdId : Int) : Option Handler :=
  if cmdId < 0 then none else (g_hdiServiceDispatchCmdHandleList ++ g_hdiServiceDispatchCmdHandleCapList)[cmdId.toNat]?

namespace Service

/-- `desc` is the descriptor of the server's interface. -/
def hdiServiceDispatch (s : Service) (answers : Answers) (desc : String) (cmdId : Int) : Part :=
  reading (checkInterfaceToken desc) (s.refuse AUDIO_HAL_ERR_INVALID_PARAM) fun _ =>
    match handlerOf cmdId with
    | none => fun _ => s.refuse AUDIO_HAL_ERR_INTERNAL
    | some handler => s.handle answers handler

def start : Service := ⟨false, false, .new []⟩

inductive Event
  | request (answers : Answers) (desc : String) (cmdId : Int) (data : HdfSBuf)
  | frameReturns (d : Direction) (adapterName : String) (ret : Int)

def after (s : Service) : Event → Service
  | .request answers desc cmdId data => (s.hdiServiceDispatch answers desc cmdId data).service
  | .frameReturns d adapterName ret => s.step (.frameEnd d adapterName ret)

end Service

example : handlerOf 31 = some (.frame .render) ∧ handlerOf 46 = some (.destory .capture) ∧ (handlerOf 73).isSome ∧
    (handlerOf 74).isNone :=
  ⟨rfl, rfl, rfl, rfl⟩

end Peripheral.Audio
