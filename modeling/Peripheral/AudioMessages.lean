import Peripheral.AudioServer
import Peripheral.HdfSBuf

/-!
What the proxies and the server of the audio HAL write into the messages between them,
and how each reads what the other wrote. A message of the binder stores signed and
unsigned numbers of 32 bits alike. The server reads into variables of its own, so that a
field which is not in the message has what was there before.
-/
namespace Peripheral.Audio
open RemoteCalls Hdf

structure AudioDeviceDescriptor where
  portId : UInt32
  pins : UInt32
  deriving DecidableEq

structure AudioSampleAttributes where
  type : UInt32
  interleaved : Bool
  format : UInt32
  sampleRate : UInt32
  channelCount : UInt32
  period : UInt32
  frameSize : UInt32
  isBigEndian : Bool
  isSignedData : Bool
  startThreshold : UInt32
  stopThreshold : UInt32
  silenceThreshold : UInt32
  streamId : Int32
  deriving DecidableEq

structure AudioSceneDescriptor where
  id : UInt32
  desc : AudioDeviceDescriptor
  deriving DecidableEq

structure AudioMmapBufferDescripter where
  memoryAddress : UInt64
  memoryFd : Int32
  totalBufferFrames : Int32
  transferFrameSize : Int32
  isShareable : Int32
  offset : UInt32
  deriving DecidableEq

structure AudioTimeStamp where
  tvSec : Int64
  tvNSec : Int64
  deriving DecidableEq

/-- `HdfSbufReadUint32`. -/
def readWord : Reader Value Int32 UInt32 := take fun
  | .uint32 v => some v
  | .int32 v => some v.toUInt32
  | _ => none

/-- `HdfSbufReadInt32`. -/
def readNumber : Reader Value Int32 Int32 := take fun
  | .int32 v => some v
  | .uint32 v => some v.toInt32
  | _ => none

/-- A word that is cast to `bool`. -/
def readFlag : Reader Value Int32 Bool := do
  let word ← readWord
  pure (word != 0)

def flag (b : Bool) : Value := .uint32 (if b then 1 else 0)

def audioProxyCommonInitAttrs (attrs : AudioSampleAttributes) : HdfSBuf :=
  [flag attrs.interleaved, .uint32 attrs.type, .uint32 attrs.period, .uint32 attrs.frameSize, .uint32 attrs.startThreshold,
    .uint32 attrs.stopThreshold, .uint32 attrs.silenceThreshold, flag attrs.isBigEndian, flag attrs.isSignedData]

def audioProxyCommonInitCreateData (desc : AudioDeviceDescriptor) (attrs : AudioSampleAttributes) : HdfSBuf :=
  .uint32 attrs.format :: .uint32 attrs.channelCount :: .uint32 attrs.sampleRate ::
    (audioProxyCommonInitAttrs attrs ++ [.uint32 desc.portId, .uint32 desc.pins])

/-- `GetInitRenderPara` and `GetInitCapturePara` with the functions for `attrs`; `streamId` is what the server's variable had. -/
def getInitPara (streamId : Int32) : Reader Value Int32 (AudioDeviceDescriptor × AudioSampleAttributes) := do
  let format ← readWord
  let channelCount ← readWord
  let sampleRate ← readWord
  let interleaved ← readFlag
  let type ← readWord
  let period ← readWord
  let frameSize ← readWord
  let startThreshold ← readWord
  let stopThreshold ← readWord
  let silenceThreshold ← readWord
  let isBigEndian ← readFlag
  let isSignedData ← readFlag
  let portId ← readWord
  let pins ← readWord
  pure (⟨portId, pins⟩,
    { type, interleaved, format, sampleRate, channelCount, period, frameSize, isBigEndian, isSignedData, startThreshold
      stopThreshold, silenceThreshold, streamId })

/-- `AudioProxyWriteSampleAttributes` and `WriteAudioSampleAttributes`. -/
def writeAudioSampleAttributes (attrs : AudioSampleAttributes) : HdfSBuf :=
  [.uint32 attrs.type, flag attrs.interleaved, .uint32 attrs.format, .uint32 attrs.sampleRate, .uint32 attrs.channelCount,
    .uint32 attrs.period, .uint32 attrs.frameSize, flag attrs.isBigEndian, flag attrs.isSignedData,
    .uint32 attrs.startThreshold, .uint32 attrs.stopThreshold, .uint32 attrs.silenceThreshold]

/-- `ReadAudioSapmleAttrbutes` and `AudioProxyReadSapmleAttrbutes`. -/
def readAudioSapmleAttrbutes (streamId : Int32) : Reader Value Int32 AudioSampleAttributes := do
  let type ← readWord
  let interleaved ← readFlag
  let format ← readWord
  let sampleRate ← readWord
  let channelCount ← readWord
  let period ← readWord
  let frameSize ← readWord
  let isBigEndian ← readFlag
  let isSignedData ← readFlag
  let startThreshold ← readWord
  let stopThreshold ← readWord
  let silenceThreshold ← readWord
  pure
    { type, interleaved, format, sampleRate, channelCount, period, frameSize, isBigEndian, isSignedData, startThreshold
      stopThreshold, silenceThreshold, streamId }

def writeScene (scene : AudioSceneDescriptor) : HdfSBuf := [.uint32 scene.id, .uint32 scene.desc.pins]

/-- `portId` is what the server's variable had. -/
def readScene (portId : UInt32) : Reader Value Int32 AudioSceneDescriptor := do
  let id ← readWord
  let pins ← readWord
  pure ⟨id, ⟨portId, pins⟩⟩

def audioProxyReqMmapBufferWrite (reqSize : Int32) (desc : AudioMmapBufferDescripter) : HdfSBuf :=
  [.int32 reqSize, .uint64 desc.memoryAddress, .fileDescriptor desc.memoryFd, .int32 desc.totalBufferFrames,
    .int32 desc.transferFrameSize, .int32 desc.isShareable, .uint32 desc.offset]

/-- The size that is asked for, then `HdiServiceReqMmapBuffer`. -/
def hdiServiceReqMmapBuffer : Reader Value Int32 (Int32 × AudioMmapBufferDescripter) := do
  let reqSize ← readNumber
  let memoryAddress ← readUint64
  let memoryFd ← readFileDescriptor
  let totalBufferFrames ← readNumber
  let transferFrameSize ← readNumber
  let isShareable ← readNumber
  let offset ← readWord
  pure (reqSize, ⟨memoryAddress, memoryFd, totalBufferFrames, transferFrameSize, isShareable, offset⟩)

def hdiServicePositionWrite (frames : UInt64) (time : AudioTimeStamp) : HdfSBuf :=
  [.uint64 frames, .int64 time.tvSec, .int64 time.tvNSec]

def audioProxyGetMmapPositionRead : Reader Value Int32 (UInt64 × AudioTimeStamp) := do
  let frames ← readUint64
  let tvSec ← readInt64
  let tvNSec ← readInt64
  pure (frames, ⟨tvSec, tvNSec⟩)

def hdiServiceRenderCaptureReadData : Reader Value Int32 (String × UInt32) := do
  let adapterName ← readString
  let pid ← readWord
  pure (adapterName, pid)

theorem delivers_word (v : UInt32) : Delivers [.uint32 v] readWord v := delivers_take rfl

theorem delivers_number (v : Int32) : Delivers [.int32 v] readNumber v := delivers_take rfl

theorem delivers_flag (b : Bool) : Delivers [flag b] readFlag b := by
  have cast : ((if b then 1 else 0 : UInt32) != 0) = b := by cases b <;> decide
  have read := Delivers.last (f := (· != 0)) (delivers_word (if b then 1 else 0))
  rw [cast] at read
  exact read

theorem delivers_createData (streamId : Int32) (desc : AudioDeviceDescriptor) (attrs : AudioSampleAttributes) :
    Delivers (audioProxyCommonInitCreateData desc attrs) (getInitPara streamId) (desc, { attrs with streamId }) := by
  refine .value (delivers_word _) (.value (delivers_word _) (.value (delivers_word _) ?_))
  refine .value (delivers_flag _) (.value (delivers_word _) (.value (delivers_word _) (.value (delivers_word _) ?_)))
  refine .value (delivers_word _) (.value (delivers_word _) (.value (delivers_word _) ?_))
  refine .value (delivers_flag _) (.value (delivers_flag _) ?_)
  exact .value (delivers_word _) (.last (delivers_word _))

theorem delivers_sampleAttributes (streamId : Int32) (attrs : AudioSampleAttributes) :
    Delivers (writeAudioSampleAttributes attrs) (readAudioSapmleAttrbutes streamId) { attrs with streamId } := by
  refine .value (delivers_word _) (.value (delivers_flag _) (.value (delivers_word _) (.value (delivers_word _) ?_)))
  refine .value (delivers_word _) (.value (delivers_word _) (.value (delivers_word _) ?_))
  refine .value (delivers_flag _) (.value (delivers_flag _) ?_)
  exact .value (delivers_word _) (.value (delivers_word _) (.last (delivers_word _)))

theorem delivers_scene (portId : UInt32) (scene : AudioSceneDescriptor) :
    Delivers (writeScene scene) (readScene portId) ⟨scene.id, ⟨portId, scene.desc.pins⟩⟩ :=
  .value (delivers_word _) (.last (delivers_word _))

theorem delivers_mmapBuffer (reqSize : Int32) (desc : AudioMmapBufferDescripter) (descriptor : 0 ≤ desc.memoryFd) :
    Delivers (audioProxyReqMmapBufferWrite reqSize desc) hdiServiceReqMmapBuffer (reqSize, desc) := by
  have fd : Delivers [.fileDescriptor desc.memoryFd] readFileDescriptor ⟨desc.memoryFd, descriptor⟩ :=
    delivers_fileDescriptor ⟨desc.memoryFd, descriptor⟩
  refine .value (delivers_number _) (.value (delivers_take rfl) (.value fd ?_))
  refine .value (delivers_number _) (.value (delivers_number _) (.value (delivers_number _) ?_))
  exact .last (delivers_word _)

theorem fails_mmapBuffer (reqSize : Int32) (desc : AudioMmapBufferDescripter) (closed : ¬0 ≤ desc.memoryFd) :
    Fails (audioProxyReqMmapBufferWrite reqSize desc) hdiServiceReqMmapBuffer Hdf.HDF_ERR_INVALID_PARAM :=
  .value (delivers_number _) (.value (delivers_take rfl) (.now (fails_take (by simp [closed]))))

theorem delivers_position (frames : UInt64) (time : AudioTimeStamp) :
    Delivers (hdiServicePositionWrite frames time) audioProxyGetMmapPositionRead (frames, time) :=
  .value (delivers_take rfl) (.value (delivers_take rfl) (.last (delivers_take rfl)))

end Peripheral.Audio
