import Peripheral.HdfSBuf

/-!
The calls of the OMX codec components between processes: `codec_component_type_proxy.c` and
`codec_component_type_stub.c` for the methods of a component, `codec_callback_type_proxy.c`
and `codec_callback_type_stub.c` for what a component reports back, and `codec_types.c` for
the records that both send. An `HdfSBuf` takes every value that is written to it; memory is
had from `osalMemCalloc`, which need not have any.
-/
namespace Peripheral.OmxIpc

open RemoteCalls Hdf

def BUFFER_TYPE_AVSHARE_MEM_FD : Int32 := 2

/-- `bufferType`, `bufferLen` and what `buffer` stands for. At length 0 neither side looks
at the pointer. -/
inductive BufferContents
  | none (bufferType : Int32)
  | sharedMemory (bufferLen : UInt32) (sized : bufferLen ≠ 0) (fd : { fd : Int32 // 0 ≤ fd })
  | bytes (bufferType : Int32) (other : bufferType ≠ BUFFER_TYPE_AVSHARE_MEM_FD) (bufferLen : UInt32)
      (sized : bufferLen ≠ 0) (buffer : Vector UInt8 bufferLen.toNat)
  deriving DecidableEq

namespace BufferContents

def bufferType : BufferContents → Int32
  | none bufferType => bufferType
  | sharedMemory .. => BUFFER_TYPE_AVSHARE_MEM_FD
  | bytes bufferType .. => bufferType

def bufferLen : BufferContents → UInt32
  | none _ => 0
  | sharedMemory bufferLen .. => bufferLen
  | bytes _ _ bufferLen .. => bufferLen

end BufferContents

def sizeofVersionType : Nat := 4

structure OmxCodecBuffer where
  bufferId : UInt32
  size : UInt32
  version : Vector UInt8 sizeofVersionType
  contents : BufferContents
  allocLen : UInt32
  filledLen : UInt32
  offset : UInt32
  fenceFd : Int32
  type : Int32
  pts : Int64
  flag : UInt32
  deriving DecidableEq

structure TunnelSetup where
  nTunnelFlags : UInt32
  eSupplier : Int32
  deriving DecidableEq

def NAME_LENGTH : Nat := 32
def UUID_LENGTH : Nat := 128

/-- The memory of a `struct CompVerInfo`, which is copied as it stands. -/
abbrev CompVerInfo := Vector UInt8 (NAME_LENGTH + UUID_LENGTH + sizeofVersionType + sizeofVersionType)

structure EventInfo where
  appData : SizedArray Int8
  data1 : UInt32
  data2 : UInt32
  eventData : SizedArray Int8
  deriving DecidableEq

/-- The loop over an `int8_t` array. -/
def writeInt8s {n : Nat} (elems : Vector Int8 n) : HdfSBuf := elems.toList.flatMap fun v => [.int8 v]

def writeUint8s {n : Nat} (elems : Vector UInt8 n) : HdfSBuf := elems.toList.flatMap fun v => [.uint8 v]

/-- `WriteArray` of the callbacks; the proxy of the components has the same lines in every method. -/
def writeArray (array : SizedArray Int8) : HdfSBuf := .uint32 array.len :: writeInt8s array.elems

def tunnelSetupBlockMarshalling (dataBlock : TunnelSetup) : HdfSBuf :=
  [.uint32 dataBlock.nTunnelFlags, .int32 dataBlock.eSupplier]

def tunnelSetupBlockUnmarshalling : Reader Value Int32 TunnelSetup := do
  let nTunnelFlags ← readUint32
  let eSupplier ← readInt32
  pure { nTunnelFlags, eSupplier }

def codecBufferMarshalling (contents : BufferContents) : HdfSBuf :=
  .int32 contents.bufferType :: .uint32 contents.bufferLen ::
    match contents with
    | .none _ => []
    | .sharedMemory _ _ fd => [.fileDescriptor fd]
    | .bytes _ _ _ _ buffer => writeUint8s buffer

def omxCodecBufferBlockMarshalling (dataBlock : OmxCodecBuffer) : HdfSBuf :=
  .uint32 dataBlock.bufferId :: .uint32 dataBlock.size :: .unpadBuffer dataBlock.version.toList ::
    (codecBufferMarshalling dataBlock.contents ++
      [.uint32 dataBlock.allocLen, .uint32 dataBlock.filledLen, .uint32 dataBlock.offset, .int32 dataBlock.fenceFd,
        .int32 dataBlock.type, .int64 dataBlock.pts, .uint32 dataBlock.flag])

section
variable (osalMemCalloc : UInt32 → Bool)

/-- `ReadArray` of the callbacks and the same lines of the components' stub: only an array
that is not empty needs memory. -/
def readArray : Reader Value Int32 (SizedArray Int8) := do
  let len ← readUint32
  if len > 0 then allocate osalMemCalloc HDF_ERR_MALLOC_FAIL len
  let elems ← many readInt8 len.toNat
  pure { len, elems }

/-- As in `SerStubGetParameter` and `SerStubGetConfig`, which need memory for every array. -/
def readFilledArray : Reader Value Int32 (SizedArray Int8) := do
  let len ← readUint32
  allocate osalMemCalloc HDF_ERR_MALLOC_FAIL len
  let elems ← many readInt8 len.toNat
  pure { len, elems }

/-- Whatever goes wrong here, the callers return `HDF_ERR_INVALID_PARAM`. -/
def codecBufferUnmarshalling : Reader Value Int32 BufferContents := do
  let bufferType ← readInt32
  let bufferLen ← readUint32
  if sized : bufferLen = 0 then pure (.none bufferType)
  else if other : bufferType = BUFFER_TYPE_AVSHARE_MEM_FD then
    let fd ← readFileDescriptor
    pure (.sharedMemory bufferLen sized fd)
  else
    allocate osalMemCalloc HDF_ERR_INVALID_PARAM bufferLen
    let buffer ← many readUint8 bufferLen.toNat
    pure (.bytes bufferType other bufferLen sized buffer)

def omxCodecBufferBlockUnmarshalling : Reader Value Int32 OmxCodecBuffer := do
  let bufferId ← readUint32
  let size ← readUint32
  let version ← readUnpadBuffer sizeofVersionType
  let contents ← codecBufferUnmarshalling osalMemCalloc
  let allocLen ← readUint32
  let filledLen ← readUint32
  let offset ← readUint32
  let fenceFd ← readInt32
  let type ← readInt32
  let pts ← readInt64
  let flag ← readUint32
  pure { bufferId, size, version, contents, allocLen, filledLen, offset, fenceFd, type, pts, flag }

end

def interfaceDesc : String := "ohos.hdi.codec_service"

/-- The methods of `struct CodecComponentType` with what the caller passes. -/
inductive ComponentCall
  | getComponentVersion
  | sendCommand (cmd param : UInt32) (cmdData : SizedArray Int8)
  | getParameter (paramIndex : UInt32) (paramStruct : SizedArray Int8)
  | setParameter (index : UInt32) (paramStruct : SizedArray Int8)
  | getConfig (index : UInt32) (cfgStruct : SizedArray Int8)
  | setConfig (index : UInt32) (cfgStruct : SizedArray Int8)
  | getExtensionIndex (paramName : String)
  | getState
  | componentTunnelRequest (port : UInt32) (tunneledComp : Int32) (tunneledPort : UInt32) (tunnelSetup : TunnelSetup)
  | useBuffer (portIndex : UInt32) (buffer : OmxCodecBuffer)
  | allocateBuffer (portIndex : UInt32) (buffer : OmxCodecBuffer)
  | freeBuffer (portIndex : UInt32) (buffer : OmxCodecBuffer)
  | emptyThisBuffer (buffer : OmxCodecBuffer)
  | fillThisBuffer (buffer : OmxCodecBuffer)
  | setCallbacks (callback : Remote) (appData : SizedArray Int8)
  | componentDeInit
  | useEglImage (buffer : OmxCodecBuffer) (portIndex : UInt32) (eglImage : SizedArray Int8)
  | componentRoleEnum (roleLen index : UInt32)
  deriving DecidableEq

/-- The commands of `enum ComponentDispatchCmd` for a component; those before them are the manager's. -/
inductive ComponentDispatchCmd
  | getComponentVersion
  | sendCommand
  | getParameter
  | setParameter
  | getConfig
  | setConfig
  | getExtensionIndex
  | getState
  | componentTunnelRequest
  | useBuffer
  | allocateBuffer
  | freeBuffer
  | emptyThisBuffer
  | fillThisBuffer
  | setCallbacks
  | componentDeInit
  | useEglImage
  | componentRoleEnum
  deriving DecidableEq

namespace ComponentCall

/-- What the service fills in for the caller. A structure that is asked for has the length that
was passed. -/
def Out : ComponentCall → Type
  | getComponentVersion => CompVerInfo
  | getParameter _ paramStruct => Vector Int8 paramStruct.len.toNat
  | getConfig _ cfgStruct => Vector Int8 cfgStruct.len.toNat
  | getExtensionIndex _ => UInt32
  | getState => UInt32
  | componentTunnelRequest .. => TunnelSetup
  | useBuffer .. => OmxCodecBuffer
  | allocateBuffer .. => OmxCodecBuffer
  | useEglImage .. => OmxCodecBuffer
  | componentRoleEnum roleLen _ => Vector UInt8 roleLen.toNat
  | sendCommand .. | setParameter .. | setConfig .. | freeBuffer .. | emptyThisBuffer _ | fillThisBuffer _
  | setCallbacks .. | componentDeInit => Unit

def command : ComponentCall → ComponentDispatchCmd
  | getComponentVersion => .getComponentVersion
  | sendCommand .. => .sendCommand
  | getParameter .. => .getParameter
  | setParameter .. => .setParameter
  | getConfig .. => .getConfig
  | setConfig .. => .setConfig
  | getExtensionIndex _ => .getExtensionIndex
  | getState => .getState
  | componentTunnelRequest .. => .componentTunnelRequest
  | useBuffer .. => .useBuffer
  | allocateBuffer .. => .allocateBuffer
  | freeBuffer .. => .freeBuffer
  | emptyThisBuffer _ => .emptyThisBuffer
  | fillThisBuffer _ => .fillThisBuffer
  | setCallbacks .. => .setCallbacks
  | componentDeInit => .componentDeInit
  | useEglImage .. => .useEglImage
  | componentRoleEnum .. => .componentRoleEnum

def arguments : ComponentCall → HdfSBuf
  | getComponentVersion => []
  | sendCommand cmd param cmdData => .uint32 cmd :: .uint32 param :: writeArray cmdData
  | getParameter paramIndex paramStruct => .uint32 paramIndex :: writeArray paramStruct
  | setParameter index paramStruct => .uint32 index :: writeArray paramStruct
  | getConfig index cfgStruct => .uint32 index :: writeArray cfgStruct
  | setConfig index cfgStruct => .uint32 index :: writeArray cfgStruct
  | getExtensionIndex paramName => [.string paramName]
  | getState => []
  | componentTunnelRequest port tunneledComp tunneledPort tunnelSetup =>
    .uint32 port :: .int32 tunneledComp :: .uint32 tunneledPort :: tunnelSetupBlockMarshalling tunnelSetup
  | useBuffer portIndex buffer => .uint32 portIndex :: omxCodecBufferBlockMarshalling buffer
  | allocateBuffer portIndex buffer => .uint32 portIndex :: omxCodecBufferBlockMarshalling buffer
  | freeBuffer portIndex buffer => .uint32 portIndex :: omxCodecBufferBlockMarshalling buffer
  | emptyThisBuffer buffer => omxCodecBufferBlockMarshalling buffer
  | fillThisBuffer buffer => omxCodecBufferBlockMarshalling buffer
  | setCallbacks callback appData => .remoteService callback :: writeArray appData
  | componentDeInit => []
  | useEglImage buffer portIndex eglImage =>
    omxCodecBufferBlockMarshalling buffer ++ .uint32 portIndex :: writeArray eglImage
  | componentRoleEnum roleLen index => [.uint32 roleLen, .uint32 index]

def reply : (call : ComponentCall) → call.Out → HdfSBuf
  | getComponentVersion, verInfo => [.unpadBuffer verInfo.toList]
  | getParameter _ _, paramStruct => writeInt8s paramStruct
  | getConfig _ _, cfgStruct => writeInt8s cfgStruct
  | getExtensionIndex _, indexType => [.uint32 indexType]
  | getState, state => [.uint32 state]
  | componentTunnelRequest .., tunnelSetup => tunnelSetupBlockMarshalling tunnelSetup
  | useBuffer .., buffer => omxCodecBufferBlockMarshalling buffer
  | allocateBuffer .., buffer => omxCodecBufferBlockMarshalling buffer
  | useEglImage .., buffer => omxCodecBufferBlockMarshalling buffer
  | componentRoleEnum _ _, role => writeUint8s role
  | sendCommand .., _ | setParameter .., _ | setConfig .., _ | freeBuffer .., _ | emptyThisBuffer _, _
  | fillThisBuffer _, _ | setCallbacks .., _ | componentDeInit, _ => []

section
variable (osalMemCalloc : UInt32 → Bool)

def readReply : (call : ComponentCall) → Reader Value Int32 call.Out
  | getComponentVersion => readUnpadBuffer _
  | getParameter _ paramStruct => many readInt8 paramStruct.len.toNat
  | getConfig _ cfgStruct => many readInt8 cfgStruct.len.toNat
  | getExtensionIndex _ => readUint32
  | getState => readUint32
  | componentTunnelRequest .. => tunnelSetupBlockUnmarshalling
  | useBuffer .. => omxCodecBufferBlockUnmarshalling osalMemCalloc
  | allocateBuffer .. => omxCodecBufferBlockUnmarshalling osalMemCalloc
  | useEglImage .. => omxCodecBufferBlockUnmarshalling osalMemCalloc
  | componentRoleEnum roleLen _ => many readUint8 roleLen.toNat
  | sendCommand .. | setParameter .. | setConfig .. | freeBuffer .. | emptyThisBuffer _ | fillThisBuffer _
  | setCallbacks .. | componentDeInit => pure ()

end

end ComponentCall

section
variable (osalMemCalloc : UInt32 → Bool)

def serStubGetComponentVersion : Reader Value Int32 ComponentCall := pure .getComponentVersion

def serStubSendCommand : Reader Value Int32 ComponentCall := do
  let cmd ← readUint32
  let param ← readUint32
  let cmdData ← readArray osalMemCalloc
  pure (.sendCommand cmd param cmdData)

def serStubGetParameter : Reader Value Int32 ComponentCall := do
  let paramIndex ← readUint32
  let paramStruct ← readFilledArray osalMemCalloc
  pure (.getParameter paramIndex paramStruct)

def serStubSetParameter : Reader Value Int32 ComponentCall := do
  let index ← readUint32
  let paramStruct ← readArray osalMemCalloc
  pure (.setParameter index paramStruct)

def serStubGetConfig : Reader Value Int32 ComponentCall := do
  let index ← readUint32
  let cfgStruct ← readFilledArray osalMemCalloc
  pure (.getConfig index cfgStruct)

def serStubSetConfig : Reader Value Int32 ComponentCall := do
  let index ← readUint32
  let cfgStruct ← readArray osalMemCalloc
  pure (.setConfig index cfgStruct)

def serStubGetExtensionIndex : Reader Value Int32 ComponentCall := do
  let paramName ← readString
  pure (.getExtensionIndex paramName)

def serStubGetState : Reader Value Int32 ComponentCall := pure .getState

def serStubComponentTunnelRequest : Reader Value Int32 ComponentCall := do
  let port ← readUint32
  let tunneledComp ← readInt32
  let tunneledPort ← readUint32
  let tunnelSetup ← tunnelSetupBlockUnmarshalling
  pure (.componentTunnelRequest port tunneledComp tunneledPort tunnelSetup)

def serStubUseBuffer : Reader Value Int32 ComponentCall := do
  let portIndex ← readUint32
  let buffer ← omxCodecBufferBlockUnmarshalling osalMemCalloc
  pure (.useBuffer portIndex buffer)

def serStubAllocateBuffer : Reader Value Int32 ComponentCall := do
  let portIndex ← readUint32
  let buffer ← omxCodecBufferBlockUnmarshalling osalMemCalloc
  pure (.allocateBuffer portIndex buffer)

def serStubFreeBuffer : Reader Value Int32 ComponentCall := do
  let portIndex ← readUint32
  let buffer ← omxCodecBufferBlockUnmarshalling osalMemCalloc
  pure (.freeBuffer portIndex buffer)

def serStubEmptyThisBuffer : Reader Value Int32 ComponentCall := do
  let buffer ← omxCodecBufferBlockUnmarshalling osalMemCalloc
  pure (.emptyThisBuffer buffer)

def serStubFillThisBuffer : Reader Value Int32 ComponentCall := do
  let buffer ← omxCodecBufferBlockUnmarshalling osalMemCalloc
  pure (.fillThisBuffer buffer)

/-- The service gets an object that sends its calls to the remote that was read. -/
def serStubSetCallbacks : Reader Value Int32 ComponentCall := do
  let callbackRemote ← readRemoteService
  let appData ← readArray osalMemCalloc
  pure (.setCallbacks callbackRemote appData)

def serStubComponentDeInit : Reader Value Int32 ComponentCall := pure .componentDeInit

def serStubUseEglImage : Reader Value Int32 ComponentCall := do
  let buffer ← omxCodecBufferBlockUnmarshalling osalMemCalloc
  let portIndex ← readUint32
  let eglImage ← readArray osalMemCalloc
  pure (.useEglImage buffer portIndex eglImage)

def serStubComponentRoleEnum : Reader Value Int32 ComponentCall := do
  let roleLen ← readUint32
  allocate osalMemCalloc HDF_ERR_MALLOC_FAIL roleLen
  let index ← readUint32
  pure (.componentRoleEnum roleLen index)

def handleComponentCmd : ComponentDispatchCmd → Reader Value Int32 ComponentCall
  | .getComponentVersion => serStubGetComponentVersion
  | .sendCommand => serStubSendCommand osalMemCalloc
  | .getParameter => serStubGetParameter osalMemCalloc
  | .setParameter => serStubSetParameter osalMemCalloc
  | .getConfig => serStubGetConfig osalMemCalloc
  | .setConfig => serStubSetConfig osalMemCalloc
  | .getExtensionIndex => serStubGetExtensionIndex
  | .getState => serStubGetState
  | .componentTunnelRequest => serStubComponentTunnelRequest
  | .useBuffer => serStubUseBuffer osalMemCalloc
  | .allocateBuffer => serStubAllocateBuffer osalMemCalloc
  | .freeBuffer => serStubFreeBuffer osalMemCalloc
  | .emptyThisBuffer => serStubEmptyThisBuffer osalMemCalloc
  | .fillThisBuffer => serStubFillThisBuffer osalMemCalloc
  | .setCallbacks => serStubSetCallbacks osalMemCalloc
  | .componentDeInit => serStubComponentDeInit
  | .useEglImage => serStubUseEglImage osalMemCalloc
  | .componentRoleEnum => serStubComponentRoleEnum osalMemCalloc

/-- `CodecComponentTypeServiceOnRemoteRequest` up to the call of the service. -/
def componentServiceOnRemoteRequest (cmdId : ComponentDispatchCmd) : Reader Value Int32 ComponentCall := do
  checkInterfaceToken interfaceDesc
  handleComponentCmd osalMemCalloc cmdId

/-- The proxy and the stub of the components. Every function of the proxy returns the stub's
code if it is not `HDF_SUCCESS`, and every one of the stub that of the service. -/
def component : Interface Value Int32 where
  Call := ComponentCall
  Out := ComponentCall.Out
  Command := ComponentDispatchCmd
  success := HDF_SUCCESS
  command := ComponentCall.command
  writeArguments call := .interfaceToken interfaceDesc :: call.arguments
  readArguments := componentServiceOnRemoteRequest osalMemCalloc
  writeResult := ComponentCall.reply
  readResult := ComponentCall.readReply osalMemCalloc

end

/-- The methods of `struct CodecCallbackType`. -/
inductive CallbackCall
  | eventHandler (event : UInt32) (info : EventInfo)
  | emptyBufferDone (appData : SizedArray Int8) (buffer : OmxCodecBuffer)
  | fillBufferDone (appData : SizedArray Int8) (buffer : OmxCodecBuffer)
  deriving DecidableEq

inductive CallbackDispatchCmd
  | eventHandler
  | emptyBufferDone
  | fillBufferDone
  deriving DecidableEq

namespace CallbackCall

def command : CallbackCall → CallbackDispatchCmd
  | eventHandler .. => .eventHandler
  | emptyBufferDone .. => .emptyBufferDone
  | fillBufferDone .. => .fillBufferDone

def writeEventInfo (info : EventInfo) : HdfSBuf :=
  writeArray info.appData ++ .uint32 info.data1 :: .uint32 info.data2 :: writeArray info.eventData

def arguments : CallbackCall → HdfSBuf
  | eventHandler event info => .uint32 event :: writeEventInfo info
  | emptyBufferDone appData buffer => writeArray appData ++ omxCodecBufferBlockMarshalling buffer
  | fillBufferDone appData buffer => writeArray appData ++ omxCodecBufferBlockMarshalling buffer

end CallbackCall

section
variable (osalMemCalloc : UInt32 → Bool)

def readEventInfo : Reader Value Int32 EventInfo := do
  let appData ← readArray osalMemCalloc
  let data1 ← readUint32
  let data2 ← readUint32
  let eventData ← readArray osalMemCalloc
  pure { appData, data1, data2, eventData }

/-- Every failure to read the info has one code here, that of the memory too. -/
def serStubEventHandler : Reader Value Int32 CallbackCall := do
  let event ← readUint32
  let info ← (readEventInfo osalMemCalloc).adaptExcept fun _ => HDF_ERR_INVALID_PARAM
  pure (.eventHandler event info)

def serStubEmptyBufferDone : Reader Value Int32 CallbackCall := do
  let appData ← readArray osalMemCalloc
  let buffer ← omxCodecBufferBlockUnmarshalling osalMemCalloc
  pure (.emptyBufferDone appData buffer)

def serStubFillBufferDone : Reader Value Int32 CallbackCall := do
  let appData ← readArray osalMemCalloc
  let buffer ← omxCodecBufferBlockUnmarshalling osalMemCalloc
  pure (.fillBufferDone appData buffer)

/-- `CodecCallbackTypeServiceOnRemoteRequest` up to the call of the service. -/
def callbackServiceOnRemoteRequest (code : CallbackDispatchCmd) : Reader Value Int32 CallbackCall := do
  checkInterfaceToken interfaceDesc
  match code with
  | .eventHandler => serStubEventHandler osalMemCalloc
  | .emptyBufferDone => serStubEmptyBufferDone osalMemCalloc
  | .fillBufferDone => serStubFillBufferDone osalMemCalloc

/-- The proxy and the stub of the callbacks, which have no results. -/
def callback : Interface Value Int32 where
  Call := CallbackCall
  Out _ := Unit
  Command := CallbackDispatchCmd
  success := HDF_SUCCESS
  command := CallbackCall.command
  writeArguments call := .interfaceToken interfaceDesc :: call.arguments
  readArguments := callbackServiceOnRemoteRequest osalMemCalloc
  writeResult _ _ := []
  readResult _ := pure ()

end

end Peripheral.OmxIpc
