import Peripheral.HdfSBuf

/-!
The first codec interface between processes: `codec_proxy.c` and `proxy_msgproc.c` on the
client's side, `codec_stub.c` and `stub_msgproc.c` on the server's. A pointer has 32 bits,
as both sides cast them; what is written of an address, what memory holds that nobody has
set, and what lies at an address of the other process depends on the machine that the two
processes run on. A call stands for the values that a `Codec*` function gets: its
parameters come with the bytes behind their pointers.
-/
namespace Peripheral.CodecIpc

open RemoteCalls Hdf

abbrev Pointer := UInt32

structure Param where
  key : UInt32
  size : Int32
  val : Vector UInt8 size.toNatClampNeg
  deriving DecidableEq

structure ParamArray where
  paramCnt : Int32
  params : Vector Param paramCnt.toNatClampNeg
  deriving DecidableEq

def BUFFER_TYPE_VIRTUAL : UInt32 := 0
def BUFFER_TYPE_FD : UInt32 := 1
def BUFFER_TYPE_HANDLE : UInt32 := 2

inductive BufferAddress
  | virtual (addr : Pointer)
  | fd (fd : Int32)
  | handle (virAddr : Pointer) (handle : UInt32)
  | unknown (type : UInt32) (other : type ≠ BUFFER_TYPE_VIRTUAL ∧ type ≠ BUFFER_TYPE_FD ∧ type ≠ BUFFER_TYPE_HANDLE)
      (word : Pointer)
  deriving DecidableEq

namespace BufferAddress

def type : BufferAddress → UInt32
  | virtual _ => BUFFER_TYPE_VIRTUAL
  | fd _ => BUFFER_TYPE_FD
  | handle _ _ => BUFFER_TYPE_HANDLE
  | unknown type _ _ => type

end BufferAddress

structure CodecBufferInfo where
  address : BufferAddress
  offset : UInt32
  length : UInt32
  size : UInt32
  deriving DecidableEq

structure InputInfo where
  buffers : SizedArray CodecBufferInfo
  pts : Int64
  flag : Int32
  deriving DecidableEq

structure OutputInfo where
  buffers : SizedArray CodecBufferInfo
  timeStamp : Int64
  sequence : UInt32
  flag : UInt32
  type : UInt32
  vendorPrivate : Pointer
  deriving DecidableEq

structure Alignment where
  widthAlignment : Int32
  heightAlignment : Int32
  deriving DecidableEq

structure Rect where
  width : Int32
  height : Int32
  deriving DecidableEq

/-- The elements up to `actualLen`. -/
abbrev ResizableArray := SizedArray UInt32

structure CodecCapbility where
  mime : UInt32
  type : UInt32
  whAlignment : Alignment
  minSize : Rect
  maxSize : Rect
  minBitRate : UInt64
  maxBitRate : UInt64
  supportProfiles : ResizableArray
  supportLevels : ResizableArray
  supportPixelFormats : ResizableArray
  minInputBufferNum : UInt32
  minOutputBufferNum : UInt32
  allocateMask : UInt32
  capsMask : UInt32
  deriving DecidableEq

inductive Variable
  | handle
  | val (i : Nat)
  | addr (i : Nat)
  | virAddr (i : Nat)
  | vendorPrivate
  deriving DecidableEq

structure Process where
  address : Variable → Pointer
  memory : Pointer → UInt8

def Process.bytesAt (process : Process) (pointer : Pointer) (n : Nat) : Vector UInt8 n :=
  Vector.ofFn fun i => process.memory (pointer + i.val.toUInt32)

structure Machine where
  client : Process
  server : Process
  osalMemAlloc : UInt32 → Bool
  /-- The first word of the union in memory that the server has just got. -/
  freshWord : Pointer
  /-- The same of the client's buffers that are to be filled in. -/
  ownWord : Nat → Pointer
  /-- The variable of `SerCodecEnumerateCapbility`, which it does not set. -/
  freshCapbility : CodecCapbility
  /-- What follows the buffer with the value of a parameter. -/
  behindBuffer : Nat → UInt8
  /-- What follows the one parameter of `SerCodecCreate` on its stack. -/
  behindAttr : Nat → Param

def codecSerPackAlignment (alignment : Alignment) : HdfSBuf :=
  [.int32 alignment.widthAlignment, .int32 alignment.heightAlignment]

def codecProxyParseAlignment : Reader Value Int32 Alignment := do
  let widthAlignment ← readInt32
  let heightAlignment ← readInt32
  pure { widthAlignment, heightAlignment }

def codecSerPackRect (rectangle : Rect) : HdfSBuf := [.int32 rectangle.width, .int32 rectangle.height]

def codecProxyParseRect : Reader Value Int32 Rect := do
  let width ← readInt32
  let height ← readInt32
  pure { width, height }

def codecSerPackArray (resArr : ResizableArray) : HdfSBuf :=
  .uint32 resArr.len :: resArr.elems.toList.flatMap fun element => [.uint32 element]

def codecProxyParseArray : Reader Value Int32 ResizableArray := do
  let len ← readUint32
  let elems ← many readUint32 len.toNat
  pure { len, elems }

def codecSerPackCapbility (cap : CodecCapbility) : HdfSBuf :=
  .uint32 cap.mime :: .uint32 cap.type :: (codecSerPackAlignment cap.whAlignment ++
    (codecSerPackRect cap.minSize ++ (codecSerPackRect cap.maxSize ++
      .uint64 cap.minBitRate :: .uint64 cap.maxBitRate :: (codecSerPackArray cap.supportProfiles ++
        (codecSerPackArray cap.supportLevels ++ (codecSerPackArray cap.supportPixelFormats ++
          [.uint32 cap.minInputBufferNum, .uint32 cap.minOutputBufferNum, .uint32 cap.allocateMask,
            .uint32 cap.capsMask]))))))

def codecProxyParseGottenCapbility : Reader Value Int32 CodecCapbility := do
  let mime ← readUint32
  let type ← readUint32
  let whAlignment ← codecProxyParseAlignment
  let minSize ← codecProxyParseRect
  let maxSize ← codecProxyParseRect
  let minBitRate ← readUint64
  let maxBitRate ← readUint64
  let supportProfiles ← codecProxyParseArray
  let supportLevels ← codecProxyParseArray
  let supportPixelFormats ← codecProxyParseArray
  let minInputBufferNum ← readUint32
  let minOutputBufferNum ← readUint32
  let allocateMask ← readUint32
  let capsMask ← readUint32
  pure
    { mime, type, whAlignment, minSize, maxSize, minBitRate, maxBitRate, supportProfiles, supportLevels
      supportPixelFormats, minInputBufferNum, minOutputBufferNum, allocateMask, capsMask }

/-- `CodecProxyPackParam` and `CodecSerPackParam`: for the value, the address of the field that
points to it. -/
def packParam (process : Process) (i : Nat) (param : Param) : HdfSBuf :=
  [.uint32 param.key, .uint32 (process.address (.val i)), .int32 param.size]

/-- `CodecProxyParseParam` and `CodecSerParseParam`: what was read for the value is its pointer. -/
def parseParam (process : Process) : Reader Value Int32 Param := do
  let key ← readUint32
  let val ← readUint32
  let size ← readInt32
  pure { key, size, val := process.bytesAt val _ }

def packParams (process : Process) (params : List Param) : HdfSBuf := (params.mapIdx (packParam process)).flatten

/-- `CodecProxyPackBufferInfo` and `CodecSerPackBufferInfo`: of a pointer, the lowest byte of the
address of its field. -/
def packBufferInfo (process : Process) (i : Nat) (buffers : CodecBufferInfo) : HdfSBuf :=
  .uint32 buffers.address.type ::
    ((match buffers.address with
      | .virtual _ => [.uint8 (process.address (.addr i)).toUInt8]
      | .fd fd => [.fileDescriptor fd]
      | .handle _ handle => [.uint8 (process.address (.virAddr i)).toUInt8, .uint32 handle]
      | .unknown _ _ _ => []) ++ [.uint32 buffers.offset, .uint32 buffers.length, .uint32 buffers.size])

def packBuffers (process : Process) (buffers : SizedArray CodecBufferInfo) : HdfSBuf :=
  (buffers.elems.toList.mapIdx (packBufferInfo process)).flatten

/-- `HdfSbufReadUint8` into wherever the pointer leads. -/
def readThrough (pointer : Pointer) : Reader Value Int32 Unit :=
  if pointer = 0 then throw HDF_ERR_INVALID_PARAM else do
    let _ ← readUint8
    pure ()

/-- `CodecProxyParseBufferInfo` and `CodecSerParseBufferInfo`: a pointer stays what it was. -/
def parseBufferInfo (word : Pointer) : Reader Value Int32 CodecBufferInfo := do
  let type ← readUint32
  let address ←
    if virtual : type = BUFFER_TYPE_VIRTUAL then do
      readThrough word
      pure (.virtual word)
    else if isFd : type = BUFFER_TYPE_FD then do
      let fd ← readFileDescriptor
      pure (.fd fd)
    else if isHandle : type = BUFFER_TYPE_HANDLE then do
      readThrough word
      let handle ← readUint32
      pure (.handle word handle)
    else pure (BufferAddress.unknown type ⟨virtual, isFd, isHandle⟩ word)
  let offset ← readUint32
  let length ← readUint32
  let size ← readUint32
  pure { address, offset, length, size }

/-- What `CodecProxyPackInputInfo` writes behind the count. -/
def packInputInfo (process : Process) (inputData : InputInfo) : HdfSBuf :=
  packBuffers process inputData.buffers ++ [.int64 inputData.pts, .int32 inputData.flag]

/-- What `CodecProxyPackOutputInfo` writes behind the count. -/
def packOutputInfo (process : Process) (outInfo : OutputInfo) : HdfSBuf :=
  packBuffers process outInfo.buffers ++
    [.int64 outInfo.timeStamp, .uint32 outInfo.sequence, .uint32 outInfo.flag, .uint32 outInfo.type,
      .uint64 (process.address .vendorPrivate).toUInt64]

/-- `CodecProxyParseInputInfo` and `CodecSerParseInputInfo`, into buffers that hold these words. -/
def parseInputInfo {len : UInt32} (words : Vector Pointer len.toNat) : Reader Value Int32 InputInfo := do
  let elems ← words.mapM parseBufferInfo
  let pts ← readInt64
  let flag ← readInt32
  pure { buffers := { len, elems }, pts, flag }

/-- `CodecProxyParseOutputInfo` and `CodecSerParseOutputInfo`. -/
def parseOutputInfo {len : UInt32} (words : Vector Pointer len.toNat) : Reader Value Int32 OutputInfo := do
  let elems ← words.mapM parseBufferInfo
  let timeStamp ← readInt64
  let sequence ← readUint32
  let flag ← readUint32
  let type ← readUint32
  let vendorPrivate ← readUint64
  pure { buffers := { len, elems }, timeStamp, sequence, flag, type, vendorPrivate := vendorPrivate.toUInt32 }

/-- The methods of `struct ICodec`. A client's array of parameters for `CodecCreate` has at least one. -/
inductive CodecCall
  | init
  | deinit
  | enumerateCapbility (index : UInt32)
  | getCapbility (mime type flags : UInt32)
  | create (name : String) (attr : Param) (len : Int32) (more : Vector Param (len.toNatClampNeg - 1))
  | destroy (handle : Pointer)
  | setPortMode (handle : Pointer) (type mode : UInt32)
  | setParameter (handle : Pointer) (params : ParamArray)
  | getParameter (handle : Pointer) (params : ParamArray)
  | start (handle : Pointer)
  | stop (handle : Pointer)
  | flush (handle : Pointer) (directType : UInt32)
  | queueInput (handle : Pointer) (inputData : InputInfo) (timeoutMs : UInt32)
  | dequeInput (handle : Pointer) (timeoutMs bufferCnt : UInt32)
  | queueOutput (handle : Pointer) (outInfo : OutputInfo) (timeoutMs : UInt32) (releaseFenceFd : Int32)
  | dequeueOutput (handle : Pointer) (timeoutMs bufferCnt : UInt32)
  | setCallback (handle : Pointer) (cb : Remote) (instance_ : UInt32)
  deriving DecidableEq

inductive CodecCmd
  | init
  | deinit
  | enumCap
  | getCap
  | create
  | destroy
  | setMode
  | setParams
  | getParams
  | start
  | stop
  | flush
  | quequeInput
  | dequequeInput
  | quequeOutput
  | dequequeOutput
  | setCbk
  deriving DecidableEq

namespace CodecCall

/-- What the `Codec*` function fills in. -/
def Out : CodecCall → Type
  | enumerateCapbility _ => CodecCapbility
  | getCapbility .. => CodecCapbility
  | create .. => Pointer
  | getParameter _ params => Vector Param params.paramCnt.toNatClampNeg
  | dequeInput .. => InputInfo
  | dequeueOutput .. => Int32 × OutputInfo
  | init | deinit | destroy _ | setPortMode .. | setParameter .. | start _ | stop _ | flush .. | queueInput ..
  | queueOutput .. | setCallback .. => Unit

def command : CodecCall → CodecCmd
  | init => .init
  | deinit => .deinit
  | enumerateCapbility _ => .enumCap
  | getCapbility .. => .getCap
  | create .. => .create
  | destroy _ => .destroy
  | setPortMode .. => .setMode
  | setParameter .. => .setParams
  | getParameter .. => .getParams
  | start _ => .start
  | stop _ => .stop
  | flush .. => .flush
  | queueInput .. => .quequeInput
  | dequeInput .. => .dequequeInput
  | queueOutput .. => .quequeOutput
  | dequeueOutput .. => .dequequeOutput
  | setCallback .. => .setCbk

def known (buffers : SizedArray CodecBufferInfo) : Bool :=
  buffers.elems.all fun buffer => match buffer.address with
    | .unknown _ _ _ => false
    | _ => true

/-- What the functions of the proxy check before they send anything. -/
def accepted : CodecCall → Bool
  | destroy handle | setPortMode handle _ _ | start handle | stop handle | flush handle _ => handle != 0
  | setParameter _ params => 0 ≤ params.paramCnt
  | queueInput handle inputData _ => handle != 0 && known inputData.buffers
  | queueOutput handle outInfo _ _ => handle != 0 && known outInfo.buffers
  | dequeInput handle _ bufferCnt | dequeueOutput handle _ bufferCnt => handle != 0 && bufferCnt != 0
  | init | deinit | enumerateCapbility _ | getCapbility .. | create .. | getParameter .. | setCallback .. => true

section
variable (machine : Machine)

def arguments : CodecCall → HdfSBuf
  | init | deinit => []
  | enumerateCapbility index => [.uint32 index]
  | getCapbility mime type flags => [.uint32 mime, .uint32 type, .uint32 flags]
  | create name attr len _ =>
    [.string name, .uint32 attr.key, .int32 attr.size, .buffer attr.val.toList, .int32 len,
      .uint32 (machine.client.address .handle)]
  | destroy handle => [.uint32 handle]
  | setPortMode handle type mode => [.uint32 handle, .uint32 type, .uint32 mode]
  | setParameter handle params =>
    .uint32 handle :: .int32 params.paramCnt :: packParams machine.client params.params.toList
  | getParameter handle params =>
    .uint32 handle :: .int32 params.paramCnt :: packParams machine.client params.params.toList
  | start handle => [.uint32 handle]
  | stop handle => [.uint32 handle]
  | flush handle directType => [.uint32 handle, .uint32 directType]
  | queueInput handle inputData timeoutMs =>
    .uint32 handle :: .uint32 inputData.buffers.len :: (packInputInfo machine.client inputData ++ [.uint32 timeoutMs])
  | dequeInput handle timeoutMs bufferCnt => [.uint32 handle, .uint32 timeoutMs, .uint32 bufferCnt]
  | queueOutput handle outInfo timeoutMs releaseFenceFd =>
    .uint32 handle :: .uint32 outInfo.buffers.len ::
      (packOutputInfo machine.client outInfo ++ [.uint32 timeoutMs, .fileDescriptor releaseFenceFd])
  | dequeueOutput handle timeoutMs bufferCnt => [.uint32 handle, .uint32 timeoutMs, .uint32 bufferCnt]
  | setCallback handle cb instance_ => [.uint32 handle, .remoteService cb, .uint32 instance_]

def request (call : CodecCall) : HdfSBuf := .interfaceToken "ohos.hdi.codec_service" :: call.arguments machine

def reply : (call : CodecCall) → call.Out → HdfSBuf
  | init, _ | deinit, _ => [.uint32 HDF_SUCCESS.toUInt32]
  | enumerateCapbility _, cap => codecSerPackCapbility cap
  | getCapbility .., cap => codecSerPackCapbility cap
  | create .., handle => [.uint32 handle]
  | getParameter _ _, params => packParams machine.server params.toList
  | dequeInput .., inputData => packInputInfo machine.server inputData
  | dequeueOutput .., (acquireFd, outInfo) => .fileDescriptor acquireFd :: packOutputInfo machine.server outInfo
  | destroy _, _ | setPortMode .., _ | setParameter .., _ | start _, _ | stop _, _ | flush .., _ | queueInput .., _
  | queueOutput .., _ | setCallback .., _ => []

/-- What the functions of the proxy read after success. `CodecProxyGetParameter` reads its own
request, from the front. -/
def readReply : (call : CodecCall) → Reader Value Int32 call.Out
  | enumerateCapbility _ => codecProxyParseGottenCapbility
  | getCapbility .. => codecProxyParseGottenCapbility
  | create .. => readUint32
  | getParameter handle params => fun reply =>
    match (many (parseParam machine.client) params.paramCnt.toNatClampNeg).run
        ((getParameter handle params).request machine) with
    | .ok out _ => .ok out reply
    | .error code _ => .error code reply
  | dequeInput _ _ bufferCnt => parseInputInfo (Vector.ofFn fun i : Fin bufferCnt.toNat => machine.ownWord i)
  | dequeueOutput _ _ bufferCnt => do
    let acquireFd ← readFileDescriptor
    let outInfo ← parseOutputInfo (Vector.ofFn fun i : Fin bufferCnt.toNat => machine.ownWord i)
    pure (acquireFd.val, outInfo)
  | init | deinit | destroy _ | setPortMode .. | setParameter .. | start _ | stop _ | flush .. | queueInput ..
  | queueOutput .. | setCallback .. => pure ()

end

end CodecCall

section
variable (machine : Machine)

def refuseUnless (holds : Prop) [Decidable holds] : Reader Value Int32 Unit :=
  if holds then pure () else throw HDF_ERR_INVALID_PARAM

/-- `(CODEC_HANDLETYPE)&handle`: what every function passes on for the handle that it has read. -/
def handlePassed : Pointer := machine.server.address .handle

def serCodecGetCapbility : Reader Value Int32 CodecCall := do
  let mime ← readUint32
  let type ← readUint32
  let flags ← readUint32
  pure (.getCapbility mime type flags)

/-- One parameter is read, whatever number is passed on for it. -/
def serCodecCreate : Reader Value Int32 CodecCall := do
  let name ← readString
  let key ← readUint32
  let size ← readInt32
  let val ← readBuffer
  let len ← readInt32
  let _ ← readUint32
  let attr : Param := { key, size, val := Vector.ofFn fun i => val.getD i (machine.behindBuffer i) }
  pure (.create name attr len (Vector.ofFn fun i => machine.behindAttr i))

/-- `SerCodecDestroy`, `SerCodecStart` and `SerCodecStop` read the handle and nothing else. -/
def serCodecOfHandle (call : Pointer → CodecCall) : Reader Value Int32 CodecCall := do
  let _ ← readUint32
  pure (call (handlePassed machine))

def serCodecDestroy : Reader Value Int32 CodecCall := serCodecOfHandle machine .destroy

def serCodecSetPortMode : Reader Value Int32 CodecCall := do
  let _ ← readUint32
  let type ← readUint32
  let mode ← readUint32
  pure (.setPortMode (handlePassed machine) type mode)

/-- `SerCodecSetParameter` and `SerCodecGetParameter` up to the call. -/
def serCodecOfParams (call : Pointer → ParamArray → CodecCall) : Reader Value Int32 CodecCall := do
  let _ ← readUint32
  let paramCnt ← readInt32
  refuseUnless (0 < paramCnt)
  allocate machine.osalMemAlloc HDF_ERR_INVALID_PARAM paramCnt.toUInt32
  let params ← EStateM.adaptExcept (fun _ => HDF_FAILURE) (many (parseParam machine.server) paramCnt.toNatClampNeg)
  pure (call (handlePassed machine) { paramCnt, params })

def serCodecSetParameter : Reader Value Int32 CodecCall := serCodecOfParams machine .setParameter
def serCodecGetParameter : Reader Value Int32 CodecCall := serCodecOfParams machine .getParameter
def serCodecStart : Reader Value Int32 CodecCall := serCodecOfHandle machine .start
def serCodecStop : Reader Value Int32 CodecCall := serCodecOfHandle machine .stop

def serCodecFlush : Reader Value Int32 CodecCall := do
  let _ ← readUint32
  let directType ← readUint32
  pure (.flush (handlePassed machine) directType)

def serCodecQueueInput : Reader Value Int32 CodecCall := do
  let _ ← readUint32
  let bufCnt ← readUint32
  refuseUnless (0 < bufCnt)
  allocate machine.osalMemAlloc HDF_ERR_INVALID_PARAM bufCnt
  let inputData ← parseInputInfo (Vector.replicate bufCnt.toNat machine.freshWord)
  let timeoutMs ← readUint32
  pure (.queueInput (handlePassed machine) inputData timeoutMs)

def serCodecDequeInput : Reader Value Int32 CodecCall := do
  let _ ← readUint32
  let timeoutMs ← readUint32
  let bufferCnt ← readUint32
  refuseUnless (0 < bufferCnt)
  allocate machine.osalMemAlloc HDF_ERR_INVALID_PARAM bufferCnt
  pure (.dequeInput (handlePassed machine) timeoutMs bufferCnt)

def serCodecQueueOutput : Reader Value Int32 CodecCall := do
  let _ ← readUint32
  let bufCnt ← readUint32
  refuseUnless (0 < bufCnt)
  allocate machine.osalMemAlloc HDF_ERR_INVALID_PARAM bufCnt
  let outInfo ← parseOutputInfo (Vector.replicate bufCnt.toNat machine.freshWord)
  let timeoutMs ← readUint32
  let releaseFenceFd ← readFileDescriptor
  pure (.queueOutput (handlePassed machine) outInfo timeoutMs releaseFenceFd)

def serCodecDequeueOutput : Reader Value Int32 CodecCall := do
  let _ ← readUint32
  let timeoutMs ← readUint32
  let bufferCnt ← readUint32
  allocate machine.osalMemAlloc HDF_ERR_INVALID_PARAM bufferCnt
  pure (.dequeueOutput (handlePassed machine) timeoutMs bufferCnt)

def serCodecSetCallback : Reader Value Int32 CodecCall := do
  let _ ← readUint32
  let cbRemote ← readRemoteService
  let instance_ ← readUint32
  pure (.setCallback (handlePassed machine) cbRemote instance_)

/-- `CodecServiceOnRemoteRequest` up to the call of a `Codec*` function. -/
def codecServiceReads (cmdId : CodecCmd) : Reader Value Int32 CodecCall := do
  checkInterfaceToken "ohos.hdi.codec_service"
  match cmdId with
  | .init => pure .init
  | .deinit => pure .deinit
  | .enumCap => do
    let index ← readUint32
    pure (.enumerateCapbility index)
  | .getCap => serCodecGetCapbility
  | .create => serCodecCreate machine
  | .destroy => serCodecDestroy machine
  | .setMode => serCodecSetPortMode machine
  | .setParams => serCodecSetParameter machine
  | .getParams => serCodecGetParameter machine
  | .start => serCodecStart machine
  | .stop => serCodecStop machine
  | .flush => serCodecFlush machine
  | .quequeInput => serCodecQueueInput machine
  | .dequequeInput => serCodecDequeInput machine
  | .quequeOutput => serCodecQueueOutput machine
  | .dequequeOutput => serCodecDequeueOutput machine
  | .setCbk => serCodecSetCallback machine

def codec : Interface Value Int32 where
  Call := CodecCall
  Out := CodecCall.Out
  Command := CodecCmd
  success := HDF_SUCCESS
  command := CodecCall.command
  writeArguments := CodecCall.request machine
  readArguments := codecServiceReads machine
  writeResult := CodecCall.reply machine
  readResult := CodecCall.readReply machine

variable {σ : Type}

/-- `SerCodecEnumerateCapbility` calls no function: it sends the variable as it is. -/
def serCodecEnumerateCapbility (data : HdfSBuf) (server : (codec machine).Server σ) : (codec machine).Served σ :=
  match (codecServiceReads machine .enumCap).run data with
  | .error code unread => ⟨code, [], unread, server⟩
  | .ok _ unread => ⟨HDF_SUCCESS, codecSerPackCapbility machine.freshCapbility, unread, server⟩

def codecServiceOnRemoteRequest (service : (codec machine).Service σ) (cmdId : CodecCmd) (data : HdfSBuf)
    (server : (codec machine).Server σ) : (codec machine).Served σ :=
  match cmdId with
  | .enumCap => serCodecEnumerateCapbility machine data server
  | cmdId => (codec machine).serve service cmdId data server

def codecProxy (service : (codec machine).Service σ) (call : CodecCall) (server : (codec machine).Server σ) :
    (codec machine).Returned call σ :=
  if call.accepted then (codec machine).through (codecServiceOnRemoteRequest machine service) call server
  else ⟨HDF_ERR_INVALID_PARAM, none, [], [], server⟩

end

end Peripheral.CodecIpc
