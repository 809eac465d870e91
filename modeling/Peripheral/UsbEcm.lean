import Peripheral.UsbSerial
import Peripheral.Transitions

/-!
The port of the network function of the gadget, from `cdcecm.c`. What the allocator and the controller answer comes with
each event, and the requests that are in flight are kept beside the port. Beside them stand what the last start of the
reads came to, and what the handlers moved through the memory of the fifos.
-/
namespace Peripheral.UsbEcm
open UsbSerial (Request RequestStatus)

def queueSize : Int := 8
def writeBufSize : UInt32 := 8192
def readBufSize : UInt32 := 8192

inductive Code
  | success | failure | io | mallocFail
  deriving DecidableEq

structure Answers where
  writeFifo : Bool
  readFifo : Bool
  readBuffer : Bool
  sbufWrite : Bool
  allocRead : Nat → Bool
  allocWrite : Nat → Bool
  submitRead : Nat → Bool
  submitWrite : Nat → Bool

structure Touch where
  memory : Bool
  bytes : Nat
  deriving DecidableEq

/-- `UsbEcm`, with the packet size of its pipe in, the requests in flight, and the address of the next request. -/
structure Port where
  maxIn : UInt16
  ecm : Bool
  refCount : Int32
  readPool : List Request
  readQueue : List Request
  readStarted : Int
  readAllocated : Int
  readFifo : DataFifo
  writePool : List Request
  writeStarted : Int
  writeAllocated : Int
  writeFifo : DataFifo
  writeBusy : Bool
  reading : List Request
  writing : List Request
  fresh : Nat
  failed : Bool
  touches : List Touch

def hasMemory (fifo : DataFifo) : Bool := fifo.data ≠ []

/-- The loop of `UsbEcmStartTx`, from the submission `i` on. -/
def startTx (a : Answers) : Nat → Nat → Port → Port
  | 0, _, port => port
  | rounds + 1, i, port =>
    match port.writePool with
    | [] => port
    | req :: pool =>
      if port.writeBusy || port.writeStarted ≥ queueSize then port
      else
        let (bytes, fifo) := port.writeFifo.read port.maxIn.toUInt32
        let port := { port with
          writeFifo := fifo, touches := port.touches ++ [⟨hasMemory port.writeFifo, bytes.length⟩] }
        if bytes = [] then port
        else
          let req := { req with buf := bytes }
          if !a.submitWrite i then { port with writePool := pool ++ [req], writeBusy := false }
          else startTx a rounds (i + 1) { port with
            writePool := pool, writeBusy := false, writeStarted := port.writeStarted + 1, writing := port.writing ++ [req] }

def usbEcmStartTx (a : Answers) (port : Port) : Port := if port.ecm then startTx a port.writePool.length 0 port else port

/-- The loop of `UsbEcmStartRx`, from the submission `i` on. -/
def startRx (a : Answers) : Nat → Nat → Port → Port
  | 0, _, port => port
  | rounds + 1, i, port =>
    match port.readPool with
    | [] => port
    | req :: pool =>
      if port.readStarted ≥ queueSize then port
      else if !a.submitRead i then { port with readPool := pool ++ [req] }
      else startRx a rounds (i + 1) { port with
        readPool := pool, readStarted := port.readStarted + 1, reading := port.reading ++ [req] }

/-- It reports how many reads are started, and that there are none is an error to `UsbEcmStartIo`. -/
def usbEcmStartRx (a : Answers) (port : Port) : Port :=
  let port := startRx a port.readPool.length 0 port
  { port with failed := port.readStarted = 0 }

/-- What was received is put into the fifo; when that is full, so much is dropped first. -/
def pushBytes (fifo : DataFifo) (req : Request) : UInt32 × DataFifo :=
  let size := UInt32.ofNat req.buf.length
  let fifo := if fifo.isFull then fifo.skip size else fifo
  fifo.write req.buf size

def push (req : Request) (port : Port) : Port :=
  if req.buf ≠ [] && req.status = .completed then
    let (count, fifo) := pushBytes port.readFifo req
    { port with readFifo := fifo, touches := port.touches ++ [⟨hasMemory port.readFifo, count.toNat⟩] }
  else port

/-- The loop of `UsbEcmRxPush` over the queue. -/
def rxPush : List Request → Port → Port
  | [], port => port
  | req :: queue, port =>
    let port := push req port
    rxPush queue { port with readQueue := queue, readPool := port.readPool ++ [req], readStarted := port.readStarted - 1 }

def usbEcmRxPush (a : Answers) (port : Port) : Port :=
  let disconnect := port.readQueue.any fun req => req.status = .noDevice
  let port := rxPush port.readQueue port
  if !disconnect && port.ecm then usbEcmStartRx a port else port

def usbEcmFreeRequests : List Request → Int → Int
  | [], allocated => allocated
  | _ :: head, allocated => usbEcmFreeRequests head (allocated - 1)

def freeReadRequests (port : Port) : Port :=
  { port with readPool := [], readAllocated := usbEcmFreeRequests port.readPool port.readAllocated }

def freeWriteRequests (port : Port) : Port :=
  { port with writePool := [], writeAllocated := usbEcmFreeRequests port.writePool port.writeAllocated }

/-- Requests for a pool, from the allocation `i` on; without memory for more, what there is has to do. -/
def allocRequests (alloc : Nat → Bool) : Nat → Nat → List Request → Int → Nat → Code × List Request × Int × Nat
  | 0, _, head, allocated, fresh => (.success, head, allocated, fresh)
  | num + 1, i, head, allocated, fresh =>
    if !alloc i then (if head = [] then .failure else .success, head, allocated, fresh)
    else allocRequests alloc num (i + 1) (head ++ [⟨fresh, [], .completed⟩]) (allocated + 1) (fresh + 1)

def usbEcmAllocReadRequests (a : Answers) (port : Port) (num : Nat) : Code × Port :=
  let (ret, head, allocated, fresh) := allocRequests a.allocRead num 0 port.readPool port.readAllocated port.fresh
  (ret, { port with readPool := head, readAllocated := allocated, fresh := fresh })

def usbEcmAllocWriteRequests (a : Answers) (port : Port) (num : Nat) : Code × Port :=
  let (ret, head, allocated, fresh) := allocRequests a.allocWrite num 0 port.writePool port.writeAllocated port.fresh
  (ret, { port with writePool := head, writeAllocated := allocated, fresh := fresh })

def ensureReads (a : Answers) (port : Port) : Code × Port :=
  if port.readAllocated = 0 then usbEcmAllocReadRequests a port queueSize.toNat else (.success, port)

def ensureWrites (a : Answers) (port : Port) : Code × Port :=
  if port.writeAllocated = 0 then usbEcmAllocWriteRequests a port queueSize.toNat else (.success, port)

/-- What is allocated is started; without a read request in flight everything that is not in flight is freed. -/
def startAllocated (a : Answers) (port : Port) : Code × Port :=
  let port := usbEcmStartRx a port
  if port.readStarted ≠ 0 then (.success, usbEcmStartTx a port)
  else (.io, freeWriteRequests (freeReadRequests port))

def startIo (a : Answers) (port : Port) : Code × Port :=
  match ensureReads a port with
  | (.success, port) =>
    match ensureWrites a port with
    | (.success, port) => startAllocated a port
    | (ret, port) => (ret, freeReadRequests port)
  | (ret, port) => (ret, port)

def usbEcmStartIo (a : Answers) (port : Port) : Code × Port :=
  let (ret, port) := startIo a port
  (ret, { port with failed := ret ≠ .success })

def usbEcmAllocFifo (fifo : DataFifo) (size : UInt32) (alloc : Bool) : Code × DataFifo :=
  if !fifo.isInitialized then
    if !alloc then (.mallocFail, fifo) else (.success, .init size (List.replicate size.toNat 0))
  else (.success, fifo)

/-- The port behind the label of the lock: every way ends in success. -/
def openPort (a : Answers) (port : Port) : Port :=
  match usbEcmAllocFifo port.writeFifo writeBufSize a.writeFifo with
  | (.success, fifo) =>
    let port := { port with writeFifo := fifo }
    match usbEcmAllocFifo port.readFifo readBufSize a.readFifo with
    | (.success, fifo) =>
      let before : Int32 := port.refCount
      let port := { port with writeFifo := port.writeFifo.reset, readFifo := fifo.reset, refCount := before + 1 }
      if before ≠ 0 then port
      else if port.ecm then (usbEcmStartIo a port).2
      else port
    | (_, fifo) => { port with readFifo := fifo }
  | (_, fifo) => { port with writeFifo := fifo }

def usbEcmOpen (a : Answers) (port : Port) : Code × Port := (.success, openPort a port)

def usbEcmClose (port : Port) : Code × Port :=
  if port.refCount ≠ 1 then (.success, { port with refCount := port.refCount - 1 })
  else (.success, { port with writeFifo := port.writeFifo.reset, readFifo := port.readFifo.reset, refCount := 0 })

/-- The bytes that are replied. -/
def usbEcmRead (a : Answers) (port : Port) : Code × List UInt8 × Port :=
  if port.readFifo.isEmpty then (.success, [], port)
  else if !a.readBuffer then (.mallocFail, [], port)
  else
    let (bytes, fifo) := port.readFifo.read port.readFifo.len
    let port := { port with
      readFifo := fifo, touches := port.touches ++ [⟨hasMemory port.readFifo, bytes.length⟩] }
    let (ret, reply) := if bytes = [] then (.io, []) else if !a.sbufWrite then (.io, []) else (Code.success, bytes)
    (ret, reply, if port.ecm then usbEcmStartRx a port else port)

/-- No buffer when the command has none. -/
def usbEcmWrite (a : Answers) (data : Option (List UInt8)) (port : Port) : Code × Port :=
  match data with
  | none => (.io, port)
  | some bytes =>
    let port := if bytes ≠ [] then
      let (count, fifo) := port.writeFifo.write bytes (UInt32.ofNat bytes.length)
      { port with writeFifo := fifo, touches := port.touches ++ [⟨hasMemory port.writeFifo, count.toNat⟩] }
      else port
    (.success, if port.ecm then usbEcmStartTx a port else port)

def ecmEnable (a : Answers) (port : Port) : Port :=
  let port := { port with ecm := true }
  if port.refCount ≠ 0 then (usbEcmStartIo a port).2 else port

/-- The pointer to the function stays. -/
def ecmDisable (port : Port) : Port :=
  if port.refCount = 0 then { port with writeFifo := .init 0 [], readFifo := .init 0 [] } else port

/-- A request that was read is queued and the queue is emptied. -/
def usbEcmReadComplete (a : Answers) (req : Request) (port : Port) : Port :=
  usbEcmRxPush a { port with readQueue := port.readQueue ++ [req] }

def usbEcmWriteComplete (a : Answers) (req : Request) (port : Port) : Port :=
  let port := { port with writePool := port.writePool ++ [req], writeStarted := port.writeStarted - 1 }
  match req.status with
  | .completed => usbEcmStartTx a port
  | .noDevice | .other => port

inductive Event
  | enable (a : Answers)
  | disable
  | openPort (a : Answers)
  | closePort
  | read (a : Answers)
  | write (data : Option (List UInt8)) (a : Answers)
  | readComplete (address : Nat) (status : RequestStatus) (received : List UInt8) (a : Answers)
  | writeComplete (address : Nat) (status : RequestStatus) (a : Answers)

/-- A port that `UsbEcmAlloc` made. -/
def Port.start (maxIn : UInt16) : Port :=
  ⟨maxIn, false, 0, [], [], 0, 0, .init 0 [], [], 0, 0, .init 0 [], false, [], [], 0, false, []⟩

/-- Only a request in flight can be completed. -/
def Port.handle (port : Port) : Event → Port
  | .enable a => ecmEnable a port
  | .disable => ecmDisable port
  | .openPort a => (usbEcmOpen a port).2
  | .closePort => (usbEcmClose port).2
  | .read a => (usbEcmRead a port).2.2
  | .write data a => (usbEcmWrite a data port).2
  | .readComplete address status received a =>
    match port.reading.find? fun req => req.address = address with
    | none => port
    | some req =>
      usbEcmReadComplete a { req with buf := received, status := status } { port with reading := port.reading.erase req }
  | .writeComplete address status a =>
    match port.writing.find? fun req => req.address = address with
    | none => port
    | some req => usbEcmWriteComplete a { req with status := status } { port with writing := port.writing.erase req }

end Peripheral.UsbEcm
