import Peripheral.DataFifo

/-!
The serial port of the gadget in `cdcacm.c`. The controller is what is outside of
it: it answers to submissions and allocations in the order in which they are asked
for, and holds the requests that are in flight. A handler that returns without
giving the lock of the port back leaves it locked, and no other gets on then.
-/
namespace Peripheral.UsbSerial

def queueSize : Int := 8
def writeBufSize : UInt32 := 8192
def readBufSize : UInt32 := 8192
/-- The longest string `strcpy_s` copies, with its end. -/
def stringMaxLen : Nat := 0x7fffffff

inductive RequestStatus
  | completed | noDevice | other
  deriving DecidableEq

/-- `UsbFnRequest`: where it is, the bytes that are sent or were received, and its status. -/
structure Request where
  address : Nat
  buf : List UInt8
  status : RequestStatus
  deriving DecidableEq

structure Submission where
  payload : List UInt8
  accepted : Bool
  deriving DecidableEq

structure Controller where
  answers : Nat → Bool
  asked : Nat
  fresh : Nat
  live : List Nat
  reading : List Request
  writing : List Request
  writes : List Submission

/-- `UsbSerial`; whether it has its device, and whether its lock is held. -/
structure Port where
  acm : Bool
  locked : Bool
  readPool : List Request
  readQueue : List Request
  readStarted : Int
  readAllocated : Int
  readFifo : DataFifo
  writePool : List Request
  writeStarted : Int
  writeAllocated : Int
  writeFifo : DataFifo
  writeBusy : Bool
  suspended : Bool
  startDelayed : Bool

/-- The port with the packet size of its pipe in, the flag `g_inFifo`, and the controller. -/
structure Gadget where
  maxIn : UInt16
  inFifo : Bool
  port : Port
  controller : Controller

namespace Controller

def ask (c : Controller) : Bool × Controller := (c.answers c.asked, { c with asked := c.asked + 1 })

def submitRead (c : Controller) (req : Request) : Bool × Controller :=
  let (accepted, c) := c.ask
  (accepted, if accepted then { c with reading := c.reading ++ [req] } else c)

def submitWrite (c : Controller) (req : Request) : Bool × Controller :=
  let (accepted, c) := c.ask
  let c := { c with writes := c.writes ++ [⟨req.buf, accepted⟩] }
  (accepted, if accepted then { c with writing := c.writing ++ [req] } else c)

def allocRequest (c : Controller) : Option Request × Controller :=
  let (allocated, c) := c.ask
  if allocated then (some ⟨c.fresh, [], .completed⟩, { c with fresh := c.fresh + 1, live := c.fresh :: c.live })
  else (none, c)

def freeRequest (c : Controller) (req : Request) : Controller := { c with live := c.live.erase req.address }

end Controller

/-- The loop of `UsbSerialStartTx`. A request leaves the pool with each round that does not end it. -/
def startTx (maxIn : UInt16) : Nat → Port → Controller → Port × Controller
  | 0, port, c => (port, c)
  | rounds + 1, port, c =>
    match port.writePool with
    | [] => (port, c)
    | req :: pool =>
      if port.writeBusy || port.writeStarted ≥ queueSize then (port, c)
      else
        let (bytes, fifo) := port.writeFifo.read maxIn.toUInt32
        if bytes = [] then ({ port with writeFifo := fifo }, c)
        else
          let req := { req with buf := bytes }
          match c.submitWrite req with
          | (false, c) => ({ port with writeFifo := fifo, writePool := pool ++ [req], writeBusy := false }, c)
          | (true, c) => startTx maxIn rounds { port with
              writeFifo := fifo, writePool := pool, writeBusy := false, writeStarted := port.writeStarted + 1 } c

def usbSerialStartTx (maxIn : UInt16) (port : Port) (c : Controller) : Port × Controller :=
  if port.acm then startTx maxIn port.writePool.length port c else (port, c)

/-- The loop of `UsbSerialStartRx`. -/
def startRx : Nat → Port → Controller → Port × Controller
  | 0, port, c => (port, c)
  | rounds + 1, port, c =>
    match port.readPool with
    | [] => (port, c)
    | req :: pool =>
      if port.readStarted ≥ queueSize then (port, c)
      else
        match c.submitRead req with
        | (false, c) => ({ port with readPool := pool ++ [req] }, c)
        | (true, c) => startRx rounds { port with readPool := pool, readStarted := port.readStarted + 1 } c

def usbSerialStartRx (port : Port) (c : Controller) : Port × Controller := startRx port.readPool.length port c

/-- What was received is put into the fifo; when that is full, so much is dropped first. -/
def pushBytes (inFifo : Bool) (fifo : DataFifo) (req : Request) : DataFifo :=
  if inFifo && req.buf ≠ [] then
    let size := UInt32.ofNat req.buf.length
    let fifo := if fifo.isFull then fifo.skip size else fifo
    (fifo.write req.buf size).2
  else fifo

/-- The loop of `UsbSerialRxPush` over the queue. -/
def rxPush (inFifo : Bool) : List Request → Port → Port
  | [], port => port
  | req :: queue, port => rxPush inFifo queue { port with
      readFifo := pushBytes inFifo port.readFifo req, readQueue := queue, readPool := port.readPool ++ [req],
      readStarted := port.readStarted - 1 }

def usbSerialRxPush (inFifo : Bool) (port : Port) (c : Controller) : Port × Controller :=
  let disconnect := port.readQueue.any fun req => req.status = .noDevice
  let port := rxPush inFifo port.readQueue port
  if !disconnect && port.acm then usbSerialStartRx port c else (port, c)

def usbSerialFreeRequests : List Request → Int → Controller → Int × Controller
  | [], allocated, c => (allocated, c)
  | req :: head, allocated, c => usbSerialFreeRequests head (allocated - 1) (c.freeRequest req)

def freeReadRequests (port : Port) (c : Controller) : Port × Controller :=
  let (allocated, c) := usbSerialFreeRequests port.readPool port.readAllocated c
  ({ port with readPool := [], readAllocated := allocated }, c)

def freeWriteRequests (port : Port) (c : Controller) : Port × Controller :=
  let (allocated, c) := usbSerialFreeRequests port.writePool port.writeAllocated c
  ({ port with writePool := [], writeAllocated := allocated }, c)

def allocRequests : Nat → List Request → Int → Controller → Bool × List Request × Int × Controller
  | 0, head, allocated, c => (true, head, allocated, c)
  | num + 1, head, allocated, c =>
    match c.allocRequest with
    | (none, c) => (head ≠ [], head, allocated, c)
    | (some req, c) => allocRequests num (head ++ [req]) (allocated + 1) c

def usbSerialAllocReadRequests (port : Port) (num : Nat) (c : Controller) : Bool × Port × Controller :=
  let (there, head, allocated, c) := allocRequests num port.readPool port.readAllocated c
  (there, { port with readPool := head, readAllocated := allocated }, c)

def usbSerialAllocWriteRequests (port : Port) (num : Nat) (c : Controller) : Bool × Port × Controller :=
  let (there, head, allocated, c) := allocRequests num port.writePool port.writeAllocated c
  (there, { port with writePool := head, writeAllocated := allocated }, c)

/-- What is allocated is started; without a read request in flight everything that is not in flight is freed. -/
def startAllocated (maxIn : UInt16) (port : Port) (c : Controller) : Bool × Port × Controller :=
  let (port, c) := usbSerialStartRx port c
  if port.readStarted ≠ 0 then (true, usbSerialStartTx maxIn port c)
  else
    let (port, c) := freeReadRequests port c
    (false, freeWriteRequests port c)

def ensureReads (port : Port) (c : Controller) : Bool × Port × Controller :=
  if port.readAllocated = 0 then usbSerialAllocReadRequests port queueSize.toNat c else (true, port, c)

def ensureWrites (port : Port) (c : Controller) : Bool × Port × Controller :=
  if port.writeAllocated = 0 then usbSerialAllocWriteRequests port queueSize.toNat c else (true, port, c)

def usbSerialStartIo (maxIn : UInt16) (port : Port) (c : Controller) : Bool × Port × Controller :=
  match ensureReads port c with
  | (false, port, c) => (false, port, c)
  | (true, port, c) =>
    match ensureWrites port c with
    | (false, port, c) => (false, freeReadRequests port c)
    | (true, port, c) => startAllocated maxIn port c

def usbSerialAllocFifo (fifo : DataFifo) (size : UInt32) (c : Controller) : Bool × DataFifo × Controller :=
  if fifo.isInitialized then (true, fifo, c)
  else
    match c.ask with
    | (false, c) => (false, fifo, c)
    | (true, c) => (true, .init size (List.replicate size.toNat 0), c)

def allocFifos (port : Port) (c : Controller) : Bool × Port × Controller :=
  match usbSerialAllocFifo port.writeFifo writeBufSize c with
  | (false, fifo, c) => (false, { port with writeFifo := fifo }, c)
  | (true, fifo, c) =>
    let port := { port with writeFifo := fifo }
    match usbSerialAllocFifo port.readFifo readBufSize c with
    | (there, fifo, c) => (there, { port with readFifo := fifo }, c)

def Gadget.with (g : Gadget) (state : Port × Controller) : Gadget := { g with port := state.1, controller := state.2 }

def acmEnable (g : Gadget) : Gadget :=
  match allocFifos { g.port with acm := true } g.controller with
  | (false, port, c) => g.with ({ port with locked := true }, c)
  | (true, port, c) => g.with (usbSerialStartIo g.maxIn port c).2

def acmDisable (g : Gadget) : Gadget :=
  { g with port := { g.port with writeFifo := .init 0 [], readFifo := .init 0 [] } }

def acmSuspend (g : Gadget) : Gadget := { g with port := { g.port with suspended := true } }

def acmResume (g : Gadget) : Gadget :=
  let port := { g.port with suspended := false }
  if !port.startDelayed then { g with port := port }
  else
    let (_, port, c) := usbSerialStartIo g.maxIn port g.controller
    g.with ({ port with startDelayed := false }, c)

def usbSerialOpen (g : Gadget) : Gadget :=
  let g := { g with inFifo := true }
  match allocFifos g.port g.controller with
  | (false, port, c) => g.with (port, c)
  | (true, port, c) =>
    if !port.acm then g.with (port, c)
    else if port.suspended then g.with ({ port with startDelayed := true }, c)
    else g.with (usbSerialStartIo g.maxIn port c).2

def usbSerialClose (g : Gadget) : Gadget :=
  { g with port := { g.port with
    writeFifo := g.port.writeFifo.reset, readFifo := g.port.readFifo.reset, startDelayed := false } }

/-- The bytes up to the first zero byte, which is read too; nothing when the first one is zero. -/
def readString : Nat → List UInt8 → DataFifo → Option (List UInt8) × DataFifo
  | 0, before, fifo => (some before, fifo)
  | rounds + 1, before, fifo =>
    match fifo.read 1 with
    | ([], fifo) => (none, fifo)
    | (byte :: _, fifo) =>
      if byte = 0 then (if before = [] then none else some before, fifo)
      else readString rounds (before ++ [byte]) fifo

def usbSerialRead (g : Gadget) : Option (List UInt8) × Gadget :=
  if g.port.readFifo.isEmpty then (none, g)
  else
    match g.controller.ask with
    | (false, c) => (none, g.with (g.port, c))
    | (true, c) =>
      let (reply, fifo) := readString g.port.readFifo.len.toNat [] g.port.readFifo
      let port := { g.port with readFifo := fifo }
      (reply, g.with (if port.acm then usbSerialStartRx port c else (port, c)))

/-- How many bytes of the string were taken; an error is returned with the lock held. -/
def usbSerialWrite (g : Gadget) (data : Option (List UInt8)) : Option UInt32 × Gadget :=
  match data with
  | none => (none, { g with port := { g.port with locked := true } })
  | some text =>
    match g.controller.ask with
    | (false, c) => (none, g.with ({ g.port with locked := true }, c))
    | (true, c) =>
      if text.length + 1 > stringMaxLen then (none, g.with ({ g.port with locked := true }, c))
      else
        let (size, fifo) := g.port.writeFifo.write text (UInt32.ofNat text.length)
        (some size, g.with (usbSerialStartTx g.maxIn { g.port with writeFifo := fifo } c))

def usbSerialReadComplete (g : Gadget) (req : Request) : Gadget :=
  g.with (usbSerialRxPush g.inFifo { g.port with readQueue := g.port.readQueue ++ [req] } g.controller)

def usbSerialWriteComplete (g : Gadget) (req : Request) : Gadget :=
  let port := { g.port with writePool := g.port.writePool ++ [req], writeStarted := g.port.writeStarted - 1 }
  match req.status with
  | .completed => g.with (usbSerialStartTx g.maxIn port g.controller)
  | .noDevice | .other => { g with port := port }

inductive Event
  | enable | disable | suspend | resume | openPort | closePort | read
  | write (data : Option (List UInt8))
  | readComplete (address : Nat) (status : RequestStatus) (received : List UInt8)
  | writeComplete (address : Nat) (status : RequestStatus)

namespace Gadget

/-- A port that `UsbSerialAlloc` made. -/
def start (maxIn : UInt16) (inFifo : Bool) (answers : Nat → Bool) : Gadget :=
  ⟨maxIn, inFifo, ⟨false, false, [], [], 0, 0, .init 0 [], [], 0, 0, .init 0 [], false, false, false⟩,
    ⟨answers, 0, 0, [], [], [], []⟩⟩

def handle (g : Gadget) : Event → Gadget
  | .enable => acmEnable g
  | .disable => acmDisable g
  | .suspend => acmSuspend g
  | .resume => acmResume g
  | .openPort => usbSerialOpen g
  | .closePort => usbSerialClose g
  | .read => (usbSerialRead g).2
  | .write data => (usbSerialWrite g data).2
  | .readComplete address status received =>
    match g.controller.reading.find? fun req => req.address = address with
    | none => g
    | some req => usbSerialReadComplete
        { g with controller := { g.controller with reading := g.controller.reading.erase req } }
        { req with buf := received, status := status }
  | .writeComplete address status =>
    match g.controller.writing.find? fun req => req.address = address with
    | none => g
    | some req => usbSerialWriteComplete
        { g with controller := { g.controller with writing := g.controller.writing.erase req } }
        { req with status := status }

/-- While the lock is held nothing happens. -/
def step (g : Gadget) (e : Event) : Gadget := if g.port.locked then g else g.handle e

def run (g : Gadget) (events : List Event) : Gadget := events.foldl step g

end Gadget

end Peripheral.UsbSerial
