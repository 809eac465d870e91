import Peripheral.AcmControl
import Peripheral.AcmNotify
import Peripheral.Faults
import Peripheral.HdfSBuf

/-!
The commands and the events of the serial gadget, `cdcacm.c`, with the lock of its port
taken and given back where the code does it. What is outside answers in the order in which
it is asked: for memory, for a submission, for a buffer that is written to.
-/
namespace Peripheral.Acm
open Peripheral.Faults UsbSerial
open Peripheral.Hdf (HDF_SUCCESS HDF_FAILURE HDF_ERR_INVALID_PARAM HDF_ERR_MALLOC_FAIL)
open Peripheral.UsbSerial (Controller Gadget Port allocFifos stringMaxLen usbSerialStartIo usbSerialStartRx usbSerialStartTx)

def HDF_ERR_NOT_SUPPORT : Int32 := -2
def HDF_ERR_INVALID_OBJECT : Int32 := -4
def HDF_ERR_DEVICE_BUSY : Int32 := -16
def HDF_ERR_IO : Int32 := -17
def usbMaxPacketSize : Nat := 0x40

inductive UsbSerialCmd
  | open | close | read | write | getBaudrate | setBaudrate | setProp | getProp | registProp
  | writeSpeed | writeGetTempSpeed | writeSpeedDone | writeGetTempSpeedUint32
  | readSpeed | readGetTempSpeed | readSpeedDone | readGetTempSpeedUint32
  | init | release
  deriving DecidableEq

def UsbSerialCmd.ofCode (cmd : Int32) : Option UsbSerialCmd :=
  match cmd.toInt with
  | 0 => some .open
  | 1 => some .close
  | 2 => some .read
  | 3 => some .write
  | 4 => some .getBaudrate
  | 5 => some .setBaudrate
  | 6 => some .setProp
  | 7 => some .getProp
  | 8 => some .registProp
  | 9 => some .writeSpeed
  | 10 => some .writeGetTempSpeed
  | 11 => some .writeSpeedDone
  | 12 => some .writeGetTempSpeedUint32
  | 13 => some .readSpeed
  | 14 => some .readGetTempSpeed
  | 15 => some .readSpeedDone
  | 16 => some .readGetTempSpeedUint32
  | 100 => some .init
  | 101 => some .release
  | _ => none

structure Payload where
  interfaceDesc : Bool
  strings : List (List UInt8)
  buffer : Option (List UInt8)
  deriving DecidableEq

/-- `UsbFnEvent`. -/
inductive FnEvent
  | bind | unbind | enable | disable
  | setup (setup : Option CtrlSetup)
  | suspend | resume | other
  deriving DecidableEq

/-- What `port` of the device points at. -/
inductive PortMemory
  | null | there | freed
  deriving DecidableEq

/-- `UsbAcmDevice`. `ctrlHead` says that the list of the control requests was made. -/
structure AcmDevice where
  initFlag : Bool
  notify : Bool
  fnDev : Bool
  ctrlHead : Bool
  enableEvtCnt : UInt32
  memory : PortMemory
  gadget : Gadget
  control : Control
  notifier : Notifier
  isStartRead : Bool
  isReadDone : Bool
  isWriteDone : Bool

/-- A pointer is null, or leads to memory that was freed or is too short, or a lock is held that is to be taken. -/
inductive Fault
  | null | freed | short | portLock | deviceLock
  deriving DecidableEq

abbrev Fn (ρ α : Type) := Prog Fault ρ AcmDevice α

section
variable {ρ α : Type}

/-! ### The port and what is outside -/

def ask : Fn ρ Bool := do
  let acm ← get
  set { acm with gadget.controller := acm.gadget.controller.ask.2 }
  return acm.gadget.controller.ask.1

def asks : Nat → Fn ρ (List Bool)
  | 0 => return []
  | num + 1 => do
    let answer ← ask
    return answer :: (← asks num)

def access : Fn ρ Unit := do
  match (← get).memory with
  | .null => goWrong .null
  | .there => return
  | .freed => goWrong .freed

def AcmDevice.setLocked (acm : AcmDevice) (locked : Bool) : AcmDevice := { acm with gadget.port.locked := locked }

def osalMutexLock : Fn ρ Unit := do
  access
  let acm ← get
  if acm.gadget.port.locked then goWrong .portLock else set (acm.setLocked true)

def osalMutexUnlock : Fn ρ Unit := modify fun acm => acm.setLocked false

def onPort (f : UInt16 → Port → Controller → α × Port × Controller) : Fn ρ α := do
  let acm ← get
  let (a, state) := f acm.gadget.maxIn acm.gadget.port acm.gadget.controller
  set { acm with gadget := acm.gadget.with state }
  return a

/-- `UsbFnSubmitRequestAsync` for the notification. -/
def submitNotification (notification : CdcNotification) : Fn ρ Unit := do
  if ← ask then
    modify fun acm => { acm with notifier.inFlight := true, notifier.submitted := some notification }
  else modify fun acm => { acm with notifier.notifyReq := true }

/-- `AcmNotifySerialState`, under the lock of the device. -/
def notifySerialState : Fn ρ Unit := do
  let acm ← get
  if acm.notifier.lock then goWrong .deviceLock
  else if acm.notifier.notifyReq then
    modify fun acm => { acm with notifier.notifyReq := false, notifier.pending := false }
    match acm.notifier.acmSendNotifyRequest usbDdkCdcNotifySerialState 0 acm.notifier.serialState with
    | none => return
    | some notification => submitNotification notification
  else modify fun acm => { acm with notifier.pending := true }

def notifyMethod (method : NotifyMethod) : Fn ρ Unit := do
  let acm ← get
  provided acm.notify do
    modify fun acm => { acm with notifier.serialState := method.state acm.notifier.serialState }
    notifySerialState

def openLocked : Fn Unit Unit := do
  check (← onPort fun _ => allocFifos) ()
  let acm ← get
  if acm.gadget.port.acm then
    if !acm.gadget.port.suspended then
      check (← onPort usbSerialStartIo) ()
      notifyMethod .connect
    else modify fun acm => { acm with gadget.port.startDelayed := true }

def usbSerialOpen : Fn Int32 Int32 := do
  check ((← get).memory ≠ .null) HDF_ERR_INVALID_PARAM
  modify fun acm => { acm with gadget.inFifo := true }
  osalMutexLock
  let _ ← call openLocked
  osalMutexUnlock
  return HDF_SUCCESS

def usbSerialClose : Fn Int32 Int32 := do
  check ((← get).memory ≠ .null) HDF_ERR_INVALID_PARAM
  osalMutexLock
  let acm ← get
  provided (acm.gadget.port.acm && !acm.gadget.port.suspended) (notifyMethod .disconnect)
  modify fun acm => { acm with
    gadget.port.writeFifo := acm.gadget.port.writeFifo.reset
    gadget.port.readFifo := acm.gadget.port.readFifo.reset
    gadget.port.startDelayed := false }
  osalMutexUnlock
  return HDF_SUCCESS

/-- The loop of `UsbSerialRead`: the string, or the code when there is none. -/
def readFifoString : Nat → List UInt8 → DataFifo → Except Int32 (List UInt8) × DataFifo
  | 0, before, fifo => (.ok before, fifo)
  | rounds + 1, before, fifo =>
    match fifo.read 1 with
    | ([], fifo) => (.error HDF_ERR_IO, fifo)
    | (byte :: _, fifo) =>
      if byte = 0 then (if before = [] then .error HDF_SUCCESS else .ok before, fifo)
      else readFifoString rounds (before ++ [byte]) fifo

def takeFifoString (port : Port) (c : Controller) : Except Int32 (List UInt8) × Port × Controller :=
  let (string, fifo) := readFifoString port.readFifo.len.toNat [] port.readFifo
  (string, { port with readFifo := fifo }, c)

def replies (code : Int32) : Fn ρ Int32 := do
  let written ← ask
  return if written then HDF_SUCCESS else code

def replyString : Except Int32 (List UInt8) → Fn ρ Int32
  | .error code => return code
  | .ok _ => replies HDF_ERR_IO

def usbSerialRead : Fn Int32 Int32 := do
  osalMutexLock
  provided (← get).gadget.port.readFifo.isEmpty do
    osalMutexUnlock
    fail 0
  provided (!(← ask)) do
    osalMutexUnlock
    fail HDF_ERR_MALLOC_FAIL
  let ret ← replyString (← onPort fun _ => takeFifoString)
  provided (← get).gadget.port.acm (onPort fun _ port c => ((), usbSerialStartRx port c))
  osalMutexUnlock
  return ret

def putFifoString (tmp : List UInt8) (port : Port) (c : Controller) : UInt32 × Port × Controller :=
  let (size, fifo) := port.writeFifo.write tmp (UInt32.ofNat tmp.length)
  (size, { port with writeFifo := fifo }, c)

/-- `UsbSerialWrite` from where its string is copied. -/
def writeString (tmp : List UInt8) : Fn Int32 Int32 := do
  let size ← onPort fun _ => putFifoString tmp
  provided (← get).gadget.port.acm (onPort fun maxIn port c => ((), usbSerialStartTx maxIn port c))
  osalMutexUnlock
  return size.toInt32

def usbSerialWrite (data : Payload) : Fn Int32 Int32 := do
  osalMutexLock
  match data.strings.head? with
  | none => fail HDF_ERR_IO
  | some tmp =>
    check (← ask) HDF_ERR_IO
    check (tmp.length + 1 ≤ stringMaxLen) HDF_ERR_IO
    writeString tmp

def usbSerialGetBaudrate : Fn Int32 Int32 := do
  access
  replies HDF_ERR_IO

/-- The size of the buffer is not looked at. -/
def usbSerialSetBaudrate (data : Payload) : Fn Int32 Int32 := do
  match data.buffer with
  | none => fail HDF_ERR_IO
  | some bytes =>
    provided (bytes.length < 4) (goWrong .short)
    access
    let rate := (LineCoding.ofBytes bytes).dwDTERate
    modify fun acm => { acm with
      control.portLineCoding.dwDTERate := rate
      control.lineCoding.dwDTERate := if acm.gadget.port.acm then rate else acm.control.lineCoding.dwDTERate }
    return HDF_SUCCESS

def usbSerialGetProp (data : Payload) : Fn Int32 Int32 := do
  check data.strings.head?.isSome HDF_ERR_IO
  check (← ask) HDF_ERR_IO
  replies HDF_ERR_IO

def usbSerialSetProp (data : Payload) : Fn Int32 Int32 := do
  match data.strings with
  | _ :: propValue :: _ =>
    check (propValue.length ≤ usbMaxPacketSize - 1) HDF_FAILURE
    replies HDF_ERR_IO
  | _ => fail HDF_ERR_IO

def usbSerialRegistProp (data : Payload) : Fn Int32 Int32 := do
  check (2 ≤ data.strings.length) HDF_ERR_IO
  replies HDF_ERR_IO

def startThread : Fn Int32 Int32 := do
  check (← ask) HDF_ERR_DEVICE_BUSY
  replies HDF_ERR_DEVICE_BUSY

def usbSerialSpeed : Fn Int32 Int32 := do
  let _ ← call startThread
  return HDF_SUCCESS

def usbSerialSpeedDone : Fn Int32 Int32 := do
  modify fun acm => { acm with isWriteDone := true }
  return HDF_SUCCESS

def usbSerialReadSpeedStart : Fn Int32 Int32 := do
  modify fun acm => { acm with gadget.inFifo := false, isStartRead := true }
  startThread

def usbSerialReadSpeedDone : Fn Int32 Int32 := do
  modify fun acm => { acm with isReadDone := true, isStartRead := false }
  return HDF_SUCCESS

/-- The speeds are replied as a `float` or as a number. -/
def usbSerialGetTempSpeed : Fn Int32 Int32 := replies HDF_FAILURE

def acmSerialCmd (cmd : Option UsbSerialCmd) (data : Payload) : Fn Int32 Int32 :=
  match cmd with
  | some .open => usbSerialOpen
  | some .close => usbSerialClose
  | some .read => usbSerialRead
  | some .write => usbSerialWrite data
  | some .getBaudrate => usbSerialGetBaudrate
  | some .setBaudrate => usbSerialSetBaudrate data
  | some .setProp => usbSerialSetProp data
  | some .getProp => usbSerialGetProp data
  | some .registProp => usbSerialRegistProp data
  | some .writeSpeed => usbSerialSpeed
  | some .writeGetTempSpeed => usbSerialGetTempSpeed
  | some .writeSpeedDone => usbSerialSpeedDone
  | some .writeGetTempSpeedUint32 => usbSerialGetTempSpeed
  | some .readSpeed => usbSerialReadSpeedStart
  | some .readGetTempSpeed => usbSerialGetTempSpeed
  | some .readSpeedDone => usbSerialReadSpeedDone
  | some .readGetTempSpeedUint32 => usbSerialGetTempSpeed
  | some .init | some .release | none => return HDF_ERR_NOT_SUPPORT

/-! ### Making and freeing the port -/

/-- The pool of a device that was never set up is no list. -/
def freeCtrlRequests : Fn ρ Unit := do
  let acm ← get
  if acm.ctrlHead then set { acm with control := acm.control.acmFreeCtrlRequests } else goWrong .null

def acmReleaseFuncDevice : Fn ρ Unit := do
  provided (← get).fnDev do
    freeCtrlRequests
    let freed ← ask
    modify fun acm => { acm with notifier.notifyReq := !freed && acm.notifier.notifyReq }

/-- The pointer to the port stays. -/
def usbSerialFree : Fn ρ Unit := do
  let acm ← get
  match acm.memory with
  | .null => return
  | .there => set { acm with memory := .freed }
  | .freed => goWrong .freed

def newLineCoding : LineCoding := ⟨9600, 0, 0, 8⟩

def AcmDevice.newPort (acm : AcmDevice) : AcmDevice :=
  { acm with
    memory := .there
    gadget.port := (Gadget.start acm.gadget.maxIn acm.gadget.inFifo acm.gadget.controller.answers).port
    control.portLineCoding := newLineCoding }

def usbSerialAlloc : Fn Bool Bool := do
  check (← ask) false
  check (← ask) false
  modify AcmDevice.newPort
  return true

def allocCtrlRequests : Fn ρ Bool := do
  let answers ← asks (2 * ctrlRequestNum)
  let answer := fun i => answers.getD i false
  modify fun acm => { acm with
    ctrlHead := true
    control := acm.control.acmAllocCtrlRequests (fun i => (answer (2 * i), answer (2 * i + 1))) ctrlRequestNum }
  return (← get).control.ctrlPool ≠ []

def allocNotifyRequest : Fn ρ Bool := do
  let allocated ← ask
  modify fun acm => { acm with notifier.notifyReq := allocated }
  return allocated

/-- What `UsbSerialInit` makes after the function device. -/
def setUp : Fn Bool Bool := do
  check (← call usbSerialAlloc) false
  check (← allocCtrlRequests) false
  check (← allocNotifyRequest) false
  ask

def usbSerialInit : Fn Int32 Int32 := do
  check (!(← get).initFlag) HDF_FAILURE
  check (← ask) HDF_FAILURE
  check (← ask) HDF_FAILURE
  modify fun acm => { acm with fnDev := true }
  if ← call setUp then
    modify fun acm => { acm with notify := true, initFlag := true }
    return HDF_SUCCESS
  else
    usbSerialFree
    acmReleaseFuncDevice
    return HDF_FAILURE

def usbSerialRelease : Fn Int32 Int32 := do
  check (← get).initFlag HDF_FAILURE
  acmReleaseFuncDevice
  usbSerialFree
  modify fun acm => { acm with initFlag := false }
  return 0

/-- `client` says whether the client is there, with its device and its service. -/
def acmDeviceDispatch (client : Bool) (cmd : Int32) (data : Payload) : Fn Int32 Int32 := do
  check client HDF_ERR_INVALID_OBJECT
  check data.interfaceDesc HDF_ERR_INVALID_PARAM
  match UsbSerialCmd.ofCode cmd with
  | some .init => usbSerialInit
  | some .release => usbSerialRelease
  | cmd => do
    check ((← get).memory ≠ .null) HDF_ERR_IO
    acmSerialCmd cmd data

/-- `AcmEnable` when the fifos are there. -/
def startEnabled : Fn Int32 Int32 := do
  let _ ← onPort usbSerialStartIo
  notifyMethod .connect
  osalMutexUnlock
  return HDF_SUCCESS

def acmEnable : Fn Int32 Int32 := do
  check ((← get).memory ≠ .null) HDF_FAILURE
  osalMutexLock
  modify fun acm => { acm with gadget.port.acm := true, control.lineCoding := acm.control.portLineCoding }
  check (← onPort fun _ => allocFifos) HDF_FAILURE
  startEnabled

def acmDisable : Fn Int32 Int32 := do
  check ((← get).memory ≠ .null) HDF_FAILURE
  osalMutexLock
  modify fun acm => { acm with
    control.portLineCoding := acm.control.lineCoding
    gadget.port.writeFifo := .init 0 []
    gadget.port.readFifo := .init 0 [] }
  osalMutexUnlock
  return HDF_SUCCESS

/-- `AcmSetup` with a request and a setup packet. -/
def replySetup (setup : CtrlSetup) (req : CtrlRequest) (control : Control) : Fn ρ Unit := do
  provided (setup.request = usbDdkCdcReqGetLineCoding && control.lineCoding.dwDTERate = 0) access
  match control.acmReply req setup with
  | (none, control) => modify fun acm => { acm with control := control }
  | (some _, _) =>
    let submitted ← ask
    modify fun acm => { acm with control := acm.control.acmSetup setup submitted }

def setupPacket (setup : CtrlSetup) : Fn ρ Unit := do
  let acm ← get
  if acm.ctrlHead then
    match acm.control.acmGetCtrlReq with
    | (none, _) => return
    | (some req, control) => replySetup setup req control
  else goWrong .null

def acmSuspend : Fn Unit Unit := do
  check ((← get).memory ≠ .null) ()
  osalMutexLock
  modify fun acm => { acm with gadget.port.suspended := true }
  osalMutexUnlock

def acmResume : Fn Unit Unit := do
  check ((← get).memory ≠ .null) ()
  osalMutexLock
  modify fun acm => { acm with gadget.port.suspended := false }
  provided (!(← get).gadget.port.startDelayed) do
    osalMutexUnlock
    fail ()
  let _ ← onPort usbSerialStartIo
  notifyMethod .connect
  modify fun acm => { acm with gadget.port.startDelayed := false }
  osalMutexUnlock

/-- There may be no event, or none with a device. -/
def usbAcmEventCallback (event : Option FnEvent) : Fn Unit Unit := do
  match event with
  | none => fail ()
  | some .bind | some .unbind | some .other | some (.setup none) => return
  | some .enable =>
    let _ ← call acmEnable
  | some .disable =>
    let _ ← call acmDisable
    modify fun acm => { acm with enableEvtCnt := 0 }
  | some (.setup (some setup)) => setupPacket setup
  | some .suspend => acmSuspend
  | some .resume => acmResume

end

/-! ### What leaves the lock alone -/

def AcmDevice.locked (acm : AcmDevice) : Bool := acm.gadget.port.locked

section
variable {ρ α : Type} {early : ρ → Prop}

def Quiet (early : ρ → Prop) (p : Fn ρ α) : Prop := Leaves AcmDevice.locked (· ≠ .portLock) early p

theorem startTx_locked (maxIn : UInt16) (rounds : Nat) (port : Port) (c : Controller) :
    (startTx maxIn rounds port c).1.locked = port.locked := by
  induction rounds generalizing port c with
  | zero => rfl
  | succ rounds ih =>
    rw [startTx]
    split
    · rfl
    · split
      · rfl
      · dsimp only
        split
        · rfl
        · split
          · rfl
          · rw [ih]

@[simp] theorem usbSerialStartTx_locked (maxIn : UInt16) (port : Port) (c : Controller) :
    (usbSerialStartTx maxIn port c).1.locked = port.locked := by
  rw [usbSerialStartTx]
  split
  · exact startTx_locked ..
  · rfl

theorem startRx_locked (rounds : Nat) (port : Port) (c : Controller) : (startRx rounds port c).1.locked = port.locked := by
  induction rounds generalizing port c with
  | zero => rfl
  | succ rounds ih =>
    rw [startRx]
    split
    · rfl
    · split
      · rfl
      · split
        · rfl
        · rw [ih]

@[simp] theorem usbSerialStartRx_locked (port : Port) (c : Controller) : (usbSerialStartRx port c).1.locked = port.locked :=
  startRx_locked ..

@[simp] theorem startAllocated_locked (maxIn : UInt16) (port : Port) (c : Controller) :
    (startAllocated maxIn port c).2.1.locked = port.locked := by
  rw [startAllocated]
  dsimp only
  split
  · rw [usbSerialStartTx_locked, usbSerialStartRx_locked]
  · simp [freeReadRequests, freeWriteRequests]

@[simp] theorem ensureReads_locked (port : Port) (c : Controller) : (ensureReads port c).2.1.locked = port.locked := by
  rw [ensureReads]
  split <;> rfl

@[simp] theorem ensureWrites_locked (port : Port) (c : Controller) : (ensureWrites port c).2.1.locked = port.locked := by
  rw [ensureWrites]
  split <;> rfl

theorem usbSerialStartIo_locked (maxIn : UInt16) (port : Port) (c : Controller) :
    (usbSerialStartIo maxIn port c).2.1.locked = port.locked := by
  have reads := ensureReads_locked port c
  rw [usbSerialStartIo]
  split
  · next made => simpa [made] using reads
  · next port₁ c₁ made =>
    have writes := ensureWrites_locked port₁ c₁
    have first : port₁.locked = port.locked := by simpa [made] using reads
    split
    · next port₂ c₂ made₁ =>
      have second : port₂.locked = port₁.locked := by simpa [made₁] using writes
      simp [freeReadRequests, second, first]
    · next port₂ c₂ made₁ =>
      have second : port₂.locked = port₁.locked := by simpa [made₁] using writes
      rw [startAllocated_locked, second, first]

theorem allocFifos_locked (port : Port) (c : Controller) : (allocFifos port c).2.1.locked = port.locked := by
  rw [allocFifos]
  split <;> rfl

theorem quiet_ask : Quiet early (ask : Fn ρ Bool) := fun _ => rfl

theorem quiet_asks (num : Nat) : Quiet early (asks num : Fn ρ (List Bool)) := by
  induction num with
  | zero => exact leaves_pure
  | succ num ih => exact .bind quiet_ask fun _ => .bind ih fun _ => leaves_pure

theorem quiet_access : Quiet early (access : Fn ρ Unit) := by
  refine .bind leaves_get fun acm => ?_
  split
  · exact leaves_goWrong (by decide)
  · exact leaves_pure
  · exact leaves_goWrong (by decide)

theorem quiet_onPort {f : UInt16 → Port → Controller → α × Port × Controller}
    (same : ∀ maxIn port c, (f maxIn port c).2.1.locked = port.locked) : Quiet early (onPort f : Fn ρ α) :=
  fun acm => same acm.gadget.maxIn acm.gadget.port acm.gadget.controller

theorem quiet_notifySerialState : Quiet early (notifySerialState : Fn ρ Unit) := by
  refine .bind leaves_get fun acm => ?_
  split
  · exact leaves_goWrong (by decide)
  · split
    · refine .bind (leaves_modify fun _ => rfl) fun _ => ?_
      split
      · exact leaves_pure
      · refine .bind quiet_ask fun accepted => ?_
        cases accepted with
        | false => exact leaves_modify fun _ => rfl
        | true => exact leaves_modify fun _ => rfl
    · exact leaves_modify fun _ => rfl

theorem quiet_notifyMethod (method : NotifyMethod) : Quiet early (notifyMethod method : Fn ρ Unit) :=
  .bind leaves_get fun _ => leaves_provided (.bind (leaves_modify fun _ => rfl) fun _ => quiet_notifySerialState)

theorem quiet_replies (code : Int32) : Quiet early (replies code : Fn ρ Int32) := .bind quiet_ask fun _ => leaves_pure

theorem quiet_replyString (string : Except Int32 (List UInt8)) : Quiet early (replyString string : Fn ρ Int32) := by
  cases string with
  | error code => exact leaves_pure
  | ok bytes => exact quiet_replies HDF_ERR_IO

theorem quiet_getBaudrate : Quiet (fun _ => True) usbSerialGetBaudrate :=
  .bind quiet_access fun _ => quiet_replies HDF_ERR_IO

theorem quiet_setBaudrate (data : Payload) : Quiet (fun _ => True) (usbSerialSetBaudrate data) := by
  rw [usbSerialSetBaudrate]
  split
  · exact leaves_fail trivial
  · refine .bind (leaves_provided (leaves_goWrong (by decide))) fun _ => ?_
    refine .bind quiet_access fun _ => ?_
    exact .bind (leaves_modify fun _ => rfl) fun _ => leaves_pure

theorem quiet_getProp (data : Payload) : Quiet (fun _ => True) (usbSerialGetProp data) :=
  .bind (leaves_check trivial) fun _ => .bind quiet_ask fun _ => .bind (leaves_check trivial) fun _ => quiet_replies HDF_ERR_IO

theorem quiet_setProp (data : Payload) : Quiet (fun _ => True) (usbSerialSetProp data) := by
  rw [usbSerialSetProp]
  split
  · exact .bind (leaves_check trivial) fun _ => quiet_replies HDF_ERR_IO
  · exact leaves_fail trivial

theorem quiet_registProp (data : Payload) : Quiet (fun _ => True) (usbSerialRegistProp data) :=
  .bind (leaves_check trivial) fun _ => quiet_replies HDF_ERR_IO

theorem quiet_startThread : Quiet (fun _ => True) startThread :=
  .bind quiet_ask fun _ => .bind (leaves_check trivial) fun _ => quiet_replies HDF_ERR_DEVICE_BUSY

theorem quiet_speed : Quiet (fun _ => True) usbSerialSpeed := .bind quiet_startThread.call fun _ => leaves_pure

theorem quiet_speedDone : Quiet (fun _ => True) usbSerialSpeedDone := .bind (leaves_modify fun _ => rfl) fun _ => leaves_pure

theorem quiet_readSpeedStart : Quiet (fun _ => True) usbSerialReadSpeedStart :=
  .bind (leaves_modify fun _ => rfl) fun _ => quiet_startThread

theorem quiet_readSpeedDone : Quiet (fun _ => True) usbSerialReadSpeedDone :=
  .bind (leaves_modify fun _ => rfl) fun _ => leaves_pure

theorem quiet_freeCtrlRequests : Quiet early (freeCtrlRequests : Fn ρ Unit) := by
  intro acm
  rw [freeCtrlRequests, needs_bind, needs_get]
  dsimp only [before_last]
  split
  · rfl
  · exact leaves_goWrong (by decide) acm

theorem quiet_acmReleaseFuncDevice : Quiet early (acmReleaseFuncDevice : Fn ρ Unit) := by
  refine .bind leaves_get fun _ => leaves_provided ?_
  exact .bind quiet_freeCtrlRequests fun _ => .bind quiet_ask fun _ => leaves_modify fun _ => rfl

theorem quiet_usbSerialFree : Quiet early (usbSerialFree : Fn ρ Unit) := by
  intro acm
  rw [usbSerialFree, needs_bind, needs_get]
  dsimp only [before_last]
  split
  · rfl
  · rfl
  · exact leaves_goWrong (by decide) acm

theorem quiet_usbSerialRelease : Quiet (fun _ => True) usbSerialRelease := by
  refine .bind leaves_get fun _ => .bind (leaves_check trivial) fun _ => ?_
  refine .bind quiet_acmReleaseFuncDevice fun _ => .bind quiet_usbSerialFree fun _ => ?_
  exact .bind (leaves_modify fun _ => rfl) fun _ => leaves_pure

theorem quiet_allocCtrlRequests : Quiet early (allocCtrlRequests : Fn ρ Bool) := by
  refine .bind (quiet_asks _) fun _ => .bind (leaves_modify fun _ => rfl) fun _ => ?_
  exact .bind leaves_get fun _ => leaves_pure

theorem quiet_allocNotifyRequest : Quiet early (allocNotifyRequest : Fn ρ Bool) :=
  .bind quiet_ask fun _ => .bind (leaves_modify fun _ => rfl) fun _ => leaves_pure

theorem quiet_setupPacket (setup : CtrlSetup) : Quiet early (setupPacket setup : Fn ρ Unit) := by
  refine .bind leaves_get fun acm => ?_
  split
  · split
    · exact leaves_pure
    · refine .bind (leaves_provided quiet_access) fun _ => ?_
      split
      · exact leaves_modify fun _ => rfl
      · exact .bind quiet_ask fun _ => leaves_modify fun _ => rfl
  · exact leaves_goWrong (by decide)

end

/-! ### What takes the lock and gives it back -/

section
variable {ρ α β : Type}

def freeAtEnd : Ends Fault ρ AcmDevice α :=
  ⟨fun fault _ => fault ≠ .portLock, fun _ acm => acm.locked = false, fun _ acm => acm.locked = false⟩

def Clean (p : Fn ρ α) : Prop := ∀ acm : AcmDevice, acm.locked = false → Needs p freeAtEnd acm

def Unlocks (p : Fn ρ α) : Prop := ∀ acm : AcmDevice, acm.locked = true → Needs p freeAtEnd acm

variable {p : Fn ρ α}

theorem Clean.bind {q : α → Fn ρ β} (first : Clean p) (rest : ∀ a, Clean (q a)) : Clean (p >>= q) :=
  fun acm free => Needs.bind (first acm free) fun a t free => rest a t free

theorem Clean.call {ρ' : Type} {p : Fn ρ ρ} (clean : Clean p) : Clean (call p : Fn ρ' ρ) := by
  intro acm free
  rw [needs_call]
  exact clean acm free

theorem Quiet.clean (quiet : Quiet (fun _ => True) p) : Clean p := by
  intro acm free
  exact quiet.needs (fun _ _ h => h) (fun _ _ _ same => same.trans free) (fun _ _ same => same.trans free)

theorem Unlocks.after {q : α → Fn ρ β} (quiet : Quiet (fun _ => False) p) (rest : ∀ a, Unlocks (q a)) : Unlocks (p >>= q) := by
  intro acm held
  rw [needs_bind]
  exact quiet.needs (fun _ _ h => h) (fun _ _ h => h.elim) (fun a t same => rest a t (same.trans held))

theorem unlocks_unlock : Unlocks (osalMutexUnlock : Fn ρ Unit) := fun _ _ => rfl

variable {q : Unit → Fn ρ α}

theorem unlocks_then (rest : Clean (q ())) : Unlocks (osalMutexUnlock >>= q) :=
  fun acm _ => rest (acm.setLocked false) rfl

theorem Unlocks.unless {c : Bool} {r : ρ} (rest : Unlocks (q ())) :
    Unlocks (provided c (osalMutexUnlock >>= fun _ => fail r) >>= q) := by
  intro acm held
  rw [needs_bind, needs_provided]
  cases c with
  | false => exact rest acm held
  | true => exact (rfl : (acm.setLocked false).locked = false)

theorem needs_lock {ends : Ends Fault ρ AcmDevice Unit} {acm : AcmDevice} (free : acm.locked = false) :
    Needs osalMutexLock ends acm ↔
      match acm.memory with
      | .null => ends.wrong .null acm
      | .there => ends.last () (acm.setLocked true)
      | .freed => ends.wrong .freed acm := by
  have open_ : acm.gadget.port.locked = false := free
  rw [osalMutexLock, access, needs_bind, needs_bind, needs_get]
  cases memory : acm.memory with
  | null => simp [memory]
  | there => simp [memory, open_]
  | freed => simp [memory]

theorem clean_lock (rest : Unlocks (q ())) : Clean (osalMutexLock >>= q) := by
  intro acm free
  rw [needs_bind, needs_lock free]
  cases acm.memory with
  | null => exact (by decide : Fault.null ≠ .portLock)
  | there => exact rest (acm.setLocked true) rfl
  | freed => exact (by decide : Fault.freed ≠ .portLock)

theorem quiet_openLocked : Quiet (fun _ => True) openLocked := by
  refine .bind (quiet_onPort fun _ => allocFifos_locked) fun _ => .bind (leaves_check trivial) fun _ => ?_
  refine .bind leaves_get fun acm => ?_
  split
  · split
    · refine .bind (quiet_onPort usbSerialStartIo_locked) fun _ => .bind (leaves_check trivial) fun _ => ?_
      exact quiet_notifyMethod .connect
    · exact leaves_modify fun _ => rfl
  · exact leaves_pure

theorem clean_get : Clean (get : Fn ρ AcmDevice) := fun _ free => free

theorem clean_pure {a : α} : Clean (pure a : Fn ρ α) := fun _ free => free

theorem clean_check {c : Bool} {r : ρ} : Clean (check c r) := Quiet.clean (leaves_check trivial)

theorem clean_open : Clean usbSerialOpen := by
  refine .bind clean_get fun _ => .bind clean_check fun _ => ?_
  refine .bind (fun _ free => free) fun _ => clean_lock ?_
  exact .after quiet_openLocked.call fun _ => unlocks_then clean_pure

theorem clean_close : Clean usbSerialClose := by
  refine .bind clean_get fun _ => .bind clean_check fun _ => clean_lock ?_
  refine .after leaves_get fun _ => .after (leaves_provided (quiet_notifyMethod .disconnect)) fun _ => ?_
  exact .after (leaves_modify fun _ => rfl) fun _ => unlocks_then clean_pure

theorem clean_read : Clean usbSerialRead := by
  refine clean_lock (.after leaves_get fun _ => .unless ?_)
  refine .after quiet_ask fun _ => .unless ?_
  refine .after (quiet_onPort fun _ _ _ => rfl) fun string => .after (quiet_replyString string) fun _ => ?_
  refine .after leaves_get fun _ => .after (leaves_provided ?_) fun _ => unlocks_then clean_pure
  exact quiet_onPort fun _ => usbSerialStartRx_locked

theorem unlocks_writeString (tmp : List UInt8) : Unlocks (writeString tmp) := by
  refine .after (quiet_onPort fun _ _ _ => rfl) fun _ => .after leaves_get fun _ => ?_
  refine .after (leaves_provided ?_) fun _ => unlocks_then clean_pure
  exact quiet_onPort usbSerialStartTx_locked

theorem unlocks_startEnabled : Unlocks startEnabled := by
  refine .after (quiet_onPort usbSerialStartIo_locked) fun _ => ?_
  exact .after (quiet_notifyMethod .connect) fun _ => unlocks_then clean_pure

theorem clean_disable : Clean acmDisable := by
  refine .bind clean_get fun _ => .bind clean_check fun _ => clean_lock ?_
  exact .after (leaves_modify fun _ => rfl) fun _ => unlocks_then clean_pure

theorem clean_suspend : Clean acmSuspend := by
  refine .bind clean_get fun _ => .bind clean_check fun _ => clean_lock ?_
  exact .after (leaves_modify fun _ => rfl) fun _ => unlocks_unlock

theorem clean_resume : Clean acmResume := by
  refine .bind clean_get fun _ => .bind clean_check fun _ => clean_lock ?_
  refine .after (leaves_modify fun _ => rfl) fun _ => .after leaves_get fun _ => .unless ?_
  refine .after (quiet_onPort usbSerialStartIo_locked) fun _ => .after (quiet_notifyMethod .connect) fun _ => ?_
  exact .after (leaves_modify fun _ => rfl) fun _ => unlocks_unlock

theorem clean_usbSerialAlloc : Clean usbSerialAlloc := by
  refine .bind (Quiet.clean quiet_ask) fun _ => .bind clean_check fun _ => ?_
  refine .bind (Quiet.clean quiet_ask) fun _ => .bind clean_check fun _ => ?_
  exact .bind (fun _ _ => rfl) fun _ => clean_pure

theorem clean_setUp : Clean setUp := by
  refine .bind clean_usbSerialAlloc.call fun _ => .bind clean_check fun _ => ?_
  refine .bind (Quiet.clean quiet_allocCtrlRequests) fun _ => .bind clean_check fun _ => ?_
  refine .bind (Quiet.clean quiet_allocNotifyRequest) fun _ => .bind clean_check fun _ => ?_
  exact Quiet.clean quiet_ask

theorem clean_init : Clean usbSerialInit := by
  refine .bind clean_get fun _ => .bind clean_check fun _ => ?_
  refine .bind (Quiet.clean quiet_ask) fun _ => .bind clean_check fun _ => ?_
  refine .bind (Quiet.clean quiet_ask) fun _ => .bind clean_check fun _ => ?_
  refine .bind (fun _ free => free) fun _ => .bind clean_setUp.call fun made => ?_
  cases made with
  | false =>
    refine .bind (Quiet.clean quiet_usbSerialFree) fun _ => .bind (Quiet.clean quiet_acmReleaseFuncDevice) fun _ => ?_
    exact clean_pure
  | true => exact .bind (fun _ free => free) fun _ => clean_pure

end

inductive Handler
  | dispatch (client : Bool) (cmd : Int32) (data : Payload)
  | event (event : Option FnEvent)
  deriving DecidableEq

def Handler.code : Handler → Fn Unit Unit
  | .dispatch client cmd data => do
    let _ ← call (acmDeviceDispatch client cmd data)
  | .event e => usbAcmEventCallback e

namespace AcmDevice

def ReturnsFree (acm : AcmDevice) (h : Handler) : Prop := Needs h.code freeAtEnd acm

def answer (acm : AcmDevice) (i : Nat) : Bool := acm.gadget.controller.answers (acm.gadget.controller.asked + i)

def CanWrite (acm : AcmDevice) (data : Payload) : Prop :=
  ∃ text, data.strings.head? = some text ∧ acm.answer 0 = true ∧ text.length + 1 ≤ stringMaxLen

def HasFifos (acm : AcmDevice) : Prop :=
  (acm.gadget.port.writeFifo.isInitialized = true ∨ acm.answer 0 = true) ∧
    (acm.gadget.port.readFifo.isInitialized = true ∨
      acm.answer (if acm.gadget.port.writeFifo.isInitialized then 0 else 1) = true)

/-- A string is written only if it can be, and the function is enabled only if there are fifos. -/
def Careful (acm : AcmDevice) : Handler → Prop
  | .dispatch client cmd data =>
    acm.memory = .there → client = true → data.interfaceDesc = true → UsbSerialCmd.ofCode cmd = some .write →
      acm.CanWrite data
  | .event event => acm.memory = .there → event = some .enable → acm.HasFifos

end AcmDevice

section
variable {acm : AcmDevice}

theorem needs_ask {ρ : Type} {ends : Ends Fault ρ AcmDevice Bool} : Needs ask ends acm ↔
    ends.last (acm.answer 0) { acm with gadget.controller := acm.gadget.controller.ask.2 } := Iff.rfl

theorem not_needs_fail (held : acm.locked = true) {ρ α : Type} (r : ρ) : ¬ Needs (fail r : Fn ρ α) freeAtEnd acm := by
  intro free
  exact absurd (held.symm.trans free) (by decide)

theorem needs_check_held (held : acm.locked = true) {ρ α : Type} {c : Bool} {r : ρ} {q : Unit → Fn ρ α} :
    Needs (check c r >>= q) freeAtEnd acm ↔ c = true ∧ Needs (q ()) freeAtEnd acm := by
  rw [needs_bind, needs_check]
  cases c with
  | false => simpa using not_needs_fail held (α := α) r
  | true => simp

theorem write_free_iff (free : acm.locked = false) {data : Payload} :
    Needs (usbSerialWrite data) freeAtEnd acm ↔ (acm.memory = .there → acm.CanWrite data) := by
  rw [usbSerialWrite, needs_bind, needs_lock free]
  cases memory : acm.memory with
  | null => simp [freeAtEnd]
  | freed => simp [freeAtEnd]
  | there =>
    rw [forall_prop_of_true rfl, AcmDevice.CanWrite, before_last]
    cases string : data.strings.head? with
    | none =>
      have held : (acm.setLocked true).locked = true := rfl
      simpa using not_needs_fail held (α := Int32) HDF_ERR_IO
    | some tmp =>
      let asked : AcmDevice := { acm.setLocked true with gadget.controller := acm.gadget.controller.ask.2 }
      have written : Needs (writeString tmp) freeAtEnd asked := unlocks_writeString tmp asked rfl
      have reached : Needs (do
          check (← ask) HDF_ERR_IO
          check (tmp.length + 1 ≤ stringMaxLen) HDF_ERR_IO
          writeString tmp) freeAtEnd (acm.setLocked true) ↔
            acm.answer 0 = true ∧ decide (tmp.length + 1 ≤ stringMaxLen) = true ∧ Needs (writeString tmp) freeAtEnd asked := by
        rw [needs_bind, needs_ask]
        have held : asked.locked = true := rfl
        exact (needs_check_held held).trans (and_congr_right fun _ => needs_check_held held)
      refine reached.trans ?_
      simp [written]

theorem allocFifo_iff {fifo : DataFifo} {size : UInt32} {c : Controller} :
    (usbSerialAllocFifo fifo size c).1 = true ↔ fifo.isInitialized = true ∨ c.answers c.asked = true := by
  rw [usbSerialAllocFifo]
  by_cases there : fifo.isInitialized = true
  · simp [there]
  · cases answer : c.answers c.asked <;> simp [there, answer, Controller.ask]

theorem allocFifos_iff (acm : AcmDevice) : (allocFifos acm.gadget.port acm.gadget.controller).1 = true ↔ acm.HasFifos := by
  rw [allocFifos, AcmDevice.HasFifos, AcmDevice.answer, AcmDevice.answer]
  by_cases there : acm.gadget.port.writeFifo.isInitialized = true
  · have first : usbSerialAllocFifo acm.gadget.port.writeFifo writeBufSize acm.gadget.controller =
        (true, acm.gadget.port.writeFifo, acm.gadget.controller) := by
      rw [usbSerialAllocFifo, if_pos there]
    simp [first, there, allocFifo_iff]
  · cases answer : acm.gadget.controller.answers acm.gadget.controller.asked with
    | false => simp [usbSerialAllocFifo, Controller.ask, there, answer]
    | true =>
      have first : usbSerialAllocFifo acm.gadget.port.writeFifo writeBufSize acm.gadget.controller =
          (true, .init writeBufSize (List.replicate writeBufSize.toNat 0),
            acm.gadget.controller.ask.2) := by
        simp [usbSerialAllocFifo, Controller.ask, there, answer]
      simp only [first, allocFifo_iff]
      simp [there, answer, Controller.ask]

theorem enable_free_iff (free : acm.locked = false) : Needs acmEnable freeAtEnd acm ↔ (acm.memory = .there → acm.HasFifos) := by
  rw [acmEnable, needs_bind, needs_get, before_last, needs_bind, needs_check]
  cases memory : acm.memory with
  | null => simpa [freeAtEnd] using free
  | freed => simp [needs_lock free, memory, freeAtEnd]
  | there =>
    let enabled : AcmDevice := { acm.setLocked true with
      gadget.port.acm := true
      control.lineCoding := acm.control.portLineCoding }
    let made := allocFifos enabled.gadget.port enabled.gadget.controller
    let there : AcmDevice := { enabled with gadget := enabled.gadget.with made.2 }
    have held : there.locked = true := allocFifos_locked enabled.gadget.port enabled.gadget.controller
    have checked : Needs (check made.1 HDF_FAILURE >>= fun _ => startEnabled) freeAtEnd there ↔ acm.HasFifos := by
      rw [needs_check_held held, allocFifos_iff enabled]
      exact and_iff_left (unlocks_startEnabled there held)
    simp only [ne_eq, reduceCtorEq, not_false_eq_true, decide_true, if_true, before_last, forall_const]
    rw [needs_bind, needs_lock free, memory]
    exact checked

theorem acmSerialCmd_clean {cmd : Option UsbSerialCmd} (other : cmd ≠ some .write) (data : Payload) :
    Clean (acmSerialCmd cmd data) := by
  rcases cmd with _ | cmd
  · exact clean_pure
  · cases cmd with
    | «open» => exact clean_open
    | close => exact clean_close
    | read => exact clean_read
    | write => exact absurd rfl other
    | getBaudrate => exact quiet_getBaudrate.clean
    | setBaudrate => exact (quiet_setBaudrate data).clean
    | setProp => exact (quiet_setProp data).clean
    | getProp => exact (quiet_getProp data).clean
    | registProp => exact (quiet_registProp data).clean
    | writeSpeed => exact quiet_speed.clean
    | writeSpeedDone => exact quiet_speedDone.clean
    | readSpeed => exact quiet_readSpeedStart.clean
    | readSpeedDone => exact quiet_readSpeedDone.clean
    | writeGetTempSpeed | writeGetTempSpeedUint32 | readGetTempSpeed | readGetTempSpeedUint32 =>
      exact Quiet.clean (quiet_replies HDF_FAILURE)
    | init | release => exact clean_pure

theorem dispatch_clean {cmd : Int32} (other : UsbSerialCmd.ofCode cmd ≠ some .write) (client : Bool) (data : Payload) :
    Clean (acmDeviceDispatch client cmd data) := by
  refine .bind clean_check fun _ => .bind clean_check fun _ => ?_
  split
  · exact clean_init
  · exact quiet_usbSerialRelease.clean
  · exact .bind clean_get fun _ => .bind clean_check fun _ => acmSerialCmd_clean other data

theorem dispatch_free_iff (free : acm.locked = false) {client : Bool} {cmd : Int32} {data : Payload} :
    Needs (acmDeviceDispatch client cmd data) freeAtEnd acm ↔ acm.Careful (.dispatch client cmd data) := by
  rw [AcmDevice.Careful]
  by_cases write : UsbSerialCmd.ofCode cmd = some .write
  · have sent : Needs (do
        check ((← get).memory ≠ .null) HDF_ERR_IO
        acmSerialCmd (some .write) data) freeAtEnd acm ↔ (acm.memory = .there → acm.CanWrite data) := by
      rw [needs_bind, needs_get, before_last, needs_bind, needs_check]
      cases memory : acm.memory with
      | null => simpa [freeAtEnd] using free
      | there | freed => simpa [acmSerialCmd, memory] using write_free_iff free
    rw [acmDeviceDispatch, needs_bind, needs_check, before_last, needs_bind, needs_check, before_last, write]
    cases client with
    | false => simpa [freeAtEnd] using free
    | true =>
      cases described : data.interfaceDesc with
      | false => simpa [freeAtEnd] using free
      | true => simpa using sent
  · constructor
    · intro _ _ _ _ asked
      exact absurd asked write
    · intro _
      exact dispatch_clean write client data acm free

theorem event_free_iff (free : acm.locked = false) {event : Option FnEvent} :
    Needs (usbAcmEventCallback event) freeAtEnd acm ↔ acm.Careful (.event event) := by
  rw [AcmDevice.Careful]
  by_cases enable : event = some .enable
  · subst enable
    rw [usbAcmEventCallback, needs_bind, needs_call]
    refine (enable_free_iff free).trans ?_
    simp
  · have clean : Clean (usbAcmEventCallback event) := by
      rcases event with _ | event
      · exact fun _ free => free
      · cases event with
        | bind | unbind | other => exact clean_pure
        | enable => exact absurd rfl enable
        | disable => exact .bind clean_disable.call fun _ => fun _ free => free
        | setup setup =>
          cases setup with
          | none => exact clean_pure
          | some setup => exact (quiet_setupPacket setup).clean
        | suspend => exact clean_suspend
        | resume => exact clean_resume
    exact iff_of_true (clean acm free) fun _ asked => absurd asked enable

/-- Of the handlers of a device whose port is not locked, exactly the careful ones return with the lock free. -/
theorem returnsFree_iff (free : acm.locked = false) (h : Handler) : acm.ReturnsFree h ↔ acm.Careful h := by
  cases h with
  | dispatch client cmd data =>
    rw [AcmDevice.ReturnsFree, Handler.code, needs_bind, needs_call]
    exact dispatch_free_iff free
  | event event => exact event_free_iff free

end

/-- A device that is set up and enabled, when all that it asks for is granted. -/
def AcmDevice.enabled : AcmDevice where
  initFlag := true
  notify := true
  fnDev := true
  ctrlHead := true
  enableEvtCnt := 0
  memory := .there
  gadget := { Gadget.start 512 true fun _ => true with
    port := { (Gadget.start 512 true fun _ => true).port with acm := true } }
  control := Control.start (fun _ => (true, true)) newLineCoding
  notifier := Notifier.start 0
  isStartRead := false
  isReadDone := false
  isWriteDone := false

/-- A command to write without a string. -/
theorem empty_write_not_returnsFree : ¬ AcmDevice.enabled.ReturnsFree (.dispatch true 3 ⟨true, [], none⟩) := by
  intro free
  have locked : (true : Bool) = false := free
  exact absurd locked (by decide)

theorem enabled_write_returnsFree : AcmDevice.enabled.ReturnsFree (.dispatch true 3 ⟨true, [[104, 105]], none⟩) :=
  (returnsFree_iff rfl _).mpr fun _ _ _ _ => ⟨[104, 105], rfl, rfl, by decide⟩

end Peripheral.Acm
