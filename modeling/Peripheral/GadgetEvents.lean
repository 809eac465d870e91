import Mathlib.Data.List.Range

/-!
The events of the USB gadget, from `usbfn_dev_mgr.c` and `usbfn_io_mgr.c`. The thread of a device collects the
descriptors of the functions and of the open interfaces, polls them, and looks each descriptor up again to hand its
events on. Between its steps, and in the callbacks, interfaces are opened and closed, reception is started and stopped,
and requests are made and freed.
-/
namespace Peripheral.UsbFnIo

def MAX_EP0_NUM := 5
def MAX_EP := 16
def MAX_REQUEST := 64

inductive Ret
  | success
  | invalidParam
  | io
  | deviceBusy
  deriving DecidableEq

structure Fd where
  number : Int
  opening : Nat
  deriving DecidableEq

def closed : Fd := ⟨-1, 0⟩

structure UsbFnReqEvent where
  buf : Nat
  actual : Nat
  status : Int
  deriving DecidableEq

inductive UsbEp0Event
  | invalid
  | ctrl (type : Nat) (setup : List UInt8)
  | ioCompleted (event : UsbFnReqEvent)
  deriving DecidableEq

/-- A request; `id` is its address, and `complete` whether it has a callback. -/
structure ReqList where
  id : Nat
  buf : Nat
  pipe : Nat
  fd : Int
  complete : Bool
  actual : Nat
  status : Int
  deriving DecidableEq

structure UsbFnFuncMgr where
  fd : Fd
  callback : Option Nat
  eventMask : Nat
  context : Nat
  reqEntry : List ReqList
  deriving DecidableEq

/-- A handle; `id` is its address, and its `numFd` is the number of descriptors. -/
structure UsbHandleMgr where
  id : Nat
  fds : List Fd
  reqEntry : List ReqList
  deriving DecidableEq

/-- `isOpen` is set and cleared with the handle. -/
structure UsbFnInterfaceMgr where
  funcMgr : Nat
  numPipes : Nat
  handle : Option UsbHandleMgr
  deriving DecidableEq

structure UsbFnDeviceMgr where
  numFunc : Nat
  funcMgr : Nat → UsbFnFuncMgr
  numInterfaces : Nat
  interfaceMgr : Nat → UsbFnInterfaceMgr
  devState : Nat
  next : Nat

/-- What comes of an event: a callback of a function or of a request is called, or memory is used that is not there. -/
inductive Gives
  | nothing
  | callback (func callback type : Nat) (setup : List UInt8) (context : Nat)
  | complete (request pipe actual : Nat) (status : Int)
  | fault
  deriving DecidableEq

def handleIoEvent (event : UsbFnReqEvent) (reqEntry : List ReqList) : Gives :=
  match reqEntry.find? (·.buf = event.buf) with
  | some r => if r.complete then .complete r.id r.pipe event.actual (-event.status) else .nothing
  | none => .nothing

def completed (event : UsbFnReqEvent) : List ReqList → List ReqList
  | [] => []
  | r :: rest =>
    if r.buf = event.buf then { r with actual := event.actual, status := -event.status } :: rest
    else r :: completed event rest

namespace UsbFnFuncMgr

/-- `HandleEp0CtrlEvent` and `HandleEp0IoEvent` for the function `i`. -/
def handleEp0Event (f : UsbFnFuncMgr) (i : Nat) : UsbEp0Event → Gives
  | .invalid => .nothing
  | .ctrl type setup =>
    if f.eventMask.testBit type then
      match f.callback with
      | some callback => .callback i callback type setup f.context
      | none => .nothing
    else .nothing
  | .ioCompleted event => handleIoEvent event f.reqEntry

end UsbFnFuncMgr

/-- A call of another thread or of a callback: on an interface, with the results of the calls of the adapter and of the
allocator, or on a request. A pipe that is opened has the number of its descriptor and the results of `queueInit` and
of the allocation of its events. -/
inductive Call
  | interfaceOpen (i : Nat) (malloc : Bool) (pipes : List (Int × Bool × Bool))
  | interfaceClose (i : Nat) (results : List (Bool × Bool))
  | startRecvEvent (i eventMask callback context : Nat) (number : Int) (queueInit : Bool)
  | stopRecvEvent (i : Nat) (queueDel closePipe : Bool)
  | requestAlloc (i pipe : Nat) (number : Int) (queueInit : Bool) (mapAddr : Option Nat) (malloc complete : Bool)
  | requestFree (request : Nat) (unmapAddr releaseBuf : Bool)
  deriving DecidableEq

/-- `HandleInit`: the descriptors of all pipes, or none if one fails. -/
def handleInit (next : Nat) : List (Int × Bool × Bool) → Option (List Fd)
  | [] => some []
  | (number, queueInit, malloc) :: rest =>
    if number ≤ 0 ∨ ¬ queueInit ∨ ¬ malloc then none else (handleInit (next + 1) rest).map (⟨number, next⟩ :: ·)

/-- The descriptors are closed one after the other, up to one that fails. -/
def closePipes : List (Bool × Bool) → List Fd → Bool × List Fd
  | _, [] => (true, [])
  | [], fds => (false, fds)
  | (queueDel, closePipe) :: results, fd :: fds =>
    if ¬ queueDel ∨ ¬ closePipe then (false, fd :: fds)
    else
      let (all, behind) := closePipes results fds
      (all, closed :: behind)

namespace UsbFnDeviceMgr

variable (d : UsbFnDeviceMgr)

def setFunc (i : Nat) (f : UsbFnFuncMgr) : UsbFnDeviceMgr := { d with funcMgr := Function.update d.funcMgr i f }

def setHandle (i : Nat) (handle : Option UsbHandleMgr) : UsbFnDeviceMgr :=
  { d with interfaceMgr := Function.update d.interfaceMgr i { d.interfaceMgr i with handle := handle } }

def handles : List UsbHandleMgr := (List.range d.numInterfaces).filterMap fun i => (d.interfaceMgr i).handle

def collectEventHandle : List Fd × List Fd :=
  let ep0 := (List.range d.numFunc).filter fun i => 0 < (d.funcMgr i).fd.number ∧ (d.funcMgr i).callback ≠ none
  (ep0.map fun i => (d.funcMgr i).fd, d.handles.flatMap fun handle => handle.fds.filter (0 < ·.number))

def getFuncMgr (ep0 : Int) : Option Nat :=
  match (List.range d.numFunc).find? fun i => (d.funcMgr i).fd.number = ep0 with
  | some i => some i
  | none => (List.range d.numFunc).getLast?

def getHandleMgr (epx : Int) : Option UsbHandleMgr :=
  match d.handles.find? fun handle => handle.fds.any (·.number = epx) with
  | some handle => some handle
  | none => d.handles.getLast?

/-- What `HandleEp0Event` leaves: the device state, or the request that it completed. -/
def handleEp0Event (i : Nat) : UsbEp0Event → UsbFnDeviceMgr
  | .invalid => d
  | .ctrl type _ => if (d.funcMgr i).eventMask.testBit type then { d with devState := type } else d
  | .ioCompleted event => d.setFunc i { d.funcMgr i with reqEntry := completed event (d.funcMgr i).reqEntry }

/-- What `HandleEpsIoEvent` leaves. -/
def handleEpsIoEvent (event : UsbFnReqEvent) (id : Nat) : UsbFnDeviceMgr :=
  match (List.range d.numInterfaces).find? fun i => (d.interfaceMgr i).handle.any (·.id = id) with
  | some i =>
    d.setHandle i ((d.interfaceMgr i).handle.map fun h => { h with reqEntry := completed event h.reqEntry })
  | none => d

def openEp0AndMapAddr (i : Nat) (number : Int) (queueInit : Bool) : Ret × UsbFnDeviceMgr :=
  let d := { d.setFunc i { d.funcMgr i with fd := ⟨number, d.next⟩ } with next := d.next + 1 }
  if number ≤ 0 then (.io, d) else if ¬ queueInit then (.io, d) else (.success, d)

/-- `UsbFnIoMgrInterfaceOpen`. -/
def interfaceOpen (i : Nat) (malloc : Bool) (pipes : List (Int × Bool × Bool)) : Option Nat × UsbFnDeviceMgr :=
  if (d.interfaceMgr i).handle ≠ none then (none, d)
  else if ¬ malloc then (none, d)
  else
    let later := { d with next := d.next + 1 + pipes.length }
    match handleInit (d.next + 1) pipes with
    | none => (none, later)
    | some fds => (some d.next, later.setHandle i (some ⟨d.next, fds, []⟩))

/-- `UsbFnIoMgrInterfaceClose` of the handle of an interface. -/
def interfaceClose (i : Nat) (results : List (Bool × Bool)) : Ret × UsbFnDeviceMgr :=
  match (d.interfaceMgr i).handle with
  | none => (.invalidParam, d)
  | some handle =>
    match closePipes results handle.fds with
    | (false, fds) => (.deviceBusy, d.setHandle i (some { handle with fds := fds }))
    | (true, _) => (.success, d.setHandle i none)

/-- `UsbFnMgrStartRecvEvent`. -/
def startRecvEvent (i eventMask callback context : Nat) (number : Int) (queueInit : Bool) : Ret × UsbFnDeviceMgr :=
  let f := (d.interfaceMgr i).funcMgr
  if (d.funcMgr f).callback ≠ none then (.invalidParam, d)
  else
    let d := d.setFunc f
      { d.funcMgr f with context := context, eventMask := eventMask, callback := some callback }
    if (d.funcMgr f).fd.number ≤ 0 then
      let (ret, d) := d.openEp0AndMapAddr f number queueInit
      if ret ≠ .success then (.io, d) else (.success, d)
    else (.success, d)

/-- `UsbFnStopRecvEvent`. -/
def stopRecvEvent (i : Nat) (queueDel closePipe : Bool) : Ret × UsbFnDeviceMgr :=
  let f := (d.interfaceMgr i).funcMgr
  if ¬ queueDel then (.deviceBusy, d)
  else if ¬ closePipe then (.deviceBusy, d)
  else (.success, d.setFunc f { d.funcMgr f with fd := closed, callback := none })

/-- The end of `UsbFnIoMgrRequestAlloc`, with the descriptor that it has found. -/
def insertRequest (i f pipe : Nat) (handle : UsbHandleMgr) (ep : Int) (mapAddr : Option Nat) (malloc complete : Bool) :
    Option Nat × UsbFnDeviceMgr :=
  match mapAddr with
  | none => (none, d)
  | some buf =>
    if ¬ malloc then (none, d)
    else
      let request : ReqList := ⟨d.next, buf, pipe, ep, complete, 0, 0⟩
      let later := { d with next := d.next + 1 }
      if pipe = 0 then
        (some d.next, later.setFunc f { d.funcMgr f with reqEntry := (d.funcMgr f).reqEntry ++ [request] })
      else (some d.next, later.setHandle i (some { handle with reqEntry := handle.reqEntry ++ [request] }))

/-- `UsbFnIoMgrRequestAlloc` with the handle of an interface. -/
def requestAlloc (i pipe : Nat) (number : Int) (queueInit : Bool) (mapAddr : Option Nat) (malloc complete : Bool) :
    Option Nat × UsbFnDeviceMgr :=
  match (d.interfaceMgr i).handle with
  | none => (none, d)
  | some handle =>
    let f := (d.interfaceMgr i).funcMgr
    if pipe = 0 then
      if (d.funcMgr f).fd.number ≤ 0 then
        match d.openEp0AndMapAddr f number queueInit with
        | (.success, d) => d.insertRequest i f pipe handle (d.funcMgr f).fd.number mapAddr malloc complete
        | (_, d) => (none, d)
      else d.insertRequest i f pipe handle (d.funcMgr f).fd.number mapAddr malloc complete
    else if pipe ≤ MAX_EP then
      d.insertRequest i f pipe handle (handle.fds.getD (pipe - 1) closed).number mapAddr malloc complete
    else (none, d)

def dropRequest (request : Nat) : UsbFnDeviceMgr :=
  { d with
    funcMgr := fun i => { d.funcMgr i with reqEntry := (d.funcMgr i).reqEntry.filter (·.id ≠ request) }
    interfaceMgr := fun i =>
      { d.interfaceMgr i with
        handle := (d.interfaceMgr i).handle.map fun h => { h with reqEntry := h.reqEntry.filter (·.id ≠ request) } } }

/-- `UsbFnIoMgrRequestFree`. -/
def requestFree (request : Nat) (unmapAddr releaseBuf : Bool) : Ret × UsbFnDeviceMgr :=
  if ¬ unmapAddr then (.deviceBusy, d)
  else if ¬ releaseBuf then (.invalidParam, d)
  else (.success, d.dropRequest request)

def perform : Call → UsbFnDeviceMgr
  | .interfaceOpen i malloc pipes => (d.interfaceOpen i malloc pipes).2
  | .interfaceClose i results => (d.interfaceClose i results).2
  | .startRecvEvent i eventMask callback context number queueInit =>
    (d.startRecvEvent i eventMask callback context number queueInit).2
  | .stopRecvEvent i queueDel closePipe => (d.stopRecvEvent i queueDel closePipe).2
  | .requestAlloc i pipe number queueInit mapAddr malloc complete =>
    (d.requestAlloc i pipe number queueInit mapAddr malloc complete).2
  | .requestFree request unmapAddr releaseBuf => (d.requestFree request unmapAddr releaseBuf).2

end UsbFnDeviceMgr

/-- Where the thread is in a round, with what it still has to look at. `handle` is the address that `GetHandleMgr` gave
for the descriptor at hand, and `j` counts its events. -/
inductive Thread
  | collect
  | poll (ep0 epx : List Fd)
  | ep0 (ep0 : List (Fd × UsbEp0Event)) (epx : List (Fd × List UsbFnReqEvent))
  | epx (epx : List (Fd × List UsbFnReqEvent))
  | events (fd : Fd) (handle j : Nat) (events : List UsbFnReqEvent) (epx : List (Fd × List UsbFnReqEvent))
  deriving DecidableEq

structure State where
  dev : UsbFnDeviceMgr
  thread : Thread

/-- A step of the thread, with what `pollEvent` finds if it polls; or a call. -/
inductive Event
  | thread (polled : Option (List UsbEp0Event × List (List UsbFnReqEvent)))
  | call (c : Call)

namespace State

/-- `UsbFnEventProcess`, from one look at a descriptor or an event to the next. -/
def threadStep (s : State) (polled : Option (List UsbEp0Event × List (List UsbFnReqEvent))) : State :=
  match s.thread with
  | .collect =>
    let (ep0, epx) := s.dev.collectEventHandle
    if ep0.length + epx.length = 0 then s else { s with thread := .poll ep0 epx }
  | .poll ep0 epx =>
    match polled with
    | none => { s with thread := .collect }
    | some (ep0Event, reqEvent) => { s with thread := .ep0 (ep0.zip ep0Event) (epx.zip reqEvent) }
  | .ep0 [] epx => { s with thread := .epx epx }
  | .ep0 ((fd, event) :: rest) epx =>
    match s.dev.getFuncMgr fd.number with
    | none => { s with thread := .epx epx }
    | some i => ⟨s.dev.handleEp0Event i event, .ep0 rest epx⟩
  | .epx [] => { s with thread := .collect }
  | .epx ((fd, events) :: rest) =>
    match s.dev.getHandleMgr fd.number with
    | none => { s with thread := .epx rest }
    | some handle => { s with thread := .events fd handle.id 0 events rest }
  | .events _ _ _ [] rest => { s with thread := .epx rest }
  | .events fd handle j (event :: events) rest =>
    ⟨s.dev.handleEpsIoEvent event handle, .events fd handle (j + 1) events rest⟩

def after (s : State) : Event → State
  | .thread polled => s.threadStep polled
  | .call c => { s with dev := s.dev.perform c }

end State

end Peripheral.UsbFnIo
