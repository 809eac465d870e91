import Mathlib.Logic.Function.Basic
import Peripheral.Faults
import Peripheral.Transitions

/-!
The interfaces and requests of the USB gadget, from `usbfn_io_mgr.c`, with everything that they take hold of: descriptors
and their queues, mapped buffers, and memory. A call takes or gives back one of these after the other, and each of its
steps may fail.
-/
namespace Peripheral.UsbFnIoMgr
open Faults Function

def MAX_EP := 16

/-- A descriptor, known by what opened it: a function, a handle for one of its pipes, or a question about a pipe. A number
    that is not positive is no descriptor. -/
inductive Fd
  | ep0 (f opening : Nat)
  | pipe (handle k : Nat)
  | query (opening : Nat)
  deriving DecidableEq

abbrev Events := Nat × Nat

structure UsbHandleMgr where
  numFd : UInt8
  fds : Nat → Option Fd
  reqEvent : Nat → Option Events
  intfMgr : Option Nat

inductive UsbPipeDirection
  | out
  | into
  deriving DecidableEq

inductive UsbFnRequestType
  | invalid
  | pipeWrite
  | pipeRead
  deriving DecidableEq

inductive ListHead
  | func (f : Nat)
  | handle (h : Nat)
  deriving DecidableEq

/-- A request. The buffer is none where `mmap` failed, which leaves no null pointer. -/
structure ReqList where
  entry : ListHead
  pipe : UInt8
  fd : Option Fd
  buf : Option Nat
  bufLen : UInt32
  handle : Nat
  length : UInt32
  type : UsbFnRequestType

structure UsbFnFuncMgr where
  fd : Option Fd
  callback : Bool

structure UsbFnInterfaceMgr where
  funcMgr : Nat
  numPipes : UInt8
  isOpen : Bool
  handle : Option Nat

/-- The open descriptors, each with whether it has a queue; the buffers that are mapped; and the memory that is in use. A list
    stays linked when the handle that it begins in is freed. -/
structure State where
  made : Nat
  descriptors : Fd → Option Bool
  mapped : Nat → Bool
  events : Events → Bool
  handles : Nat → Option UsbHandleMgr
  requests : Nat → Option ReqList
  reqEntry : ListHead → List Nat
  funcMgr : Nat → UsbFnFuncMgr
  interfaceMgr : Nat → UsbFnInterfaceMgr

inductive Fault
  | freed
  | twice
  | outside
  deriving DecidableEq

inductive Ret
  | success
  | invalidParam
  | io
  | deviceBusy
  deriving DecidableEq

inductive Result
  | opened (handle : Option Nat)
  | allocated (req : Option Nat)
  | ret (r : Ret)
  deriving DecidableEq

abbrev Io := Prog Fault Result State

namespace State

variable (s : State)

def putFd (d : Fd) (queue : Option Bool) : State := { s with descriptors := update s.descriptors d queue }
def putMapped (buf : Nat) (there : Bool) : State := { s with mapped := update s.mapped buf there }
def putEvents (e : Events) (there : Bool) : State := { s with events := update s.events e there }
def putHandle (h : Nat) (handle : Option UsbHandleMgr) : State := { s with handles := update s.handles h handle }
def putRequest (r : Nat) (req : Option ReqList) : State := { s with requests := update s.requests r req }
def putEntries (head : ListHead) (l : List Nat) : State := { s with reqEntry := update s.reqEntry head l }
def putFunc (f : Nat) (func : UsbFnFuncMgr) : State := { s with funcMgr := update s.funcMgr f func }
def putInterface (i : Nat) (intf : UsbFnInterfaceMgr) : State := { s with interfaceMgr := update s.interfaceMgr i intf }
def make : State := { s with made := s.made + 1 }

end State

/-- A pointer that `mapAddr` returns. -/
inductive MapAnswer
  | null
  | failed
  | mapped
  deriving DecidableEq

def openPipe (d : Fd) (opens : Bool) : Io (Option Fd) := do
  if opens then
    modify (·.putFd d (some false))
    pure (some d)
  else pure none

def queueInit (ep : Option Fd) (succeeds : Bool) : Io Bool := do
  match ep with
  | none => pure false
  | some d =>
    if succeeds then
      modify fun s => s.putFd d ((s.descriptors d).map fun _ => true)
      pure true
    else pure false

def queueDel (ep : Option Fd) (succeeds : Bool) : Io Bool := do
  match ep with
  | none => pure false
  | some d =>
    if succeeds then
      modify fun s => s.putFd d ((s.descriptors d).map fun _ => false)
      pure true
    else pure false

def closePipe (ep : Option Fd) (succeeds : Bool) : Io Bool := do
  match ep with
  | none => pure false
  | some d =>
    if !succeeds then pure false
    else if (← get).descriptors d = none then goWrong .twice
    else
      modify (·.putFd d none)
      pure true

/-- None for a null pointer, and no buffer for a pointer with nothing behind it. -/
def mapAddr (ep : Option Fd) (answer : MapAnswer) : Io (Option (Option Nat)) := do
  match ep, answer with
  | some _, .mapped =>
    let buf := (← get).made
    modify fun s => s.make.putMapped buf true
    pure (some (some buf))
  | some _, .failed => pure (some none)
  | _, _ => pure none

/-- `munmap` refuses what `mmap` returns where it fails. -/
def unmapAddr (buf : Option Nat) (succeeds : Bool) : Io Bool := do
  match buf with
  | none => pure false
  | some buf =>
    if !succeeds then pure false
    else if !(← get).mapped buf then goWrong .twice
    else
      modify (·.putMapped buf false)
      pure true

def releaseBuf (ep : Option Fd) (succeeds : Bool) : Bool := ep.isSome && succeeds

def handleAt (h : Nat) : Io UsbHandleMgr := do
  match (← get).handles h with
  | some handle => pure handle
  | none => goWrong .freed

def requestAt (r : Nat) : Io ReqList := do
  match (← get).requests r with
  | some req => pure req
  | none => goWrong .freed

def usbFnMemFree (events : Option Events) : Io Unit := do
  match events with
  | none => pure ()
  | some e =>
    if !(← get).events e then goWrong .twice
    else modify (·.putEvents e false)

/-- Whether a pipe is opened, its queue is set up, and there is memory for its events. -/
structure PipeAnswer where
  openPipe : Bool
  queueInit : Bool
  reqEvent : Bool

def PipeAnswer.all (o : PipeAnswer) : Bool := o.openPipe && o.queueInit && o.reqEvent

def freeEvents (handle : UsbHandleMgr) : (i : Nat) → Io Unit
  | 0 => pure ()
  | i + 1 => do
    freeEvents handle i
    usbFnMemFree (handle.reqEvent i)

/-- The pipes from the `k`th on. -/
def initPipes (h : Nat) (o : Nat → PipeAnswer) : (left k : Nat) → UsbHandleMgr → Io (Option UsbHandleMgr)
  | 0, _, handle => pure (some handle)
  | left + 1, k, handle =>
    if MAX_EP ≤ k then goWrong .outside
    else do
      let fd ← openPipe (.pipe h k) (o k).openPipe
      if fd = none then pure none
      else if !(← queueInit fd (o k).queueInit) then pure none
      else if !(o k).reqEvent then
        freeEvents handle k
        pure none
      else
        modify (·.putEvents (h, k) true)
        initPipes h o left (k + 1)
          { handle with fds := update handle.fds k fd, reqEvent := update handle.reqEvent k (some (h, k)) }

/-- The handle at `h`, if there is one after all. -/
def handleInit (h i : Nat) (o : Nat → PipeAnswer) : Io (Option UsbHandleMgr) := do
  let numPipes := ((← get).interfaceMgr i).numPipes
  match ← initPipes h o numPipes.toNat 0 ⟨numPipes, fun _ => none, fun _ => none, none⟩ with
  | none => pure none
  | some handle => pure (some { handle with intfMgr := some i })

/-- Whether there is memory for the handle, and what becomes of each pipe. -/
structure Opening where
  handle : Bool
  pipe : Nat → PipeAnswer

def usbFnIoMgrInterfaceOpen (interface : Option Nat) (o : Opening) : Io Result := do
  match interface with
  | none => pure (.opened none)
  | some i =>
    if ((← get).interfaceMgr i).isOpen then pure (.opened none)
    else if !o.handle then pure (.opened none)
    else
      let h := (← get).made
      modify (·.make)
      match ← handleInit h i o.pipe with
      | none => pure (.opened none)
      | some handle =>
        modify fun s => (s.putHandle h (some handle)).putInterface i { s.interfaceMgr i with isOpen := true, handle := some h }
        pure (.opened (some h))

structure CloseAnswer where
  queueDel : Bool
  closePipe : Bool

def CloseAnswer.all (o : CloseAnswer) : Bool := o.queueDel && o.closePipe

/-- Whether the pipes from the `k`th on are closed. -/
def closePipes (h : Nat) (o : Nat → CloseAnswer) : (left k : Nat) → Io Bool
  | 0, _ => pure true
  | left + 1, k => do
    let handle ← handleAt h
    if MAX_EP ≤ k then goWrong .outside
    else if !(← queueDel (handle.fds k) (o k).queueDel) then pure false
    else if !(← closePipe (handle.fds k) (o k).closePipe) then pure false
    else
      modify (·.putHandle h (some { handle with fds := update handle.fds k none }))
      usbFnMemFree (handle.reqEvent k)
      closePipes h o left (k + 1)

def usbFnIoMgrInterfaceClose (handle : Option Nat) (o : Nat → CloseAnswer) : Io Result := do
  match handle with
  | none => pure (.ret .invalidParam)
  | some h =>
    let handle ← handleAt h
    match handle.intfMgr with
    | none => pure (.ret .invalidParam)
    | some i =>
      if !((← get).interfaceMgr i).isOpen then pure (.ret .invalidParam)
      else if !(← closePipes h o handle.numFd.toNat 0) then pure (.ret .deviceBusy)
      else
        modify fun s => (s.putHandle h none).putInterface i { s.interfaceMgr i with isOpen := false, handle := none }
        pure (.ret .success)

structure Query where
  openPipe : Bool
  getPipeInfo : Option UsbPipeDirection
  closePipe : Bool

def usbFnIoMgrInterfaceGetPipeInfo (i : Nat) (pipeId : UInt8) (o : Query) : Io (Except Ret UsbPipeDirection) := do
  let intf := (← get).interfaceMgr i
  if intf.numPipes ≤ pipeId then pure (.error .invalidParam)
  else if intf.isOpen then
    match intf.handle with
    | none => goWrong .freed
    | some h =>
      let handle ← handleAt h
      if MAX_EP ≤ pipeId.toNat then goWrong .outside
      else
        match handle.fds pipeId.toNat, o.getPipeInfo with
        | some _, some dir => pure (.ok dir)
        | _, _ => pure (.error .deviceBusy)
  else
    let opening := (← get).made
    modify (·.make)
    let fd ← openPipe (.query opening) o.openPipe
    if fd = none then pure (.error .io)
    else
      let _ ← closePipe fd o.closePipe
      pure (o.getPipeInfo.elim (.error .deviceBusy) .ok)

/-- Whether `ep0` is opened and its queue set up. -/
structure Ep0Answer where
  openPipe : Bool
  queueInit : Bool

def openEp0AndMapAddr (f : Nat) (o : Ep0Answer) : Io Bool := do
  let opening := (← get).made
  modify (·.make)
  let fd ← openPipe (.ep0 f opening) o.openPipe
  modify fun s => s.putFunc f { s.funcMgr f with fd := fd }
  if fd = none then pure false else queueInit fd o.queueInit

/-- A direction that is not known stays zero, which is `USB_PIPE_DIRECTION_OUT`. -/
def getReqType (i : Nat) (pipe : UInt8) (o : Query) : Io UsbFnRequestType := do
  if pipe = 0 then pure .invalid
  else
    match ← usbFnIoMgrInterfaceGetPipeInfo i (pipe - 1) o with
    | .ok .into => pure .pipeWrite
    | _ => pure .pipeRead

/-- Whether `ep0` is opened, a buffer mapped, and memory there; and what is known of the pipe. -/
structure Allocation where
  ep0 : Ep0Answer
  mapAddr : MapAnswer
  reqList : Bool
  query : Query

def pipeFd (handle : UsbHandleMgr) (f : Nat) (pipe : UInt8) (o : Ep0Answer) : Io (Option (Option Fd)) := do
  if pipe = 0 then
    if ((← get).funcMgr f).fd = none then
      if !(← openEp0AndMapAddr f o) then pure none
      else pure (some ((← get).funcMgr f).fd)
    else pure (some ((← get).funcMgr f).fd)
  else if pipe.toNat ≤ MAX_EP then pure (some (handle.fds (pipe.toNat - 1)))
  else pure none

/-- What `UsbFnIoMgrRequestAlloc` does with a descriptor. -/
def makeRequest (h i f : Nat) (pipe : UInt8) (len : UInt32) (ep : Option Fd) (o : Allocation) : Io Result := do
  match ← mapAddr ep o.mapAddr with
  | none => pure (.allocated none)
  | some buf =>
    if !o.reqList then pure (.allocated none)
    else
      let r := (← get).made
      let entry := if pipe = 0 then ListHead.func f else .handle h
      modify fun s => s.make.putEntries entry (s.reqEntry entry ++ [r])
      let type ← getReqType i pipe o.query
      modify (·.putRequest r (some ⟨entry, pipe, ep, buf, len, h, len, type⟩))
      pure (.allocated (some r))

def usbFnIoMgrRequestAlloc (h : Nat) (pipe : UInt8) (len : UInt32) (o : Allocation) : Io Result := do
  let handle ← handleAt h
  match handle.intfMgr with
  | none => goWrong .freed
  | some i =>
    let f := ((← get).interfaceMgr i).funcMgr
    match ← pipeFd handle f pipe o.ep0 with
    | none => pure (.allocated none)
    | some ep => makeRequest h i f pipe len ep o

/-- The head of a list of requests that begins in a freed handle. -/
def State.headFreed (s : State) : ListHead → Bool
  | .func _ => false
  | .handle h => (s.handles h).isNone

/-- The neighbours of an entry are written, and the first and last have the head as one. -/
def dListRemove (head : ListHead) (r : Nat) : Io Unit := do
  let l := (← get).reqEntry head
  if (← get).headFreed head ∧ (l.head? = some r ∨ l.getLast? = some r) then goWrong .freed
  else modify (·.putEntries head (l.erase r))

structure Release where
  unmapAddr : Bool
  releaseBuf : Bool

def usbFnIoMgrRequestFree (req : Option Nat) (o : Release) : Io Result := do
  match req with
  | none => pure (.ret .invalidParam)
  | some r =>
    let reqList ← requestAt r
    if !(← unmapAddr reqList.buf o.unmapAddr) then pure (.ret .deviceBusy)
    else if !releaseBuf reqList.fd o.releaseBuf then pure (.ret .invalidParam)
    else
      dListRemove reqList.entry r
      modify (·.putRequest r none)
      pure (.ret .success)

def usbFnMgrStartRecvEvent (i : Nat) (o : Ep0Answer) : Io Result := do
  let f := ((← get).interfaceMgr i).funcMgr
  if ((← get).funcMgr f).callback then pure (.ret .invalidParam)
  else
    modify fun s => s.putFunc f { s.funcMgr f with callback := true }
    if ((← get).funcMgr f).fd = none then
      if !(← openEp0AndMapAddr f o) then pure (.ret .io) else pure (.ret .success)
    else pure (.ret .success)

def usbFnStopRecvEvent (i : Nat) (o : CloseAnswer) : Io Result := do
  let f := ((← get).interfaceMgr i).funcMgr
  let fd := ((← get).funcMgr f).fd
  if !(← queueDel fd o.queueDel) then pure (.ret .deviceBusy)
  else if !(← closePipe fd o.closePipe) then pure (.ret .deviceBusy)
  else
    modify fun s => s.putFunc f ⟨none, false⟩
    pure (.ret .success)

inductive Call
  | interfaceOpen (interface : Option Nat) (o : Opening)
  | interfaceClose (handle : Option Nat) (o : Nat → CloseAnswer)
  | getPipeInfo (i : Nat) (pipeId : UInt8) (o : Query)
  | requestAlloc (handle : Nat) (pipe : UInt8) (len : UInt32) (o : Allocation)
  | requestFree (req : Option Nat) (o : Release)
  | startRecvEvent (i : Nat) (o : Ep0Answer)
  | stopRecvEvent (i : Nat) (o : CloseAnswer)

def perform : Call → Io Result
  | .interfaceOpen interface o => usbFnIoMgrInterfaceOpen interface o
  | .interfaceClose handle o => usbFnIoMgrInterfaceClose handle o
  | .getPipeInfo i pipeId o => do
    let answer ← usbFnIoMgrInterfaceGetPipeInfo i pipeId o
    pure (.ret (match answer with | .ok _ => .success | .error r => r))
  | .requestAlloc handle pipe len o => usbFnIoMgrRequestAlloc handle pipe len o
  | .requestFree req o => usbFnIoMgrRequestFree req o
  | .startRecvEvent i o => usbFnMgrStartRecvEvent i o
  | .stopRecvEvent i o => usbFnStopRecvEvent i o

/-- Nothing is said of what follows where the code has gone wrong. -/
def State.after (s : State) (call : Call) : State :=
  match (perform call).run s with
  | .ok _ t => t
  | .error (.returned _) t => t
  | .error (.wrong _) _ => s

def start (interfaceMgr : Nat → UsbFnInterfaceMgr) : State where
  made := 0
  descriptors := fun _ => none
  mapped := fun _ => false
  events := fun _ => false
  handles := fun _ => none
  requests := fun _ => none
  reqEntry := fun _ => []
  funcMgr := fun _ => ⟨none, false⟩
  interfaceMgr := fun i => { interfaceMgr i with isOpen := false, handle := none }

namespace State

/-- A pipe of a handle is open, with its queue and its events. -/
structure HasPipe (s : State) (h : Nat) (handle : UsbHandleMgr) (k : Nat) : Prop where
  fd : handle.fds k = some (.pipe h k)
  queue : s.descriptors (.pipe h k) = some true
  reqEvent : handle.reqEvent k = some (h, k)
  events : s.events (h, k)

def Usable (s : State) (h : Nat) : Prop :=
  ∃ handle i, s.handles h = some handle ∧ handle.intfMgr = some i ∧ (s.interfaceMgr i).isOpen ∧ (s.interfaceMgr i).handle = some h ∧
    handle.numFd.toNat ≤ MAX_EP ∧ ∀ k < handle.numFd.toNat, s.HasPipe h handle k

def Live (s : State) (r : Nat) : Prop := ∃ req buf, s.requests r = some req ∧ req.buf = some buf ∧ s.mapped buf

structure Untouched (s t : State) : Prop where
  descriptors : t.descriptors = s.descriptors
  mapped : t.mapped = s.mapped
  interfaces : t.interfaceMgr = s.interfaceMgr

/-- Nothing is closed, unmapped or freed a second time. -/
def NotTwice (s : State) (call : Call) : Prop :=
  Needs (perform call) ⟨fun fault _ => fault ≠ .twice, fun _ _ => True, fun _ _ => True⟩ s

def Settled (s : State) : Call → Result → State → Prop
  | .interfaceOpen _ _, .opened (some h), t => t.Usable h
  | .interfaceOpen _ _, .opened none, t => s.Untouched t
  | .interfaceClose (some h) _, .ret r, t => r ≠ .success → t.Usable h ∧ ∀ o, t.NotTwice (.interfaceClose (some h) o)
  | .requestAlloc h pipe _ _, .allocated (some r), t =>
    t.Live r ∧ (pipe ≠ 0 → ∃ handle, s.handles h = some handle ∧ pipe.toNat ≤ handle.numFd.toNat)
  | .requestAlloc .., .allocated none, t => s.Untouched t
  | .requestFree (some q) _, .ret r, t => r ≠ .success → t.Live q ∧ ∀ o, t.NotTwice (.requestFree (some q) o)
  | _, _, _ => True

def Right (s : State) (call : Call) : Prop := Needs (perform call) ⟨fun _ _ => False, s.Settled call, s.Settled call⟩ s

def Given (s : State) : Call → Prop
  | .interfaceClose (some h) _ => (s.handles h).isSome
  | .requestAlloc h .. => (s.handles h).isSome
  | .requestFree (some r) _ => (s.requests r).isSome
  | _ => True

/-- The request lies between two others, or its list begins in memory that is in use. -/
def Removable (s : State) (r : Nat) (req : ReqList) : Prop :=
  s.headFreed req.entry → (s.reqEntry req.entry).head? ≠ some r ∧ (s.reqEntry req.entry).getLast? ≠ some r

def Careful (s : State) : Call → Prop
  | .interfaceOpen (some i) o =>
    let n := (s.interfaceMgr i).numPipes.toNat
    (s.interfaceMgr i).isOpen ∨ ¬o.handle ∨ (0 < n ∧ ¬(o.pipe 0).openPipe) ∨ (n ≤ MAX_EP ∧ ∀ k < n, (o.pipe k).all)
  | .interfaceClose (some h) o =>
    ∀ handle, s.handles h = some handle → ¬(o 0).queueDel ∨ ∀ k < handle.numFd.toNat, (o k).all
  | .requestAlloc h pipe _ o =>
    ∀ handle i, s.handles h = some handle → handle.intfMgr = some i →
      let f := (s.interfaceMgr i).funcMgr
      if pipe = 0 ∧ (s.funcMgr f).fd = none then
        ¬o.ep0.openPipe ∨ (o.ep0.queueInit ∧ o.mapAddr = .mapped ∧ o.reqList)
      else if pipe.toNat ≤ MAX_EP ∧ (pipe = 0 ∨ handle.fds (pipe.toNat - 1) ≠ none) then
        o.mapAddr = .null ∨ (o.mapAddr = .failed ∧ ¬o.reqList) ∨ (o.mapAddr = .mapped ∧ o.reqList)
      else True
  | .requestFree (some r) o => ∀ req, s.requests r = some req → ¬o.unmapAddr ∨ (o.releaseBuf ∧ s.Removable r req)
  | _ => True

end State

/-! ### The steps of the adapter and of the allocator -/

section

variable {s : State} {d : Fd} {o : Bool} {h r buf : Nat} {e : Events}

@[simp] theorem needs_openPipe {ends : Ends Fault Result State (Option Fd)} : Needs (openPipe d o) ends s ↔
    if o then ends.last (some d) (s.putFd d (some false)) else ends.last none s := by
  cases o <;> rfl

variable {ends : Ends Fault Result State Bool}

@[simp] theorem needs_queueInit : Needs (queueInit (some d) o) ends s ↔
    if o then ends.last true (s.putFd d ((s.descriptors d).map fun _ => true)) else ends.last false s := by
  cases o <;> rfl

@[simp] theorem needs_queueDel : Needs (queueDel (some d) o) ends s ↔
    if o then ends.last true (s.putFd d ((s.descriptors d).map fun _ => false)) else ends.last false s := by
  cases o <;> rfl

@[simp] theorem needs_closePipe : Needs (closePipe (some d) o) ends s ↔
    if o then if s.descriptors d = none then ends.wrong .twice s else ends.last true (s.putFd d none) else ends.last false s := by
  cases o with
  | false => rfl
  | true =>
    change Needs (get >>= _) ends s ↔ _
    rw [needs_bind, needs_get, before_last, needs_ite]
    simp

@[simp] theorem needs_handleAt {ends : Ends Fault Result State UsbHandleMgr} : Needs (handleAt h) ends s ↔
    match s.handles h with
    | some handle => ends.last handle s
    | none => ends.wrong .freed s := by
  rw [handleAt, needs_bind, needs_get, before_last]
  cases s.handles h <;> rfl

@[simp] theorem needs_requestAt {ends : Ends Fault Result State ReqList} : Needs (requestAt r) ends s ↔
    match s.requests r with
    | some req => ends.last req s
    | none => ends.wrong .freed s := by
  rw [requestAt, needs_bind, needs_get, before_last]
  cases s.requests r <;> rfl

@[simp] theorem needs_usbFnMemFree {ends : Ends Fault Result State Unit} : Needs (usbFnMemFree (some e)) ends s ↔
    if s.events e then ends.last () (s.putEvents e false) else ends.wrong .twice s := by
  change Needs (get >>= _) ends s ↔ _
  rw [needs_bind, needs_get, before_last, needs_ite]
  cases s.events e <;> rfl

@[simp] theorem needs_mapAddr_none {ends : Ends Fault Result State (Option (Option Nat))} {answer : MapAnswer} :
    Needs (mapAddr none answer) ends s ↔ ends.last none s := by
  cases answer <;> rfl

@[simp] theorem needs_mapAddr {ends : Ends Fault Result State (Option (Option Nat))} {answer : MapAnswer} :
    Needs (mapAddr (some d) answer) ends s ↔
      match answer with
      | .null => ends.last none s
      | .failed => ends.last (some none) s
      | .mapped => ends.last (some (some s.made)) (s.make.putMapped s.made true) := by
  cases answer <;> rfl

@[simp] theorem needs_unmapAddr : Needs (unmapAddr (some buf) o) ends s ↔
    if o then if s.mapped buf then ends.last true (s.putMapped buf false) else ends.wrong .twice s else ends.last false s := by
  cases o with
  | false => rfl
  | true =>
    change Needs (get >>= _) ends s ↔ _
    rw [needs_bind, needs_get, before_last, needs_ite]
    cases s.mapped buf <;> rfl

end

end Peripheral.UsbFnIoMgr
