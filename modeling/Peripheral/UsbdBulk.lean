import Peripheral.Bytes
import Peripheral.Tiling

/-!
Asynchronous bulk transfers of the USB service. A transfer has a buffer, of which slices are given to requests, and
nodes that carry the requests. The loop that starts it takes nodes out of the empty list and submits them; a request
that completes submits its node again with the next slice, or gives the node back and counts the empty ones, by which
the last one finds out that it is the last. The loop and any number of completions run at the same time; a step is
what happens under one lock, or a call, or a look at the list.
-/
namespace Peripheral.UsbdBulk
open Bytes Tiling

inductive Ret
  | success
  | noData
  | deviceBusy
  | invalidParam
  | errIo
  | badFd
  | other (code : Nat)
  deriving DecidableEq

inductive Direction
  | read
  | write
  deriving DecidableEq

structure UsbdBufferHandle where
  fd : Int
  size : Nat
  starAddr : Mem
  cur : Nat
  rcur : Nat
  cbflg : Bool

/-- What a transfer is started with: the nodes of the endpoint's list, all of them empty, and the buffer. -/
structure Transfer where
  direction : Direction
  nodes : List Nat
  maxPacketSize : Nat
  fd : Int
  size : Nat
  starAddr : Mem
  distinct : nodes.Nodup
  some_node : nodes ≠ []
  opened : 0 ≤ fd
  some_data : 0 < size

namespace UsbdBufferHandle

/-- `memcpy_s`; a destination that is too small is cleared instead. -/
def memcpy_s (handle : UsbdBufferHandle) (destMax : Nat) (buffer : List UInt8) : UsbdBufferHandle :=
  { handle with
    starAddr :=
      if buffer.length ≤ destMax then patch handle.starAddr handle.rcur buffer.length fun k => buffer.getD k 0
      else patch handle.starAddr handle.rcur destMax fun _ => 0 }

def usbdBulkASyncPutAsmData (handle : UsbdBufferHandle) (buffer : List UInt8) : Ret × UsbdBufferHandle :=
  if buffer.length < 1 then (.invalidParam, handle)
  else if handle.fd < 1 then (.badFd, handle)
  else
    let tlen := if handle.size > handle.rcur then handle.size - handle.rcur else 0
    let tlen := if tlen < buffer.length then tlen else buffer.length
    if tlen > 0 then (.success, { handle.memcpy_s tlen buffer with rcur := handle.rcur + tlen })
    else (.success, handle)

def usbdBulkAsyncGetAsmData (handle : UsbdBufferHandle) (maxPacketSize : Nat) : Ret × Interval × UsbdBufferHandle :=
  if handle.size < 1 ∨ maxPacketSize < 1 then (.errIo, ⟨0, 0⟩, handle)
  else if handle.cur < handle.size then
    let length := if handle.size - handle.cur < maxPacketSize then handle.size - handle.cur else maxPacketSize
    (.success, ⟨handle.cur, length⟩, { handle with cur := handle.cur + length })
  else (.noData, ⟨0, 0⟩, handle)

def usbdBulkAsyncGetAsmReqLen (handle : UsbdBufferHandle) (maxPacketSize : Nat) : Ret × Nat × UsbdBufferHandle :=
  if handle.size < 1 ∨ maxPacketSize < 1 then (.errIo, 0, handle)
  else if handle.cur < handle.size then
    let tlen := handle.size - handle.cur
    let tlen := if tlen < maxPacketSize then tlen else maxPacketSize
    (.success, tlen, { handle with cur := handle.cur + tlen })
  else (.success, 0, handle)

end UsbdBufferHandle

/-- The data of the next request: a slice that is taken, or why there is none. A reader looks at the length only. -/
def Transfer.next (t : Transfer) (handle : UsbdBufferHandle) : Ret × Interval × UsbdBufferHandle :=
  match t.direction with
  | .write => handle.usbdBulkAsyncGetAsmData t.maxPacketSize
  | .read =>
    let (_, readLen, later) := handle.usbdBulkAsyncGetAsmReqLen t.maxPacketSize
    if readLen < 1 then (.noData, ⟨0, 0⟩, later) else (.success, ⟨handle.cur, readLen⟩, later)

/-- Where the loop that submits the first requests is; `i` counts what it has submitted. -/
inductive Loop
  | take (i : Nat)
  | get (i node : Nat)
  | submit (i node : Nat) (slice : Interval)
  | giveBack (node : Nat) (ret : Ret)
  | check (i : Nat)
  | returned (ret : Ret)
  deriving DecidableEq

def Loop.returns : Loop → Bool
  | .returned _ => true
  | _ => false

/-- A request in flight, or where the completion of one is: it stores what it read, takes the next slice, fills (if
it must) and submits the request, or gives the node back, and then counts the empty nodes or reports. -/
inductive Pending
  | flight (node : Nat) (slice : Interval)
  | put (node length : Nat) (buffer : List UInt8)
  | get (node length : Nat)
  | submit (node : Nat) (slice : Interval) (fills : Bool)
  | giveBack (node : Nat) (told : Option Ret)
  | count
  | report (status : Ret)
  deriving DecidableEq

/-- What a step meets: the status and the data of a request that completes, the results of `UsbFillRequest` and of
`UsbSubmitRequestAsync`. -/
structure Outcome where
  status : Ret
  buffer : List UInt8
  fill : Ret
  submit : Ret
  deriving DecidableEq

inductive Event
  | loop (o : Outcome)
  | run (p : Pending) (o : Outcome)
  deriving DecidableEq

/-- The endpoint's list in the midst of a transfer. What was taken, was written or read by a request that succeeded,
and was lost with one that did not, what arrived, and the callbacks are recorded. -/
structure State where
  eList : List Nat
  pending : List Pending
  loop : Loop
  handle : UsbdBufferHandle
  taken : List Interval
  done : List Interval
  lost : List Interval
  received : List UInt8
  reports : List (Ret × Nat)

/-- A completion counts the empty nodes if there were no data, and reports anything else. -/
def told (ret : Ret) : Option Ret := if ret = .noData then none else some ret

def Transfer.start (t : Transfer) : State :=
  ⟨t.nodes, [], .take 0, ⟨t.fd, t.size, t.starAddr, 0, 0, false⟩, [], [], [], [], []⟩

namespace State

def cursor (t : Transfer) (s : State) : Nat :=
  match t.direction with
  | .write => s.handle.cur
  | .read => s.handle.rcur

/-- A turn of `UsbdBulkASyncWriteSubmitStart` or `UsbdBulkReadASyncSubmitStart`, with `UsbdBulkASyncReqWriteSubmit` or
`UsbdBulkASyncReqReadSubmit` in it. -/
def loopStep (t : Transfer) (s : State) (o : Outcome) : State :=
  match s.loop with
  | .take i =>
    match s.eList with
    | [] => { s with loop := .returned .deviceBusy }
    | node :: rest => { s with eList := rest, loop := .get i node }
  | .get i node =>
    let (ret, slice, handle) := t.next s.handle
    if ret = .success then { s with handle := handle, taken := s.taken ++ [slice], loop := .submit i node slice }
    else { s with handle := handle, loop := .giveBack node ret }
  | .submit i node slice =>
    if o.fill ≠ .success then { s with lost := slice :: s.lost, loop := .giveBack node o.fill }
    else if o.submit ≠ .success then { s with lost := slice :: s.lost, loop := .giveBack node o.submit }
    else { s with pending := .flight node slice :: s.pending, loop := .check i }
  | .giveBack node ret => { s with eList := s.eList ++ [node], loop := .returned ret }
  | .check i =>
    if i + 1 > t.nodes.length then { s with loop := .returned .success }
    else if s.eList = [] then { s with loop := .returned .success }
    else { s with loop := .take (i + 1) }
  | .returned _ => s

def goesOn (s : State) (p : Pending) (rest : List Pending) : State := { s with pending := rest ++ s.pending.erase p }

/-- A step of the callbacks of a request, of their `AutoSubmit` functions and of the callback to the client. -/
def pendingStep (t : Transfer) (s : State) (p : Pending) (o : Outcome) : State :=
  match p with
  | .flight node slice =>
    if o.status = .success then
      match t.direction with
      | .write => { s.goesOn p [.get node slice.len] with done := slice :: s.done }
      | .read => { s.goesOn p [.put node slice.len o.buffer] with done := slice :: s.done }
    else { s.goesOn p [.giveBack node (some o.status)] with lost := slice :: s.lost }
  | .put node length buffer =>
    let (ret, handle) := s.handle.usbdBulkASyncPutAsmData buffer
    if ret = .success then { s.goesOn p [.get node length] with handle := handle, received := s.received ++ buffer }
    else { s.goesOn p [.giveBack node (told ret)] with handle := handle, received := s.received ++ buffer }
  | .get node length =>
    let (ret, slice, handle) := t.next s.handle
    if ret = .success then
      let fills := t.direction = .write ∨ slice.len ≠ length
      { s.goesOn p [.submit node slice fills] with handle := handle, taken := s.taken ++ [slice] }
    else { s.goesOn p [.giveBack node (told ret)] with handle := handle }
  | .submit node slice fills =>
    if fills ∧ o.fill ≠ .success then
      { s.goesOn p [.giveBack node (told o.fill)] with lost := slice :: s.lost }
    else if o.submit ≠ .success then
      { s.goesOn p [.giveBack node (told o.submit)] with lost := slice :: s.lost }
    else s.goesOn p [.flight node slice]
  | .giveBack node none => { s.goesOn p [.count] with eList := s.eList ++ [node] }
  | .giveBack node (some ret) => { s.goesOn p [.report ret] with eList := s.eList ++ [node] }
  | .count => if s.eList.length ≥ t.nodes.length then s.goesOn p [.report .success] else s.goesOn p []
  | .report status =>
    if s.handle.cbflg then s.goesOn p []
    else
      { s.goesOn p [] with
        handle := { s.handle with cbflg := true }
        reports := (status, s.cursor t) :: s.reports }

def after (t : Transfer) (s : State) : Event → State
  | .loop o => s.loopStep t o
  | .run p o => s.pendingStep t p o

/-- What can happen: a request that is read with success brings at least one byte and at most those asked for. -/
def May (t : Transfer) (s : State) : Event → Prop
  | .loop _ => ∀ ret, s.loop ≠ .returned ret
  | .run (.flight node slice) o =>
    .flight node slice ∈ s.pending ∧
      (t.direction = .read → o.status = .success → 1 ≤ o.buffer.length ∧ o.buffer.length ≤ slice.len)
  | .run p _ => p ∈ s.pending

instance (t : Transfer) (s : State) : (e : Event) → Decidable (s.May t e)
  | .loop _ => decidable_of_iff (s.loop.returns = false) (by cases at_ : s.loop <;> simp [May, Loop.returns, at_])
  | .run (.flight ..) _ => inferInstanceAs (Decidable (_ ∧ _))
  | .run (.put ..) _ | .run (.get ..) _ | .run (.submit ..) _ | .run (.giveBack ..) _ | .run .count _
  | .run (.report _) _ => inferInstanceAs (Decidable (_ ∈ s.pending))

end State

end Peripheral.UsbdBulk
