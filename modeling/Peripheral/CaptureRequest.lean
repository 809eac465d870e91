import Peripheral.CaptureMessage

/-!
The frames of a capture that several streams share, `capture_request.cpp` and the
results of `stream_base.cpp`. The buffers of a port are handed to its stream by the
thread that distributes them and, while the port is flushed, by the thread that flushes
it beside that one (`StopCollectBuffers` takes no lock of the distributor). So calls of
`HandleResult` run side by side, those of one stream too, and meet in the request, which
holds the buffer that was attached last. A call is cut where it takes a lock or touches
the request.
-/
namespace Peripheral.Camera

inductive CameraBufferStatus
  | ok
  | drop
  | invalid
  deriving DecidableEq

/-- `IBuffer`, with the number of the object. -/
structure CameraBuffer where
  id : Nat
  streamId : Int
  captureId : Int
  status : CameraBufferStatus
  deriving DecidableEq

/-- `RequestSemaphore`, with how often it was opened. -/
structure RequestSemaphore where
  ownerCount : Nat
  syncCount : Nat
  timestamp : UInt64
  needSync : Bool
  opened : Nat
  deriving DecidableEq

structure CaptureRequest where
  captureId : Int
  ownerCount : Nat
  semr : RequestSemaphore
  needShutterCallback : Bool
  isContinuous : Bool
  needCancel : Bool
  buffer : Option CameraBuffer
  deriving DecidableEq

namespace CaptureRequest

def new (captureId : Int) (owners : Nat) (needReport isContinuous : Bool) : CaptureRequest :=
  ⟨captureId, owners, ⟨owners, 0, 0, true, 0⟩, needReport, isContinuous, false, none⟩

def attachBuffer (request : CaptureRequest) (buffer : CameraBuffer) :
    CaptureRequest := { request with buffer := some buffer }

def message (request : CaptureRequest) (type : CaptureMessageType) (streamId : Int) : CaptureMessage :=
  ⟨type, streamId, request.captureId, request.semr.timestamp, UInt32.ofNat request.ownerCount, request.semr.opened⟩

/-- What `OnFrame` sends for a buffer before the request leaves the list. -/
def frameMessages (request : CaptureRequest) (buffer : CameraBuffer) (streamId : Int) : List CaptureMessage :=
  (if buffer.status ≠ .ok ∧ buffer.status ≠ .drop then [request.message .onError streamId] else []) ++
    (if request.needShutterCallback then [request.message .onShutter streamId] else [])

/-- Whether this can be the last frame. -/
def isEnded (request : CaptureRequest) : Bool := !request.isContinuous || request.needCancel

end CaptureRequest

/-- Where a call of `HandleResult` is: before it searches the request, attaches the buffer, counts itself in `Sync`, compares,
    waits or opens, in `OnFrame` before it reads the buffer, erases the request, returns the buffer it read and puts it into
    the tunnel, or at its end. -/
inductive ResultPhase
  | search
  | attach
  | sync
  | counted
  | toWait
  | waiting
  | toOpen
  | frame
  | erase (buffer : CameraBuffer)
  | receive (buffer : CameraBuffer)
  | put (buffer : CameraBuffer)
  | done
  deriving DecidableEq

/-- A call of `HandleResult`: its stream and the buffer it was called with. -/
structure ResultCall where
  stream : Int
  own : CameraBuffer
  phase : ResultPhase
  deriving DecidableEq

/-- A request, how often it is in transit in each stream, the calls in the order in which they began, and what was received
    by streams, returned to their pools and put into their tunnels. -/
structure SharedCapture where
  request : CaptureRequest
  inTransitList : Int → Nat
  calls : List ResultCall
  received : List (Int × Nat)
  returned : List (Int × Nat)
  tunnel : List (Int × Nat)
  messages : List CaptureMessage

inductive ResultStep
  | capture (stream : Int)
  | cancel
  | handleResult (stream : Int) (buffer : CameraBuffer)
  | proceed (call : Nat) (time : UInt64)

namespace SharedCapture

def goTo (s : SharedCapture) (i : Nat) (call : ResultCall) (phase : ResultPhase) : SharedCapture :=
  { s with calls := s.calls.set i { call with phase := phase } }

def begin (s : SharedCapture) (call : ResultCall) : SharedCapture := { s with calls := s.calls ++ [call] }

/-- A stream is called with a buffer. One of another stream is only reported. -/
def handleResult (s : SharedCapture) (stream : Int) (buffer : CameraBuffer) : SharedCapture :=
  let s := { s with received := s.received ++ [(stream, buffer.id)] }
  if buffer.status = .invalid then s.begin ⟨stream, buffer, .receive buffer⟩
  else if buffer.streamId ≠ stream then s
  else s.begin ⟨stream, buffer, .search⟩

def openSync (s : SharedCapture) (time : UInt64) : SharedCapture :=
  let semr := { s.request.semr with syncCount := 0, timestamp := time, opened := s.request.semr.opened + 1 }
  { s with
    request := { s.request with semr := semr }
    calls := s.calls.map fun call => if call.phase = .waiting then { call with phase := .frame } else call }

def eraseRequest (s : SharedCapture) (stream : Int) : SharedCapture :=
  let left := s.inTransitList stream - 1
  let ended := if s.request.isEnded ∧ left = 0 then [s.request.message .onEnded stream] else []
  { s with inTransitList := Function.update s.inTransitList stream left, messages := s.messages ++ ended }

def proceed (s : SharedCapture) (i : Nat) (time : UInt64) : SharedCapture :=
  match s.calls[i]? with
  | none => s
  | some call =>
    match call.phase with
    | .search =>
      if call.own.captureId = s.request.captureId ∧ 0 < s.inTransitList call.stream then s.goTo i call .attach
      else s.goTo i call (.receive { call.own with status := .invalid })
    | .attach => { s with request := s.request.attachBuffer call.own }.goTo i call .sync
    | .sync =>
      if !s.request.semr.needSync then s.goTo i call .frame
      else
        let semr := { s.request.semr with syncCount := s.request.semr.syncCount + 1 }
        { s with request := { s.request with semr := semr } }.goTo i call .counted
    | .counted => if s.request.semr.syncCount < s.request.semr.ownerCount then s.goTo i call .toWait else s.goTo i call .toOpen
    | .toWait => s.goTo i call .waiting
    | .waiting => s
    | .toOpen => (s.openSync time).goTo i call .frame
    | .frame =>
      match s.request.buffer with
      | none => s
      | some buffer =>
        { s with messages := s.messages ++ s.request.frameMessages buffer call.stream }.goTo i call (.erase buffer)
    | .erase buffer => (s.eraseRequest call.stream).goTo i call (.receive buffer)
    | .receive buffer => { s with returned := s.returned ++ [(call.stream, buffer.id)] }.goTo i call (.put buffer)
    | .put buffer => { s with tunnel := s.tunnel ++ [(call.stream, buffer.id)] }.goTo i call .done
    | .done => s

def step (s : SharedCapture) : ResultStep → SharedCapture
  | .capture stream => { s with inTransitList := Function.update s.inTransitList stream (s.inTransitList stream + 1) }
  | .cancel => { s with request := { s.request with needCancel := true } }
  | .handleResult stream buffer => s.handleResult stream buffer
  | .proceed call time => s.proceed call time

def run (s : SharedCapture) (steps : List ResultStep) : SharedCapture := steps.foldl step s

end SharedCapture

structure OwnedCapture where
  captureId : Int
  owners : List Int
  needReport : Bool
  isContinuous : Bool
  distinct : owners.Nodup
  owned : owners ≠ []

namespace OwnedCapture

def start (c : OwnedCapture) : SharedCapture :=
  ⟨.new c.captureId c.owners.length c.needReport c.isContinuous, fun _ => 0, [], [], [], [], []⟩

/-- Owners get their own buffers, of this capture or invalid. -/
def Allows (c : OwnedCapture) : ResultStep → Prop
  | .capture stream => stream ∈ c.owners
  | .cancel => True
  | .handleResult stream buffer => stream ∈ c.owners ∧ buffer.streamId = stream ∧
      (buffer.captureId = c.captureId ∨ buffer.status = .invalid)
  | .proceed _ _ => True

end OwnedCapture

namespace ResultCall

/-- Whether the call stands between `AttachBuffer` and `GetAttachedBuffer`. -/
def attached (call : ResultCall) : Bool :=
  match call.phase with
  | .sync | .counted | .toWait | .waiting | .toOpen | .frame => true
  | _ => false

/-- Whether the buffer of the call is still to go into the tunnel of the stream. -/
def owesTunnel (stream : Int) (id : Nat) (call : ResultCall) : Bool :=
  match call.phase with
  | .done => false
  | _ => call.stream = stream ∧ call.own.id = id

def owesPool (stream : Int) (id : Nat) (call : ResultCall) : Bool :=
  match call.phase with
  | .put _ | .done => false
  | _ => call.stream = stream ∧ call.own.id = id

end ResultCall

/-- A call attaches its buffer when no other one of its stream is still to read the buffer it attached. -/
def Apart (s : SharedCapture) : ResultStep → Prop
  | .proceed i _ => ∀ call, s.calls[i]? = some call → call.phase = .attach →
      ∀ other ∈ s.calls, other.stream = call.stream → ¬other.attached
  | _ => True

/-- Each time a stream received a buffer the buffer went once to the pool and the tunnel of this stream, or the call goes on;
    nothing else went there. -/
structure Booked (s : SharedCapture) : Prop where
  pool : ∀ stream id, s.returned.count (stream, id) + s.calls.countP (·.owesPool stream id) = s.received.count (stream, id)
  tunnel : ∀ stream id, s.tunnel.count (stream, id) + s.calls.countP (·.owesTunnel stream id) = s.received.count (stream, id)

/-- And not all owners wait for each other. -/
structure ComesHome (owners : List Int) (s : SharedCapture) : Prop extends Booked s where
  goesOn : ∃ owner ∈ owners, ∀ call ∈ s.calls, call.stream = owner → call.phase ≠ .waiting

end Peripheral.Camera
