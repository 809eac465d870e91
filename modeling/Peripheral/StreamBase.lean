import Peripheral.CaptureRequest
import Peripheral.Transitions

/-!
A stream and its captures, `stream_base.cpp`. Clients add and cancel requests, one
thread of the stream takes requests to the pipeline, another hands it the buffers that
come back, and the operator configures, commits and stops the stream. Every call is cut
where it takes a lock, calls the pipeline, or reads what another thread writes; a step
is one part. What the pipeline and the allocation return is given with the step. Calling
through a member that is null crashes the process, which then takes no steps.
-/
namespace Peripheral.Camera
open Function (update)

inductive StreamState
  | idle
  | active
  | busy
  | offline
  deriving DecidableEq

/-- How far `AddRequest` came with a request. -/
inductive AddPhase
  | unknown
  | refused
  | toQueue
  | queued
  deriving DecidableEq

structure StreamRequest where
  added : AddPhase
  isContinuous : Bool
  needShutterCallback : Bool
  needCancel : Bool
  isFirstRequest : Bool
  deriving DecidableEq

/-- Where the thread is with a request: before the two checks for a cancel, the delivery of buffers, the pipeline's `Config` and
    `Capture`, the list, and the message that the capture started. -/
inductive ThreadPhase
  | check
  | deliver
  | recheck
  | config
  | capture
  | push
  | started
  deriving DecidableEq

/-- The thread that runs `HandleRequest`: not there, at the head of its loop, before it takes a request, or with one. -/
inductive RequestThread
  | none
  | loop
  | take
  | holds (captureId : Int) (phase : ThreadPhase)
  deriving DecidableEq

/-- Where a call of `HandleResult` is that found its request: in `OnFrame` before the messages, the check whether the capture
    ends, the list and the return of the buffer, or behind it. -/
inductive FramePhase
  | frame
  | decide
  | erase (isEnded : Bool)
  | receive
  | last
  deriving DecidableEq

/-- Where `StopStream` is. -/
inductive StopPhase
  | join
  | front
  | erase (captureId : Int)
  | check (captureId : Int)
  | clear
  | flush
  | wait
  | stop
  | finish
  deriving DecidableEq

inductive StreamEvent
  | started
  | error
  | shutter
  | frame
  | ended
  deriving DecidableEq

/-- A stream. Captures go by their ids. `tunnel`, `bufferPool` and `pipeline` say whether the member is set. `erasing` and
    `checking` count the calls of `CancelRequest` before the first and the second lock. What was reported for captures, which
    captures were cancelled and which were there when the stream stopped, the frames that were captured and returned, and
    whether the pipeline failed, is only recorded. -/
structure StreamBase where
  state : StreamState
  tunnelMode : Bool
  tunnel : Bool
  bufferPool : Bool
  pipeline : Bool
  isFirstRequest : Bool
  requests : Int → StreamRequest
  waitingList : List Int
  inTransitList : List Int
  lastRequest : Option Int
  thread : RequestThread
  result : Option (Int × FramePhase)
  erasing : Int → Nat
  checking : Int → Nat
  stop : Option StopPhase
  crashed : Bool
  reported : List (StreamEvent × Int)
  cancelled : List Int
  stopped : Int → Bool
  captured : Int → Nat
  returned : Int → Nat
  failed : Bool

/-- What the calls in `CommitStream` give: whether the pipeline and the manager of host streams are there, whether a pool was
    made and initialised, and whether the host stream was created. -/
structure CommitOutcome where
  pipeline : Bool
  hostStreamMgr : Bool
  bufferPool : Bool
  init : Bool
  hostStream : Bool
  deriving DecidableEq

inductive StreamStep
  | configStream (tunnelMode : Bool)
  | attachStreamTunnel
  | detachStreamTunnel
  | commitStream (outcome : CommitOutcome)
  | addRequest (captureId : Int) (isContinuous needShutterCallback prepared started : Bool)
  | queueRequest (captureId : Int)
  | setFirstRequest (captureId : Int) (first : Bool)
  | cancel (captureId : Int)
  | cancelErase (captureId : Int)
  | cancelCheck (captureId : Int)
  | handleRequest (delivered succeeds : Bool)
  | handleResult (ofStream : Bool) (captureId : Int) (status : CameraBufferStatus)
  | onFrame (status : CameraBufferStatus)
  | stopStream
  | proceedStop (succeeds : Bool)

namespace StreamBase

def unknownRequest : StreamRequest := ⟨.unknown, false, false, false, false⟩

def new : StreamBase where
  state := .idle
  tunnelMode := false
  tunnel := false
  bufferPool := false
  pipeline := false
  isFirstRequest := true
  requests := fun _ => unknownRequest
  waitingList := []
  inTransitList := []
  lastRequest := none
  thread := .none
  result := none
  erasing := fun _ => 0
  checking := fun _ => 0
  stop := none
  crashed := false
  reported := []
  cancelled := []
  stopped := fun _ => false
  captured := fun _ => 0
  returned := fun _ => 0
  failed := false

def crash (s : StreamBase) : StreamBase := { s with crashed := true }

def report (s : StreamBase) (event : StreamEvent) (captureId : Int) : StreamBase :=
  { s with reported := s.reported ++ [(event, captureId)] }

def setRequest (s : StreamBase) (captureId : Int) (request : StreamRequest) : StreamBase :=
  { s with requests := update s.requests captureId request }

def configStream (s : StreamBase) (tunnelMode : Bool) : StreamBase :=
  if s.state ≠ .idle then s else { s with tunnelMode := tunnelMode || s.tunnel }

def attachStreamTunnel (s : StreamBase) : StreamBase :=
  if s.state = .busy ∨ s.state = .offline then s else { s with tunnel := true, tunnelMode := true }

def detachStreamTunnel (s : StreamBase) : StreamBase :=
  if s.state = .busy ∨ s.state = .offline then s else { s with tunnel := false, tunnelMode := false, state := .idle }

def commitStream (s : StreamBase) (outcome : CommitOutcome) : StreamBase :=
  if s.state ≠ .idle then s
  else
    let s := { s with pipeline := outcome.pipeline }
    if !outcome.pipeline || !outcome.hostStreamMgr then s
    else if s.tunnelMode then
      if !s.bufferPool && !outcome.bufferPool then s
      else
        let s := { s with bufferPool := true }
        if outcome.init && outcome.hostStream then { s with state := .active } else s
    else if outcome.hostStream then { s with state := .active }
    else s

/-- `StartStream`, and whether it returned `RC_OK`. -/
def startStream (s : StreamBase) (prepared started : Bool) : StreamBase × Bool :=
  if !s.pipeline then (s, false)
  else if s.state ≠ .active then (s, false)
  else if !s.tunnel then (s.crash, false)
  else if !prepared then ({ s with failed := true }, false)
  else if !started then ({ s with state := .busy, thread := .loop, failed := true }, false)
  else ({ s with state := .busy, thread := .loop }, true)

/-- `AddRequest` up to the lock. -/
def addRequest (s : StreamBase) (captureId : Int) (isContinuous needShutterCallback prepared started : Bool) : StreamBase :=
  if s.isFirstRequest then
    let (s, ok) := s.startStream prepared started
    if ok then
      { s with isFirstRequest := false }.setRequest captureId ⟨.toQueue, isContinuous, needShutterCallback, false, true⟩
    else s.setRequest captureId ⟨.refused, isContinuous, needShutterCallback, false, false⟩
  else s.setRequest captureId ⟨.toQueue, isContinuous, needShutterCallback, false, false⟩

/-- The rest of `AddRequest`. -/
def queueRequest (s : StreamBase) (captureId : Int) : StreamBase :=
  if (s.requests captureId).added = .toQueue then
    { s with waitingList := s.waitingList ++ [captureId] }.setRequest captureId
    { s.requests captureId with added := .queued }
  else s

def setNeedCancel (s : StreamBase) (captureId : Int) : StreamBase :=
  s.setRequest captureId { s.requests captureId with needCancel := true }

/-- The first lock of `CancelRequest`. -/
def cancelErase (s : StreamBase) (captureId : Int) : StreamBase :=
  { s with waitingList := s.waitingList.erase captureId }

/-- The second lock of `CancelRequest`. -/
def cancelCheck (s : StreamBase) (captureId : Int) : StreamBase :=
  if (s.requests captureId).isContinuous ∧ captureId ∉ s.inTransitList then
    if !s.tunnel || !s.pipeline then s.crash else s.report .ended captureId
  else s

/-- The thread goes on by one part of `HandleRequest` or `Capture`. -/
def handleRequest (s : StreamBase) (delivered succeeds : Bool) : StreamBase :=
  match s.thread with
  | .none => s
  | .loop =>
    if s.state ≠ .busy then { s with thread := .none }
    else if s.waitingList = [] then s
    else { s with thread := .take }
  | .take =>
    match s.waitingList with
    | [] => { s with thread := .loop }
    | k :: rest =>
      { s with waitingList := if (s.requests k).isContinuous then k :: rest else rest, thread := .holds k .check }
  | .holds k .check =>
    if (s.requests k).needCancel then { s with thread := .loop }
    else if !s.pipeline then { s with thread := .loop, failed := true }
    else { s with thread := .holds k .deliver }
  | .holds k .deliver =>
    if ((s.requests k).isFirstRequest && !(s.requests k).isContinuous) || (delivered && s.tunnel && s.bufferPool) ||
      s.state ≠ .busy then { s with thread := .holds k .recheck }
    else s
  | .holds k .recheck =>
    if (s.requests k).needCancel then { s with thread := .loop } else { s with thread := .holds k .config }
  | .holds k .config =>
    if succeeds then { s with thread := .holds k .capture } else { s with thread := .loop, failed := true }
  | .holds k .capture =>
    if succeeds then
      { s with thread := .holds k .push, captured := update s.captured k (s.captured k + 1) }
    else { s with thread := .loop, failed := true }
  | .holds k .push => { s with thread := .holds k .started, inTransitList := s.inTransitList ++ [k] }
  | .holds k .started =>
    if (s.requests k).isFirstRequest then
      { (s.report .started k).setRequest k { s.requests k with isFirstRequest := false } with thread := .loop }
    else { s with thread := .loop }

/-- `HandleResult` until its request is found. A buffer that is invalid or of another stream has nothing to do with a request. -/
def handleResult (s : StreamBase) (ofStream : Bool) (captureId : Int) (status : CameraBufferStatus) : StreamBase :=
  if status = .invalid ∨ ofStream = false then s
  else if captureId ∈ s.inTransitList then { s with result := some (captureId, .frame) }
  else { s with returned := update s.returned captureId (s.returned captureId + 1) }

def frameEvents (request : StreamRequest) (status : CameraBufferStatus) : List StreamEvent :=
  (if status ≠ .ok ∧ status ≠ .drop then [.error] else []) ++ (if request.needShutterCallback then [.shutter] else []) ++ [.frame]

/-- The call goes on by one part. `status` is that of the buffer the request has. -/
def onFrame (s : StreamBase) (status : CameraBufferStatus) : StreamBase :=
  match s.result with
  | none => s
  | some (k, .frame) =>
    if !s.pipeline then { s with result := some (k, .last) }
    else
      { s with
        reported := s.reported ++ (frameEvents (s.requests k) status).map (·, k)
        result := some (k, .decide) }
  | some (k, .decide) => { s with result := some (k, .erase (!(s.requests k).isContinuous || (s.requests k).needCancel)) }
  | some (k, .erase isEnded) =>
    let s := { s with
      inTransitList := s.inTransitList.erase k
      returned := update s.returned k (s.returned k + 1)
      result := some (k, .receive) }
    if isEnded ∧ k ∉ s.inTransitList then
      if !s.tunnel then s.crash else s.report .ended k
    else s
  | some (k, .receive) => { s with result := some (k, .last) }
  | some (k, .last) => { s with result := none, lastRequest := some k }

def stopStream (s : StreamBase) : StreamBase :=
  if !s.pipeline then s
  else if s.state = .idle then s
  else if !s.tunnel then s.crash
  else { s with state := .idle, stop := some .join }

/-- The thread of the results is not between finding a request and returning its buffer. -/
def buffersReturned (s : StreamBase) : Bool :=
  match s.result with
  | none | some (_, .last) => true
  | _ => false

/-- The last part of `StopStream`. -/
def finishStop (s : StreamBase) : StreamBase :=
  match s.lastRequest with
  | none => s.crash
  | some last =>
    if !s.tunnel then s.crash
    else
      let s := if (s.requests last).isContinuous ∧ s.inTransitList ≠ [] then s.report .ended last else s
      let s := { s with
        isFirstRequest := true
        inTransitList := []
        stop := none
        stopped := fun k => s.stopped k || (s.requests k).added = .queued }
      if !s.bufferPool then s.crash else s

/-- `StopStream` goes on by one part. -/
def proceedStop (s : StreamBase) (succeeds : Bool) : StreamBase :=
  match s.stop with
  | none => s
  | some .join => if s.thread = .none then { s with stop := some .front } else s
  | some .front =>
    match s.waitingList with
    | k :: _ =>
      if (s.requests k).isContinuous then { s.setNeedCancel k with stop := some (.erase k) } else { s with stop := some .clear }
    | [] => { s with stop := some .clear }
  | some (.erase k) => { s.cancelErase k with stop := some (.check k) }
  | some (.check k) => { s.cancelCheck k with stop := some .clear }
  | some .clear => { s with waitingList := [], stop := some .flush }
  | some .flush =>
    if !s.pipeline then s.crash
    else if succeeds then { s with stop := some .wait }
    else { s with stop := none, failed := true }
  | some .wait => if !s.tunnel then s.crash else if s.buffersReturned then { s with stop := some .stop } else s
  | some .stop =>
    if !s.pipeline then s.crash
    else if succeeds then { s with stop := some .finish }
    else { s with stop := none, failed := true }
  | some .finish => s.finishStop

def perform (s : StreamBase) : StreamStep → StreamBase
  | .configStream tunnelMode => s.configStream tunnelMode
  | .attachStreamTunnel => s.attachStreamTunnel
  | .detachStreamTunnel => s.detachStreamTunnel
  | .commitStream outcome => s.commitStream outcome
  | .addRequest k isContinuous needShutterCallback prepared started =>
    s.addRequest k isContinuous needShutterCallback prepared started
  | .queueRequest k => s.queueRequest k
  | .setFirstRequest k first => s.setRequest k { s.requests k with isFirstRequest := first }
  | .cancel k => { s.setNeedCancel k with erasing := update s.erasing k (s.erasing k + 1) }
  | .cancelErase k =>
    { s.cancelErase k with
      erasing := update s.erasing k (s.erasing k - 1)
      checking := update s.checking k (s.checking k + 1) }
  | .cancelCheck k =>
    { s.cancelCheck k with
      checking := update s.checking k (s.checking k - 1)
      cancelled := s.cancelled ++ [k] }
  | .handleRequest delivered succeeds => s.handleRequest delivered succeeds
  | .handleResult ofStream k status => s.handleResult ofStream k status
  | .onFrame status => s.onFrame status
  | .stopStream => s.stopStream
  | .proceedStop succeeds => s.proceedStop succeeds

/-- After a crash there is nothing to see of the step. -/
def step (s : StreamBase) (step : StreamStep) : StreamBase :=
  if s.crashed then s
  else if (s.perform step).crashed then s.crash
  else s.perform step

/-- What can come from outside: every request is added once, only requests that were given to the stream are cancelled, calls of
    the operator follow each other, and so do results, of which none comes after all buffers were returned to `StopStream`. -/
def Possible (s : StreamBase) : StreamStep → Prop
  | .configStream _ | .attachStreamTunnel | .detachStreamTunnel | .commitStream _ | .stopStream => s.stop = none
  | .addRequest k .. => (s.requests k).added = .unknown
  | .cancel k | .setFirstRequest k _ => (s.requests k).added ≠ .unknown
  | .cancelErase k => 0 < s.erasing k
  | .cancelCheck k => 0 < s.checking k
  | .handleResult .. => s.result = none ∧ s.stop ≠ some .stop ∧ s.stop ≠ some .finish
  | .queueRequest _ | .handleRequest .. | .onFrame _ | .proceedStop _ => True

end StreamBase

end Peripheral.Camera
