import Mathlib.Tactic
import Peripheral.StreamBase

/-!
The calls of `StreamOperator` on one of its streams, one after the other, while the
thread of the stream and the results go on. Which members of a stream are set depends on
all calls before, and its parts check only some of them.
-/
namespace Peripheral.Camera
open Peripheral.Transitions StreamBase

/-- `commitStreams` has whether the streams must be stopped before. -/
inductive OperatorCall
  | attachBufferQueue
  | detachBufferQueue
  | commitStreams (restart : Bool) (outcome : CommitOutcome)
  | capture (captureId : Int) (isContinuous needShutterCallback prepared started : Bool)
  | cancelCapture (captureId : Int)
  | releaseStreams
  deriving DecidableEq

/-- What is left of a call when `StopStream` returned. -/
inductive AfterStop
  | detach
  | commit (outcome : CommitOutcome)
  | release
  deriving DecidableEq

inductive CallPhase
  | stopping (next : AfterStop)
  | detach
  | commit (outcome : CommitOutcome)
  | queue (captureId : Int)
  | erase (captureId : Int)
  | check (captureId : Int)
  deriving DecidableEq

/-- A stream, the call of the operator that goes on, and whether the stream left the map. -/
structure OperatedStream where
  stream : StreamBase
  call : Option CallPhase
  released : Bool

inductive OperatedStep
  | call (call : OperatorCall)
  | proceed (succeeds : Bool)
  | handleRequest (delivered succeeds : Bool)
  | handleResult (ofStream : Bool) (captureId : Int) (status : CameraBufferStatus)
  | onFrame (status : CameraBufferStatus)
  | setFirstRequest (captureId : Int) (first : Bool)

namespace OperatedStream

/-- What `CreateStreams` does for one stream; a buffer queue without tunnel mode is refused. -/
def create (tunneledMode bufferQueue : Bool) : Option OperatedStream :=
  let stream := new.configStream tunneledMode
  if !tunneledMode && bufferQueue then none
  else some ⟨if bufferQueue then stream.attachStreamTunnel else stream, none, false⟩

/-- `StopStream` is called, and the rest follows when it returns. -/
def stopThen (o : OperatedStream) (next : AfterStop) (rest : StreamBase → OperatedStream) : OperatedStream :=
  let stream := o.stream.step .stopStream
  if stream.stop = none then rest stream else { o with stream := stream, call := some (.stopping next) }

def begin (o : OperatedStream) : OperatorCall → OperatedStream
  | .attachBufferQueue =>
    if !o.stream.tunnelMode then o else { o with stream := o.stream.step .attachStreamTunnel }
  | .detachBufferQueue =>
    if !o.stream.tunnelMode then o
    else if o.stream.state = .busy then o.stopThen .detach fun stream => { o with stream := stream, call := some .detach }
    else { o with call := some .detach }
  | .commitStreams restart outcome =>
    if restart then
      o.stopThen (.commit outcome) fun stream => { o with stream := stream, call := some (.commit outcome) }
    else { o with call := some (.commit outcome) }
  | .capture k isContinuous needShutterCallback prepared started =>
    let stream := o.stream.step (.addRequest k isContinuous needShutterCallback prepared started)
    { o with stream := stream, call := if (stream.requests k).added = .toQueue then some (.queue k) else none }
  | .cancelCapture k => { o with stream := o.stream.step (.cancel k), call := some (.erase k) }
  | .releaseStreams =>
    if o.stream.state = .busy then o.stopThen .release fun stream => { o with stream := stream, released := true }
    else { o with released := true }

/-- The rest of a call when `StopStream` returned. Only `DetachBufferQueue` looks at what it returned. -/
def afterStop (o : OperatedStream) (stream : StreamBase) (ok : Bool) : AfterStop → OperatedStream
  | .detach => { o with stream := stream, call := if ok then some .detach else none }
  | .commit outcome => { o with stream := stream, call := some (.commit outcome) }
  | .release => { o with stream := stream, call := none, released := true }

def proceed (o : OperatedStream) (succeeds : Bool) : OperatedStream :=
  match o.call with
  | none => o
  | some (.stopping next) =>
    let stream := o.stream.step (.proceedStop succeeds)
    if stream.stop = none then o.afterStop stream (o.stream.stop = some .finish) next else { o with stream := stream }
  | some .detach => { o with stream := o.stream.step .detachStreamTunnel, call := none }
  | some (.commit outcome) => { o with stream := o.stream.step (.commitStream outcome), call := none }
  | some (.queue k) => { o with stream := o.stream.step (.queueRequest k), call := none }
  | some (.erase k) => { o with stream := o.stream.step (.cancelErase k), call := some (.check k) }
  | some (.check k) => { o with stream := o.stream.step (.cancelCheck k), call := none }

def step (o : OperatedStream) : OperatedStep → OperatedStream
  | .call call => if o.call = none ∧ o.released = false then o.begin call else o
  | .proceed succeeds => o.proceed succeeds
  | .handleRequest delivered succeeds => { o with stream := o.stream.step (.handleRequest delivered succeeds) }
  | .handleResult ofStream k status => { o with stream := o.stream.step (.handleResult ofStream k status) }
  | .onFrame status => { o with stream := o.stream.step (.onFrame status) }
  | .setFirstRequest k first => { o with stream := o.stream.step (.setFirstRequest k first) }

/-- Every request is added once and only known ones are cancelled; `CommitStreams` has a pipeline; results come one after
    the other, and none after all buffers were returned to `StopStream`. -/
def Possible (o : OperatedStream) : OperatedStep → Prop
  | .call (.capture k ..) => (o.stream.requests k).added = .unknown
  | .call (.cancelCapture k) => (o.stream.requests k).added ≠ .unknown
  | .call (.commitStreams _ outcome) => outcome.pipeline = true
  | .handleResult .. => o.stream.result = none ∧ o.stream.stop ≠ some .stop ∧ o.stream.stop ≠ some .finish
  | .setFirstRequest k _ => (o.stream.requests k).added ≠ .unknown
  | _ => True

/-- A committed stream is started or stopped while it has a buffer queue; a continuous capture is cancelled while the stream has
    one and was committed; the queue is detached from a stream that does not run while nothing is in transit; and a frame came
    before `StopStream` is at its end. -/
def Equipped (o : OperatedStream) : OperatedStep → Prop
  | .call (.capture ..) => o.stream.isFirstRequest = true → o.stream.state = .active → o.stream.tunnel = true
  | .call (.commitStreams restart _) => restart = true → o.stream.state ≠ .idle → o.stream.tunnel = true
  | .call (.cancelCapture k) => (o.stream.requests k).isContinuous = true → o.stream.tunnel = true ∧ o.stream.pipeline = true
  | .call .detachBufferQueue => o.stream.state ≠ .busy → o.stream.inTransitList = []
  | .proceed _ => o.stream.stop = some .finish → o.stream.lastRequest ≠ none
  | _ => True

end OperatedStream

/-- What ties the members to the state of a stream that has not crashed. -/
structure Wired (s : StreamBase) : Prop where
  alive : s.crashed = false
  mode : s.tunnel = true → s.tunnelMode = true
  pool : s.state ≠ .idle → s.tunnelMode = true → s.bufferPool = true
  pipeline : s.state ≠ .idle → s.pipeline = true
  stopping : s.stop ≠ none → s.state = .idle ∧ s.tunnel = true ∧ s.bufferPool = true ∧ s.pipeline = true
  running : s.thread ≠ .none → s.state = .busy ∨ s.stop = some .join
  busy : s.state = .busy → s.tunnel = true
  transit : s.inTransitList ≠ [] → s.tunnel = true
  framed : ∀ k, s.result = some (k, .frame) ∨ s.result = some (k, .decide) ∨ (∃ isEnded, s.result = some (k, .erase isEnded)) →
    k ∈ s.inTransitList
  home : s.stop = some .stop ∨ s.stop = some .finish → s.buffersReturned = true

namespace Wired
attribute [local grind] buffersReturned
variable {s : StreamBase} {j : Int}

theorem step (wired : Wired s) {step : StreamStep} (performed : Wired (s.perform step)) : s.step step = s.perform step := by
  rw [StreamBase.step, wired.alive, performed.alive]
  rfl

theorem configStream (tunnelMode : Bool) : Wired (StreamBase.new.configStream tunnelMode) := by
  constructor <;> simp [StreamBase.configStream, StreamBase.new]

section
variable (wired : Wired s)
include wired

theorem attachStreamTunnel : s.tunnelMode = true → Wired s.attachStreamTunnel := by
  intro mode
  rw [StreamBase.attachStreamTunnel]
  cases wired
  constructor <;> grind -ring -linarith

theorem detachStreamTunnel (free : s.stop = none) (nothing : s.inTransitList = []) : Wired s.detachStreamTunnel := by
  rw [StreamBase.detachStreamTunnel]
  cases wired
  constructor <;> grind -ring -linarith

theorem commitStream (free : s.stop = none) {outcome : CommitOutcome} (pipeline : outcome.pipeline = true) :
    Wired (s.commitStream outcome) := by
  rw [StreamBase.commitStream]
  cases wired
  constructor <;> grind -ring -linarith

theorem startStream (prepared started : Bool) (tunnel : s.state = .active → s.tunnel = true) :
    Wired (s.startStream prepared started).1 := by
  rw [StreamBase.startStream]
  cases wired
  constructor <;> grind -ring -linarith [crash]

theorem same {t : StreamBase} (crashed : t.crashed = s.crashed) (mode : t.tunnelMode = s.tunnelMode)
    (tunnel : t.tunnel = s.tunnel) (bufferPool : t.bufferPool = s.bufferPool) (pipeline : t.pipeline = s.pipeline)
    (state : t.state = s.state) (stop : t.stop = s.stop) (thread : t.thread = s.thread) (result : t.result = s.result)
    (transit : t.inTransitList = s.inTransitList) : Wired t := by
  cases wired
  constructor <;> simp only [*, buffersReturned] <;> assumption

theorem addRequest {isContinuous needShutterCallback prepared started : Bool}
    (tunnel : s.isFirstRequest = true → s.state = .active → s.tunnel = true) :
    Wired (s.addRequest j isContinuous needShutterCallback prepared started) := by
  rw [StreamBase.addRequest]
  split
  · rename_i first
    have starts := wired.startStream prepared started (tunnel first)
    dsimp only
    split
    · exact starts.same rfl rfl rfl rfl rfl rfl rfl rfl rfl rfl
    · exact starts.same rfl rfl rfl rfl rfl rfl rfl rfl rfl rfl
  · exact wired.same rfl rfl rfl rfl rfl rfl rfl rfl rfl rfl

theorem queueRequest : Wired (s.queueRequest j) := by
  rw [StreamBase.queueRequest]
  split
  · exact wired.same rfl rfl rfl rfl rfl rfl rfl rfl rfl rfl
  · exact wired

theorem cancelCheck (set : (s.requests j).isContinuous = true → s.tunnel = true ∧ s.pipeline = true) :
    Wired (s.cancelCheck j) := by
  rw [StreamBase.cancelCheck]
  split
  · rename_i free
    obtain ⟨tunnel, pipeline⟩ := set free.1
    rw [tunnel, pipeline]
    exact wired.same rfl rfl rfl rfl rfl rfl rfl rfl rfl rfl
  · exact wired

theorem handleRequest (delivered succeeds : Bool) : Wired (s.handleRequest delivered succeeds) := by
  have tunnel : s.thread ≠ .none → s.tunnel = true := by
    intro runs
    obtain busy | join := wired.running runs
    · exact wired.busy busy
    · exact (wired.stopping (by rw [join]; exact nofun)).2.1
  cases wired
  constructor <;> grind -ring -linarith [handleRequest, report, setRequest]

theorem handleResult {ofStream : Bool} {status : CameraBufferStatus} (idle : s.result = none)
    (notStop : s.stop ≠ some .stop) (notFinish : s.stop ≠ some .finish) : Wired (s.handleResult ofStream j status) := by
  rw [StreamBase.handleResult]
  cases wired
  constructor <;> grind -ring -linarith

theorem onFrame (status : CameraBufferStatus) : Wired (s.onFrame status) := by
  cases wired
  constructor <;> grind -ring -linarith [onFrame, report, crash]

theorem stopStream (free : s.stop = none) (tunnel : s.state ≠ .idle → s.tunnel = true) : Wired s.stopStream := by
  rw [StreamBase.stopStream]
  cases wired
  constructor <;> grind -ring -linarith [crash]

theorem finishStop (now : s.stop = some .finish) (came : s.lastRequest ≠ none) : Wired s.finishStop := by
  obtain ⟨last, known⟩ := Option.ne_none_iff_exists'.mp came
  obtain ⟨idle, tunnel, bufferPool, pipeline⟩ := wired.stopping (by rw [now]; exact nofun)
  have home := wired.home (.inr now)
  rw [StreamBase.finishStop, known]
  cases wired
  constructor <;> grind -ring -linarith [report, crash]

theorem nextPhase (stopping : s.stop ≠ none) (rests : s.thread = .none) {t : StreamBase}
    (crashed : t.crashed = s.crashed) (mode : t.tunnelMode = s.tunnelMode) (tunnel : t.tunnel = s.tunnel)
    (bufferPool : t.bufferPool = s.bufferPool) (pipeline : t.pipeline = s.pipeline) (state : t.state = s.state)
    (thread : t.thread = s.thread) (result : t.result = s.result) (transit : t.inTransitList = s.inTransitList)
    (home : t.stop = some .stop ∨ t.stop = some .finish → s.buffersReturned = true) : Wired t where
  alive := crashed.trans wired.alive
  mode := by simpa only [tunnel, mode] using wired.mode
  pool := by simpa only [state, mode, bufferPool] using wired.pool
  pipeline := by simpa only [state, pipeline] using wired.pipeline
  stopping := by simpa only [state, tunnel, bufferPool, pipeline] using fun _ => wired.stopping stopping
  running := fun runs => absurd (thread.trans rests) runs
  busy := by simpa only [state, tunnel] using wired.busy
  transit := by simpa only [transit, tunnel] using wired.transit
  framed := by simpa only [result, transit] using wired.framed
  home := by simpa only [buffersReturned, result] using home

theorem proceedStop {succeeds : Bool} (came : s.stop = some .finish → s.lastRequest ≠ none) :
    Wired (s.proceedStop succeeds) := by
  cases now : s.stop with
  | none =>
    simp only [StreamBase.proceedStop, now]
    exact wired
  | some phase =>
    have stopping : s.stop ≠ none := by
      rw [now]
      exact nofun
    obtain ⟨idle, tunnel, bufferPool, pipeline⟩ := wired.stopping stopping
    have rests (joined : phase ≠ .join) : s.thread = .none := by
      by_contra runs
      rcases wired.running runs with busy | joins
      · exact absurd (idle.symm.trans busy) nofun
      · exact joined (Option.some.inj (now.symm.trans joins))
    have next (gone : s.thread = .none) {t : StreamBase} := @nextPhase s wired stopping gone t
    cases phase with
    | join =>
      simp only [StreamBase.proceedStop, now]
      split
      · rename_i gone
        exact next gone rfl rfl rfl rfl rfl rfl rfl rfl rfl nofun
      · exact wired
    | front =>
      simp only [StreamBase.proceedStop, now]
      split
      · split
        · exact next (rests nofun) rfl rfl rfl rfl rfl rfl rfl rfl rfl nofun
        · exact next (rests nofun) rfl rfl rfl rfl rfl rfl rfl rfl rfl nofun
      · exact next (rests nofun) rfl rfl rfl rfl rfl rfl rfl rfl rfl nofun
    | erase k =>
      simp only [StreamBase.proceedStop, now]
      exact next (rests nofun) rfl rfl rfl rfl rfl rfl rfl rfl rfl nofun
    | check k =>
      simp only [StreamBase.proceedStop, now, StreamBase.cancelCheck, tunnel, pipeline]
      split
      · exact next (rests nofun) rfl rfl rfl rfl rfl rfl rfl rfl rfl nofun
      · exact next (rests nofun) rfl rfl rfl rfl rfl rfl rfl rfl rfl nofun
    | clear =>
      simp only [StreamBase.proceedStop, now]
      exact next (rests nofun) rfl rfl rfl rfl rfl rfl rfl rfl rfl nofun
    | flush =>
      simp only [StreamBase.proceedStop, now, pipeline]
      split
      · contradiction
      · split
        · exact next (rests nofun) rfl rfl rfl rfl pipeline.symm rfl rfl rfl rfl nofun
        · exact next (rests nofun) rfl rfl rfl rfl pipeline.symm rfl rfl rfl rfl nofun
    | wait =>
      simp only [StreamBase.proceedStop, now, tunnel]
      split
      · contradiction
      · split
        · rename_i home
          exact next (rests nofun) rfl rfl tunnel.symm rfl rfl rfl rfl rfl rfl fun _ => home
        · exact wired
    | stop =>
      simp only [StreamBase.proceedStop, now, pipeline]
      split
      · contradiction
      · split
        · exact next (rests nofun) rfl rfl rfl rfl pipeline.symm rfl rfl rfl rfl fun _ => wired.home (.inl now)
        · exact next (rests nofun) rfl rfl rfl rfl pipeline.symm rfl rfl rfl rfl nofun
    | finish =>
      simp only [StreamBase.proceedStop, now]
      exact wired.finishStop now (came now)

end

end Wired

/-! ### Calls and what goes on beside them -/

/-- What the call that goes on rests on. -/
structure Guarded (o : OperatedStream) : Prop where
  wired : Wired o.stream
  stopping : (∃ next, o.call = some (.stopping next)) ↔ o.stream.stop ≠ none
  detaching : o.call = some .detach → o.stream.state ≠ .busy ∧ o.stream.inTransitList = []
  committing : ∀ outcome, o.call = some (.commit outcome) ∨ o.call = some (.stopping (.commit outcome)) →
    outcome.pipeline = true
  cancelling : ∀ k, o.call = some (.erase k) ∨ o.call = some (.check k) → (o.stream.requests k).isContinuous = true →
    o.stream.tunnel = true ∧ o.stream.pipeline = true

/-- What the threads of the stream leave as it is. -/
structure Beside (s t : StreamBase) : Prop where
  stop : t.stop = s.stop
  state : t.state = s.state
  tunnel : t.tunnel = s.tunnel
  pipeline : t.pipeline = s.pipeline
  kinds : ∀ k, (t.requests k).isContinuous = (s.requests k).isContinuous
  transit : s.thread = .none → s.inTransitList = [] → t.inTransitList = []

namespace Beside
variable {s : StreamBase}

theorem setRequest {j : Int} {request : StreamRequest} (same : request.isContinuous = (s.requests j).isContinuous) :
    Beside s (s.setRequest j request) := by
  refine ⟨rfl, rfl, rfl, rfl, ?_, fun _ => id⟩
  intro k
  by_cases own : k = j
  · subst own
    simpa [StreamBase.setRequest] using same
  · simp [StreamBase.setRequest, own]

theorem handleRequest (s : StreamBase) (delivered succeeds : Bool) : Beside s (s.handleRequest delivered succeeds) := by
  have kept {thread : RequestThread} {waiting : List Int} {captured : Int → Nat} {failed : Bool} :
      Beside s { s with thread := thread, waitingList := waiting, captured := captured, failed := failed } :=
    ⟨rfl, rfl, rfl, rfl, fun _ => rfl, fun _ => id⟩
  cases now : s.thread with
  | none | loop =>
    simp only [StreamBase.handleRequest, now]
    repeat' split
    all_goals exact kept
  | take =>
    simp only [StreamBase.handleRequest, now]
    split <;> exact kept
  | holds k phase =>
    cases phase with
    | push =>
      simp only [StreamBase.handleRequest, now]
      exact ⟨rfl, rfl, rfl, rfl, fun _ => rfl, fun none => absurd (now.symm.trans none) nofun⟩
    | started =>
      simp only [StreamBase.handleRequest, now]
      have first : Beside s (s.setRequest k { s.requests k with isFirstRequest := false }) := setRequest rfl
      split
      · exact ⟨rfl, rfl, rfl, rfl, first.kinds, fun _ => id⟩
      · exact kept
    | check | deliver | recheck | config | capture =>
      simp only [StreamBase.handleRequest, now]
      repeat' split
      all_goals exact kept

theorem handleResult (s : StreamBase) (ofStream : Bool) (k : Int) (status : CameraBufferStatus) :
    Beside s (s.handleResult ofStream k status) := by
  rw [StreamBase.handleResult]
  split
  · exact ⟨rfl, rfl, rfl, rfl, fun _ => rfl, fun _ => id⟩
  · split <;> exact ⟨rfl, rfl, rfl, rfl, fun _ => rfl, fun _ => id⟩

theorem onFrame (s : StreamBase) (status : CameraBufferStatus) : Beside s (s.onFrame status) := by
  constructor <;> grind -ring -linarith [StreamBase.onFrame, StreamBase.report, StreamBase.crash]

end Beside

namespace Guarded
variable {o : OperatedStream}

theorem beside (guarded : Guarded o) {step : StreamStep} (wired : Wired (o.stream.perform step))
    (beside : Beside o.stream (o.stream.perform step)) : Guarded { o with stream := o.stream.step step } := by
  rw [guarded.wired.step wired]
  refine ⟨wired, ?_, ?_, guarded.committing, ?_⟩
  · rw [beside.stop]
    exact guarded.stopping
  · intro detach
    obtain ⟨rests, nothing⟩ := guarded.detaching detach
    have free : o.stream.stop = none := by
      by_contra stopping
      obtain ⟨next, stops⟩ := guarded.stopping.mpr stopping
      rw [detach] at stops
      cases stops
    have ended : o.stream.thread = .none := by
      by_contra runs
      obtain busy | join := guarded.wired.running runs
      · exact rests busy
      · rw [free] at join
        cases join
    exact ⟨by rw [beside.state]; exact rests, beside.transit ended nothing⟩
  · intro k cancel continuous
    rw [beside.kinds] at continuous
    rw [beside.tunnel, beside.pipeline]
    exact guarded.cancelling k cancel continuous

theorem returned {stream : StreamBase} (wired : Wired stream) (free : stream.stop = none) (released : Bool) :
    Guarded ⟨stream, none, released⟩ := by
  refine ⟨wired, ?_, nofun, nofun, nofun⟩
  simp [free]

theorem committed {stream : StreamBase} (wired : Wired stream) (free : stream.stop = none) {outcome : CommitOutcome}
    (pipeline : outcome.pipeline = true) (released : Bool) : Guarded ⟨stream, some (.commit outcome), released⟩ := by
  refine ⟨wired, ?_, nofun, ?_, nofun⟩
  · simp [free]
  · rintro other (same | same)
    · cases same
      exact pipeline
    · cases same

theorem stopThen (guarded : Guarded o) (free : o.stream.stop = none) (tunnel : o.stream.state ≠ .idle → o.stream.tunnel = true)
    {next : AfterStop} (committing : ∀ outcome, next = .commit outcome → outcome.pipeline = true)
    {rest : StreamBase → OperatedStream}
    (goesOn : (o.stream.state = .idle ∨ o.stream.pipeline = false) → Guarded (rest o.stream)) :
    Guarded (o.stopThen next rest) := by
  have wired : Wired (o.stream.perform .stopStream) := guarded.wired.stopStream free tunnel
  rw [OperatedStream.stopThen, guarded.wired.step wired]
  by_cases stays : (o.stream.perform .stopStream).stop = none
  · rw [if_pos stays]
    have same : o.stream.stopStream = o.stream ∧ (o.stream.state = .idle ∨ o.stream.pipeline = false) := by
      revert stays
      rw [perform, stopStream]
      grind [crash]
    rw [perform, same.1]
    exact goesOn same.2
  · rw [if_neg stays]
    refine ⟨wired, ⟨fun _ => stays, fun _ => ⟨next, rfl⟩⟩, nofun, ?_, nofun⟩
    rintro outcome (same | same)
    · cases same
    · cases same
      exact committing outcome rfl

theorem call_none (guarded : Guarded o) (idle : o.call = none) : o.stream.stop = none := by
  by_contra stopping
  obtain ⟨next, stops⟩ := guarded.stopping.mpr stopping
  rw [idle] at stops
  cases stops

theorem detachBufferQueue (guarded : Guarded o) (idle : o.call = none)
    (nothing : o.stream.state ≠ .busy → o.stream.inTransitList = []) : Guarded (o.begin .detachBufferQueue) := by
  have free := guarded.call_none idle
  rw [OperatedStream.begin]
  split
  · exact guarded
  · split
    · rename_i busy
      refine guarded.stopThen free (fun _ => guarded.wired.busy busy) (fun _ same => by cases same) ?_
      rintro (rests | unset)
      · rw [busy] at rests
        cases rests
      · rw [guarded.wired.pipeline (by rw [busy]; decide)] at unset
        cases unset
    · rename_i rests
      exact ⟨guarded.wired, by simp [free], fun _ => ⟨rests, nothing rests⟩, nofun, nofun⟩

theorem stop_addRequest (s : StreamBase) (k : Int) (isContinuous needShutterCallback prepared started : Bool) :
    (s.addRequest k isContinuous needShutterCallback prepared started).stop = s.stop := by
  rw [addRequest, startStream]
  grind [setRequest, crash]

theorem begin (guarded : Guarded o) (idle : o.call = none) {call : OperatorCall} (possible : o.Possible (.call call))
    (equipped : o.Equipped (.call call)) : Guarded (o.begin call) := by
  have free := guarded.call_none idle
  have wired := guarded.wired
  cases call with
  | attachBufferQueue =>
    rw [OperatedStream.begin]
    split
    · exact guarded
    · rename_i mode
      have attached : Wired (o.stream.perform .attachStreamTunnel) := wired.attachStreamTunnel (by simpa using mode)
      rw [wired.step attached, idle]
      refine returned attached ?_ o.released
      rw [perform, attachStreamTunnel]
      split <;> exact free
  | detachBufferQueue => exact guarded.detachBufferQueue idle equipped
  | commitStreams restart outcome =>
    rw [OperatedStream.begin]
    split
    · rename_i restarts
      refine guarded.stopThen free (equipped restarts) ?_ fun _ => committed wired free possible o.released
      rintro other same
      cases same
      exact possible
    · exact committed wired free possible o.released
  | capture k isContinuous needShutterCallback prepared started =>
    have added : Wired (o.stream.perform (.addRequest k isContinuous needShutterCallback prepared started)) :=
      wired.addRequest equipped
    have free : (o.stream.perform (.addRequest k isContinuous needShutterCallback prepared started)).stop = none := by
      rw [perform, stop_addRequest, free]
    rw [OperatedStream.begin, wired.step added]
    split
    · exact ⟨added, by simp [free], nofun, nofun, nofun⟩
    · exact returned added free o.released
  | cancelCapture k =>
    have cancelled : Wired (o.stream.perform (.cancel k)) := wired.same rfl rfl rfl rfl rfl rfl rfl rfl rfl rfl
    rw [OperatedStream.begin, wired.step cancelled]
    refine ⟨cancelled, ?_, nofun, nofun, ?_⟩
    · simp [perform, setNeedCancel, setRequest, free]
    · rintro j (same | same) continuous
      · cases same
        exact equipped (by simpa [perform, setNeedCancel, setRequest] using continuous)
      · cases same
  | releaseStreams =>
    rw [OperatedStream.begin]
    have released := returned wired free true
    split
    · rename_i busy
      refine guarded.stopThen free (fun _ => wired.busy busy) (fun _ same => by cases same) fun _ => ?_
      rw [idle]
      exact released
    · rw [idle]
      exact released

theorem proceedStop (guarded : Guarded o) {next : AfterStop} (now : o.call = some (.stopping next)) {succeeds : Bool}
    (came : o.stream.stop = some .finish → o.stream.lastRequest ≠ none) : Guarded (o.proceed succeeds) := by
  have stopped : Wired (o.stream.perform (.proceedStop succeeds)) := guarded.wired.proceedStop came
  simp only [OperatedStream.proceed, now, guarded.wired.step stopped]
  split
  · rename_i free
    cases next with
    | detach =>
      rw [OperatedStream.afterStop]
      split
      · rename_i finishes
        have finishes : o.stream.stop = some .finish := by simpa using finishes
        obtain ⟨last, known⟩ := Option.ne_none_iff_exists'.mp (came finishes)
        obtain ⟨idle, tunnel, bufferPool, -⟩ := guarded.wired.stopping (by rw [finishes]; exact nofun)
        refine ⟨stopped, by simp [free], fun _ => ?_, nofun, nofun⟩
        rw [StreamBase.perform, StreamBase.proceedStop, finishes]
        grind [finishStop, report]
      · exact returned stopped free o.released
    | commit outcome => exact committed stopped free (guarded.committing outcome (.inr now)) o.released
    | release => exact returned stopped free true
  · rename_i stops
    refine ⟨stopped, ⟨fun _ => stops, fun _ => ⟨next, rfl⟩⟩, nofun, ?_, ?_⟩
    · rw [← now]
      exact guarded.committing
    · rintro k (cancel | cancel) <;> cases cancel

theorem proceed (guarded : Guarded o) {succeeds : Bool} (equipped : o.Equipped (.proceed succeeds)) :
    Guarded (o.proceed succeeds) := by
  have wired := guarded.wired
  cases now : o.call with
  | none =>
    simp only [OperatedStream.proceed, now]
    exact guarded
  | some phase =>
    have free (apart : ∀ next, phase ≠ .stopping next) : o.stream.stop = none := by
      by_contra stopping
      obtain ⟨next, stops⟩ := guarded.stopping.mpr stopping
      rw [now, Option.some.injEq] at stops
      exact apart next stops
    cases phase with
    | stopping next => exact guarded.proceedStop now equipped
    | detach =>
      have free := free nofun
      have detached : Wired (o.stream.perform .detachStreamTunnel) :=
        wired.detachStreamTunnel free (guarded.detaching now).2
      simp only [OperatedStream.proceed, now, wired.step detached]
      refine returned detached ?_ o.released
      rw [perform, detachStreamTunnel]
      split <;> exact free
    | commit outcome =>
      have free := free nofun
      have commits : Wired (o.stream.perform (.commitStream outcome)) :=
        wired.commitStream free (guarded.committing outcome (.inl now))
      simp only [OperatedStream.proceed, now, wired.step commits]
      refine returned commits ?_ o.released
      rw [perform, commitStream]
      grind
    | queue k =>
      have queues : Wired (o.stream.perform (.queueRequest k)) := wired.queueRequest
      simp only [OperatedStream.proceed, now, wired.step queues]
      refine returned queues ?_ o.released
      rw [perform, queueRequest]
      split <;> exact free nofun
    | erase k =>
      have erases : Wired (o.stream.perform (.cancelErase k)) := wired.same rfl rfl rfl rfl rfl rfl rfl rfl rfl rfl
      simp only [OperatedStream.proceed, now, wired.step erases]
      refine ⟨erases, ?_, nofun, nofun, ?_⟩
      · simpa [perform, cancelErase] using free nofun
      · rintro j (same | same)
        · cases same
        · cases same
          exact guarded.cancelling k (.inl now)
    | check k =>
      have checked := wired.cancelCheck (guarded.cancelling k (.inr now))
      have checks : Wired (o.stream.perform (.cancelCheck k)) := checked.same rfl rfl rfl rfl rfl rfl rfl rfl rfl rfl
      simp only [OperatedStream.proceed, now, wired.step checks]
      refine returned checks ?_ o.released
      rw [perform, cancelCheck]
      have free := free nofun
      grind [report, crash]

theorem step (guarded : Guarded o) {step : OperatedStep} (possible : o.Possible step) (equipped : o.Equipped step) :
    Guarded (o.step step) := by
  have wired := guarded.wired
  cases step with
  | call call =>
    rw [OperatedStream.step]
    split
    · rename_i idle
      exact guarded.begin idle.1 possible equipped
    · exact guarded
  | proceed succeeds => exact guarded.proceed equipped
  | handleRequest delivered succeeds =>
    exact guarded.beside (wired.handleRequest delivered succeeds) (.handleRequest _ delivered succeeds)
  | handleResult ofStream k status =>
    exact guarded.beside (wired.handleResult possible.1 possible.2.1 possible.2.2) (.handleResult _ ofStream k status)
  | onFrame status => exact guarded.beside (wired.onFrame status) (.onFrame _ status)
  | setFirstRequest k first =>
    exact guarded.beside (wired.same rfl rfl rfl rfl rfl rfl rfl rfl rfl rfl) (.setRequest rfl)

end Guarded

namespace OperatedStream

instance (o : OperatedStream) : (step : OperatedStep) → Decidable (o.Possible step)
  | .call (.capture k ..) => inferInstanceAs (Decidable ((o.stream.requests k).added = .unknown))
  | .call (.cancelCapture k) | .setFirstRequest k _ => inferInstanceAs (Decidable ((o.stream.requests k).added ≠ .unknown))
  | .call (.commitStreams _ outcome) => inferInstanceAs (Decidable (outcome.pipeline = true))
  | .handleResult .. => inferInstanceAs (Decidable (o.stream.result = none ∧ _))
  | .call .attachBufferQueue | .call .detachBufferQueue | .call .releaseStreams | .proceed _ | .handleRequest .. | .onFrame _ =>
    inferInstanceAs (Decidable True)

instance (o : OperatedStream) : (step : OperatedStep) → Decidable (o.Equipped step)
  | .call (.capture ..) | .call (.commitStreams ..) => inferInstanceAs (Decidable (_ → _ → o.stream.tunnel = true))
  | .call (.cancelCapture _) => inferInstanceAs (Decidable (_ → _ ∧ _))
  | .call .detachBufferQueue => inferInstanceAs (Decidable (_ → o.stream.inTransitList = []))
  | .proceed _ => inferInstanceAs (Decidable (_ → o.stream.lastRequest ≠ none))
  | .call .attachBufferQueue | .call .releaseStreams | .handleRequest .. | .handleResult .. | .onFrame _ | .setFirstRequest .. =>
    inferInstanceAs (Decidable True)

end OperatedStream

/-- A stream that is equipped for its calls never crashes. -/
theorem stream_never_crashes {tunneledMode bufferQueue : Bool} {first o : OperatedStream}
    (created : OperatedStream.create tunneledMode bufferQueue = some first)
    (reached : Reaches OperatedStream.step (fun o e => o.Possible e ∧ o.Equipped e) first o) : o.stream.crashed = false := by
  have begins : Guarded first := by
    have configured := Wired.configStream tunneledMode
    have free : (new.configStream tunneledMode).stop = none := by
      simp [configStream, new]
    simp only [OperatedStream.create] at created
    split at created
    · cases created
    · rename_i accepted
      cases created
      split
      · rename_i queue
        have mode : tunneledMode = true := by simpa [queue] using accepted
        have attached := configured.attachStreamTunnel (by simp [configStream, new, mode])
        refine .returned attached ?_ false
        simp [attachStreamTunnel, configStream, new]
      · exact .returned configured free false
  exact (reached.keeps begins fun _ _ guarded may => guarded.step may.1 may.2).wired.alive

def tunneled : OperatedStream := ⟨(new.configStream true).attachStreamTunnel, none, false⟩

def committing : List OperatedStep :=
  [.call (.commitStreams true ⟨true, true, true, true, true⟩), .proceed true, .call (.capture 1 true false true true), .proceed true]

def releasing : List OperatedStep :=
  [.call .releaseStreams, .handleRequest true true] ++ List.replicate 9 (.proceed true)

def releaseAfterFrame : List OperatedStep :=
  committing ++ List.replicate 9 (.handleRequest true true) ++ [.handleResult true 1 .ok] ++ List.replicate 5 (.onFrame .ok) ++
    releasing

theorem releaseAfterFrame_alive : (releaseAfterFrame.foldl OperatedStream.step tunneled).released = true ∧
      (releaseAfterFrame.foldl OperatedStream.step tunneled).stream.crashed = false :=
  ⟨by decide, stream_never_crashes (show OperatedStream.create true true = some tunneled from rfl) (Takes.reaches (by decide))⟩

/-- `ReleaseStreams` follows `Capture` before a frame came, and `StopStream` asks `lastRequest_` whether it is continuous. -/
theorem release_before_frame_crashes :
    ∃ first o, OperatedStream.create true true = some first ∧ Reaches OperatedStream.step OperatedStream.Possible first o ∧
      o.stream.crashed = true :=
  ⟨tunneled, (committing ++ releasing).foldl OperatedStream.step tunneled, rfl, Takes.reaches (by decide), by decide⟩

end Peripheral.Camera
