import Peripheral.CaptureRequest
import Peripheral.Transitions

/-!
The request has one place for a buffer. With one owner each buffer comes back to the call
that attached it as long as no other one attaches before it is read; with more owners all
of them attach before any reads, and every one of them reads the buffer of the last.
-/
namespace Peripheral.Camera

open SharedCapture OwnedCapture List

/-- What a call of the only owner goes by: until it reads the place for the buffer it finds its own there, and the barrier is
    its own. -/
def ResultCall.Goes (request : CaptureRequest) (call : ResultCall) : Prop :=
  match call.phase with
  | .search | .attach | .done => True
  | .sync | .frame => request.semr.syncCount = 0 ∧ request.buffer = some call.own
  | .counted | .toOpen => request.semr.syncCount = 1 ∧ request.buffer = some call.own
  | .toWait | .waiting => False
  | .erase buffer | .receive buffer | .put buffer => buffer.id = call.own.id

/-- One call at most is to read the place for the buffer. -/
structure Held (request : CaptureRequest) (calls : List ResultCall) : Prop where
  goes : ∀ call ∈ calls, call.Goes request
  alone : calls.countP ResultCall.attached ≤ 1
  free : calls.countP ResultCall.attached = 0 → request.semr.syncCount = 0

section
variable {request later : CaptureRequest} {call next : ResultCall} {calls before after : List ResultCall}

theorem ResultCall.Goes.aside (goes : call.Goes request) (lacks : ¬call.attached) : call.Goes later := by
  obtain ⟨stream, own, phase⟩ := call
  cases phase with
  | search | attach | done => trivial
  | sync | frame | counted | toOpen => exact absurd rfl lacks
  | toWait | waiting => exact goes.elim
  | erase buffer | receive buffer | put buffer => exact goes

theorem Held.no_wait (held : Held request calls) : ∀ call ∈ calls, call.phase ≠ .waiting := by
  intro call member waits
  have goes := held.goes call member
  unfold ResultCall.Goes at goes
  rw [waits] at goes
  exact goes

theorem Held.others (held : Held request (before ++ call :: after)) (has : call.attached) :
    ∀ other ∈ before ++ after, ¬other.attached := by
  have alone := held.alone
  rw [countP_append, countP_cons_of_pos has] at alone
  rw [← countP_eq_zero, countP_append]
  omega

/-- A call takes the place, goes on with it or leaves it, when no other one has it. -/
theorem Held.turn (held : Held request (before ++ call :: after)) (others : ∀ other ∈ before ++ after, ¬other.attached)
    (goes : next.Goes later) (free : ¬next.attached → later.semr.syncCount = 0) : Held later (before ++ next :: after) := by
  have none := countP_eq_zero.mpr others
  rw [countP_append] at none
  refine ⟨?_, ?_, ?_⟩
  · intro other member
    rw [perm_middle.mem_iff, mem_cons] at member
    rcases member with rfl | member
    · exact goes
    · exact (held.goes other (perm_middle.mem_iff.mpr (mem_cons_of_mem _ member))).aside (others other member)
  · rw [countP_append, countP_cons]
    split <;> omega
  · rw [countP_append, countP_cons]
    intro zero
    apply free
    intro has
    rw [if_pos has] at zero
    omega

/-- A call goes on without the place, or without a change of the request. -/
theorem Held.keeps (held : Held request (before ++ call :: after)) (same : next.attached = call.attached)
    (goes : next.Goes request) : Held request (before ++ next :: after) := by
  have counted : (before ++ next :: after).countP ResultCall.attached = (before ++ call :: after).countP ResultCall.attached := by
    simp only [countP_append, countP_cons, same]
  refine ⟨?_, counted ▸ held.alone, counted ▸ held.free⟩
  intro other member
  rw [perm_middle.mem_iff, mem_cons] at member
  rcases member with rfl | member
  · exact goes
  · exact held.goes other (perm_middle.mem_iff.mpr (mem_cons_of_mem _ member))

end

/-- The states of a capture with one owner whose calls attach apart. -/
structure Single (stream : Int) (s : SharedCapture) : Prop where
  booked : Booked s
  mine : ∀ call ∈ s.calls, call.stream = stream
  barrier : s.request.semr.ownerCount = 1 ∧ s.request.semr.needSync = true
  held : Held s.request s.calls

theorem SharedCapture.calls_at {s : SharedCapture} {i : Nat} {call : ResultCall} (going : s.calls[i]? = some call) :
    ∃ before after, s.calls = before ++ call :: after ∧ ∀ next, s.calls.set i next = before ++ next :: after := by
  obtain ⟨inside, rfl⟩ := List.getElem?_eq_some_iff.mp going
  refine ⟨s.calls.take i, s.calls.drop (i + 1), ?_, ?_⟩
  · rw [getElem_cons_drop, take_append_drop]
  · intro next
    rw [set_eq_take_append_cons_drop, if_pos inside]

namespace Single
variable {stream : Int} {s : SharedCapture}

theorem comesHome (single : Single stream s) : ComesHome [stream] s := by
  refine ⟨single.booked, stream, mem_singleton_self stream, ?_⟩
  intro call member _
  exact single.held.no_wait call member

theorem moves {base : SharedCapture} {call : ResultCall} {next : ResultPhase} {before after : List ResultCall}
    (single : Single stream s) (whole : s.calls = before ++ call :: after)
    (calls : base.calls = before ++ { call with phase := next } :: after) (received : base.received = s.received)
    (pool : ∀ stream id, base.returned.count (stream, id) + (if { call with phase := next }.owesPool stream id then 1 else 0) =
      s.returned.count (stream, id) + if call.owesPool stream id then 1 else 0)
    (tunnel : ∀ stream id, base.tunnel.count (stream, id) + (if { call with phase := next }.owesTunnel stream id then 1 else 0) =
      s.tunnel.count (stream, id) + if call.owesTunnel stream id then 1 else 0)
    (barrier : base.request.semr.ownerCount = 1 ∧ base.request.semr.needSync = true)
    (held : Held base.request (before ++ { call with phase := next } :: after)) : Single stream base := by
  refine ⟨⟨?_, ?_⟩, ?_, barrier, calls ▸ held⟩
  · intro stream id
    have booked := single.booked.pool stream id
    have now := pool stream id
    simp only [whole, calls, received, countP_append, countP_cons] at booked ⊢
    omega
  · intro stream id
    have booked := single.booked.tunnel stream id
    have now := tunnel stream id
    simp only [whole, calls, received, countP_append, countP_cons] at booked ⊢
    omega
  · have mine := single.mine
    simpa only [whole, calls, forall_mem_append, forall_mem_cons] using mine

theorem proceed (single : Single stream s) {i : Nat} {time : UInt64} (apart : Apart s (.proceed i time)) :
    Single stream (s.proceed i time) := by
  have held := single.held
  cases going : s.calls[i]? with
  | none =>
    simp only [SharedCapture.proceed, going]
    exact single
  | some call =>
    obtain ⟨before, after, whole, sets⟩ := calls_at going
    rw [whole] at held
    obtain ⟨owner, own, phase⟩ := call
    have goes := held.goes _ (mem_append_right _ (mem_cons_self ..))
    cases phase with
    | search =>
      simp only [SharedCapture.proceed, going]
      split
      · exact single.moves whole (sets _) rfl (fun _ _ => rfl) (fun _ _ => rfl) single.barrier (held.keeps rfl trivial)
      · exact single.moves whole (sets _) rfl (fun _ _ => rfl) (fun _ _ => rfl) single.barrier (held.keeps rfl rfl)
    | attach =>
      have free : ∀ other ∈ before ++ after, ¬other.attached := by
        intro other member
        have inside : other ∈ s.calls := whole ▸ perm_middle.mem_iff.mpr (mem_cons_of_mem _ member)
        exact apart _ going rfl other inside ((single.mine other inside).trans (single.mine _ (mem_of_getElem? going)).symm)
      have zero : s.request.semr.syncCount = 0 := by
        apply held.free
        rw [countP_append, countP_cons_of_neg Bool.false_ne_true, ← countP_append]
        exact countP_eq_zero.mpr free
      simp only [SharedCapture.proceed, going]
      refine single.moves whole (sets _) rfl (fun _ _ => rfl) (fun _ _ => rfl) single.barrier ?_
      exact held.turn free ⟨zero, rfl⟩ fun lacks => absurd rfl lacks
    | sync =>
      simp only [SharedCapture.proceed, going, single.barrier.2, Bool.not_true, Bool.false_eq_true, if_false]
      refine single.moves whole (sets _) rfl (fun _ _ => rfl) (fun _ _ => rfl) ⟨single.barrier.1, rfl⟩ ?_
      exact held.turn (held.others rfl) ⟨congrArg (· + 1) goes.1, goes.2⟩ fun lacks => absurd rfl lacks
    | counted =>
      have last : ¬s.request.semr.syncCount < s.request.semr.ownerCount := by
        rw [goes.1, single.barrier.1]
        exact Nat.lt_irrefl 1
      simp only [SharedCapture.proceed, going, if_neg last]
      exact single.moves whole (sets _) rfl (fun _ _ => rfl) (fun _ _ => rfl) single.barrier (held.keeps rfl goes)
    | toWait | waiting => exact goes.elim
    | toOpen =>
      simp only [SharedCapture.proceed, going]
      have same : (s.openSync time).calls = s.calls := by
        simp only [openSync]
        conv_rhs => rw [← map_id s.calls]
        apply map_congr_left
        intro call member
        rw [if_neg (single.held.no_wait call member)]
        rfl
      have gone : ((s.openSync time).goTo i ⟨owner, own, .toOpen⟩ .frame).calls = before ++ ⟨owner, own, .frame⟩ :: after := by
        rw [goTo, same]
        exact sets _
      refine single.moves whole gone rfl (fun _ _ => rfl) (fun _ _ => rfl) single.barrier ?_
      exact held.turn (held.others rfl) ⟨rfl, goes.2⟩ fun _ => rfl
    | frame =>
      simp only [SharedCapture.proceed, going, goes.2]
      refine single.moves whole (sets _) rfl (fun _ _ => rfl) (fun _ _ => rfl) single.barrier ?_
      exact held.turn (held.others rfl) rfl fun _ => goes.1
    | erase buffer =>
      simp only [SharedCapture.proceed, going]
      exact single.moves whole (sets _) rfl (fun _ _ => rfl) (fun _ _ => rfl) single.barrier (held.keeps rfl goes)
    | receive buffer =>
      simp only [SharedCapture.proceed, going]
      refine single.moves whole (sets _) rfl ?_ (fun _ _ => rfl) single.barrier (held.keeps rfl goes)
      intro other id
      simp [ResultCall.owesPool, goTo, count_append, count_singleton, show buffer.id = own.id from goes]
    | put buffer =>
      simp only [SharedCapture.proceed, going]
      refine single.moves whole (sets _) rfl (fun _ _ => rfl) ?_ single.barrier (held.keeps rfl trivial)
      intro other id
      simp [ResultCall.owesTunnel, goTo, count_append, count_singleton, show buffer.id = own.id from goes]
    | done =>
      simp only [SharedCapture.proceed, going]
      exact single

theorem begin (single : Single stream s) {call : ResultCall} (mine : call.stream = stream)
    (owes : ∀ other id, call.owesPool other id = (call.stream = other ∧ call.own.id = id : Bool) ∧
      call.owesTunnel other id = (call.stream = other ∧ call.own.id = id : Bool))
    (lacks : ¬call.attached) (goes : call.Goes s.request) :
    Single stream ({ s with received := s.received ++ [(call.stream, call.own.id)] }.begin call) := by
  refine ⟨⟨?_, ?_⟩, ?_, single.barrier, ?_⟩
  · intro other id
    have before := single.booked.pool other id
    simp only [SharedCapture.begin, countP_append, countP_singleton, count_append, count_singleton,
      (owes other id).1, beq_iff_eq, Prod.mk.injEq, decide_eq_true_eq]
    omega
  · intro other id
    have before := single.booked.tunnel other id
    simp only [SharedCapture.begin, countP_append, countP_singleton, count_append, count_singleton,
      (owes other id).2, beq_iff_eq, Prod.mk.injEq, decide_eq_true_eq]
    omega
  · exact forall_mem_append.mpr ⟨single.mine, forall_mem_singleton.mpr mine⟩
  · have counted : (s.calls ++ [call]).countP ResultCall.attached = s.calls.countP ResultCall.attached := by
      rw [countP_append, countP_singleton, if_neg lacks, Nat.add_zero]
    exact ⟨forall_mem_append.mpr ⟨single.held.goes, forall_mem_singleton.mpr goes⟩, counted.trans_le single.held.alone,
      fun zero => single.held.free (counted.symm.trans zero)⟩

theorem handleResult (single : Single stream s) {own : CameraBuffer} (mine : own.streamId = stream) :
    Single stream (s.handleResult stream own) := by
  simp only [SharedCapture.handleResult]
  split
  · exact single.begin rfl (fun _ _ => ⟨rfl, rfl⟩) Bool.false_ne_true rfl
  · rw [if_neg (by simpa using mine)]
    exact single.begin rfl (fun _ _ => ⟨rfl, rfl⟩) Bool.false_ne_true trivial

theorem step (single : Single stream s) {c : OwnedCapture} (only : c.owners = [stream]) {step : ResultStep}
    (allowed : c.Allows step) (apart : Apart s step) : Single stream (s.step step) := by
  cases step with
  | capture other => exact ⟨⟨single.booked.pool, single.booked.tunnel⟩, single.mine, single.barrier, single.held⟩
  | cancel =>
    refine ⟨⟨single.booked.pool, single.booked.tunnel⟩, single.mine, single.barrier, ?_, single.held.alone, single.held.free⟩
    intro call member
    have goes := single.held.goes call member
    unfold ResultCall.Goes at goes ⊢
    exact goes
  | handleResult other buffer =>
    obtain ⟨owner, mine, _⟩ := allowed
    rw [only, mem_singleton] at owner
    subst owner
    exact single.handleResult mine
  | proceed i time => exact single.proceed apart
theorem run (single : Single stream s) {c : OwnedCapture} (only : c.owners = [stream]) {steps : List ResultStep}
    (allowed : ∀ step ∈ steps, c.Allows step) (apart : Transitions.Takes SharedCapture.step Apart s steps) :
    Single stream (s.run steps) := by
  induction steps generalizing s with
  | nil => exact single
  | cons step steps ih =>
    apply ih (single.step only (allowed step (mem_cons_self ..)) apart.1) ?_ apart.2
    intro later member
    exact allowed later (mem_cons_of_mem _ member)

theorem start {c : OwnedCapture} (only : c.owners = [stream]) : Single stream c.start := by
  refine ⟨⟨fun _ _ => rfl, fun _ _ => rfl⟩, nofun, ?_, nofun, Nat.zero_le 1, fun _ => rfl⟩
  simp [OwnedCapture.start, CaptureRequest.new, only]

end Single

def ResultStep.handled : ResultStep → Option Int
  | .handleResult stream _ => some stream
  | _ => none

def SharedCapture.streams (s : SharedCapture) : List Int := s.calls.map ResultCall.stream

section
variable {s base : SharedCapture} {i : Nat} {call : ResultCall}

theorem SharedCapture.goTo_streams (next : ResultPhase) (same : base.streams = s.streams) (going : s.calls[i]? = some call) :
    (base.goTo i call next).streams = s.streams := by
  obtain ⟨inside, rfl⟩ := List.getElem?_eq_some_iff.mp going
  have there : i < s.streams.length := by rwa [streams, length_map]
  rw [← same] at there
  have its : base.streams[i] = s.calls[i].stream := by
    simp only [same]
    exact getElem_map ..
  simp only [streams, goTo, map_set] at same its ⊢
  rw [← its, set_getElem_self, same]

theorem SharedCapture.openSync_streams (time : UInt64) : (s.openSync time).streams = s.streams := by
  simp only [streams, openSync, map_map]
  apply map_congr_left
  intro call _
  simp only [Function.comp_apply]
  split <;> rfl

theorem SharedCapture.proceed_streams (time : UInt64) : (s.proceed i time).streams = s.streams := by
  unfold proceed
  split
  · rfl
  next call going =>
    split <;> (try split) <;>
      first | rfl | exact goTo_streams _ rfl going | exact goTo_streams _ (openSync_streams time) going

theorem SharedCapture.handleResult_streams {stream : Int} {buffer : CameraBuffer} :
    (s.handleResult stream buffer).streams.Sublist (s.streams ++ [stream]) := by
  unfold handleResult
  simp only
  split
  · simp [begin, streams]
  · split
    · exact sublist_append_left ..
    · simp [begin, streams]

theorem SharedCapture.step_streams (step : ResultStep) : (s.step step).streams.Sublist (s.streams ++ step.handled.toList) := by
  cases step with
  | capture stream => exact sublist_append_left ..
  | cancel => exact sublist_append_left ..
  | handleResult stream buffer => exact handleResult_streams
  | proceed i time =>
    rw [step, proceed_streams]
    exact sublist_append_left ..

theorem apart_of_nodup (distinct : s.streams.Nodup) (step : ResultStep) : Apart s step := by
  cases step with
  | capture stream => trivial
  | cancel => trivial
  | handleResult stream buffer => trivial
  | proceed i time =>
    intro call going attaches other member same
    have its := inj_on_of_nodup_map distinct member (mem_of_getElem? going) same
    rw [its, ResultCall.attached, attaches]
    exact Bool.false_ne_true

/-- Streams that get one buffer each have their calls apart. -/
theorem takes_apart {steps : List ResultStep} (distinct : (s.streams ++ steps.filterMap ResultStep.handled).Nodup) :
    Transitions.Takes step Apart s steps := by
  induction steps generalizing s with
  | nil => trivial
  | cons step steps ih =>
    refine ⟨apart_of_nodup (nodup_append.mp distinct).1 step, ih ?_⟩
    have front : (step :: steps).filterMap ResultStep.handled = step.handled.toList ++ steps.filterMap ResultStep.handled := by
      cases its : step.handled <;> simp [its]
    rw [front, ← append_assoc] at distinct
    exact distinct.sublist ((step_streams step).append_right _)

end

def OwnedCapture.frame (c : OwnedCapture) (stream : Int) : CameraBuffer :=
  ⟨c.owners.idxOf stream, stream, c.captureId, .ok⟩

def OwnedCapture.call (c : OwnedCapture) (phase : ResultPhase) (stream : Int) : ResultCall := ⟨stream, c.frame stream, phase⟩

/-- An owner gets its frame and goes on until it waits, or opens when it is the last. -/
def OwnedCapture.arrive (c : OwnedCapture) (stream : Int) : List ResultStep :=
  [.capture stream, .handleResult stream (c.frame stream)] ++ replicate 5 (.proceed (c.owners.idxOf stream) 0)

structure Arrived (c : OwnedCapture) (come : List Int) (s : SharedCapture) : Prop where
  capture : s.request.captureId = c.captureId
  barrier : s.request.semr.ownerCount = c.owners.length ∧ s.request.semr.needSync = true
  count : s.request.semr.syncCount = come.length
  calls : s.calls = come.map (c.call .waiting)
  returned : s.returned = []
  received : s.received = come.map fun stream => (stream, (c.frame stream).id)

theorem SharedCapture.run_append (s : SharedCapture) (first second : List ResultStep) :
    s.run (first ++ second) = (s.run first).run second := foldl_append

section
variable {c : OwnedCapture} {come : List Int} {s : SharedCapture} {stream : Int}

theorem Arrived.counts (arrived : Arrived c come s) (next : c.owners.idxOf stream = come.length) :
    let s' := s.run ((c.arrive stream).take 5)
    s'.request.captureId = c.captureId ∧ s'.request.semr.ownerCount = c.owners.length ∧ s'.request.semr.needSync = true ∧
      s'.request.semr.syncCount = come.length + 1 ∧ s'.request.buffer = some (c.frame stream) ∧
      s'.calls = come.map (c.call .waiting) ++ [c.call .counted stream] ∧ s'.returned = [] ∧
      s'.received = (come ++ [stream]).map fun stream => (stream, (c.frame stream).id) := by
  have captured := arrived.capture
  have sync := arrived.barrier.2
  simp [arrive, run, step, handleResult, frame, begin, call, next, goTo, proceed, captured, CaptureRequest.attachBuffer, sync,
    arrived.count, arrived.barrier.1, arrived.returned, arrived.received, arrived.calls, replicate]

theorem Arrived.arrive (arrived : Arrived c come s) (next : c.owners.idxOf stream = come.length)
    (more : come.length + 1 < c.owners.length) : Arrived c (come ++ [stream]) (s.run (c.arrive stream)) := by
  obtain ⟨captured, owners, sync, count, _, calls, returned, received⟩ := arrived.counts next
  have split : c.arrive stream = (c.arrive stream).take 5 ++ replicate 2 (.proceed (c.owners.idxOf stream) 0) := rfl
  rw [split, run_append, next]
  generalize s.run ((c.arrive stream).take 5) = s' at *
  have fewer : s'.request.semr.syncCount < s'.request.semr.ownerCount := by
    rw [count, owners]
    exact more
  have ends : s'.run (replicate 2 (.proceed come.length 0)) = s'.goTo come.length (c.call .counted stream) .waiting := by
    simp [replicate, run, step, proceed, calls, fewer, goTo, call]
  rw [ends]
  refine ⟨captured, ⟨owners, sync⟩, by rw [length_append]; exact count, ?_, returned, received⟩
  simp [goTo, calls, call]

theorem Arrived.last (arrived : Arrived c come s) (next : c.owners.idxOf stream = come.length)
    (all : come.length + 1 = c.owners.length) : let s' := s.run (c.arrive stream)
    s'.request.buffer = some (c.frame stream) ∧ s'.calls = (come ++ [stream]).map (c.call .frame) ∧ s'.returned = [] ∧
      s'.received = (come ++ [stream]).map fun stream => (stream, (c.frame stream).id) := by
  obtain ⟨_, owners, _, count, attached, calls, returned, received⟩ := arrived.counts next
  have split : c.arrive stream = (c.arrive stream).take 5 ++ replicate 2 (.proceed (c.owners.idxOf stream) 0) := rfl
  simp only
  rw [split, run_append, next]
  generalize s.run ((c.arrive stream).take 5) = s' at *
  have enough : ¬s'.request.semr.syncCount < s'.request.semr.ownerCount := by
    rw [count, owners, all]
    exact Nat.lt_irrefl _
  have ends : s'.run (replicate 2 (.proceed come.length 0)) =
      ((s'.goTo come.length (c.call .counted stream) .toOpen).openSync 0).goTo come.length (c.call .toOpen stream) .frame := by
    simp [replicate, run, step, proceed, calls, enough, goTo, call]
  rw [ends]
  refine ⟨attached, ?_, returned, received⟩
  simp [goTo, openSync, calls, call]

theorem arrived_start (c : OwnedCapture) : Arrived c [] c.start := ⟨rfl, ⟨rfl, rfl⟩, rfl, rfl, rfl, rfl⟩

theorem idxOf_next {before after : List Int} (distinct : (before ++ stream :: after).Nodup) :
    (before ++ stream :: after).idxOf stream = before.length := by
  have new : stream ∉ before := by
    intro member
    exact (nodup_append.mp distinct).2.2 stream member stream (mem_cons_self ..) rfl
  rw [idxOf_append_of_notMem new, idxOf_cons_self, Nat.add_zero]

theorem Arrived.run {later rest : List Int} (arrived : Arrived c come s) (whole : come ++ later ++ rest = c.owners)
    (more : rest ≠ []) : Arrived c (come ++ later) (s.run (later.flatMap c.arrive)) := by
  induction later generalizing come s with
  | nil =>
    rw [append_nil]
    exact arrived
  | cons stream later ih =>
    have next : c.owners.idxOf stream = come.length := by
      rw [← whole, append_assoc, cons_append]
      apply idxOf_next
      rw [← cons_append, ← append_assoc, whole]
      exact c.distinct
    have length := congrArg length whole
    have some := length_pos_of_ne_nil more
    simp only [length_append, length_cons] at length
    rw [append_cons] at whole ⊢
    rw [flatMap_cons, run_append]
    exact ih (arrived.arrive next (by omega)) whole

end

theorem OwnedCapture.arrive_allowed {c : OwnedCapture} : ∀ step ∈ c.owners.flatMap c.arrive, c.Allows step := by
  intro step member
  obtain ⟨stream, owner, inside⟩ := mem_flatMap.mp member
  have allowed : ∀ step ∈ c.arrive stream, c.Allows step := by
    simp [arrive, OwnedCapture.Allows, frame, owner]
  exact allowed step inside

theorem OwnedCapture.frame_foreign {c : OwnedCapture} {stream other : Int} (owner : stream ∈ c.owners)
    (differs : stream ≠ other) : (stream, (c.frame other).id) ∉ c.owners.map fun stream => (stream, (c.frame stream).id) := by
  intro member
  obtain ⟨its, _, is⟩ := mem_map.mp member
  rw [Prod.mk.injEq] at is
  obtain ⟨rfl, same⟩ := is
  exact differs ((idxOf_inj owner).mp same)

theorem proceed_frame {s : SharedCapture} {i : Nat} {stream : Int} {own buffer : CameraBuffer}
    (going : s.calls[i]? = some ⟨stream, own, .frame⟩) (attached : s.request.buffer = some buffer) :
    (stream, buffer.id) ∈ (s.run (replicate 3 (.proceed i 0))).returned ∧
      (s.run (replicate 3 (.proceed i 0))).received = s.received := by
  obtain ⟨inside, its⟩ := List.getElem?_eq_some_iff.mp going
  simp [replicate, run, step, proceed, inside, its, attached, goTo, eraseRequest]

theorem ComesHome.received {owners : List Int} {s : SharedCapture} (home : ComesHome owners s) {stream : Int} {id : Nat}
    (returned : (stream, id) ∈ s.returned) : (stream, id) ∈ s.received := by
  have pool := home.pool stream id
  have some := count_pos_iff.mpr returned
  exact count_pos_iff.mp (by omega)

/-- The frames of two or more owners: the first one reads the frame of the last. -/
theorem many_not_home {c : OwnedCapture} (many : 1 < c.owners.length) : ∃ steps, (∀ step ∈ steps, c.Allows step) ∧
    Transitions.Takes step Apart c.start steps ∧ ¬ComesHome c.owners (c.start.run steps) := by
  have front := c.owners.dropLast_append_getLast c.owned
  generalize c.owners.getLast c.owned = last at front
  cases owners : c.owners.dropLast with
  | nil =>
    rw [← front, owners] at many
    exact absurd many (Nat.lt_irrefl 1)
  | cons first more =>
    rw [owners] at front
    have owner : first ∈ c.owners := by
      rw [← front]
      exact mem_cons_self ..
    have distinct : (first :: more ++ [last]).Nodup := by
      rw [front]
      exact c.distinct
    have differs : first ≠ last := by
      rintro rfl
      simp at distinct
    have arrived := (arrived_start c).run front (cons_ne_nil _ _)
    have next : c.owners.idxOf last = (first :: more).length := by
      rw [← front]
      exact idxOf_next distinct
    have length : (first :: more).length + 1 = c.owners.length := by
      rw [← front, length_append, length_singleton]
    obtain ⟨attached, calls, _, received⟩ := arrived.last next length
    have all : (c.start.run ((first :: more).flatMap c.arrive)).run (c.arrive last) = c.start.run (c.owners.flatMap c.arrive) := by
      rw [← run_append, ← front, flatMap_append, flatMap_singleton]
    rw [nil_append, front] at calls received
    rw [all] at attached calls received
    refine ⟨c.owners.flatMap c.arrive ++ replicate 3 (.proceed 0 0), ?_, ?_, ?_⟩
    · intro step member
      rcases mem_append.mp member with before | after
      · exact c.arrive_allowed step before
      · rw [(mem_replicate.mp after).2]
        trivial
    · apply takes_apart
      have handled : (c.owners.flatMap c.arrive).filterMap ResultStep.handled = c.owners := by
        rw [filterMap_flatMap]
        exact flatMap_pure_eq_map (fun stream => stream) c.owners |>.trans (map_id _)
      have rest : (replicate 3 (ResultStep.proceed 0 0)).filterMap ResultStep.handled = [] := rfl
      rw [filterMap_append, handled, rest, append_nil]
      exact c.distinct
    · intro home
      rw [run_append] at home
      have going : (c.start.run (c.owners.flatMap c.arrive)).calls[0]? = some (c.call .frame first) := by
        rw [calls, ← front]
        rfl
      obtain ⟨returned, same⟩ := proceed_frame going attached
      have gone := home.received returned
      rw [same, received] at gone
      exact c.frame_foreign owner differs gone

/-- Two frames of one stream, whose second is attached before the first is read. -/
def OwnedCapture.overlap (c : OwnedCapture) (stream : Int) : List ResultStep :=
  [.capture stream, .capture stream, .handleResult stream ⟨0, stream, c.captureId, .ok⟩,
    .handleResult stream ⟨1, stream, c.captureId, .ok⟩, .proceed 0 0, .proceed 0 0, .proceed 1 0, .proceed 1 0] ++
    replicate 6 (.proceed 0 0)

theorem overlap_not_home {c : OwnedCapture} {stream : Int} (only : c.owners = [stream]) :
    (∀ step ∈ c.overlap stream, c.Allows step) ∧ ¬ComesHome c.owners (c.start.run (c.overlap stream)) := by
  constructor
  · simp [overlap, OwnedCapture.Allows, only]
  · intro home
    have pool := home.pool stream 1
    revert pool
    simp [overlap, run, step, handleResult, begin, proceed, goTo, start, CaptureRequest.new, CaptureRequest.attachBuffer,
      openSync, eraseRequest, only, replicate, ResultCall.owesPool]

/-- Buffers come home in every interleaving in which the calls of each stream attach apart exactly when the capture has one
    owner. The calls of a continuous capture need not. -/
theorem comesHome_iff (c : OwnedCapture) : ((∀ steps, (∀ step ∈ steps, c.Allows step) →
      Transitions.Takes step Apart c.start steps → ComesHome c.owners (c.start.run steps)) ↔ c.owners.length = 1) ∧
    (c.isContinuous → ∃ steps, (∀ step ∈ steps, c.Allows step) ∧ ¬ComesHome c.owners (c.start.run steps)) := by
  have some := length_pos_of_ne_nil c.owned
  refine ⟨⟨?_, ?_⟩, ?_⟩
  · intro home
    by_contra several
    obtain ⟨steps, allowed, apart, lost⟩ := many_not_home (c := c) (by omega)
    exact lost (home steps allowed apart)
  · intro one steps allowed apart
    obtain ⟨stream, only⟩ := length_eq_one_iff.mp one
    rw [only]
    exact ((Single.start only).run only allowed apart).comesHome
  · intro _
    rcases Nat.eq_or_lt_of_le some with one | many
    · obtain ⟨stream, only⟩ := length_eq_one_iff.mp one.symm
      exact ⟨c.overlap stream, overlap_not_home only⟩
    · obtain ⟨steps, allowed, _, lost⟩ := many_not_home many
      exact ⟨steps, allowed, lost⟩

/-- A preview and a video stream of one capture. -/
def twoOwners : OwnedCapture where
  captureId := 1
  owners := [10, 20]
  needReport := false
  isContinuous := false
  distinct := by decide
  owned := by decide

/-- Each stream gets one frame, and both calls come to their end. -/
def twoFrames : List ResultStep :=
  twoOwners.arrive 10 ++ twoOwners.arrive 20 ++ replicate 4 (.proceed 0 0) ++ replicate 4 (.proceed 1 0)

/-- The buffer of the second stream went to both pools, that of the first to none. -/
theorem twoFrames_not_home : (∀ step ∈ twoFrames, twoOwners.Allows step) ∧
    ¬ComesHome twoOwners.owners (twoOwners.start.run twoFrames) := by
  constructor
  · simp [twoFrames, arrive, OwnedCapture.Allows, frame, twoOwners]
  · intro home
    have first := home.pool 10 0
    revert first
    decide

end Peripheral.Camera
