import Mathlib.Data.List.Dedup
import Mathlib.Data.List.Perm.Subperm
import Peripheral.CaptureRequest
import Peripheral.Searches

/-!
A still-capture stream that goes offline, `stream_still_capture.cpp` and
`offline_stream.cpp`. The requests in transit are handed to an offline stream, to which
the offline pipeline delivers; the stream itself may still be called with a buffer. A
request goes by its capture id.
-/
namespace Peripheral.Camera
open Searches List

def CaptureRequest.disableSync (request : CaptureRequest) : CaptureRequest :=
  { request with ownerCount := 1, semr := { request.semr with needSync := false } }

/-- A stream with its offline stream: `offline` says whether the state is `STREAM_STATE_OFFLINE`, `offlineStream` whether the
    member with that name is set, and `restRequests` is what the context has. Messages and what went to the pool and the tunnel
    are recorded for both. -/
structure StillCapture where
  streamId : Int
  offline : Bool
  offlineStream : Bool
  waitingList : List CaptureRequest
  inTransitList : List CaptureRequest
  restRequests : List CaptureRequest
  messages : List CaptureMessage
  returned : List Nat
  tunnel : List Nat
  deriving DecidableEq

/-- By the callback of the offline pipeline, or by `HandleResult`. -/
inductive ArrivalRoute
  | offlineCallback
  | handleResult
  deriving DecidableEq

structure Arrival where
  route : ArrivalRoute
  buffer : CameraBuffer
  deriving DecidableEq

namespace StillCapture

def busy (streamId : Int) (waitingList inTransitList : List CaptureRequest) : StillCapture :=
  ⟨streamId, false, false, waitingList, inTransitList, [], [], [], []⟩

def receiveBuffer (s : StillCapture) (buffer : CameraBuffer) : StillCapture :=
  { s with returned := s.returned ++ [buffer.id], tunnel := s.tunnel ++ [buffer.id] }

/-- `StreamBase::OnFrame`. One of the copies is erased. -/
def onFrame (s : StillCapture) (request : CaptureRequest) (buffer : CameraBuffer) : StillCapture :=
  let left := s.inTransitList.eraseP (·.captureId = request.captureId)
  let ended :=
    if request.isEnded ∧ left.all (·.captureId ≠ request.captureId) then [request.message .onEnded s.streamId] else []
  { s with
    inTransitList := left
    messages := s.messages ++ request.frameMessages buffer s.streamId ++ ended }.receiveBuffer buffer

/-- `StreamBase::HandleResult`, when the request has not to wait for other streams. The last request with the id is taken. -/
def baseHandleResult (s : StillCapture) (buffer : CameraBuffer) : StillCapture :=
  if buffer.status = .invalid then s.receiveBuffer buffer
  else if buffer.streamId ≠ s.streamId then s
  else
    match s.inTransitList.reverse.find? (·.captureId = buffer.captureId) with
    | none => s.receiveBuffer buffer
    | some request => s.onFrame (request.attachBuffer buffer) buffer

/-- The pipeline is there and can be switched. The parameter hides the member of the same name, which is set nowhere. -/
def changeToOfflineStream (s : StillCapture) : StillCapture :=
  { s with
    waitingList := []
    offline := true
    inTransitList := s.inTransitList.map CaptureRequest.disableSync
    restRequests := s.inTransitList.map CaptureRequest.disableSync }

def returnBuffer (s : StillCapture) (buffer : CameraBuffer) : StillCapture :=
  if buffer.status = .invalid then s.receiveBuffer buffer
  else
    match s.restRequests.find? (·.captureId = buffer.captureId) with
    | none => s
    | some request =>
      { s with
        restRequests := s.restRequests.eraseP (·.captureId = buffer.captureId)
        messages := s.messages ++ request.frameMessages buffer s.streamId ++ [request.message .onEnded s.streamId]
        }.receiveBuffer buffer

def receiveOfflineBuffer (s : StillCapture) (buffer : CameraBuffer) : StillCapture := s.returnBuffer buffer

/-- What the offline stream has received goes on to the base class. -/
def handleResult (s : StillCapture) (buffer : CameraBuffer) : StillCapture :=
  if s.offline then
    if !s.offlineStream then s else (s.receiveOfflineBuffer buffer).baseHandleResult buffer
  else s.baseHandleResult buffer

def arrive (s : StillCapture) (arrival : Arrival) : StillCapture :=
  match arrival.route with
  | .offlineCallback => s.receiveOfflineBuffer arrival.buffer
  | .handleResult => s.handleResult arrival.buffer

def arriveAll (s : StillCapture) (arrivals : List Arrival) : StillCapture := arrivals.foldl arrive s

/-- The captures for which `CaptureEnded` messages were sent. -/
def ended (s : StillCapture) : List Int := (s.messages.filter (·.messageType = .onEnded)).map (·.captureId)

/-- Each of the requests has ended once, and the buffers that arrived are back. -/
structure LosesNothing (s : StillCapture) (requests : List CaptureRequest) (arrivals : List Arrival) : Prop where
  ended : ∀ request ∈ requests, s.ended.count request.captureId = 1
  returned : s.returned.Perm (arrivals.map (·.buffer.id))
  tunnel : s.tunnel.Perm (arrivals.map (·.buffer.id))

def captured (arrivals : List Arrival) : List Int :=
  (arrivals.filter (·.buffer.status ≠ .invalid)).map (·.buffer.captureId)

def rest (s : StillCapture) : List Int := s.restRequests.map (·.captureId)

/-- All arrive by the callback, and those that are not marked invalid are for different captures that have not ended. -/
def Expected (s : StillCapture) (arrivals : List Arrival) : Prop :=
  (∀ arrival ∈ arrivals, arrival.route = .offlineCallback) ∧ (captured arrivals).Subperm s.rest

section
variable {s : StillCapture} {arrival : Arrival} {arrivals : List Arrival}

theorem captured_invalid (invalid : arrival.buffer.status = .invalid) : captured (arrival :: arrivals) = captured arrivals := by
  simp [captured, invalid]

theorem captured_valid (valid : arrival.buffer.status ≠ .invalid) :
    captured (arrival :: arrivals) = arrival.buffer.captureId :: captured arrivals := by
  simp [captured, valid]

theorem ended_frame (request : CaptureRequest) (buffer : CameraBuffer) (streamId : Int) :
    ((request.frameMessages buffer streamId ++ [request.message .onEnded streamId]).filter (·.messageType = .onEnded)).map
      (·.captureId) = [request.captureId] := by
  simp only [CaptureRequest.frameMessages, CaptureRequest.message]
  split <;> split <;> rfl

/-- `s` went offline, and nobody set its member. -/
def Switched (s : StillCapture) : Prop := s.offline = true ∧ s.offlineStream = false

theorem arrive_cases (switched : s.Switched) (arrival : Arrival) :
    (s.arrive arrival = s ∧ ∀ others, ¬ s.Expected (arrival :: others)) ∨
    (arrival.buffer.status = .invalid ∧ arrival.route = .offlineCallback ∧ s.arrive arrival = s.receiveBuffer arrival.buffer) ∨
    (arrival.buffer.status ≠ .invalid ∧ arrival.route = .offlineCallback ∧ (s.arrive arrival).Switched ∧
      s.rest.Perm (arrival.buffer.captureId :: (s.arrive arrival).rest) ∧
      (s.arrive arrival).ended = s.ended ++ [arrival.buffer.captureId] ∧
      (s.arrive arrival).returned = s.returned ++ [arrival.buffer.id] ∧
      (s.arrive arrival).tunnel = s.tunnel ++ [arrival.buffer.id]) := by
  obtain ⟨route, buffer⟩ := arrival
  cases route with
  | handleResult =>
    refine .inl ⟨by simp [arrive, handleResult, switched.1, switched.2], fun others expected => ?_⟩
    exact absurd (expected.1 _ (mem_cons_self ..)) (by simp)
  | offlineCallback =>
    by_cases invalid : buffer.status = .invalid
    · exact .inr (.inl ⟨invalid, rfl, if_pos invalid⟩)
    · have arrives : s.arrive ⟨.offlineCallback, buffer⟩ = s.returnBuffer buffer := rfl
      rw [arrives, returnBuffer, if_neg invalid]
      cases search : s.restRequests.find? (·.captureId = buffer.captureId) with
      | none =>
        refine .inl ⟨rfl, fun others expected => ?_⟩
        have there := expected.2
        rw [captured_valid invalid] at there
        have there := there.subset (mem_cons_self ..)
        obtain ⟨request, member, same⟩ := mem_map.mp there
        exact absurd same (by simpa using find?_eq_none.mp search request member)
      | some request =>
        have same : request.captureId = buffer.captureId := by simpa using find?_some search
        have whole := (perm_eraseP search).map (·.captureId)
        refine .inr (.inr ⟨invalid, rfl, switched, ?_, ?_, rfl, rfl⟩)
        · rw [map_cons, same] at whole
          exact whole
        · rw [← same, ← ended_frame request buffer s.streamId]
          simp [ended, receiveBuffer]

theorem returned_le (switched : s.Switched) (arrivals : List Arrival) :
    (s.arriveAll arrivals).returned.length ≤ s.returned.length + arrivals.length ∧
      ((s.arriveAll arrivals).returned.length = s.returned.length + arrivals.length → s.Expected arrivals) := by
  induction arrivals generalizing s with
  | nil => exact ⟨le_refl _, fun _ => ⟨by simp, nil_subperm⟩⟩
  | cons arrival others ih =>
    rw [show s.arriveAll (arrival :: others) = (s.arrive arrival).arriveAll others from rfl, length_cons]
    rcases arrive_cases switched arrival with
      ⟨lost, _⟩ | ⟨invalid, route, home⟩ | ⟨valid, route, still, rest, _, returned, _⟩
    · rw [lost]
      have := (ih switched).1
      exact ⟨by omega, by omega⟩
    · rw [home]
      obtain ⟨most, all⟩ := ih (s := s.receiveBuffer arrival.buffer) switched
      simp only [receiveBuffer, length_append, length_singleton] at most all ⊢
      refine ⟨by omega, fun length => ?_⟩
      have expected := all (by omega)
      refine ⟨forall_mem_cons.mpr ⟨route, expected.1⟩, ?_⟩
      rw [captured_invalid invalid]
      exact expected.2
    · obtain ⟨most, all⟩ := ih still
      rw [returned, length_append, length_singleton] at most all
      refine ⟨by omega, fun length => ?_⟩
      have expected := all (by omega)
      refine ⟨forall_mem_cons.mpr ⟨route, expected.1⟩, ?_⟩
      rw [captured_valid valid, rest.subperm_left]
      exact (subperm_cons _).mpr expected.2

theorem expected_home (switched : s.Switched) (expected : s.Expected arrivals) :
    (s.arriveAll arrivals).ended = s.ended ++ captured arrivals ∧
      (s.arriveAll arrivals).returned = s.returned ++ arrivals.map (·.buffer.id) ∧
      (s.arriveAll arrivals).tunnel = s.tunnel ++ arrivals.map (·.buffer.id) := by
  induction arrivals generalizing s with
  | nil => simp [arriveAll, captured]
  | cons arrival others ih =>
    rw [show s.arriveAll (arrival :: others) = (s.arrive arrival).arriveAll others from rfl, map_cons]
    rcases arrive_cases switched arrival with
      ⟨_, lost⟩ | ⟨invalid, _, home⟩ | ⟨valid, _, still, rest, end_, returned, tunnel⟩
    · exact absurd expected (lost others)
    · rw [home, captured_invalid invalid]
      have later : (s.receiveBuffer arrival.buffer).Expected others :=
        ⟨(forall_mem_cons.mp expected.1).2, (captured_invalid invalid) ▸ expected.2⟩
      obtain ⟨ended, returned, tunnel⟩ := ih (s := s.receiveBuffer arrival.buffer) switched later
      rw [ended, returned, tunnel]
      simp [StillCapture.ended, receiveBuffer]
    · have later : (s.arrive arrival).Expected others := by
        refine ⟨(forall_mem_cons.mp expected.1).2, ?_⟩
        have within := expected.2
        rw [captured_valid valid, rest.subperm_left] at within
        exact (subperm_cons _).mp within
      obtain ⟨moreEnded, moreReturned, moreTunnel⟩ := ih still later
      rw [moreEnded, moreReturned, moreTunnel, end_, returned, tunnel, captured_valid valid]
      simp

end

/-- Nothing is lost exactly if all buffers arrive by the callback, and those that are not marked invalid are one for each
    capture in transit. -/
theorem losesNothing_iff (streamId : Int) (waitingList inTransitList : List CaptureRequest) (arrivals : List Arrival) :
    ((busy streamId waitingList inTransitList).changeToOfflineStream.arriveAll arrivals).LosesNothing inTransitList arrivals ↔
      (∀ arrival ∈ arrivals, arrival.route = .offlineCallback) ∧
        (captured arrivals).Perm (inTransitList.map (·.captureId)).dedup := by
  have switched : (busy streamId waitingList inTransitList).changeToOfflineStream.Switched := ⟨rfl, rfl⟩
  have rest : (busy streamId waitingList inTransitList).changeToOfflineStream.rest = inTransitList.map (·.captureId) := by
    simp [changeToOfflineStream, busy, StillCapture.rest, CaptureRequest.disableSync]
  constructor
  · intro losesNothing
    have expected := (returned_le switched arrivals).2 (by simpa [changeToOfflineStream, busy] using
      losesNothing.returned.length_eq)
    have ended : _ = captured arrivals := (expected_home switched expected).1
    refine ⟨expected.1, ?_⟩
    have once : ∀ id ∈ inTransitList.map (·.captureId), (captured arrivals).count id = 1 := by
      intro id member
      obtain ⟨request, transit, rfl⟩ := mem_map.mp member
      rw [← ended]
      exact losesNothing.ended request transit
    have within := expected.2.subset
    rw [rest] at within
    have nodup : (captured arrivals).Nodup := by
      rw [nodup_iff_count_le_one]
      intro id
      by_cases member : id ∈ captured arrivals
      · exact (once id (within member)).le
      · rw [count_eq_zero_of_not_mem member]
        exact Nat.zero_le 1
    rw [perm_ext_iff_of_nodup nodup (nodup_dedup _)]
    intro id
    rw [mem_dedup]
    exact ⟨fun member => within member, fun member => count_pos_iff.mp (by rw [once id member]; exact Nat.one_pos)⟩
  · rintro ⟨routes, one⟩
    have expected : (busy streamId waitingList inTransitList).changeToOfflineStream.Expected arrivals := by
      refine ⟨routes, ?_⟩
      rw [rest]
      exact one.subperm.trans (dedup_sublist _).subperm
    obtain ⟨ended, returned, tunnel⟩ := expected_home switched expected
    refine ⟨fun request transit => ?_, .of_eq returned, .of_eq tunnel⟩
    rw [show _ = captured arrivals from ended, one.count_eq]
    exact count_eq_one_of_mem (nodup_dedup _) (mem_dedup.mpr (mem_map_of_mem transit))

def inTransit : CaptureRequest := .new 7 1 true false

/-- Its buffer comes by `HandleResult`. -/
theorem handleResult_loses : ¬ ((busy 1 [] [inTransit]).changeToOfflineStream.arriveAll
    [⟨.handleResult, ⟨0, 1, 7, .ok⟩⟩]).LosesNothing [inTransit] [⟨.handleResult, ⟨0, 1, 7, .ok⟩⟩] := by
  intro losesNothing
  exact absurd (losesNothing.ended inTransit (mem_singleton_self _)) (by decide)

end StillCapture

end Peripheral.Camera
