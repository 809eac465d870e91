import Mathlib.Algebra.GroupWithZero.Nat
import Peripheral.StreamCommit

/-!
Calls for several streams, `CreateStreams` and `Capture` of `stream_operator.cpp`. Both
go through their list and return at the first stream that fails; what they did for the
streams before is left. The threads of the streams go on between the calls.
-/
namespace Peripheral.Camera
open List

/-- How `AddRequest` ends: it returns `RC_OK`, or an error with the stream as it was or with its thread started, or it goes
    through a member that is null. -/
inductive AddResult
  | added
  | refused
  | refusedRunning
  | crashed
  deriving DecidableEq

/-- A call of `Capture`. `prepared` and `started` have what the pipeline returns for a stream. -/
structure StreamsCapture where
  captureId : Int
  streamIds : List Int
  enableShutterCallback : Bool
  isStreaming : Bool
  prepared : Int → Bool
  started : Int → Bool

/-- The streams, and the ids of `requestMap_`. -/
structure CaptureOperator where
  streams : StreamOperator
  requestMap : List Int

namespace StreamBase

/-- `AddRequest` in one. -/
def addAndQueue (s : StreamBase) (call : StreamsCapture) (streamId : Int) : StreamBase × Bool :=
  let stream := s.addRequest call.captureId call.isStreaming call.enableShutterCallback (call.prepared streamId)
    (call.started streamId)
  (stream.queueRequest call.captureId, (stream.requests call.captureId).added = .toQueue)

/-- What becomes of a request depends on the stream before. -/
def addResult (s : StreamBase) (prepared started : Bool) : AddResult :=
  if s.crashed then .crashed
  else if !s.isFirstRequest then .added
  else if !s.pipeline || s.state ≠ .active then .refused
  else if !s.tunnel then .crashed
  else if !prepared then .refused
  else if started then .added else .refusedRunning

end StreamBase

namespace StreamOperator

def get (s : StreamOperator) (streamId : Int) : Option OperatorStream := s.streamMap.find? (·.streamId = streamId)

def set (s : StreamOperator) (streamId : Int) (stream : StreamBase) : StreamOperator :=
  { s with streamMap := s.streamMap.replaceF fun x => if x.streamId = streamId then some { x with stream := stream } else none }

/-- The requests are added until a stream fails. Nothing is returned after a crash. -/
def addRequests (s : StreamOperator) (call : StreamsCapture) : List Int → Option (StreamOperator × CamRetCode)
  | [] => some (s, .noError)
  | streamId :: rest =>
    match s.get streamId with
    | none => none
    | some x =>
      let (stream, ok) := x.stream.addAndQueue call streamId
      if stream.crashed then none
      else if ok then addRequests (s.set streamId stream) call rest
      else some (s.set streamId stream, .deviceError)

def resultOf (s : StreamOperator) (call : StreamsCapture) (streamId : Int) : AddResult :=
  match s.get streamId with
  | none => .crashed
  | some x => x.stream.addResult (call.prepared streamId) (call.started streamId)

/-- A stream for which `CreateStreams` finds nothing wrong. -/
def Creatable (s : StreamOperator) (info : StreamInfo) : Prop :=
  info.check = true ∧ (∀ x ∈ s.streamMap, x.streamId ≠ info.streamId) ∧ info.intent ≠ CUSTOM ∧
    (info.bufferQueue.isSome = true → info.tunneledMode = true) ∧ info.bufferQueue ≠ some false

end StreamOperator

namespace CaptureOperator

def capture (s : CaptureOperator) (call : StreamsCapture) : Option (CaptureOperator × CamRetCode) :=
  if call.captureId < 0 then some (s, .invalidArgument)
  else if ∃ id ∈ call.streamIds, s.streams.get id = none then some (s, .invalidArgument)
  else if call.captureId ∈ s.requestMap then some (s, .invalidArgument)
  else
    match s.streams.addRequests call call.streamIds with
    | none => none
    | some (streams, .noError) => some (⟨streams, call.captureId :: s.requestMap⟩, .noError)
    | some (streams, code) => some ({ s with streams := streams }, code)

/-- Waiting lists are as before, no stream was started, and the id is not used by the call. -/
structure NothingLeft (s t : CaptureOperator) : Prop where
  waiting : t.streams.streamMap.map (·.stream.waitingList) = s.streams.streamMap.map (·.stream.waitingList)
  started : t.streams.streamMap.map (·.stream.state) = s.streams.streamMap.map (·.stream.state)
  unused : t.requestMap = s.requestMap

/-- Both calls do all or nothing. -/
structure AllOrNothing (s : CaptureOperator) (streamInfos : List StreamInfo) (call : StreamsCapture) : Prop where
  createStreams : (s.streams.createStreams streamInfos).2 ≠ .noError →
    (s.streams.createStreams streamInfos).1.streamMap = s.streams.streamMap
  capture : ∀ t code, s.capture call = some (t, code) → code ≠ .noError → s.NothingLeft t

/-- All streams can be created, or the first one cannot. -/
def CreatesAllOrNone (s : CaptureOperator) (streamInfos : List StreamInfo) : Prop :=
  ((∀ info ∈ streamInfos, s.streams.Creatable info) ∧ (streamInfos.map (·.streamId)).Nodup) ∨
    ∀ info ∈ streamInfos.head?, ¬ s.streams.Creatable info

/-- `Capture` returns before it looks at the streams. -/
def Refused (s : CaptureOperator) (call : StreamsCapture) : Prop :=
  call.captureId < 0 ∨ (∃ id ∈ call.streamIds, s.streams.get id = none) ∨ call.captureId ∈ s.requestMap

/-- If a stream refuses the request, then the first of the list does, and its thread was not started. -/
def FirstRefuses (s : CaptureOperator) (call : StreamsCapture) : Prop :=
  ∀ id ∈ call.streamIds.find? (s.streams.resultOf call · ≠ .added),
    s.streams.resultOf call id = .crashed ∨ (s.streams.resultOf call id = .refused ∧ call.streamIds.head? = some id)

end CaptureOperator

namespace StreamBase
variable {s : StreamBase} {call : StreamsCapture} {streamId : Int}

@[simp] theorem queueRequest_crashed (k : Int) : (s.queueRequest k).crashed = s.crashed := by
  simp only [queueRequest]
  split <;> rfl

theorem addRequest_crashed (crashed : s.crashed = true) {k : Int} {isContinuous needShutterCallback prepared started : Bool} :
    (s.addRequest k isContinuous needShutterCallback prepared started).crashed = true := by
  grind [addRequest, startStream, setRequest, crash]

theorem addAndQueue_spec (s : StreamBase) (call : StreamsCapture) (streamId : Int) :
    match s.addResult (call.prepared streamId) (call.started streamId) with
    | .added => (s.addAndQueue call streamId).1.crashed = false ∧ (s.addAndQueue call streamId).2 = true ∧
        (s.addAndQueue call streamId).1.waitingList = s.waitingList ++ [call.captureId] ∧
        (s.addAndQueue call streamId).1.isFirstRequest = false
    | .refused => (s.addAndQueue call streamId).1.crashed = false ∧ (s.addAndQueue call streamId).2 = false ∧
        (s.addAndQueue call streamId).1.waitingList = s.waitingList ∧ (s.addAndQueue call streamId).1.state = s.state
    | .refusedRunning => (s.addAndQueue call streamId).1.crashed = false ∧ (s.addAndQueue call streamId).2 = false ∧
        s.state = .active ∧ (s.addAndQueue call streamId).1.waitingList = s.waitingList ∧
        (s.addAndQueue call streamId).1.state = .busy
    | .crashed => (s.addAndQueue call streamId).1.crashed = true := by
  by_cases crashed : s.crashed = true
  · simp only [addResult, crashed, if_true, addAndQueue, queueRequest_crashed]
    exact addRequest_crashed crashed
  by_cases first : s.isFirstRequest = true
  · by_cases ready : s.pipeline = true ∧ s.state = .active
    · cases tunnel : s.tunnel <;> cases prepared : call.prepared streamId <;> cases started : call.started streamId <;>
        simp [addResult, addAndQueue, addRequest, startStream, queueRequest, setRequest, crash, crashed, first, ready, tunnel, prepared,
          started]
    · have refused : s.startStream (call.prepared streamId) (call.started streamId) = (s, false) := by
        simp only [startStream]
        grind
      have unready : s.pipeline = false ∨ ¬ s.state = .active := by grind
      simp [addResult, addAndQueue, addRequest, refused, queueRequest, setRequest, crashed, first, unready]
  · simp [addResult, addAndQueue, addRequest, queueRequest, setRequest, crashed, first]

end StreamBase

namespace StreamOperator
variable {s : StreamOperator} {call : StreamsCapture} {x : OperatorStream} {stream : StreamBase} {streamId : Int}

def waiting (s : StreamOperator) : Nat := (s.streamMap.map (·.stream.waitingList.length)).sum

theorem set_at (stream : StreamBase) (found : s.get streamId = some x) : ∃ before after, s.streamMap = before ++ x :: after ∧
    (s.set streamId stream).streamMap = before ++ { x with stream := stream } :: after ∧ ∀ y ∈ before, y.streamId ≠ streamId := by
  have own : x.streamId = streamId := by simpa using find?_some found
  let p (z : OperatorStream) := if z.streamId = streamId then some { z with stream := stream } else none
  obtain ⟨y, y', before, after, others, its, whole, replaced⟩ :=
    exists_of_replaceF (p := p) (mem_of_find?_eq_some found) (if_pos own)
  obtain ⟨here, its⟩ := Option.ite_none_right_eq_some.mp its
  obtain rfl := Option.some.inj its
  have apart : ∀ z ∈ before, z.streamId ≠ streamId := by simpa [p] using others
  have same : y = x := by
    rw [get, whole, find?_append, find?_eq_none.mpr (by simpa using apart), find?_cons_of_pos (by simpa using here)] at found
    exact Option.some.inj found
  subst same
  exact ⟨before, after, whole, replaced, apart⟩

theorem get_set (found : s.get streamId = some x) (id : Int) :
    (s.set streamId stream).get id = if id = streamId then some { x with stream := stream } else s.get id := by
  have own : x.streamId = streamId := by simpa using find?_some found
  rw [OperatorStream.streamId] at own
  obtain ⟨before, after, whole, replaced, apart⟩ := set_at stream found
  rw [get, get, whole, replaced, find?_append, find?_append]
  by_cases same : id = streamId
  · have none : before.find? (·.info.streamId = streamId) = none := find?_eq_none.mpr (by simpa [OperatorStream.streamId] using apart)
    simp [none, same, OperatorStream.streamId, own]
  · simp [same, OperatorStream.streamId, own, Ne.symm same]

theorem map_set {α : Type} (stream : StreamBase) (g : StreamBase → α) (found : s.get streamId = some x) :
    (s.set streamId stream).streamMap.map (fun y => g y.stream) = s.streamMap.map (fun y => g y.stream) ↔
      g stream = g x.stream := by
  obtain ⟨before, after, whole, replaced, -⟩ := set_at stream found
  simp [whole, replaced]

theorem waiting_set (stream : StreamBase) (found : s.get streamId = some x) :
    (s.set streamId stream).waiting + x.stream.waitingList.length = s.waiting + stream.waitingList.length := by
  obtain ⟨before, after, whole, replaced, -⟩ := set_at stream found
  simp only [waiting, whole, replaced, map_append, map_cons, sum_append, sum_cons]
  omega

/-- A stream takes the request. What becomes of it in the other streams, and if it comes again, does not change. -/
theorem addRequests_added (rest : List Int) (added : s.resultOf call streamId = .added) :
    ∃ t : StreamOperator, t.waiting = s.waiting + 1 ∧ (∀ id, t.resultOf call id = s.resultOf call id) ∧
      s.addRequests call (streamId :: rest) = t.addRequests call rest := by
  cases found : s.get streamId with
  | none => simp [resultOf, found] at added
  | some x =>
    have result : x.stream.addResult (call.prepared streamId) (call.started streamId) = .added := by
      simpa [resultOf, found] using added
    have spec := x.stream.addAndQueue_spec call streamId
    simp only [result] at spec
    obtain ⟨alive, ok, queued, again⟩ := spec
    refine ⟨s.set streamId (x.stream.addAndQueue call streamId).1, ?_, ?_, ?_⟩
    · have counted := waiting_set (x.stream.addAndQueue call streamId).1 found
      rw [queued, length_append, length_singleton] at counted
      omega
    · intro id
      simp only [resultOf, get_set found]
      by_cases same : id = streamId
      · subst same
        simp only [found, if_true, result]
        simp [StreamBase.addResult, alive, again]
      · simp [same]
    · simp [addRequests, found, alive, ok]

theorem addRequests_refused (rest : List Int)
    (refused : s.resultOf call streamId = .refused ∨ s.resultOf call streamId = .refusedRunning) :
    ∃ t : StreamOperator, s.addRequests call (streamId :: rest) = some (t, .deviceError) ∧ t.waiting = s.waiting ∧
      t.streamMap.map (·.stream.waitingList) = s.streamMap.map (·.stream.waitingList) ∧
      (t.streamMap.map (·.stream.state) = s.streamMap.map (·.stream.state) ↔ s.resultOf call streamId = .refused) := by
  cases found : s.get streamId with
  | none => simp [resultOf, found] at refused
  | some x =>
    have spec := x.stream.addAndQueue_spec call streamId
    have counted := waiting_set (x.stream.addAndQueue call streamId).1 found
    have lists := map_set (x.stream.addAndQueue call streamId).1 (·.waitingList) found
    have states := map_set (x.stream.addAndQueue call streamId).1 (·.state) found
    simp only [resultOf, found] at refused ⊢
    refine ⟨s.set streamId (x.stream.addAndQueue call streamId).1, ?_⟩
    rcases refused with refused | refused
    · simp only [refused] at spec ⊢
      obtain ⟨alive, ok, same, state⟩ := spec
      rw [same] at counted
      exact ⟨by simp [addRequests, found, alive, ok], by omega, lists.mpr same, by simp [states.mpr state]⟩
    · simp only [refused] at spec ⊢
      obtain ⟨alive, ok, active, same, busy⟩ := spec
      rw [same] at counted
      refine ⟨by simp [addRequests, found, alive, ok], by omega, lists.mpr same, ?_⟩
      rw [states, active, busy]
      simp

theorem addRequests_crashed {rest : List Int} (crashed : s.resultOf call streamId = .crashed) :
    s.addRequests call (streamId :: rest) = none := by
  cases found : s.get streamId with
  | none => simp [addRequests, found]
  | some x =>
    have spec := x.stream.addAndQueue_spec call streamId
    have result : x.stream.addResult (call.prepared streamId) (call.started streamId) = .crashed := by
      simpa [resultOf, found] using crashed
    simp only [result] at spec
    simp [addRequests, found, spec]

/-- The first stream that does not take the request decides. Where streams before have taken it, it waits there. -/
theorem addRequests_spec (s : StreamOperator) (call : StreamsCapture) (ids : List Int) :
    match ids.find? (s.resultOf call · ≠ .added) with
    | none => ∃ t, s.addRequests call ids = some (t, .noError)
    | some id =>
      (s.resultOf call id = .crashed ∧ s.addRequests call ids = none) ∨
      (s.resultOf call id ≠ .crashed ∧ ∃ t : StreamOperator, s.addRequests call ids = some (t, .deviceError) ∧
        s.waiting ≤ t.waiting ∧ (ids.head? ≠ some id → s.waiting < t.waiting)) := by
  induction ids generalizing s with
  | nil => exact ⟨s, rfl⟩
  | cons id rest ih =>
    cases result : s.resultOf call id with
    | added =>
      obtain ⟨t, counted, same, executed⟩ := addRequests_added rest result
      have tail := ih t
      simp only [same] at tail
      rw [executed]
      rw [find?_cons_of_neg (by simp [result])]
      cases first : rest.find? (s.resultOf call · ≠ .added) with
      | none =>
        rw [first] at tail
        exact tail
      | some other =>
        rw [first] at tail
        rcases tail with crashed | ⟨refused, u, ended, more, -⟩
        · exact .inl crashed
        · exact .inr ⟨refused, u, ended, by omega, fun _ => by omega⟩
    | refused =>
      obtain ⟨t, ended, counted, -⟩ := addRequests_refused rest (.inl result)
      simp [result, ended, counted]
    | refusedRunning =>
      obtain ⟨t, ended, counted, -⟩ := addRequests_refused rest (.inr result)
      simp [result, ended, counted]
    | crashed => simp [result, addRequests_crashed result]

theorem creatable_insert (info other : StreamInfo) :
    Creatable { s with streamMap := s.streamMap.orderedInsert (·.streamId ≤ ·.streamId) (OperatorStream.new info) } other ↔
      s.Creatable other ∧ other.streamId ≠ info.streamId := by
  have own : (OperatorStream.new info).streamId = info.streamId := rfl
  simp only [Creatable, mem_orderedInsert, forall_eq_or_imp, own]
  grind

theorem createStreams_creatable {info : StreamInfo} (creatable : s.Creatable info) (rest : List StreamInfo) :
    s.createStreams (info :: rest) = createStreams
      { s with streamMap := s.streamMap.orderedInsert (·.streamId ≤ ·.streamId) (OperatorStream.new info) } rest := by
  obtain ⟨check, fresh, hasClass, tunneled, attached⟩ := creatable
  have known : ¬ ∃ x ∈ s.streamMap, x.streamId = info.streamId := by simpa using fresh
  have bound : ¬ (!info.tunneledMode && info.bufferQueue.isSome) = true := by
    cases queue : info.bufferQueue.isSome <;> simp_all
  rw [createStreams, if_neg (by simp [check]), if_neg known, if_neg hasClass, if_neg bound, if_neg attached]

theorem createStreams_refused {info : StreamInfo} (refused : ¬ s.Creatable info) (rest : List StreamInfo) :
    (s.createStreams (info :: rest)).1 = s ∧ (s.createStreams (info :: rest)).2 ≠ .noError := by
  rw [createStreams]
  split_ifs <;> simp_all [Creatable]

/-- All streams are created, or an error is returned, and the first stream is created in any case where it can be. -/
theorem createStreams_spec (s : StreamOperator) (infos : List StreamInfo) :
    ((s.createStreams infos).2 = .noError ↔ (∀ info ∈ infos, s.Creatable info) ∧ (infos.map (·.streamId)).Nodup) ∧
      s.streamMap.length ≤ (s.createStreams infos).1.streamMap.length := by
  induction infos generalizing s with
  | nil => simp [createStreams]
  | cons info rest ih =>
    by_cases creatable : s.Creatable info
    · obtain ⟨all, longer⟩ := ih
        { s with streamMap := s.streamMap.orderedInsert (·.streamId ≤ ·.streamId) (OperatorStream.new info) }
      rw [createStreams_creatable creatable]
      simp only [orderedInsert_length] at longer
      refine ⟨?_, by omega⟩
      rw [all]
      simp only [creatable_insert, mem_cons, forall_eq_or_imp, map_cons, nodup_cons, mem_map]
      grind
    · obtain ⟨same, failed⟩ := createStreams_refused creatable rest
      simp [same, failed, creatable]

end StreamOperator

namespace CaptureOperator
variable {s : CaptureOperator} {streamInfos : List StreamInfo} {call : StreamsCapture}

theorem createStreams_iff : ((s.streams.createStreams streamInfos).2 ≠ .noError →
    (s.streams.createStreams streamInfos).1.streamMap = s.streams.streamMap) ↔ s.CreatesAllOrNone streamInfos := by
  have created := (s.streams.createStreams_spec streamInfos).1
  cases streamInfos with
  | nil => simp [CreatesAllOrNone, StreamOperator.createStreams]
  | cons info rest =>
    simp only [CreatesAllOrNone, ← created, head?_cons, Option.mem_def, Option.some.injEq, forall_eq']
    by_cases creatable : s.streams.Creatable info
    · have longer := (StreamOperator.createStreams_spec
        { s.streams with
          streamMap := s.streams.streamMap.orderedInsert (·.streamId ≤ ·.streamId) (OperatorStream.new info) } rest).2
      rw [StreamOperator.createStreams_creatable creatable]
      simp only [orderedInsert_length] at longer
      constructor
      · intro nothing
        by_contra failed
        rw [not_or] at failed
        have same := congrArg length (nothing failed.1)
        omega
      · rintro (all | refused) failed
        · exact absurd all failed
        · exact absurd creatable refused
    · simp [StreamOperator.createStreams_refused creatable rest, creatable]

theorem NothingLeft.count {t : CaptureOperator} (nothing : s.NothingLeft t) : t.streams.waiting = s.streams.waiting := by
  have lists := congrArg (fun lists => (lists.map length).sum) nothing.waiting
  simpa [StreamOperator.waiting, Function.comp_def] using lists

theorem capture_refused (refused : s.Refused call) : s.capture call = some (s, .invalidArgument) := by
  rw [capture]
  split_ifs with negative unknown used
  · rfl
  · rfl
  · rfl
  · exact absurd refused (by simp [Refused, negative, unknown, used])

theorem capture_unrefused (unrefused : ¬ s.Refused call) :
    s.capture call =
      match s.streams.addRequests call call.streamIds with
      | none => none
      | some (streams, .noError) => some (⟨streams, call.captureId :: s.requestMap⟩, .noError)
      | some (streams, code) => some ({ s with streams := streams }, code) := by
  simp only [Refused, not_or] at unrefused
  rw [capture, if_neg unrefused.1, if_neg unrefused.2.1, if_neg unrefused.2.2]

/-- A request that reaches the streams leaves nothing exactly if no stream refuses it or the first one does at once. -/
theorem capture_unrefused_iff (unrefused : ¬ s.Refused call) :
    (∀ t code, s.capture call = some (t, code) → code ≠ .noError → s.NothingLeft t) ↔ s.FirstRefuses call := by
  have spec := s.streams.addRequests_spec call call.streamIds
  rw [capture_unrefused unrefused, FirstRefuses]
  cases first : call.streamIds.find? (s.streams.resultOf call · ≠ .added) with
  | none =>
    rw [first] at spec
    obtain ⟨t, executed⟩ := spec
    rw [executed]
    simp
  | some id =>
    rw [first] at spec
    simp only [Option.mem_def, Option.some.injEq, forall_eq']
    rcases spec with ⟨crashed, executed⟩ | ⟨alive, t, executed, -, more⟩
    · simp [executed, crashed]
    · have ends : (∀ t' code, some ({ s with streams := t }, CamRetCode.deviceError) = some (t', code) → code ≠ .noError →
          s.NothingLeft t') ↔ s.NothingLeft { s with streams := t } := by
        constructor
        · intro nothing
          exact nothing _ _ rfl (by decide)
        · rintro nothing t' code ended -
          cases ended
          exact nothing
      simp only [executed, ends, alive, false_or]
      by_cases head : call.streamIds.head? = some id
      · obtain ⟨rest, ids⟩ : ∃ rest, call.streamIds = id :: rest := head?_eq_some_iff.mp head
        have failed : s.streams.resultOf call id ≠ .added := by simpa using find?_some first
        have refused : s.streams.resultOf call id = .refused ∨ s.streams.resultOf call id = .refusedRunning := by
          cases result : s.streams.resultOf call id <;> simp_all
        obtain ⟨u, ended, -, lists, states⟩ := StreamOperator.addRequests_refused rest refused
        rw [ids, ended] at executed
        obtain rfl : u = t := by simpa using executed
        constructor
        · intro nothing
          exact ⟨states.mp nothing.started, head⟩
        · rintro ⟨result, -⟩
          exact ⟨lists, states.mpr result, rfl⟩
      · constructor
        · intro nothing
          have same := nothing.count
          have longer := more head
          simp only at same
          omega
        · rintro ⟨-, first⟩
          exact absurd first head

/-- Both calls do all or nothing exactly if the first failure finds nothing done. -/
theorem allOrNothing_iff (s : CaptureOperator) (streamInfos : List StreamInfo) (call : StreamsCapture) :
    s.AllOrNothing streamInfos call ↔ s.CreatesAllOrNone streamInfos ∧ (s.Refused call ∨ s.FirstRefuses call) := by
  have captures : (∀ t code, s.capture call = some (t, code) → code ≠ .noError → s.NothingLeft t) ↔
      s.Refused call ∨ s.FirstRefuses call := by
    by_cases refused : s.Refused call
    · rw [capture_refused refused]
      simp only [Option.some.injEq, Prod.mk.injEq, refused, true_or, iff_true]
      rintro t code ⟨rfl, -⟩ -
      exact ⟨rfl, rfl, rfl⟩
    · rw [capture_unrefused_iff refused]
      simp [refused]
  constructor
  · rintro ⟨creates, captured⟩
    exact ⟨createStreams_iff.mp creates, captures.mp captured⟩
  · rintro ⟨creates, captured⟩
    exact ⟨createStreams_iff.mpr creates, captures.mpr captured⟩

def twoCommitted : CaptureOperator :=
  let stream (id : Int) : OperatorStream :=
    ⟨⟨id, 640, 480, 0, 0, 0, true, some true, 0, 0, 0, 0⟩,
      { StreamBase.new with state := .active, tunnelMode := true, tunnel := true, bufferPool := true, pipeline := true }, true⟩
  ⟨⟨[stream 1, stream 2], [], false⟩, []⟩

/-- The second stream fails, and the first one is running with the request. -/
theorem secondFails_leaves : ¬ twoCommitted.AllOrNothing [] ⟨7, [1, 2], false, true, (· = 1), fun _ => true⟩ := by
  intro nothing
  have executed : ∃ t, twoCommitted.capture ⟨7, [1, 2], false, true, (· = 1), fun _ => true⟩ = some (t, .deviceError) ∧
      t.streams.streamMap.map (·.stream.waitingList) = [[7], []] := ⟨_, rfl, by decide⟩
  obtain ⟨t, ended, lists⟩ := executed
  have same := (nothing.capture t .deviceError ended (by decide)).waiting
  rw [lists] at same
  exact absurd same (by decide)

end CaptureOperator

end Peripheral.Camera
