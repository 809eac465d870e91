import Peripheral.CaptureRequest
import Peripheral.Fifo
import Peripheral.Transitions

/-!
Which capture a frame belongs to, `source_node.cpp`. The node has the ids of the captures
that were submitted for a stream in a queue, and every buffer that it delivers takes the
first of them, whoever it comes from. A stream that is started gets a new handler of its
port, and keeps the queue.
-/
namespace Peripheral.Camera
open Peripheral.Transitions Function

/-- `pool` says whether the member is set. -/
structure PortHandler where
  pool : Bool
  respondBufferList : List CameraBuffer
  deriving DecidableEq

/-- `log` only records, since the stream was last started, which captures were submitted and which buffers were delivered. -/
structure SourceNode where
  handlers : Int → Option PortHandler
  captureRequests : Int → Option (List Int)
  crashed : Bool
  log : Int → List (Fifo.Event Int CameraBuffer)

/-- `start` has whether the port and its pool are there, `flush` the idle buffers of the pool. -/
inductive SourceStep
  | start (streamId : Int) (port pool : Bool)
  | capture (streamId captureId : Int)
  | cancelCapture (streamId : Int)
  | onPackBuffer (buffer : CameraBuffer)
  | distributeBuffers (streamId : Int)
  | flush (streamId : Int) (idle : List CameraBuffer)
  | stop (streamId : Int)
  deriving DecidableEq

namespace SourceNode

def new : SourceNode := ⟨fun _ => none, fun _ => none, false, fun _ => []⟩

def record (s : SourceNode) (streamId : Int) (event : Fifo.Event Int CameraBuffer) : SourceNode :=
  { s with log := update s.log streamId (s.log streamId ++ [event]) }

/-- A stream that was started already is skipped. Without a pool the new handler stays. -/
def start (s : SourceNode) (streamId : Int) (port pool : Bool) : SourceNode :=
  if !port then s
  else if (s.handlers streamId).isSome then s
  else
    { s with
      handlers := update s.handlers streamId (some ⟨pool, []⟩)
      log := update s.log streamId [] }

def capture (s : SourceNode) (streamId captureId : Int) : SourceNode :=
  let requests :=
    match s.captureRequests streamId with
    | none => [captureId]
    | some requests => requests ++ [captureId]
  { s with captureRequests := update s.captureRequests streamId (some requests) }.record streamId (.put captureId)

def deliverBuffer (s : SourceNode) (buffer : CameraBuffer) : SourceNode :=
  match s.captureRequests buffer.streamId with
  | none | some [] => s.record buffer.streamId (.take { buffer with status := .invalid })
  | some (captureId :: requests) =>
    { s with captureRequests := update s.captureRequests buffer.streamId (some requests) }.record buffer.streamId
      (.take { buffer with captureId := captureId })

def setHandler (s : SourceNode) (streamId : Int) (handler : Option PortHandler) : SourceNode :=
  { s with handlers := update s.handlers streamId handler }

/-- A buffer of a stream without a handler goes to a handler that is null. -/
def onPackBuffer (s : SourceNode) (buffer : CameraBuffer) : SourceNode :=
  match s.handlers buffer.streamId with
  | none => { s with crashed := true }
  | some handler =>
    s.setHandler buffer.streamId (some { handler with respondBufferList := handler.respondBufferList ++ [buffer] })

def distributeBuffers (s : SourceNode) (streamId : Int) : SourceNode :=
  match s.handlers streamId with
  | none => s
  | some handler =>
    match handler.respondBufferList with
    | [] => s
    | buffer :: rest => (s.deliverBuffer buffer).setHandler streamId (some { handler with respondBufferList := rest })

/-- What is idle is delivered by the same function. -/
def flush (s : SourceNode) (streamId : Int) (idle : List CameraBuffer) : SourceNode :=
  match s.handlers streamId with
  | none => s
  | some handler => if !handler.pool then { s with crashed := true } else idle.foldl deliverBuffer s

def stop (s : SourceNode) (streamId : Int) : SourceNode :=
  match s.handlers streamId with
  | none => s
  | some handler => (handler.respondBufferList.foldl deliverBuffer s).setHandler streamId none

def perform (s : SourceNode) : SourceStep → SourceNode
  | .start streamId port pool => s.start streamId port pool
  | .capture streamId captureId => s.capture streamId captureId
  -- `CancelCapture` leaves the ids that are in the queue.
  | .cancelCapture _ => s
  | .onPackBuffer buffer => s.onPackBuffer buffer
  | .distributeBuffers streamId => s.distributeBuffers streamId
  | .flush streamId idle => s.flush streamId idle
  | .stop streamId => s.stop streamId

/-- After a crash there are no steps. -/
def step (s : SourceNode) (e : SourceStep) : SourceNode := if s.crashed then s else s.perform e

def pending (s : SourceNode) (streamId : Int) : List Int := (s.captureRequests streamId).getD []

/-- Nothing is pending for a stream that is started. -/
def Fresh (s : SourceNode) : SourceStep → Prop
  | .start streamId _ _ => s.pending streamId = []
  | _ => True

instance (s : SourceNode) : (e : SourceStep) → Decidable (s.Fresh e)
  | .start streamId _ _ => inferInstanceAs (Decidable (s.pending streamId = []))
  | .capture .. | .cancelCapture _ | .onPackBuffer _ | .distributeBuffers _ | .flush .. | .stop _ =>
    inferInstanceAs (Decidable True)

/-- A buffer carries an id, or is marked invalid. -/
def Gets (buffer : CameraBuffer) : Option Int → Prop
  | some captureId => buffer.captureId = captureId
  | none => buffer.status = .invalid

instance (buffer : CameraBuffer) : (label : Option Int) → Decidable (Gets buffer label)
  | some captureId => inferInstanceAs (Decidable (buffer.captureId = captureId))
  | none => inferInstanceAs (Decidable (buffer.status = .invalid))

/-- Each buffer has the id of its number, or is marked invalid if there are not so many yet. -/
def ByNumber (log : List (Fifo.Event Int CameraBuffer)) : Prop :=
  ∀ before buffer after, log = before ++ .take buffer :: after →
    Gets buffer (Fifo.puts before)[(Fifo.takes before).length]?

/-- Each buffer has the oldest id that none before has taken, or is marked invalid if there is none; so it has the id of its number
    as long as none before came without one, and in any case an id that was submitted since the start. -/
structure Attributed (log : List (Fifo.Event Int CameraBuffer)) : Prop where
  oldest : Fifo.Served Gets log
  number : ∀ before buffer after, log = before ++ .take buffer :: after → Fifo.InTurn before →
    Gets buffer (Fifo.puts before)[(Fifo.takes before).length]?
  recent : ∀ before buffer after, log = before ++ .take buffer :: after →
    buffer.captureId ∈ Fifo.puts before ∨ buffer.status = .invalid

theorem Attributed.of_served {log : List (Fifo.Event Int CameraBuffer)} (served : Fifo.Served Gets log) : Attributed log := by
  refine ⟨served, ?_, ?_⟩
  · intro before buffer after split turn
    rw [← turn.head?]
    exact served before buffer after split
  · intro before buffer after split
    have gets := served before buffer after split
    cases oldest : (Fifo.waiting before).head? with
    | none =>
      rw [oldest] at gets
      exact .inr gets
    | some captureId =>
      rw [oldest] at gets
      have waits := List.mem_of_head? oldest
      exact .inl (gets ▸ (Fifo.waiting_sublist before).mem waits)

/-- The queue of every stream is what its log leaves, and its buffers were served. -/
def Kept (s : SourceNode) : Prop :=
  ∀ streamId, s.pending streamId = Fifo.waiting (s.log streamId) ∧ Fifo.Served Gets (s.log streamId)

namespace Kept
variable {s : SourceNode}

theorem new : Kept new := fun _ => ⟨rfl, Fifo.Served.nil⟩

section
variable (kept : Kept s)
include kept

theorem same {t : SourceNode} (requests : t.captureRequests = s.captureRequests) (log : t.log = s.log) : Kept t := by
  intro streamId
  have now := kept streamId
  simp only [pending] at now ⊢
  rwa [requests, log]

theorem capture (streamId captureId : Int) : Kept (s.capture streamId captureId) := by
  intro other
  obtain ⟨queue, served⟩ := kept other
  by_cases own : other = streamId
  · subst own
    simp only [SourceNode.capture, record, pending, update_self, Option.getD_some, Fifo.waiting_put] at queue ⊢
    refine ⟨?_, served.put captureId⟩
    rw [← queue]
    cases s.captureRequests other <;> rfl
  · simp only [SourceNode.capture, record, pending, update_of_ne own] at queue ⊢
    exact ⟨queue, served⟩

theorem deliverBuffer (buffer : CameraBuffer) : Kept (s.deliverBuffer buffer) := by
  intro other
  obtain ⟨queue, served⟩ := kept other
  by_cases own : other = buffer.streamId
  · subst own
    simp only [SourceNode.deliverBuffer]
    split
    · rename_i none
      simp only [pending, none, Option.getD_none] at queue
      simp only [record, pending, none, update_self, Fifo.waiting_take, ← queue]
      exact ⟨rfl, served.take (by rw [← queue]; rfl)⟩
    · rename_i none
      simp only [pending, none, Option.getD_some] at queue
      simp only [record, pending, none, update_self, Fifo.waiting_take, ← queue]
      exact ⟨rfl, served.take (by rw [← queue]; rfl)⟩
    · rename_i captureId requests some
      simp only [pending, some, Option.getD_some] at queue
      simp only [record, pending, update_self, Fifo.waiting_take, ← queue, Option.getD_some, List.tail_cons]
      exact ⟨trivial, served.take (by rw [← queue]; rfl)⟩
  · simp only [SourceNode.deliverBuffer]
    split <;> simpa only [record, pending, update_of_ne own] using ⟨queue, served⟩

theorem deliverAll (buffers : List CameraBuffer) : Kept (buffers.foldl SourceNode.deliverBuffer s) := by
  induction buffers generalizing s with
  | nil => exact kept
  | cons buffer rest ih => exact ih (kept.deliverBuffer buffer)

theorem start {streamId : Int} {port pool : Bool} (fresh : s.pending streamId = []) : Kept (s.start streamId port pool) := by
  simp only [SourceNode.start]
  split
  · exact kept
  split
  · exact kept
  intro other
  obtain ⟨queue, served⟩ := kept other
  by_cases own : other = streamId
  · subst own
    simp only [pending, update_self] at fresh ⊢
    exact ⟨fresh, Fifo.Served.nil⟩
  · simpa only [pending, update_of_ne own] using ⟨queue, served⟩

theorem perform {e : SourceStep} (fresh : s.Fresh e) : Kept (s.perform e) := by
  cases e with
  | start streamId port pool => exact kept.start fresh
  | capture streamId captureId => exact kept.capture streamId captureId
  | cancelCapture streamId => exact kept
  | onPackBuffer buffer =>
    simp only [SourceNode.perform, SourceNode.onPackBuffer]
    split
    · exact kept.same rfl rfl
    · exact kept.same rfl rfl
  | distributeBuffers streamId =>
    simp only [SourceNode.perform, SourceNode.distributeBuffers]
    split
    · exact kept
    split
    · exact kept
    · rename_i buffer rest _
      exact (kept.deliverBuffer buffer).same rfl rfl
  | flush streamId idle =>
    simp only [SourceNode.perform, SourceNode.flush]
    split
    · exact kept
    split
    · exact kept.same rfl rfl
    · exact kept.deliverAll idle
  | stop streamId =>
    simp only [SourceNode.perform, SourceNode.stop]
    split
    · exact kept
    · rename_i handler _
      exact (kept.deliverAll handler.respondBufferList).same rfl rfl

theorem step {e : SourceStep} (fresh : s.Fresh e) : Kept (s.step e) := by
  simp only [SourceNode.step]
  split
  · exact kept
  · exact kept.perform fresh

end

end Kept

/-- If no stream is started while ids are pending for it, then the buffers of every stream get the ids in turn. -/
theorem frames_attributed {s : SourceNode} (reached : Reaches step Fresh new s) (streamId : Int) : Attributed (s.log streamId) :=
  Attributed.of_served (reached.keeps Kept.new (fun _ _ kept fresh => kept.step fresh) streamId).2

def restarted : List SourceStep :=
  [.start 1 true true, .capture 1 7, .onPackBuffer ⟨0, 1, -1, .ok⟩, .distributeBuffers 1, .flush 1 [⟨1, 1, -1, .ok⟩], .stop 1,
    .start 1 true true, .capture 1 8, .onPackBuffer ⟨0, 1, 7, .ok⟩, .distributeBuffers 1]

theorem restarted_attributed : Attributed ((restarted.foldl step new).log 1) ∧
    (restarted.foldl step new).log 1 = [.put 8, .take ⟨0, 1, 8, .ok⟩] :=
  ⟨frames_attributed (Takes.reaches (by decide)) 1, by decide⟩

def early : List SourceStep :=
  [.start 1 true true, .onPackBuffer ⟨0, 1, -1, .ok⟩, .distributeBuffers 1, .capture 1 7, .onPackBuffer ⟨1, 1, -1, .ok⟩,
    .distributeBuffers 1]

/-- The second buffer has the first id. -/
theorem early_not_byNumber : Reaches step (fun _ _ => True) new (early.foldl step new) ∧
    ¬ ByNumber ((early.foldl step new).log 1) := by
  constructor
  · exact Takes.reaches (by simp [early, Transitions.Takes])
  · intro number
    have second := number [.take ⟨0, 1, -1, .invalid⟩, .put 7] ⟨1, 1, 7, .ok⟩ [] (by decide)
    exact absurd second (by decide)

end SourceNode

end Peripheral.Camera
