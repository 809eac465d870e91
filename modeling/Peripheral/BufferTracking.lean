import Mathlib.Data.List.Flatten
import Peripheral.Searches

/-!
The tracking of camera buffers, `buffer_loop_tracking.cpp`. A stream has a list of
nodes and each node a list of frame numbers; a message moves a frame to a node or
takes it out. Objects that the source finds in a list and changes there are changed
at the place where they are found.
-/
namespace Peripheral.Camera
open Searches Function List

section
variable {α : Type}

def modifyFirst (p : α → Bool) (f : α → α) : List α → List α
  | [] => []
  | a :: rest => if p a then f a :: rest else a :: modifyFirst p f rest

theorem modifyFirst_map {β : Type} {p : α → Bool} {f : α → α} {key : α → β} (same : ∀ a, key (f a) = key a) (list : List α) :
    (modifyFirst p f list).map key = list.map key := by
  induction list with
  | nil => rfl
  | cons a rest ih =>
    rw [modifyFirst]
    split
    · simp [same]
    · simp [ih]

theorem mem_modifyFirst {β : Type} {key : α → β} {f : α → α} {list : List α} {b : β} [DecidableEq β]
    (distinct : (list.map key).Nodup) (a : α) : a ∈ modifyFirst (fun a => key a = b) f list ↔
      (a ∈ list ∧ key a ≠ b) ∨ ∃ a' ∈ list, key a' = b ∧ a = f a' := by
  induction list with
  | nil => simp [modifyFirst]
  | cons head rest ih =>
    rw [map_cons, nodup_cons] at distinct
    rw [modifyFirst]
    by_cases found : key head = b
    · have others : ∀ x ∈ rest, key x ≠ b := by
        intro x member same
        exact distinct.1 (mem_map.mpr ⟨x, member, same.trans found.symm⟩)
      rw [if_pos (by simpa using found), mem_cons]
      constructor
      · rintro (rfl | member)
        · exact .inr ⟨head, mem_cons_self .., found, rfl⟩
        · exact .inl ⟨mem_cons_of_mem _ member, others a member⟩
      · rintro (⟨member, other⟩ | ⟨a', member, same, rfl⟩)
        · rcases mem_cons.mp member with rfl | there
          · exact absurd found other
          · exact .inr there
        · rcases mem_cons.mp member with rfl | there
          · exact .inl rfl
          · exact absurd same (others a' there)
    · rw [if_neg (by simpa using found), mem_cons, ih distinct.2]
      constructor
      · rintro (rfl | ⟨member, other⟩ | ⟨a', member, same, is⟩)
        · exact .inl ⟨mem_cons_self .., found⟩
        · exact .inl ⟨mem_cons_of_mem _ member, other⟩
        · exact .inr ⟨a', mem_cons_of_mem _ member, same, is⟩
      · rintro (⟨member, other⟩ | ⟨a', member, same, is⟩)
        · rcases mem_cons.mp member with rfl | there
          · exact .inl rfl
          · exact .inr (.inl ⟨there, other⟩)
        · rcases mem_cons.mp member with rfl | there
          · exact absurd same found
          · exact .inr (.inr ⟨a', there, same, is⟩)

end

structure TrackingNode where
  nodeName : String
  trackingBufferList : List UInt64
  deriving DecidableEq

namespace TrackingNode

def findTrackingBuffer (node : TrackingNode) (frame : UInt64) : Bool := frame ∈ node.trackingBufferList

def attachTrackingBuffer (frame : UInt64) (node : TrackingNode) : TrackingNode :=
  { node with trackingBufferList := node.trackingBufferList ++ [frame] }

def detachTrackingBuffer (frame : UInt64) (node : TrackingNode) : TrackingNode :=
  { node with trackingBufferList := node.trackingBufferList.erase frame }

end TrackingNode

structure TrackingStream where
  trackingId : Int
  addNodeComplete : Bool
  trackingNodeList : List TrackingNode
  deriving DecidableEq

namespace TrackingStream

def hasTrackingNode (stream : TrackingStream) (name : String) : Bool :=
  stream.trackingNodeList.any fun node => node.nodeName = name

def attachTrackingNode (name : String) (stream : TrackingStream) : TrackingStream :=
  if stream.hasTrackingNode name then stream
  else { stream with trackingNodeList := stream.trackingNodeList ++ [⟨name, []⟩] }

def removeBuffer (frame : UInt64) (stream : TrackingStream) : TrackingStream :=
  let nodes := modifyFirst (·.findTrackingBuffer frame) (.detachTrackingBuffer frame) stream.trackingNodeList
  { stream with trackingNodeList := nodes }

/-- The frame is taken from where it is located and attached to the node, when that is tracked. -/
def moveBuffer (frame : UInt64) (name : String) (stream : TrackingStream) : TrackingStream :=
  if stream.hasTrackingNode name then
    let stream := stream.removeBuffer frame
    let nodes := modifyFirst (fun node => node.nodeName = name) (.attachTrackingBuffer frame) stream.trackingNodeList
    { stream with trackingNodeList := nodes }
  else stream

def nodeAddComplete (stream : TrackingStream) : TrackingStream := { stream with addNodeComplete := true }

def dumpTrace (stream : TrackingStream) : List (String × List UInt64) :=
  stream.trackingNodeList.map fun node => (node.nodeName, node.trackingBufferList)

end TrackingStream

structure BufferTrackingMessage where
  trackingId : Int
  frameNumber : UInt64
  nodeName : String
  isReturnBack : Bool
  deriving DecidableEq

/-- The streams of `BufferLoopTracking`. -/
abbrev Streams := List TrackingStream

namespace Streams

def findTrackingStream (streams : Streams) (id : Int) :
    Option TrackingStream := streams.find? fun stream => stream.trackingId = id

def change (streams : Streams) (id : Int) (f : TrackingStream → TrackingStream) : Streams :=
  modifyFirst (fun stream => stream.trackingId = id) f streams

def addTrackingStreamBegin (streams : Streams) (id : Int) : Streams :=
  if (streams.findTrackingStream id).isSome then streams else streams ++ [⟨id, false, []⟩]

def addTrackingNode (streams : Streams) (id : Int) (name : String) : Streams := streams.change id (.attachTrackingNode name)

def addTrackingStreamEnd (streams : Streams) (id : Int) : Streams := streams.change id .nodeAddComplete

def deleteTrackingStream (streams : Streams) (id : Int) : Streams := streams.eraseP fun stream => stream.trackingId = id

/-- `HandleMessage` with the message that was received. -/
def handleMessage (streams : Streams) (message : BufferTrackingMessage) : Streams :=
  streams.change message.trackingId fun stream =>
    if !stream.addNodeComplete then stream
    else if message.isReturnBack then stream.removeBuffer message.frameNumber
    else stream.moveBuffer message.frameNumber message.nodeName

/-- The graph stays as it is when there is no such stream. -/
def dumpTrace (streams : Streams) (id : Int) (graph : List (String × List UInt64)) : List (String × List UInt64) :=
  match streams.findTrackingStream id with
  | none => graph
  | some stream => stream.dumpTrace

end Streams

structure Tracker where
  streams : Streams
  messageQueue : List BufferTrackingMessage
  log : Int → List BufferTrackingMessage

inductive TrackingCall
  | addTrackingStreamBegin (id : Int)
  | addTrackingNode (id : Int) (name : String)
  | addTrackingStreamEnd (id : Int)
  | deleteTrackingStream (id : Int)
  | sendBufferMovementMessage (message : BufferTrackingMessage)
  | handleMessage

namespace Tracker

def start : Tracker := ⟨[], [], fun _ => []⟩

def counts (streams : Streams) (message : BufferTrackingMessage) : Bool :=
  match streams.findTrackingStream message.trackingId with
  | none => false
  | some stream => stream.addNodeComplete && (message.isReturnBack || stream.hasTrackingNode message.nodeName)

def note (t : Tracker) (message : BufferTrackingMessage) : Int → List BufferTrackingMessage :=
  if counts t.streams message then
    update t.log message.trackingId (t.log message.trackingId ++ [message])
  else t.log

def step (t : Tracker) : TrackingCall → Tracker
  | .addTrackingStreamBegin id => { t with streams := t.streams.addTrackingStreamBegin id }
  | .addTrackingNode id name => { t with streams := t.streams.addTrackingNode id name }
  | .addTrackingStreamEnd id => { t with streams := t.streams.addTrackingStreamEnd id }
  | .deleteTrackingStream id => { t with streams := t.streams.deleteTrackingStream id, log := update t.log id [] }
  | .sendBufferMovementMessage message => { t with messageQueue := t.messageQueue ++ [message] }
  | .handleMessage =>
    match t.messageQueue with
    | [] => t
    | message :: queue => ⟨t.streams.handleMessage message, queue, t.note message⟩

def run (t : Tracker) (calls : List TrackingCall) : Tracker := calls.foldl step t

end Tracker

/-- Where the last of the messages for a frame moved it. -/
def lastMove (log : List BufferTrackingMessage) (frame : UInt64) : Option String :=
  match (log.filter fun message => message.frameNumber = frame).getLast? with
  | none => none
  | some message => if message.isReturnBack then none else some message.nodeName

/-- Every completed stream has each frame at most once, and shows it where it last was. -/
def ShowsFrames (t : Tracker) : Prop :=
  ∀ stream ∈ t.streams, stream.addNodeComplete = true →
    (stream.trackingNodeList.flatMap TrackingNode.trackingBufferList).Nodup ∧
    ∀ name frame, (∃ frames, (name, frames) ∈ t.streams.dumpTrace stream.trackingId [] ∧ frame ∈ frames) ↔
      lastMove (t.log stream.trackingId) frame = some name

def Listed (nodes : List TrackingNode) (name : String) (frame : UInt64) : Prop :=
  ∃ node ∈ nodes, node.nodeName = name ∧ frame ∈ node.trackingBufferList

abbrev allFrames (nodes : List TrackingNode) : List UInt64 := nodes.flatMap TrackingNode.trackingBufferList

section
variable {nodes : List TrackingNode} {frame : UInt64} {name : String}

theorem allFrames_detach (nodes : List TrackingNode) (frame : UInt64) :
    allFrames (modifyFirst (·.findTrackingBuffer frame) (.detachTrackingBuffer frame) nodes) = (allFrames nodes).erase frame := by
  induction nodes with
  | nil => rfl
  | cons node rest ih =>
    rw [modifyFirst]
    by_cases here : frame ∈ node.trackingBufferList
    · rw [if_pos (by simpa [TrackingNode.findTrackingBuffer] using here), allFrames, allFrames, flatMap_cons,
        flatMap_cons, erase_append_left _ here]
      rfl
    · rw [if_neg (by simpa [TrackingNode.findTrackingBuffer] using here), allFrames, allFrames, flatMap_cons,
        flatMap_cons, erase_append_right _ here]
      exact congrArg _ ih

theorem allFrames_attach (tracked : ∃ node ∈ nodes, node.nodeName = name) (frame : UInt64) :
    (allFrames (modifyFirst (fun node => node.nodeName = name) (.attachTrackingBuffer frame) nodes)).Perm
      (frame :: allFrames nodes) := by
  induction nodes with
  | nil =>
    obtain ⟨_, member, _⟩ := tracked
    cases member
  | cons node rest ih =>
    rw [modifyFirst]
    by_cases here : node.nodeName = name
    · rw [if_pos (by simpa using here)]
      simp only [allFrames, flatMap_cons, TrackingNode.attachTrackingBuffer, append_assoc, singleton_append]
      exact perm_middle
    · rw [if_neg (by simpa using here)]
      have later : ∃ node ∈ rest, node.nodeName = name := by
        obtain ⟨x, member, is⟩ := tracked
        rcases mem_cons.mp member with rfl | there
        · exact absurd is here
        · exact ⟨x, there, is⟩
      simp only [allFrames, flatMap_cons]
      exact ((ih later).append_left _).trans perm_middle

theorem listed_cons (node : TrackingNode) (rest : List TrackingNode) (name : String) (frame : UInt64) :
    Listed (node :: rest) name frame ↔ (node.nodeName = name ∧ frame ∈ node.trackingBufferList) ∨ Listed rest name frame := by
  simp only [Listed, exists_mem_cons_iff]

theorem Listed.mem (listed : Listed nodes name frame) : frame ∈ allFrames nodes := by
  obtain ⟨node, member, _, here⟩ := listed
  exact mem_flatMap.mpr ⟨node, member, here⟩

theorem listed_detach (distinct : (allFrames nodes).Nodup) (name : String) (other : UInt64) :
    Listed (modifyFirst (·.findTrackingBuffer frame) (.detachTrackingBuffer frame) nodes) name other ↔
      other ≠ frame ∧ Listed nodes name other := by
  induction nodes with
  | nil => simp [modifyFirst, Listed]
  | cons node rest ih =>
    rw [allFrames, flatMap_cons, nodup_append] at distinct
    obtain ⟨own, rests, disjoint⟩ := distinct
    rw [modifyFirst]
    by_cases here : frame ∈ node.trackingBufferList
    · rw [if_pos (by simpa [TrackingNode.findTrackingBuffer] using here), listed_cons, listed_cons]
      simp only [TrackingNode.detachTrackingBuffer, own.mem_erase_iff]
      constructor
      · rintro (⟨named, differs, there⟩ | later)
        · exact ⟨differs, .inl ⟨named, there⟩⟩
        · refine ⟨?_, .inr later⟩
          rintro rfl
          exact disjoint other here other later.mem rfl
      · rintro ⟨differs, ⟨named, there⟩ | later⟩
        · exact .inl ⟨named, differs, there⟩
        · exact .inr later
    · rw [if_neg (by simpa [TrackingNode.findTrackingBuffer] using here), listed_cons, listed_cons, ih rests]
      constructor
      · rintro (⟨named, there⟩ | ⟨differs, later⟩)
        · refine ⟨?_, .inl ⟨named, there⟩⟩
          rintro rfl
          exact here there
        · exact ⟨differs, .inr later⟩
      · rintro ⟨differs, ⟨named, there⟩ | later⟩
        · exact .inl ⟨named, there⟩
        · exact .inr ⟨differs, later⟩

theorem listed_attach (tracked : ∃ node ∈ nodes, node.nodeName = name) (n : String) (other : UInt64) :
    Listed (modifyFirst (fun node => node.nodeName = name) (.attachTrackingBuffer frame) nodes) n other ↔
      Listed nodes n other ∨ (n = name ∧ other = frame) := by
  induction nodes with
  | nil =>
    obtain ⟨_, member, _⟩ := tracked
    cases member
  | cons node rest ih =>
    rw [modifyFirst]
    by_cases here : node.nodeName = name
    · rw [if_pos (by simpa using here), listed_cons, listed_cons]
      simp only [TrackingNode.attachTrackingBuffer, mem_append, mem_singleton]
      constructor
      · rintro (⟨named, there | same⟩ | later)
        · exact .inl (.inl ⟨named, there⟩)
        · exact .inr ⟨named.symm.trans here, same⟩
        · exact .inl (.inr later)
      · rintro ((⟨named, there⟩ | later) | ⟨named, same⟩)
        · exact .inl ⟨named, .inl there⟩
        · exact .inr later
        · exact .inl ⟨here.trans named.symm, .inr same⟩
    · have later : ∃ node ∈ rest, node.nodeName = name := by
        obtain ⟨x, member, is⟩ := tracked
        rcases mem_cons.mp member with rfl | there
        · exact absurd is here
        · exact ⟨x, there, is⟩
      rw [if_neg (by simpa using here), listed_cons, listed_cons, ih later, or_assoc]

end

/-- Each frame is at one node at most, the one where the messages last moved it. -/
structure Follows (stream : TrackingStream) (log : List BufferTrackingMessage) : Prop where
  distinct : (allFrames stream.trackingNodeList).Nodup
  shows : ∀ name frame, Listed stream.trackingNodeList name frame ↔ lastMove log frame = some name

theorem lastMove_append (log : List BufferTrackingMessage) (message : BufferTrackingMessage) (frame : UInt64) :
    lastMove (log ++ [message]) frame = if message.frameNumber = frame then
      (if message.isReturnBack then none else some message.nodeName) else lastMove log frame := by
  simp only [lastMove]
  by_cases same : message.frameNumber = frame
  · simp [same]
  · simp [same]

section
variable {stream : TrackingStream} {log : List BufferTrackingMessage} {message : BufferTrackingMessage}

theorem hasTrackingNode_iff {name : String} :
    stream.hasTrackingNode name = true ↔ ∃ node ∈ stream.trackingNodeList, node.nodeName = name := by
  simp [TrackingStream.hasTrackingNode]

theorem Follows.remove (follows : Follows stream log) (returns : message.isReturnBack = true) :
    Follows (stream.removeBuffer message.frameNumber) (log ++ [message]) := by
  refine ⟨?_, ?_⟩
  · have frames := allFrames_detach stream.trackingNodeList message.frameNumber
    simp only [TrackingStream.removeBuffer, frames]
    exact follows.distinct.erase _
  · intro name frame
    rw [lastMove_append, returns]
    refine (listed_detach follows.distinct name frame).trans ?_
    rw [follows.shows name frame]
    by_cases same : message.frameNumber = frame
    · simp [same]
    · simp [same, Ne.symm same]

theorem Follows.move (follows : Follows stream log) (moves : message.isReturnBack = false)
    (tracked : stream.hasTrackingNode message.nodeName = true) :
    Follows (stream.moveBuffer message.frameNumber message.nodeName) (log ++ [message]) := by
  have frames := allFrames_detach stream.trackingNodeList message.frameNumber
  have names : (modifyFirst (fun node : TrackingNode => node.findTrackingBuffer message.frameNumber)
      (.detachTrackingBuffer message.frameNumber) stream.trackingNodeList).map TrackingNode.nodeName =
      stream.trackingNodeList.map TrackingNode.nodeName := by
    apply modifyFirst_map
    intro node
    rfl
  have there : ∃ node ∈ modifyFirst (fun node : TrackingNode => node.findTrackingBuffer message.frameNumber)
      (.detachTrackingBuffer message.frameNumber) stream.trackingNodeList, node.nodeName = message.nodeName := by
    obtain ⟨node, member, is⟩ := hasTrackingNode_iff.mp tracked
    have named : message.nodeName ∈ stream.trackingNodeList.map TrackingNode.nodeName := mem_map.mpr ⟨node, member, is⟩
    rw [← names] at named
    exact mem_map.mp named
  rw [TrackingStream.moveBuffer, if_pos tracked]
  refine ⟨?_, ?_⟩
  · refine (allFrames_attach there message.frameNumber).nodup_iff.mpr (nodup_cons.mpr ⟨?_, ?_⟩)
    · rw [frames]
      exact follows.distinct.not_mem_erase
    · rw [frames]
      exact follows.distinct.erase _
  · intro name frame
    rw [lastMove_append, moves]
    refine (listed_attach there name frame).trans ?_
    rw [listed_detach follows.distinct, follows.shows name frame]
    by_cases same : message.frameNumber = frame
    · simp [same, eq_comm]
    · simp [same, Ne.symm same]

end

/-- Every stream follows its messages, and a stream that is not there has none. -/
structure Tracks (t : Tracker) : Prop where
  ids : (t.streams.map TrackingStream.trackingId).Nodup
  follows : ∀ stream ∈ t.streams, Follows stream (t.log stream.trackingId)
  absent : ∀ id, (∀ stream ∈ t.streams, stream.trackingId ≠ id) → t.log id = []

section
variable {t : Tracker}

section
variable (tracks : Tracks t)
include tracks

theorem Tracks.find {stream : TrackingStream} (member : stream ∈ t.streams) :
    t.streams.findTrackingStream stream.trackingId = some stream := by
  cases found : t.streams.findTrackingStream stream.trackingId with
  | none =>
    have none := find?_eq_none.mp found stream member
    simp at none
  | some other =>
    have same : other.trackingId = stream.trackingId := by simpa using find?_some found
    rw [inj_on_of_nodup_map tracks.ids (mem_of_find?_eq_some found) member same]

theorem Tracks.showsFrames : ShowsFrames t := by
  intro stream member _
  obtain ⟨distinct, shows⟩ := tracks.follows stream member
  refine ⟨distinct, ?_⟩
  intro name frame
  rw [← shows name frame, Streams.dumpTrace, tracks.find member]
  constructor
  · rintro ⟨frames, entry, here⟩
    obtain ⟨node, inside, is⟩ := mem_map.mp entry
    cases is
    exact ⟨node, inside, rfl, here⟩
  · rintro ⟨node, inside, rfl, here⟩
    exact ⟨node.trackingBufferList, mem_map.mpr ⟨node, inside, rfl⟩, here⟩

theorem Tracks.change (id : Int) (f : TrackingStream → TrackingStream) (queue : List BufferTrackingMessage)
    {messages : List BufferTrackingMessage} (same : ∀ stream, (f stream).trackingId = stream.trackingId)
    (missing : (∀ stream ∈ t.streams, stream.trackingId ≠ id) → messages = [])
    (follows : ∀ stream ∈ t.streams, stream.trackingId = id → Follows (f stream) messages) :
    Tracks ⟨t.streams.change id f, queue, update t.log id messages⟩ := by
  have ids : (t.streams.change id f).map TrackingStream.trackingId = t.streams.map TrackingStream.trackingId :=
    modifyFirst_map same t.streams
  refine ⟨by rw [ids]; exact tracks.ids, ?_, ?_⟩
  · intro stream member
    rcases (mem_modifyFirst tracks.ids stream).mp member with ⟨old, other⟩ | ⟨before, old, is, rfl⟩
    · simp only [update_of_ne other]
      exact tracks.follows stream old
    · simp only [same, is, update_self]
      exact follows before old is
  · intro other gone
    have gone' : ∀ stream ∈ t.streams, stream.trackingId ≠ other := by
      intro stream member is
      have named : other ∈ (t.streams.change id f).map TrackingStream.trackingId := by
        rw [ids]
        exact mem_map.mpr ⟨stream, member, is⟩
      obtain ⟨changed, there, its⟩ := mem_map.mp named
      exact gone changed there its
    by_cases here : other = id
    · subst here
      simp only [update_self]
      exact missing gone'
    · simp only [update_of_ne here]
      exact tracks.absent other gone'

theorem Tracks.change_quiet (id : Int) (f : TrackingStream → TrackingStream)
    (queue : List BufferTrackingMessage) (same : ∀ stream, (f stream).trackingId = stream.trackingId)
    (follows : ∀ stream ∈ t.streams, stream.trackingId = id → ∀ log, Follows stream log → Follows (f stream) log) :
    Tracks ⟨t.streams.change id f, queue, t.log⟩ := by
  have changed := tracks.change id f queue same (tracks.absent id) (by
    intro stream member is
    have before := tracks.follows stream member
    rw [is] at before
    exact follows stream member is _ before)
  rw [update_eq_self] at changed
  exact changed

theorem Tracks.begin (id : Int) : Tracks { t with streams := t.streams.addTrackingStreamBegin id } := by
  cases found : t.streams.findTrackingStream id with
  | some stream =>
    have unchanged : t.streams.addTrackingStreamBegin id = t.streams := by
      simp [Streams.addTrackingStreamBegin, found]
    rw [unchanged]
    exact tracks
  | none =>
    have added : t.streams.addTrackingStreamBegin id = t.streams ++ [⟨id, false, []⟩] := by
      simp [Streams.addTrackingStreamBegin, found]
    have new : ∀ stream ∈ t.streams, stream.trackingId ≠ id := by
      intro stream member
      simpa using find?_eq_none.mp found stream member
    rw [added]
    refine ⟨?_, ?_, ?_⟩
    · rw [map_append, nodup_append]
      refine ⟨tracks.ids, by simp, ?_⟩
      rintro a old b now rfl
      obtain ⟨stream, member, rfl⟩ := mem_map.mp old
      exact new stream member (by simpa using now)
    · intro stream member
      rcases mem_append.mp member with old | now
      · exact tracks.follows stream old
      · rw [mem_singleton.mp now]
        simp only [tracks.absent id new]
        exact ⟨nodup_nil, by simp [Listed, lastMove]⟩
    · intro other gone
      exact tracks.absent other fun stream member => gone stream (mem_append_left _ member)

theorem Tracks.delete (id : Int) : Tracks (t.step (.deleteTrackingStream id)) := by
  have kept : ∀ stream, stream ∈ t.streams.deleteTrackingStream id ↔ stream ∈ t.streams ∧ stream.trackingId ≠ id := by
    exact mem_eraseP tracks.ids
  refine ⟨?_, ?_, ?_⟩
  · exact (eraseP_sublist.map _).nodup tracks.ids
  · intro stream member
    obtain ⟨old, other⟩ := (kept stream).mp member
    simp only [Tracker.step, update_of_ne other]
    exact tracks.follows stream old
  · intro other gone
    simp only [Tracker.step]
    by_cases here : other = id
    · rw [here, update_self]
    · rw [update_of_ne here]
      apply tracks.absent other
      intro stream member is
      exact gone stream ((kept stream).mpr ⟨member, by rw [is]; exact here⟩) is

end

theorem Follows.attachNode {stream : TrackingStream} {log : List BufferTrackingMessage} (follows : Follows stream log)
    (name : String) : Follows (stream.attachTrackingNode name) log := by
  rw [TrackingStream.attachTrackingNode]
  split
  · exact follows
  · refine ⟨?_, ?_⟩
    · simpa [allFrames] using follows.distinct
    · intro n frame
      rw [← follows.shows n frame]
      simp only [Listed, mem_append, mem_singleton]
      constructor
      · rintro ⟨node, old | rfl, named, here⟩
        · exact ⟨node, old, named, here⟩
        · cases here
      · rintro ⟨node, old, named, here⟩
        exact ⟨node, .inl old, named, here⟩

theorem TrackingStream.attachTrackingNode_id (name : String) (stream : TrackingStream) :
    (stream.attachTrackingNode name).trackingId = stream.trackingId := by
  rw [TrackingStream.attachTrackingNode]
  split <;> rfl

theorem Tracks.counts_eq (tracks : Tracks t) {stream : TrackingStream} {message : BufferTrackingMessage}
    (member : stream ∈ t.streams) (is : stream.trackingId = message.trackingId) : Tracker.counts t.streams message =
      (stream.addNodeComplete && (message.isReturnBack || stream.hasTrackingNode message.nodeName)) := by
  rw [Tracker.counts]
  rw [← is, tracks.find member]

theorem counts_missing {streams : Streams} {message : BufferTrackingMessage}
    (missing : ∀ stream ∈ streams, stream.trackingId ≠ message.trackingId) : Tracker.counts streams message = false := by
  have none : streams.findTrackingStream message.trackingId = none := by
    apply find?_eq_none.mpr
    intro stream member
    simpa using missing stream member
  rw [Tracker.counts]
  rw [none]

theorem Tracks.handle (tracks : Tracks t) (message : BufferTrackingMessage) (queue : List BufferTrackingMessage) :
    Tracks ⟨t.streams.handleMessage message, queue, t.note message⟩ := by
  unfold Streams.handleMessage Tracker.note
  have same : ∀ stream : TrackingStream, (if !stream.addNodeComplete then stream
      else if message.isReturnBack then stream.removeBuffer message.frameNumber
      else stream.moveBuffer message.frameNumber message.nodeName).trackingId = stream.trackingId := by
    intro stream
    unfold TrackingStream.moveBuffer TrackingStream.removeBuffer
    split
    · rfl
    · split
      · rfl
      · split <;> rfl
  by_cases counted : Tracker.counts t.streams message = true
  · rw [if_pos counted]
    apply tracks.change _ _ queue same
    · intro missing
      rw [counts_missing missing] at counted
      cases counted
    · intro stream member is
      have before := tracks.follows stream member
      rw [is] at before
      rw [tracks.counts_eq member is, Bool.and_eq_true, Bool.or_eq_true] at counted
      rw [counted.1]
      cases returns : message.isReturnBack with
      | true => exact before.remove returns
      | false =>
        rw [returns] at counted
        exact before.move returns (counted.2.resolve_left (by decide))
  · rw [if_neg counted]
    apply tracks.change_quiet _ _ queue same
    intro stream member is log follows
    rw [tracks.counts_eq member is] at counted
    -- an incomplete stream, or a move to a node that is not tracked
    cases complete : stream.addNodeComplete with
    | false => exact follows
    | true =>
      rw [complete, Bool.true_and, Bool.or_eq_true, not_or, Bool.not_eq_true, Bool.not_eq_true] at counted
      rw [counted.1, TrackingStream.moveBuffer, counted.2]
      exact follows

theorem Tracks.step (tracks : Tracks t) (call : TrackingCall) : Tracks (t.step call) := by
  cases call with
  | addTrackingStreamBegin id => exact tracks.begin id
  | addTrackingNode id name =>
    refine tracks.change_quiet id _ t.messageQueue (TrackingStream.attachTrackingNode_id name) ?_
    intro stream _ _ log follows
    exact follows.attachNode name
  | addTrackingStreamEnd id =>
    refine tracks.change_quiet id _ t.messageQueue (fun _ => rfl) ?_
    intro stream _ _ log follows
    exact ⟨follows.distinct, follows.shows⟩
  | deleteTrackingStream id => exact tracks.delete id
  | sendBufferMovementMessage message => exact ⟨tracks.ids, tracks.follows, tracks.absent⟩
  | handleMessage =>
    simp only [Tracker.step]
    split
    · exact tracks
    · exact tracks.handle _ _

theorem Tracks.run (tracks : Tracks t) (calls : List TrackingCall) : Tracks (t.run calls) := by
  induction calls generalizing t with
  | nil => exact tracks
  | cons call calls ih => exact ih (tracks.step call)

end

theorem tracks_start : Tracks Tracker.start := by
  refine ⟨nodup_nil, ?_, ?_⟩
  · intro stream member
    cases member
  · intro id _
    rfl

/-- After any calls and messages, every completed stream has each frame at most once and shows it where it last was. -/
theorem run_showsFrames (calls : List TrackingCall) : ShowsFrames (Tracker.start.run calls) :=
  (tracks_start.run calls).showsFrames

end Peripheral.Camera
