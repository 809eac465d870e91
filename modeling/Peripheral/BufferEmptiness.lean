import Peripheral.BufferTracking

/-!
The question whether a path of nodes is empty, `buffer_loop_tracking.cpp`. The path is
selected by a flag that goes up at the first node with one of the two names and down at
the second one; its nodes are asked one after the other, but the first one answers.
-/
namespace Peripheral.Camera
open TrackingStream List

def NODE_IS_EMPTY : Int := 0
def NODE_IS_NOT_EMPTY : Int := 1
def INVALID_TRACKING_ID : Int := -1

def TrackingNode.isEmpty (node : TrackingNode) : Bool := node.trackingBufferList.isEmpty

namespace TrackingStream

/-- A round of the loop over the nodes, with the path so far and the flag. -/
def pathRound (beginNode endNode : String) : List TrackingNode × Bool → TrackingNode → List TrackingNode × Bool
  | (nodePath, isInPath), n =>
    if n.nodeName = beginNode || n.nodeName = endNode then (nodePath ++ [n], nodePath.isEmpty)
    else if isInPath then (nodePath ++ [n], isInPath)
    else (nodePath, isInPath)

def findTrackingNodePath (stream : TrackingStream) (beginNode endNode : String) : List TrackingNode :=
  (stream.trackingNodeList.foldl (pathRound beginNode endNode) ([], false)).1

end TrackingStream

/-- The loop over the path. Both branches of its body return; behind it `true` is returned as a number. -/
def scanPath : List TrackingNode → Int
  | [] => 1
  | n :: _ => if n.isEmpty ≠ true then NODE_IS_NOT_EMPTY else NODE_IS_EMPTY

def Streams.isEmpty (streams : Streams) (id : Int) (beginNode endNode : String) : Int :=
  match streams.findTrackingStream id with
  | none => INVALID_TRACKING_ID
  | some stream => scanPath (stream.findTrackingNodePath beginNode endNode)

section
variable {beginNode endNode : String} {nodes before between after : List TrackingNode} {node first last : TrackingNode}

theorem path_outside (others : ∀ n ∈ nodes, n.nodeName ≠ beginNode ∧ n.nodeName ≠ endNode) (path : List TrackingNode) :
    nodes.foldl (pathRound beginNode endNode) (path, false) = (path, false) := by
  induction nodes with
  | nil => rfl
  | cons n rest ih =>
    have other := others n (by simp)
    rw [foldl_cons, show pathRound beginNode endNode (path, false) n = (path, false) by
      simp [pathRound, other]]
    exact ih fun m member => others m (by simp [member])

theorem path_inside (others : ∀ n ∈ nodes, n.nodeName ≠ beginNode ∧ n.nodeName ≠ endNode) (path : List TrackingNode) :
    nodes.foldl (pathRound beginNode endNode) (path, true) = (path ++ nodes, true) := by
  induction nodes generalizing path with
  | nil => simp
  | cons n rest ih =>
    have other := others n (by simp)
    rw [foldl_cons, show pathRound beginNode endNode (path, true) n = (path ++ [n], true) by
      simp [pathRound, other]]
    rw [ih (fun m member => others m (by simp [member])), append_assoc, singleton_append]

theorem others_of_nodup {name : String} (apart : name ∉ nodes.map TrackingNode.nodeName) : ∀ n ∈ nodes, n.nodeName ≠ name := by
  intro n member same
  exact apart (mem_map.mpr ⟨n, member, same⟩)

/-- With one name for both ends the flag never goes down again. -/
theorem findTrackingNodePath_single (id : Int) (complete : Bool)
    (distinct : ((before ++ node :: after).map TrackingNode.nodeName).Nodup) :
    findTrackingNodePath ⟨id, complete, before ++ node :: after⟩ node.nodeName node.nodeName = node :: after := by
  simp only [map_append, map_cons, nodup_append, nodup_cons, mem_cons] at distinct
  obtain ⟨_, ⟨later, _⟩, apart⟩ := distinct
  have front : ∀ n ∈ before, n.nodeName ≠ node.nodeName := by
    intro n member
    exact apart _ (mem_map_of_mem member) _ (.inl rfl)
  have back := others_of_nodup later
  have start : pathRound node.nodeName node.nodeName ([], false) node = ([node], true) := by
    simp [pathRound]
  simp only [findTrackingNodePath, foldl_append, foldl_cons]
  rw [path_outside (fun n member => ⟨front n member, front n member⟩), start,
    path_inside (fun n member => ⟨back n member, back n member⟩), singleton_append]

/-- With two names the path is from the first node to the last one. -/
theorem findTrackingNodePath_between (id : Int) (complete : Bool)
    (distinct : ((before ++ first :: (between ++ last :: after)).map TrackingNode.nodeName).Nodup) :
    findTrackingNodePath ⟨id, complete, before ++ first :: (between ++ last :: after)⟩ first.nodeName
      last.nodeName = first :: (between ++ [last]) := by
  simp only [map_append, map_cons, nodup_append, nodup_cons, mem_cons, mem_append, not_or] at distinct
  obtain ⟨_, ⟨⟨firstBetween, _, firstAfter⟩, _, ⟨lastAfter, _⟩, betweens⟩, befores⟩ := distinct
  have front : ∀ n ∈ before, n.nodeName ≠ first.nodeName ∧ n.nodeName ≠ last.nodeName := by
    intro n member
    have apart := befores _ (mem_map_of_mem member)
    exact ⟨apart _ (.inl rfl), apart _ (.inr (.inr (.inl rfl)))⟩
  have middle : ∀ n ∈ between, n.nodeName ≠ first.nodeName ∧ n.nodeName ≠ last.nodeName := by
    intro n member
    exact ⟨others_of_nodup firstBetween n member, betweens _ (mem_map_of_mem member) _ (.inl rfl)⟩
  have back : ∀ n ∈ after, n.nodeName ≠ first.nodeName ∧ n.nodeName ≠ last.nodeName := by
    intro n member
    exact ⟨others_of_nodup firstAfter n member, others_of_nodup lastAfter n member⟩
  have start : pathRound first.nodeName last.nodeName ([], false) first = ([first], true) := by
    simp [pathRound]
  have stop : pathRound first.nodeName last.nodeName (first :: between, true) last =
      (first :: (between ++ [last]), false) := by
    simp [pathRound]
  simp only [findTrackingNodePath, foldl_append, foldl_cons]
  rw [path_outside front, start, path_inside middle, singleton_append, stop, path_outside back]

end

section
variable {streams : Streams} {stream : TrackingStream} {nodes : List TrackingNode}

theorem findTrackingNodePath_head (distinct : (stream.trackingNodeList.map TrackingNode.nodeName).Nodup)
    {i j : Fin stream.trackingNodeList.length} (ordered : i ≤ j) :
    ∃ rest, stream.findTrackingNodePath stream.trackingNodeList[i].nodeName stream.trackingNodeList[j].nodeName =
      stream.trackingNodeList[i] :: rest := by
  obtain ⟨id, complete, nodes⟩ := stream
  simp only at i j distinct ⊢
  obtain ⟨i, below⟩ := i
  obtain ⟨j, inside⟩ := j
  have ordered : i ≤ j := ordered
  have front : nodes = nodes.take i ++ nodes[i] :: nodes.drop (i + 1) := by simp
  rcases Nat.eq_or_lt_of_le ordered with rfl | later
  · rw [front] at distinct
    refine ⟨nodes.drop (i + 1), ?_⟩
    have path := findTrackingNodePath_single id complete distinct
    rwa [← front] at path
  · have back : nodes.drop (i + 1) = (nodes.drop (i + 1)).take (j - (i + 1)) ++ nodes[j] :: nodes.drop (j + 1) := by
      have at_ : nodes.drop j = nodes[j] :: nodes.drop (j + 1) := drop_eq_getElem_cons inside
      have split := take_append_drop (j - (i + 1)) (nodes.drop (i + 1))
      rw [drop_drop, show i + 1 + (j - (i + 1)) = j by omega, at_] at split
      exact split.symm
    have whole := front
    rw [back] at whole
    rw [whole] at distinct
    have path := findTrackingNodePath_between id complete distinct
    rw [← whole] at path
    exact ⟨_, path⟩

theorem isEmpty_first {id : Int} (found : streams.findTrackingStream id = some stream)
    (distinct : (stream.trackingNodeList.map TrackingNode.nodeName).Nodup) {i j : Fin stream.trackingNodeList.length}
    (ordered : i ≤ j) : streams.isEmpty id stream.trackingNodeList[i].nodeName stream.trackingNodeList[j].nodeName =
      if stream.trackingNodeList[i].trackingBufferList = [] then NODE_IS_EMPTY else NODE_IS_NOT_EMPTY := by
  obtain ⟨rest, path⟩ := findTrackingNodePath_head distinct ordered
  rw [Streams.isEmpty, found]
  simp only [path, scanPath, TrackingNode.isEmpty]
  simp

/-- None of the nodes from one to another holds a frame. -/
def NoneHolds (nodes : List TrackingNode) (i j : Fin nodes.length) : Prop :=
  ∀ m, i ≤ m → m ≤ j → nodes[m].trackingBufferList = []

/-- The answer for the path says that it is empty if no node of it holds a frame, and otherwise that it is not. -/
def AnswersPath (streams : Streams) (id : Int) (nodes : List TrackingNode) (i j : Fin nodes.length) : Prop :=
  (NoneHolds nodes i j → streams.isEmpty id nodes[i].nodeName nodes[j].nodeName = NODE_IS_EMPTY) ∧
    (¬ NoneHolds nodes i j → streams.isEmpty id nodes[i].nodeName nodes[j].nodeName = NODE_IS_NOT_EMPTY)

/-- The answer is right exactly when the first node holds a frame or none of the later ones does. -/
theorem answersPath_iff {id : Int} (found : streams.findTrackingStream id = some stream)
    (distinct : (stream.trackingNodeList.map TrackingNode.nodeName).Nodup) {i j : Fin stream.trackingNodeList.length}
    (ordered : i ≤ j) : AnswersPath streams id stream.trackingNodeList i j ↔
      stream.trackingNodeList[i].trackingBufferList ≠ [] ∨
        ∀ m, i < m → m ≤ j → stream.trackingNodeList[m].trackingBufferList = [] := by
  rw [AnswersPath, isEmpty_first found distinct ordered]
  by_cases holds : stream.trackingNodeList[i].trackingBufferList = []
  · have none_iff : NoneHolds stream.trackingNodeList i j ↔
        ∀ m, i < m → m ≤ j → stream.trackingNodeList[m].trackingBufferList = [] := by
      constructor
      · intro none m later inside
        exact none m (Fin.le_of_lt later) inside
      · intro rest m from_ inside
        rcases Fin.eq_or_lt_of_le from_ with rfl | later
        · exact holds
        · exact rest m later inside
    rw [none_iff, if_pos holds]
    constructor
    · rintro ⟨_, other⟩
      by_contra neither
      exact absurd (other fun rest => neither (.inr rest)) (by decide)
    · rintro (held | rest)
      · exact absurd holds held
      · exact ⟨fun _ => rfl, fun other => absurd rest other⟩
  · have some_ : ¬ NoneHolds stream.trackingNodeList i j := fun none => holds (none i (Fin.le_refl i) ordered)
    rw [if_neg holds]
    exact ⟨fun _ => .inl holds, fun _ => ⟨fun none => absurd none some_, fun _ => rfl⟩⟩

end

/-- A stream of two nodes, where the first one holds no frame and the second one does. -/
def frameBehind : Streams := [⟨0, true, [⟨"source", []⟩, ⟨"sink", [7]⟩]⟩]

theorem frameBehind_not_answersPath : ¬ AnswersPath frameBehind 0 [⟨"source", []⟩, ⟨"sink", [7]⟩] 0 1 := by
  intro answers
  have held : ¬ NoneHolds [⟨"source", []⟩, ⟨"sink", [7]⟩] 0 1 := by
    intro none
    exact absurd (none 1 (by decide) (by decide)) (by decide)
  exact absurd (answers.2 held) (by decide)

/-- A frame at the first node is seen. -/
theorem frameFirst_answersPath :
    AnswersPath [⟨0, true, [⟨"source", [7]⟩, ⟨"sink", []⟩]⟩] 0 [⟨"source", [7]⟩, ⟨"sink", []⟩] 0 1 := by
  have found : Streams.findTrackingStream [⟨0, true, [⟨"source", [7]⟩, ⟨"sink", []⟩]⟩] 0 =
      some ⟨0, true, [⟨"source", [7]⟩, ⟨"sink", []⟩]⟩ := rfl
  exact (answersPath_iff found (by decide) (by decide)).mpr (.inl (by decide))

end Peripheral.Camera
