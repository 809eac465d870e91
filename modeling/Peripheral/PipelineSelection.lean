import Mathlib.Data.List.Perm.Basic
import Mathlib.Data.List.Sort

/-!
Which pipeline a set of streams gets, `host_stream_mgr_impl.cpp` and
`stream_pipeline_strategy.cpp`. The streams of the pipeline are registered with a
manager of their own, which hands them out to the nodes of a specification; a stream
that was handed out is marked, and only the next registration clears the marks. The
tables of scenes, streams and specifications are what the board's configuration is
compiled to.
-/
namespace Peripheral.Camera
open List

structure HostStreamInfo where
  type : Int
  streamId : Int
  width : Int
  height : Int
  format : Int
  usage : Nat
  bufferPoolId : Nat
  bufferCount : Nat
  encodeType : Int
  builed : Bool
  deriving DecidableEq

/-- What `GetStreamInfo` returns for an id it does not know. -/
def HostStreamInfo.empty : HostStreamInfo := ⟨0, 0, 0, 0, 0, 0, 0, 0, 0, false⟩

/-- `streams_` of `HostStreamMgrImpl`. -/
abbrev HostStreams := List HostStreamInfo

namespace HostStreams

/-- It returns `RC_OK` in both cases. -/
def createHostStream (hosts : HostStreams) (info : HostStreamInfo) : HostStreams :=
  if ∃ host ∈ hosts, host.streamId = info.streamId then hosts
  else (hosts ++ [info]).map fun host => { host with builed := false }

/-- `DestroyHostStream` for one id. -/
def destroyHostStream (hosts : HostStreams) (streamId : Int) : HostStreams :=
  hosts.eraseP (·.streamId = streamId)

def getStreamTypes (hosts : HostStreams) : List Int := (hosts.map (·.type)).insertionSort (· ≤ ·)

def getStreamIds (hosts : HostStreams) : List Int := hosts.map (·.streamId)

def getStreamInfo (hosts : HostStreams) (id : Int) : HostStreamInfo :=
  (hosts.find? (·.streamId = id)).getD .empty

/-- The first stream of the type that is not marked is marked and returned. -/
def designateStreamIdForType : HostStreams → Int → Int × HostStreams
  | [], _ => (-1, [])
  | host :: rest, streamType =>
    if streamType = host.type ∧ host.builed = false then (host.streamId, { host with builed := true } :: rest)
    else
      let (id, rest) := designateStreamIdForType rest streamType
      (id, host :: rest)

end HostStreams

structure PortConfig where
  name : String
  peerPortName : String
  peerPortNodeName : String
  direction : Nat
  needAllocation : Nat
  deriving DecidableEq

structure NodeConfig where
  name : String
  status : String
  streamType : String
  portSpec : List PortConfig
  deriving DecidableEq

structure PipelineConfig where
  name : String
  nodeSpec : List NodeConfig
  deriving DecidableEq

structure PipelineTables where
  sceneInfo : List (Int × String)
  streamInfo : List (Int × String)
  pipelineSpec : List PipelineConfig
  deriving DecidableEq

structure PortFormat where
  w : Int
  h : Int
  streamId : Int
  format : Int
  usage : Nat
  needAllocation : Nat
  bufferCount : Nat
  bufferPoolId : Nat
  deriving DecidableEq

structure PortSpec where
  direction : Nat
  name : String
  peerPortName : String
  peerPortNodeName : String
  format : PortFormat
  deriving DecidableEq

structure NodeSpec where
  name : String
  status : String
  type : String
  streamId : Int
  portSpecSet : List PortSpec
  deriving DecidableEq

namespace PipelineTables

def checkIdExsit (id : Int) (table : List (Int × String)) : String :=
  ((table.find? (·.1 = id)).map (·.2)).getD ""

def getTypeId (name : String) (table : List (Int × String)) : Option Int :=
  if name = "" then none else (table.find? (·.2 = name)).map (·.1)

def keyOf (tables : PipelineTables) (scene : String) (types : List Int) : String :=
  types.foldl (fun key type => key ++ ("_" ++ checkIdExsit type tables.streamInfo)) scene

def constructKeyStrIndex (tables : PipelineTables) (mode : Int) (hosts : HostStreams) : String :=
  let scene := checkIdExsit mode tables.sceneInfo
  if scene = "" then "" else tables.keyOf scene hosts.getStreamTypes

def initPipeSpecPtr (tables : PipelineTables) (key : String) : Option PipelineConfig :=
  tables.pipelineSpec.find? (·.name = key)

def checkPipelineSpecExist (tables : PipelineTables) (mode : Int) (types : List Int) : Bool :=
  let scene := checkIdExsit mode tables.sceneInfo
  if scene = "" then false
  else if ∃ type ∈ types, checkIdExsit type tables.streamInfo = "" then false
  else (tables.initPipeSpecPtr (tables.keyOf scene types)).isSome

/-- The format of the port at the other end, whose node must be there already. -/
def setUpBasicOutPortFormat (pipe : List NodeSpec) (port : PortConfig) : Option PortFormat := do
  let peerNode ← pipe.find? (·.name = port.peerPortNodeName)
  let peerPort ← peerNode.portSpecSet.find? (·.name = port.peerPortName)
  return peerPort.format

def setUpBasicInPortFormat (node : NodeSpec) : Option PortFormat :=
  (node.portSpecSet.find? (·.name = "out0")).map (·.format)

def setPortFormat (port : PortConfig) (info : HostStreamInfo) : PortFormat where
  w := info.width
  h := info.height
  streamId := info.streamId
  format := info.format
  usage := info.usage
  needAllocation := port.needAllocation
  bufferCount := info.bufferCount
  bufferPoolId := if port.needAllocation = 0 then info.bufferPoolId else 0

def portSpec (port : PortConfig) (format : PortFormat) : PortSpec :=
  ⟨port.direction, port.name, port.peerPortName, port.peerPortNodeName, format⟩

/-- One port of a node. What the manager has changes although a later port may fail. -/
def selectPort (tables : PipelineTables) (pipe : List NodeSpec) (hosts : HostStreams) (node : NodeSpec) (port : PortConfig) :
    HostStreams × Option NodeSpec :=
  match getTypeId node.type tables.streamInfo with
  | some type =>
    let (streamId, hosts) := hosts.designateStreamIdForType type
    let info := hosts.getStreamInfo streamId
    (hosts, some { node with
      streamId := info.streamId
      portSpecSet := node.portSpecSet ++ [portSpec port (setPortFormat port info)] })
  | none =>
    let format := if port.direction = 1 then setUpBasicOutPortFormat pipe port else setUpBasicInPortFormat node
    (hosts, format.map fun format => { node with portSpecSet := node.portSpecSet ++ [portSpec port format] })

def selectPorts (tables : PipelineTables) (pipe : List NodeSpec) :
    HostStreams → NodeSpec → List PortConfig → HostStreams × Option NodeSpec
  | hosts, node, [] => (hosts, some node)
  | hosts, node, port :: rest =>
    match tables.selectPort pipe hosts node port with
    | (hosts, none) => (hosts, none)
    | (hosts, some node) => selectPorts tables pipe hosts node rest

def selectNodes (tables : PipelineTables) :
    HostStreams → List NodeSpec → List NodeConfig → HostStreams × Option (List NodeSpec)
  | hosts, pipe, [] => (hosts, some pipe)
  | hosts, pipe, config :: rest =>
    match tables.selectPorts pipe hosts ⟨config.name, config.status, config.streamType, 0, []⟩ config.portSpec.reverse with
    | (hosts, none) => (hosts, none)
    | (hosts, some node) => selectNodes tables hosts (pipe ++ [node]) rest

/-- Nodes and their ports are taken from the last to the first. -/
def selectPipelineSpec (tables : PipelineTables) (mode : Int) (hosts : HostStreams) : HostStreams × Option (List NodeSpec) :=
  match tables.initPipeSpecPtr (tables.constructKeyStrIndex mode hosts) with
  | none => (hosts, none)
  | some spec => tables.selectNodes hosts [] spec.nodeSpec.reverse

def assigned (tables : PipelineTables) (pipe : List NodeSpec) : List (Int × Int) :=
  pipe.filterMap fun node => (getTypeId node.type tables.streamInfo).map (·, node.streamId)

/-- The other end of every port of a node without stream comes before it. `pipe` has the names of the nodes that are there and
    of their ports, `done` those of the node's own ports. -/
def portsConnect (pipe : List (String × List String)) : List String → List PortConfig → Bool
  | _, [] => true
  | done, port :: rest =>
    (if port.direction = 1 then (pipe.find? (·.1 = port.peerPortNodeName)).any fun node => node.2.contains port.peerPortName
      else done.contains "out0") && portsConnect pipe (done ++ [port.name]) rest

def nodesConnect (tables : PipelineTables) : List (String × List String) → List NodeConfig → Bool
  | _, [] => true
  | pipe, config :: rest =>
    ((getTypeId config.streamType tables.streamInfo).isSome || portsConnect pipe [] config.portSpec.reverse) &&
      nodesConnect tables (pipe ++ [(config.name, config.portSpec.reverse.map (·.name))]) rest

def nodeTypes (tables : PipelineTables) (configs : List NodeConfig) : List Int :=
  configs.filterMap fun config => getTypeId config.streamType tables.streamInfo

/-- One node with a single port for every stream, and all other ports connected. -/
structure Serves (tables : PipelineTables) (spec : PipelineConfig) (types : List Int) : Prop where
  single : ∀ config ∈ spec.nodeSpec, (getTypeId config.streamType tables.streamInfo).isSome = true →
    config.portSpec.length = 1
  types : (tables.nodeTypes spec.nodeSpec).Perm types
  connected : tables.nodesConnect [] spec.nodeSpec.reverse = true

/-- Every key that is supported has its nodes. -/
def Fits (tables : PipelineTables) : Prop :=
  ∀ mode types spec, tables.checkPipelineSpecExist mode types = true →
    tables.initPipeSpecPtr (tables.keyOf (checkIdExsit mode tables.sceneInfo) types) = some spec → Serves tables spec types

end PipelineTables

namespace HostStreams

def free (hosts : HostStreams) : HostStreams := hosts.filter (!·.builed)

def designateAll : HostStreams → List Int → List (Int × Int) × HostStreams
  | hosts, [] => ([], hosts)
  | hosts, type :: rest =>
    let (streamId, hosts) := hosts.designateStreamIdForType type
    let (others, last) := designateAll hosts rest
    ((type, (hosts.getStreamInfo streamId).streamId) :: others, last)

def Has (hosts : HostStreams) (id : Int) : Prop := ∃ host ∈ hosts, host.streamId = id

variable {info : HostStreamInfo}

theorem createHostStream_has {hosts : HostStreams} {id : Int} :
    (hosts.createHostStream info).Has id ↔ hosts.Has id ∨ id = info.streamId := by
  rw [createHostStream]
  split
  · rename_i known
    constructor
    · exact .inl
    · rintro (has | rfl)
      · exact has
      · exact known
  · simp [Has, eq_comm, or_and_right, exists_or]

theorem createHostStream_known {hosts : HostStreams} (known : hosts.Has info.streamId) :
    hosts.createHostStream info = hosts := if_pos known

theorem createHostStream_unmarked {hosts : HostStreams} (unknown : ¬ hosts.Has info.streamId) :
    ∀ host ∈ hosts.createHostStream info, host.builed = false := by
  rw [Has] at unknown
  rw [createHostStream, if_neg unknown]
  intro host member
  obtain ⟨old, -, rfl⟩ := mem_map.mp member
  rfl

theorem designate_free {hosts : HostStreams} {type : Int} (there : ∃ host ∈ hosts.free, host.type = type) :
    ∃ host, host.type = type ∧ (hosts.designateStreamIdForType type).1 = host.streamId ∧
      hosts.free.Perm (host :: (hosts.designateStreamIdForType type).2.free) ∧
      (∃ taken ∈ (hosts.designateStreamIdForType type).2, taken.streamId = host.streamId) := by
  induction hosts with
  | nil =>
    obtain ⟨host, member, -⟩ := there
    exact absurd member not_mem_nil
  | cons host rest more =>
    by_cases takes : type = host.type ∧ host.builed = false
    · refine ⟨host, takes.1.symm, ?_⟩
      simp [designateStreamIdForType, takes, free]
    · have further : ∃ other ∈ free rest, other.type = type := by
        obtain ⟨other, member, same⟩ := there
        refine ⟨other, ?_, same⟩
        simp only [free, mem_filter, mem_cons] at member ⊢
        obtain ⟨rfl | member, unmarked⟩ := member
        · exact absurd ⟨same.symm, by simpa using unmarked⟩ takes
        · exact ⟨member, unmarked⟩
      obtain ⟨found, same, id, perm, taken, member, named⟩ := more further
      refine ⟨found, same, ?_, ?_, taken, ?_, named⟩
      · simp only [designateStreamIdForType, if_neg takes]
        exact id
      · simp only [designateStreamIdForType, if_neg takes, free, filter_cons] at perm ⊢
        split
        · exact (perm.cons host).trans (.swap found host _)
        · exact perm
      · simp only [designateStreamIdForType, if_neg takes]
        exact mem_cons_of_mem _ member

theorem designate_marked {hosts : HostStreams} {type : Int} (marked : ∀ host ∈ hosts, host.builed = true) :
    hosts.designateStreamIdForType type = (-1, hosts) := by
  induction hosts with
  | nil => rfl
  | cons host rest more =>
    obtain ⟨first, others⟩ := forall_mem_cons.mp marked
    simp [designateStreamIdForType, first, more others]

theorem designate_same (hosts : HostStreams) (type : Int) :
    (hosts.designateStreamIdForType type).2.map (fun host => (host.streamId, host.type)) =
      hosts.map fun host => (host.streamId, host.type) := by
  induction hosts with
  | nil => rfl
  | cons host rest more =>
    rw [designateStreamIdForType]
    split
    · rfl
    · simp [more]

theorem getStreamInfo_streamId {hosts : HostStreams} {id : Int} (known : ∃ host ∈ hosts, host.streamId = id) :
    (hosts.getStreamInfo id).streamId = id := by
  obtain ⟨host, member, same⟩ := known
  have found : (hosts.find? (·.streamId = id)).isSome := by
    rw [find?_isSome]
    exact ⟨host, member, by simpa using same⟩
  obtain ⟨first, is⟩ := Option.isSome_iff_exists.mp found
  rw [getStreamInfo, is]
  simpa using find?_some is

theorem getStreamInfo_unknown {hosts : HostStreams} {id : Int} (unknown : ∀ host ∈ hosts, host.streamId ≠ id) :
    hosts.getStreamInfo id = .empty := by
  have none : hosts.find? (·.streamId = id) = none := by
    rw [find?_eq_none]
    intro host member
    simpa using unknown host member
  rw [getStreamInfo, none]
  rfl

theorem free_of_unmarked {hosts : HostStreams} (unmarked : ∀ host ∈ hosts, host.builed = false) : hosts.free = hosts := by
  rw [free, filter_eq_self]
  simpa using unmarked

theorem designateAll_free {types : List Int} {hosts : HostStreams} (asked : types.Perm (hosts.free.map (·.type))) :
    (hosts.designateAll types).1.Perm (hosts.free.map fun host => (host.type, host.streamId)) ∧
      (hosts.designateAll types).2.free = [] := by
  induction types generalizing hosts with
  | nil =>
    have none : hosts.free = [] := by simpa using asked
    simp [designateAll, none]
  | cons type rest more =>
    have there : ∃ host ∈ hosts.free, host.type = type := by
      simpa using asked.mem_iff.mp mem_cons_self
    obtain ⟨host, rfl, id, perm, known⟩ := designate_free there
    have left : rest.Perm ((hosts.designateStreamIdForType host.type).2.free.map (·.type)) :=
      (asked.trans (perm.map HostStreamInfo.type)).cons_inv
    obtain ⟨ids, ends⟩ := more left
    refine ⟨?_, ends⟩
    rw [designateAll]
    dsimp only
    rw [id, getStreamInfo_streamId known]
    exact (ids.cons (host.type, host.streamId)).trans (perm.map fun host : HostStreamInfo => (host.type, host.streamId)).symm

/-- Without free streams every node gets the id of the empty description. -/
theorem designateAll_marked {types : List Int} {hosts : HostStreams} (marked : ∀ host ∈ hosts, host.builed = true)
    (unknown : ∀ host ∈ hosts, host.streamId ≠ -1) : hosts.designateAll types = (types.map (·, 0), hosts) := by
  induction types with
  | nil => rfl
  | cons type rest more =>
    simp only [designateAll, designate_marked marked, getStreamInfo_unknown unknown, more]
    rfl

theorem designateAll_same (types : List Int) (hosts : HostStreams) :
    (hosts.designateAll types).2.map (fun host => (host.streamId, host.type)) =
      hosts.map fun host => (host.streamId, host.type) := by
  induction types generalizing hosts with
  | nil => rfl
  | cons type rest more => exact (more _).trans (designate_same hosts type)

end HostStreams

def NodeSpec.names (node : NodeSpec) : String × List String := (node.name, node.portSpecSet.map (·.name))

namespace PipelineTables
variable {tables : PipelineTables} {pipe : List NodeSpec} {hosts : HostStreams}

theorem setUpBasicOutPortFormat_isSome {port : PortConfig}
    (peer : ((pipe.map (·.names)).find? (·.1 = port.peerPortNodeName)).any (fun node => node.2.contains port.peerPortName) = true) :
    (setUpBasicOutPortFormat pipe port).isSome = true := by
  rw [find?_map] at peer
  rw [setUpBasicOutPortFormat]
  have same : pipe.find? ((fun node => decide (node.1 = port.peerPortNodeName)) ∘ fun node => node.names) =
      pipe.find? (·.name = port.peerPortNodeName) := rfl
  rw [same] at peer
  cases found : pipe.find? (·.name = port.peerPortNodeName) with
  | none => simp [found] at peer
  | some node =>
    have known : ∃ own ∈ node.portSpecSet, own.name = port.peerPortName := by
      simpa [found, NodeSpec.names] using peer
    have there : (node.portSpecSet.find? (·.name = port.peerPortName)).isSome = true := by
      simpa using known
    obtain ⟨own, is⟩ := Option.isSome_iff_exists.mp there
    simp [is]

theorem selectPorts_connected {ports : List PortConfig} {node : NodeSpec}
    (untyped : getTypeId node.type tables.streamInfo = none)
    (connected : portsConnect (pipe.map (·.names)) (node.portSpecSet.map (·.name)) ports = true) :
    ∃ last, tables.selectPorts pipe hosts node ports = (hosts, some last) ∧ last.type = node.type ∧
      last.names = (node.name, node.portSpecSet.map (·.name) ++ ports.map (·.name)) := by
  induction ports generalizing node with
  | nil => exact ⟨node, rfl, rfl, by simp [NodeSpec.names]⟩
  | cons port rest more =>
    simp only [portsConnect, Bool.and_eq_true] at connected
    obtain ⟨here, later⟩ := connected
    have some : ∃ format, (if port.direction = 1 then setUpBasicOutPortFormat pipe port else setUpBasicInPortFormat node) =
        some format := by
      rw [← Option.isSome_iff_exists]
      split
      · rename_i out
        rw [if_pos out] at here
        exact setUpBasicOutPortFormat_isSome here
      · rename_i inward
        rw [if_neg inward] at here
        simpa [setUpBasicInPortFormat] using here
    obtain ⟨format, is⟩ := some
    obtain ⟨last, selected, type, names⟩ :=
      @more { node with portSpecSet := node.portSpecSet ++ [portSpec port format] } untyped (by simpa [portSpec] using later)
    refine ⟨last, ?_, type, by simpa [portSpec] using names⟩
    rw [selectPorts, selectPort, untyped]
    simp only [is, Option.map_some]
    exact selected

theorem selectNodes_designates {configs : List NodeConfig}
    (single : ∀ config ∈ configs, (getTypeId config.streamType tables.streamInfo).isSome = true → config.portSpec.length = 1)
    (connected : tables.nodesConnect (pipe.map (·.names)) configs = true) :
    ∃ nodes, tables.selectNodes hosts pipe configs = ((hosts.designateAll (tables.nodeTypes configs)).2, some (pipe ++ nodes)) ∧
      tables.assigned nodes = (hosts.designateAll (tables.nodeTypes configs)).1 := by
  induction configs generalizing pipe hosts with
  | nil => exact ⟨[], by simp [selectNodes, nodeTypes, HostStreams.designateAll], rfl⟩
  | cons config rest more =>
    obtain ⟨one, others⟩ := forall_mem_cons.mp single
    simp only [nodesConnect, Bool.and_eq_true] at connected
    obtain ⟨here, later⟩ := connected
    cases type : getTypeId config.streamType tables.streamInfo with
    | none =>
      rw [type] at here
      obtain ⟨node, selected, same, names⟩ := @selectPorts_connected tables pipe hosts config.portSpec.reverse
        ⟨config.name, config.status, config.streamType, 0, []⟩ type (by simpa using here)
      rw [map_nil, nil_append] at names
      obtain ⟨nodes, ends, ids⟩ := @more (pipe ++ [node]) hosts others (by simpa [names] using later)
      refine ⟨node :: nodes, ?_, ?_⟩
      · rw [selectNodes, selected]
        simpa [nodeTypes, type] using ends
      · simpa [assigned, same, type, nodeTypes] using ids
    | some t =>
      obtain ⟨port, only⟩ := length_eq_one_iff.mp (one (by rw [type]; rfl))
      rw [only] at later
      obtain ⟨streamId, marked, taken⟩ : ∃ streamId marked, hosts.designateStreamIdForType t = (streamId, marked) :=
        ⟨_, _, rfl⟩
      obtain ⟨node, is⟩ : ∃ node : NodeSpec, node = ⟨config.name, config.status, config.streamType,
          (marked.getStreamInfo streamId).streamId, [portSpec port (setPortFormat port (marked.getStreamInfo streamId))]⟩ :=
        ⟨_, rfl⟩
      obtain ⟨nodes, ends, ids⟩ := @more (pipe ++ [node]) marked others (by simpa [is, NodeSpec.names, portSpec] using later)
      refine ⟨node :: nodes, ?_, ?_⟩
      · simpa [selectNodes, only, selectPorts, selectPort, nodeTypes, type, HostStreams.designateAll, taken, is] using ends
      · simpa [assigned, nodeTypes, type, HostStreams.designateAll, taken, is] using ids

theorem constructKeyStrIndex_supported {mode : Int}
    (supported : tables.checkPipelineSpecExist mode hosts.getStreamTypes = true) :
    tables.constructKeyStrIndex mode hosts = tables.keyOf (checkIdExsit mode tables.sceneInfo) hosts.getStreamTypes := by
  rw [constructKeyStrIndex]
  by_cases unknown : checkIdExsit mode tables.sceneInfo = ""
  · simp [checkPipelineSpecExist, unknown] at supported
  · rw [if_neg unknown]

/-- When the types of the registered streams are supported, the selection succeeds, and its nodes ask for exactly these types. -/
theorem selectPipelineSpec_designates (fits : tables.Fits) {mode : Int}
    (supported : tables.checkPipelineSpecExist mode hosts.getStreamTypes = true) :
    ∃ types pipe, types.Perm (hosts.map (·.type)) ∧
      tables.selectPipelineSpec mode hosts = ((hosts.designateAll types).2, some pipe) ∧
      tables.assigned pipe = (hosts.designateAll types).1 := by
  have key := constructKeyStrIndex_supported supported
  have found : ∃ spec, tables.initPipeSpecPtr (tables.keyOf (checkIdExsit mode tables.sceneInfo) hosts.getStreamTypes) = some spec := by
    rw [← Option.isSome_iff_exists]
    simp only [checkPipelineSpecExist] at supported
    split at supported
    · cases supported
    · split at supported
      · cases supported
      · exact supported
  obtain ⟨spec, is⟩ := found
  obtain ⟨single, types, connected⟩ := fits mode _ spec supported is
  obtain ⟨pipe, selected, ids⟩ := @selectNodes_designates tables [] hosts spec.nodeSpec.reverse
    (fun config member => single config (mem_reverse.mp member)) connected
  refine ⟨tables.nodeTypes spec.nodeSpec.reverse, pipe, ?_, ?_, ids⟩
  · have backwards : (tables.nodeTypes spec.nodeSpec.reverse).Perm (tables.nodeTypes spec.nodeSpec) :=
      (reverse_perm _).filterMap _
    exact (backwards.trans types).trans (perm_insertionSort _ _)
  · rw [selectPipelineSpec, key, is]
    exact selected

end PipelineTables

end Peripheral.Camera
