import Mathlib.Data.List.Perm.Lattice
import Peripheral.CaptureRegistry
import Peripheral.PipelineSelection
import Peripheral.Searches
import Peripheral.StreamBase

/-!
`CreateStreams`, `CommitStreams` and `ReleaseStreams` of `stream_operator.cpp`. The
operator asks for the streams of its map whether they are supported, and what is then
selected goes by the streams that are registered with the pipeline. The calls follow
each other; between them, and while `StopStream` waits, the streams go on by themselves.
-/
namespace Peripheral.Camera
open Searches Transitions StreamBase List

/-- `bufferQueue` has whether it could be attached, `cameraFormat` and `usage` what the format and the class of the stream give. -/
structure StreamInfo where
  streamId : Int
  width : Int
  height : Int
  format : Int
  datasapce : Int
  intent : Int
  tunneledMode : Bool
  bufferQueue : Option Bool
  minFrameDuration : Int
  encodeType : Int
  cameraFormat : Int
  usage : Nat
  deriving DecidableEq

/-- What becomes of the buffer pool in `CommitStream`; without one, `bufferPoolId_` and `bufferCount_` are not set. -/
structure PoolOutcome where
  bufferPool : Bool
  init : Bool
  bufferPoolId : Nat
  bufferCount : Nat
  deriving DecidableEq

/-- A stream of the map. `hostStreamMgr` says whether the member is set. -/
structure OperatorStream where
  info : StreamInfo
  stream : StreamBase
  hostStreamMgr : Bool

/-- `streamMap_`, which goes by ids, and the streams that are registered with the pipeline. -/
structure StreamOperator where
  streamMap : List OperatorStream
  hosts : HostStreams
  crashed : Bool

/-- A call of `CommitStreams`: what the streams do while they are stopped, what becomes of their pools, what `PreConfig` returns
    and whether the pipeline that was selected is built. -/
structure CommitCall where
  mode : Int
  modeSetting : Bool
  meanwhile : Int → List StreamStep
  pools : Int → PoolOutcome
  preConfig : Bool
  built : Bool

inductive DynamicStreamSwitchMode
  | support
  | notSupport
  | needInnerRestart
  deriving DecidableEq

/-- The streams and host streams after `CommitStreams`, what it returned, and the specification it selected. -/
structure Committed where
  after : StreamOperator
  code : CamRetCode
  selected : Option (List NodeSpec)

inductive StreamsStep
  | createStreams (streamInfos : List StreamInfo)
  | commitStreams (call : CommitCall)
  | releaseStreams (streamIds : List Int) (meanwhile : Int → List StreamStep)
  | ofStream (streamId : Int) (step : StreamStep)

def CUSTOM : Int := 5

def StreamInfo.check (info : StreamInfo) : Bool :=
  !(info.streamId < 0 || info.width < 0 || info.height < 0 || info.format < 0 || info.datasapce < 0 || info.intent > CUSTOM ||
    info.intent < 0 || info.minFrameDuration < 0)

namespace OperatorStream

def streamId (x : OperatorStream) : Int := x.info.streamId

def intent (x : OperatorStream) : Int := x.info.intent

/-- A stream as `CreateStreams` puts it into the map. -/
def new (info : StreamInfo) : OperatorStream :=
  let stream := StreamBase.new.configStream info.tunneledMode
  ⟨info, if info.bufferQueue.isSome then stream.attachStreamTunnel else stream, false⟩

/-- `StopStream` is called, and `meanwhile` happens until it returned. -/
def stopStream (x : OperatorStream) (meanwhile : List StreamStep) : OperatorStream :=
  { x with stream := meanwhile.foldl step (x.stream.step .stopStream) }

/-- What `CommitStream` registers. -/
def hostStreamInfo (x : OperatorStream) (pool : PoolOutcome) : HostStreamInfo where
  type := x.intent
  streamId := x.streamId
  width := x.info.width
  height := x.info.height
  format := x.info.cameraFormat
  usage := x.info.usage
  bufferPoolId := pool.bufferPoolId
  bufferCount := if x.stream.tunnelMode then 3 else pool.bufferCount
  encodeType := x.info.encodeType
  builed := false

/-- `CommitStream`, and whether it returned `RC_OK`. The pipeline and the manager are always there, and registering never fails. -/
def commitStream (x : OperatorStream) (hosts : HostStreams) (pool : PoolOutcome) : OperatorStream × HostStreams × Bool :=
  if x.stream.state ≠ .idle then (x, hosts, false)
  else
    let stream := x.stream.commitStream ⟨true, true, pool.bufferPool, pool.init, true⟩
    let x := { x with stream := stream, hostStreamMgr := true }
    if stream.state = .active then (x, hosts.createHostStream (x.hostStreamInfo pool), true) else (x, hosts, false)

end OperatorStream

namespace StreamOperator

def new : StreamOperator := ⟨[], [], false⟩

def crash (s : StreamOperator) : StreamOperator := { s with crashed := true }

/-- `CreateStreams`; what came before an error is created. There is no class for `CUSTOM`. -/
def createStreams (s : StreamOperator) : List StreamInfo → StreamOperator × CamRetCode
  | [] => (s, .noError)
  | info :: rest =>
    if !info.check then (s, .invalidArgument)
    else if ∃ x ∈ s.streamMap, x.streamId = info.streamId then (s, .invalidArgument)
    else if info.intent = CUSTOM then (s, .insufficientResources)
    else if !info.tunneledMode && info.bufferQueue.isSome then (s, .invalidArgument)
    else if info.bufferQueue = some false then (s, .invalidArgument)
    else
      createStreams { s with streamMap := s.streamMap.orderedInsert (·.streamId ≤ ·.streamId) (OperatorStream.new info) } rest

/-- A stream leaves the map, and with it the pipeline. -/
def erase (s : StreamOperator) (x : OperatorStream) : StreamOperator :=
  { s with
    streamMap := s.streamMap.eraseP (·.streamId = x.streamId)
    hosts := if x.hostStreamMgr then s.hosts.destroyHostStream x.streamId else s.hosts }

def releaseStream (s : StreamOperator) (streamId : Int) (meanwhile : List StreamStep) : StreamOperator :=
  match s.streamMap.find? (·.streamId = streamId) with
  | none => s
  | some x =>
    if x.stream.state = .busy ∧ (x.stopStream meanwhile).stream.crashed then s.crash else s.erase x

def releaseAll (s : StreamOperator) (meanwhile : Int → List StreamStep) : List Int → StreamOperator
  | [] => s
  | streamId :: rest =>
    let s := s.releaseStream streamId (meanwhile streamId)
    if s.crashed then s else releaseAll s meanwhile rest

def releaseStreams (s : StreamOperator) (streamIds : List Int) (meanwhile : Int → List StreamStep) :
    StreamOperator × CamRetCode :=
  (s.releaseAll meanwhile streamIds, if ∃ id ∈ streamIds, id < 0 then .invalidArgument else .noError)

/-- `CheckStreamsSupported` for the streams of the map. -/
def checkStreamsSupported (tables : PipelineTables) (s : StreamOperator) (mode : Int) (modeSetting : Bool) :
    DynamicStreamSwitchMode :=
  if !modeSetting then .notSupport
  else if s.streamMap = [] then .notSupport
  else
    let types := (s.streamMap.map (·.intent)).insertionSort (· ≤ ·)
    if tables.checkPipelineSpecExist mode types then
      if s.hosts.getStreamIds ≠ [] then .needInnerRestart else .support
    else .notSupport

/-- `CommitStream` of the streams, one after the other, until one fails. -/
def commitAll (hosts : HostStreams) (pools : Int → PoolOutcome) :
    List OperatorStream → List OperatorStream × HostStreams × Bool
  | [] => ([], hosts, true)
  | x :: rest =>
    match x.commitStream hosts (pools x.streamId) with
    | (x, hosts, false) => (x :: rest, hosts, false)
    | (x, hosts, true) =>
      let (rest, hosts, ok) := commitAll hosts pools rest
      (x :: rest, hosts, ok)

/-- The streams before `CommitStream`: those that were registered are stopped first. -/
def restarted (tables : PipelineTables) (s : StreamOperator) (call : CommitCall) : List OperatorStream :=
  if s.checkStreamsSupported tables call.mode call.modeSetting = .needInnerRestart then
    s.streamMap.map fun x => x.stopStream (call.meanwhile x.streamId)
  else s.streamMap

def commitStreams (tables : PipelineTables) (s : StreamOperator) (call : CommitCall) : Committed :=
  if s.checkStreamsSupported tables call.mode call.modeSetting = .notSupport then ⟨s, .invalidArgument, none⟩
  else
    let streams := s.restarted tables call
    if ∃ x ∈ streams, x.stream.crashed = true then ⟨s.crash, .deviceError, none⟩
    else
      let (streams, hosts, ok) := commitAll s.hosts call.pools streams
      if !ok || !call.preConfig then ⟨{ s with streamMap := streams, hosts := hosts }, .deviceError, none⟩
      else
        let (hosts, selected) := tables.selectPipelineSpec call.mode hosts
        ⟨{ s with streamMap := streams, hosts := hosts },
          if selected.isSome && call.built then .noError else .invalidArgument, selected⟩

def ofStream (s : StreamOperator) (streamId : Int) (step : StreamStep) : StreamOperator :=
  let streams := s.streamMap.map fun x => if x.streamId = streamId then { x with stream := x.stream.step step } else x
  if ∃ x ∈ streams, x.stream.crashed = true then s.crash else { s with streamMap := streams }

def step (tables : PipelineTables) (s : StreamOperator) : StreamsStep → StreamOperator
  | .createStreams streamInfos => if s.crashed then s else (s.createStreams streamInfos).1
  | .commitStreams call => if s.crashed then s else (s.commitStreams tables call).after
  | .releaseStreams streamIds meanwhile => if s.crashed then s else (s.releaseStreams streamIds meanwhile).1
  | .ofStream streamId step => if s.crashed then s else s.ofStream streamId step

/-- Only the operator configures and commits a stream. -/
def OfStream : StreamStep → Prop
  | .configStream _ | .commitStream _ => False
  | _ => True

/-- What happens while `StopStream` waits, until it returned. -/
def Stops (x : OperatorStream) (meanwhile : List StreamStep) : Prop :=
  (∀ step ∈ meanwhile, OfStream step) ∧ Transitions.Takes StreamBase.step StreamBase.Possible (x.stream.step .stopStream) meanwhile ∧
    ((x.stopStream meanwhile).stream.stop = none ∨ (x.stopStream meanwhile).stream.crashed = true)

def Possible (s : StreamOperator) : StreamsStep → Prop
  | .createStreams _ => True
  | .commitStreams call => ∀ x ∈ s.streamMap, Stops x (call.meanwhile x.streamId)
  | .releaseStreams streamIds meanwhile =>
    ∀ x ∈ s.streamMap, x.streamId ∈ streamIds → x.stream.state = .busy → Stops x (meanwhile x.streamId)
  | .ofStream streamId step => OfStream step ∧ ∀ x ∈ s.streamMap, x.streamId = streamId → x.stream.Possible step

end StreamOperator

/-! ### Streams that are idle stay idle -/

variable {s : StreamBase}

/-- Only `CommitStream` takes a stream out of the idle state or sets its pipeline. -/
theorem StreamBase.perform_own {step : StreamStep} (own : StreamOperator.OfStream step) :
    (s.state = .idle → (s.perform step).state = .idle) ∧ (s.perform step).pipeline = s.pipeline := by
  cases step with
  | configStream mode => exact own.elim
  | commitStream outcome => exact own.elim
  | addRequest k isContinuous needShutterCallback prepared started =>
    grind [perform, addRequest, startStream, setRequest, crash]
  | attachStreamTunnel => grind [perform, attachStreamTunnel]
  | detachStreamTunnel => grind [perform, detachStreamTunnel]
  | queueRequest k => grind [perform, queueRequest, setRequest]
  | setFirstRequest k first => exact ⟨id, rfl⟩
  | cancel k => exact ⟨id, rfl⟩
  | cancelErase k => exact ⟨id, rfl⟩
  | cancelCheck k => grind [perform, cancelCheck, crash, report]
  | handleRequest delivered succeeds =>
    grind [perform, handleRequest, report, setRequest]
  | handleResult ofStream k status => grind [perform, handleResult]
  | onFrame status => grind [perform, onFrame, crash, report]
  | stopStream => grind [perform, stopStream, crash]
  | proceedStop succeeds =>
    grind [perform, proceedStop, finishStop, cancelErase, cancelCheck,
      setNeedCancel, setRequest, crash, report]

theorem StreamBase.step_own {step : StreamStep} (own : StreamOperator.OfStream step) :
    (s.state = .idle → (s.step step).state = .idle) ∧ (s.step step).pipeline = s.pipeline := by
  rw [StreamBase.step]
  split
  · exact ⟨id, rfl⟩
  · split
    · exact ⟨id, rfl⟩
    · exact perform_own own

theorem StreamBase.steps_own {steps : List StreamStep} (own : ∀ step ∈ steps, StreamOperator.OfStream step) :
    (s.state = .idle → (steps.foldl step s).state = .idle) ∧ (steps.foldl step s).pipeline = s.pipeline := by
  induction steps generalizing s with
  | nil => exact ⟨id, rfl⟩
  | cons step rest more =>
    obtain ⟨first, others⟩ := forall_mem_cons.mp own
    obtain ⟨idle, same⟩ := step_own first (s := s)
    obtain ⟨later, kept⟩ := more others (s := s.step step)
    exact ⟨fun now => later (idle now), kept.trans same⟩

theorem StreamBase.steps_crashed {steps : List StreamStep} (crashed : s.crashed = true) :
    (steps.foldl step s).crashed = true := by
  induction steps with
  | nil => exact crashed
  | cons step rest more =>
    rw [foldl_cons, StreamBase.step, if_pos crashed]
    exact more

variable {x : OperatorStream}

theorem OperatorStream.stopStream_idle {meanwhile : List StreamStep}
    (pipeline : x.stream.state ≠ .idle → x.stream.pipeline = true) (own : ∀ step ∈ meanwhile, StreamOperator.OfStream step)
    (alive : (x.stopStream meanwhile).stream.crashed = false) : (x.stopStream meanwhile).stream.state = .idle := by
  have stopped : (x.stream.step .stopStream).crashed = false := by
    by_contra crashed
    rw [OperatorStream.stopStream, steps_crashed (by simpa using crashed)] at alive
    cases alive
  refine (steps_own own).1 ?_
  by_cases idle : x.stream.state = .idle
  · exact (@step_own x.stream .stopStream trivial).1 idle
  · have set := pipeline idle
    grind [StreamBase.step, StreamBase.perform, StreamBase.stopStream, StreamBase.crash]

/-! ### The map and the registered streams -/

/-- Every registered stream is one of the map, and every stream that is committed is registered. Either all registered streams
    were handed out or none. -/
structure Agreeing (streamMap : List OperatorStream) (hosts : HostStreams) : Prop where
  ids : (streamMap.map (·.streamId)).Nodup
  valid : ∀ x ∈ streamMap, 0 ≤ x.streamId
  unique : (hosts.map (·.streamId)).Nodup
  known : ∀ host ∈ hosts, ∃ x ∈ streamMap, x.streamId = host.streamId ∧ x.intent = host.type ∧ x.hostStreamMgr = true
  registered : ∀ x ∈ streamMap, x.stream.state ≠ .idle → hosts.Has x.streamId ∧ x.stream.pipeline = true
  uniform : (∀ host ∈ hosts, host.builed = false) ∨ (∀ host ∈ hosts, host.builed = true)

structure Onward (x y : OperatorStream) : Prop where
  info : y.info = x.info
  hostStreamMgr : y.hostStreamMgr = x.hostStreamMgr
  idle : x.stream.state = .idle → y.stream.state = .idle
  pipeline : y.stream.pipeline = x.stream.pipeline

namespace Agreeing
variable {streamMap : List OperatorStream} {hosts : HostStreams}

theorem new : Agreeing [] [] := by
  constructor <;> simp

section
variable (agreeing : Agreeing streamMap hosts)
include agreeing

theorem insert {info : StreamInfo} (check : info.check = true) (fresh : ¬ ∃ x ∈ streamMap, x.streamId = info.streamId) :
    Agreeing (streamMap.orderedInsert (·.streamId ≤ ·.streamId) (OperatorStream.new info)) hosts := by
  have perm :=
    perm_orderedInsert (fun x y : OperatorStream => x.streamId ≤ y.streamId) (OperatorStream.new info) streamMap
  have same : (OperatorStream.new info).streamId = info.streamId := rfl
  have idle : (OperatorStream.new info).stream.state = .idle := by
    grind [OperatorStream.new, StreamBase.new, StreamBase.configStream, StreamBase.attachStreamTunnel]
  have valid : 0 ≤ info.streamId := by
    simp only [StreamInfo.check, Bool.not_eq_true', Bool.or_eq_false_iff, decide_eq_false_iff_not] at check
    omega
  refine ⟨?_, ?_, agreeing.unique, ?_, ?_, agreeing.uniform⟩
  · rw [(perm.map _).nodup_iff, map_cons, nodup_cons]
    refine ⟨?_, agreeing.ids⟩
    rw [same, mem_map]
    exact fresh
  · intro x member
    obtain rfl | member := mem_cons.mp (perm.mem_iff.mp member)
    · rwa [same]
    · exact agreeing.valid x member
  · intro host member
    obtain ⟨x, there, agrees⟩ := agreeing.known host member
    exact ⟨x, perm.mem_iff.mpr (mem_cons_of_mem _ there), agrees⟩
  · intro x member
    obtain rfl | member := mem_cons.mp (perm.mem_iff.mp member)
    · intro active
      exact absurd idle active
    · exact agreeing.registered x member

theorem onward {f : OperatorStream → OperatorStream}
    (each : ∀ x ∈ streamMap, Onward x (f x)) : Agreeing (streamMap.map f) hosts := by
  have id : ∀ x ∈ streamMap, (f x).streamId = x.streamId := by
    intro x member
    rw [OperatorStream.streamId, (each x member).info]
    rfl
  refine ⟨?_, ?_, agreeing.unique, ?_, ?_, agreeing.uniform⟩
  · have same : (streamMap.map f).map (·.streamId) = streamMap.map (·.streamId) := by
      rw [map_map]
      exact map_congr_left id
    rw [same]
    exact agreeing.ids
  · simp only [forall_mem_map]
    intro x member
    rw [id x member]
    exact agreeing.valid x member
  · intro host member
    obtain ⟨x, there, same, intent, manager⟩ := agreeing.known host member
    refine ⟨f x, mem_map_of_mem there, (id x there).trans same, ?_, ?_⟩
    · rw [← intent, OperatorStream.intent, (each x there).info]
      rfl
    · rw [(each x there).hostStreamMgr]
      exact manager
  · simp only [forall_mem_map]
    intro x member active
    rw [id x member, (each x member).pipeline]
    exact agreeing.registered x member fun idle => active ((each x member).idle idle)

theorem remark {others : HostStreams}
    (same : others.map (fun host => (host.streamId, host.type)) = hosts.map fun host => (host.streamId, host.type))
    (uniform : (∀ host ∈ others, host.builed = false) ∨ ∀ host ∈ others, host.builed = true) : Agreeing streamMap others := by
  have member : ∀ id type, (∃ host ∈ others, host.streamId = id ∧ host.type = type) ↔
      ∃ host ∈ hosts, host.streamId = id ∧ host.type = type := by
    intro id type
    have pairs : (id, type) ∈ others.map (fun host => (host.streamId, host.type)) ↔
        (id, type) ∈ hosts.map fun host => (host.streamId, host.type) := by rw [same]
    simpa using pairs
  refine ⟨agreeing.ids, agreeing.valid, ?_, ?_, ?_, uniform⟩
  · have ids := congrArg (map Prod.fst) same
    rw [map_map, map_map] at ids
    exact ids ▸ agreeing.unique
  · intro host there
    obtain ⟨own, own_mem, id, type⟩ := (member host.streamId host.type).mp ⟨host, there, rfl, rfl⟩
    rw [← id, ← type]
    exact agreeing.known own own_mem
  · intro x x_mem active
    obtain ⟨⟨host, host_mem, id⟩, pipeline⟩ := agreeing.registered x x_mem active
    obtain ⟨own, own_mem, same, -⟩ := (member host.streamId host.type).mpr ⟨host, host_mem, rfl, rfl⟩
    exact ⟨⟨own, own_mem, same.trans id⟩, pipeline⟩

theorem eq_of_streamId {x y : OperatorStream} (x_mem : x ∈ streamMap) (y_mem : y ∈ streamMap)
    (same : x.streamId = y.streamId) : x = y :=
  inj_on_of_nodup_map agreeing.ids x_mem y_mem same

end

theorem erase {s : StreamOperator} (agreeing : Agreeing s.streamMap s.hosts) (member : x ∈ s.streamMap) :
    Agreeing (s.erase x).streamMap (s.erase x).hosts := by
  have mapIds : ∀ y ∈ (s.erase x).streamMap, y.streamId ≠ x.streamId :=
    fun y left => ((mem_eraseP agreeing.ids y).mp left).2
  have fewer : (s.erase x).hosts.Sublist s.hosts := by
    rw [StreamOperator.erase]
    dsimp only
    split
    · exact eraseP_sublist
    · exact .refl _
  have gone : ∀ host ∈ (s.erase x).hosts, host.streamId ≠ x.streamId := by
    cases manager : x.hostStreamMgr with
    | true =>
      simp only [StreamOperator.erase, manager, if_true]
      exact fun host left => ((mem_eraseP agreeing.unique host).mp left).2
    | false =>
      intro host there same
      obtain ⟨y, y_mem, id, -, set⟩ := agreeing.known host (fewer.subset there)
      rw [agreeing.eq_of_streamId y_mem member (id.trans same), manager] at set
      cases set
  have left : ∀ host ∈ s.hosts, host.streamId ≠ x.streamId → host ∈ (s.erase x).hosts := by
    intro host there other
    rw [StreamOperator.erase]
    dsimp only
    split
    · exact (mem_eraseP_of_neg (by simpa using other)).mpr there
    · exact there
  have maps : ∀ y ∈ (s.erase x).streamMap, y ∈ s.streamMap := fun y there => mem_of_mem_eraseP there
  refine ⟨agreeing.ids.sublist (eraseP_sublist.map _), fun y there => agreeing.valid y (maps y there),
    agreeing.unique.sublist (fewer.map _), ?_, ?_, ?_⟩
  · intro host there
    obtain ⟨y, y_mem, id, rest⟩ := agreeing.known host (fewer.subset there)
    have other : y.streamId ≠ x.streamId := fun same => gone host there (id.symm.trans same)
    exact ⟨y, (mem_eraseP_of_neg (by simpa using other)).mpr y_mem, id, rest⟩
  · intro y there active
    obtain ⟨⟨host, host_mem, id⟩, pipeline⟩ := agreeing.registered y (maps y there) active
    exact ⟨⟨host, left host host_mem (id ▸ mapIds y there), id⟩, pipeline⟩
  · obtain unmarked | marked := agreeing.uniform
    · exact .inl fun host there => unmarked host (fewer.subset there)
    · exact .inr fun host there => marked host (fewer.subset there)

theorem replace {before after : List OperatorStream} {x y : OperatorStream} (agreeing : Agreeing (before ++ x :: after) hosts)
    (info : y.info = x.info) (manager : x.hostStreamMgr = true → y.hostStreamMgr = true)
    (registered : y.stream.state ≠ .idle → hosts.Has x.streamId ∧ y.stream.pipeline = true) :
    Agreeing (before ++ y :: after) hosts := by
  have id : y.streamId = x.streamId := by
    rw [OperatorStream.streamId, info]
    rfl
  have others : ∀ z ∈ before ++ y :: after, z = y ∨ z ∈ before ++ x :: after := by
    simp only [mem_append, mem_cons]
    tauto
  refine ⟨?_, ?_, agreeing.unique, ?_, ?_, agreeing.uniform⟩
  · have ids := agreeing.ids
    rw [map_append, map_cons] at ids ⊢
    rwa [id]
  · intro z member
    obtain rfl | member := others z member
    · rw [id]
      exact agreeing.valid x (by simp)
    · exact agreeing.valid z member
  · intro host member
    obtain ⟨z, there, same, intent, set⟩ := agreeing.known host member
    by_cases own : z = x
    · subst own
      refine ⟨y, by simp, id.trans same, ?_, manager set⟩
      rw [← intent, OperatorStream.intent, info]
      rfl
    · refine ⟨z, ?_, same, intent, set⟩
      simp only [mem_append, mem_cons] at there ⊢
      tauto
  · intro z member active
    obtain rfl | member := others z member
    · rw [id]
      exact registered active
    · exact agreeing.registered z member active

theorem createHostStream (agreeing : Agreeing streamMap hosts) (member : x ∈ streamMap)
    (manager : x.hostStreamMgr = true) {info : HostStreamInfo} (id : info.streamId = x.streamId)
    (intent : info.type = x.intent) : Agreeing streamMap (hosts.createHostStream info) := by
  rw [HostStreams.createHostStream]
  split
  · exact agreeing
  · rename_i fresh
    have members : ∀ host ∈ (hosts ++ [info]).map fun host => { host with builed := false },
        ∃ old, (old ∈ hosts ∨ old = info) ∧ host = { old with builed := false } := by
      intro host there
      obtain ⟨old, old_mem, rfl⟩ := mem_map.mp there
      exact ⟨old, by simpa using old_mem, rfl⟩
    refine ⟨agreeing.ids, agreeing.valid, ?_, ?_, ?_, .inl ?_⟩
    · have ids : ((hosts ++ [info]).map fun host => { host with builed := false }).map (·.streamId) =
          hosts.map (·.streamId) ++ [info.streamId] := by
        rw [map_map, map_append]
        rfl
      rw [ids]
      refine agreeing.unique.append (nodup_singleton _) ?_
      rw [disjoint_singleton, mem_map]
      exact fresh
    · intro host there
      obtain ⟨old, old_mem | rfl, rfl⟩ := members host there
      · exact agreeing.known old old_mem
      · exact ⟨x, member, id.symm, intent.symm, manager⟩
    · intro y y_mem active
      obtain ⟨⟨host, host_mem, same⟩, pipeline⟩ := agreeing.registered y y_mem active
      exact ⟨⟨{ host with builed := false }, mem_map_of_mem (mem_append_left _ host_mem), same⟩, pipeline⟩
    · intro host there
      obtain ⟨old, -, rfl⟩ := members host there
      rfl

end Agreeing

/-- A stream in tunnel mode has or gets its pool. -/
def OperatorStream.Ready (x : OperatorStream) (pool : PoolOutcome) : Prop :=
  x.stream.tunnelMode = true → (x.stream.bufferPool = true ∨ pool.bufferPool = true) ∧ pool.init = true

/-- A stream that is committed is registered, and one that is not stays as it was to the pipeline. -/
theorem OperatorStream.commitStream_cases (x : OperatorStream) (hosts : HostStreams) (pool : PoolOutcome) :
    ∃ stream manager, (x.hostStreamMgr = true → manager = true) ∧
      ((x.commitStream hosts pool = (⟨x.info, stream, manager⟩, hosts, false) ∧ (stream.state = .idle ∨ stream = x.stream)) ∨
       (∃ info : HostStreamInfo, info.streamId = x.streamId ∧ info.type = x.intent ∧ manager = true ∧ stream.pipeline = true ∧
        x.commitStream hosts pool = (⟨x.info, stream, manager⟩, hosts.createHostStream info, true))) := by
  rw [commitStream]
  split
  · exact ⟨x.stream, x.hostStreamMgr, id, .inl ⟨rfl, .inr rfl⟩⟩
  · rename_i idle
    refine ⟨x.stream.commitStream ⟨true, true, pool.bufferPool, pool.init, true⟩, true, fun _ => rfl, ?_⟩
    dsimp only
    split
    · refine .inr ⟨_, rfl, rfl, rfl, ?_, rfl⟩
      grind [StreamBase.commitStream]
    · refine .inl ⟨rfl, .inl ?_⟩
      grind [StreamBase.commitStream]

theorem OperatorStream.commitStream_ok (x : OperatorStream) (hosts : HostStreams) (pool : PoolOutcome)
    (idle : x.stream.state = .idle) : (x.commitStream hosts pool).2.2 = true ↔ x.Ready pool := by
  have active : (x.stream.commitStream ⟨true, true, pool.bufferPool, pool.init, true⟩).state = .active ↔ x.Ready pool := by
    rw [Ready]
    grind [StreamBase.commitStream]
  rw [← active, commitStream, if_neg (by simpa using idle)]
  dsimp only
  split
  · simpa
  · simpa

namespace StreamOperator
variable {hosts : HostStreams} {pools : Int → PoolOutcome}

theorem commitAll_agreeing {before xs : List OperatorStream} (agreeing : Agreeing (before ++ xs) hosts) :
    Agreeing (before ++ (commitAll hosts pools xs).1) (commitAll hosts pools xs).2.1 := by
  induction xs generalizing before hosts with
  | nil => exact agreeing
  | cons x rest more =>
    obtain ⟨stream, manager, kept, ⟨is, idle | rfl⟩ | ⟨info, id, intent, rfl, pipeline, is⟩⟩ :=
      x.commitStream_cases hosts (pools x.streamId)
    · rw [commitAll, is]
      exact agreeing.replace rfl kept fun active => absurd idle active
    · rw [commitAll, is]
      exact agreeing.replace rfl kept (agreeing.registered x (by simp))
    · rw [commitAll, is]
      have set : Agreeing (before ++ { x with hostStreamMgr := true } :: rest) hosts :=
        agreeing.replace rfl (fun _ => rfl) (agreeing.registered x (by simp))
      have put := set.createHostStream (x := { x with hostStreamMgr := true }) (by simp) rfl id intent
      have there : (hosts.createHostStream info).Has x.streamId := HostStreams.createHostStream_has.mpr (.inr id.symm)
      have all : Agreeing ((before ++ [⟨x.info, stream, true⟩]) ++ rest) (hosts.createHostStream info) := by
        rw [append_assoc]
        exact put.replace rfl (fun _ => rfl) fun _ => ⟨there, pipeline⟩
      simpa using more all

theorem commitAll_infos (hosts : HostStreams) (xs : List OperatorStream) :
    (commitAll hosts pools xs).1.map (·.info) = xs.map (·.info) := by
  induction xs generalizing hosts with
  | nil => rfl
  | cons x rest more =>
    obtain ⟨stream, manager, -, ⟨is, -⟩ | ⟨info, -, -, -, -, is⟩⟩ := x.commitStream_cases hosts (pools x.streamId)
    · simp [commitAll, is]
    · simp [commitAll, is, more]

variable {xs : List OperatorStream}

theorem commitAll_ok (idle : ∀ x ∈ xs, x.stream.state = .idle) :
    (commitAll hosts pools xs).2.2 = true ↔ ∀ x ∈ xs, x.Ready (pools x.streamId) := by
  induction xs generalizing hosts with
  | nil => simp [commitAll]
  | cons x rest more =>
    obtain ⟨first, others⟩ := forall_mem_cons.mp idle
    have ok := x.commitStream_ok hosts (pools x.streamId) first
    obtain ⟨stream, manager, -, ⟨is, -⟩ | ⟨info, -, -, -, -, is⟩⟩ := x.commitStream_cases hosts (pools x.streamId)
    · rw [is] at ok
      simp [commitAll, is, ← ok]
    · rw [is] at ok
      simp [commitAll, is, ← ok, more others]

theorem commitAll_has {id : Int} (ok : (commitAll hosts pools xs).2.2 = true)
    (there : hosts.Has id ∨ ∃ x ∈ xs, x.streamId = id) : (commitAll hosts pools xs).2.1.Has id := by
  induction xs generalizing hosts with
  | nil => simpa [commitAll] using there
  | cons x rest more =>
    obtain ⟨stream, manager, -, ⟨is, -⟩ | ⟨info, own, -, -, -, is⟩⟩ := x.commitStream_cases hosts (pools x.streamId)
    · simp [commitAll, is] at ok
    · simp only [commitAll, is] at ok ⊢
      refine more ok ?_
      rw [HostStreams.createHostStream_has]
      obtain has | ⟨y, member, same⟩ := there
      · exact .inl (.inl has)
      · obtain rfl | member := mem_cons.mp member
        · exact .inl (.inr (same.symm.trans own.symm))
        · exact .inr ⟨y, member, same⟩

/-- Committing streams that are all registered changes nothing at the pipeline. -/
theorem commitAll_known (known : ∀ x ∈ xs, hosts.Has x.streamId) : (commitAll hosts pools xs).2.1 = hosts := by
  induction xs with
  | nil => rfl
  | cons x rest more =>
    obtain ⟨first, others⟩ := forall_mem_cons.mp known
    obtain ⟨stream, manager, -, ⟨is, -⟩ | ⟨info, own, -, -, -, is⟩⟩ := x.commitStream_cases hosts (pools x.streamId)
    · simp [commitAll, is]
    · simp only [commitAll, is, HostStreams.createHostStream_known (own ▸ first)]
      exact more others

/-- Registering a new stream clears the marks of all. -/
theorem commitAll_unmarked (ok : (commitAll hosts pools xs).2.2 = true)
    (fresh : (∃ x ∈ xs, ¬ hosts.Has x.streamId) ∨ ∀ host ∈ hosts, host.builed = false) :
    ∀ host ∈ (commitAll hosts pools xs).2.1, host.builed = false := by
  induction xs generalizing hosts with
  | nil => simpa [commitAll] using fresh
  | cons x rest more =>
    obtain ⟨stream, manager, -, ⟨is, -⟩ | ⟨info, own, -, -, -, is⟩⟩ := x.commitStream_cases hosts (pools x.streamId)
    · simp [commitAll, is] at ok
    · simp only [commitAll, is] at ok ⊢
      refine more ok ?_
      by_cases known : hosts.Has x.streamId
      · rw [HostStreams.createHostStream_known (own ▸ known)]
        obtain ⟨y, member, unknown⟩ | unmarked := fresh
        · obtain rfl | member := mem_cons.mp member
          · exact absurd known unknown
          · exact .inl ⟨y, member, unknown⟩
        · exact .inr unmarked
      · exact .inr (HostStreams.createHostStream_unmarked (own ▸ known))

end StreamOperator

end Peripheral.Camera
