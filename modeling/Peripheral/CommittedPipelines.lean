import Peripheral.CaptureEnds
import Peripheral.StreamCommit

/-!
Which streams the nodes of a pipeline get after any calls of `CreateStreams`,
`CommitStreams` and `ReleaseStreams`. The marks of `HostStreamMgrImpl` are cleared only
when a stream is registered, so that streams that are committed again without a new one
beside them are not found.
-/
namespace Peripheral.Camera
open Peripheral.Transitions PipelineTables StreamOperator List

namespace StreamOperator

variable {tables : PipelineTables} {s : StreamOperator} {call : CommitCall}

def streams (s : StreamOperator) : List (Int × Int) := s.streamMap.map fun x => (x.intent, x.streamId)

/-- The nodes of the selected specification got the streams of the map, each the stream of one node and of its type. -/
def Carries (tables : PipelineTables) (s : StreamOperator) (call : CommitCall) : Prop :=
  ∃ pipe, (s.commitStreams tables call).selected = some pipe ∧ (tables.assigned pipe).Perm s.streams

/-- No stream crashes when it is stopped, those in tunnel mode have or get their pools, and `PreConfig` succeeds. -/
def Smooth (tables : PipelineTables) (s : StreamOperator) (call : CommitCall) : Prop :=
  (∀ x ∈ s.restarted tables call, x.stream.crashed = false) ∧
    (∀ x ∈ s.restarted tables call, x.Ready (call.pools x.streamId)) ∧ call.preConfig = true

/-- A stream of the map is not registered yet, or no stream was handed out since the last was registered. -/
def Fresh (s : StreamOperator) : Prop :=
  (∃ x ∈ s.streamMap, ¬ s.hosts.Has x.streamId) ∨ ∀ host ∈ s.hosts, host.builed = false

theorem restarted_streams : (s.restarted tables call).map (·.info) = s.streamMap.map (·.info) := by
  rw [restarted]
  split
  · rw [map_map]
    rfl
  · rfl

theorem restarted_agreeing (agreeing : Agreeing s.streamMap s.hosts)
    (possible : ∀ x ∈ s.streamMap, Stops x (call.meanwhile x.streamId)) : Agreeing (s.restarted tables call) s.hosts := by
  rw [restarted]
  split
  · refine agreeing.onward fun x member => ?_
    obtain ⟨own, -⟩ := possible x member
    obtain ⟨idle, pipeline⟩ := @StreamBase.step_own x.stream .stopStream trivial
    obtain ⟨stays, kept⟩ := StreamBase.steps_own own (s := x.stream.step .stopStream)
    exact ⟨rfl, rfl, fun now => stays (idle now), kept.trans pipeline⟩
  · exact agreeing

theorem restarted_idle (agreeing : Agreeing s.streamMap s.hosts)
    (possible : ∀ x ∈ s.streamMap, Stops x (call.meanwhile x.streamId))
    (supported : s.checkStreamsSupported tables call.mode call.modeSetting ≠ .notSupport)
    (alive : ∀ x ∈ s.restarted tables call, x.stream.crashed = false) :
    ∀ x ∈ s.restarted tables call, x.stream.state = .idle := by
  by_cases restart : s.checkStreamsSupported tables call.mode call.modeSetting = .needInnerRestart
  · rw [restarted, if_pos restart] at alive ⊢
    simp only [forall_mem_map] at alive ⊢
    intro x member
    exact x.stopStream_idle (fun active => (agreeing.registered x member active).2) (possible x member).1 (alive x member)
  · rw [restarted, if_neg restart]
    intro x member
    by_contra active
    obtain ⟨⟨host, there, -⟩, -⟩ := agreeing.registered x member active
    have some : s.hosts.getStreamIds ≠ [] := by
      rw [HostStreams.getStreamIds, Ne, map_eq_nil_iff]
      exact ne_nil_of_mem there
    simp only [checkStreamsSupported, if_pos some] at supported restart
    split at supported <;> simp_all

variable {streamMap : List OperatorStream}

variable {hosts : HostStreams}

/-- When all streams of the map are registered, the registered streams are those of the map. -/
theorem hosts_perm (agreeing : Agreeing streamMap hosts) (all : ∀ x ∈ streamMap, hosts.Has x.streamId) :
    (hosts.map fun host => (host.type, host.streamId)).Perm (streamMap.map fun x => (x.intent, x.streamId)) := by
  rw [perm_ext_iff_of_nodup]
  · rintro ⟨type, id⟩
    simp only [mem_map, Prod.mk.injEq]
    constructor
    · rintro ⟨host, member, rfl, rfl⟩
      obtain ⟨x, there, same, intent, -⟩ := agreeing.known host member
      exact ⟨x, there, intent, same⟩
    · rintro ⟨x, member, rfl, rfl⟩
      obtain ⟨host, there, same⟩ := all x member
      obtain ⟨y, y_mem, id, intent, -⟩ := agreeing.known host there
      have own : y = x := agreeing.eq_of_streamId y_mem member (id.trans same)
      exact ⟨host, there, own ▸ intent.symm, same⟩
  · exact .of_map Prod.snd (by simpa [Function.comp_def] using agreeing.unique)
  · exact .of_map Prod.snd (by simpa [Function.comp_def] using agreeing.ids)

theorem exists_of_infos {xs ys : List OperatorStream} (same : xs.map (·.info) = ys.map (·.info)) {x : OperatorStream}
    (member : x ∈ xs) : ∃ y ∈ ys, y.info = x.info := by
  have there : x.info ∈ ys.map (·.info) := by
    rw [← same]
    exact mem_map_of_mem member
  exact mem_map.mp there

theorem streams_of_infos {xs ys : List OperatorStream} (same : xs.map (·.info) = ys.map (·.info)) :
    (xs.map fun x => (x.intent, x.streamId)) = ys.map fun x => (x.intent, x.streamId) := by
  have maps := congrArg (map fun info : StreamInfo => (info.intent, info.streamId)) same
  rwa [map_map, map_map] at maps

theorem types_of_streams
    (same : (hosts.map fun host => (host.type, host.streamId)).Perm (streamMap.map fun x => (x.intent, x.streamId))) :
    (hosts.map (·.type)).Perm (streamMap.map (·.intent)) := by
  have first := same.map Prod.fst
  rwa [map_map, map_map] at first

theorem getStreamTypes_of_perm
    (same : (hosts.map fun host => (host.type, host.streamId)).Perm (streamMap.map fun x => (x.intent, x.streamId))) :
    hosts.getStreamTypes = (streamMap.map (·.intent)).insertionSort (· ≤ ·) := by
  refine List.Perm.eq_of_sortedLE sortedLE_insertionSort sortedLE_insertionSort ?_
  exact ((perm_insertionSort _ _).trans (types_of_streams same)).trans (perm_insertionSort _ _).symm

/-- Nodes that all got the id `0` have the streams of the map only if that is the only one. -/
theorem zeros_perm_iff {types : List Int} (ids : (streamMap.map (·.streamId)).Nodup)
    (some : streamMap ≠ []) (perm : types.Perm (streamMap.map (·.intent))) :
    (types.map (·, (0 : Int))).Perm (streamMap.map fun x => (x.intent, x.streamId)) ↔ streamMap.map (·.streamId) = [0] := by
  constructor
  · intro same
    have second := same.map Prod.snd
    rw [map_map, map_map] at second
    have zeros : types.map (Prod.snd ∘ (·, (0 : Int))) = replicate types.length 0 := by
      simp [Function.comp_def]
    rw [zeros] at second
    have few : types.length ≤ 1 := nodup_replicate.mp (second.nodup_iff.mpr ids)
    have length : types.length = streamMap.length := by
      simpa using perm.length_eq
    have one : types.length = 1 := by
      have positive := length_pos_iff.mpr some
      omega
    rw [one] at second
    exact singleton_perm.mp second |>.symm
  · intro only
    obtain ⟨x, rest, rfl⟩ := exists_cons_of_ne_nil some
    simp only [map_cons, cons.injEq, map_eq_nil_iff] at only
    obtain ⟨zero, rfl⟩ := only
    have type : types = [x.intent] := perm_singleton.mp perm
    simp [type, zero]

theorem supported_types (supported : s.checkStreamsSupported tables call.mode call.modeSetting ≠ .notSupport) :
    s.streamMap ≠ [] ∧ tables.checkPipelineSpecExist call.mode ((s.streamMap.map (·.intent)).insertionSort (· ≤ ·)) = true := by
  grind [checkStreamsSupported]

/-- The streams of the map and the registered ones behind the last `CommitStream`, and whether all succeeded. -/
def committed (tables : PipelineTables) (s : StreamOperator) (call : CommitCall) :
    List OperatorStream × HostStreams × Bool :=
  commitAll s.hosts call.pools (s.restarted tables call)

section
variable (agreeing : Agreeing s.streamMap s.hosts) (possible : ∀ x ∈ s.streamMap, Stops x (call.meanwhile x.streamId))
include agreeing possible

theorem committed_agreeing : Agreeing (s.committed tables call).1 (s.committed tables call).2.1 :=
  @commitAll_agreeing s.hosts call.pools [] _ (restarted_agreeing agreeing possible)

variable (supported : s.checkStreamsSupported tables call.mode call.modeSetting ≠ .notSupport)
include supported

theorem commitStreams_cases :
    (Smooth tables s call ∧ (s.committed tables call).2.2 = true ∧
      (s.commitStreams tables call).selected = (tables.selectPipelineSpec call.mode (s.committed tables call).2.1).2 ∧
      (s.commitStreams tables call).after = { s with
        streamMap := (s.committed tables call).1
        hosts := (tables.selectPipelineSpec call.mode (s.committed tables call).2.1).1 }) ∨
    (¬ Smooth tables s call ∧ (s.commitStreams tables call).selected = none ∧
      ((s.commitStreams tables call).after = s.crash ∨ (s.commitStreams tables call).after =
        { s with streamMap := (s.committed tables call).1, hosts := (s.committed tables call).2.1 })) := by
  by_cases alive : ∀ x ∈ s.restarted tables call, x.stream.crashed = false
  · have ok := @commitAll_ok s.hosts call.pools _ (restarted_idle agreeing possible supported alive)
    have none : ¬ ∃ x ∈ s.restarted tables call, x.stream.crashed = true := by
      simpa using alive
    by_cases all : (commitAll s.hosts call.pools (s.restarted tables call)).2.2 = true ∧ call.preConfig = true
    · refine .inl ⟨⟨alive, ok.mp all.1, all.2⟩, all.1, ?_, ?_⟩
      · simp [commitStreams, supported, none, all, committed]
      · simp [commitStreams, supported, none, all, committed]
    · refine .inr ⟨fun smooth => all ⟨ok.mpr smooth.2.1, smooth.2.2⟩, ?_, .inr ?_⟩
      · simp only [commitStreams, if_neg supported, if_neg none]
        grind
      · simp only [commitStreams, if_neg supported, if_neg none, committed]
        grind
  · have one : ∃ x ∈ s.restarted tables call, x.stream.crashed = true := by
      simpa using alive
    refine .inr ⟨fun smooth => alive smooth.1, ?_, .inl ?_⟩
    · simp only [commitStreams, if_neg supported, if_pos one]
    · simp only [commitStreams, if_neg supported, if_pos one]

omit supported

theorem committed_streams (ok : (s.committed tables call).2.2 = true) :
    ((s.committed tables call).2.1.map fun host => (host.type, host.streamId)).Perm s.streams := by
  have infos : (s.committed tables call).1.map (·.info) = s.streamMap.map (·.info) :=
    (commitAll_infos s.hosts _).trans restarted_streams
  have all : ∀ x ∈ (s.committed tables call).1, (s.committed tables call).2.1.Has x.streamId := by
    intro x member
    obtain ⟨y, y_mem, same⟩ := exists_of_infos (infos.trans restarted_streams.symm) member
    exact commitAll_has ok (.inr ⟨y, y_mem, congrArg StreamInfo.streamId same⟩)
  rw [streams, ← streams_of_infos infos]
  exact hosts_perm (committed_agreeing agreeing possible) all

omit possible in
/-- The selection finds no registered stream marked when one is new, and all as they were when none is. -/
theorem committed_marks (ok : (s.committed tables call).2.2 = true) :
    (s.Fresh ∧ ∀ host ∈ (s.committed tables call).2.1, host.builed = false) ∨
    (¬ s.Fresh ∧ ∀ host ∈ (s.committed tables call).2.1, host.builed = true) := by
  by_cases fresh : s.Fresh
  · refine .inl ⟨fresh, commitAll_unmarked ok ?_⟩
    obtain ⟨x, member, unknown⟩ | unmarked := fresh
    · obtain ⟨y, y_mem, same⟩ := exists_of_infos (@restarted_streams tables s call).symm member
      rw [OperatorStream.streamId, ← same] at unknown
      exact .inl ⟨y, y_mem, unknown⟩
    · exact .inr unmarked
  · refine .inr ⟨fresh, ?_⟩
    simp only [Fresh, not_or, not_exists, not_and, not_not] at fresh
    obtain ⟨known, marked⟩ := fresh
    have same : (s.committed tables call).2.1 = s.hosts := by
      refine commitAll_known fun x member => ?_
      obtain ⟨y, y_mem, same⟩ := exists_of_infos (@restarted_streams tables s call) member
      rw [OperatorStream.streamId, ← same]
      exact known y y_mem
    rw [same]
    exact agreeing.uniform.resolve_left marked

include supported

theorem selects (fits : tables.Fits) (ok : (s.committed tables call).2.2 = true) :
    ∃ types pipe, types.Perm ((s.committed tables call).2.1.map (·.type)) ∧
      tables.selectPipelineSpec call.mode (s.committed tables call).2.1 =
        (((s.committed tables call).2.1.designateAll types).2, some pipe) ∧
      tables.assigned pipe = ((s.committed tables call).2.1.designateAll types).1 := by
  refine selectPipelineSpec_designates fits ?_
  rw [getStreamTypes_of_perm (committed_streams agreeing possible ok)]
  exact (supported_types supported).2

omit supported in
theorem committed_valid : ∀ host ∈ (s.committed tables call).2.1, host.streamId ≠ -1 := by
  intro host member
  have all := @committed_agreeing tables s call agreeing possible
  obtain ⟨x, there, same, -⟩ := all.known host member
  have valid := all.valid x there
  omega

/-- Exactly when nothing fails before and a stream is new, or the only stream has the id of the empty description. -/
theorem carries_iff (fits : tables.Fits) :
    Carries tables s call ↔ Smooth tables s call ∧ (s.Fresh ∨ s.streamMap.map (·.streamId) = [0]) := by
  obtain ⟨smooth, ok, selected, -⟩ | ⟨rough, selected, -⟩ := commitStreams_cases agreeing possible supported
  · obtain ⟨types, pipe, perm, selects, assigned⟩ := selects agreeing possible supported fits ok
    have streams := committed_streams agreeing possible ok
    rw [selects] at selected
    have one : Carries tables s call ↔ (((s.committed tables call).2.1.designateAll types).1).Perm s.streams := by
      rw [Carries, selected, ← assigned]
      simp
    rw [one]
    obtain ⟨fresh, unmarked⟩ | ⟨stale, marked⟩ := committed_marks agreeing ok
    · have free := HostStreams.free_of_unmarked unmarked
      have handed := (HostStreams.designateAll_free (free.symm ▸ perm)).1
      rw [free] at handed
      exact ⟨fun _ => ⟨smooth, .inl fresh⟩, fun _ => handed.trans streams⟩
    · rw [HostStreams.designateAll_marked marked (committed_valid agreeing possible)]
      have zeros := zeros_perm_iff agreeing.ids (supported_types supported).1 (perm.trans (types_of_streams streams))
      exact zeros.trans ⟨fun only => ⟨smooth, .inr only⟩, fun holds => holds.2.resolve_left stale⟩
  · constructor
    · rintro ⟨pipe, some, -⟩
      rw [selected] at some
      cases some
    · rintro ⟨smooth, -⟩
      exact absurd smooth rough

end

theorem createStreams_agreeing {infos : List StreamInfo} {s : StreamOperator} (agreeing : Agreeing s.streamMap s.hosts) :
    Agreeing (s.createStreams infos).1.streamMap (s.createStreams infos).1.hosts := by
  induction infos generalizing s with
  | nil => exact agreeing
  | cons info rest more =>
    by_cases check : info.check = true
    · by_cases there : ∃ x ∈ s.streamMap, x.streamId = info.streamId
      · simpa [createStreams, check, there] using agreeing
      · rw [createStreams, check, if_neg there]
        repeat' split
        all_goals first
          | exact agreeing
          | exact more (agreeing.insert check there)
    · simpa [createStreams, check] using agreeing

theorem releaseAll_agreeing {meanwhile : Int → List StreamStep} {ids : List Int} {s : StreamOperator}
    (agreeing : Agreeing s.streamMap s.hosts) :
    Agreeing (s.releaseAll meanwhile ids).streamMap (s.releaseAll meanwhile ids).hosts := by
  induction ids generalizing s with
  | nil => exact agreeing
  | cons id rest more =>
    have one : Agreeing (s.releaseStream id (meanwhile id)).streamMap (s.releaseStream id (meanwhile id)).hosts := by
      rw [releaseStream]
      split
      · exact agreeing
      · rename_i x found
        split
        · exact agreeing
        · exact agreeing.erase (mem_of_find?_eq_some found)
    rw [releaseAll]
    split
    · exact one
    · exact more one

theorem ofStream_agreeing {id : Int} {step : StreamStep} (agreeing : Agreeing s.streamMap s.hosts) (own : OfStream step) :
    Agreeing (s.ofStream id step).streamMap (s.ofStream id step).hosts := by
  have onward : Agreeing (s.streamMap.map fun x => if x.streamId = id then { x with stream := x.stream.step step } else x) s.hosts := by
    refine agreeing.onward fun x _ => ?_
    split
    · obtain ⟨idle, pipeline⟩ := @StreamBase.step_own x.stream step own
      exact ⟨rfl, rfl, idle, pipeline⟩
    · exact ⟨rfl, rfl, fun idle => idle, rfl⟩
  rw [ofStream]
  split
  · exact agreeing
  · exact onward

theorem commitStreams_agreeing (fits : tables.Fits) (agreeing : Agreeing s.streamMap s.hosts)
    (possible : ∀ x ∈ s.streamMap, Stops x (call.meanwhile x.streamId)) :
    Agreeing (s.commitStreams tables call).after.streamMap (s.commitStreams tables call).after.hosts := by
  by_cases unsupported : s.checkStreamsSupported tables call.mode call.modeSetting = .notSupport
  · rw [commitStreams, if_pos unsupported]
    exact agreeing
  · have all := @committed_agreeing tables s call agreeing possible
    obtain ⟨-, ok, -, after⟩ | ⟨-, -, after | after⟩ := commitStreams_cases agreeing possible unsupported
    · obtain ⟨types, pipe, perm, selects, -⟩ := selects agreeing possible unsupported fits ok
      rw [after, selects]
      refine all.remark (HostStreams.designateAll_same _ _) ?_
      obtain ⟨-, unmarked⟩ | ⟨-, marked⟩ := committed_marks agreeing ok
      · have free := HostStreams.free_of_unmarked unmarked
        have none := (HostStreams.designateAll_free (free.symm ▸ perm)).2
        simp only [HostStreams.free, filter_eq_nil_iff, Bool.not_eq_true, Bool.not_eq_false'] at none
        exact .inr none
      · rw [HostStreams.designateAll_marked marked (committed_valid agreeing possible)]
        exact .inr marked
    · rw [after]
      exact agreeing
    · rw [after]
      exact all

theorem step_agreeing (fits : tables.Fits) {step : StreamsStep} (agreeing : Agreeing s.streamMap s.hosts)
    (possible : s.Possible step) : Agreeing (s.step tables step).streamMap (s.step tables step).hosts := by
  cases step with
  | createStreams infos =>
    rw [step]
    split
    · exact agreeing
    · exact createStreams_agreeing agreeing
  | commitStreams call =>
    rw [step]
    split
    · exact agreeing
    · exact commitStreams_agreeing fits agreeing possible
  | releaseStreams ids meanwhile =>
    rw [step]
    split
    · exact agreeing
    · exact releaseAll_agreeing agreeing
  | ofStream id step =>
    rw [StreamOperator.step]
    split
    · exact agreeing
    · exact ofStream_agreeing agreeing possible.1

theorem reached_agreeing (fits : tables.Fits) (reached : Reaches (step tables) Possible .new s) :
    Agreeing s.streamMap s.hosts := by
  induction reached with
  | first => exact .new
  | next _ step possible before => exact step_agreeing fits before possible

end StreamOperator

/-- After any calls, and for every call of `CommitStreams` that passes the check, the pipeline that is selected carries the
    streams of the map, each once and at a node of its type, exactly when nothing fails before the selection and a stream is new
    to the pipeline; the nodes of a map whose streams were all handed out before get no stream but the id `0`. -/
theorem committed_pipeline_carries_iff {tables : PipelineTables} (fits : tables.Fits) {s : StreamOperator} {call : CommitCall}
    (reached : Reaches (step tables) StreamOperator.Possible .new s) (possible : s.Possible (.commitStreams call))
    (supported : s.checkStreamsSupported tables call.mode call.modeSetting ≠ .notSupport) :
    s.Carries tables call ↔ s.Smooth tables call ∧ (s.Fresh ∨ s.streamMap.map (·.streamId) = [0]) := by
  exact carries_iff (reached_agreeing fits reached) possible supported fits

instance {tables : PipelineTables} {spec : PipelineConfig} {types : List Int} : Decidable (tables.Serves spec types) :=
  decidable_of_iff ((∀ config ∈ spec.nodeSpec, (getTypeId config.streamType tables.streamInfo).isSome = true →
      config.portSpec.length = 1) ∧ (tables.nodeTypes spec.nodeSpec).Perm types ∧
      tables.nodesConnect [] spec.nodeSpec.reverse = true)
    ⟨fun ⟨single, types, connected⟩ => ⟨single, types, connected⟩, fun ⟨single, types, connected⟩ => ⟨single, types, connected⟩⟩

def nodeOf (name streamType : String) (ports : List (String × String × String × Nat)) : NodeConfig :=
  ⟨name, "new", streamType, ports.map fun (own, peer, node, direction) => ⟨own, peer, node, direction, 0⟩⟩

def sinkOf (name streamType peer node : String) : NodeConfig := nodeOf name streamType [("in0", peer, node, 0)]

/-- A source whose frames go to two sinks. -/
def forked (name second : String) : PipelineConfig :=
  ⟨name, [nodeOf "v4l2_source#0" "" [("out0", "in0", "fork#0", 1)],
    nodeOf "fork#0" "" [("in0", "out0", "v4l2_source#0", 0), ("out0", "in0", "sink#0", 1), ("out1", "in0", "sink#1", 1)],
    sinkOf "sink#0" "preview" "out0" "fork#0", sinkOf "sink#1" second "out1" "fork#0"]⟩

def direct (name streamType : String) : PipelineConfig :=
  ⟨name, [nodeOf "v4l2_source#0" "" [("out0", "in0", "sink#0", 1)], sinkOf "sink#0" streamType "out0" "v4l2_source#0"]⟩

/-- The tables of the board in `rpi3/vendor/hdf_config`. -/
def rpi3 : PipelineTables where
  sceneInfo := [(0, "normal"), (1, "dual")]
  streamInfo := [(0, "preview"), (1, "video"), (2, "snapshot")]
  pipelineSpec := [direct "normal_preview" "preview", direct "normal_snapshot" "snapshot",
    forked "normal_preview_snapshot" "snapshot", forked "normal_preview_video" "video",
    ⟨"dual_preview", [
      ⟨"uvc#0", "new", "", [⟨"out0", "in1", "merge#0", 1, 1⟩]⟩,
      nodeOf "v4l2_source#0" "" [("out0", "in0", "merge#0", 1)],
      nodeOf "merge#0" "" [("in0", "out0", "v4l2_source#0", 0), ("in1", "out0", "uvc#0", 0), ("out0", "in0", "ipp#0", 1)],
      nodeOf "ipp#0" "" [("in0", "out0", "merge#0", 0), ("out0", "in0", "sink#0", 1)],
      sinkOf "sink#0" "preview" "out0" "ipp#0"]⟩]

/-- A name of the table with at most three streams is that of a specification that serves them. -/
theorem rpi3_short : ∀ mode ∈ [(0 : Int), 1], ∀ spec ∈ rpi3.pipelineSpec, ∀ a ∈ [(0 : Int), 1, 2], ∀ b ∈ [(0 : Int), 1, 2],
    ∀ c ∈ [(0 : Int), 1, 2], ∀ types ∈ [[], [a], [a, b], [a, b, c]],
      spec.name = rpi3.keyOf (checkIdExsit mode rpi3.sceneInfo) types → rpi3.Serves spec types := by
  decide +kernel

theorem keyOf_length {tables : PipelineTables} {types : List Int} {scene : String} {n : Nat}
    (each : ∀ type ∈ types, n ≤ (checkIdExsit type tables.streamInfo).length) :
    scene.length + types.length * (n + 1) ≤ (tables.keyOf scene types).length := by
  rw [keyOf]
  induction types generalizing scene with
  | nil => simp
  | cons type rest more =>
    obtain ⟨first, others⟩ := forall_mem_cons.mp each
    have later := @more (scene ++ ("_" ++ checkIdExsit type tables.streamInfo)) others
    rw [foldl_cons, length_cons]
    simp only [String.length_append] at later
    have one : "_".length = 1 := rfl
    rw [Nat.add_mul]
    omega

theorem rpi3_ids {types : List Int} (known : ∀ type ∈ types, checkIdExsit type rpi3.streamInfo ≠ "") :
    ∀ type ∈ types, type ∈ [(0 : Int), 1, 2] := by
  intro type member
  have named := known type member
  by_contra other
  simp only [mem_cons, not_mem_nil, or_false, not_or] at other
  obtain ⟨preview, video, snapshot⟩ := other
  refine named ?_
  simp [checkIdExsit, rpi3, Ne.symm preview, Ne.symm video, Ne.symm snapshot]

theorem rpi3_names : (∀ type ∈ [(0 : Int), 1, 2], 5 ≤ (checkIdExsit type rpi3.streamInfo).length) ∧
    (∀ mode ∈ [(0 : Int), 1], 4 ≤ (checkIdExsit mode rpi3.sceneInfo).length) ∧
    ∀ spec ∈ rpi3.pipelineSpec, spec.name.length ≤ 23 := by
  decide

theorem rpi3_fits : rpi3.Fits := by
  intro mode types spec supported found
  have scene : mode ∈ [(0 : Int), 1] ∧ ∀ type ∈ types, checkIdExsit type rpi3.streamInfo ≠ "" := by
    simp only [checkPipelineSpecExist] at supported
    split at supported
    · cases supported
    · rename_i named
      split at supported
      · cases supported
      · rename_i known
        refine ⟨?_, by simpa using known⟩
        by_contra other
        simp only [mem_cons, not_mem_nil, or_false, not_or] at other
        exact named (by simp [checkIdExsit, rpi3, Ne.symm other.1, Ne.symm other.2])
  obtain ⟨mode_mem, known⟩ := scene
  have ids := rpi3_ids known
  have member := mem_of_find?_eq_some found
  have name : spec.name = rpi3.keyOf (checkIdExsit mode rpi3.sceneInfo) types := by
    simpa using find?_some found
  have few : types.length ≤ 3 := by
    have long : ∀ type ∈ types, 5 ≤ (checkIdExsit type rpi3.streamInfo).length :=
      fun type there => rpi3_names.1 type (ids type there)
    have sum := @keyOf_length rpi3 types (checkIdExsit mode rpi3.sceneInfo) 5 long
    have front := rpi3_names.2.1 mode mode_mem
    have names := rpi3_names.2.2 spec member
    rw [← name] at sum
    omega
  have short := rpi3_short mode mode_mem spec member
  rcases types with _ | ⟨a, _ | ⟨b, _ | ⟨c, _ | ⟨d, more⟩⟩⟩⟩
  · exact short 0 (by simp) 0 (by simp) 0 (by simp) _ (by simp) name
  · exact short a (ids a (by simp)) 0 (by simp) 0 (by simp) _ (by simp) name
  · exact short a (ids a (by simp)) b (ids b (by simp)) 0 (by simp) _ (by simp) name
  · exact short a (ids a (by simp)) b (ids b (by simp)) c (ids c (by simp)) _ (by simp) name
  · simp only [length_cons] at few
    omega

instance : (step : StreamStep) → Decidable (StreamOperator.OfStream step)
  | .configStream _ | .commitStream _ => inferInstanceAs (Decidable False)
  | .attachStreamTunnel | .detachStreamTunnel | .addRequest .. | .queueRequest _ | .setFirstRequest .. | .cancel _ |
    .cancelErase _ | .cancelCheck _ | .handleRequest .. | .handleResult .. | .onFrame _ | .stopStream | .proceedStop _ =>
    inferInstanceAs (Decidable True)

instance (x : OperatorStream) (pool : PoolOutcome) : Decidable (x.Ready pool) := inferInstanceAs (Decidable (_ → _ ∧ _))

instance (x : OperatorStream) (meanwhile : List StreamStep) : Decidable (StreamOperator.Stops x meanwhile) :=
  inferInstanceAs (Decidable (_ ∧ _))

instance (s : StreamOperator) : (step : StreamsStep) → Decidable (s.Possible step)
  | .createStreams _ => inferInstanceAs (Decidable True)
  | .commitStreams _ => inferInstanceAs (Decidable (∀ x ∈ s.streamMap, _))
  | .releaseStreams .. => inferInstanceAs (Decidable (∀ x ∈ s.streamMap, _))
  | .ofStream .. => inferInstanceAs (Decidable (_ ∧ ∀ x ∈ s.streamMap, _ → _))

def previewInfo : StreamInfo := ⟨1, 640, 480, 1, 0, 0, true, some true, 0, 0, 10, 0⟩

def commitCall (meanwhile : List StreamStep) : CommitCall :=
  ⟨0, true, fun _ => meanwhile, fun _ => ⟨true, true, 7, 0⟩, true, true⟩

def created : StreamOperator := new.step rpi3 (.createStreams [previewInfo])

def committedOnce : StreamOperator := created.step rpi3 (.commitStreams (commitCall []))

/-- `StopStream` returns with an error, as a source that was not started has nothing to flush. -/
def unflushed : List StreamStep := [.proceedStop true, .proceedStop true, .proceedStop true, .proceedStop false]

theorem created_reached : Reaches (step rpi3) StreamOperator.Possible .new created :=
  .next .first (StreamsStep.createStreams [previewInfo]) trivial

theorem firstCommit_carries : created.Smooth rpi3 (commitCall []) ∧ created.Fresh ∧ created.Carries rpi3 (commitCall []) := by
  have smooth : created.Smooth rpi3 (commitCall []) := ⟨by decide, by decide, rfl⟩
  have fresh : created.Fresh := .inr (by decide)
  exact ⟨smooth, fresh, (committed_pipeline_carries_iff rpi3_fits created_reached (by decide) (by decide)).mpr ⟨smooth,
    .inl fresh⟩⟩

/-- The stream is committed again, and the node of the pipeline gets the id `0`. -/
theorem recommit_loses_stream :
    ∃ s call, rpi3.Fits ∧ Reaches (step rpi3) StreamOperator.Possible .new s ∧ s.Possible (.commitStreams call) ∧
      s.checkStreamsSupported rpi3 call.mode call.modeSetting ≠ .notSupport ∧ ¬ s.Carries rpi3 call := by
  refine ⟨committedOnce, commitCall unflushed, rpi3_fits, created_reached.next (.commitStreams (commitCall [])) (by decide),
    by decide, by decide, ?_⟩
  rintro ⟨pipe, selected, perm⟩
  have ids : (committedOnce.commitStreams rpi3 (commitCall unflushed)).selected.map rpi3.assigned = some [(0, 0)] := by
    decide
  rw [selected, Option.map_some, Option.some.injEq] at ids
  rw [ids] at perm
  exact absurd perm (by decide)

end Peripheral.Camera
