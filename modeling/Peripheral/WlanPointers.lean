import Mathlib.Data.List.Nodup
import Peripheral.WlanStub

/-!
What the WLAN service keeps to whatever the requests are: a pointer to a feature is to one
that was made, and it is there as long as it was not destroyed.
-/
namespace Peripheral.Wlan
open RemoteCalls Hdf Faults Transitions IWiFi List

section

variable {α : Type} {ends : Ends Fault Int32 Serving α} {st : Serving}

@[simp] theorem needs_onService {f : Service → Service} {ends : Ends Fault Int32 Serving PUnit} :
    Needs (onService f) ends st ↔ ends.last () { st with service := f st.service } := Iff.rfl

@[simp] theorem needs_write {value : Value} {ends : Ends Fault Int32 Serving PUnit} :
    Needs (write value) ends st ↔ ends.last () { st with reply := st.reply ++ [value] } := Iff.rfl

@[simp] theorem needs_useWifi {ends : Ends Fault Int32 Serving PUnit} :
    Needs useWifi ends st ↔ if st.service.g_wifi then ends.last () st else ends.wrong .wifi st := by
  simp only [useWifi, needs_bind, needs_get, before_last, needs_ite, needs_goWrong, needs_pure]
  cases st.service.g_wifi <;> rfl

@[simp] theorem needs_success {ret : Int32} {ends : Ends Fault Int32 Serving Int32} :
    Needs (success ret) ends st ↔ if ret = HDF_SUCCESS then ends.last ret st else ends.early HDF_FAILURE st := by
  simp only [success, ne_eq, ite_not, needs_ite, needs_pure, needs_fail]

@[simp] theorem needs_obtain {ε : Type} {result : Except ε α} :
    Needs (obtain result) ends st ↔
      match result with
      | .error _ => ends.early HDF_FAILURE st
      | .ok a => ends.last a st := by
  cases result <;> rfl

@[simp] theorem needs_arguments {reader : Reader Value Int32 α} :
    Needs (arguments reader) ends st ↔
      match reader.run st.data with
      | .ok a rest => ends.last a { st with data := rest }
      | .error code _ => ends.early code st := by
  rw [arguments, needs_bind, needs_get, before_last]
  cases reader.run st.data <;> rfl

@[simp] theorem needs_pointed {kind : Kind} {ends : Ends Fault Int32 Serving IWiFiBaseFeature} :
    Needs (pointed kind) ends st ↔
      match (st.service.pointer kind).bind st.service.feature with
      | none => ends.wrong .feature st
      | some feature => ends.last feature st := by
  rw [pointed, needs_bind, needs_get, before_last]
  cases st.service.pointer kind with
  | none => rfl
  | some id => cases found : st.service.feature id <;> simp [found]

@[simp] theorem needs_named {kind : Kind} {name : String} {ends : Ends Fault Int32 Serving IWiFiBaseFeature} :
    Needs (named kind name) ends st ↔
      match st.service.pointer kind with
      | none => ends.early HDF_FAILURE st
      | some id =>
        match st.service.feature id with
        | none => ends.wrong .feature st
        | some feature =>
          if IFNAME_MAX_LEN < name.utf8ByteSize + 1 then ends.wrong .ifName st
          else ends.last { feature with ifName := name }
            { st with
              service := st.service.update id fun feature => { feature with ifName := name }
              renamed := st.renamed ++ [(feature.ifName, name)] } := by
  rw [named, needs_bind, needs_get, before_last]
  cases st.service.pointer kind with
  | none => rfl
  | some id =>
    cases found : st.service.feature id with
    | none => simp [found]
    | some feature =>
      simp only [found, needs_ite, needs_goWrong, needs_bind, needs_set, needs_pure, before_last]

theorem needs_operate {op : Operation} {ends : Ends Fault Int32 Serving Int32} :
    Needs (operate op) ends st ↔
      if st.service.g_wifi then
        ends.last (st.service.wifi.perform op).1 { st with service.wifi := st.service.wifi.step op }
      else ends.wrong .wifi st := by
  simp only [operate, needs_bind, needs_useWifi, needs_get, needs_set, needs_pure, before_last, before_wrong, step]

end

namespace Service

variable {s : Service}

/-- Kept whatever the requests are: a pointer is to a feature that was made, and as long as that was not destroyed it is
    there. No name has more than fifteen bytes, and no client is registered twice. -/
structure Good (s : Service) : Prop where
  below : ∀ feature ∈ s.wifi.features, feature.id < s.wifi.made
  made : ∀ kind id, s.pointer kind = some id → id < s.wifi.made
  apart : ∀ kind other id, s.pointer kind = some id → s.pointer other = some id → kind = other
  there : ∀ kind id, s.pointer kind = some id → ((s.feature id).isSome ↔ s.destroyed kind = false)
  nodes : ∀ node ∈ s.wifi.nodes, node.ifName.utf8ByteSize < IFNAME_MAX_LEN
  features : ∀ feature ∈ s.wifi.features, feature.ifName.utf8ByteSize < IFNAME_MAX_LEN
  once : s.stub.registered.Nodup

theorem new_good : new.Good where
  below := by simp [new, IWiFi.new]
  made kind id points := by cases kind <;> simp [new, pointer] at points
  apart kind other id points := by cases kind <;> simp [new, pointer] at points
  there kind id points := by cases kind <;> simp [new, pointer] at points
  nodes := by simp [new, IWiFi.new]
  features := by simp [new, IWiFi.new]
  once := nodup_nil

theorem feature_isSome {id : Nat} : (s.feature id).isSome ↔ ∃ feature ∈ s.wifi.features, feature.id = id := by
  simp [feature]

theorem feature_some {id : Nat} {feature : IWiFiBaseFeature} (found : s.feature id = some feature) :
    feature ∈ s.wifi.features ∧ feature.id = id :=
  ⟨mem_of_find?_eq_some found, by simpa using find?_some found⟩

variable {t : Service}

theorem Good.same (good : s.Good) (ids : t.wifi.features.map (·.id) = s.wifi.features.map (·.id))
    (made : t.wifi.made = s.wifi.made) (pointers : ∀ kind, t.pointer kind = s.pointer kind)
    (destroyed : t.destroyed = s.destroyed) (nodes : ∀ node ∈ t.wifi.nodes, node.ifName.utf8ByteSize < IFNAME_MAX_LEN)
    (features : ∀ feature ∈ t.wifi.features, feature.ifName.utf8ByteSize < IFNAME_MAX_LEN)
    (once : t.stub.registered.Nodup) : t.Good := by
  have among (id : Nat) : (∃ feature ∈ t.wifi.features, feature.id = id) ↔ ∃ feature ∈ s.wifi.features, feature.id = id := by
    rw [← mem_map, ← mem_map, ids]
  refine ⟨fun feature h => ?_, fun kind id points => ?_, fun kind other id points => ?_, fun kind id points => ?_, nodes,
    features, once⟩
  · obtain ⟨before, there, same⟩ := (among feature.id).mp ⟨feature, h, rfl⟩
    rw [made, ← same]
    exact good.below before there
  · rw [made]
    exact good.made kind id (pointers kind ▸ points)
  · rw [pointers] at points ⊢
    exact good.apart kind other id points
  · rw [feature_isSome, among, ← feature_isSome, destroyed]
    exact good.there kind id (pointers kind ▸ points)

variable {id : Option Nat}

variable {kind other : Kind}

theorem pointer_setPointer : (s.setPointer id kind).pointer other = if other = kind then id else s.pointer other := by
  cases kind <;> cases other <;> rfl

@[simp] theorem setPointer_wifi {kind : Kind} : (s.setPointer id kind).wifi = s.wifi :=
  by cases kind <;> rfl

@[simp] theorem setPointer_stub {kind : Kind} : (s.setPointer id kind).stub = s.stub :=
  by cases kind <;> rfl

@[simp] theorem setPointer_destroyed {kind : Kind} : (s.setPointer id kind).destroyed = s.destroyed := by
  cases kind <;> rfl

variable {destroyed : Bool}

@[simp] theorem setDestroyed_pointer : (s.setDestroyed kind destroyed).pointer other = s.pointer other := by
  cases other <;> rfl

@[simp] theorem setDestroyed_destroyed :
    (s.setDestroyed kind destroyed).destroyed other = if other = kind then destroyed else s.destroyed other :=
  Function.update_apply _ _ _ _

@[simp] theorem setDestroyed_wifi {kind : Kind} : (s.setDestroyed kind destroyed).wifi = s.wifi := rfl

@[simp] theorem setDestroyed_stub {kind : Kind} : (s.setDestroyed kind destroyed).stub = s.stub := rfl

theorem feature_of_wifi (same : t.wifi = s.wifi) : t.feature = s.feature := by
  funext id
  rw [feature, feature, same]

theorem Good.update (good : s.Good) (id : Nat) {change : IWiFiBaseFeature → IWiFiBaseFeature}
    (ids : ∀ feature, (change feature).id = feature.id)
    (short : ∀ feature : IWiFiBaseFeature, feature.ifName.utf8ByteSize < IFNAME_MAX_LEN →
      (change feature).ifName.utf8ByteSize < IFNAME_MAX_LEN) : (s.update id change).Good := by
  refine good.same ?_ rfl (fun kind => by cases kind <;> rfl) rfl good.nodes ?_ good.once
  · simp only [Service.update, map_map, map_inj_left, Function.comp]
    intro feature _
    split
    · exact ids feature
    · rfl
  · intro changed h
    obtain ⟨feature, there, rfl⟩ := mem_map.mp h
    have before := good.features feature there
    split
    · exact short feature before
    · exact before

theorem Good.interfaces (good : s.Good) {wifi : IWiFi} (features : wifi.features = s.wifi.features)
    (made : wifi.made = s.wifi.made)
    (nodes : ∀ node ∈ wifi.nodes, node.ifName.utf8ByteSize < IFNAME_MAX_LEN) : Good { s with wifi := wifi } :=
  good.same (by rw [features]) made (fun kind => by cases kind <;> rfl) rfl nodes (by simpa only [features] using good.features)
    good.once

theorem start_nodes (wifi : IWiFi) (init : Int32) (networks : Except Int32 (List NetworkInfo)) (memory : Nat) :
    ∃ started nodes, wifi.step (.start init networks memory) = { wifi with started := started, nodes := nodes } ∧
      ∀ node ∈ nodes, node ∈ wifi.nodes ∨ node.ifName.utf8ByteSize < IFNAME_MAX_LEN := by
  have kept : ∀ node ∈ wifi.nodes, node ∈ wifi.nodes ∨ node.ifName.utf8ByteSize < IFNAME_MAX_LEN := fun _ h => .inl h
  simp only [step, perform, start]
  by_cases started : wifi.started
  · exact ⟨wifi.started, wifi.nodes, by rw [if_pos started], kept⟩
  rw [if_neg started]
  by_cases failed : init ≠ HDF_SUCCESS
  · exact ⟨wifi.started, wifi.nodes, by rw [if_pos failed], kept⟩
  rw [if_neg failed]
  cases networks with
  | error ret =>
    by_cases ok : ret = HDF_SUCCESS
    · exact ⟨true, wifi.nodes, by simp [halCmdGetAvailableNetwork, ok], kept⟩
    · exact ⟨wifi.started, wifi.nodes, by simp [halCmdGetAvailableNetwork, ok], kept⟩
  | ok infos =>
    by_cases short : memory < infos.length
    · exact ⟨wifi.started, [], by simp [halCmdGetAvailableNetwork, short, HDF_FAILURE, HDF_SUCCESS], by simp⟩
    · refine ⟨true, infos.map fun info => ⟨info.name, info.supportMode, none⟩, ?_, ?_⟩
      · simp only [halCmdGetAvailableNetwork, if_neg short, ne_eq, not_true_eq_false, if_false]
      · intro node h
        obtain ⟨info, -, rfl⟩ := mem_map.mp h
        exact .inr info.short

theorem Good.start (good : s.Good) (init : Int32) (networks : Except Int32 (List NetworkInfo)) (memory : Nat) :
    Good { s with wifi := s.wifi.step (.start init networks memory) } := by
  obtain ⟨started, nodes, starts, short⟩ := start_nodes s.wifi init networks memory
  rw [starts]
  exact good.interfaces rfl rfl fun node h => (short node h).elim (good.nodes node) id

theorem Good.stop (good : s.Good) : Good { s with wifi := s.wifi.step .stop } := by
  simp only [IWiFi.step, IWiFi.perform, IWiFi.stop]
  split
  · exact good
  · exact good.interfaces rfl rfl (by simp)

theorem Good.stubs (good : s.Good) {stub : HdfWlanStubData} (once : stub.registered.Nodup) : Good { s with stub := stub } :=
  good.same rfl rfl (fun kind => by cases kind <;> rfl) rfl good.nodes good.features once

theorem Good.repointed (good : s.Good) (kind : Kind) (pointers : ∀ other ≠ kind, t.pointer other = s.pointer other)
    (destroyed : ∀ other ≠ kind, t.destroyed other = s.destroyed other) (mine : ∀ id, t.pointer kind = some id →
      s.wifi.made ≤ id ∧ id < t.wifi.made ∧ ((t.feature id).isSome ↔ t.destroyed kind = false))
    (below : ∀ feature ∈ t.wifi.features, feature.id < t.wifi.made) (more : s.wifi.made ≤ t.wifi.made)
    (there : ∀ id < s.wifi.made, (t.feature id).isSome ↔ (s.feature id).isSome)
    (nodes : ∀ node ∈ t.wifi.nodes, node.ifName.utf8ByteSize < IFNAME_MAX_LEN)
    (features : ∀ feature ∈ t.wifi.features, feature.ifName.utf8ByteSize < IFNAME_MAX_LEN)
    (once : t.stub.registered.Nodup) : t.Good where
  below := below
  made other id points := by
    by_cases same : other = kind
    · exact (mine id (same ▸ points)).2.1
    · exact (good.made other id (pointers other same ▸ points)).trans_le more
  apart one other id points points' := by
    have older (kind' : Kind) (differs : kind' ≠ kind) (points : t.pointer kind' = some id) : id < s.wifi.made :=
      good.made kind' id (pointers kind' differs ▸ points)
    by_cases same : one = kind <;> by_cases same' : other = kind
    · rw [same, same']
    · exact absurd (older other same' points') (Nat.not_lt.mpr (mine id (same ▸ points)).1)
    · exact absurd (older one same points) (Nat.not_lt.mpr (mine id (same' ▸ points')).1)
    · exact good.apart one other id (pointers one same ▸ points) (pointers other same' ▸ points')
  there other id points := by
    by_cases same : other = kind
    · subst same
      exact (mine id points).2.2
    · have points := pointers other same ▸ points
      rw [there id (good.made other id points), destroyed other same]
      exact good.there other id points
  nodes := nodes
  features := features
  once := once

theorem pointer_of_wifi {wifi : IWiFi} {kind : Kind} : pointer { s with wifi := wifi } kind = s.pointer kind := by
  cases kind <;> rfl

theorem feature_setPointer {kind : Kind} : ((s.setPointer id kind).setDestroyed kind destroyed).feature = s.feature :=
  feature_of_wifi (by simp)

theorem Good.created (good : s.Good) (kind : Kind) (malloc : Bool) :
    Good (({ s with wifi := s.wifi.step (.createFeature kind.type malloc) }.setPointer
      (if (s.wifi.perform (.createFeature kind.type malloc)).1 = HDF_SUCCESS then some s.wifi.made else none) kind).setDestroyed
        kind false) := by
  have pointers (wifi : IWiFi) (id : Option Nat) : ∀ other ≠ kind,
      (({ s with wifi := wifi }.setPointer id kind).setDestroyed kind false).pointer other = s.pointer other := by
    intro other differs
    rw [setDestroyed_pointer, pointer_setPointer, if_neg differs, pointer_of_wifi]
  have destroyed (wifi : IWiFi) (id : Option Nat) : ∀ other ≠ kind,
      (({ s with wifi := wifi }.setPointer id kind).setDestroyed kind false).destroyed other = s.destroyed other := by
    intro other differs
    rw [setDestroyed_destroyed, if_neg differs, setPointer_destroyed]
  rcases s.wifi.createFeature_cases kind.type malloc with ⟨code, before, node, after, -, -, found, gives⟩ | ⟨fails, -⟩
  · have nodes := (atFirst_some found).1
    have short : node.ifName.utf8ByteSize < IFNAME_MAX_LEN := good.nodes node (by simp [nodes])
    simp only [step, perform, gives, if_true]
    refine good.repointed kind (pointers _ _) (destroyed _ _) (fun id points => ?_) ?_ (by simp [given])
      (fun id older => ?_) ?_ ?_ (by simpa using good.once)
    · obtain rfl : s.wifi.made = id := by simpa [pointer_setPointer] using points
      simp [feature_isSome, given]
    · intro feature h
      simp only [setDestroyed_wifi, setPointer_wifi, given, mem_append, mem_singleton] at h ⊢
      rcases h with h | rfl
      · exact Nat.lt_succ_of_lt (good.below feature h)
      · exact Nat.lt_succ_self _
    · simp [feature_isSome, given, older.ne']
    · intro other h
      rcases mem_replace (by simpa only [setDestroyed_wifi, setPointer_wifi, given] using h) with rfl | h
      · exact short
      · exact good.nodes other (nodes ▸ mem_of_others h)
    · intro feature h
      simp only [setDestroyed_wifi, setPointer_wifi, given, mem_append, mem_singleton] at h
      rcases h with h | rfl
      · exact good.features feature h
      · exact short
  · simp only [step, perform, fails]
    refine good.repointed kind (pointers _ _) (destroyed _ _) (fun id points => ?_) (by simpa using good.below) (by simp)
      (fun id older => ?_) (by simpa using good.nodes) (by simpa using good.features) (by simpa using good.once)
    · simp [pointer_setPointer, HDF_FAILURE, HDF_SUCCESS] at points
    · rw [feature_setPointer]

theorem Good.freed (good : s.Good) (kind : Kind) {id : Nat} (points : s.pointer kind = some id) :
    if (s.wifi.perform (.destroyFeature id)).1 = HDF_SUCCESS then
      (setDestroyed { s with wifi := s.wifi.step (.destroyFeature id) } kind true).Good
    else Good { s with wifi := s.wifi.step (.destroyFeature id) } := by
  rcases s.wifi.destroyFeature_cases id with ⟨feature, before, node, after, -, found, frees⟩ | ⟨fails, same, -⟩
  · simp only [step, perform, frees, if_true]
    have pointers (other : Kind) :
        (setDestroyed { s with wifi := s.wifi.freed id before node after } kind true).pointer other = s.pointer other := by
      rw [setDestroyed_pointer, pointer_of_wifi]
    have nodes := (atFirst_some found).1
    refine ⟨fun other h => good.below other (mem_filter.mp h).1, fun other id' points' => ?_,
      fun one other id' points' points'' => ?_, fun other id' points' => ?_, fun other h => ?_,
      fun other h => good.features other (mem_filter.mp h).1, good.once⟩
    · exact good.made other id' (pointers other ▸ points')
    · exact good.apart one other id' (pointers one ▸ points') (pointers other ▸ points'')
    · have points' := pointers other ▸ points'
      have there := good.there other id' points'
      by_cases same : other = kind
      · obtain rfl := Option.some.inj ((same ▸ points').symm.trans points)
        simp [feature_isSome, IWiFi.freed, same]
      · have another : id' ≠ id := fun equal => same (good.apart other kind id (equal ▸ points') points)
        rw [setDestroyed_destroyed, if_neg same, ← there, feature_isSome, feature_isSome]
        simp only [setDestroyed_wifi, IWiFi.freed, mem_filter, decide_not, Bool.not_eq_eq_eq_not, Bool.not_true,
          decide_eq_false_iff_not]
        constructor
        · rintro ⟨one, h, equal⟩
          exact ⟨one, h.1, equal⟩
        · rintro ⟨one, h, equal⟩
          exact ⟨one, ⟨h, equal ▸ another⟩, equal⟩
    · rcases IWiFi.mem_replace h with rfl | h
      · exact good.nodes node (by simp [nodes])
      · exact good.nodes other (nodes ▸ IWiFi.mem_of_others h)
  · simp only [IWiFi.step, IWiFi.perform, if_neg fails, same]
    exact good

theorem Good.registering (good : s.Good) (client : Client) (callback : Remote) (calloc : Bool) :
    Good { s with stub := (s.stub.hdfWlanAddRemoteObj client callback calloc).2 } := by
  refine good.stubs ?_
  rcases s.stub.add_cases client callback calloc with ⟨same, -⟩ | ⟨free, -, adds⟩
  · rw [same]
    exact good.once
  · rw [adds, HdfWlanStubData.registered, map_append]
    exact List.Nodup.append good.once (nodup_singleton _) (disjoint_singleton.mpr free)

theorem Good.unregistering (good : s.Good) (client : Client) : Good { s with stub := s.stub.hdfWlanDelRemoteObj client } :=
  good.stubs (good.once.sublist (eraseP_sublist.map _))

end Service

/-! ### Every handler keeps to that -/

section

variable {α : Type}

def Served (st : Serving) : Prop := st.service.Good

theorem keeps_arguments {reader : Reader Value Int32 α} : Keeps Served (arguments reader) := by
  intro st good
  rw [needs_arguments]
  cases reader.run st.data <;> exact good

theorem keeps_write {value : Value} : Keeps Served (write value) := fun _ good => good

theorem keeps_useWifi : Keeps Served useWifi := by
  intro st good
  rw [needs_useWifi]
  split
  · exact good
  · trivial

theorem keeps_success {ret : Int32} : Keeps Served (success ret) := keeps_ite keeps_fail keeps_pure

theorem keeps_obtain {ε : Type} {result : Except ε α} : Keeps Served (obtain result) := by
  cases result
  · exact keeps_fail
  · exact keeps_pure

theorem keeps_fill {size : Nat} {filled : Filled α} : Keeps Served (fill size filled) := keeps_ite keeps_goWrong keeps_obtain

theorem keeps_pointed {kind : Kind} : Keeps Served (pointed kind) := by
  intro st good
  rw [needs_pointed]
  split
  · trivial
  · exact good

theorem named_points {kind : Kind} {name : String} {st : Serving} (good : Served st) :
    Needs (named kind name) ⟨fun _ _ => True, fun _ => Served, fun feature t =>
      Served t ∧ t.service.pointer kind = some feature.id⟩ st := by
  rw [needs_named]
  cases points : st.service.pointer kind with
  | none => exact good
  | some id =>
    dsimp only
    cases found : st.service.feature id with
    | none => trivial
    | some feature =>
      dsimp only
      split
      · trivial
      · next short =>
        refine ⟨good.update id (fun _ => rfl) fun _ _ => Nat.lt_of_succ_le (Nat.not_lt.mp short), ?_⟩
        rw [(Service.feature_some found).2, ← points]
        cases kind <;> rfl

theorem keeps_named {kind : Kind} {name : String} : Keeps Served (named kind name) := fun _ good =>
  (named_points good).mono (fun _ _ h => h) (fun _ _ h => h) fun _ _ h => h.1

theorem keeps_onService {f : Service → Service} (kept : ∀ s, s.Good → (f s).Good) : Keeps Served (onService f) :=
  keeps_modify fun st => kept st.service

theorem keeps_start {init : Int32} {networks : Except Int32 (List NetworkInfo)} {memory : Nat} :
    Keeps Served (operate (.start init networks memory)) := by
  intro st good
  rw [needs_operate]
  split
  · exact good.start init networks memory
  · trivial

theorem keeps_stop : Keeps Served (operate .stop) := by
  intro st good
  rw [needs_operate]
  split
  · exact good.stop
  · trivial

variable {driver : Driver}

theorem keeps_hdiWifiConstruct : Keeps Served (hdiWifiConstruct driver) := by
  have known : Keeps Served (do
      onService fun s => { s with g_wifi := true }
      pure HDF_SUCCESS) :=
    .bind (keeps_onService fun s good =>
      good.same rfl rfl (fun kind => by cases kind <;> rfl) rfl good.nodes good.features good.once) fun _ => keeps_pure
  refine .bind keeps_get fun st => keeps_ite (keeps_unless (.bind (keeps_onService fun s good => ?_) fun _ => known)) known
  exact good.same rfl rfl (fun kind => by cases kind <;> rfl) rfl (by simp) good.features good.once

theorem keeps_hdiWifiDeConstruct : Keeps Served (hdiWifiDeConstruct driver) := by
  refine .bind (keeps_onService fun s good => ?_) fun _ => .bind keeps_get fun st => keeps_unless
    (.bind (keeps_onService fun s good => ?_) fun _ => keeps_pure)
  · exact good.same rfl rfl (fun kind => by cases kind <;> rfl) rfl good.nodes good.features good.once
  · exact good.same rfl rfl (fun kind => by cases kind <;> rfl) rfl good.nodes good.features good.once

theorem keeps_createFeature {wlanType : UInt8} : Keeps Served (wlanServiceStudCreateFeature driver wlanType) := by
  rw [wlanServiceStudCreateFeature]
  refine keeps_unless ?_
  cases Kind.of wlanType.toUInt32.toInt32 with
  | none => exact keeps_goWrong
  | some kind =>
    have behind (ret : Int32) : Keeps Served (do
        let _ ← success ret
        let feature ← pointed kind
        write (.string feature.ifName)
        write (.int32 feature.type)
        pure ret) :=
      .bind keeps_success fun _ => .bind keeps_pointed fun _ => .bind keeps_write fun _ => .bind keeps_write fun _ => keeps_pure
    intro st good
    rw [needs_bind, needs_get, before_last, needs_bind, needs_operate, before_last, before_wrong]
    split
    · rw [needs_bind, needs_onService, before_last]
      exact behind _ _ (Service.Good.created good kind driver.malloc)
    · trivial

theorem keeps_getFeatureByIfName {ifName : String} : Keeps Served (wlanServiceStudGetFeatureByIfName ifName) := by
  refine .bind keeps_useWifi fun _ => .bind keeps_get fun st => .bind keeps_success fun _ => ?_
  split
  · exact keeps_goWrong
  · exact .bind keeps_write fun _ => keeps_pure

theorem keeps_regCallback {client : Client} {callback : Remote} :
    Keeps Served (wlanServiceStudRegCallback driver client callback) := by
  intro st good
  rw [wlanServiceStudRegCallback, needs_bind, needs_get, before_last, needs_bind, needs_onService, before_last]
  have kept := Service.Good.registering good client callback driver.calloc
  refine keeps_unless (.bind keeps_useWifi fun _ => .bind (keeps_onService fun s good => ?_) fun _ => keeps_pure) _ kept
  exact good.stubs kept.once

theorem keeps_unRegCallback {client : Client} : Keeps Served (wlanServiceStubUnRegCallback client) := by
  refine .bind (keeps_onService fun s good => good.unregistering client) fun _ => ?_
  intro st good
  rw [needs_bind, needs_get, before_last, needs_ite]
  split
  · refine (Keeps.bind keeps_useWifi fun _ => ?_) st good
    intro st good
    exact good.stubs good.once
  · exact good

theorem keeps_destoryFeature {name : String} {wlanType : Int32} :
    Keeps Served (wlanServiceStubDestoryFeature name wlanType) := by
  rw [wlanServiceStubDestoryFeature]
  cases Kind.of wlanType with
  | none => exact keeps_fail
  | some kind =>
    refine fun st good => Needs.bind (named_points good) fun feature st ⟨good, points⟩ => ?_
    have freed := Service.Good.freed good kind points
    rw [needs_bind, needs_operate]
    split
    · rw [before_last, needs_bind, needs_success, before_last]
      split at freed
      · next ok => rwa [if_pos ok]
      · next failed => rwa [if_neg failed]
    · trivial

end

theorem handle_keeps (r : Request) (cmd : InterFacesCmd) : Keeps Served (handle r cmd) := by
  cases cmd with
  | construct => exact .bind keeps_arguments fun _ => keeps_hdiWifiConstruct
  | deconstruct => exact .bind keeps_arguments fun _ => keeps_hdiWifiDeConstruct
  | start => exact .bind keeps_arguments fun _ => .bind keeps_start fun _ => keeps_success
  | stop => exact .bind keeps_arguments fun _ => .bind keeps_stop fun _ => keeps_success
  | getSupportFeature =>
    exact .bind keeps_arguments fun _ => .bind keeps_useWifi fun _ => .bind keeps_get fun _ => .bind keeps_obtain fun _ =>
      .bind keeps_write fun _ => .bind keeps_write fun _ => keeps_pure
  | getSupportCombo =>
    refine .bind keeps_arguments fun _ => .bind keeps_useWifi fun _ => ?_
    split
    · exact keeps_fail
    · exact .bind (keeps_modify fun _ good => good) fun _ => keeps_pure
  | createFeature => exact .bind keeps_arguments fun _ => keeps_createFeature
  | getFeatureName => exact .bind keeps_arguments fun _ => keeps_getFeatureByIfName
  | registerCallback => exact .bind keeps_arguments fun _ => keeps_regCallback
  | unregisterCallback => exact keeps_unRegCallback
  | destroyFeature => exact .bind keeps_arguments fun _ => keeps_destoryFeature
  | resetDriver => exact .bind keeps_arguments fun _ => .bind keeps_useWifi fun _ => keeps_success
  | getAsscociateSta =>
    exact .bind keeps_arguments fun _ => .bind keeps_named fun _ => .bind keeps_fill fun _ => .bind keeps_write fun _ =>
      .bind (keeps_modify fun _ good => good) fun _ => keeps_pure
  | setCountryCode => exact .bind keeps_arguments fun _ => .bind keeps_named fun _ => keeps_success
  | getNetworkName =>
    exact .bind keeps_arguments fun _ => .bind keeps_named fun _ => .bind keeps_write fun _ => keeps_pure
  | getFeatureType =>
    refine .bind keeps_arguments fun _ => .bind keeps_pointed fun feature => .bind (keeps_onService fun s good => ?_) fun _ =>
      .bind keeps_write fun _ => keeps_pure
    exact good.update feature.id (fun _ => rfl) fun _ short => short
  | setMacAddr => exact .bind keeps_arguments fun _ => .bind keeps_named fun _ => keeps_success
  | getMacAddr =>
    refine .bind keeps_arguments fun (name, wlanType) => ?_
    dsimp only [wlanServiceGetMacAddr]
    split
    · exact keeps_fail
    · exact .bind keeps_named fun _ => .bind keeps_obtain fun _ => .bind keeps_write fun _ => keeps_pure
  | getFreqWithband =>
    exact .bind keeps_arguments fun _ => .bind keeps_named fun _ => .bind keeps_fill fun _ => .bind keeps_write fun _ =>
      .bind (keeps_modify fun _ good => good) fun _ => keeps_pure
  | setTxPowr => exact .bind keeps_arguments fun _ => .bind keeps_named fun _ => keeps_success
  | getChipid =>
    refine .bind keeps_arguments fun (name, wlanType) => ?_
    dsimp only [wlanServiceStubGetChipId]
    split
    · exact keeps_fail
    · exact .bind keeps_named fun _ => .bind keeps_obtain fun _ => .bind keeps_write fun _ => keeps_pure
  | getNameBychipid =>
    exact .bind keeps_arguments fun _ => .bind keeps_pointed fun _ => .bind keeps_obtain fun _ =>
      .bind keeps_write fun _ => .bind keeps_write fun _ => keeps_pure
  | setSacnMacaddr => exact .bind keeps_arguments fun _ => .bind keeps_named fun _ => keeps_pure
  | getNetdevInfo =>
    refine .bind keeps_arguments fun _ => ?_
    rw [wlanServiceStubGetNetdevInfo]
    exact keeps_unless (.bind keeps_useWifi fun _ => .bind keeps_obtain fun _ => .bind keeps_write fun _ => keeps_pure)
  | startScan => exact .bind keeps_arguments fun _ => .bind keeps_pointed fun _ => keeps_pure

namespace Service

theorem Good.after {s : Service} (good : s.Good) (r : Request) : (s.after r).Good := by
  have kept : Keeps Served (wlanHdiServiceOnRemoteRequest r) := by
    rw [wlanHdiServiceOnRemoteRequest]
    split
    · exact keeps_fail
    · exact handle_keeps r _
  have kept := kept ⟨s, r.data, [], []⟩ good
  rw [Needs] at kept
  rw [Service.after, serve]
  cases result : (wlanHdiServiceOnRemoteRequest r).run ⟨s, r.data, [], []⟩ with
  | ok _ _ =>
    rw [result] at kept
    exact kept
  | error stop _ =>
    rw [result] at kept
    cases stop with
    | returned _ => exact kept
    | wrong _ => exact good

theorem Good.run {s : Service} (good : s.Good) (requests : List Request) : (requests.foldl Service.after s).Good := by
  induction requests generalizing s with
  | nil => exact good
  | cons r rest later => exact later (good.after r)

end Service

end Peripheral.Wlan
