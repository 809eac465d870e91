import Mathlib.Data.List.Basic
import Mathlib.Data.List.TakeWhile
import Mathlib.Data.Vector.Defs
import Peripheral.HdfSBuf
import Peripheral.Transitions

/-!
The WLAN HAL hands out features, each for one network interface, `wifi_hal.c` and
`wifi_hal_cmd.c`. The list of interfaces is made anew whenever the HAL is started; a node
of it holds the feature that its interface was given to, and a feature that is destroyed
is looked for by the name of its interface. Features are numbered in the order in which
they were made, since the code compares no two pointers to them.
-/
namespace Peripheral.Wlan
open Hdf Transitions
open List hiding Vector

def IFNAMSIZ : Nat := 16
def PROTOCOL_80211_IFTYPE_STATION : Fin 11 := 2
def PROTOCOL_80211_IFTYPE_AP : Fin 11 := 3

/-- What the driver says of an interface. The client of the driver cuts no name: it reports none that is longer. -/
structure NetworkInfo where
  name : String
  supportMode : Vector UInt8 11
  short : name.utf8ByteSize < IFNAMSIZ

structure IWiFiList where
  ifName : String
  supportMode : Vector UInt8 11
  ifeature : Option Nat

structure IWiFiBaseFeature where
  id : Nat
  ifName : String
  type : Int32
  deriving DecidableEq

/-- `features` are those that have been created and not been freed, `made` counts all. -/
structure IWiFi where
  started : Bool
  nodes : List IWiFiList
  features : List IWiFiBaseFeature
  made : Nat

/-- The operations, with what the driver and the allocator answer. `start` is given the code of `WifiDriverClientInit`, the
    interfaces unless `GetUsableNetworkInfo` fails with a code, and for how many of them there is memory. -/
inductive Operation
  | start (init : Int32) (networks : Except Int32 (List NetworkInfo)) (memory : Nat)
  | stop
  | createFeature (type : Int32) (malloc : Bool)
  | destroyFeature (id : Nat)
  | getFeatureByIfName (ifName : String)

def atFirst (looks : IWiFiList → Bool) (nodes : List IWiFiList) : Option (List IWiFiList × IWiFiList × List IWiFiList) :=
  match nodes.dropWhile (!looks ·) with
  | [] => none
  | node :: after => some (nodes.takeWhile (!looks ·), node, after)

/-- `InitFeatureByType` knows two types. -/
def featureType (type : Int32) : Option (Fin 11) :=
  if type = 3 then some PROTOCOL_80211_IFTYPE_AP
  else if type = 2 then some PROTOCOL_80211_IFTYPE_STATION
  else none

def IWiFiList.valid (type : Fin 11) (node : IWiFiList) : Bool := node.ifeature.isNone && node.supportMode[type] == 1

def IWiFiList.named (ifName : String) (node : IWiFiList) : Bool := node.ifName = ifName

namespace IWiFi

def new : IWiFi := ⟨false, [], [], 0⟩

/-- `HalCmdGetAvailableNetwork`; without memory for a node the whole list is cleared. -/
def halCmdGetAvailableNetwork (networks : Except Int32 (List NetworkInfo)) (memory : Nat) (s : IWiFi) : Int32 × IWiFi :=
  match networks with
  | .error ret => (ret, s)
  | .ok infos =>
    if memory < infos.length then (HDF_FAILURE, { s with nodes := [] })
    else (HDF_SUCCESS, { s with nodes := infos.map fun info => ⟨info.name, info.supportMode, none⟩ })

/-- `StartInner`. -/
def start (init : Int32) (networks : Except Int32 (List NetworkInfo)) (memory : Nat) (s : IWiFi) : Int32 × IWiFi :=
  if s.started then (HDF_FAILURE, s)
  else if init ≠ HDF_SUCCESS then (init, s)
  else
    let (ret, s) := s.halCmdGetAvailableNetwork networks memory
    if ret ≠ HDF_SUCCESS then (ret, s) else (ret, { s with started := true })

/-- `StopInner`, with `ClearIWiFiList`. -/
def stop (s : IWiFi) : Int32 × IWiFi :=
  if !s.started then (HDF_FAILURE, s) else (HDF_SUCCESS, { s with started := false, nodes := [] })

/-- `CreateFeatureInner`, with `FindValidNetwork`. -/
def createFeature (type : Int32) (malloc : Bool) (s : IWiFi) : Int32 × IWiFi :=
  match featureType type with
  | none => (HDF_FAILURE, s)
  | some code =>
    if !malloc then (HDF_FAILURE, s)
    else match atFirst (·.valid code) s.nodes with
      | none => (HDF_FAILURE, s)
      | some (before, node, after) =>
        (HDF_SUCCESS,
          { s with
            nodes := before ++ { node with ifeature := some s.made } :: after
            features := s.features ++ [⟨s.made, node.ifName, type⟩]
            made := s.made + 1 })

/-- `DestroyFeatureInner`, for a feature that is there. -/
def destroyFeature (id : Nat) (s : IWiFi) : Int32 × IWiFi :=
  match s.features.find? (·.id = id) with
  | none => (HDF_ERR_INVALID_PARAM, s)
  | some feature =>
    match atFirst (·.named feature.ifName) s.nodes with
    | none => (HDF_FAILURE, s)
    | some (before, node, after) =>
      (HDF_SUCCESS,
        { s with
          nodes := before ++ { node with ifeature := none } :: after
          features := s.features.filter (·.id ≠ id) })

/-- `GetFeatureByIfNameInner`: the feature may be none. -/
def getFeatureByIfName (ifName : String) (s : IWiFi) : Int32 × Option Nat :=
  match atFirst (·.named ifName) s.nodes with
  | none => (HDF_FAILURE, none)
  | some (_, node, _) => (HDF_SUCCESS, node.ifeature)

def perform (s : IWiFi) : Operation → Int32 × IWiFi
  | .start init networks memory => s.start init networks memory
  | .stop => s.stop
  | .createFeature type malloc => s.createFeature type malloc
  | .destroyFeature id => s.destroyFeature id
  | .getFeatureByIfName ifName => ((s.getFeatureByIfName ifName).1, s)

def step (s : IWiFi) (op : Operation) : IWiFi := (s.perform op).2

end IWiFi

def IWiFi.Records (s : IWiFi) (feature : IWiFiBaseFeature) : Prop :=
  ∃ before node after, s.nodes = before ++ node :: after ∧ node.ifeature = some feature.id ∧
    (∀ other ∈ before ++ after, other.ifeature ≠ some feature.id) ∧ node.ifName = feature.ifName ∧
    ∃ code, featureType feature.type = some code ∧ node.supportMode[code] = 1

structure IWiFi.Owned (s : IWiFi) : Prop where
  recorded : ∀ feature ∈ s.features, s.Records feature
  live : ∀ node ∈ s.nodes, ∀ id ∈ node.ifeature, ∃ feature ∈ s.features, feature.id = id
  apart : ∀ one ∈ s.features, ∀ other ∈ s.features, one.ifName = other.ifName → one = other

/-- What an operation should do: it keeps to that, and a creation that fails changes nothing. -/
def IWiFi.Keeps (s : IWiFi) (op : Operation) : Prop :=
  (s.step op).Owned ∧
    ∀ type malloc, op = .createFeature type malloc → (s.perform op).1 ≠ HDF_SUCCESS →
      (s.step op).nodes = s.nodes ∧ (s.step op).features = s.features

/-- The HAL is stopped with no feature left, no interface is given away whose name another feature has, and a feature is
    destroyed whose node is the first of that name. -/
def IWiFi.Careful (s : IWiFi) : Operation → Prop
  | .stop => s.started → s.features = []
  | .createFeature type malloc => malloc → ∀ code, featureType type = some code → ∀ before node after,
      atFirst (·.valid code) s.nodes = some (before, node, after) → ∀ feature ∈ s.features, feature.ifName ≠ node.ifName
  | .destroyFeature id => ∀ feature, s.features.find? (·.id = id) = some feature → ∀ before node after,
      atFirst (·.named feature.ifName) s.nodes = some (before, node, after) → node.ifeature = some id
  | _ => True

/-- Kept whatever is done: the numbers, and that there is no list before the start. -/
structure IWiFi.Valid (s : IWiFi) : Prop where
  idle : s.started = false → s.nodes = []
  below : ∀ feature ∈ s.features, feature.id < s.made

theorem atFirst_some {looks : IWiFiList → Bool} {nodes before after : List IWiFiList} {node : IWiFiList}
    (found : atFirst looks nodes = some (before, node, after)) : nodes = before ++ node :: after ∧ looks node := by
  have whole := takeWhile_append_dropWhile (p := (!looks ·)) (l := nodes)
  rw [atFirst] at found
  cases rest : nodes.dropWhile (!looks ·) with
  | nil => simp [rest] at found
  | cons first others =>
    simp only [rest, Option.some.injEq, Prod.mk.injEq] at found
    obtain ⟨rfl, rfl, rfl⟩ := found
    have stops := head_dropWhile_not (!looks ·) (rest ▸ cons_ne_nil _ _)
    exact ⟨by rw [← rest, whole], by simpa [rest] using stops⟩

namespace IWiFi
variable {s : IWiFi}

def recording (nodes : List IWiFiList) (id : Nat) : List IWiFiList := nodes.filter (·.ifeature = some id)

variable {feature : IWiFiBaseFeature}

theorem records_iff : s.Records feature ↔ ∃ node, recording s.nodes feature.id = [node] ∧ node.ifName = feature.ifName ∧
      ∃ code, featureType feature.type = some code ∧ node.supportMode[code] = 1 := by
  constructor
  · rintro ⟨before, node, after, nodes, records, others, named, supports⟩
    simp only [mem_append] at others
    refine ⟨node, ?_, named, supports⟩
    rw [recording, nodes, filter_append, filter_cons_of_pos (by simpa using records),
      filter_eq_nil_iff.mpr fun other h => by simpa using others other (.inl h),
      filter_eq_nil_iff.mpr fun other h => by simpa using others other (.inr h), nil_append]
  · rintro ⟨node, only, named, supports⟩
    obtain ⟨before, after, nodes, first, records, rest⟩ := filter_eq_cons_iff.mp only
    refine ⟨before, node, after, nodes, by simpa using records, fun other h => ?_, named, supports⟩
    rcases mem_append.mp h with h | h
    · simpa using first other h
    · simpa using filter_eq_nil_iff.mp rest other h

variable {other : IWiFiList}

/-- A node that records another feature, and records another again, does not matter. -/
theorem recording_replace {before after : List IWiFiList} (node : IWiFiList) {id : Nat}
    (one : node.ifeature ≠ some id) (another : other.ifeature ≠ some id) :
    recording (before ++ other :: after) id = recording (before ++ node :: after) id := by
  simp [recording, one, another]

theorem Records.mem (records : s.Records feature) : ∃ node ∈ s.nodes, node.ifeature = some feature.id := by
  obtain ⟨before, node, after, nodes, at_node, -⟩ := records
  exact ⟨node, by simp [nodes], at_node⟩

theorem Records.others {before after : List IWiFiList} {node : IWiFiList}
    (records : s.Records feature) (nodes : s.nodes = before ++ node :: after) (here : node.ifeature = some feature.id) :
    ∀ other ∈ before ++ after, other.ifeature ≠ some feature.id := by
  intro other h another
  obtain ⟨owner, only, -⟩ := records_iff.mp records
  have several : recording before feature.id ++ node :: recording after feature.id = [owner] := by
    rw [← only, nodes, recording, recording, recording, filter_append, filter_cons_of_pos (by simpa using here)]
  have none_more : recording before feature.id = [] ∧ recording after feature.id = [] := by
    cases first : recording before feature.id with
    | nil => simpa [first] using (cons.inj (first ▸ several)).2
    | cons => simp [first] at several
  rcases mem_append.mp h with h | h
  · simpa [another] using filter_eq_nil_iff.mp none_more.1 other h
  · simpa [another] using filter_eq_nil_iff.mp none_more.2 other h

theorem owned_nil (empty : s.features = []) (blank : ∀ node ∈ s.nodes, node.ifeature = none) : s.Owned where
  recorded := by simp [empty]
  live node h id records := by simp [blank node h] at records
  apart := by simp [empty]

theorem Owned.features_nil (owned : s.Owned) (nodes : s.nodes = []) : s.features = [] := by
  refine eq_nil_iff_forall_not_mem.mpr fun feature h => ?_
  obtain ⟨node, there, -⟩ := (owned.recorded feature h).mem
  simp [nodes] at there

theorem start_blank (init : Int32) (networks : Except Int32 (List NetworkInfo)) (memory : Nat)
    (stopped : s.started = false) (nodes : s.nodes = []) :
    ∃ started made, (s.start init networks memory).2 = { s with started := started, nodes := made } ∧
      (started = false → made = []) ∧ ∀ node ∈ made, node.ifeature = none := by
  have same : s = { s with started := false, nodes := [] } := by rw [← stopped, ← nodes]
  rw [start, if_neg (by simp [stopped])]
  split
  · exact ⟨false, [], same, by simp, by simp⟩
  · cases networks with
    | error ret =>
      simp only [halCmdGetAvailableNetwork]
      by_cases ok : ret = HDF_SUCCESS
      · exact ⟨true, [], by simp [ok, nodes], by simp, by simp⟩
      · exact ⟨false, [], by simpa [ok] using same, by simp, by simp⟩
    | ok infos =>
      by_cases short : memory < infos.length
      · exact ⟨false, [], by simp [halCmdGetAvailableNetwork, short, HDF_FAILURE, HDF_SUCCESS, stopped], by simp, by simp⟩
      · refine ⟨true, infos.map fun info => ⟨info.name, info.supportMode, none⟩, ?_, by simp, by simp⟩
        simp [halCmdGetAvailableNetwork, short]

theorem start_owned (init : Int32) (networks : Except Int32 (List NetworkInfo)) (memory : Nat) (valid : s.Valid)
    (owned : s.Owned) : (s.start init networks memory).2.Owned := by
  cases stopped : s.started with
  | true => simpa [start, stopped] using owned
  | false =>
    have nodes := valid.idle stopped
    obtain ⟨started, made, starts, -, blank⟩ := start_blank init networks memory stopped nodes
    rw [starts]
    exact owned_nil (owned.features_nil nodes) blank

theorem stop_owned (owned : s.Owned) : s.stop.2.Owned ↔ (s.started → s.features = []) := by
  cases started : s.started with
  | false => simpa [stop, started] using owned
  | true =>
    simp only [stop, started, Bool.not_true, Bool.false_eq_true, if_false, forall_const]
    exact ⟨fun owned => owned.features_nil rfl, fun empty => owned_nil empty (by simp)⟩

section
variable {before after : List IWiFiList} {node : IWiFiList}

theorem mem_replace (h : other ∈ before ++ node :: after) : other = node ∨ other ∈ before ++ after := by
  rcases mem_append.mp h with h | h
  · exact .inr (mem_append_left _ h)
  · rcases mem_cons.mp h with h | h
    · exact .inl h
    · exact .inr (mem_append_right _ h)

theorem mem_of_others (h : other ∈ before ++ after) : other ∈ before ++ node :: after := by
  rcases mem_append.mp h with h | h
  · exact mem_append_left _ h
  · exact mem_append_right _ (mem_cons_of_mem _ h)

def given (s : IWiFi) (type : Int32) (before : List IWiFiList) (node : IWiFiList) (after : List IWiFiList) : IWiFi :=
  { s with
    nodes := before ++ { node with ifeature := some s.made } :: after
    features := s.features ++ [⟨s.made, node.ifName, type⟩]
    made := s.made + 1 }

theorem createFeature_given {type : Int32} {malloc : Bool} {code : Fin 11} (known : featureType type = some code)
    (enough : malloc) (found : atFirst (·.valid code) s.nodes = some (before, node, after)) :
    s.createFeature type malloc = (HDF_SUCCESS, s.given type before node after) := by
  simp only [createFeature, known, enough, found, Bool.not_true, Bool.false_eq_true, if_false, given]

theorem createFeature_cases (s : IWiFi) (type : Int32) (malloc : Bool) :
    (∃ code before node after, featureType type = some code ∧ malloc ∧
        atFirst (·.valid code) s.nodes = some (before, node, after) ∧
        s.createFeature type malloc = (HDF_SUCCESS, s.given type before node after)) ∨
      (s.createFeature type malloc = (HDF_FAILURE, s) ∧ ∀ code, featureType type = some code → malloc →
        atFirst (·.valid code) s.nodes = none) := by
  cases known : featureType type with
  | none => exact .inr ⟨by simp [createFeature, known], by simp⟩
  | some code =>
    cases malloc with
    | false => exact .inr ⟨by simp [createFeature, known], by simp⟩
    | true =>
      cases found : atFirst (·.valid code) s.nodes with
      | none => exact .inr ⟨by simp [createFeature, known, found], by simp [found]⟩
      | some parts =>
        obtain ⟨before, node, after⟩ := parts
        exact .inl ⟨code, before, node, after, rfl, rfl, found, createFeature_given known rfl found⟩

theorem given_owned {type : Int32} {code : Fin 11} (valid : s.Valid) (owned : s.Owned)
    (nodes : s.nodes = before ++ node :: after) (known : featureType type = some code) (usable : node.valid code) :
    (s.given type before node after).Owned ↔ ∀ feature ∈ s.features, feature.ifName ≠ node.ifName := by
  simp only [IWiFiList.valid, Bool.and_eq_true, Option.isNone_iff_eq_none, beq_iff_eq] at usable
  obtain ⟨free, supports⟩ := usable
  have fresh : ∀ other ∈ s.nodes, other.ifeature ≠ some s.made := by
    intro other h records
    obtain ⟨feature, there, same⟩ := owned.live other h _ records
    exact absurd (valid.below feature there) (by omega)
  constructor
  · intro owned feature h named
    have same := owned.apart feature (by simp [given, h]) ⟨s.made, node.ifName, type⟩ (by simp [given]) named
    exact absurd (valid.below feature h) (by simp [same])
  · intro others
    refine ⟨fun feature h => ?_, fun other h id records => ?_, fun one h other h' named => ?_⟩
    · rcases mem_append.mp h with h | h
      · obtain ⟨owner, only, named, supports⟩ := records_iff.mp (owned.recorded feature h)
        have older := valid.below feature h
        refine records_iff.mpr ⟨owner, ?_, named, supports⟩
        rw [given, recording_replace node (by simp [free]) (by simp; omega), ← nodes, only]
      · obtain rfl := mem_singleton.mp h
        refine ⟨before, _, after, rfl, rfl, fun other h => ?_, rfl, code, known, supports⟩
        exact fresh other (nodes ▸ mem_of_others h)
    · rcases mem_replace h with rfl | h
      · exact ⟨_, mem_append_right _ (mem_singleton_self _), by simpa using records⟩
      · obtain ⟨feature, there, same⟩ := owned.live other (nodes ▸ mem_of_others h) id records
        exact ⟨feature, mem_append_left _ there, same⟩
    · rcases mem_append.mp h with h | h <;> rcases mem_append.mp h' with h' | h'
      · exact owned.apart one h other h' named
      · obtain rfl := mem_singleton.mp h'
        exact absurd named (others one h)
      · obtain rfl := mem_singleton.mp h
        exact absurd named.symm (others other h')
      · rw [mem_singleton.mp h, mem_singleton.mp h']

def freed (s : IWiFi) (id : Nat) (before : List IWiFiList) (node : IWiFiList) (after : List IWiFiList) : IWiFi :=
  { s with
    nodes := before ++ { node with ifeature := none } :: after
    features := s.features.filter (·.id ≠ id) }

theorem destroyFeature_cases (s : IWiFi) (id : Nat) :
    (∃ feature before node after, s.features.find? (·.id = id) = some feature ∧
        atFirst (·.named feature.ifName) s.nodes = some (before, node, after) ∧
        s.destroyFeature id = (HDF_SUCCESS, s.freed id before node after)) ∨
      ((s.destroyFeature id).1 ≠ HDF_SUCCESS ∧ (s.destroyFeature id).2 = s ∧
        ∀ feature, s.features.find? (·.id = id) = some feature → atFirst (·.named feature.ifName) s.nodes = none) := by
  cases found : s.features.find? (·.id = id) with
  | none => exact .inr ⟨by simp [destroyFeature, found, HDF_ERR_INVALID_PARAM, HDF_SUCCESS], by simp [destroyFeature,
    found], by simp⟩
  | some feature =>
    cases here : atFirst (·.named feature.ifName) s.nodes with
    | none =>
      exact .inr ⟨by simp [destroyFeature, found, here, HDF_FAILURE, HDF_SUCCESS], by simp only [destroyFeature, found,
        here],
        by simp [here]⟩
    | some parts =>
      obtain ⟨before, node, after⟩ := parts
      exact .inl ⟨feature, before, node, after, rfl, here, by simp only [destroyFeature, found, here, freed]⟩

theorem freed_owned (owned : s.Owned) (there : feature ∈ s.features) (nodes : s.nodes = before ++ node :: after) :
    (s.freed feature.id before node after).Owned ↔ node.ifeature = some feature.id := by
  constructor
  · intro after_owned
    by_contra another
    obtain ⟨owner, h, records⟩ := (owned.recorded feature there).mem
    rw [nodes] at h
    rcases mem_replace h with rfl | h
    · exact another records
    · obtain ⟨left, h', same⟩ := after_owned.live owner (mem_of_others h) _ records
      simp [freed, same] at h'
  · intro records
    refine ⟨fun other h => ?_, fun owner h id records' => ?_, fun one h other h' => ?_⟩
    · obtain ⟨h, differs⟩ := mem_filter.mp h
      obtain ⟨owner, only, named, supports⟩ := records_iff.mp (owned.recorded other h)
      refine records_iff.mpr ⟨owner, ?_, named, supports⟩
      rw [freed, recording_replace node (by simpa [records] using Ne.symm (by simpa using differs)) (by simp), ← nodes, only]
    · rcases mem_replace h with rfl | h
      · simp at records'
      · obtain ⟨left, h', same⟩ := owned.live owner (nodes ▸ mem_of_others h) id records'
        have differs := (owned.recorded feature there).others nodes records owner h
        refine ⟨left, mem_filter.mpr ⟨h', ?_⟩, same⟩
        simp only [decide_eq_true_eq]
        rintro again
        exact differs (by rw [records', ← same, again])
    · exact owned.apart one (mem_filter.mp h).1 other (mem_filter.mp h').1

end

theorem step_valid (valid : s.Valid) (op : Operation) : (s.step op).Valid := by
  obtain ⟨idle, below⟩ := valid
  cases op with
  | start init networks memory =>
    cases started : s.started with
    | true => simpa [step, perform, start, started] using ⟨idle, below⟩
    | false =>
      obtain ⟨now, made, starts, empty, -⟩ := start_blank init networks memory started (idle started)
      simp only [step, perform, starts]
      exact ⟨empty, below⟩
  | stop =>
    cases started : s.started with
    | true => exact ⟨by simp [step, perform, stop, started], by simpa [step, perform, stop, started] using below⟩
    | false => simpa [step, perform, stop, started] using ⟨idle, below⟩
  | createFeature type malloc =>
    rcases s.createFeature_cases type malloc with ⟨code, before, node, after, -, -, found, gives⟩ | ⟨same, -⟩
    · simp only [step, perform, gives]
      refine ⟨fun stopped => ?_, fun feature h => ?_⟩
      · have empty := idle stopped
        simp [(atFirst_some found).1] at empty
      · rcases mem_append.mp h with h | h
        · exact Nat.lt_succ_of_lt (below feature h)
        · simp [mem_singleton.mp h, given]
    · simpa only [step, perform, same] using ⟨idle, below⟩
  | destroyFeature id =>
    rcases s.destroyFeature_cases id with ⟨feature, before, node, after, -, found, frees⟩ | ⟨-, same, -⟩
    · simp only [step, perform, frees]
      refine ⟨fun stopped => ?_, fun feature h => below feature (mem_filter.mp h).1⟩
      have empty := idle stopped
      simp [(atFirst_some found).1] at empty
    · simpa only [step, perform, same] using ⟨idle, below⟩
  | getFeatureByIfName ifName => exact ⟨idle, below⟩

theorem keeps_iff (valid : s.Valid) (owned : s.Owned) (op : Operation) : s.Keeps op ↔ s.Careful op := by
  cases op with
  | start init networks memory =>
    simp only [Careful, iff_true]
    exact ⟨start_owned init networks memory valid owned, by simp⟩
  | stop => simpa [Keeps, Careful, step, perform] using stop_owned owned
  | createFeature type malloc =>
    rcases s.createFeature_cases type malloc with ⟨code, before, node, after, known, enough, found, gives⟩ | ⟨same, missed⟩
    · have given := given_owned valid owned (atFirst_some found).1 known (atFirst_some found).2
      constructor
      · rintro ⟨kept, -⟩ - code' known' before' node' after' found'
        obtain rfl := Option.some.inj (known.symm.trans known')
        obtain ⟨rfl, rfl, rfl⟩ : before = before' ∧ node = node' ∧ after = after' := by simpa [found] using found'
        exact given.mp (by simpa only [step, perform, gives] using kept)
      · intro careful
        refine ⟨?_, fun type' malloc' asked failed => ?_⟩
        · simp only [step, perform, gives]
          exact given.mpr (careful enough code known before node after found)
        · exact absurd (by rw [perform, gives]) failed
    · constructor
      · rintro - enough code known before node after found
        simp [missed code known enough] at found
      · intro _
        refine ⟨by simpa only [step, perform, same] using owned, fun type' malloc' asked failed => ?_⟩
        simp only [step, perform, same, and_self]
  | destroyFeature id =>
    rcases s.destroyFeature_cases id with ⟨feature, before, node, after, there, found, frees⟩ | ⟨-, same, missed⟩
    · obtain rfl : feature.id = id := by simpa using find?_some there
      have freed := freed_owned owned (mem_of_find?_eq_some there) (atFirst_some found).1
      constructor
      · rintro ⟨kept, -⟩ feature' there' before' node' after' found'
        obtain rfl := Option.some.inj (there.symm.trans there')
        obtain ⟨rfl, rfl, rfl⟩ : before = before' ∧ node = node' ∧ after = after' := by simpa [found] using found'
        exact freed.mp (by simpa only [step, perform, frees] using kept)
      · intro careful
        refine ⟨?_, by simp⟩
        simp only [step, perform, frees]
        exact freed.mpr (careful feature there before node after found)
    · constructor
      · rintro - feature there before node after found
        simp [missed feature there] at found
      · intro _
        exact ⟨by simpa only [step, perform, same] using owned, by simp⟩
  | getFeatureByIfName ifName => simpa [Keeps, Careful, step, perform] using owned

theorem new_valid : new.Valid := ⟨fun _ => rfl, by simp [new]⟩

theorem new_owned : new.Owned := owned_nil rfl (by simp [new])

theorem takes_keeps_iff (valid : s.Valid) (owned : s.Owned) (run : List Operation) :
    Takes step Keeps s run ↔ Takes step Careful s run := by
  induction run generalizing s with
  | nil => exact Iff.rfl
  | cons op rest ih =>
    rw [Takes, Takes, keeps_iff valid owned op]
    refine and_congr_right fun careful => ih (step_valid valid op) ?_
    exact ((keeps_iff valid owned op).mpr careful).1

/-- A run in which features stay with their interfaces. -/
theorem run_owned_iff (run : List Operation) : Takes step Keeps new run ↔ Takes step Careful new run :=
  takes_keeps_iff new_valid new_owned run

def wlan0 : NetworkInfo := ⟨"wlan0", #v[0, 0, 1, 0, 0, 0, 0, 0, 0, 0, 0], by decide⟩

def restarted : List Operation :=
  [.start 0 (.ok [wlan0]) 1, .createFeature 2 true, .stop, .start 0 (.ok [wlan0]) 1, .createFeature 2 true]

/-- Two features have the interface then, and its node records the second. -/
theorem restarted_not_owned : (restarted.foldl step new).features = [⟨0, "wlan0", 2⟩, ⟨1, "wlan0", 2⟩] ∧
      (restarted.foldl step new).nodes.map (·.ifeature) = [some 1] ∧ ¬ Takes step Keeps new restarted := by
  refine ⟨by decide, by decide, ?_⟩
  rintro ⟨-, -, -, -, ⟨owned, -⟩, -⟩
  have one := owned.apart ⟨0, "wlan0", 2⟩ (by decide) ⟨1, "wlan0", 2⟩ (by decide) rfl
  simp at one

end IWiFi

end Peripheral.Wlan
