import Mathlib.Data.List.Basic
import Mathlib.Data.List.TakeWhile
import Mathlib.Data.Vector.Defs
import Peripheral.HdfSBuf
import Peripheral.Transitions

/-!
The events of the WLAN driver on their way to the clients of the HDI service. The driver's
client keeps ten callbacks, `wifi_driver_client.c`; the service is one of them while it has
clients, `wifi_hal.c` and `wlan_hdi_service_stub.c`. It takes its lock for a request and
none for an event, so requests come between the rounds of the loops that deliver one.
Events come one after the other, from the one thread that listens to the driver.
-/
namespace Peripheral.Wlan
open Hdf Transitions
open List hiding Vector

abbrev Client := Nat

def WIFI_EVENT_SCAN_RESULT : Nat := 5
def WIFI_EVENT_RESET_DRIVER : Nat := 15
def WIFI_KERNEL_TO_HAL_CLIENT : Nat := 32816

inductive OnReceiveFunc
  | hdfWLanCallbackFun
  | other (function : Nat)
  deriving DecidableEq

structure CallbackEvent where
  eventType : Nat
  ifName : String
  onRecFunc : OnReceiveFunc
  deriving DecidableEq

/-- `g_callbackEventMap`. -/
abbrev CallbackEventMap := Vector (Option CallbackEvent) 10

/-- `WifiEventReport` calls the function of this entry. -/
def CallbackEvent.asks (callback : CallbackEvent) (event : Nat) (ifName : String) : Bool :=
  callback.ifName = ifName && callback.eventType.testBit event

namespace CallbackEventMap

/-- The loops over the map look for the first place of a kind. -/
def first (map : CallbackEventMap) (looks : Option CallbackEvent → Bool) : Option (Fin 10) :=
  (finRange 10).find? fun i => looks map[i]

def wifiRegisterEventCallback (callback : CallbackEvent) (malloc : Bool) (map : CallbackEventMap) :
    Int32 × CallbackEventMap :=
  if some callback ∈ map then (HDF_SUCCESS, map)
  else if !malloc then (HDF_FAILURE, map)
  else if 16 ≤ callback.ifName.utf8ByteSize then (HDF_FAILURE, map)
  else match map.first (·.isNone) with
    | none => (HDF_FAILURE, map)
    | some i => (HDF_SUCCESS, map.set i (some callback))

def wifiUnregisterEventCallback (callback : CallbackEvent) (map : CallbackEventMap) : CallbackEventMap :=
  match map.first (· = some callback) with
  | none => map
  | some i => map.set i none

end CallbackEventMap

def halCallback : CallbackEvent := ⟨WIFI_KERNEL_TO_HAL_CLIENT, "wlan0", .hdfWLanCallbackFun⟩

/-- A node of the list of clients; `id` stands for its address. -/
structure HdfWlanRemoteNode where
  id : Nat
  client : Client
  callbackObj : Remote
  deriving DecidableEq

/-- The clients of the service and the callbacks of the driver's client; `made` counts the nodes. -/
structure HdfWlanStubData where
  remoteListHead : List HdfWlanRemoteNode
  made : Nat
  g_callbackEventMap : CallbackEventMap
  deriving DecidableEq

namespace HdfWlanStubData

def new : HdfWlanStubData := ⟨[], 0, .replicate 10 none⟩

variable (s : HdfWlanStubData)

def registered : List Client := s.remoteListHead.map (·.client)

def hdfWlanAddRemoteObj (client : Client) (callbackObj : Remote) (calloc : Bool) : Int32 × HdfWlanStubData :=
  if client ∈ s.registered then (HDF_FAILURE, s)
  else if !calloc then (HDF_FAILURE, s)
  else (HDF_SUCCESS, { s with remoteListHead := s.remoteListHead ++ [⟨s.made, client, callbackObj⟩], made := s.made + 1 })

def hdfWlanDelRemoteObj (client : Client) : HdfWlanStubData :=
  { s with remoteListHead := s.remoteListHead.eraseP (·.client = client) }

/-- `RegisterEventCallbackInner`, as the service calls it. -/
def registerEventCallback (malloc : Bool) : Int32 × HdfWlanStubData :=
  let (ret, map) := s.g_callbackEventMap.wifiRegisterEventCallback halCallback malloc
  (if ret ≠ HDF_SUCCESS then HDF_FAILURE else HDF_SUCCESS, { s with g_callbackEventMap := map })

/-- `UnregisterEventCallbackInner`. -/
def unregisterEventCallback : Int32 × HdfWlanStubData :=
  (HDF_SUCCESS, { s with g_callbackEventMap := s.g_callbackEventMap.wifiUnregisterEventCallback halCallback })

/-- `WlanServiceStudRegCallback`, after it has read the callback. -/
def wlanServiceStudRegCallback (client : Client) (callback : Remote) (calloc malloc : Bool) : Int32 × HdfWlanStubData :=
  let (ret, s) := s.hdfWlanAddRemoteObj client callback calloc
  if ret ≠ HDF_SUCCESS then (ret, s) else s.registerEventCallback malloc

def wlanServiceStubUnRegCallback (client : Client) : Int32 × HdfWlanStubData :=
  let s := s.hdfWlanDelRemoteObj client
  if s.remoteListHead = [] then s.unregisterEventCallback else (HDF_SUCCESS, s)

end HdfWlanStubData

structure Answer where
  dispatcher : Bool
  sbuf : Bool
  write : Bool
  ret : Int32

/-- `WifiServiceCallback` knows two events. -/
def passedOn (event : Nat) : Bool := event = WIFI_EVENT_RESET_DRIVER || event = WIFI_EVENT_SCAN_RESULT

/-- `WifiServiceCallback`: its code and whether the client was called. -/
def wifiServiceCallback (event : Nat) (answer : Answer) : Int32 × Bool :=
  if !answer.sbuf then (HDF_FAILURE, false)
  else if !passedOn event then (HDF_SUCCESS, false)
  else if !answer.write then (HDF_SUCCESS, false)
  else (answer.ret, true)

/-- A round of the loop of `HdfWLanCallbackFun`. -/
def hdfWLanCallbackRound (event : Nat) (answer : Answer) : Int32 × Bool :=
  if !answer.dispatcher then (HDF_FAILURE, false) else wifiServiceCallback event answer

/-- An event that is being delivered: the index of `WifiEventReport` and, inside of `HdfWLanCallbackFun`, the node that its loop is
    at. What the event has been for since it was reported is in `asked`, and in `sent` who was called. -/
structure Delivery where
  event : Nat
  ifName : String
  index : Nat
  node : Option Nat
  asked : List Client
  sent : List Client
  deriving DecidableEq

/-- The event is one for the HAL. -/
def Delivery.meant (d : Delivery) : Bool := halCallback.asks d.event d.ifName

def Delivery.ended (d : Delivery) : Prop := d.node = none ∧ 10 ≤ d.index

/-- `running` until a node is used after it was freed. -/
structure EventService where
  stub : HdfWlanStubData
  delivering : Option Delivery
  running : Bool
  deriving DecidableEq

inductive EventStep
  | register (client : Client) (callback : Option Remote) (calloc malloc : Bool)
  | unregister (client : Client)
  | registerOther (eventType : Nat) (ifName : String) (function : Nat) (malloc : Bool)
  | unregisterOther (eventType : Nat) (ifName : String) (function : Nat)
  | report (event : Nat) (ifName : String)
  | advance (answer : Answer)

namespace EventService

def new : EventService := ⟨.new, none, true⟩

/-- A round of `WifiEventReport`, or of `HdfWLanCallbackFun` inside of it. -/
def advance (s : EventService) (d : Delivery) (answer : Answer) : EventService :=
  match d.node with
  | none =>
    if index : d.index < 10 then
      let called := s.stub.g_callbackEventMap[d.index].any fun callback =>
        callback.asks d.event d.ifName && callback.onRecFunc = .hdfWLanCallbackFun
      match called, s.stub.remoteListHead with
      | true, first :: _ => { s with delivering := some { d with node := some first.id } }
      | _, _ => { s with delivering := some { d with index := d.index + 1 } }
    else { s with delivering := none }
  | some id =>
    match s.stub.remoteListHead.dropWhile (·.id ≠ id) with
    | [] => { s with running := false }
    | pos :: behind =>
      let (ret, called) := hdfWLanCallbackRound d.event answer
      let d := { d with sent := if called then d.sent ++ [pos.client] else d.sent }
      match ret == HDF_SUCCESS, behind with
      | true, next :: _ => { s with delivering := some { d with node := some next.id } }
      | _, _ => { s with delivering := some { d with node := none, index := d.index + 1 } }

def perform (s : EventService) : EventStep → Int32 × EventService
  | .register client callback calloc malloc =>
    match callback with
    | none => (HDF_ERR_INVALID_PARAM, s)
    | some callback =>
      let (ret, stub) := s.stub.wlanServiceStudRegCallback client callback calloc malloc
      (ret, { s with stub := stub })
  | .unregister client =>
    let (ret, stub) := s.stub.wlanServiceStubUnRegCallback client
    (ret, { s with stub := stub })
  | .registerOther eventType ifName function malloc =>
    let (ret, map) := s.stub.g_callbackEventMap.wifiRegisterEventCallback ⟨eventType, ifName, .other function⟩ malloc
    (ret, { s with stub.g_callbackEventMap := map })
  | .unregisterOther eventType ifName function =>
    (HDF_SUCCESS,
      { s with stub.g_callbackEventMap := s.stub.g_callbackEventMap.wifiUnregisterEventCallback ⟨eventType, ifName, .other function⟩ })
  | .report event ifName =>
    let asked := if halCallback.asks event ifName then s.stub.registered else []
    (HDF_SUCCESS, if s.delivering.isSome then s else { s with delivering := some ⟨event, ifName, 0, none, asked, []⟩ })
  | .advance answer =>
    match s.delivering with
    | none => (HDF_SUCCESS, s)
    | some d => (HDF_SUCCESS, s.advance d answer)

def step (s : EventService) (e : EventStep) : EventService := (s.perform e).2

end EventService

namespace EventService

def place (map : CallbackEventMap) : Option (Fin 10) :=
  (map.first (· = some halCallback)).or (map.first (·.isNone))

def Ahead (map : CallbackEventMap) (d : Delivery) : Prop :=
  d.meant ∧ ∃ i : Fin 10, d.index ≤ i ∧ map[i] = some halCallback

instance (map : CallbackEventMap) (d : Delivery) : Decidable (Ahead map d) := inferInstanceAs (Decidable (_ ∧ _))

def pending (s : EventService) (d : Delivery) : List Client :=
  match d.node with
  | none => if Ahead s.stub.g_callbackEventMap d then s.stub.registered else []
  | some id => (s.stub.remoteListHead.dropWhile (·.id ≠ id)).map (·.client)

/-- Every client is registered once and has the event once, and the service is among the callbacks while it has clients. -/
structure Faithful (s : EventService) : Prop where
  running : s.running
  once : s.stub.registered.Nodup
  driver : some halCallback ∈ s.stub.g_callbackEventMap ↔ s.stub.registered ≠ []
  delivered : ∀ d ∈ s.delivering, d.sent <+: d.asked ∧ (d.ended → d.sent = d.asked)

def Keeps (s : EventService) (e : EventStep) : Prop :=
  (s.step e).Faithful ∧ ∀ client callback calloc malloc, e = .register client callback calloc malloc →
    (s.perform e).1 ≠ HDF_SUCCESS → (s.step e).stub.registered = s.stub.registered

/-- A registration that gets as far as the driver's client succeeds there, and reaches no event on its way; no client is
    removed that an event has still to be passed to; an event for clients is one of the two that are passed on; and it is
    passed to each client, with success unless that is the last one. -/
def Careful (s : EventService) : EventStep → Prop
  | .register client callback calloc malloc => callback.isSome → client ∉ s.stub.registered → calloc →
      (s.stub.registered ≠ [] ∨ malloc ∧ none ∈ s.stub.g_callbackEventMap) ∧
        ∀ d ∈ s.delivering, d.meant → d.node = none ∧ ∀ i ∈ place s.stub.g_callbackEventMap, i < d.index
  | .unregister client => ∀ d ∈ s.delivering, client ∉ s.pending d
  | .report event ifName => s.delivering = none → halCallback.asks event ifName → s.stub.registered ≠ [] → passedOn event
  | .advance answer => ∀ d ∈ s.delivering, ∀ id ∈ d.node, answer.dispatcher ∧ answer.sbuf ∧ answer.write ∧
      (answer.ret = HDF_SUCCESS ∨ (s.pending d).length = 1)
  | _ => True

end EventService

namespace CallbackEventMap

variable {map : CallbackEventMap} {callback : CallbackEvent} {malloc : Bool}

theorem first_some {looks : Option CallbackEvent → Bool} {i : Fin 10} (found : map.first looks = some i) : looks map[i] := by
  simpa using find?_some found

theorem first_none {looks : Option CallbackEvent → Bool} (found : map.first looks = none) (i : Fin 10) :
    looks map[i] = false := by
  simpa using find?_eq_none.mp found i (mem_finRange i)

theorem mem_iff {entry : Option CallbackEvent} : entry ∈ map ↔ ∃ i : Fin 10, map[i] = entry := by
  rw [Vector.mem_iff_getElem]
  exact ⟨fun ⟨i, h, holds⟩ => ⟨⟨i, h⟩, holds⟩, fun ⟨i, holds⟩ => ⟨i, i.isLt, holds⟩⟩

theorem set_holds {i j : Fin 10} {entry : Option CallbackEvent} :
    (map.set i entry)[j] = some callback ↔ if i = j then entry = some callback else map[j] = some callback := by
  rw [Fin.getElem_fin, Vector.getElem_set]
  simp only [Fin.val_inj, Fin.getElem_fin]
  split <;> rfl

theorem register_cases (map : CallbackEventMap) (callback : CallbackEvent) (malloc : Bool) :
    ((map.wifiRegisterEventCallback callback malloc).2 = map ∧
        ((map.wifiRegisterEventCallback callback malloc).1 = HDF_SUCCESS ↔ some callback ∈ map)) ∨
      ∃ i : Fin 10, map.first (·.isNone) = some i ∧ some callback ∉ map ∧
        map.wifiRegisterEventCallback callback malloc = (HDF_SUCCESS, map.set i (some callback)) := by
  have failure : HDF_FAILURE ≠ HDF_SUCCESS := by decide
  rw [wifiRegisterEventCallback]
  by_cases known : some callback ∈ map
  · simp [known]
  · rw [if_neg known]
    cases malloc with
    | false => simp [known, failure]
    | true =>
      by_cases long : 16 ≤ callback.ifName.utf8ByteSize
      · simp [known, failure, long]
      · cases found : map.first (·.isNone) with
        | none => simp [known, failure, long]
        | some i => exact .inr ⟨i, rfl, known, by simp [long]⟩

theorem register_success (short : callback.ifName.utf8ByteSize < 16) (enough : malloc) (room : none ∈ map) :
    (map.wifiRegisterEventCallback callback malloc).1 = HDF_SUCCESS := by
  rw [wifiRegisterEventCallback]
  split
  · rfl
  · rw [if_neg (by simp [enough]), if_neg (by omega)]
    split
    · next full =>
      obtain ⟨i, empty⟩ := mem_iff.mp room
      simpa [empty] using first_none full i
    · rfl

theorem unregister_cases (map : CallbackEventMap) (callback : CallbackEvent) :
    (map.wifiUnregisterEventCallback callback = map ∧ some callback ∉ map) ∨
      ∃ i : Fin 10, map[i] = some callback ∧ map.wifiUnregisterEventCallback callback = map.set i none := by
  rw [wifiUnregisterEventCallback]
  cases found : map.first (· = some callback) with
  | none =>
    refine .inl ⟨rfl, fun known => ?_⟩
    obtain ⟨i, here⟩ := mem_iff.mp known
    simpa [here] using first_none found i
  | some i => exact .inr ⟨i, by simpa using first_some found, rfl⟩

end CallbackEventMap

namespace HdfWlanStubData

variable {s : HdfWlanStubData}

theorem from_eq {nodes before behind : List HdfWlanRemoteNode} {node : HdfWlanRemoteNode}
    (whole : nodes = before ++ node :: behind) (apart : (nodes.map (·.id)).Nodup) :
    nodes.dropWhile (·.id ≠ node.id) = node :: behind := by
  subst whole
  induction before with
  | nil => simp
  | cons first rest ih =>
    simp only [cons_append, map_cons, nodup_cons, mem_map, not_exists, not_and] at apart
    have other : first.id ≠ node.id := fun same => apart.1 node (by simp) same.symm
    rw [cons_append, dropWhile_cons_of_pos (by simpa using other), ih apart.2]

theorem from_eraseP {client : Client} {id : Nat} {nodes : List HdfWlanRemoteNode}
    (gone : client ∉ (nodes.dropWhile (·.id ≠ id)).map (·.client)) :
    (nodes.eraseP (·.client = client)).dropWhile (·.id ≠ id) = nodes.dropWhile (·.id ≠ id) := by
  induction nodes with
  | nil => rfl
  | cons first rest ih =>
    by_cases here : first.id = id
    · rw [dropWhile_cons_of_neg (by simpa using here)] at gone ⊢
      rw [eraseP_of_forall_not, dropWhile_cons_of_neg (by simpa using here)]
      intro node among same
      exact gone (mem_map.mpr ⟨node, among, by simpa using same⟩)
    · rw [dropWhile_cons_of_pos (by simpa using here)] at gone ⊢
      by_cases theirs : first.client = client
      · rw [eraseP_cons_of_pos (by simpa using theirs)]
      · rw [eraseP_cons_of_neg (by simpa using theirs), dropWhile_cons_of_pos (by simpa using here), ih gone]

theorem from_nil {id : Nat} {nodes : List HdfWlanRemoteNode} :
    nodes.dropWhile (·.id ≠ id) = [] ↔ ¬ ∃ node ∈ nodes, node.id = id := by
  simp [dropWhile_eq_nil_iff]

theorem registered_nil : s.registered = [] ↔ s.remoteListHead = [] := map_eq_nil_iff

theorem add_cases (s : HdfWlanStubData) (client : Client) (callback : Remote) (calloc : Bool) :
    (s.hdfWlanAddRemoteObj client callback calloc = (HDF_FAILURE, s) ∧ (client ∈ s.registered ∨ calloc = false)) ∨
      (client ∉ s.registered ∧ calloc ∧ s.hdfWlanAddRemoteObj client callback calloc = (HDF_SUCCESS,
        { s with remoteListHead := s.remoteListHead ++ [⟨s.made, client, callback⟩], made := s.made + 1 })) := by
  rw [hdfWlanAddRemoteObj]
  by_cases known : client ∈ s.registered
  · exact .inl ⟨if_pos known, .inl known⟩
  · rw [if_neg known]
    cases calloc with
    | false => exact .inl ⟨rfl, .inr rfl⟩
    | true => exact .inr ⟨known, rfl, rfl⟩

end HdfWlanStubData

namespace EventService

variable {s : EventService}

/-- The entry of the service stands in one place. -/
def Placed (map : CallbackEventMap) : Prop := ∀ i j : Fin 10, map[i] = some halCallback → map[j] = some halCallback → i = j

/-- What has been done and what is still to be done of a delivery make up the whole; a loop over the nodes is at one of
    them, and in the round of the service's callback. -/
structure OnItsWay (s : EventService) (d : Delivery) : Prop where
  shares : d.sent ++ s.pending d = d.asked
  passed : d.asked ≠ [] → passedOn d.event
  inside : ∀ id ∈ d.node, d.meant ∧ (∃ node ∈ s.stub.remoteListHead, node.id = id) ∧
    ∃ i : Fin 10, i = d.index ∧ s.stub.g_callbackEventMap[i] = some halCallback

structure Good (s : EventService) : Prop where
  running : s.running
  once : s.stub.registered.Nodup
  apart : (s.stub.remoteListHead.map (·.id)).Nodup
  below : ∀ node ∈ s.stub.remoteListHead, node.id < s.stub.made
  placed : Placed s.stub.g_callbackEventMap
  single : ∀ (i : Fin 10) (callback : CallbackEvent), s.stub.g_callbackEventMap[i] = some callback →
    callback.onRecFunc = .hdfWLanCallbackFun → callback = halCallback
  driver : some halCallback ∈ s.stub.g_callbackEventMap ↔ s.stub.registered ≠ []
  delivered : ∀ d ∈ s.delivering, s.OnItsWay d

variable {d : Delivery}

theorem pending_ahead (outside : d.node = none) (ahead : Ahead s.stub.g_callbackEventMap d) :
    s.pending d = s.stub.registered := by
  simp only [pending, outside]
  exact if_pos ahead

theorem pending_behind (outside : d.node = none) (behind : ¬ Ahead s.stub.g_callbackEventMap d) : s.pending d = [] := by
  simp only [pending, outside]
  exact if_neg behind

theorem pending_ended (ended : d.ended) : s.pending d = [] := by
  refine pending_behind ended.1 ?_
  rintro ⟨-, i, later, -⟩
  exact absurd ended.2 (by omega)

theorem Good.faithful (good : s.Good) : s.Faithful where
  running := good.running
  once := good.once
  driver := good.driver
  delivered d delivering := by
    have shares := (good.delivered d delivering).shares
    refine ⟨⟨_, shares⟩, fun ended => ?_⟩
    rw [← shares, pending_ended ended, append_nil]

theorem new_good : new.Good where
  running := rfl
  once := nodup_nil
  apart := nodup_nil
  below := nofun
  placed i j here := by simp [new, HdfWlanStubData.new] at here
  single i callback here := by simp [new, HdfWlanStubData.new] at here
  driver := by simp [new, HdfWlanStubData.new, HdfWlanStubData.registered]
  delivered := nofun

theorem pending_congr {s' : EventService} (nodes : s'.stub.remoteListHead = s.stub.remoteListHead)
    (same : ∀ i : Fin 10, s'.stub.g_callbackEventMap[i] = some halCallback ↔ s.stub.g_callbackEventMap[i] = some halCallback)
    (d : Delivery) : s'.pending d = s.pending d := by
  cases inside : d.node with
  | none =>
    have ahead : Ahead s'.stub.g_callbackEventMap d ↔ Ahead s.stub.g_callbackEventMap d :=
      and_congr_right fun _ => exists_congr fun i => and_congr_right fun _ => same i
    by_cases to_come : Ahead s.stub.g_callbackEventMap d
    · rw [pending_ahead inside to_come, pending_ahead inside (ahead.mpr to_come), HdfWlanStubData.registered, nodes]
      rfl
    · rw [pending_behind inside to_come, pending_behind inside (mt ahead.mp to_come)]
  | some id => simp only [pending, inside, nodes]

theorem Good.other (good : s.Good) {map : CallbackEventMap}
    (same : ∀ (i : Fin 10) (callback : CallbackEvent), callback.onRecFunc = .hdfWLanCallbackFun →
      (map[i] = some callback ↔ s.stub.g_callbackEventMap[i] = some callback)) :
    Good { s with stub.g_callbackEventMap := map } where
  running := good.running
  once := good.once
  apart := good.apart
  below := good.below
  placed i j here there := good.placed i j ((same i _ rfl).mp here) ((same j _ rfl).mp there)
  single i callback here ours := good.single i callback ((same i _ ours).mp here) ours
  driver := by
    rw [CallbackEventMap.mem_iff, exists_congr fun i => same i _ rfl, ← CallbackEventMap.mem_iff]
    exact good.driver
  delivered d delivering := by
    obtain ⟨shares, passed, inside⟩ := good.delivered d delivering
    refine ⟨?_, passed, fun id at_id => ?_⟩
    · rw [← shares, @pending_congr s { s with stub.g_callbackEventMap := map } rfl fun i => same i _ rfl]
    · obtain ⟨meant, there, i, index, here⟩ := inside id at_id
      exact ⟨meant, there, i, index, (same i _ rfl).mpr here⟩

theorem Good.registerOther (good : s.Good) (eventType : Nat) (ifName : String) (function : Nat) (malloc : Bool) :
    (s.step (.registerOther eventType ifName function malloc)).Good := by
  have state : s.step (.registerOther eventType ifName function malloc) = { s with stub.g_callbackEventMap :=
    (s.stub.g_callbackEventMap.wifiRegisterEventCallback ⟨eventType, ifName, .other function⟩ malloc).2 } := rfl
  rw [state]
  refine good.other fun j callback ours => ?_
  rcases s.stub.g_callbackEventMap.register_cases ⟨eventType, ifName, .other function⟩ malloc with
    ⟨same, -⟩ | ⟨i, empty, -, fills⟩
  · rw [same]
  · have none_there := CallbackEventMap.first_some empty
    rw [fills, CallbackEventMap.set_holds]
    split
    · next at_i =>
      have vacant : s.stub.g_callbackEventMap[j] = none := by simpa [at_i] using none_there
      rw [vacant]
      exact iff_of_false (by rintro ⟨⟩; exact absurd ours (by simp)) (by simp)
    · rfl

theorem Good.unregisterOther (good : s.Good) (eventType : Nat) (ifName : String) (function : Nat) :
    (s.step (.unregisterOther eventType ifName function)).Good := by
  have state : s.step (.unregisterOther eventType ifName function) = { s with stub.g_callbackEventMap :=
    (s.stub.g_callbackEventMap.wifiUnregisterEventCallback ⟨eventType, ifName, .other function⟩) } := rfl
  rw [state]
  refine good.other fun j callback ours => ?_
  rcases s.stub.g_callbackEventMap.unregister_cases ⟨eventType, ifName, .other function⟩ with ⟨same, -⟩ | ⟨i, theirs, clears⟩
  · rw [same]
  · rw [clears, CallbackEventMap.set_holds]
    split
    · next at_i =>
      rw [← at_i, theirs]
      exact iff_of_false (by simp) (by rintro ⟨⟩; exact absurd ours (by simp))
    · rfl

theorem register_place {map : CallbackEventMap} {malloc : Bool} (placed : Placed map)
    (success : (map.wifiRegisterEventCallback halCallback malloc).1 = HDF_SUCCESS) (j : Fin 10) :
    (map.wifiRegisterEventCallback halCallback malloc).2[j] = some halCallback ↔ place map = some j := by
  rcases map.register_cases halCallback malloc with ⟨same, known⟩ | ⟨i, empty, unknown, fills⟩
  · obtain ⟨i, here⟩ := CallbackEventMap.mem_iff.mp (known.mp success)
    cases found : map.first (· = some halCallback) with
    | none => simpa [here] using CallbackEventMap.first_none found i
    | some k =>
      have there : map[k] = some halCallback := by simpa using CallbackEventMap.first_some found
      simp only [same, place, found, Option.some_or, Option.some.injEq]
      exact ⟨fun holds => placed k j there holds, fun at_k => at_k ▸ there⟩
  · have elsewhere : ∀ k : Fin 10, map[k] ≠ some halCallback :=
      fun k here => unknown (CallbackEventMap.mem_iff.mpr ⟨k, here⟩)
    have missing : map.first (· = some halCallback) = none :=
      find?_eq_none.mpr fun k _ => by simpa only [decide_eq_true_eq] using elsewhere k
    rw [fills, CallbackEventMap.set_holds, place, missing, Option.none_or, empty]
    simp only [Option.some.injEq]
    exact ⟨fun holds => by_contra fun apart => elsewhere j (by rwa [if_neg apart] at holds), fun at_j => by simp [at_j]⟩

theorem register_state {client : Client} {callback : Remote} {calloc malloc : Bool} (free : client ∉ s.stub.registered)
    (enough : calloc) : s.step (.register client (some callback) calloc malloc) =
      { s with stub :=
        { remoteListHead := s.stub.remoteListHead ++ [⟨s.stub.made, client, callback⟩], made := s.stub.made + 1
          g_callbackEventMap := (s.stub.g_callbackEventMap.wifiRegisterEventCallback halCallback malloc).2 } } := by
  rcases s.stub.add_cases client callback calloc with ⟨-, known | starved⟩ | ⟨-, -, adds⟩
  · exact absurd known free
  · simp [starved] at enough
  · simp [step, perform, HdfWlanStubData.wlanServiceStudRegCallback, adds, HdfWlanStubData.registerEventCallback]

theorem pending_past (outside : d.node = none)
    (past : ∀ i : Fin 10, s.stub.g_callbackEventMap[i] = some halCallback → i < d.index) : s.pending d = [] := by
  refine pending_behind outside ?_
  rintro ⟨-, i, later, here⟩
  exact absurd (past i here) (by omega)

theorem pending_unmeant (outside : d.node = none) (unmeant : d.meant = false) : s.pending d = [] :=
  pending_behind outside fun ahead => by simp [ahead.1] at unmeant

theorem Good.outside (good : s.Good) (delivering : d ∈ s.delivering) (unmeant : d.meant = false) : d.node = none := by
  refine Option.eq_none_iff_forall_not_mem.mpr fun id at_id => ?_
  have meant := ((good.delivered d delivering).inside id at_id).1
  simp [unmeant] at meant

theorem OnItsWay.rest {s' : EventService} (on : s.OnItsWay d) (outside : d.node = none)
    (nothing : s.pending d = []) (still : s'.pending d = []) : s'.OnItsWay d where
  shares := by rw [still, ← nothing, on.shares]
  passed := on.passed
  inside id at_id := by simp [outside] at at_id

theorem Good.register (good : s.Good) (client : Client) (callback : Option Remote) (calloc malloc : Bool)
    (careful : s.Careful (.register client callback calloc malloc)) : (s.step (.register client callback calloc malloc)).Good ∧
      ((s.perform (.register client callback calloc malloc)).1 ≠ HDF_SUCCESS →
        s.step (.register client callback calloc malloc) = s) := by
  cases callback with
  | none => exact ⟨good, fun _ => rfl⟩
  | some callback =>
    rcases s.stub.add_cases client callback calloc with ⟨refused, -⟩ | ⟨free, enough, adds⟩
    · have same : s.perform (.register client (some callback) calloc malloc) = (HDF_FAILURE, s) := by
        simp only [perform, HdfWlanStubData.wlanServiceStudRegCallback, refused]
        rfl
      rw [step, same]
      exact ⟨good, fun _ => rfl⟩
    · obtain ⟨room, reached⟩ := careful rfl free enough
      have success : (s.stub.g_callbackEventMap.wifiRegisterEventCallback halCallback malloc).1 = HDF_SUCCESS := by
        rcases room with some_client | ⟨enough, empty⟩
        · rcases s.stub.g_callbackEventMap.register_cases halCallback malloc with ⟨-, known⟩ | ⟨i, -, -, fills⟩
          · exact known.mpr (good.driver.mpr some_client)
          · rw [fills]
        · exact CallbackEventMap.register_success (by decide) enough empty
      have placing := register_place good.placed success
      obtain ⟨k, here⟩ : ∃ k, place s.stub.g_callbackEventMap = some k := by
        rcases s.stub.g_callbackEventMap.register_cases halCallback malloc with ⟨same, known⟩ | ⟨i, -, -, fills⟩
        · obtain ⟨i, holds⟩ := CallbackEventMap.mem_iff.mp (known.mp success)
          exact ⟨i, (placing i).mp (by rwa [same])⟩
        · exact ⟨i, (placing i).mp (by rw [fills, CallbackEventMap.set_holds, if_pos rfl])⟩
      have before (i : Fin 10) (holds : s.stub.g_callbackEventMap[i] = some halCallback) :
          place s.stub.g_callbackEventMap = some i := by
        rcases s.stub.g_callbackEventMap.register_cases halCallback malloc with ⟨same, -⟩ | ⟨-, -, unknown, -⟩
        · exact (placing i).mp (by rwa [same])
        · exact absurd (CallbackEventMap.mem_iff.mpr ⟨i, holds⟩) unknown
      rw [register_state free enough]
      refine ⟨⟨good.running, ?_, ?_, ?_, ?_, ?_, ?_, ?_⟩, ?_⟩
      · simpa [HdfWlanStubData.registered, nodup_append] using ⟨good.once, fun node there same => free
          (mem_map.mpr ⟨node, there, same⟩)⟩
      · simpa [nodup_append] using ⟨good.apart, fun node there => Nat.ne_of_lt (good.below node there)⟩
      · intro node there
        rcases mem_append.mp there with there | there
        · exact Nat.lt_succ_of_lt (good.below node there)
        · simp [mem_singleton.mp there]
      · intro i j at_i at_j
        exact Option.some.inj (((placing i).mp at_i).symm.trans ((placing j).mp at_j))
      · intro i other holds ours
        rcases s.stub.g_callbackEventMap.register_cases halCallback malloc with ⟨same, -⟩ | ⟨k, -, -, fills⟩
        · exact good.single i other (by rwa [same] at holds) ours
        · rw [fills, CallbackEventMap.set_holds] at holds
          split at holds
          · exact (Option.some.inj holds).symm
          · exact good.single i other holds ours
      · rw [CallbackEventMap.mem_iff]
        simp only [HdfWlanStubData.registered, map_append, map_cons, ne_eq, append_eq_nil_iff]
        exact ⟨fun _ => by simp, fun _ => ⟨k, (placing k).mpr here⟩⟩
      · intro d delivering
        have on := good.delivered d delivering
        cases meant : d.meant with
        | false =>
          have outside := good.outside delivering meant
          exact on.rest outside (pending_unmeant outside meant) (pending_unmeant outside meant)
        | true =>
          obtain ⟨outside, past⟩ := reached d delivering meant
          exact on.rest outside (pending_past outside fun i at_i => past i (before i at_i))
            (pending_past outside fun i at_i => past i ((placing i).mp at_i))
      · intro failed
        have succeeds : (s.perform (.register client (some callback) calloc malloc)).1 = HDF_SUCCESS := by
          simp only [perform, HdfWlanStubData.wlanServiceStudRegCallback, adds, HdfWlanStubData.registerEventCallback, success]
          rfl
        exact absurd succeeds failed

theorem pending_subset {client : Client} (waits : client ∈ s.pending d) : client ∈ s.stub.registered := by
  rw [pending] at waits
  split at waits
  · split at waits
    · exact waits
    · simp at waits
  · exact map_subset _ (dropWhile_sublist _).subset waits

theorem pending_inside {id : Nat} (inside : d.node = some id) :
    s.pending d = [] ↔ ¬ ∃ node ∈ s.stub.remoteListHead, node.id = id := by
  simp only [pending, inside]
  rw [map_eq_nil_iff, HdfWlanStubData.from_nil]

theorem unregister_state (s : EventService) (client : Client) :
    s.step (.unregister client) = { s with stub := (s.stub.wlanServiceStubUnRegCallback client).2 } := rfl

section
variable (good : s.Good)
include good

theorem Good.emptied {client : Client} (careful : s.Careful (.unregister client))
    (last : (s.stub.hdfWlanDelRemoteObj client).remoteListHead = []) :
    Good { s with stub := (s.stub.hdfWlanDelRemoteObj client).unregisterEventCallback.2 } := by
  have only (other : Client) (there : other ∈ s.stub.registered) : other = client := by
    obtain ⟨node, among, rfl⟩ := mem_map.mp there
    by_contra apart
    have left : node ∈ s.stub.remoteListHead.eraseP (·.client = client) :=
      (mem_eraseP_of_neg (by simpa using apart)).mpr among
    have empty : s.stub.remoteListHead.eraseP (·.client = client) = [] := last
    simp [empty] at left
  have nothing (d : Delivery) (delivering : d ∈ s.delivering) : s.pending d = [] := by
    refine eq_nil_iff_forall_not_mem.mpr fun other waits => ?_
    exact careful d delivering (only other (pending_subset waits) ▸ waits)
  have nowhere (i : Fin 10) :
      (s.stub.g_callbackEventMap.wifiUnregisterEventCallback halCallback)[i] ≠ some halCallback := by
    rcases s.stub.g_callbackEventMap.unregister_cases halCallback with ⟨same, unknown⟩ | ⟨k, here, clears⟩
    · exact fun holds => unknown (CallbackEventMap.mem_iff.mpr ⟨i, same ▸ holds⟩)
    · rw [clears, ne_eq, CallbackEventMap.set_holds]
      split
      · simp
      · next apart => exact fun holds => apart (good.placed k i here holds)
  refine ⟨good.running, ?_, ?_, ?_, ?_, ?_, ?_, fun d delivering => ?_⟩
  · simp [HdfWlanStubData.unregisterEventCallback, HdfWlanStubData.registered, last]
  · simp [HdfWlanStubData.unregisterEventCallback, last]
  · simp [HdfWlanStubData.unregisterEventCallback, last]
  · exact fun i j holds => absurd holds (nowhere i)
  · intro i callback holds ours
    rcases s.stub.g_callbackEventMap.unregister_cases halCallback with ⟨same, -⟩ | ⟨k, -, clears⟩
    · exact good.single i callback (same ▸ holds) ours
    · have holds : (s.stub.g_callbackEventMap.wifiUnregisterEventCallback halCallback)[i] = some callback := holds
      rw [clears, CallbackEventMap.set_holds] at holds
      split at holds
      · simp at holds
      · exact good.single i callback holds ours
  · rw [CallbackEventMap.mem_iff]
    simp only [HdfWlanStubData.unregisterEventCallback, HdfWlanStubData.registered, last, map_nil, ne_eq,
      not_true_eq_false, iff_false]
    rintro ⟨i, holds⟩
    exact nowhere i holds
  · have on := good.delivered d delivering
    have outside : d.node = none := by
      refine Option.eq_none_iff_forall_not_mem.mpr fun id at_id => ?_
      exact (pending_inside at_id).mp (nothing d delivering) (on.inside id at_id).2.1
    exact on.rest outside (nothing d delivering) (pending_past outside fun i holds => absurd holds (nowhere i))

theorem Good.removed {client : Client} (careful : s.Careful (.unregister client))
    (some_left : (s.stub.hdfWlanDelRemoteObj client).remoteListHead ≠ []) :
    Good { s with stub := s.stub.hdfWlanDelRemoteObj client } := by
  have fewer : List.Sublist (s.stub.hdfWlanDelRemoteObj client).remoteListHead s.stub.remoteListHead := eraseP_sublist
  have same (d : Delivery) (delivering : d ∈ s.delivering) :
      ({ s with stub := s.stub.hdfWlanDelRemoteObj client } : EventService).pending d = s.pending d := by
    have spared := careful d delivering
    cases inside : d.node with
    | none =>
      by_cases ahead : Ahead s.stub.g_callbackEventMap d
      · rw [pending_ahead inside ahead] at spared ⊢
        rw [@pending_ahead { s with stub := s.stub.hdfWlanDelRemoteObj client } d inside ahead, HdfWlanStubData.registered,
          HdfWlanStubData.hdfWlanDelRemoteObj, eraseP_of_forall_not]
        · rfl
        · intro node there theirs
          exact spared (mem_map.mpr ⟨node, there, by simpa using theirs⟩)
      · rw [pending_behind inside ahead, @pending_behind { s with stub := s.stub.hdfWlanDelRemoteObj client } d inside ahead]
    | some id =>
      simp only [pending, inside] at spared ⊢
      rw [HdfWlanStubData.hdfWlanDelRemoteObj, HdfWlanStubData.from_eraseP spared]
  refine ⟨good.running, good.once.sublist (fewer.map _), good.apart.sublist (fewer.map _),
    fun node there => good.below node (fewer.subset there), good.placed, good.single, ?_, fun d delivering => ?_⟩
  · have some_before : s.stub.registered ≠ [] := by
      rw [ne_eq, HdfWlanStubData.registered_nil]
      exact fun none_before => some_left (sublist_nil.mp (none_before ▸ fewer))
    exact iff_of_true (good.driver.mpr some_before) (by rwa [ne_eq, HdfWlanStubData.registered_nil])
  · obtain ⟨shares, passed, inside⟩ := good.delivered d delivering
    refine ⟨by rw [same d delivering, shares], passed, fun id at_id => ?_⟩
    obtain ⟨meant, there, here⟩ := inside id at_id
    refine ⟨meant, not_not.mp fun gone => ?_, here⟩
    have nothing := (@pending_inside { s with stub := s.stub.hdfWlanDelRemoteObj client } d id at_id).mpr gone
    exact (pending_inside at_id).mp ((same d delivering).symm.trans nothing) there

theorem Good.unregister (client : Client) (careful : s.Careful (.unregister client)) : (s.step (.unregister client)).Good := by
  rw [unregister_state, HdfWlanStubData.wlanServiceStubUnRegCallback]
  by_cases last : (s.stub.hdfWlanDelRemoteObj client).remoteListHead = []
  · simp only [last, if_true]
    exact good.emptied careful last
  · simp only [last, if_false]
    exact good.removed careful last

theorem Good.report (event : Nat) (ifName : String) (careful : s.Careful (.report event ifName)) :
    (s.step (.report event ifName)).Good := by
  cases idle : s.delivering with
  | some d =>
    have same : s.step (.report event ifName) = s := by simp [step, perform, idle]
    rwa [same]
  | none =>
    have reported : s.step (.report event ifName) =
        { s with delivering := some ⟨event, ifName, 0, none, if halCallback.asks event ifName then s.stub.registered else [], []⟩ } := by
      simp [step, perform, idle]
    rw [reported]
    refine ⟨good.running, good.once, good.apart, good.below, good.placed, good.single, good.driver,
      fun d delivering => ?_⟩
    obtain rfl := Option.some.inj delivering
    cases meant : halCallback.asks event ifName with
    | false => exact ⟨by simp [pending, Ahead, Delivery.meant, meant], by simp, nofun⟩
    | true =>
      refine ⟨?_, by simpa using careful idle meant, nofun⟩
      by_cases nobody : s.stub.registered = []
      · simp [pending, nobody]
      · obtain ⟨i, here⟩ := CallbackEventMap.mem_iff.mp (good.driver.mpr nobody)
        have ahead : Ahead s.stub.g_callbackEventMap ⟨event, ifName, 0, none, s.stub.registered, []⟩ :=
          ⟨meant, i, Nat.zero_le _, here⟩
        exact pending_ahead rfl ahead

theorem Good.deliver (on : s.OnItsWay d) : Good { s with delivering := some d } :=
  ⟨good.running, good.once, good.apart, good.below, good.placed, good.single, good.driver,
    fun _ h => Option.some.inj h ▸ ⟨on.shares, on.passed, on.inside⟩⟩

theorem Good.outer (delivering : s.delivering = some d) (outside : d.node = none)
    (answer : Answer) : (s.advance d answer).Good := by
  have on := good.delivered d delivering
  simp only [advance, outside]
  split
  · next index =>
    split
    · next first rest called nodes =>
      -- The loop over the nodes begins.
      obtain ⟨callback, here, asks, ours⟩ : ∃ callback, s.stub.g_callbackEventMap[d.index] = some callback ∧
          callback.asks d.event d.ifName ∧ callback.onRecFunc = .hdfWLanCallbackFun := by
        simpa [Option.any_eq_true] using called
      obtain rfl := good.single ⟨d.index, index⟩ callback here ours
      have all := pending_ahead outside ⟨asks, ⟨d.index, index⟩, Nat.le_refl _, here⟩
      refine good.deliver ⟨?_, on.passed, ?_⟩
      · rw [← on.shares, all, HdfWlanStubData.registered]
        simp [pending, nodes]
      · rintro id ⟨⟩
        exact ⟨asks, ⟨first, by simp [nodes], rfl⟩, ⟨d.index, index⟩, rfl, here⟩
    · next skipped =>
      have same : s.pending { d with node := none, index := d.index + 1 } = s.pending d := by
        by_cases ahead : Ahead s.stub.g_callbackEventMap d
        · obtain ⟨meant, i, later, here⟩ := ahead
          have further : d.index ≠ i := by
            intro at_i
            obtain ⟨client, there⟩ := exists_mem_of_ne_nil _ (good.driver.mp (CallbackEventMap.mem_iff.mpr ⟨i, here⟩))
            obtain ⟨node, there, -⟩ := mem_map.mp there
            obtain ⟨first, rest, nodes⟩ := exists_cons_of_ne_nil (ne_nil_of_mem there)
            have this_one : s.stub.g_callbackEventMap[d.index] = some halCallback := by
              simp only [at_i]
              exact here
            exact skipped first rest (by simpa [this_one] using ⟨meant, rfl⟩) nodes
          rw [pending_ahead outside ⟨meant, i, later, here⟩]
          exact @pending_ahead s { d with node := none, index := d.index + 1 } rfl ⟨meant, i,
            Nat.lt_of_le_of_ne later further, here⟩
        · rw [pending_behind outside ahead]
          refine @pending_behind s { d with node := none, index := d.index + 1 } rfl ?_
          rintro ⟨meant, i, later, here⟩
          exact ahead ⟨meant, i, Nat.le_of_succ_le later, here⟩
      exact good.deliver ⟨by rw [same, on.shares], on.passed, nofun⟩
  · exact ⟨good.running, good.once, good.apart, good.below, good.placed, good.single, good.driver, nofun⟩

theorem Good.inner (delivering : s.delivering = some d) {id : Nat} (inside : d.node = some id)
    (answer : Answer) (careful : s.Careful (.advance answer)) : (s.advance d answer).Good := by
  obtain ⟨shares, passed, at_node⟩ := good.delivered d delivering
  obtain ⟨meant, there, i, index, here⟩ := at_node id inside
  obtain ⟨dispatcher, sbuf, write, ret⟩ := careful d delivering id inside
  simp only [pending, inside] at shares ret
  simp only [advance, inside]
  split
  · next gone => exact absurd there (HdfWlanStubData.from_nil.mp gone)
  · next pos behind nodes =>
    rw [nodes] at shares ret
    have asked : d.asked ≠ [] := by simp [← shares]
    have called : hdfWLanCallbackRound d.event answer = (answer.ret, true) := by
      simp [hdfWLanCallbackRound, wifiServiceCallback, dispatcher, sbuf, write, passed asked]
    rw [called]
    cases behind with
    | nil =>
      -- It was the last node.
      let finished : Delivery := { d with node := none, index := d.index + 1, sent := d.sent ++ [pos.client] }
      have nothing : s.pending finished = [] := by
        refine pending_past rfl fun k there => ?_
        rw [good.placed k i there here, index]
        exact Nat.lt_succ_self _
      have over_now : Good { s with delivering := some finished } :=
        good.deliver ⟨by rw [nothing, append_nil, ← shares]; rfl, passed, nofun⟩
      cases ok : answer.ret == HDF_SUCCESS <;> simpa only [ok, if_true] using over_now
    | cons next rest =>
      have ok : answer.ret = HDF_SUCCESS := by simpa using ret
      have whole : s.stub.remoteListHead = (s.stub.remoteListHead.takeWhile (·.id ≠ id) ++ [pos]) ++ next :: rest := by
        rw [append_assoc, singleton_append, ← nodes, takeWhile_append_dropWhile]
      have later := HdfWlanStubData.from_eq whole good.apart
      simp only [ok, BEq.rfl]
      refine good.deliver ⟨?_, passed, ?_⟩
      · simp only [pending, later, ← shares]
        simp
      · rintro _ ⟨⟩
        exact ⟨meant, ⟨next, by rw [whole]; simp, rfl⟩, i, index, here⟩

theorem Good.step (e : EventStep) (careful : s.Careful e) : (s.step e).Good := by
  cases e with
  | register client callback calloc malloc => exact (good.register client callback calloc malloc careful).1
  | unregister client => exact good.unregister client careful
  | registerOther eventType ifName function malloc => exact good.registerOther eventType ifName function malloc
  | unregisterOther eventType ifName function => exact good.unregisterOther eventType ifName function
  | report event ifName => exact good.report event ifName careful
  | advance answer =>
    cases delivering : s.delivering with
    | none =>
      have same : s.step (.advance answer) = s := by simp [EventService.step, perform, delivering]
      rwa [same]
    | some d =>
      have goes : s.step (.advance answer) = s.advance d answer := by simp [EventService.step, perform, delivering]
      rw [goes]
      cases inside : d.node with
      | none => exact good.outer delivering inside answer
      | some id => exact good.inner delivering inside answer careful

theorem Good.keeps (e : EventStep) (careful : s.Careful e) : s.Keeps e := by
  refine ⟨(good.step e careful).faithful, ?_⟩
  rintro client callback calloc malloc rfl failed
  rw [(good.register client callback calloc malloc careful).2 failed]

theorem takes_keeps {run : List EventStep} (careful : Takes EventService.step Careful s run) :
    Takes EventService.step Keeps s run := by
  induction run generalizing s with
  | nil => trivial
  | cons e rest ih => exact ⟨good.keeps e careful.1, ih (good.step e careful.1) careful.2⟩

end

instance (s : EventService) : (e : EventStep) → Decidable (s.Careful e)
  | .register _ _ _ _ => inferInstanceAs (Decidable (_ → _ → _ → _ ∧ _))
  | .unregister _ => inferInstanceAs (Decidable (∀ d ∈ s.delivering, _))
  | .report _ _ => inferInstanceAs (Decidable (_ → _ → _ → _))
  | .advance _ => inferInstanceAs (Decidable (∀ d ∈ s.delivering, ∀ id ∈ d.node, _))
  | .registerOther _ _ _ _ => inferInstanceAs (Decidable True)
  | .unregisterOther _ _ _ => inferInstanceAs (Decidable True)

/-- In runs of careful steps every event gets to the clients it is for. -/
theorem run_faithful (run : List EventStep) (careful : Takes EventService.step Careful new run) :
    Takes EventService.step Keeps new run :=
  takes_keeps new_good careful

def taken : EventStep := .advance ⟨true, true, true, HDF_SUCCESS⟩
def gone : EventStep := .advance ⟨true, true, true, HDF_FAILURE⟩

/-- Two clients, one of which leaves while the other is given a scan result. -/
theorem leaving_faithful : Takes step Keeps new
    [.register 1 (some 7) true true, .register 2 (some 8) true true, .report WIFI_EVENT_SCAN_RESULT "wlan0", taken, taken,
      .unregister 1, taken, .unregister 2] :=
  run_faithful _ (by decide +kernel)

def unanswered : List EventStep :=
  [.register 1 (some 7) true true, .register 2 (some 8) true true, .report WIFI_EVENT_SCAN_RESULT "wlan0", taken, gone] ++
    .replicate 8 taken

/-- The second does not get the event. -/
theorem unanswered_not_faithful :
    ((unanswered ++ [taken]).foldl step new).delivering = some ⟨WIFI_EVENT_SCAN_RESULT, "wlan0", 10, none, [1, 2], [1]⟩ ∧
      ¬ Takes step Keeps new (unanswered ++ [taken]) := by
  have ends : ((unanswered ++ [taken]).foldl step new).delivering =
      some ⟨WIFI_EVENT_SCAN_RESULT, "wlan0", 10, none, [1, 2], [1]⟩ := by decide +kernel
  refine ⟨ends, fun keeps => ?_⟩
  have faithful := (Takes.append.mp keeps).2.1.1
  rw [foldl_append] at ends
  have all := (faithful.delivered _ ends).2 ⟨rfl, Nat.le_refl _⟩
  simp at all

end EventService

end Peripheral.Wlan
