import Mathlib.Algebra.Group.Nat.Defs
import Peripheral.Cursors
import Peripheral.Transitions

/-!
The input devices and the callbacks for their events, from `input_manager.c` and `input_reporter.c`.
What runs under the lock is one event here, and so is each turn of the loop that passes an event of a
driver to the devices, which runs without it. Nodes, services and listeners are numbers that are never
used twice; a callback is known by its number.
-/
namespace Peripheral.Input
open Cursors Transitions

def INPUT_SUCCESS : Int := 0
def INPUT_FAILURE : Int := -1
def INPUT_INVALID_PARAM : Int := -2
def INPUT_NOMEM : Int := -3
def INPUT_NULL_PTR : Int := -4
def MAX_INPUT_DEV_NUM : Nat := 32
def MAX_EVENT_PKG_NUM : Nat := 100
def PLACEHOLDER_LENGTH : Nat := 2
def PLACEHOLDER_LIMIT : Nat := 10

/-- A buffer of an event: an `EventPackage` or a `HotPlugEvent`. -/
abbrev Buffer := List UInt8

structure DeviceInfoNode where
  node : Nat
  devIndex : Nat
  service : Nat
  listener : Option Nat
  eventCb : Option Nat
  deriving DecidableEq

structure InputHostDev where
  service : Option Nat
  listener : Option Nat
  hostCb : Option Nat
  deriving DecidableEq

/-- A listener that is registered with a service, and whether its `onReceive` is that for hot plugs. -/
structure Listener where
  service : Nat
  listener : Nat
  hotPlug : Bool
  deriving DecidableEq

/-- An event that is passed to the devices: the loop's `pos` and `next`, and who has been told what. -/
structure Dispatch where
  service : Nat
  pkgs : List Buffer
  pos : Option Nat
  next : Option Nat
  told : List (Nat × List Buffer × Nat)
  deriving DecidableEq

/-- `listeners` is what the services have, `freed` are the listeners that have been freed, `opening` the
indices between their check and their insertion. -/
structure State where
  devList : List DeviceInfoNode
  attachedDevNum : Nat
  evtCallbackNum : Int
  hostDev : InputHostDev
  listeners : List Listener
  freed : List Nat
  opening : List Nat
  dispatches : List Dispatch
  made : Nat
  fault : Bool
  deriving DecidableEq

/-- The loop over the devices up to the one of an index: those before it, itself and those behind. -/
def seek (devIndex : Nat) : List DeviceInfoNode → Option (List DeviceInfoNode × DeviceInfoNode × List DeviceInfoNode)
  | [] => none
  | pos :: rest =>
    if pos.devIndex ≠ devIndex then (seek devIndex rest).map fun (before, found, behind) => (pos :: before, found, behind)
    else some ([], pos, rest)

/-- What `snprintf_s` writes, if it is not too long. -/
def serviceName (devIndex : Nat) : Option (List Char) :=
  let base := "hdf_input_event".toList
  let name := base ++ Nat.toDigits 10 devIndex
  let len := if devIndex < PLACEHOLDER_LIMIT then 1 else PLACEHOLDER_LENGTH
  if name.length ≤ base.length + len then some name else none

def readPkgs : Nat → List (Option Buffer) → List Buffer
  | room + 1, some pkg :: data => pkg :: readPkgs room data
  | _, _ => []

def allPkgs : List (Option Buffer) → List Buffer
  | some pkg :: data => pkg :: allPkgs data
  | _ => []

def view (devList : List DeviceInfoNode) : List (Nat × Nat) := devList.map fun pos => (pos.node, pos.service)

namespace State

variable (s : State)

def closeInputDevice (devIndex : Nat) : Int × State :=
  match seek devIndex s.devList with
  | some (before, pos, behind) =>
    (INPUT_SUCCESS, { s with
      devList := before ++ behind
      attachedDevNum := (s.attachedDevNum + 2 ^ 32 - 1) % 2 ^ 32
      listeners := s.listeners.filter (·.service ≠ pos.service) })
  | none => (INPUT_FAILURE, s)

def checkIndex (devIndex : Nat) : Int :=
  if devIndex ≥ MAX_INPUT_DEV_NUM then INPUT_INVALID_PARAM
  else
    match seek devIndex s.devList with
    | some _ => INPUT_FAILURE
    | none => INPUT_SUCCESS

/-- A node that has been set to zero but for what is known. -/
def newNode (devIndex service : Nat) : DeviceInfoNode := ⟨s.made, devIndex, service, none, none⟩

def addService (devIndex service : Nat) (allocated : Bool) : Int × State :=
  if !allocated then (INPUT_NOMEM, s)
  else
    (INPUT_SUCCESS, { s with
      devList := s.devList ++ [s.newNode devIndex service]
      attachedDevNum := (s.attachedDevNum + 1) % 2 ^ 32
      made := s.made + 1 })

/-- `OpenInputDevice` up to the check of its index. -/
def startOpen (devIndex : Nat) : Option Int × State :=
  if s.checkIndex devIndex ≠ INPUT_SUCCESS then (some INPUT_FAILURE, s)
  else (none, { s with opening := devIndex :: s.opening })

/-- `OpenInputDevice` after the check, where the service is bound or not. -/
def endOpen (devIndex : Nat) (bound allocated : Bool) : Option Int × State :=
  if devIndex ∉ s.opening then (none, s)
  else
    let s := { s with opening := s.opening.erase devIndex }
    match serviceName devIndex with
    | none => (some INPUT_FAILURE, s)
    | some _ =>
      if !bound then (some INPUT_NULL_PTR, s)
      else
        let (ret, later) := s.addService devIndex s.made allocated
        if ret < 0 then (some INPUT_FAILURE, s) else (some INPUT_SUCCESS, later)

def registerReportCallback (devIndex : Nat) (callback : Option Nat) (allocated registered : Bool) : Int × State :=
  match callback with
  | none => (INPUT_INVALID_PARAM, s)
  | some callback =>
    if devIndex ≥ MAX_INPUT_DEV_NUM then (INPUT_INVALID_PARAM, s)
    else
      match seek devIndex s.devList with
      | none => (INPUT_FAILURE, s)
      | some (before, pos, behind) =>
        if !allocated then (INPUT_FAILURE, s)
        else if !registered then (INPUT_FAILURE, s)
        else
          (INPUT_SUCCESS, { s with
            devList := before ++ { pos with eventCb := some callback, listener := some s.made } :: behind
            evtCallbackNum := s.evtCallbackNum + 1
            listeners := s.listeners ++ [⟨pos.service, s.made, false⟩]
            made := s.made + 1 })

def unregisterReportCallback (devIndex : Nat) (unregistered : Bool) : Int × State :=
  if devIndex ≥ MAX_INPUT_DEV_NUM then (INPUT_INVALID_PARAM, s)
  else
    match seek devIndex s.devList with
    | none => (INPUT_FAILURE, s)
    | some (before, pos, behind) =>
      if pos.eventCb = none then (INPUT_FAILURE, s)
      else if !unregistered then (INPUT_FAILURE, s)
      else
        (INPUT_SUCCESS, { s with
          devList := before ++ { pos with eventCb := none, listener := none } :: behind
          evtCallbackNum := s.evtCallbackNum - 1
          listeners := s.listeners.filter fun its => ¬ (its.service = pos.service ∧ pos.listener = some its.listener)
          freed := pos.listener.toList ++ s.freed })

def registerHotPlugCallback (callback : Option Nat) (bound allocated registered : Bool) : Int × State :=
  match callback with
  | none => (INPUT_INVALID_PARAM, s)
  | some callback =>
    match s.hostDev.service, bound with
    | none, false => (INPUT_FAILURE, s)
    | service, _ =>
      let service := service.getD s.made
      let s := { s with hostDev.service := some service, made := s.made + 1 }
      if !allocated then (INPUT_FAILURE, s)
      else if !registered then (INPUT_FAILURE, s)
      else
        (INPUT_SUCCESS, { s with
          hostDev.hostCb := some callback
          hostDev.listener := some s.made
          listeners := s.listeners ++ [⟨service, s.made, true⟩]
          made := s.made + 1 })

def unregisterHotPlugCallback : Int × State :=
  (INPUT_SUCCESS, { s with
    hostDev.listener := none
    hostDev.hostCb := none
    freed := s.hostDev.listener.toList ++ s.freed })

/-- A null callback is called, or what was freed is used. -/
def faulty : State := { s with fault := true }

/-- `EventListenerCallback` up to its loop over the devices. -/
def eventListenerCallback (service : Nat) (data : Option (List (Option Buffer))) : State :=
  match data with
  | none => s
  | some data =>
    let devices := view s.devList
    let pos := devices.head?.map Prod.fst
    let next := devices.head?.bind fun first => follower first.1 devices
    { s with dispatches := s.dispatches ++ [⟨service, readPkgs MAX_EVENT_PKG_NUM data, pos, next, []⟩] }

def hotPlugEventListenerCallback (data : Option (List (Option Buffer))) : List (Nat × Option Buffer) × State :=
  match data with
  | some (event :: _) =>
    match s.hostDev.hostCb with
    | none => ([], s.faulty)
    | some callback => ([(callback, event)], s)
  | _ => ([], s)

def receive (its : Listener) (data : Option (List (Option Buffer))) : List (Nat × Option Buffer) × State :=
  if its.listener ∈ s.freed then ([], s.faulty)
  else if its.hotPlug then s.hotPlugEventListenerCallback data
  else ([], s.eventListenerCallback its.service data)

/-- A service has an event, and calls its listeners one after another. -/
def event (service : Nat) (data : Option (List (Option Buffer))) : List (Nat × Option Buffer) × State :=
  (s.listeners.filter (·.service = service)).foldl
    (fun (told, s) its => let (more, s) := receive s its data; (told ++ more, s)) ([], s)

/-- One turn of the loop in `EventListenerCallback` at a device, unless a callback or a node is not there. -/
def visit (d : Dispatch) (node : Nat) : Option Dispatch :=
  match s.devList.find? (·.node = node) with
  | none => none
  | some pos =>
    let next := d.next.bind fun next => follower next (view s.devList)
    if ∀ next, d.next = some next → next ∈ keys (view s.devList) then
      if pos.service = d.service then
        pos.eventCb.map fun callback =>
          { d with pos := d.next, next := next, told := d.told ++ [(callback, d.pkgs, pos.devIndex)] }
      else some { d with pos := d.next, next := next }
    else none

/-- One of the events that are passed to the devices goes on, or is done. -/
def go (k : Nat) : State :=
  match s.dispatches[k]? with
  | none => s
  | some d =>
    match d.pos with
    | none => { s with dispatches := s.dispatches.eraseIdx k }
    | some node =>
      match s.visit d node with
      | none => s.faulty
      | some later => { s with dispatches := s.dispatches.set k later }

end State

inductive Event
  | startOpen (devIndex : Nat)
  | endOpen (devIndex : Nat) (bound allocated : Bool)
  | close (devIndex : Nat)
  | register (devIndex : Nat) (callback : Option Nat) (allocated registered : Bool)
  | unregister (devIndex : Nat) (unregistered : Bool)
  | registerHotPlug (callback : Option Nat) (bound allocated registered : Bool)
  | unregisterHotPlug
  | event (service : Nat) (data : Option (List (Option Buffer)))
  | go (k : Nat)

namespace State

variable (s : State)

def after : Event → State
  | .startOpen devIndex => (s.startOpen devIndex).2
  | .endOpen devIndex bound allocated => (s.endOpen devIndex bound allocated).2
  | .close devIndex => (s.closeInputDevice devIndex).2
  | .register devIndex callback allocated registered => (s.registerReportCallback devIndex callback allocated registered).2
  | .unregister devIndex unregistered => (s.unregisterReportCallback devIndex unregistered).2
  | .registerHotPlug callback bound allocated registered => (s.registerHotPlugCallback callback bound allocated registered).2
  | .unregisterHotPlug => s.unregisterHotPlugCallback.2
  | .event service data => (s.event service data).2
  | .go k => s.go k

def start : State := ⟨[], 0, 0, ⟨none, none, none⟩, [], [], [], [], 0, false⟩

def Called (service : Nat) : Prop :=
  (∃ pos ∈ s.devList, pos.service = service ∧ pos.eventCb ≠ none) ∨
    (s.hostDev.service = some service ∧ s.hostDev.hostCb ≠ none)

/-- What is promised of every state. -/
structure Sound : Prop where
  once : (s.devList.map DeviceInfoNode.devIndex).Nodup
  attached : s.attachedDevNum = s.devList.length
  counted : s.evtCallbackNum = s.devList.countP (·.eventCb.isSome)
  listens : ∀ service, (∃ its ∈ s.listeners, its.service = service) ↔ s.Called service
  single : (s.listeners.map Listener.service).Nodup
  live : ∀ its ∈ s.listeners, its.listener ∉ s.freed
  fine : s.fault = false

/-- An event of a device that has a callback goes to the devices whole, and any other does not. -/
def Begun (service : Nat) (data : List (Option Buffer)) (later : State) : Prop :=
  ((∃ pos ∈ s.devList, pos.service = service ∧ pos.eventCb ≠ none) →
    ∃ pos next, later.dispatches = s.dispatches ++ [⟨service, allPkgs data, pos, next, []⟩]) ∧
  ((∀ pos ∈ s.devList, pos.service = service → pos.eventCb = none) → later.dispatches = s.dispatches)

def Plugged (service : Nat) (event : Option Buffer) : List (Nat × Option Buffer) :=
  if s.hostDev.service = some service then s.hostDev.hostCb.toList.map fun callback => (callback, event) else []

/-- One more call is to the callback that the device of the event has now. -/
def Told (d later : Dispatch) : Prop :=
  later.told = d.told ∨ ∃ pos ∈ s.devList, ∃ callback,
    pos.service = d.service ∧ pos.eventCb = some callback ∧ later.told = d.told ++ [(callback, d.pkgs, pos.devIndex)]

def Done (d : Dispatch) : Prop := d.told.length = 1 ∨ d.told = [] ∧ ∀ pos ∈ s.devList, pos.service ≠ d.service

structure Right (event : Event) : Prop where
  sound : (s.after event).Sound
  begun : ∀ service data, event = .event service (some data) → s.Begun service data (s.after event)
  plugged : ∀ service buffer data, event = .event service (some (buffer :: data)) →
    (s.event service (some (buffer :: data))).1 = s.Plugged service buffer
  told : ∀ k d later, event = .go k → s.dispatches[k]? = some d → (∃ node, d.pos = some node) →
    (s.after event).dispatches[k]? = some later → s.Told d later
  done : ∀ k d, event = .go k → s.dispatches[k]? = some d → d.pos = none → s.Done d

/-- The device that a call finds first has no callback. -/
def Bare (devIndex : Nat) : Prop :=
  ∀ before pos behind, seek devIndex s.devList = some (before, pos, behind) → pos.eventCb = none

def Careful : Event → Prop
  | .startOpen _ => True
  | .endOpen devIndex bound allocated => devIndex ∈ s.opening → bound → allocated → seek devIndex s.devList = none
  | .close devIndex => s.Bare devIndex
  | .register devIndex callback allocated registered => callback ≠ none → allocated → registered → s.Bare devIndex
  | .unregister _ _ => True
  | .registerHotPlug callback bound allocated registered =>
    callback ≠ none → (s.hostDev.service ≠ none ∨ bound) → allocated → registered → s.hostDev.hostCb = none
  | .unregisterHotPlug => s.hostDev.hostCb = none
  | .event service data =>
    ∀ pos ∈ s.devList, pos.service = service → pos.eventCb ≠ none → (allPkgs (data.getD [])).length ≤ MAX_EVENT_PKG_NUM
  | .go k => ∀ d node, s.dispatches[k]? = some d → d.pos = some node →
    (∃ pos ∈ s.devList, pos.node = node ∧ (pos.service = d.service → pos.eventCb ≠ none)) ∧
      ∀ next, d.next = some next → ∃ pos ∈ s.devList, pos.node = next

end State

end Peripheral.Input
