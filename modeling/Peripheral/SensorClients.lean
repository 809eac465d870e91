import Mathlib.Data.List.Nodup
import Peripheral.Transitions

/-!
The clients of the sensor service, from `sensor_impl.cpp`: the callbacks of each group of sensors,
the recipients of their deaths, and the callbacks that the HAL has. A function runs under one lock.
-/
namespace Peripheral.Sensor
open Transitions
open Function (update)

def SENSOR_SUCCESS : Int := 0
def SENSOR_FAILURE : Int := -1
def SENSOR_INVALID_PARAM : Int := -3
def HDF_FAILURE : Int := -1
def TRADITIONAL_SENSOR_TYPE : Int := 0
def MEDICAL_SENSOR_TYPE : Int := 1

structure SensorEvents where
  sensorId : Int
  version : Int
  timestamp : Int
  option : Nat
  mode : Int
  dataLen : Nat
  data : Option (List UInt8)

structure HdfSensorEvents where
  sensorId : Int
  version : Int
  timestamp : Int
  option : Nat
  mode : Int
  dataLen : Nat
  data : List UInt8
  deriving DecidableEq

/-- Clients are known by their remote objects. What is attached to these, and what the HAL has, is not
in the service. -/
structure State where
  sensorInterface : Bool
  groupIdCallBackMap : Int → Option (List Nat)
  callBackDeathRecipientMap : Nat → Option Nat
  hal : Int → Bool
  attached : Nat → List Nat
  made : Nat

structure Outcome where
  added : Bool
  hal : Int
  removed : Bool

namespace State

variable (s : State)

def clients (groupId : Int) : List Nat := (s.groupIdCallBackMap groupId).getD []

/-- `AddSensorDeathRecipient`, where the recipient is added. -/
def addSensorDeathRecipient (c : Nat) : State :=
  { s with
    callBackDeathRecipientMap := update s.callBackDeathRecipientMap c (some s.made)
    attached := update s.attached c (s.attached c ++ [s.made])
    made := s.made + 1 }

def removeSensorDeathRecipient (c : Nat) (removed : Bool) : State :=
  match s.callBackDeathRecipientMap c with
  | none => s
  | some recipient =>
    { s with
      callBackDeathRecipientMap := update s.callBackDeathRecipientMap c none
      attached := if removed then update s.attached c ((s.attached c).erase recipient) else s.attached }

def setGroup (groupId : Int) (clients : Option (List Nat)) : State :=
  { s with groupIdCallBackMap := update s.groupIdCallBackMap groupId clients }

def setHal (groupId : Int) (registered : Bool) : State := { s with hal := update s.hal groupId registered }

def register (groupId : Int) (c : Nat) (o : Outcome) : Int × State :=
  if !s.sensorInterface then (HDF_FAILURE, s)
  else if groupId < TRADITIONAL_SENSOR_TYPE ∨ groupId > MEDICAL_SENSOR_TYPE then (SENSOR_INVALID_PARAM, s)
  else
    match s.groupIdCallBackMap groupId with
    | some callbacks =>
      if c ∈ callbacks then (SENSOR_SUCCESS, s)
      else if !o.added then (HDF_FAILURE, s)
      else (SENSOR_SUCCESS, (s.addSensorDeathRecipient c).setGroup groupId (some (callbacks ++ [c])))
    | none =>
      if !o.added then (HDF_FAILURE, s)
      else if o.hal ≠ SENSOR_SUCCESS then (o.hal, (s.addSensorDeathRecipient c).removeSensorDeathRecipient c o.removed)
      else (o.hal, ((s.addSensorDeathRecipient c).setHal groupId true).setGroup groupId (some [c]))

/-- Also `Unregister`, which takes the lock for it. -/
def unregisterImpl (groupId : Int) (c : Nat) (o : Outcome) : Int × State :=
  if !s.sensorInterface then (HDF_FAILURE, s)
  else if groupId < TRADITIONAL_SENSOR_TYPE ∨ groupId > MEDICAL_SENSOR_TYPE then (SENSOR_INVALID_PARAM, s)
  else
    match s.groupIdCallBackMap groupId with
    | none => (HDF_FAILURE, s)
    | some callbacks =>
      if c ∉ callbacks then (HDF_FAILURE, s)
      else if callbacks.length > 1 then
        (SENSOR_SUCCESS, (s.removeSensorDeathRecipient c o.removed).setGroup groupId (some (callbacks.erase c)))
      else if o.hal ≠ SENSOR_SUCCESS then (o.hal, s)
      else (o.hal, ((s.setHal groupId false).removeSensorDeathRecipient c o.removed).setGroup groupId none)

/-- What `OnRemoteDied` does for one group. -/
def leaveGroup (groupId : Int) (c : Nat) (o : Outcome) : State :=
  if c ∈ s.clients groupId then (s.unregisterImpl groupId c o).2 else s

def onRemoteDied (c : Nat) (promote : Bool) (traditional medical : Outcome) : State :=
  if promote then (s.leaveGroup TRADITIONAL_SENSOR_TYPE c traditional).leaveGroup MEDICAL_SENSOR_TYPE c medical else s

/-- The callback of the HAL for a group: what it returns, and who is told what. -/
def dataCallback (groupId : Int) (event : Option SensorEvents) : Int × List (Nat × HdfSensorEvents) :=
  match event with
  | some ⟨sensorId, version, timestamp, option, mode, dataLen, some data⟩ =>
    (SENSOR_SUCCESS, (s.clients groupId).map fun c => (c, ⟨sensorId, version, timestamp, option, mode, dataLen,
      data.take dataLen⟩))
  | _ => (SENSOR_FAILURE, [])

def traditionalSensorDataCallback := s.dataCallback TRADITIONAL_SENSOR_TYPE
def medicalSensorDataCallback := s.dataCallback MEDICAL_SENSOR_TYPE

end State

inductive Event
  | register (groupId : Int) (c : Nat) (o : Outcome)
  | unregister (groupId : Int) (c : Nat) (o : Outcome)
  | died (c : Nat) (promote : Bool) (traditional medical : Outcome)
  | data (medical : Bool) (event : Option SensorEvents)

namespace State

variable (s : State)

def next : Event → Option Int × State
  | .register groupId c o => let (ret, later) := s.register groupId c o; (some ret, later)
  | .unregister groupId c o => let (ret, later) := s.unregisterImpl groupId c o; (some ret, later)
  | .died c promote traditional medical =>
    match s.attached c with
    | [] => (none, s)
    | _ :: rest =>
      (none, { s with attached := update s.attached c rest }.onRemoteDied c promote traditional medical)
  | .data .. => (none, s)

def after (event : Event) : State := (s.next event).2

/-- Who is told what at an event of a group. The HAL calls only what is registered. -/
def told (medical : Bool) (event : Option SensorEvents) : List (Nat × HdfSensorEvents) :=
  if medical then (if s.hal MEDICAL_SENSOR_TYPE then (s.medicalSensorDataCallback event).2 else [])
  else if s.hal TRADITIONAL_SENSOR_TYPE then (s.traditionalSensorDataCallback event).2 else []

def start (sensorInterface : Bool) : State := ⟨sensorInterface, fun _ => none, fun _ => none, fun _ => false, fun _ => [], 0⟩

/-- A client of some group has one recipient, which is remembered, and any other has none. -/
def Held (c : Nat) : Prop :=
  ((∃ groupId, c ∈ s.clients groupId) ∧
      ∃ recipient, s.attached c = [recipient] ∧ s.callBackDeathRecipientMap c = some recipient) ∨
    ((∀ groupId, c ∉ s.clients groupId) ∧ s.attached c = [] ∧ s.callBackDeathRecipientMap c = none)

/-- What is promised of every state. -/
structure Sound : Prop where
  hal : ∀ groupId, s.hal groupId = true ↔ s.clients groupId ≠ []
  once : ∀ groupId, (s.clients groupId).Nodup
  recipients : ∀ c, s.Held c

structure Same (later : State) : Prop where
  groups : later.groupIdCallBackMap = s.groupIdCallBackMap
  recipients : later.callBackDeathRecipientMap = s.callBackDeathRecipientMap
  hal : later.hal = s.hal
  attached : later.attached = s.attached

/-- The clients of a group are told the event once, and nobody else is. -/
def Delivered (medical : Bool) (event : SensorEvents) (data : List UInt8) : Prop :=
  let payload : HdfSensorEvents :=
    ⟨event.sensorId, event.version, event.timestamp, event.option, event.mode, event.dataLen, data.take event.dataLen⟩
  ∀ c told, (s.told medical (some event)).count (c, told) =
    if told = payload ∧ c ∈ s.clients (if medical then MEDICAL_SENSOR_TYPE else TRADITIONAL_SENSOR_TYPE) then 1 else 0

structure Right (event : Event) : Prop where
  sound : (s.after event).Sound
  unchanged : ∀ ret, (s.next event).1 = some ret → ret ≠ SENSOR_SUCCESS → s.Same (s.after event)
  delivered : ∀ medical e data, event = .data medical (some e) → e.data = some data → s.Delivered medical e data

/-- A group that there is, of an interface that there is. -/
def Accepts (groupId : Int) : Prop :=
  s.sensorInterface = true ∧ (groupId = TRADITIONAL_SENSOR_TYPE ∨ groupId = MEDICAL_SENSOR_TYPE)

/-- A client leaves a group, unless it is the last one and the HAL refuses. -/
def Leaves (groupId : Int) (c : Nat) (o : Outcome) : Prop :=
  c ∈ s.clients groupId ∧ ((s.clients groupId).length > 1 ∨ o.hal = SENSOR_SUCCESS)

def Careful : Event → Prop
  | .register groupId c o => s.Accepts groupId → c ∉ s.clients groupId → o.added →
    (∀ other, c ∉ s.clients other) ∧ (s.groupIdCallBackMap groupId = none → o.hal ≠ SENSOR_SUCCESS → o.removed)
  | .unregister groupId c o => s.Accepts groupId → s.Leaves groupId c o →
    (∀ other, other ≠ groupId → c ∉ s.clients other) ∧ o.removed
  | .died c promote traditional medical => s.attached c ≠ [] →
    promote ∧ (c ∈ s.clients TRADITIONAL_SENSOR_TYPE → s.Leaves TRADITIONAL_SENSOR_TYPE c traditional) ∧
      (c ∈ s.clients MEDICAL_SENSOR_TYPE → s.Leaves MEDICAL_SENSOR_TYPE c medical)
  | .data .. => True

end State

end Peripheral.Sensor
