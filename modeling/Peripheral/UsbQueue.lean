import Mathlib.Logic.Function.Basic
import Peripheral.Transitions

/-!
The asynchronous requests of a USB device in the service, from `usbd_dispatcher.c`: commands of
any clients that run at once, and the transfers that end meanwhile. A command goes on from one
lock to the next in one step, and steps of different commands follow each other in any order.
-/
namespace Peripheral.UsbQueue
open Transitions

def MAX_REQUESTASYNC_NUM := 20

/-- An interface and the address of a pipe with its direction. -/
structure Endpoint where
  interfaceId : UInt8
  pipeAddr : UInt8
  deriving DecidableEq

inductive UsbRequestStatus
  | COMPLETED
  | COMPLETED_SHORT
  | ERROR
  | TIMEOUT
  | CANCELLED
  | STALL
  | NO_DEVICE
  | OVERFLOW

def UsbRequestStatus.code : UsbRequestStatus → Int32
  | .COMPLETED => 0
  | .COMPLETED_SHORT => 1
  | .ERROR => 2
  | .TIMEOUT => 3
  | .CANCELLED => 4
  | .STALL => 5
  | .NO_DEVICE => 6
  | .OVERFLOW => 7

structure CompInfo where
  status : UsbRequestStatus
  buffer : List UInt8

def CompInfo.zero : CompInfo := ⟨.COMPLETED, []⟩

structure UsbdRequestASync where
  pipe : Endpoint
  status : Bool
  clientData : Option (List UInt8)
  compInfo : CompInfo

/-- A request in the queue. The numbers of its transfer and of its place are not in the code. -/
structure Entry where
  slot : Nat
  ticket : Nat
  place : Nat
  deriving DecidableEq

inductive Pc
  | idle
  /-- `UsbdFindRequestASync` -/
  | find (e : Endpoint) (clientData : List UInt8)
  | insert (e : Endpoint) (clientData : List UInt8)
  | mark (slot : Nat) (clientData : List UInt8)
  /-- `FunRequestQueueFillAndSubmit` -/
  | submit (slot : Nat) (clientData : List UInt8)
  | append (slot ticket : Nat)
  | reset (slot : Nat)
  /-- `FunRequestWait`, with `GetRequestMsgFromQueue` and `GetRequestMsgData` -/
  | pop
  | take (slot ticket place : Nat)
  | reply (slot ticket place : Nat)
  /-- `FunRequestCancel` -/
  | popAll (e : Endpoint)
  | cancel (slot : Nat) (e : Endpoint)
  /-- `FunSetInterface` -/
  | release
  /-- `ReOpenDevice` -/
  | close
  | renew
  deriving DecidableEq

inductive Command
  | requestQueue (e : Endpoint) (clientData : List UInt8)
  | requestWait
  | requestCancel (e : Endpoint)
  | setInterface (selected : Bool)
  | setActiveConfig (reopens : Bool)

structure Outcome where
  created : Bool
  fill : Int32
  submit : Int32
  semWait : Int32
  semWaitAgain : Int32
  cancelled : Bool
  init : Bool

inductive Event
  | begin (t : Nat) (c : Command)
  | step (t : Nat) (o : Outcome)
  | complete (slot ticket : Nat) (status : UsbRequestStatus) (bytes rest : List UInt8)

def Event.client : Event → Option Nat
  | .begin t _ | .step t _ => some t
  | .complete .. => none

/-- What a transfer was asked for. -/
structure Asked where
  slot : Nat
  clientData : List UInt8

structure Report where
  ticket : Nat
  place : Nat
  clientData : List UInt8
  bytes : List UInt8

structure State where
  mem : Nat → Option UsbdRequestASync
  reqASyncList : List Nat
  requestQueue : List Entry
  initFlag : Bool
  made : Nat
  threads : Nat → Pc
  flights : List (Nat × Nat)
  /-- What was asked for and what has ended, by the number of the transfer, and what was reported. -/
  tickets : Nat
  places : Nat
  asked : Nat → Asked
  moved : Nat → Option (List UInt8 × List UInt8)
  reports : List Report

inductive Found
  | free (slot : Nat)
  | room
  | full

def scan (mem : Nat → Option UsbdRequestASync) (e : Endpoint) : (reqnum : UInt8) → List Nat → Option Found
  | reqnum, [] => some (if reqnum.toNat < MAX_REQUESTASYNC_NUM then .room else .full)
  | reqnum, a :: rest =>
    match mem a with
    | none => none
    | some req =>
      if req.pipe = e then (if req.status then scan mem e (reqnum + 1) rest else some (.free a)) else scan mem e reqnum rest

namespace State

variable (s : State)

def goto (t : Nat) (pc : Pc) : State := { s with threads := Function.update s.threads t pc }

def put (a : Nat) (slot : UsbdRequestASync) : State := { s with mem := Function.update s.mem a (some slot) }

/-- `UsbdRequestASyncReleaseList`. The queue is left as it is. -/
def releaseList : State :=
  { s with mem := fun a => if a ∈ s.reqASyncList then none else s.mem a, reqASyncList := [] }

def micro (t : Nat) (o : Outcome) : Pc → Option State
  | .idle => some s
  | .find e clientData => (scan s.mem e 0 s.reqASyncList).map fun
    | .free a => s.goto t (.mark a clientData)
    | .room => s.goto t (.insert e clientData)
    | .full => s.goto t .idle
  | .insert e clientData =>
    if o.created then
      some { (s.put s.made ⟨e, false, none, .zero⟩).goto t (.mark s.made clientData) with
        reqASyncList := s.reqASyncList ++ [s.made]
        made := s.made + 1 }
    else some (s.goto t .idle)
  | .mark a clientData => (s.mem a).map fun slot => (s.put a { slot with status := true }).goto t (.submit a clientData)
  | .submit a clientData => (s.mem a).map fun slot =>
    if o.fill ≠ 0 then (s.put a { slot with clientData := some clientData }).goto t (.reset a)
    else if o.submit ≠ 0 then (s.put a { slot with clientData := some clientData, compInfo := .zero }).goto t (.reset a)
    else
      { (s.put a { slot with clientData := some clientData, compInfo := .zero }).goto t (.append a s.tickets) with
        flights := s.flights ++ [(a, s.tickets)]
        tickets := s.tickets + 1
        asked := Function.update s.asked s.tickets ⟨a, clientData⟩
        moved := Function.update s.moved s.tickets none }
  | .append a ticket => (s.mem a).map fun _ =>
    { s.goto t .idle with requestQueue := s.requestQueue ++ [⟨a, ticket, s.places⟩], places := s.places + 1 }
  | .reset a => (s.mem a).map fun slot => (s.put a { slot with clientData := none, status := false }).goto t .idle
  | .pop =>
    match s.requestQueue with
    | [] => some (s.goto t .idle)
    | entry :: rest => (s.mem entry.slot).map fun _ =>
      { s.goto t (.take entry.slot entry.ticket entry.place) with requestQueue := rest }
  | .take a ticket place => (s.mem a).map fun slot =>
    if slot.compInfo.status.code = -1 ∧ (o.semWait ≠ 0 ∨ o.semWaitAgain ≠ 0) then
      { s.goto t .idle with requestQueue := ⟨a, ticket, place⟩ :: s.requestQueue }
    else (s.put a { slot with status := false }).goto t (.reply a ticket place)
  -- The slot is free already, but the reply is written from it.
  | .reply a ticket place => (s.mem a).map fun slot =>
    { (s.put a { slot with clientData := none, status := false }).goto t .idle with
      reports := s.reports ++ [⟨ticket, place, slot.clientData.getD [], slot.compInfo.buffer⟩] }
  -- Whatever the endpoint is, all requests are taken out.
  | .popAll e =>
    match s.requestQueue with
    | [] => some (s.goto t .idle)
    | entry :: rest => (s.mem entry.slot).map fun _ => { s.goto t (.cancel entry.slot e) with requestQueue := rest }
  | .cancel a e => (s.mem a).map fun slot =>
    (s.put a { slot with
      clientData := none
      status := false
      compInfo := if o.cancelled then { slot.compInfo with status := .CANCELLED } else slot.compInfo }).goto t (.popAll e)
  | .release => some (s.releaseList.goto t .idle)
  | .close => some { s.releaseList.goto t .renew with initFlag := false }
  | .renew => some { s.goto t .idle with requestQueue := [], reqASyncList := [], initFlag := o.init }

/-- A transfer has ended with these bytes; what is behind them in the buffer was there before. -/
def ended (a ticket : Nat) (slot : UsbdRequestASync) (status : UsbRequestStatus) (bytes rest : List UInt8) : State :=
  { s.put a { slot with compInfo := ⟨status, bytes ++ rest⟩ } with
    flights := s.flights.filter (· ≠ (a, ticket))
    moved := Function.update s.moved ticket (some (bytes, rest)) }

def start : Command → Pc
  | .requestQueue e clientData => .find e clientData
  | .requestWait => .pop
  | .requestCancel e => .popAll e
  | .setInterface selected => if selected then .release else .idle
  | .setActiveConfig reopens => if reopens then .close else .idle

def next : Event → Option State
  | .begin t c => some (if s.threads t = .idle ∧ s.initFlag then s.goto t (start c) else s)
  | .step t o => s.micro t o (s.threads t)
  | .complete a ticket status bytes rest =>
    if (a, ticket) ∈ s.flights then (s.mem a).map fun slot => s.ended a ticket slot status bytes rest else some s

/-- Nothing is said of what follows where the code has gone wrong. -/
def after (e : Event) : State := (s.next e).getD s

end State

def Pc.slot : Pc → Option Nat
  | .mark a _ | .submit a _ | .append a _ | .reset a | .take a _ _ | .reply a _ _ | .cancel a _ => some a
  | _ => none

def Pc.held : Pc → Option Nat
  | .submit a _ | .append a _ | .reset a | .take a _ _ | .reply a _ _ | .cancel a _ => some a
  | _ => none

def Pc.handed : Pc → Option (Nat × Nat)
  | .take a _ place | .reply a _ place => some (a, place)
  | _ => none

namespace State

variable (s : State)

def count (e : Endpoint) : Nat := (s.reqASyncList.filter fun a => (s.mem a).map (·.pipe) = some e).length

structure Sound : Prop where
  live : ∀ entry ∈ s.requestQueue, (s.mem entry.slot).isSome
  once : (s.requestQueue.map (·.slot)).Nodup
  waiters : ∀ t u a place place', (s.threads t).handed = some (a, place) → (s.threads u).handed = some (a, place') → t = u
  bound : ∀ e (slots : List Nat), slots.Nodup → (∀ a ∈ slots, (s.mem a).map (·.pipe) = some e) →
    slots.length ≤ MAX_REQUESTASYNC_NUM
  order : s.reports.Pairwise fun r r' => r.place < r'.place
  data : ∀ r ∈ s.reports, r.clientData = (s.asked r.ticket).clientData ∧ ∃ rest, s.moved r.ticket = some (r.bytes, rest)

/-- What is promised of a step: the state after it, and that a cancellation takes out all requests
of its endpoint and no others. -/
def Right (event : Event) : Prop :=
  ∃ later, s.next event = some later ∧ later.Sound ∧ ∀ t o e, event = .step t o → s.threads t = .popAll e →
    (∀ entry ∈ s.requestQueue, entry ∉ later.requestQueue → (s.mem entry.slot).map (·.pipe) = some e) ∧
      (later.threads t = .idle → ∀ entry ∈ later.requestQueue, (later.mem entry.slot).map (·.pipe) ≠ some e)

def Careful : Event → Prop
  | .step t o =>
    match s.threads t with
    | .insert e _ => o.created → s.count e < MAX_REQUESTASYNC_NUM
    | .mark a _ =>
      (∀ slot, s.mem a = some slot → slot.status = false) ∧ ∀ u ticket place, s.threads u ≠ .reply a ticket place
    | .submit a _ => o.fill = 0 → o.submit = 0 → ∀ ticket, (a, ticket) ∉ s.flights
    | .reply _ ticket place => (∃ bytes, s.moved ticket = some (bytes, [])) ∧
      ∀ u a' place', u ≠ t → (s.threads u).handed = some (a', place') → place < place'
    | .popAll e => ∀ entry ∈ s.requestQueue.head?, (s.mem entry.slot).map (·.pipe) = some e
    | .release => s.requestQueue = [] ∧ s.flights = [] ∧ ∀ u, u ≠ t → (s.threads u).slot = none
    | .close => s.requestQueue = [] ∧ s.flights = [] ∧ ∀ u, u ≠ t → s.threads u = .idle
    | _ => True
  | _ => True

def opened : State := ⟨fun _ => none, [], [], true, 0, fun _ => .idle, [], 0, 0, fun _ => ⟨0, []⟩, fun _ => none, []⟩

end State

end Peripheral.UsbQueue
