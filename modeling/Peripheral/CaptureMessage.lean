import Mathlib.Algebra.Group.Nat.Defs
import Mathlib.Data.List.Nodup
import Mathlib.Data.Set.Basic

/-!
The callbacks of captures, `capture_message.cpp`. Each stream of a capture sends its
own message; the operator keeps the messages in groups and passes a group on when as
many are there as its first message says. Sending and looking for full groups hold one
lock, so they are one step each; between them the handler's thread can be anywhere.
-/
namespace Peripheral.Camera

inductive CaptureMessageType
  | invalid
  | onStarted
  | onError
  | onEnded
  | onShutter
  deriving DecidableEq

/-- `ICaptureMessage`. Nothing reads the round, which tells apart the messages a stream sends for one capture. -/
structure CaptureMessage where
  messageType : CaptureMessageType
  streamId : Int
  captureId : Int
  timestamp : UInt64
  peerMessageCount : UInt32
  round : Nat
  deriving DecidableEq

abbrev MessageGroup := List CaptureMessage

def MessageGroup.full : MessageGroup → Bool
  | [] => false
  | first :: others => (first :: others).length = first.peerMessageCount.toNat

/-- The loop of `SendMessage`: the groups where one took the message, and whether that one is full. -/
def joinGroup (message : CaptureMessage) : List MessageGroup → Option (List MessageGroup × Bool)
  | [] => none
  | [] :: rest => (joinGroup message rest).map fun (groups, full) => ([] :: groups, full)
  | (first :: others) :: rest =>
    if message.timestamp = first.timestamp ∧ message.messageType = first.messageType then
      let group : MessageGroup := first :: others ++ [message]
      some (group :: rest, group.length = first.peerMessageCount.toNat)
    else (joinGroup message rest).map fun (groups, full) => ((first :: others) :: groups, full)

/-- `CaptureMessageOperator`. A type that has no entry in the box has no groups, which the source treats the same. -/
structure CaptureMessageOperator where
  messageBox : CaptureMessageType → List MessageGroup
  wakeup : Bool

namespace CaptureMessageOperator

def sendMessage (o : CaptureMessageOperator) (message : CaptureMessage) : CaptureMessageOperator :=
  let groups := o.messageBox message.messageType
  match joinGroup message groups with
  | some (groups, full) => ⟨Function.update o.messageBox message.messageType groups, o.wakeup || full⟩
  | none => ⟨Function.update o.messageBox message.messageType (groups ++ [[message]]),
      o.wakeup || message.peerMessageCount = 1⟩

def clearFull (groups : List MessageGroup) : List MessageGroup :=
  (groups.map fun group => if group.full then [] else group).filter fun group => !group.isEmpty

end CaptureMessageOperator

/-- In what order the box is walked through, which its hash table decides. -/
structure WalkOrder where
  types : List CaptureMessageType
  once : types.Nodup
  all : ∀ type, type ∈ types

/-- Where the thread that calls `HandleMessage` is: at the wait, before it takes the lock again, or passing groups on. -/
inductive Handler
  | waiting
  | awake
  | operating (messages : List MessageGroup)

def Handler.messages : Handler → List MessageGroup
  | .operating messages => messages
  | _ => []

/-- The operator with its thread, the groups that were passed on, and the messages sent: all, those sent when the thread last
    looked, and those sent when the last call of `HandleMessage` that is over looked. -/
structure Messenger where
  operator : CaptureMessageOperator
  handler : Handler
  operated : List MessageGroup
  sent : List CaptureMessage
  looked : List CaptureMessage
  handled : List CaptureMessage

inductive MessengerStep
  | sendMessage (message : CaptureMessage)
  | handleMessage (order : WalkOrder)

def sentBy (steps : List MessengerStep) : List CaptureMessage :=
  steps.filterMap fun
    | .sendMessage message => some message
    | .handleMessage _ => none

namespace Messenger

def start : Messenger := ⟨⟨fun _ => [], false⟩, .waiting, [], [], [], []⟩

/-- The thread goes on by one part of `HandleMessage`. -/
def handleMessage (s : Messenger) (order : WalkOrder) : Messenger :=
  match s.handler with
  | .waiting =>
    if s.operator.wakeup then { s with operator := { s.operator with wakeup := false }, handler := .awake } else s
  | .awake =>
    let full := order.types.flatMap fun type => (s.operator.messageBox type).filter MessageGroup.full
    let box := fun type => CaptureMessageOperator.clearFull (s.operator.messageBox type)
    { s with operator := { s.operator with messageBox := box }, handler := .operating full, looked := s.sent }
  | .operating [] => { s with handler := .waiting, handled := s.looked }
  | .operating (group :: groups) => { s with handler := .operating groups, operated := s.operated ++ [group] }

def step (s : Messenger) : MessengerStep → Messenger
  | .sendMessage message => { s with operator := s.operator.sendMessage message, sent := s.sent ++ [message] }
  | .handleMessage order => s.handleMessage order

def run (s : Messenger) (steps : List MessengerStep) : Messenger := steps.foldl step s

end Messenger

structure Round where
  captureId : Int
  messageType : CaptureMessageType
  round : Nat
  timestamp : UInt64
  owners : List Int
  distinct : owners.Nodup
  owned : owners ≠ []
  counted : owners.length < 2 ^ 32

namespace Round

def message (r : Round) (streamId : Int) : CaptureMessage :=
  ⟨r.messageType, streamId, r.captureId, r.timestamp, UInt32.ofNat r.owners.length, r.round⟩

def messages (r : Round) : List CaptureMessage := r.owners.map r.message

end Round

structure Captures where
  rounds : Set Round
  distinct : ∀ r ∈ rounds, ∀ r' ∈ rounds, r.captureId = r'.captureId → r.messageType = r'.messageType →
    r.round = r'.round → r = r'

namespace Captures

structure Sends (c : Captures) (sent : List CaptureMessage) : Prop where
  once : sent.Nodup
  own : ∀ message ∈ sent, ∃ r ∈ c.rounds, message ∈ r.messages

def TimesDiffer (c : Captures) : Prop :=
  ∀ r ∈ c.rounds, ∀ r' ∈ c.rounds, r.messageType = r'.messageType → r.timestamp = r'.timestamp → r = r'

end Captures

/-- All messages of the round were sent and `HandleMessage` has run: a call that looked later is over, or the thread waits
    and nothing wakes it. -/
def Handled (s : Messenger) (r : Round) : Prop :=
  (∀ message ∈ r.messages, message ∈ s.handled) ∨
    (s.handler = .waiting ∧ s.operator.wakeup = false ∧ ∀ message ∈ r.messages, message ∈ s.sent)

/-- Every group that was passed on is one round; the messages of a round that was handled were passed on once and are not in
    the box, and the box is empty when all rounds were handled. -/
structure Grouped (c : Captures) (s : Messenger) : Prop where
  whole : ∀ group ∈ s.operated, ∃ r ∈ c.rounds, group.Perm r.messages
  delivered : ∀ r ∈ c.rounds, Handled s r → ∀ message ∈ r.messages, s.operated.flatten.count message = 1
  gone : ∀ r ∈ c.rounds, Handled s r → ∀ message ∈ r.messages, ∀ type, ∀ group ∈ s.operator.messageBox type, message ∉ group
  emptied : (∀ r ∈ c.rounds, (∃ message ∈ r.messages, message ∈ s.sent) → Handled s r) →
    ∀ type, s.operator.messageBox type = []

end Peripheral.Camera
