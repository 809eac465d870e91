import Mathlib.Logic.Function.Basic
import Peripheral.Transitions

/-!
The wake lock of the Bluetooth controller, `vendor_interface.cpp`. A call of `SendPacket`
takes the lock of the vendor under a mutex and hands its packet over without the mutex; the
watcher gives the lock back when no call came in since it looked last. The flags belong to
the instance, which `CleanUp` leaves as they are and only `DestroyInstance` makes anew.
-/
namespace Peripheral.Hci.WakeLock
open Peripheral.Transitions Function

/-! ### What a session is to look like -/

/-- What happens in a session. A call of `SendPacket` begins with `send`, when it takes the mutex. -/
inductive Entry
  | send
  | lock
  | unlock
  | handOver
  | timeout
  deriving DecidableEq

structure Monitor where
  held : Bool
  used : Bool
  deriving DecidableEq

namespace Monitor

def start : Monitor := ⟨false, false⟩

/-- Locks and unlocks alternate, packets go while the lock is held, and it is given back when there were none. -/
def Allows (m : Monitor) : Entry → Prop
  | .send | .timeout => True
  | .lock => m.held = false
  | .unlock => m.held = true ∧ m.used = false
  | .handOver => m.held = true

def after (m : Monitor) : Entry → Monitor
  | .send | .handOver => { m with used := true }
  | .lock => { m with held := true }
  | .unlock => { m with held := false }
  | .timeout => { m with used := false }

end Monitor

/-- What happened in a session is what may happen, one after the other. -/
def Orderly (log : List Entry) : Prop := Takes Monitor.after Monitor.Allows Monitor.start log

/-- `VendorInterface`, and which instance it is. A thread of `senders` is between its critical section and the hand-over, with
    the instance it was called on. `log` is of the session that is open or was open last; `broken` says that a
    call went through a null pointer. -/
structure VendorInterface where
  instance_ : Nat
  opened : Bool
  wakeupLock : Bool
  activity : Bool
  senders : Nat → Option Nat
  log : List Entry
  broken : Bool

namespace VendorInterface

def record (s : VendorInterface) (entries : List Entry) : VendorInterface := { s with log := s.log ++ entries }

/-- `Initialize`. -/
def openSession (s : VendorInterface) : VendorInterface := { s with opened := true, log := [] }

/-- The critical section of `SendPacket`. -/
def takeLock (s : VendorInterface) (t : Nat) : VendorInterface :=
  let s := { s with activity := true, senders := update s.senders t (some s.instance_) }
  if !s.wakeupLock then { s with wakeupLock := true }.record [.send, .lock] else s.record [.send]

def sendPacket (s : VendorInterface) (t : Nat) : VendorInterface :=
  if s.opened then s.takeLock t else { s with broken := true }

def handOver (s : VendorInterface) (t called : Nat) : VendorInterface :=
  let s := { s with senders := update s.senders t none }
  if s.opened && s.instance_ = called then s.record [.handOver] else { s with broken := true }

def watcherTimeout (s : VendorInterface) : VendorInterface :=
  let s := if !s.activity && s.wakeupLock then { s with wakeupLock := false }.record [.unlock] else s
  { s with activity := false }.record [.timeout]

def cleanUp (s : VendorInterface) : VendorInterface := { s with opened := false }

def destroyInstance (s : VendorInterface) : VendorInterface :=
  { s with instance_ := s.instance_ + 1, opened := false, wakeupLock := false, activity := false }

inductive Event
  /-- `Initialize` succeeds. -/
  | openSession
  /-- A thread calls `SendPacket` and comes through its critical section. -/
  | send (t : Nat)
  | handOver (t : Nat)
  | timeout
  | cleanUp
  | destroyInstance
  deriving DecidableEq

/-- Between `CleanUp` and `Initialize` the watcher is stopped. -/
def after (s : VendorInterface) : Event → VendorInterface
  | .openSession => if s.opened then s else s.openSession
  | .send t => if s.senders t = none then s.sendPacket t else s
  | .handOver t =>
    match s.senders t with
    | none => s
    | some called => s.handOver t called
  | .timeout => if s.opened then s.watcherTimeout else s
  | .cleanUp => s.cleanUp
  | .destroyInstance => s.destroyInstance

def start : VendorInterface := ⟨0, false, false, false, fun _ => none, [], false⟩

/-- The session is as it is to be, and no call went wrong. -/
def Right (s : VendorInterface) (e : Event) : Prop := Orderly (s.after e).log ∧ (s.after e).broken = false

/-- No call is between its critical section and the hand-over. -/
def Still (s : VendorInterface) : Prop := ∀ t, s.senders t = none

/-- The lock of the session before was given back or went with its instance; packets are sent in a session; and while one
    is on its way there is no timeout and the session does not end. -/
def Careful (s : VendorInterface) : Event → Prop
  | .openSession => s.opened = false → s.wakeupLock = false
  | .send t => s.senders t = none → s.opened = true
  | .handOver _ => True
  | .timeout => s.opened = true → s.Still
  | .cleanUp | .destroyInstance => s.opened = true → s.Still

/-! ### What holds between the steps -/

/-- The flags say what the session does; a packet on its way has the lock and is of this session. -/
structure Good (s : VendorInterface) : Prop where
  orderly : Orderly s.log
  whole : s.broken = false
  held : s.opened = true → (s.log.foldl Monitor.after Monitor.start).held = s.wakeupLock
  used : s.opened = true → (s.log.foldl Monitor.after Monitor.start).used = true → s.activity = true
  sender : ∀ t called, s.senders t = some called →
    s.opened = true ∧ called = s.instance_ ∧ s.wakeupLock = true ∧ s.activity = true

theorem Good.start : Good start := ⟨trivial, rfl, nofun, nofun, nofun⟩

section
variable {s : VendorInterface}

theorem orderly_append {log more : List Entry} : Orderly (log ++ more) ↔
      Orderly log ∧ Takes Monitor.after Monitor.Allows (log.foldl Monitor.after Monitor.start) more :=
  Takes.append

section
variable (good : s.Good)
include good

theorem Good.openSession (careful : s.Careful .openSession) : (s.after .openSession).Good := by
  rw [VendorInterface.after]
  split
  · exact good
  · next closed =>
    have released := careful (by simpa using closed)
    refine ⟨trivial, good.whole, ?_, nofun, ?_⟩
    · intro _
      exact released.symm
    · intro t called sending
      exact absurd (good.sender t called sending).1 closed

theorem Good.send {t : Nat} (careful : s.Careful (.send t)) : (s.after (.send t)).Good := by
  rw [VendorInterface.after]
  split
  · next idle =>
    have opened := careful idle
    rw [sendPacket, if_pos opened, takeLock]
    have sender (t' called : Nat) (sending : update s.senders t (some s.instance_) t' = some called) :
        called = s.instance_ := by
      by_cases same : t' = t
      · subst same
        simpa using sending.symm
      · rw [update_of_ne same] at sending
        exact (good.sender t' called sending).2.1
    cases locked : s.wakeupLock with
    | false =>
      have free := good.held opened
      rw [locked] at free
      refine ⟨?_, good.whole, ?_, fun _ _ => rfl, ?_⟩
      · exact orderly_append.mpr ⟨good.orderly, trivial, free, trivial⟩
      · intro _
        simp [record, Monitor.after]
      · intro t' called sending
        exact ⟨opened, sender t' called sending, rfl, rfl⟩
    | true =>
      have held := good.held opened
      rw [locked] at held
      refine ⟨?_, good.whole, ?_, fun _ _ => rfl, ?_⟩
      · exact orderly_append.mpr ⟨good.orderly, trivial, trivial⟩
      · intro _
        simp [record, Monitor.after, held]
      · intro t' called sending
        exact ⟨opened, sender t' called sending, rfl, rfl⟩
  · exact good

theorem Good.handOver (t : Nat) : (s.after (.handOver t)).Good := by
  rw [VendorInterface.after]
  split
  · exact good
  · next called sending =>
    obtain ⟨opened, rfl, locked, active⟩ := good.sender t called sending
    have held := good.held opened
    rw [locked] at held
    have others (t' called : Nat) (sending : update s.senders t none t' = some called) :
        s.senders t' = some called := by
      by_cases same : t' = t
      · subst same
        simp at sending
      · rwa [update_of_ne same] at sending
    simp only [VendorInterface.handOver, opened, decide_true, Bool.and_self, if_true]
    refine ⟨?_, good.whole, ?_, fun _ _ => active, ?_⟩
    · exact orderly_append.mpr ⟨good.orderly, held, trivial⟩
    · intro _
      simp [record, Monitor.after, locked, held]
    · intro t' called sending
      exact ⟨rfl, (good.sender t' called (others t' called sending)).2⟩

theorem Good.timeout (careful : s.Careful .timeout) : (s.after .timeout).Good := by
  rw [VendorInterface.after]
  split
  · next opened =>
    have still := careful opened
    have held := good.held opened
    have sender (t called : Nat) (sending : s.senders t = some called) : False := by
      rw [still t] at sending
      cases sending
    rw [watcherTimeout]
    split
    · next idle =>
      obtain ⟨quiet, locked⟩ : s.activity = false ∧ s.wakeupLock = true := by simpa using idle
      have unused : (s.log.foldl Monitor.after Monitor.start).used = false := by
        by_contra used
        have active := good.used opened (by simpa using used)
        rw [quiet] at active
        cases active
      rw [locked] at held
      refine ⟨?_, good.whole, ?_, ?_, fun t called sending => (sender t called sending).elim⟩
      · have unlocked : Orderly (s.log ++ [.unlock]) := orderly_append.mpr ⟨good.orderly, ⟨held, unused⟩, trivial⟩
        exact orderly_append.mpr ⟨unlocked, trivial, trivial⟩
      · intro _
        simp [record, Monitor.after]
      · intro _ used
        simp [record, Monitor.after] at used
    · refine ⟨?_, good.whole, ?_, ?_, fun t called sending => (sender t called sending).elim⟩
      · exact orderly_append.mpr ⟨good.orderly, trivial, trivial⟩
      · intro _
        simp [record, Monitor.after, held]
      · intro _ used
        simp [record, Monitor.after] at used
  · exact good

theorem Good.close (careful : s.opened = true → s.Still) : (s.after .cleanUp).Good ∧ (s.after .destroyInstance).Good := by
  have sender (t called : Nat) (sending : s.senders t = some called) : False := by
    have still := careful (good.sender t called sending).1
    rw [still t] at sending
    cases sending
  exact ⟨⟨good.orderly, good.whole, nofun, nofun, fun t called sending => (sender t called sending).elim⟩,
    ⟨good.orderly, good.whole, nofun, nofun, fun t called sending => (sender t called sending).elim⟩⟩

theorem Good.after {e : Event} (careful : s.Careful e) : (s.after e).Good := by
  cases e with
  | openSession => exact good.openSession careful
  | send t => exact good.send careful
  | handOver t => exact good.handOver t
  | timeout => exact good.timeout careful
  | cleanUp => exact (good.close careful).1
  | destroyInstance => exact (good.close careful).2

end

end

/-- In a run whose steps are careful every session is as it is to be. -/
theorem sessions_right (run : List Event) (careful : Takes after Careful start run) : Takes after Right start run :=
  careful.mono (fun _ _ good careful => ⟨⟨(good.after careful).orderly, (good.after careful).whole⟩, good.after careful⟩)
    Good.start

/-- The watcher looks twice while a packet is on its way. -/
def slowSender : List Event := [.openSession, .send 0, .timeout, .timeout, .handOver 0]

theorem slowSender_not_right : ¬ Takes after Right start slowSender := by
  intro right
  have held : false = true := right.2.2.2.2.1.1.2.2.2.2.2.1
  exact absurd held (by decide)

/-- A packet in each of two sessions; the lock of the first one goes with its instance. -/
theorem two_sessions_right : Takes after Right start
    [.openSession, .send 0, .handOver 0, .cleanUp, .destroyInstance, .openSession, .send 1, .handOver 1, .timeout,
      .timeout] := by
  have first (a : Option Nat) (t : Nat) : update (update (fun _ => none) 0 a) 0 none t = none := by
    rw [update_idem, update_apply, ite_self]
  have second (a b : Option Nat) (t : Nat) : update (update (update (update
      (fun _ => none) 0 a) 0 none) 1 b) 1 none t = none := by
    rw [update_idem, update_idem]
    simp [update_apply]
  exact sessions_right _ ⟨fun _ => rfl, fun _ => rfl, trivial, fun _ => first _, nofun, fun _ => rfl, fun _ => rfl,
    trivial, fun _ => second _ _, fun _ => second _ _, trivial⟩

end VendorInterface

end Peripheral.Hci.WakeLock
