import Peripheral.MetadataOps
import Peripheral.Transitions
import Peripheral.UsbSerial

/-!
The notifications of the serial gadget, `cdcacm.c`. A call reads and writes the state word
without a lock and then, under the lock, sends it with the one request there is or leaves
`pending` behind for the completion of that request. What runs under the lock is cut
where the request is submitted, since the word may be written meanwhile.
-/
namespace Peripheral.Acm
open Peripheral.Transitions
open Peripheral.UsbSerial (RequestStatus)

def serialStateDcd : UInt16 := 0x1
def serialStateDsr : UInt16 := 0x2
def serialStateBreak : UInt16 := 0x4
def usbDdkCdcNotifySerialState : UInt8 := 0x20
/-- `USB_DDK_DIR_IN | USB_DDK_TYPE_CLASS | USB_DDK_RECIP_INTERFACE`. -/
def notifyRequestType : UInt8 := 0x80 ||| 0x20 ||| 0x01

/-- `UsbCdcNotification`, with the state word that follows it. -/
structure CdcNotification where
  bmRequestType : UInt8
  bNotificationType : UInt8
  wValue : UInt16
  wIndex : UInt16
  wLength : UInt16
  serialState : UInt16
  deriving DecidableEq

/-- The methods of `g_acmNotifyMethod`. -/
inductive NotifyMethod
  | connect
  | disconnect
  | sendBreak (duration : Int32)
  deriving DecidableEq

def NotifyMethod.state : NotifyMethod → UInt16 → UInt16
  | .connect, state => state ||| (serialStateDsr ||| serialStateDcd)
  | .disconnect, state => state &&& ~~~(serialStateDsr ||| serialStateDcd)
  | .sendBreak duration, state =>
    let state := state &&& ~~~serialStateBreak
    if duration ≠ 0 then state ||| serialStateBreak else state

inductive NotifyPc
  | idle
  | read (method : NotifyMethod) (state : UInt16)
  /-- Before `AcmNotifySerialState`. -/
  | notify
  /-- In `AcmSendNotifyRequest`, with the lock and the request. -/
  | submit (notification : CdcNotification)
  deriving DecidableEq

/-- What `UsbAcmDevice` has for notifications, the last one that was submitted, and where the threads are. -/
structure Notifier where
  index : UInt16
  notifyReq : Bool
  pending : Bool
  serialState : UInt16
  lock : Bool
  inFlight : Bool
  submitted : Option CdcNotification
  threads : Nat → NotifyPc

namespace Notifier

def goto (s : Notifier) (t : Nat) (pc : NotifyPc) : Notifier := { s with threads := Function.update s.threads t pc }

/-- What `AcmSendNotifyRequest` puts into the request; nothing if it cannot be copied. -/
def acmSendNotifyRequest (s : Notifier) (type : UInt8) (value : UInt16) (data : UInt16) : Option CdcNotification :=
  let length := 2
  if Metadata.securecOk length length then some ⟨notifyRequestType, type, value, s.index, UInt16.ofNat length, data⟩ else none

/-- `AcmNotifySerialState` up to the submission. -/
def acmNotifySerialState (s : Notifier) (t : Nat) : Notifier :=
  if s.lock then s
  else if s.notifyReq then
    let s := { s with notifyReq := false, pending := false }
    match s.acmSendNotifyRequest usbDdkCdcNotifySerialState 0 s.serialState with
    | some notification => { s with lock := true }.goto t (.submit notification)
    | none => s.goto t .idle
  else { s with pending := true }.goto t .idle

def submit (s : Notifier) (t : Nat) (notification : CdcNotification) (accepted : Bool) : Notifier :=
  if accepted then { s with lock := false, inFlight := true, submitted := some notification }.goto t .idle
  else { s with lock := false, notifyReq := true }.goto t .idle

/-- `AcmNotifyComplete` up to its call of `AcmNotifySerialState`. -/
def acmNotifyComplete (s : Notifier) (t : Nat) (status : RequestStatus) : Notifier :=
  let pending := status = .completed && s.pending
  { s with notifyReq := true, inFlight := false }.goto t (if pending then .notify else .idle)

inductive NotifyEvent
  | begin (t : Nat) (method : NotifyMethod)
  | step (t : Nat) (accepted : Bool)
  | complete (t : Nat) (status : RequestStatus)

/-- A thread that waits for the lock stays where it is. -/
def after (s : Notifier) : NotifyEvent → Notifier
  | .begin t method => if s.threads t = .idle then s.goto t (.read method s.serialState) else s
  | .step t accepted =>
    match s.threads t with
    | .idle => s
    | .read method state => { s with serialState := method.state state }.goto t .notify
    | .notify => s.acmNotifySerialState t
    | .submit notification => s.submit t notification accepted
  | .complete t status =>
    if s.inFlight && !s.lock && s.threads t = .idle then s.acmNotifyComplete t status else s

/-- The device as `AcmDriverBind` and `AcmAllocNotifyRequest` make it. -/
def start (index : UInt16) : Notifier := ⟨index, true, false, 0, false, false, none, fun _ => .idle⟩

/-- The state in the last notification that was submitted, and before the first one the state of a new device. -/
def carried (s : Notifier) : UInt16 := (s.submitted.map CdcNotification.serialState).getD 0

def Notifying (s : Notifier) : Prop := ∃ t, s.threads t = .notify

/-- When the request is there and nothing is pending, and no thread has yet to notify, the host was told the state. -/
def Told (s : Notifier) : Prop :=
  s.notifyReq = true → s.pending = false → ¬ s.Notifying → s.carried = s.serialState

def Right (s : Notifier) (e : NotifyEvent) : Prop := (s.after e).Told

/-- A submission that is refused was of the state that was submitted last, or another thread is to notify. -/
def Careful (s : Notifier) : NotifyEvent → Prop
  | .begin .. | .complete .. => True
  | .step t accepted =>
    match s.threads t with
    | .submit notification => accepted = true ∨ notification.serialState = s.carried ∨ s.Notifying
    | .idle | .read .. | .notify => True

/-! ### What holds between the steps -/

/-- Only the thread in `AcmSendNotifyRequest` has the lock, and the state that is not told is on its way. -/
structure Good (s : Notifier) : Prop where
  owner : ∀ t n, s.threads t = .submit n → s.lock = true ∧ (n.serialState = s.serialState ∨ s.Notifying)
  single : ∀ t u n m, s.threads t = .submit n → s.threads u = .submit m → t = u
  locked : s.lock = true → s.notifyReq = false ∧ s.pending = false
  free : s.lock = false → s.carried = s.serialState ∨ s.pending = true ∨ s.Notifying

variable {s : Notifier} {t u : Nat}

@[simp] theorem goto_self (s : Notifier) (t : Nat) (pc : NotifyPc) : (s.goto t pc).threads t = pc := by simp [goto]

@[simp] theorem goto_other (differs : u ≠ t) (s : Notifier) (pc : NotifyPc) : (s.goto t pc).threads u = s.threads u := by
  simp [goto, differs]

theorem notifying_goto (s : Notifier) (t : Nat) : (s.goto t .notify).Notifying := ⟨t, goto_self s t .notify⟩

theorem Notifying.goto (notifying : s.Notifying) (other : s.threads t ≠ .notify) (pc : NotifyPc) : (s.goto t pc).Notifying := by
  obtain ⟨u, there⟩ := notifying
  have differs : u ≠ t := by
    rintro rfl
    exact other there
  exact ⟨u, (goto_other differs s pc).trans there⟩

variable {n : CdcNotification}

theorem submit_of_goto {pc : NotifyPc} (elsewhere : ∀ m, pc ≠ .submit m)
    (there : (s.goto t pc).threads u = .submit n) : u ≠ t ∧ s.threads u = .submit n := by
  have differs : u ≠ t := by
    rintro rfl
    rw [goto_self] at there
    exact elsewhere n there
  exact ⟨differs, (goto_other differs s pc).symm.trans there⟩

theorem Good.told (good : s.Good) : s.Told := by
  intro ready settled quiet
  have free : s.lock = false := by
    by_contra held
    have taken := (good.locked (by simpa using held)).1
    rw [ready] at taken
    cases taken
  rcases good.free free with told | pending | notifying
  · exact told
  · rw [settled] at pending
    cases pending
  · exact absurd notifying quiet

theorem Good.begin (good : s.Good) (idle : s.threads t = .idle) (method : NotifyMethod) (state : UInt16) :
    (s.goto t (.read method state)).Good where
  owner u n there := by
    obtain ⟨_, before⟩ := submit_of_goto (fun _ => by simp) there
    obtain ⟨held, carries⟩ := good.owner u n before
    exact ⟨held, carries.imp_right fun notifying => notifying.goto (by simp [idle]) _⟩
  single u v n m there there' :=
    good.single u v n m (submit_of_goto (fun _ => by simp) there).2 (submit_of_goto (fun _ => by simp) there').2
  locked := good.locked
  free unlocked := (good.free unlocked).imp_right fun known => known.imp_right fun notifying => notifying.goto (by simp [idle]) _

theorem Good.write (good : s.Good) (state : UInt16) : ({ s with serialState := state }.goto t .notify).Good where
  owner u n there := by
    obtain ⟨_, before⟩ := submit_of_goto (fun _ => by simp) there
    exact ⟨(good.owner u n before).1, .inr (notifying_goto _ t)⟩
  single u v n m there there' :=
    good.single u v n m (submit_of_goto (fun _ => by simp) there).2 (submit_of_goto (fun _ => by simp) there').2
  locked := good.locked
  free _ := .inr (.inr (notifying_goto _ t))

theorem Good.take (good : s.Good) (unlocked : s.lock = false) (carries : n.serialState = s.serialState) :
    ({ s with notifyReq := false, pending := false, lock := true }.goto t (.submit n)).Good := by
  have only : ∀ u m, ({ s with notifyReq := false, pending := false, lock := true }.goto t (.submit n)).threads u = .submit m →
      u = t ∧ m = n := by
    intro u m there
    by_cases its : u = t
    · subst its
      rw [goto_self] at there
      exact ⟨rfl, (NotifyPc.submit.inj there).symm⟩
    · rw [goto_other its] at there
      have held := (good.owner u m there).1
      rw [unlocked] at held
      cases held
  refine ⟨fun u m there => ?_, fun u v m m' there there' => ?_, fun _ => ⟨rfl, rfl⟩, nofun⟩
  · obtain ⟨_, rfl⟩ := only u m there
    exact ⟨rfl, .inl carries⟩
  · exact (only u m there).1.trans (only v m' there').1.symm

theorem Good.wait (good : s.Good) (unlocked : s.lock = false) : ({ s with pending := true }.goto t .idle).Good where
  owner u n there := by
    have held := (good.owner u n (submit_of_goto (fun _ => by simp) there).2).1
    rw [unlocked] at held
    cases held
  single u v n m there there' :=
    good.single u v n m (submit_of_goto (fun _ => by simp) there).2 (submit_of_goto (fun _ => by simp) there').2
  locked held := by
    have free : s.lock = true := held
    rw [unlocked] at free
    cases free
  free _ := .inr (.inl rfl)

theorem acmNotifySerialState_locked (held : s.lock = true) (t : Nat) : s.acmNotifySerialState t = s := by
  simp [acmNotifySerialState, held]

theorem acmNotifySerialState_ready (unlocked : s.lock = false) (ready : s.notifyReq = true) (t : Nat) :
    s.acmNotifySerialState t = { s with notifyReq := false, pending := false, lock := true }.goto t
      (.submit ⟨notifyRequestType, usbDdkCdcNotifySerialState, 0, s.index, 2, s.serialState⟩) := by
  have copied : Metadata.securecOk 2 2 = true := rfl
  simp [acmNotifySerialState, acmSendNotifyRequest, unlocked, ready, copied]

theorem acmNotifySerialState_busy (unlocked : s.lock = false) (busy : s.notifyReq = false) (t : Nat) :
    s.acmNotifySerialState t = { s with pending := true }.goto t .idle := by
  simp [acmNotifySerialState, unlocked, busy]

section
variable (good : s.Good)
include good

theorem Good.notify (t : Nat) : (s.acmNotifySerialState t).Good := by
  cases held : s.lock with
  | true =>
    rw [acmNotifySerialState_locked held]
    exact good
  | false =>
    cases ready : s.notifyReq with
    | true =>
      rw [acmNotifySerialState_ready held ready]
      exact good.take held rfl
    | false =>
      rw [acmNotifySerialState_busy held ready]
      exact good.wait held

theorem Good.unlock (there : s.threads t = .submit n) {notifyReq inFlight : Bool}
    {submitted : Option CdcNotification}
    (told : (submitted.map CdcNotification.serialState).getD 0 = s.serialState ∨ s.Notifying) :
    ({ s with lock := false, notifyReq := notifyReq, inFlight := inFlight, submitted := submitted }.goto t .idle).Good := by
  have nobody : ∀ u m, ({ s with lock := false, notifyReq := notifyReq, inFlight := inFlight, submitted := submitted }.goto t
      .idle).threads u ≠ .submit m := by
    intro u m still
    obtain ⟨differs, before⟩ := submit_of_goto (fun _ => by simp) still
    exact differs (good.single u t m n before there)
  refine ⟨fun u m still => absurd still (nobody u m), fun u v m _ still _ => absurd still (nobody u m), nofun, fun _ => ?_⟩
  refine told.imp_right fun notifying => .inr ?_
  obtain ⟨u, waits⟩ := notifying
  have differs : u ≠ t := by
    rintro rfl
    rw [there] at waits
    cases waits
  exact ⟨u, (goto_other differs _ _).trans waits⟩

theorem Good.submit (there : s.threads t = .submit n) {accepted : Bool}
    (careful : accepted = true ∨ n.serialState = s.carried ∨ s.Notifying) : (s.submit t n accepted).Good := by
  have carries := (good.owner t n there).2
  cases accepted with
  | true => exact good.unlock there (by simpa using carries)
  | false =>
    refine good.unlock there ?_
    rcases careful.resolve_left (by simp) with same | notifying
    · exact carries.imp_left fun current => (same.symm.trans current : s.carried = s.serialState)
    · exact .inr notifying

/-- A state that is refused and was not told before is lost. -/
theorem Good.refused (there : s.threads t = .submit n)
    (careless : ¬ (n.serialState = s.carried ∨ s.Notifying)) : ¬ (s.submit t n false).Told := by
  obtain ⟨held, carries⟩ := good.owner t n there
  intro told
  have quiet : ¬ (s.submit t n false).Notifying := by
    rintro ⟨u, waits⟩
    have differs : u ≠ t := by
      rintro rfl
      simp [Notifier.submit] at waits
    exact careless (.inr ⟨u, (goto_other differs _ _).symm.trans waits⟩)
  have same : s.carried = s.serialState := told rfl (good.locked held).2 quiet
  exact careless (.inl ((carries.resolve_right fun notifying => careless (.inr notifying)).trans same.symm))

theorem Good.complete (unlocked : s.lock = false) (idle : s.threads t = .idle) (status : RequestStatus) :
    (s.acmNotifyComplete t status).Good where
  owner u n there := by
    have elsewhere : ∀ m, (if status = .completed && s.pending then NotifyPc.notify else .idle) ≠ .submit m := by
      intro m
      split <;> simp
    have held := (good.owner u n (submit_of_goto elsewhere there).2).1
    rw [unlocked] at held
    cases held
  single u v n m there _ := by
    have elsewhere : ∀ m, (if status = .completed && s.pending then NotifyPc.notify else .idle) ≠ .submit m := by
      intro m
      split <;> simp
    have held := (good.owner u n (submit_of_goto elsewhere there).2).1
    rw [unlocked] at held
    cases held
  locked held := by
    have free : s.lock = true := held
    rw [unlocked] at free
    cases free
  free _ := by
    refine (good.free unlocked).imp_right fun known => known.imp_right fun notifying => ?_
    exact Notifying.goto (s := { s with notifyReq := true, inFlight := false }) notifying (by simp [idle]) _

theorem Good.after {e : NotifyEvent} (careful : s.Careful e) : (s.after e).Good := by
  cases e with
  | begin t method =>
    simp only [Notifier.after]
    split
    · rename_i idle
      exact good.begin idle method s.serialState
    · exact good
  | step t accepted =>
    simp only [Notifier.after, Careful] at careful ⊢
    split
    · exact good
    · exact good.write _
    · exact good.notify t
    · rename_i n there
      rw [there] at careful
      exact good.submit there careful
  | complete t status =>
    simp only [Notifier.after]
    split
    · rename_i may
      simp only [Bool.and_eq_true, Bool.not_eq_true', decide_eq_true_eq] at may
      exact good.complete may.1.2 may.2 status
    · exact good

theorem right_iff (e : NotifyEvent) : s.Right e ↔ s.Careful e := by
  refine ⟨fun right => ?_, fun careful => (good.after careful).told⟩
  cases e with
  | begin t method => trivial
  | complete t status => trivial
  | step t accepted =>
    simp only [Careful]
    split
    · rename_i n there
      by_contra careless
      rw [not_or] at careless
      have refused : accepted = false := by simpa using careless.1
      subst refused
      simp only [Right, Notifier.after, there] at right
      exact good.refused there careless.2 right
    all_goals trivial

end

theorem start_good (index : UInt16) : (start index).Good :=
  ⟨nofun, nofun, nofun, fun _ => .inl rfl⟩

/-- In every run no state is lost exactly while each submission that is refused is of the state that was submitted last, or
another thread is to notify. -/
theorem notifications_right (index : UInt16) (run : List NotifyEvent) :
    Takes after Right (start index) run ↔ Takes after Careful (start index) run :=
  Takes.congr (fun _ e good => right_iff good e) (fun _ e good right => good.after ((right_iff good e).mp right))
    (start_good index)

/-- The notification of a connection is refused, and the host is never told. -/
theorem refusal_not_right : ¬ Takes after Right (start 0) [.begin 0 .connect, .step 0 true, .step 0 true, .step 0 false] := by
  rintro ⟨_, _, _, told, _⟩
  have quiet : ¬ Notifying (((((start 0).after (.begin 0 .connect)).after (.step 0 true)).after (.step 0 true)).after
      (.step 0 false)) := by
    rintro ⟨t, waits⟩
    simp [Notifier.after, start, goto, acmNotifySerialState, acmSendNotifyRequest, Notifier.submit, Metadata.securecOk,
      Metadata.securecMemMaxLen] at waits
  exact absurd (told rfl rfl quiet) (by decide)

end Notifier

end Peripheral.Acm
