import Mathlib.Data.List.Count
import Peripheral.Transitions

/-!
The power service, `power_interface_impl.cpp`. `StartSuspend` has a daemon suspend the system
again and again, after `StopSuspend` the daemon waits, and `ForceSuspend` suspends the
system in the thread of its caller. The threads go on in any order, and only what is done
under `mutex_` keeps others out. The condition variable is notified without the
lock that the daemon waits with, and may wake it without being notified.
-/
namespace Peripheral.Power
open Peripheral.Transitions

/-- The codes of `NotifyCallback`. -/
inductive Cmd
  | onSuspend
  | onWakeup
  deriving DecidableEq

/-- Where a thread is: in `AutoSuspendLoop`, at the notification in `StartSuspend`, or in
`NotifyCallback` and `DoSuspend`, which the daemon calls as `ForceSuspend` does. -/
inductive Pc
  | sleep
  | check
  /-- `suspendRetry_` was false. -/
  | enter
  | wait
  | write
  | notify
  | tell (code : Cmd)
  | call (code : Cmd)
  | lock
  | save
  | done
  deriving DecidableEq

structure Thread where
  daemon : Bool
  pc : Pc
  wakeupCount : List UInt8 := []
  deriving DecidableEq

/-- How the kernel answers one step: the wake count and whether one that is written is the right one, whether the state
can be written, and whether that is to be tried again, for `EINTR` or `EBUSY`. -/
structure Kernel where
  count : List UInt8
  accepts : List UInt8 → Bool
  saved : Bool
  again : Bool

inductive Entry (κ : Type)
  | told (client : κ) (code : Cmd)
  | suspended (daemon : Bool)
  /-- The callback is null where it is called. -/
  | crashed
  deriving DecidableEq

/-- The variables of the service, `mutex_` held or not, the threads, and what was done, the latest first. -/
structure State (κ : Type) where
  suspendRetry : Bool
  suspending : Bool
  mutex : Bool
  callback : Option κ
  threads : List Thread
  log : List (Entry κ)

/-- A call may begin at any time, and a thread goes on at any time. -/
inductive Event (κ : Type)
  | registerCallback (callback : Option κ)
  | startSuspend
  | stopSuspend
  | forceSuspend
  | go (i : Nat) (kernel : Kernel)
  /-- The condition variable wakes a thread that was not notified. -/
  | spurious (i : Nat)

/-- `notify_one`. -/
def notifyOne : List Thread → List Thread
  | [] => []
  | t :: rest => if t.pc = .wait then { t with pc := .write } :: rest else t :: notifyOne rest

variable {κ : Type}

namespace State

def put (s : State κ) (i : Nat) (t : Thread) (pc : Pc) : State κ :=
  { s with threads := s.threads.set i { t with pc } }

/-- What comes after `NotifyCallback`. -/
def next (t : Thread) : Cmd → Pc
  | .onSuspend => .lock
  | .onWakeup => if t.daemon then .sleep else .done

/-- A thread that cannot go on stays where it is. -/
def go (s : State κ) (i : Nat) (t : Thread) (kernel : Kernel) : State κ :=
  match t.pc with
  | .sleep => if kernel.count = [] then s else s.put i { t with wakeupCount := kernel.count } .check
  | .check => s.put i t (if s.suspendRetry then .write else .enter)
  | .enter => s.put i t .wait
  | .wait => s
  | .write => s.put i t (if kernel.accepts t.wakeupCount then .tell .onSuspend else .sleep)
  | .notify =>
    let s := s.put i t .done
    { s with mutex := false, threads := notifyOne s.threads }
  | .tell code => s.put i t (if s.callback.isSome then .call code else next t code)
  | .call code =>
    match s.callback with
    | some client => { s.put i t (next t code) with log := .told client code :: s.log }
    | none => { s.put i t .done with log := .crashed :: s.log }
  | .lock => if s.mutex then s else { s.put i t .save with mutex := true }
  | .save =>
    if !kernel.saved && kernel.again then s
    else
      let log := if kernel.saved then .suspended t.daemon :: s.log else s.log
      { s.put i t (.tell .onWakeup) with mutex := false, log }
  | .done => s

/-- A call that waits for `mutex_` has not begun. -/
def step (s : State κ) : Event κ → State κ
  | .registerCallback callback => if s.mutex then s else { s with callback }
  | .startSuspend =>
    if s.mutex then s
    else if s.suspending then
      { s with suspendRetry := true, mutex := true, threads := s.threads ++ [{ daemon := false, pc := .notify }] }
    else { s with suspendRetry := true, suspending := true, threads := s.threads ++ [{ daemon := true, pc := .sleep }] }
  | .stopSuspend => { s with suspendRetry := false }
  | .forceSuspend =>
    { s with suspendRetry := false, threads := s.threads ++ [{ daemon := false, pc := .tell .onSuspend }] }
  | .go i kernel =>
    match s.threads[i]? with
    | none => s
    | some t => s.go i t kernel
  | .spurious i =>
    match s.threads[i]? with
    | none => s
    | some t => if t.pc = .wait then s.put i t .write else s

/-- The service after it was loaded. -/
def boot : State κ := ⟨false, false, false, none, [], []⟩

def run (s : State κ) (events : List (Event κ)) : State κ := events.foldl step s

def count (s : State κ) (p : Thread → Bool) : Nat := s.threads.countP p

end State

def Pc.inLoop : Pc → Bool
  | .sleep | .check | .enter | .wait | .write => true
  | .notify | .tell _ | .call _ | .lock | .save | .done => false

/-- With `mutex_`. -/
def Thread.holds (t : Thread) : Bool := t.pc = .notify || t.pc = .save

/-- In the loop without being the daemon. -/
def Thread.astray (t : Thread) : Bool := t.pc.inLoop && !t.daemon

def Thread.notifies (t : Thread) : Bool := t.pc = .notify

/-- It has found `suspendRetry_` false, and was not woken since. -/
def Thread.idle (t : Thread) : Bool := t.pc = .enter || t.pc = .wait

/-- Between the two notifications. -/
def Thread.suspends (t : Thread) : Bool :=
  match t.pc with
  | .lock | .save | .tell .onWakeup | .call .onWakeup => true
  | _ => false

/-- The daemon on its way to suspend the system, without another look at `suspendRetry_`. -/
def Thread.armed (t : Thread) : Bool :=
  t.daemon &&
    match t.pc with
    | .write | .tell .onSuspend | .call .onSuspend | .lock | .save => true
    | _ => false

def Event.starts : Event κ → Bool
  | .startSuspend => true
  | _ => false

def Event.isSpurious : Event κ → Bool
  | .spurious _ => true
  | _ => false

/-- No call is made that touches `suspendRetry_`, and the daemon is not woken without being notified. -/
def Event.quiet : Event κ → Bool
  | .go _ _ | .registerCallback _ => true
  | _ => false

def Event.registers : Event κ → Bool
  | .registerCallback _ => true
  | _ => false

namespace State

/-- One daemon at most, which alone is in the loop, and one thread at most that holds `mutex_`. -/
structure Sound (s : State κ) : Prop where
  daemons : s.count Thread.daemon = s.suspending.toNat
  loop : s.count Thread.astray = 0
  held : s.count Thread.holds = s.mutex.toNat

variable {s : State κ} {i : Nat} {t : Thread}

theorem count_moved (there : s.threads[i]? = some t) {n : State κ} {u : Thread}
    (threads : n.threads = s.threads.set i u) (p : Thread → Bool) : n.count p + (p t).toNat = s.count p + (p u).toNat := by
  obtain ⟨inside, rfl⟩ := List.getElem?_eq_some_iff.mp there
  have counted : (p s.threads[i]).toNat ≤ s.threads.countP p := by
    cases found : p s.threads[i]
    · exact Nat.zero_le _
    · exact List.countP_pos_iff.mpr ⟨_, List.getElem_mem inside, found⟩
  have numeral (b : Bool) : (if b = true then 1 else 0) = b.toNat := by cases b <;> rfl
  simp only [count, threads, List.countP_set inside, numeral]
  omega

theorem count_notifyOne {l : List Thread} {p : Thread → Bool}
    (unseen : ∀ t : Thread, t.pc = .wait → p { t with pc := .write } = p t) : (notifyOne l).countP p = l.countP p := by
  induction l with
  | nil => rfl
  | cons t rest ih =>
    by_cases waits : t.pc = .wait
    · simp [notifyOne, waits, List.countP_cons, unseen t waits]
    · simp [notifyOne, waits, List.countP_cons, ih]

section
variable (sound : s.Sound)
include sound

theorem Sound.astray_eq (there : s.threads[i]? = some t) : t.astray = false := by
  have none : ∀ u ∈ s.threads, ¬ u.astray := List.countP_eq_zero.mp sound.loop
  exact Bool.eq_false_iff.mpr (none t (List.mem_of_getElem? there))

theorem Sound.mutex_of_holds (there : s.threads[i]? = some t) (holds : t.holds = true) : s.mutex = true := by
  have there : 0 < s.count Thread.holds := List.countP_pos_iff.mpr ⟨t, List.mem_of_getElem? there, holds⟩
  rw [sound.held] at there
  cases found : s.mutex with
  | true => rfl
  | false => simp [found] at there

/-- A thread gets elsewhere, with or without `mutex_`. -/
theorem Sound.moved (there : s.threads[i]? = some t) {next : State κ} {u : Thread}
    (threads : next.threads = s.threads.set i u) (suspending : next.suspending = s.suspending)
    (same : u.daemon = t.daemon) (loop : u.astray = false)
    (held : next.mutex.toNat + t.holds.toNat = s.mutex.toNat + u.holds.toNat) : next.Sound := by
  have counts := count_moved there threads
  have daemons := counts Thread.daemon
  have astray := counts Thread.astray
  have holds := counts Thread.holds
  rw [same, sound.daemons, ← suspending] at daemons
  rw [loop, sound.loop] at astray
  rw [sound.held] at holds
  exact ⟨Nat.add_right_cancel daemons, by simp at astray; exact astray.1, by omega⟩

theorem Sound.notify : { s with threads := notifyOne s.threads }.Sound where
  daemons := (count_notifyOne fun _ _ => rfl).trans sound.daemons
  loop := (count_notifyOne fun t waits => by simp [Thread.astray, waits, Pc.inLoop]).trans sound.loop
  held := (count_notifyOne fun t waits => by simp [Thread.holds, waits]).trans sound.held

theorem Sound.go (there : s.threads[i]? = some t) (kernel : Kernel) : (s.go i t kernel).Sound := by
  have astray := sound.astray_eq there
  have mutex := sound.mutex_of_holds there
  obtain ⟨daemon, pc, wakeupCount⟩ := t
  cases pc
  case notify =>
    refine Sound.notify (s := { s.put i _ .done with mutex := false }) ?_
    exact sound.moved there rfl rfl rfl rfl (by rw [mutex rfl]; rfl)
  case lock =>
    simp only [State.go]
    split
    · exact sound
    · rename_i free
      exact sound.moved there rfl rfl rfl rfl (by rw [Bool.eq_false_iff.mpr free]; rfl)
  case save =>
    simp only [State.go]
    split
    · exact sound
    · exact sound.moved there rfl rfl rfl rfl (by rw [mutex rfl]; rfl)
  case tell code =>
    simp only [State.go]
    split
    · exact sound.moved there rfl rfl rfl rfl rfl
    · cases code <;> cases daemon <;> exact sound.moved there rfl rfl rfl rfl rfl
  case call code =>
    simp only [State.go]
    split
    · cases code <;> cases daemon <;> exact sound.moved there rfl rfl rfl rfl rfl
    · exact sound.moved there rfl rfl rfl rfl rfl
  case wait => exact sound
  case done => exact sound
  case enter => exact sound.moved there rfl rfl rfl astray rfl
  all_goals
    simp only [State.go]
    split <;> first | exact sound | exact sound.moved there rfl rfl rfl astray rfl | exact sound.moved there rfl rfl rfl rfl rfl

theorem sound_step (e : Event κ) : (s.step e).Sound := by
  cases e with
  | registerCallback callback =>
    simp only [step]
    split
    · exact sound
    · exact ⟨sound.daemons, sound.loop, sound.held⟩
  | startSuspend =>
    obtain ⟨daemons, loop, held⟩ := sound
    simp only [step]
    split
    · exact ⟨daemons, loop, held⟩
    · rename_i free
      simp only [Bool.eq_false_iff.mpr free] at held
      split
      · constructor <;> simp_all [count, Thread.astray, Thread.holds, Pc.inLoop]
      · constructor <;> simp_all [count, Thread.astray, Thread.holds, Pc.inLoop]
  | stopSuspend => exact ⟨sound.daemons, sound.loop, sound.held⟩
  | forceSuspend =>
    obtain ⟨daemons, loop, held⟩ := sound
    constructor <;> simp_all [step, count, Thread.astray, Thread.holds, Pc.inLoop]
  | go i kernel =>
    simp only [step]
    split
    · exact sound
    · rename_i t there
      exact sound.go there kernel
  | spurious i =>
    simp only [step]
    split
    · exact sound
    · rename_i t there
      split
      · rename_i waits
        have astray := sound.astray_eq there
        refine sound.moved there rfl rfl rfl ?_ ?_
        · simpa [Thread.astray, Pc.inLoop, waits] using astray
        · simp [Thread.holds, waits, put]
      · exact sound

theorem Sound.run (events : List (Event κ)) : (s.run events).Sound := by
  induction events generalizing s with
  | nil => exact sound
  | cons e rest ih => exact ih (sound_step sound e)

end

theorem sound_boot (events : List (Event κ)) : (run boot events).Sound := Sound.run ⟨rfl, rfl, rfl⟩ events

theorem retry_go (kernel : Kernel) : (s.go i t kernel).suspendRetry = s.suspendRetry := by
  unfold State.go
  split <;> first | rfl | (split <;> rfl)

theorem armed_le (sound : s.Sound) : s.count Thread.armed ≤ 1 := by
  have armed : s.count Thread.armed ≤ s.count Thread.daemon :=
    List.countP_mono_left fun t _ armed => by
      rw [Thread.armed, Bool.and_eq_true] at armed
      exact armed.1
  exact Nat.le_trans armed (sound.daemons ▸ Bool.toNat_le s.suspending)

theorem notifies_le (sound : s.Sound) : s.count Thread.notifies ≤ s.mutex.toNat := by
  have notifies : s.count Thread.notifies ≤ s.count Thread.holds :=
    List.countP_mono_left fun t _ notifies => by simpa [Thread.holds, Thread.notifies] using Or.inl notifies
  exact Nat.le_trans notifies (sound.held ▸ Nat.le_refl _)

end State
end Peripheral.Power
