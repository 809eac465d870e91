import Peripheral.PowerSuspend

/-!
Runs of the power service: what a callback is told, how often the daemon goes on after
`StopSuspend`, and when `StartSuspend` is noticed.
-/
namespace Peripheral.Power.State
open Peripheral.Transitions Thread List State

variable {κ : Type} {s : State κ} {i : Nat} {t : Thread}

/-- When the daemon is to suspend the system it is not idle, unless it is about to be notified. -/
def OnTime (s : State κ) : Prop := s.suspendRetry = true → 0 < s.count idle → 0 < s.count notifies

instance (s : State κ) : Decidable s.OnTime := inferInstanceAs (Decidable (_ → _ → _))

def entering (t : Thread) : Bool := t.pc = .enter

/-- The daemon is not notified between its look at `suspendRetry_` and its wait. -/
def Careful (s : State κ) : Event κ → Prop
  | .go i _ => ∀ t, s.threads[i]? = some t → t.pc = .notify → s.suspendRetry = true → s.count entering = 0
  | _ => True

theorem idle_le (sound : s.Sound) : s.count idle ≤ s.count daemon :=
  countP_mono_left fun t there idle => by
    have astray : t.astray = false := by simpa using countP_eq_zero.mp sound.loop t there
    cases pc : t.pc <;> simp_all [Thread.idle, Thread.astray, Pc.inLoop]

theorem armed_add_idle (sound : s.Sound) : s.count armed + s.count idle ≤ s.count daemon := by
  have loop : ∀ t ∈ s.threads, t.astray = false := by simpa using countP_eq_zero.mp sound.loop
  unfold count
  revert loop
  generalize s.threads = threads
  intro loop
  induction threads with
  | nil => exact Nat.le_refl _
  | cons t rest ih =>
    have first := loop t (mem_cons_self ..)
    have later := ih fun u there => loop u (mem_cons_of_mem _ there)
    have alone : t.armed = true → t.daemon = true ∧ t.idle = false := by
      obtain ⟨daemon, pc, wakeupCount⟩ := t
      cases daemon <;> cases pc <;> simp [armed, idle]
    have idles : t.idle = true → t.daemon = true := by
      obtain ⟨daemon, pc, wakeupCount⟩ := t
      cases daemon <;> cases pc <;> simp_all [astray, idle, Pc.inLoop]
    simp only [countP_cons]
    cases armed : t.armed <;> cases idle : t.idle <;> simp_all <;> omega

/-- What is not a notification goes by the idle threads and those that notify. -/
theorem go_idle (there : s.threads[i]? = some t) (other : t.pc ≠ .notify) (retry : s.suspendRetry = true) (kernel : Kernel) :
    (s.go i t kernel).count idle = s.count idle ∧ (s.go i t kernel).count notifies = s.count notifies := by
  have moved {next : State κ} {u : Thread} (threads : next.threads = s.threads.set i u) (idle : u.idle = t.idle)
      (notifies : u.notifies = t.notifies) :
      next.count Thread.idle = s.count Thread.idle ∧ next.count Thread.notifies = s.count Thread.notifies := by
    have idles := count_moved there threads Thread.idle
    have notified := count_moved there threads Thread.notifies
    rw [idle] at idles
    rw [notifies] at notified
    exact ⟨Nat.add_right_cancel idles, Nat.add_right_cancel notified⟩
  obtain ⟨daemon, pc, wakeupCount⟩ := t
  cases pc
  case notify => exact absurd rfl other
  case check =>
    simp only [go, retry]
    exact moved rfl rfl rfl
  case tell code =>
    simp only [go]
    cases code <;> cases daemon <;> split <;> exact moved rfl rfl rfl
  case call code =>
    simp only [go]
    cases code <;> cases daemon <;> split <;> exact moved rfl rfl rfl
  case wait => exact ⟨rfl, rfl⟩
  case done => exact ⟨rfl, rfl⟩
  case enter => exact moved rfl rfl rfl
  all_goals
    simp only [go]
    split <;> first | exact ⟨rfl, rfl⟩ | exact moved rfl rfl rfl

theorem idle_eq (threads : List Thread) :
    threads.countP Thread.idle = threads.countP entering + threads.countP (fun t => t.pc = .wait) := by
  induction threads with
  | nil => rfl
  | cons t rest ih =>
    obtain ⟨daemon, pc, wakeupCount⟩ := t
    cases pc <;> simp [ih, idle, entering] <;> omega

theorem wait_notifyOne (threads : List Thread) :
    (notifyOne threads).countP (fun t => t.pc = .wait) = threads.countP (fun t => t.pc = .wait) - 1 := by
  induction threads with
  | nil => rfl
  | cons t rest ih =>
    by_cases waits : t.pc = .wait
    · simp [notifyOne, waits]
    · simp [notifyOne, waits, ih]

/-- The notification wakes the daemon if that waits, and is gone. -/
theorem onTime_notify (sound : s.Sound) (there : s.threads[i]? = some t) (notifies : t.pc = .notify) (kernel : Kernel) :
    (s.go i t kernel).OnTime ↔ (s.suspendRetry = true → s.count entering = 0) := by
  have moved := count_moved (n := s.put i t .done) there rfl
  have goes : (s.go i t kernel).threads = notifyOne (s.put i t .done).threads := by simp only [go, notifies]
  have none : (s.go i t kernel).count Thread.notifies = 0 := by
    have kept := count_notifyOne (l := (s.put i t .done).threads) (p := Thread.notifies)
      fun u waits => by simp [Thread.notifies, waits]
    have fewer := moved Thread.notifies
    have single := Nat.le_trans (notifies_le sound) (Bool.toNat_le _)
    have gone : ({ t with pc := .done } : Thread).notifies.toNat = 0 := rfl
    have was : t.notifies.toNat = 1 := by simp [Thread.notifies, notifies]
    simp only [count, goes] at *
    omega
  have idle : (s.go i t kernel).count Thread.idle = s.count entering := by
    have kept := count_notifyOne (l := (s.put i t .done).threads) (p := entering) fun u waits => by simp [entering, waits]
    have enters := moved entering
    have waits := moved (fun u => u.pc = .wait)
    have few := Nat.le_trans (idle_le sound) (sound.daemons ▸ Bool.toNat_le _)
    simp only [entering, notifies, decide_false, reduceCtorEq] at enters waits
    have parts := idle_eq (notifyOne (s.put i t .done).threads)
    have before := idle_eq s.threads
    rw [wait_notifyOne, kept] at parts
    simp only [count, goes] at *
    omega
  simp only [OnTime, retry_go, none, idle, Nat.lt_irrefl, imp_false, Nat.not_lt, Nat.le_zero]

theorem onTime_go (sound : s.Sound) (onTime : s.OnTime) (there : s.threads[i]? = some t) (kernel : Kernel) :
    (s.go i t kernel).OnTime ↔ s.Careful (.go i kernel) := by
  by_cases notifies : t.pc = .notify
  · simp only [onTime_notify sound there notifies, Careful, there, Option.some.injEq, forall_eq', notifies, forall_const]
  · have careful : s.Careful (.go i kernel) := by
      intro u same
      cases there.symm.trans same
      exact fun other => absurd other notifies
    refine iff_of_true (fun retry => ?_) careful
    rw [retry_go] at retry
    rw [(go_idle there notifies retry kernel).1, (go_idle there notifies retry kernel).2]
    exact onTime retry

theorem onTime_step (sound : s.Sound) (onTime : s.OnTime) (e : Event κ) : (s.step e).OnTime ↔ s.Careful e := by
  cases e with
  | registerCallback callback =>
    refine iff_of_true ?_ trivial
    simp only [step]
    split <;> exact onTime
  | startSuspend =>
    refine iff_of_true ?_ trivial
    have idle := idle_le sound
    rw [sound.daemons] at idle
    simp only [step]
    split
    · exact onTime
    · split
      · intro _ _
        simp [count, notifies]
      · rename_i stopped
        intro _ idles
        rw [Bool.eq_false_iff.mpr stopped] at idle
        have none : s.count Thread.idle = 0 := Nat.le_zero.mp idle
        simp [count, Thread.idle] at none idles
        obtain ⟨t, there, idle⟩ := idles
        exact absurd idle (by simpa using none t there)
  | stopSuspend => exact iff_of_true (fun retry => Bool.noConfusion retry) trivial
  | forceSuspend => exact iff_of_true (fun retry => Bool.noConfusion retry) trivial
  | go i kernel =>
    simp only [step]
    split
    · rename_i none
      exact iff_of_true onTime fun t there => by simp [none] at there
    · rename_i t there
      exact onTime_go sound onTime there kernel
  | spurious i =>
    refine iff_of_true ?_ trivial
    simp only [step]
    split
    · exact onTime
    · rename_i t there
      split
      · rename_i waits
        intro retry some
        have idle := count_moved (n := s.put i t .write) there rfl idle
        have notifies := count_moved (n := s.put i t .write) there rfl notifies
        have once := onTime retry
        simp only [Thread.idle, Thread.notifies, waits] at *
        simp at *
        omega
      · exact onTime

theorem onTime_iff_from (sound : s.Sound) (onTime : s.OnTime) (events : List (Event κ)) :
    (∀ n, (run s (events.take n)).OnTime) ↔ Takes step Careful s events := by
  induction events generalizing s with
  | nil => exact iff_of_true (fun n => by simpa [run] using onTime) trivial
  | cons e rest ih =>
    constructor
    · intro always
      have first : (s.step e).OnTime := always 1
      exact ⟨(onTime_step sound onTime e).mp first, (ih (sound_step sound e) first).mp fun n => always (n + 1)⟩
    · rintro ⟨careful, later⟩ n
      have first := (onTime_step sound onTime e).mpr careful
      cases n with
      | zero => exact onTime
      | succ n => exact (ih (sound_step sound e) first).mpr later n

/-- All through a run the daemon is never left idle when it is to suspend the system, if and only if it is never
notified between its look at `suspendRetry_` and its wait. -/
theorem onTime_iff (events : List (Event κ)) :
    (∀ n, (run (boot : State κ) (events.take n)).OnTime) ↔ Takes step Careful boot events :=
  onTime_iff_from ⟨rfl, rfl, rfl⟩ (fun retry => Bool.noConfusion retry) events

variable [DecidableEq κ] {c : κ}

def told (s : State κ) (c : κ) (code : Cmd) : Nat := s.log.count (.told c code)

/-- What the client was told more of suspends than of wakeups, but for the threads that are between. -/
def debt (s : State κ) (c : κ) : Int := s.told c .onSuspend - s.told c .onWakeup - s.count suspends

def crashes (s : State κ) : Nat := s.log.count .crashed

/-- The callback is still there, and its debt is what it was. -/
structure Owes (s : State κ) (c : κ) (next : State κ) : Prop where
  debt : next.debt c = s.debt c
  callback : next.callback = some c
  crashes : next.crashes = s.crashes

theorem Owes.refl (registered : s.callback = some c) : s.Owes c s := ⟨rfl, registered, rfl⟩

variable {n : State κ}

theorem Owes.moved (registered : s.callback = some c) (there : s.threads[i]? = some t) {u : Thread}
    (threads : n.threads = s.threads.set i u) (callback : n.callback = s.callback)
    (told : (n.told c .onSuspend : Int) - n.told c .onWakeup + t.suspends.toNat
      = s.told c .onSuspend - s.told c .onWakeup + u.suspends.toNat) (crashes : n.crashes = s.crashes) : s.Owes c n := by
  have counts := count_moved there threads suspends
  exact ⟨by unfold State.debt; omega, callback.trans registered, crashes⟩

theorem Owes.notify (owes : s.Owes c n) : s.Owes c { n with threads := notifyOne n.threads } where
  debt := by
    have counted : (notifyOne n.threads).countP suspends = n.threads.countP suspends :=
      count_notifyOne fun t waits => by simp [suspends, waits]
    have debt := owes.debt
    simp only [State.debt, count, State.told] at debt ⊢
    rw [counted, debt]
  callback := owes.callback
  crashes := owes.crashes

theorem owes_go (registered : s.callback = some c) (there : s.threads[i]? = some t) (kernel : Kernel) :
    s.Owes c (s.go i t kernel) := by
  have moved {n : State κ} {u : Thread} := Owes.moved registered there (n := n) (u := u)
  obtain ⟨daemon, pc, wakeupCount⟩ := t
  cases pc
  case notify => exact Owes.notify (n := { s.put i _ .done with mutex := false }) (moved rfl rfl rfl rfl)
  case call code =>
    simp only [go, registered]
    refine moved rfl rfl ?_ (by simp [crashes])
    cases code <;> cases daemon <;> simp [told, suspends, next] <;> omega
  case save =>
    simp only [go]
    split
    · exact .refl registered
    · refine moved rfl rfl ?_ ?_ <;> split <;> simp [told, crashes, suspends]
  case tell code =>
    simp only [go, registered]
    cases code <;> exact moved rfl rfl rfl rfl
  case enter => exact moved rfl rfl rfl rfl
  case wait => exact .refl registered
  case done => exact .refl registered
  all_goals
    simp only [go]
    split <;> first | exact .refl registered | exact moved rfl rfl rfl rfl

variable {e : Event κ}

theorem owes_step (registered : s.callback = some c) (other : e.registers = false) : s.Owes c (s.step e) := by
  cases e with
  | registerCallback callback => simp [Event.registers] at other
  | startSuspend =>
    simp only [step]
    split
    · exact .refl registered
    · split <;> exact ⟨by simp [debt, told, count, suspends], registered, rfl⟩
  | stopSuspend => exact ⟨rfl, registered, rfl⟩
  | forceSuspend => exact ⟨by simp [step, debt, told, count, suspends], registered, rfl⟩
  | go i kernel =>
    simp only [step]
    split
    · exact .refl registered
    · rename_i t there
      exact owes_go registered there kernel
  | spurious i =>
    simp only [step]
    split
    · exact .refl registered
    · rename_i t there
      split
      · rename_i waits
        exact .moved registered there rfl rfl (by simp [put, told, suspends, waits]) rfl
      · exact .refl registered

variable {events : List (Event κ)}

theorem owes_run (registered : s.callback = some c) (others : ∀ e ∈ events, e.registers = false) : s.Owes c (run s events) := by
  induction events generalizing s with
  | nil => exact .refl registered
  | cons e rest ih =>
    have first := owes_step registered (others e (mem_cons_self ..))
    have later := ih first.callback fun e there => others e (mem_cons_of_mem _ there)
    exact ⟨later.debt.trans first.debt, later.callback, later.crashes.trans first.crashes⟩

/-- From a time at which nobody suspends the system, with whatever has been going on before: as long as a callback is
not replaced it is told of a suspend once more for each thread that is between, and one thread at most has the kernel
suspend, of which the callback was told. -/
theorem told_in_turn (before later : List (Event κ)) (registered : (run boot before).callback = some c)
    (between : (run boot before).count suspends = 0) (others : ∀ e ∈ later, e.registers = false) :
    let t := run { run boot before with log := [] } later
    t.told c .onSuspend = t.told c .onWakeup + t.count suspends ∧ t.crashes = 0 ∧
      t.count (fun u => u.pc = .save) ≤ 1 ∧
      (0 < t.count (fun u => u.pc = .save) → t.told c .onWakeup < t.told c .onSuspend) := by
  intro t
  have begins := sound_boot before
  have sound : t.Sound := Sound.run (s := { run boot before with log := [] }) ⟨begins.daemons, begins.loop, begins.held⟩ later
  have owes := owes_run (s := { run boot before with log := [] }) registered others
  have balance : t.told c .onSuspend = t.told c .onWakeup + t.count suspends := by
    have debt : t.debt c = (0 : Int) - 0 - (run boot before).count suspends := owes.debt
    rw [between, State.debt] at debt
    omega
  have saving : t.count (fun u => u.pc = .save) ≤ t.count holds :=
    countP_mono_left fun u _ saves => by simpa [holds] using Or.inr saves
  have single : t.count holds ≤ 1 := sound.held ▸ Bool.toNat_le t.mutex
  have told : t.count (fun u => u.pc = .save) ≤ t.count suspends :=
    countP_mono_left fun u _ saves => by
      have saves : u.pc = .save := by simpa using saves
      simp [suspends, saves]
  exact ⟨balance, owes.crashes, Nat.le_trans saving single, by omega⟩

def answers : Kernel := ⟨[1], fun _ => true, true, false⟩

def started : List (Event Unit) := [.registerCallback (some ()), .startSuspend, .go 0 answers]

/-- The daemon and a forced suspend, which takes the lock first and comes to its end. -/
def sideBySide : List (Event Unit) :=
  [.go 0 answers, .forceSuspend, .go 0 answers, .go 1 answers, .go 0 answers, .go 1 answers, .go 0 answers, .go 1 answers,
    .go 0 answers, .go 1 answers, .go 0 answers, .go 1 answers, .go 1 answers]

def twoSuspends : State Unit := run { run boot started with log := [] } sideBySide

theorem told_in_turn_closed : twoSuspends.told () .onSuspend = 2 ∧ twoSuspends.told () .onWakeup = 1 ∧
    twoSuspends.told () .onSuspend = twoSuspends.told () .onWakeup + twoSuspends.count suspends :=
  ⟨by decide, by decide, (told_in_turn started sideBySide (by decide) (by decide) (by decide)).1⟩

/-! ### What the daemon does after a stop -/

/-- How often the daemon has suspended the system. -/
def suspensions (s : State κ) : Nat := s.log.count (.suspended true)

/-- The suspensions of the daemon, with one that it is about to make and one for which it may be notified. -/
def spent (s : State κ) : Nat := s.suspensions + s.count armed + s.count notifies

theorem spent_moved (there : s.threads[i]? = some t) {u : Thread} (threads : n.threads = s.threads.set i u) (less more : Nat)
    (spent : n.suspensions + u.armed.toNat + u.notifies.toNat + less
      ≤ s.suspensions + t.armed.toNat + t.notifies.toNat + more) : n.spent + less ≤ s.spent + more := by
  have armed := count_moved there threads armed
  have notifies := count_moved there threads notifies
  unfold State.spent
  omega

/-- Who is notified is about to suspend the system. -/
theorem spent_notifyOne : { s with threads := notifyOne s.threads }.spent ≤ s.spent + 1 := by
  have armed : (notifyOne s.threads).countP armed ≤ s.threads.countP armed + 1 := by
    induction s.threads with
    | nil => exact Nat.zero_le _
    | cons t rest ih =>
      by_cases waits : t.pc = .wait
      · simp only [notifyOne, waits, if_true, countP_cons]
        split <;> split <;> omega
      · simp only [notifyOne, waits, if_false, countP_cons]
        omega
  have notifies : (notifyOne s.threads).countP notifies = s.threads.countP notifies :=
    count_notifyOne fun t waits => by simp [notifies, waits]
  simp only [spent, suspensions, count, notifies]
  omega

theorem spent_go (stopped : s.suspendRetry = false) (there : s.threads[i]? = some t) (kernel : Kernel) :
    (s.go i t kernel).spent ≤ s.spent := by
  have moved {n : State κ} {u : Thread} (threads : n.threads = s.threads.set i u) := spent_moved there threads 0 0
  obtain ⟨daemon, pc, wakeupCount⟩ := t
  cases pc
  case notify =>
    refine Nat.le_trans (spent_notifyOne (s := { s.put i _ .done with mutex := false })) ?_
    refine spent_moved there rfl 1 0 ?_
    simp [put, suspensions, armed, notifies]
  case save =>
    simp only [go]
    split
    · exact Nat.le_refl _
    · refine moved rfl ?_
      cases daemon <;> split <;> simp [suspensions, armed, notifies]
  case tell code =>
    simp only [go]
    refine moved rfl ?_
    cases code <;> cases daemon <;> split <;> simp [put, suspensions, armed, notifies, next]
  case call code =>
    simp only [go]
    split <;> refine moved rfl ?_ <;> cases code <;> cases daemon <;>
      simp [suspensions, armed, notifies, next]
  case wait => exact Nat.le_refl _
  case done => exact Nat.le_refl _
  case enter => exact moved rfl (Nat.le_refl _)
  case check =>
    simp only [go, stopped]
    exact moved rfl (Nat.le_refl _)
  all_goals
    simp only [go]
    split <;> first | exact Nat.le_refl _ | exact moved rfl (by simp [put, suspensions, armed, notifies])

theorem spent_step (stopped : s.suspendRetry = false) (other : e.starts = false) :
    (s.step e).spent ≤ s.spent + e.isSpurious.toNat ∧ (s.step e).suspendRetry = false := by
  cases e with
  | registerCallback callback =>
    simp only [step]
    split <;> exact ⟨Nat.le_refl _, stopped⟩
  | startSuspend => simp [Event.starts] at other
  | stopSuspend => exact ⟨Nat.le_refl _, rfl⟩
  | forceSuspend => simp [step, spent, suspensions, count, armed, notifies]
  | go i kernel =>
    simp only [step]
    split
    · exact ⟨Nat.le_refl _, stopped⟩
    · rename_i t there
      exact ⟨spent_go stopped there kernel, (retry_go kernel).trans stopped⟩
  | spurious i =>
    simp only [step]
    split
    · exact ⟨Nat.le_add_right .., stopped⟩
    · rename_i t there
      split
      · rename_i waits
        refine ⟨spent_moved there rfl 0 1 ?_, stopped⟩
        cases t.daemon <;> simp [put, suspensions, armed, notifies, waits]
      · exact ⟨Nat.le_add_right .., stopped⟩

theorem spent_run (stopped : s.suspendRetry = false) (others : ∀ e ∈ events, e.starts = false) :
    (run s events).spent ≤ s.spent + events.countP Event.isSpurious := by
  induction events generalizing s with
  | nil => exact Nat.le_refl _
  | cons e rest ih =>
    obtain ⟨first, still⟩ := spent_step stopped (others e (mem_cons_self ..))
    have later := ih still fun e there => others e (mem_cons_of_mem _ there)
    have counted : (e :: rest).countP Event.isSpurious = rest.countP Event.isSpurious + e.isSpurious.toNat := by
      rw [countP_cons]
      cases e.isSpurious <;> rfl
    change (run (s.step e) rest).spent ≤ _
    omega

/-- After `StopSuspend`, until the next call of `StartSuspend`, the daemon suspends the system once if it was on its way
already, once if a `StartSuspend` that goes on has yet to notify it, and once each time when it is woken without being
notified. -/
theorem suspensions_after_stop (before later : List (Event κ)) (others : ∀ e ∈ later, e.starts = false) :
    let s := run boot before
    (run boot (before ++ .stopSuspend :: later)).suspensions
      ≤ s.suspensions + s.count armed + s.count notifies + later.countP Event.isSpurious ∧
      s.count armed ≤ 1 ∧ s.count notifies ≤ 1 := by
  intro s
  have sound := sound_boot before
  have spent := spent_run (s := s.step .stopSuspend) rfl others
  have notifies := Nat.le_trans (notifies_le sound) (Bool.toNat_le _)
  refine ⟨?_, armed_le sound, notifies⟩
  have rest : run boot (before ++ .stopSuspend :: later) = run (s.step .stopSuspend) later := by
    simp only [run, foldl_append, foldl_cons]
    rfl
  rw [rest]
  exact Nat.le_trans (Nat.le_trans (Nat.le_add_right _ _) (Nat.le_add_right _ _)) spent

/-- The daemon has suspended once and is on its way to do it again. -/
def beforeStop : List (Event Unit) := .startSuspend :: replicate 9 (.go 0 answers)

/-- It does, waits, and does it once more when it is woken without being notified. -/
def afterStop : List (Event Unit) := replicate 8 (.go 0 answers) ++ .spurious 0 :: replicate 4 (.go 0 answers)

theorem suspensions_after_stop_closed :
    let s := run boot beforeStop
    let t := run boot (beforeStop ++ .stopSuspend :: afterStop)
    s.suspensions = 1 ∧ t.suspensions = 3 ∧
      t.suspensions ≤ s.suspensions + s.count armed + s.count notifies + afterStop.countP Event.isSpurious := by
  intro s t
  exact ⟨rfl, rfl, (suspensions_after_stop beforeStop afterStop (by decide)).1⟩

theorem suspensions_go (unarmed : t.armed = false) (kernel : Kernel) : (s.go i t kernel).suspensions = s.suspensions := by
  obtain ⟨daemon, pc, wakeupCount⟩ := t
  cases pc
  case save =>
    have caller : daemon = false := by simpa [armed] using unarmed
    simp only [go, caller]
    split
    · rfl
    · simp only [suspensions]
      split <;> simp
  case call code =>
    simp only [go]
    split <;> simp [suspensions]
  case wait => rfl
  case done => rfl
  all_goals
    simp only [go]
    first | rfl | (split <;> rfl)

theorem missed_step (sound : s.Sound) (missed : ¬ s.OnTime) (quiet : e.quiet = true) :
    ¬ (s.step e).OnTime ∧ (s.step e).suspensions = s.suspensions := by
  simp only [OnTime, Classical.not_imp, Nat.not_lt, Nat.le_zero] at missed ⊢
  obtain ⟨retry, idle, none⟩ := missed
  cases e with
  | registerCallback callback =>
    simp only [step]
    split <;> exact ⟨⟨retry, idle, none⟩, rfl⟩
  | startSuspend | stopSuspend | forceSuspend | spurious i => simp [Event.quiet] at quiet
  | go i kernel =>
    simp only [step]
    split
    · exact ⟨⟨retry, idle, none⟩, rfl⟩
    · rename_i t there
      have member := mem_of_getElem? there
      have other : t.pc ≠ .notify := by simpa [notifies] using countP_eq_zero.mp none t member
      have unarmed : t.armed = false := by
        have armed := armed_add_idle sound
        have single := sound.daemons ▸ Bool.toNat_le s.suspending
        have none : s.count Thread.armed = 0 := by omega
        simpa using countP_eq_zero.mp none t member
      have same := go_idle there other retry kernel
      exact ⟨⟨(retry_go kernel).trans retry, same.1 ▸ idle, same.2.trans none⟩, suspensions_go unarmed kernel⟩

theorem missed_from (sound : s.Sound) (missed : ¬ s.OnTime) (quiet : ∀ e ∈ events, e.quiet = true) :
    ¬ (run s events).OnTime ∧ (run s events).suspensions = s.suspensions := by
  induction events generalizing s with
  | nil => exact ⟨missed, rfl⟩
  | cons e rest ih =>
    obtain ⟨still, same⟩ := missed_step sound missed (quiet e (mem_cons_self ..))
    have later := ih (sound_step sound e) still fun e there => quiet e (mem_cons_of_mem _ there)
    exact ⟨later.1, later.2.trans same⟩

/-- A start that was missed stays so: as long as nothing else is called, the daemon never suspends the system. -/
theorem missed_start (before later : List (Event κ)) (missed : ¬ (run boot before).OnTime)
    (quiet : ∀ e ∈ later, e.quiet = true) :
    ¬ (run boot (before ++ later)).OnTime ∧ (run boot (before ++ later)).suspensions = (run boot before).suspensions := by
  have rest : run boot (before ++ later) = run (run boot before) later := foldl_append
  rw [rest]
  exact missed_from (sound_boot before) missed quiet

theorem missed_start_closed :
    let kernel : Kernel := ⟨[49], fun _ => true, true, false⟩
    let before : List (Event Unit) :=
      [.startSuspend, .go 0 kernel, .stopSuspend, .go 0 kernel, .startSuspend, .go 1 kernel]
    (run (boot : State Unit) (before ++ [.go 0 kernel, .go 0 kernel])).suspensions = (run boot before).suspensions := by
  intro kernel before
  exact (missed_start before [.go 0 kernel, .go 0 kernel] (by decide) (by decide)).2

end Peripheral.Power.State
