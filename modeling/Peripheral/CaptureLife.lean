import Mathlib.Tactic
import Peripheral.StreamBase

/-!
What one capture is to its stream: where its request waits, who holds it, how often it
is in transit, which calls cancel it, and whether its end was reported. `Life.Sound`
says which of these go together; it is kept by everything that can happen to a capture,
as long as the calls that race for its end come in order.
-/
namespace Peripheral.Camera

def ThreadPhase.committed : ThreadPhase → Bool
  | .check | .deliver | .recheck => false
  | .config | .capture | .push | .started => true

structure Life where
  added : AddPhase
  isContinuous : Bool
  needCancel : Bool
  waiting : Bool
  held : Option ThreadPhase
  transit : Nat
  result : Option FramePhase
  erasing : Nat
  checking : Nat
  stopErasing : Bool
  stopChecking : Bool
  ended : Bool
  stopped : Bool
  cancelled : Bool
  captured : Nat
  returned : Nat
  failed : Bool

namespace Life

/-- The calls that are about to cancel the capture. -/
def cancelCalls (l : Life) : Nat :=
  l.erasing + l.checking + (if l.stopErasing then 1 else 0) + (if l.stopChecking then 1 else 0)

/-- The thread will capture it, whoever cancels it. -/
def committed (l : Life) : Bool :=
  match l.held with
  | some phase => phase.committed
  | none => false

/-- Between finding the request and taking it from the list. -/
def InFrame (l : Life) : Prop := l.result = some .frame ∨ l.result = some .decide ∨ ∃ isEnded, l.result = some (.erase isEnded)

/-- A cancel that neither races for the end nor loses the capture. -/
def MayCancel (l : Life) : Prop :=
  l.added = .queued ∧
    if l.isContinuous then l.ended = false ∧ l.needCancel = false ∧ l.committed = false ∧ l.result ≠ some (.erase false)
    else l.waiting = false ∧ (l.held ≠ none → l.committed = true)

/-- What goes together. A continuous capture waits until it is cancelled; then it is in transit or a call will report its end. -/
structure Sound (l : Life) : Prop where
  known : l.added ≠ .queued → l.waiting = false ∧ l.transit = 0 ∧ l.held = none ∧ l.result = none ∧ l.ended = false ∧
    l.needCancel = false ∧ l.cancelCalls = 0 ∧ l.stopped = false ∧ l.cancelled = false
  ended : l.ended = true → l.waiting = false ∧ l.transit = 0 ∧ l.committed = false ∧ (l.held ≠ none → l.needCancel = true)
  framed : l.InFrame → 0 < l.transit
  decided : ∀ isEnded, l.result = some (.erase isEnded) → isEnded = (!l.isContinuous || l.needCancel)
  calls : 0 < l.cancelCalls → l.needCancel = true
  alone : l.isContinuous = true → l.cancelCalls ≤ 1 ∧ (0 < l.cancelCalls → l.ended = false)
  leaves : l.isContinuous = true → l.needCancel = true → l.committed = false ∧
    (l.waiting = true → 0 < l.erasing ∨ l.stopErasing = true)
  goesOn : l.isContinuous = true → l.added = .queued → l.ended = false →
    if l.needCancel then 0 < l.cancelCalls ∨ 0 < l.transit else l.waiting = true
  past : l.isContinuous = false → l.needCancel = true → l.waiting = false ∧ (l.held ≠ none → l.committed = true)
  oneTime : l.isContinuous = false → (l.held ≠ none → l.waiting = false) ∧ (l.held = some .started → 0 < l.transit) ∧
    (0 < l.transit → l.waiting = false ∧ (l.held = none ∨ l.held = some .started))
  comes : l.isContinuous = false → l.added = .queued → l.ended = false →
    l.waiting = true ∨ l.held ≠ none ∨ 0 < l.transit ∨ l.failed = true
  counts : l.ended = false → l.returned + l.transit + (if l.held = some .push then 1 else 0) ≤ l.captured
  stopped : l.stopped = true → l.waiting = false ∧ l.transit = 0 ∧ l.held = none
  cancelled : l.cancelled = true → l.needCancel = true

theorem Sound.reported {l : Life} (sound : l.Sound) (succeeded : l.failed = false)
    (done : (l.cancelled = true ∧ l.captured = l.returned ∧ l.held = none) ∨ l.stopped = true) (quiet : l.cancelCalls = 0) :
    l.ended = true := by
  by_contra goes
  rw [Bool.not_eq_true] at goes
  have queued : l.added = .queued := by
    by_contra unknown
    have known := sound.known unknown
    obtain ⟨cancelled, -⟩ | stopped := done
    · rw [known.2.2.2.2.2.2.2.2] at cancelled
      cases cancelled
    · rw [known.2.2.2.2.2.2.2.1] at stopped
      cases stopped
  have left : l.held = none ∧ l.transit = 0 ∧ l.waiting = false := by
    obtain ⟨cancelled, all, free⟩ | stopped := done
    · have counts := sound.counts goes
      have needCancel := sound.cancelled cancelled
      refine ⟨free, by omega, ?_⟩
      cases kind : l.isContinuous with
      | false => exact (sound.past kind needCancel).1
      | true =>
        by_contra waits
        have still := (sound.leaves kind needCancel).2 (by simpa using waits)
        simp only [cancelCalls] at quiet
        obtain erasing | erasing := still
        · omega
        · rw [if_pos erasing] at quiet
          omega
    · obtain ⟨waiting, transit, held⟩ := sound.stopped stopped
      exact ⟨held, transit, waiting⟩
  obtain ⟨held, transit, waiting⟩ := left
  cases kind : l.isContinuous with
  | false =>
    have comes := sound.comes kind queued goes
    simp [held, transit, waiting, succeeded] at comes
  | true =>
    have goesOn := sound.goesOn kind queued goes
    split at goesOn
    · omega
    · rw [waiting] at goesOn
      cases goesOn

/-! ### What can happen to a capture -/

section
attribute [local grind] cancelCalls committed InFrame MayCancel ThreadPhase.committed
variable {l : Life}

namespace Sound

section
variable (sound : l.Sound)
include sound

theorem add (unknown : l.added = .unknown) {added : AddPhase} (notYet : added ≠ .queued)
    (isContinuous : Bool) :
    Sound { l with added := added, isContinuous := isContinuous, needCancel := false } := by
  cases sound
  constructor <;> first | assumption | grind -ring -linarith

theorem queue (toQueue : l.added = .toQueue) : Sound { l with added := .queued, waiting := true } := by
  cases sound
  constructor <;> first | assumption | grind -ring -linarith

theorem fail : Sound { l with failed := true } := by
  cases sound
  constructor <;> first | assumption | grind -ring -linarith

/-! Cancelling, by a client or by `StopStream`. -/

theorem cancel (may : l.MayCancel) : Sound { l with needCancel := true, erasing := l.erasing + 1 } := by
  cases sound
  constructor <;> first | assumption | grind -ring -linarith

theorem cancelErase (calls : 0 < l.erasing) :
    Sound { l with waiting := false, erasing := l.erasing - 1, checking := l.checking + 1 } := by
  cases sound
  constructor <;> first | assumption | grind -ring -linarith

theorem cancelCheck (calls : 0 < l.checking) :
    Sound { l with
      checking := l.checking - 1
      cancelled := true
      ended := l.ended || (l.isContinuous && l.transit = 0) } := by
  cases sound
  constructor <;> first | assumption | grind -ring -linarith

theorem stopCancel (may : l.MayCancel) (free : l.stopErasing = false) :
    Sound { l with needCancel := true, stopErasing := true } := by
  cases sound
  constructor <;> first | assumption | grind -ring -linarith

theorem stopErase (calls : l.stopErasing = true) (free : l.stopChecking = false) :
    Sound { l with waiting := false, stopErasing := false, stopChecking := true } := by
  cases sound
  constructor <;> first | assumption | grind -ring -linarith

theorem stopCheck (calls : l.stopChecking = true) :
    Sound { l with stopChecking := false, ended := l.ended || (l.isContinuous && l.transit = 0) } := by
  cases sound
  constructor <;> first | assumption | grind -ring -linarith

/-! The thread. -/

theorem take (waits : l.waiting = true) (free : l.held = none) :
    Sound { l with held := some .check, waiting := l.isContinuous } := by
  cases sound
  constructor <;> first | assumption | grind -ring -linarith

theorem goTo {phase next : ThreadPhase} (held : l.held = some phase)
    (early : phase ≠ .push ∧ phase ≠ .started ∧ next ≠ .push ∧ next ≠ .started)
    (passes : next.committed = phase.committed ∨ l.needCancel = false) : Sound { l with held := some next } := by
  cases sound
  constructor <;> first | assumption | grind -ring -linarith

theorem drop (needCancel : l.needCancel = true) (held : l.held = some .check ∨ l.held = some .recheck) :
    Sound { l with held := none } := by
  cases sound
  constructor <;> first | assumption | grind -ring -linarith

theorem refuse (held : l.held ≠ some .push) : Sound { l with held := none, failed := true } := by
  cases sound
  constructor <;> first | assumption | grind -ring -linarith

theorem capture (held : l.held = some .capture) :
    Sound { l with held := some .push, captured := l.captured + 1 } := by
  cases sound
  constructor <;> first | assumption | grind -ring -linarith

theorem push (held : l.held = some .push) :
    Sound { l with held := some .started, transit := l.transit + 1 } := by
  cases sound
  constructor <;> first | assumption | grind -ring -linarith

theorem started (held : l.held = some .started) : Sound { l with held := none } := by
  cases sound
  constructor <;> first | assumption | grind -ring -linarith

/-! Results. -/

theorem found (transit : 0 < l.transit) : Sound { l with result := some .frame } := by
  cases sound
  constructor <;> first | assumption | grind -ring -linarith

theorem lost (ended : l.ended = true) : Sound { l with returned := l.returned + 1 } := by
  cases sound
  constructor <;> first | assumption | grind -ring -linarith

theorem frame (result : l.result = some .frame) : Sound { l with result := some .decide } := by
  cases sound
  constructor <;> first | assumption | grind -ring -linarith

theorem decide (result : l.result = some .decide) :
    Sound { l with result := some (.erase (!l.isContinuous || l.needCancel)) } := by
  cases sound
  constructor <;> first | assumption | grind -ring -linarith

theorem erase {isEnded : Bool} (result : l.result = some (.erase isEnded))
    (orderly : isEnded = true → l.transit = 1 → l.held ≠ some .started ∧ (l.isContinuous = true → l.cancelCalls = 0)) :
    Sound { l with
      transit := l.transit - 1
      returned := l.returned + 1
      result := some .receive
      ended := l.ended || (isEnded && l.transit - 1 = 0) } := by
  cases sound
  constructor <;> first | assumption | grind -ring -linarith

theorem receive (result : l.result ≠ none) : Sound { l with result := some .last } := by
  cases sound
  constructor <;> first | assumption | grind -ring -linarith

theorem last : Sound { l with result := none } := by
  cases sound
  constructor <;> first | assumption | grind -ring -linarith

theorem finish (waiting : l.waiting = false) (held : l.held = none) (home : ¬ l.InFrame) {ended : Bool}
    (gone : 0 < l.transit → ended = true)
    (own : ended = true → 0 < l.transit ∧ l.isContinuous = true ∧ l.ended = false ∧ l.cancelCalls = 0) :
    Sound { l with
      transit := 0
      ended := l.ended || ended
      stopped := l.stopped || l.added = .queued } := by
  cases sound
  constructor <;> first | assumption | grind -ring -linarith

end

end Sound

end

end Life

/-- What the thread does with a request. -/
def RequestThread.held : RequestThread → Int → Option ThreadPhase
  | .holds j phase, k => if j = k then some phase else Option.none
  | .none, _ | .loop, _ | .take, _ => Option.none

@[simp] theorem RequestThread.held_holds (j k : Int) (phase : ThreadPhase) :
    (RequestThread.holds j phase).held k = if j = k then some phase else Option.none := rfl

theorem RequestThread.held_eq_some {thread : RequestThread} {k : Int} {phase : ThreadPhase} :
    thread.held k = some phase ↔ thread = .holds k phase := by
  cases thread <;> simp [RequestThread.held]

/-- What the thread of the results does with a request. -/
def framePhase : Option (Int × FramePhase) → Int → Option FramePhase
  | some (j, phase), k => if j = k then some phase else none
  | none, _ => none

@[simp] theorem framePhase_some (j k : Int) (phase : FramePhase) :
    framePhase (some (j, phase)) k = if j = k then some phase else none := rfl

/-- What a capture is to the stream. -/
def StreamBase.life (s : StreamBase) (k : Int) : Life where
  added := (s.requests k).added
  isContinuous := (s.requests k).isContinuous
  needCancel := (s.requests k).needCancel
  waiting := k ∈ s.waitingList
  held := s.thread.held k
  transit := s.inTransitList.count k
  result := framePhase s.result k
  erasing := s.erasing k
  checking := s.checking k
  stopErasing := s.stop = some (.erase k)
  stopChecking := s.stop = some (.check k)
  ended := (.ended, k) ∈ s.reported
  stopped := s.stopped k
  cancelled := k ∈ s.cancelled
  captured := s.captured k
  returned := s.returned k
  failed := s.failed

end Peripheral.Camera
