import Peripheral.CaptureLife

/-!
When a capture ends exactly once on its stream. Four parts of `stream_base.cpp` report
the end of a capture: the last frame, a cancel that finds nothing in transit, and in
`StopStream` the cancel of the first request and the last part. In a run where they do not
race for the same capture, and where no capture is dropped before it came to the
pipeline, every life on the stream stays sound.
-/
namespace Peripheral.Camera
open Peripheral.Transitions StreamBase Function List
open Option (some.injEq)

namespace StreamBase

def Ended (s : StreamBase) (k : Int) : Prop := (.ended, k) ∈ s.reported

/-- Behind the end of a capture nothing is reported for it. -/
def Closed (reported : List (StreamEvent × Int)) : Prop :=
  reported.Pairwise fun before after => before.1 = .ended → after.2 ≠ before.2

/-- The end of a capture is reported at most once and nothing behind it, and if the pipeline did not fail it was reported when
    the capture was cancelled and all frames returned, or the stream stopped, and no other cancel is going on. -/
structure EndsOnce (s : StreamBase) : Prop where
  once : ∀ k, s.reported.count (.ended, k) ≤ 1
  last : Closed s.reported
  ends : s.failed = false → ∀ k,
    (k ∈ s.cancelled ∧ s.captured k = s.returned k ∧ s.thread.held k = none) ∨ s.stopped k = true →
    (s.life k).cancelCalls = 0 → s.Ended k

/-- The last frame of a capture comes after the start was reported and while nobody cancels the capture. -/
def FrameOrderly (s : StreamBase) : Option (Int × FramePhase) → Prop
  | some (k, .erase true) => s.inTransitList.count k = 1 →
      s.thread ≠ .holds k .started ∧ ((s.requests k).isContinuous = true → (s.life k).cancelCalls = 0)
  | _ => True

/-- `StopStream` may cancel the first request, it finds no other one waiting, and in transit it finds at most the last one, a
    continuous capture that nobody ended. -/
def StopOrderly (s : StreamBase) : Option StopPhase → Prop
  | some .front => ∀ k ∈ s.waitingList.head?, (s.requests k).isContinuous = true → (s.life k).MayCancel
  | some .clear => s.waitingList = []
  | some .finish => ∀ k ∈ s.inTransitList, s.lastRequest = some k ∧ (s.requests k).isContinuous = true ∧ ¬ s.Ended k ∧
      (s.life k).cancelCalls = 0
  | _ => True

/-- Steps that neither race for the end of a capture nor lose one. -/
def Orderly (s : StreamBase) : StreamStep → Prop
  | .queueRequest _ => s.stop = none
  | .cancel k => (s.life k).MayCancel
  | .handleResult ofStream k status => status ≠ .invalid → ofStream = true → k ∈ s.inTransitList ∨ s.Ended k
  | .onFrame _ => s.FrameOrderly s.result
  | .proceedStop _ => s.StopOrderly s.stop
  | _ => True

instance (l : Life) : Decidable l.MayCancel := inferInstanceAs (Decidable (_ ∧ _))

instance (s : StreamBase) (k : Int) : Decidable (s.Ended k) := inferInstanceAs (Decidable (_ ∈ _))

instance (s : StreamBase) : (step : StreamStep) → Decidable (s.Possible step)
  | .configStream _ | .attachStreamTunnel | .detachStreamTunnel | .commitStream _ | .stopStream =>
    inferInstanceAs (Decidable (s.stop = none))
  | .addRequest k .. => inferInstanceAs (Decidable ((s.requests k).added = .unknown))
  | .cancel k | .setFirstRequest k _ => inferInstanceAs (Decidable ((s.requests k).added ≠ .unknown))
  | .cancelErase k => inferInstanceAs (Decidable (0 < s.erasing k))
  | .cancelCheck k => inferInstanceAs (Decidable (0 < s.checking k))
  | .handleResult .. => inferInstanceAs (Decidable (s.result = none ∧ _))
  | .queueRequest _ | .handleRequest .. | .onFrame _ | .proceedStop _ => inferInstanceAs (Decidable True)

instance (s : StreamBase) : (result : Option (Int × FramePhase)) → Decidable (s.FrameOrderly result)
  | some (_, .erase true) => inferInstanceAs (Decidable (_ → _ ∧ _))
  | none | some (_, .frame) | some (_, .decide) | some (_, .erase false) | some (_, .receive) | some (_, .last) =>
    inferInstanceAs (Decidable True)

instance (s : StreamBase) : (stop : Option StopPhase) → Decidable (s.StopOrderly stop)
  | some .front => inferInstanceAs (Decidable (∀ k ∈ s.waitingList.head?, _))
  | some .clear => inferInstanceAs (Decidable (s.waitingList = []))
  | some .finish => inferInstanceAs (Decidable (∀ k ∈ s.inTransitList, _))
  | none | some .join | some (.erase _) | some (.check _) | some .flush | some .wait | some .stop =>
    inferInstanceAs (Decidable True)

instance (s : StreamBase) : (step : StreamStep) → Decidable (s.Orderly step)
  | .queueRequest _ => inferInstanceAs (Decidable (s.stop = none))
  | .cancel k => inferInstanceAs (Decidable (s.life k).MayCancel)
  | .handleResult .. => inferInstanceAs (Decidable (_ → _ → _ ∨ _))
  | .onFrame _ => inferInstanceAs (Decidable (s.FrameOrderly s.result))
  | .proceedStop _ => inferInstanceAs (Decidable (s.StopOrderly s.stop))
  | .configStream _ | .attachStreamTunnel | .detachStreamTunnel | .commitStream _ | .addRequest .. | .setFirstRequest .. |
    .cancelErase _ | .cancelCheck _ | .handleRequest .. | .stopStream => inferInstanceAs (Decidable True)

end StreamBase

/-- What orderly steps keep. -/
structure Tracked (s : StreamBase) : Prop where
  lives : ∀ k, (s.life k).Sound
  distinct : s.waitingList.Nodup
  idle : s.stop ≠ none → s.state = .idle
  running : s.thread ≠ .none → s.state = .busy ∨ s.stop = some .join
  cleared : s.stop = some .flush ∨ s.stop = some .wait ∨ s.stop = some .stop ∨ s.stop = some .finish → s.waitingList = []
  home : s.stop = some .stop ∨ s.stop = some .finish → s.buffersReturned = true
  closed : Closed s.reported

variable {reported : List (StreamEvent × Int)}

theorem closed_report (closed : Closed reported) {k : Int} (going : (.ended, k) ∉ reported)
    (event : StreamEvent) : Closed (reported ++ [(event, k)]) := by
  rw [Closed, pairwise_append]
  refine ⟨closed, pairwise_singleton .., ?_⟩
  rintro ⟨before, j⟩ member last single
  rw [mem_singleton] at single
  subst single
  rintro (is : before = .ended)
  rintro (same : k = j)
  subst is same
  exact going member

theorem closed_append (closed : Closed reported) {k : Int} (going : (.ended, k) ∉ reported)
    {events : List StreamEvent} (none : .ended ∉ events) : Closed (reported ++ events.map (·, k)) := by
  induction events generalizing reported with
  | nil => simpa using closed
  | cons event rest later =>
    rw [mem_cons, not_or] at none
    have first := later (closed_report closed going event) (by simp [going, none.1]) none.2
    simpa using first

theorem closed_count (closed : Closed reported) (k : Int) : reported.count (.ended, k) ≤ 1 := by
  by_contra more
  have twice : List.Sublist [(StreamEvent.ended, k), (StreamEvent.ended, k)] reported :=
    replicate_sublist_iff.mpr (by omega : 2 ≤ reported.count (StreamEvent.ended, k))
  have pair := List.Pairwise.sublist twice closed
  simp at pair

namespace Tracked
variable {s : StreamBase} {j : Int}

theorem endsOnce (tracked : Tracked s) : s.EndsOnce := by
  refine ⟨closed_count tracked.closed, tracked.closed, ?_⟩
  intro succeeded k done quiet
  have ended := (tracked.lives k).reported succeeded (by simpa [life] using done) quiet
  simpa [life, StreamBase.Ended] using ended

theorem new : Tracked .new := by
  constructor <;> simp [StreamBase.new, Closed]
  intro k
  constructor <;>
    simp [StreamBase.life, RequestThread.held, framePhase, StreamBase.unknownRequest, Life.cancelCalls, Life.InFrame]

variable {t : StreamBase}

section
variable (tracked : Tracked s)
include tracked

theorem same (lives : ∀ k, t.life k = s.life k) (waiting : t.waitingList = s.waitingList)
    (stop : t.stop = s.stop) (result : t.result = s.result) (thread : t.thread = s.thread) (reported : t.reported = s.reported)
    (state : t.state = s.state ∨ (s.stop = none ∧ s.state ≠ .busy)) : Tracked t := by
  constructor
  · intro k
    rw [lives]
    exact tracked.lives k
  · rw [waiting]
    exact tracked.distinct
  · rw [stop]
    intro stopping
    obtain kept | ⟨none, -⟩ := state
    · rw [kept]
      exact tracked.idle stopping
    · exact absurd none stopping
  · rw [thread, stop]
    intro runs
    obtain kept | ⟨none, notBusy⟩ := state
    · rw [kept]
      exact tracked.running runs
    · obtain busy | join := tracked.running runs
      · exact absurd busy notBusy
      · rw [none] at join
        cases join
  · rw [stop, waiting]
    exact tracked.cleared
  · rw [stop, buffersReturned, result]
    exact tracked.home
  · rw [reported]
    exact tracked.closed

theorem configStream (tunnelMode : Bool) : Tracked (s.configStream tunnelMode) := by
  rw [StreamBase.configStream]
  split
  · exact tracked
  · exact tracked.same (fun _ => rfl) rfl rfl rfl rfl rfl (.inl rfl)

theorem attachStreamTunnel : Tracked s.attachStreamTunnel := by
  rw [StreamBase.attachStreamTunnel]
  split
  · exact tracked
  · exact tracked.same (fun _ => rfl) rfl rfl rfl rfl rfl (.inl rfl)

theorem detachStreamTunnel (free : s.stop = none) : Tracked s.detachStreamTunnel := by
  rw [StreamBase.detachStreamTunnel]
  split
  · exact tracked
  · rename_i rests
    exact tracked.same (fun _ => rfl) rfl rfl rfl rfl rfl (.inr ⟨free, fun busy => rests (.inl busy)⟩)

theorem commitStream (free : s.stop = none) (outcome : CommitOutcome) : Tracked (s.commitStream outcome) := by
  rw [StreamBase.commitStream]
  split
  · exact tracked
  · rename_i idle
    have notBusy : s.state ≠ .busy := by
      intro busy
      exact idle (by rw [busy]; decide)
    dsimp only
    repeat' split
    all_goals exact tracked.same (fun _ => rfl) rfl rfl rfl rfl rfl (.inr ⟨free, notBusy⟩)

end

theorem life_setRequest (s : StreamBase) (j k : Int) (request : StreamRequest) : (s.setRequest j request).life k =
    if k = j then { s.life j with
      added := request.added
      isContinuous := request.isContinuous
      needCancel := request.needCancel }
    else s.life k := by
  by_cases same : k = j
  · subst same
    rw [if_pos rfl, setRequest]
    simp only [life, update_self]
  · rw [if_neg same, setRequest]
    simp only [life, update_of_ne same]

section
variable (tracked : Tracked s)
include tracked

theorem setRequest {request : StreamRequest} (sound : Life.Sound { s.life j with
      added := request.added
      isContinuous := request.isContinuous
      needCancel := request.needCancel }) : Tracked (s.setRequest j request) := by
  refine ⟨?_, tracked.distinct, tracked.idle, tracked.running, tracked.cleared, tracked.home, tracked.closed⟩
  intro k
  rw [life_setRequest]
  split
  · exact sound
  · exact tracked.lives k

theorem startStream (prepared started : Bool) (alive : (s.startStream prepared started).1.crashed = false) :
    Tracked (s.startStream prepared started).1 ∧ ∀ k, ((s.startStream prepared started).1.requests k) = s.requests k := by
  have fails : Tracked { s with failed := true } :=
    ⟨fun k => (tracked.lives k).fail, tracked.distinct, tracked.idle, tracked.running, tracked.cleared, tracked.home,
      tracked.closed⟩
  have begins {t : StreamBase} (tracked : Tracked t) (active : t.state = .active) :
      Tracked { t with state := .busy, thread := .loop } := by
    have free : t.stop = none := by
      by_contra stopping
      have idle := tracked.idle stopping
      rw [active] at idle
      cases idle
    have none : t.thread = .none := by
      by_contra runs
      obtain busy | join := tracked.running runs
      · rw [active] at busy
        cases busy
      · rw [free] at join
        cases join
    have held (k : Int) : ({ t with state := .busy, thread := .loop } : StreamBase).life k = t.life k := by
      simp only [life, RequestThread.held, none]
    exact ⟨fun k => by rw [held]; exact tracked.lives k, tracked.distinct, fun stopping => absurd free stopping,
      fun _ => .inl rfl, tracked.cleared, tracked.home, tracked.closed⟩
  revert alive
  rw [StreamBase.startStream]
  split
  · exact fun _ => ⟨tracked, fun _ => rfl⟩
  · split
    · exact fun _ => ⟨tracked, fun _ => rfl⟩
    · rename_i active
      have active : s.state = .active := by simpa using active
      split
      · intro crashed
        cases crashed
      · split
        · exact fun _ => ⟨fails, fun _ => rfl⟩
        · split
          · exact fun _ => ⟨begins fails active, fun _ => rfl⟩
          · exact fun _ => ⟨begins tracked active, fun _ => rfl⟩

theorem addRequest (unknown : (s.requests j).added = .unknown) {isContinuous needShutterCallback prepared started : Bool}
    (alive : (s.addRequest j isContinuous needShutterCallback prepared started).crashed = false) :
    Tracked (s.addRequest j isContinuous needShutterCallback prepared started) := by
  have add {t : StreamBase} (tracked : Tracked t) (same : t.requests j = s.requests j) {added : AddPhase}
      (notYet : added ≠ .queued) (first : Bool) :
      Tracked (t.setRequest j ⟨added, isContinuous, needShutterCallback, false, first⟩) :=
    tracked.setRequest ((tracked.lives j).add (by rw [life, same]; exact unknown) notYet isContinuous)
  revert alive
  rw [StreamBase.addRequest]
  split
  · have starts := tracked.startStream prepared started
    dsimp only
    split
    · intro alive
      obtain ⟨tracked, same⟩ := starts alive
      have first : Tracked { (s.startStream prepared started).1 with isFirstRequest := false } :=
        tracked.same (fun _ => rfl) rfl rfl rfl rfl rfl (.inl rfl)
      exact add first (same j) (by decide) true
    · intro alive
      obtain ⟨tracked, same⟩ := starts alive
      exact add tracked (same j) (by decide) false
  · intro _
    exact add tracked rfl (by decide) false

theorem queueRequest (free : s.stop = none) : Tracked (s.queueRequest j) := by
  rw [StreamBase.queueRequest]
  split
  · rename_i toQueue
    have absent : j ∉ s.waitingList := by
      have known := (tracked.lives j).known (by simp [life, toQueue])
      simpa [life] using known.1
    constructor
    · intro k
      rw [life_setRequest]
      split
      · simp only [life, mem_append, mem_singleton, or_true, decide_true]
        exact (tracked.lives j).queue toQueue
      · rename_i other
        simp only [life, mem_append, mem_singleton, other, or_false]
        exact tracked.lives k
    · exact nodup_append'.mpr ⟨tracked.distinct, nodup_singleton j, by simpa using absent⟩
    · exact tracked.idle
    · exact tracked.running
    · intro stopping
      rw [StreamBase.setRequest, free] at stopping
      simp at stopping
    · exact tracked.home
    · exact tracked.closed
  · exact tracked

theorem cancel (may : (s.life j).MayCancel) : Tracked (s.perform (.cancel j)) := by
  refine ⟨?_, tracked.distinct, tracked.idle, tracked.running, tracked.cleared, tracked.home, tracked.closed⟩
  intro k
  by_cases same : k = j
  · subst same
    simp only [StreamBase.perform, StreamBase.setNeedCancel, StreamBase.setRequest, StreamBase.life, update_self]
    exact (tracked.lives k).cancel may
  · simp only [StreamBase.perform, StreamBase.setNeedCancel, StreamBase.setRequest, StreamBase.life, update_of_ne same]
    exact tracked.lives k

theorem cancelErase (calls : 0 < s.erasing j) : Tracked (s.perform (.cancelErase j)) := by
  refine ⟨?_, tracked.distinct.erase j, tracked.idle, tracked.running, ?_, tracked.home, tracked.closed⟩
  · intro k
    by_cases same : k = j
    · subst same
      simp only [perform, cancelErase, life, update_self,
        tracked.distinct.mem_erase_iff, ne_eq, not_true_eq_false, false_and, decide_false]
      exact (tracked.lives k).cancelErase calls
    · simp only [StreamBase.perform, StreamBase.cancelErase, StreamBase.life, update_of_ne same, tracked.distinct.mem_erase_iff,
      ne_eq, same, not_false_eq_true, true_and]
      exact tracked.lives k
  · intro stopping
    simp only [StreamBase.perform, StreamBase.cancelErase, tracked.cleared stopping, erase_nil]

theorem cancelCheck_spec (alive : (s.cancelCheck j).crashed = false)
    (calls : 0 < (s.life j).cancelCalls) :
    ∃ reported, s.cancelCheck j = { s with reported := reported } ∧ Closed reported ∧
      (∀ k, k ≠ j → decide ((.ended, k) ∈ reported) = (s.life k).ended) ∧
      decide ((.ended, j) ∈ reported) = ((s.life j).ended || ((s.life j).isContinuous && (s.life j).transit = 0)) := by
  revert alive
  rw [cancelCheck]
  split
  · rename_i free
    split
    · intro crashed
      cases crashed
    · intro _
      have going : (s.life j).ended = false := ((tracked.lives j).alone free.1).2 calls
      refine ⟨_, rfl, closed_report tracked.closed (by simpa [life] using going) .ended, ?_, ?_⟩
      · intro k differs
        simp [life, differs]
      · have transit : (s.life j).transit = 0 := count_eq_zero.mpr free.2
        have continuous : (s.life j).isContinuous = true := free.1
        simp [transit, continuous]
  · rename_i stays
    intro _
    refine ⟨s.reported, rfl, tracked.closed, fun _ _ => rfl, ?_⟩
    have none : ((s.life j).isContinuous && decide ((s.life j).transit = 0)) = false := by
      simp only [life, Bool.and_eq_false_iff, decide_eq_false_iff_not, count_eq_zero]
      by_cases continuous : (s.requests j).isContinuous = true
      · exact .inr fun absent => stays ⟨continuous, absent⟩
      · exact .inl (by simpa using continuous)
    rw [none, Bool.or_false]
    rfl

theorem cancelCheck (calls : 0 < s.checking j) (alive : (s.perform (.cancelCheck j)).crashed = false) :
    Tracked (s.perform (.cancelCheck j)) := by
  have going : 0 < (s.life j).cancelCalls := by
    simp only [Life.cancelCalls, life]
    omega
  obtain ⟨reported, same, closed, others, own⟩ := tracked.cancelCheck_spec alive going
  simp only [perform, same]
  refine ⟨?_, tracked.distinct, tracked.idle, tracked.running, tracked.cleared, tracked.home, closed⟩
  intro k
  by_cases same : k = j
  · subst same
    simp only [life, update_self, mem_append, mem_singleton, or_true, decide_true, own]
    exact (tracked.lives k).cancelCheck calls
  · simp only [life, update_of_ne same, mem_append, mem_singleton, same, or_false, others k same]
    exact tracked.lives k

/-! ### The thread and the results -/

theorem goOn (lives : ∀ k, (t.life k).Sound)
    (waiting : t.waitingList.Sublist s.waitingList) (stop : t.stop = s.stop) (state : t.state = s.state)
    (running : t.thread ≠ .none → s.thread ≠ .none)
    (home : s.stop = some .stop ∨ s.stop = some .finish → t.buffersReturned = true) (closed : Closed t.reported) :
    Tracked t := by
  refine ⟨lives, tracked.distinct.sublist waiting, ?_, ?_, ?_, ?_, closed⟩
  · rw [stop, state]
    exact tracked.idle
  · rw [stop, state]
    exact fun runs => tracked.running (running runs)
  · rw [stop]
    intro stopping
    have empty := tracked.cleared stopping
    rw [empty] at waiting
    exact sublist_nil.mp waiting
  · rw [stop]
    exact home

variable {phase : ThreadPhase}

theorem goThread (now : s.thread = .holds j phase)
    (others : ∀ k, k ≠ j → t.life k = s.life k) (own : (t.life j).Sound) (waiting : t.waitingList = s.waitingList)
    (stop : t.stop = s.stop) (state : t.state = s.state) (result : t.result = s.result) (closed : Closed t.reported) :
    Tracked t := by
  refine tracked.goOn ?_ (by rw [waiting]) stop state (fun _ => by rw [now]; exact nofun) ?_ closed
  · intro k
    by_cases same : k = j
    · rw [same]
      exact own
    · rw [others k same]
      exact tracked.lives k
  · rw [buffersReturned, result]
    exact tracked.home

theorem goLoop (now : s.thread = .holds j phase)
    (sound : Life.Sound { s.life j with held := none }) : Tracked { s with thread := .loop } := by
  refine tracked.goThread now ?_ sound rfl rfl rfl rfl tracked.closed
  intro k differs
  simp only [life, now, RequestThread.held, if_neg (Ne.symm differs)]

theorem goPhase {phase next : ThreadPhase} (now : s.thread = .holds j phase)
    (sound : Life.Sound { s.life j with held := some next }) : Tracked { s with thread := .holds j next } := by
  refine tracked.goThread now ?_ ?_ rfl rfl rfl rfl tracked.closed
  · intro k differs
    simp only [life, now, RequestThread.held, if_neg (Ne.symm differs)]
  · simp only [life, RequestThread.held, if_pos]
    exact sound

theorem failed : Tracked { s with failed := true } :=
  ⟨fun k => (tracked.lives k).fail, tracked.distinct, tracked.idle, tracked.running, tracked.cleared, tracked.home, tracked.closed⟩

theorem refuse (now : s.thread = .holds j phase) (early : phase ≠ .push) :
    Tracked { s with thread := .loop, failed := true } := by
  have sound : Life.Sound { ({ s with failed := true } : StreamBase).life j with held := none } := by
    refine (tracked.lives j).refuse ?_
    simpa [life, now] using early
  exact tracked.failed.goLoop now sound

theorem takeRequest {rest : List Int} (now : s.thread = .take) (waits : s.waitingList = j :: rest) :
    Tracked { s with
      waitingList := if (s.requests j).isContinuous then j :: rest else rest
      thread := .holds j .check } := by
  have distinct := tracked.distinct
  rw [waits, nodup_cons] at distinct
  refine tracked.goOn ?_ ?_ rfl rfl (fun _ => by rw [now]; exact nofun) tracked.home tracked.closed
  · intro k
    by_cases same : k = j
    · subst same
      have sound :=
        (tracked.lives k).take (by simp [life, waits]) (by simp [life, now, RequestThread.held])
      have waiting : (k ∈ if (s.requests k).isContinuous then k :: rest else rest) ↔ (s.requests k).isContinuous = true := by
        split <;> simp_all
      simp only [life, RequestThread.held, if_pos, waiting, Bool.decide_eq_true]
      exact sound
    · have waiting : (k ∈ if (s.requests j).isContinuous then j :: rest else rest) ↔ k ∈ s.waitingList := by
        rw [waits]
        split <;> simp [same]
      have sound := tracked.lives k
      simp only [life, now, RequestThread.held] at sound
      simp only [life, RequestThread.held, if_neg (Ne.symm same), waiting]
      exact sound
  · rw [waits]
    split
    · exact List.Sublist.refl _
    · exact sublist_cons_self j rest

theorem pushRequest (now : s.thread = .holds j .push) :
    Tracked { s with thread := .holds j .started, inTransitList := s.inTransitList ++ [j] } := by
  refine tracked.goThread now ?_ ?_ rfl rfl rfl rfl tracked.closed
  · intro k differs
    simp [life, now, Ne.symm differs]
  · have sound := (tracked.lives j).push (by simp [life, now])
    simpa [life, RequestThread.held] using sound

end

theorem life_reported (s : StreamBase) {k : Int}
    (same : (.ended, k) ∈ reported ↔ (.ended, k) ∈ s.reported) :
    ({ s with reported := reported } : StreamBase).life k = s.life k := by
  simp only [life, same]

section
variable (tracked : Tracked s)
include tracked

theorem reportStarted (now : s.thread = .holds j .started) :
    Tracked { (s.report .started j).setRequest j { s.requests j with isFirstRequest := false } with thread := .loop } := by
  have sound := tracked.lives j
  have going : (.ended, j) ∉ s.reported := by
    intro ended
    have free := (sound.ended (by simpa [life] using ended)).2.2.1
    simp [life, now, Life.committed, ThreadPhase.committed] at free
  have life (k : Int) :
      ({ (s.report .started j).setRequest j { s.requests j with isFirstRequest := false } with thread := .loop } : StreamBase).life k =
        { s.life k with held := none } := by
    refine (life_reported { s.setRequest j { s.requests j with isFirstRequest := false } with thread := .loop }
      (by simp [StreamBase.setRequest, StreamBase.report])).trans ?_
    by_cases same : k = j
    · subst same
      simp only [StreamBase.life, StreamBase.setRequest, update_self, RequestThread.held]
      rfl
    · simp only [StreamBase.life, StreamBase.setRequest, update_of_ne same, RequestThread.held]
      rfl
  refine tracked.goThread now ?_ ?_ rfl rfl rfl rfl (closed_report tracked.closed going .started)
  · intro k differs
    rw [life]
    simp only [StreamBase.life, now, RequestThread.held, if_neg (Ne.symm differs)]
  · rw [life]
    exact sound.started (by simp [StreamBase.life, now])

theorem handleRequest (delivered succeeds : Bool) : Tracked (s.handleRequest delivered succeeds) := by
  cases now : s.thread with
  | none =>
    simp only [StreamBase.handleRequest, now]
    exact tracked
  | loop =>
    simp only [StreamBase.handleRequest, now]
    have idle {next : RequestThread} (free : ∀ k, next.held k = none) : Tracked { s with thread := next } := by
      refine tracked.goOn ?_ (List.Sublist.refl _) rfl rfl (fun _ => by rw [now]; exact nofun) tracked.home tracked.closed
      intro k
      have sound := tracked.lives k
      simp only [StreamBase.life, now] at sound
      simp only [StreamBase.life, free]
      exact sound
    split
    · exact idle fun _ => rfl
    · split
      · exact tracked
      · exact idle fun _ => rfl
  | take =>
    cases waits : s.waitingList with
    | nil =>
      simp only [StreamBase.handleRequest, now, waits]
      refine tracked.goOn ?_ (by rw [waits]) rfl rfl (fun _ => by rw [now]; exact nofun) tracked.home tracked.closed
      intro k
      have sound := tracked.lives k
      simp only [StreamBase.life, now, waits] at sound
      exact sound
    | cons j rest =>
      simp only [StreamBase.handleRequest, now, waits]
      exact tracked.takeRequest now waits
  | holds j phase =>
    have sound := tracked.lives j
    have held : (s.life j).held = some phase := by simp [StreamBase.life, now]
    cases phase with
    | check =>
      simp only [StreamBase.handleRequest, now]
      split
      · rename_i cancelled
        exact tracked.goLoop now (sound.drop cancelled (.inl held))
      · rename_i going
        split
        · exact tracked.refuse now (by decide)
        · exact tracked.goPhase now (sound.goTo held (by decide) (.inl rfl))
    | deliver =>
      simp only [StreamBase.handleRequest, now]
      split
      · exact tracked.goPhase now (sound.goTo held (by decide) (.inl rfl))
      · exact tracked
    | recheck =>
      simp only [StreamBase.handleRequest, now]
      split
      · rename_i cancelled
        exact tracked.goLoop now (sound.drop cancelled (.inr held))
      · rename_i going
        exact tracked.goPhase now (sound.goTo held (by decide) (.inr (by simpa [StreamBase.life] using going)))
    | config =>
      simp only [StreamBase.handleRequest, now]
      split
      · exact tracked.goPhase now (sound.goTo held (by decide) (.inl rfl))
      · exact tracked.refuse now (by decide)
    | capture =>
      simp only [StreamBase.handleRequest, now]
      split
      · refine tracked.goThread now ?_ ?_ rfl rfl rfl rfl tracked.closed
        · intro k differs
          simp [StreamBase.life, now, differs, Ne.symm differs]
        · simpa [StreamBase.life] using sound.capture held
      · exact tracked.refuse now (by decide)
    | push =>
      simp only [StreamBase.handleRequest, now]
      exact tracked.pushRequest now
    | started =>
      simp only [StreamBase.handleRequest, now]
      split
      · exact tracked.reportStarted now
      · exact tracked.goLoop now (sound.started held)

theorem goFrame (others : ∀ k, k ≠ j → t.life k = s.life k) (own : (t.life j).Sound)
    (waiting : t.waitingList = s.waitingList) (stop : t.stop = s.stop) (state : t.state = s.state)
    (thread : t.thread = s.thread)
    (home : s.buffersReturned = true → t.buffersReturned = true) (closed : Closed t.reported) : Tracked t := by
  refine tracked.goOn ?_ (by rw [waiting]) stop state (fun runs => by rwa [← thread]) ?_ closed
  · intro k
    by_cases same : k = j
    · rw [same]
      exact own
    · rw [others k same]
      exact tracked.lives k
  · exact fun stopping => home (tracked.home stopping)

theorem handleResult {ofStream : Bool} {status : CameraBufferStatus}
    (possible : s.Possible (.handleResult ofStream j status)) (orderly : s.Orderly (.handleResult ofStream j status)) :
    Tracked (s.handleResult ofStream j status) := by
  obtain ⟨idle, notStop, notFinish⟩ := possible
  rw [StreamBase.handleResult]
  split
  · exact tracked
  · rename_i valid
    rw [not_or, Bool.not_eq_false] at valid
    split
    · rename_i transit
      refine tracked.goOn ?_ (List.Sublist.refl _) rfl rfl id ?_ tracked.closed
      · intro k
        by_cases same : k = j
        · subst same
          have sound := (tracked.lives k).found (by simpa [life, count_pos_iff] using transit)
          simpa [life] using sound
        · have sound := tracked.lives k
          simp only [life, idle, framePhase] at sound
          simpa [life, Ne.symm same] using sound
      · rintro (stopping | stopping)
        · exact absurd stopping notStop
        · exact absurd stopping notFinish
    · rename_i absent
      have ended : s.Ended j := (orderly valid.1 valid.2).resolve_left absent
      refine tracked.goFrame (j := j) ?_ ?_ rfl rfl rfl rfl id tracked.closed
      · intro k differs
        simp [life, differs]
      · have sound := (tracked.lives j).lost (by simpa [life, StreamBase.Ended] using ended)
        simpa [life] using sound

theorem eraseRequest {isEnded : Bool} (now : s.result = some (j, .erase isEnded))
    (orderly : isEnded = true → s.inTransitList.count j = 1 →
      s.thread ≠ .holds j .started ∧ ((s.requests j).isContinuous = true → (s.life j).cancelCalls = 0))
    (reports : reported = if isEnded ∧ j ∉ s.inTransitList.erase j then s.reported ++ [(.ended, j)] else s.reported) :
    Tracked { s with
      inTransitList := s.inTransitList.erase j
      returned := update s.returned j (s.returned j + 1)
      result := some (j, .receive)
      reported := reported } := by
  have sound := tracked.lives j
  have result : (s.life j).result = some (.erase isEnded) := by simp [life, now]
  have going : (.ended, j) ∉ s.reported := by
    intro ended
    have gone := (sound.ended (by simpa [life] using ended)).2.1
    have transit := sound.framed (.inr (.inr ⟨isEnded, result⟩))
    omega
  have away : s.buffersReturned = false := by rw [buffersReturned, now]
  have left : j ∉ s.inTransitList.erase j ↔ s.inTransitList.count j - 1 = 0 := by
    rw [← count_eq_zero, count_erase_self]
  refine tracked.goFrame (j := j) ?_ ?_ rfl rfl rfl rfl (by rw [away]; exact nofun) ?_
  · intro k differs
    have ended : (.ended, k) ∈ reported ↔ (.ended, k) ∈ s.reported := by
      rw [reports]
      split <;> simp [differs]
    simp only [life, now, ended, count_erase_of_ne differs, update_of_ne differs, framePhase, if_neg (Ne.symm differs)]
  · have ended : decide ((.ended, j) ∈ reported) = ((s.life j).ended || (isEnded && (s.life j).transit - 1 = 0)) := by
      rw [reports]
      simp only [life, left]
      split <;> simp_all
    simp only [life, ended, count_erase_self, update_self, framePhase, if_pos]
    refine sound.erase result ?_
    intro ends once
    obtain ⟨notStarted, quiet⟩ := orderly ends once
    exact ⟨fun started => notStarted (RequestThread.held_eq_some.mp started), quiet⟩
  · rw [reports]
    split
    · exact closed_report tracked.closed going .ended
    · exact tracked.closed

end

theorem ended_notMem_frameEvents (request : StreamRequest) (status : CameraBufferStatus) :
    .ended ∉ frameEvents request status := by
  rw [frameEvents]
  split <;> split <;> decide

theorem onFrame (tracked : Tracked s) {status : CameraBufferStatus} (orderly : s.Orderly (.onFrame status))
    (alive : (s.onFrame status).crashed = false) : Tracked (s.onFrame status) := by
  cases now : s.result with
  | none =>
    simp only [StreamBase.onFrame, now]
    exact tracked
  | some call =>
    obtain ⟨j, phase⟩ := call
    have sound := tracked.lives j
    have result : (s.life j).result = some phase := by simp [life, now]
    have goes {next : FramePhase} (away : s.buffersReturned = false ∨ next = .last)
        (sound : Life.Sound { s.life j with result := some next }) : Tracked { s with result := some (j, next) } := by
      refine tracked.goFrame (j := j) ?_ ?_ rfl rfl rfl rfl ?_ tracked.closed
      · intro k differs
        simp [life, now, Ne.symm differs]
      · simpa [life] using sound
      · obtain away | rfl := away
        · rw [away]
          exact nofun
        · exact fun _ => rfl
    cases phase with
    | frame =>
      have away : s.buffersReturned = false := by rw [buffersReturned, now]
      simp only [StreamBase.onFrame, now]
      split
      · exact goes (.inr rfl) (sound.receive (by rw [result]; decide))
      · have going : (.ended, j) ∉ s.reported := by
          intro ended
          have gone := (sound.ended (by simpa [life] using ended)).2.1
          have transit := sound.framed (.inl result)
          omega
        have frames := ended_notMem_frameEvents (s.requests j) status
        have lives (k : Int) : ({ s with
            reported := s.reported ++ (frameEvents (s.requests j) status).map (·, j)
            result := some (j, .decide) } : StreamBase).life k = ({ s with result := some (j, .decide) } : StreamBase).life k := by
          refine life_reported { s with result := some (j, .decide) } ?_
          simp [frames]
        have decides := goes (.inl away) (sound.frame result)
        exact ⟨fun k => by rw [lives]; exact decides.lives k, decides.distinct, decides.idle, decides.running,
          decides.cleared,
          decides.home, closed_append tracked.closed going frames⟩
    | decide =>
      have away : s.buffersReturned = false := by rw [buffersReturned, now]
      simp only [StreamBase.onFrame, now]
      exact goes (.inl away) (sound.decide result)
    | erase isEnded =>
      have orderly : isEnded = true → s.inTransitList.count j = 1 →
          s.thread ≠ .holds j .started ∧ ((s.requests j).isContinuous = true → (s.life j).cancelCalls = 0) := by
        rintro rfl
        simpa only [StreamBase.Orderly, StreamBase.FrameOrderly, now] using orderly
      revert alive
      simp only [StreamBase.onFrame, now]
      split
      · rename_i ends
        split
        · intro crashed
          cases crashed
        · intro _
          exact tracked.eraseRequest now orderly (if_pos ends).symm
      · rename_i goes
        intro _
        exact tracked.eraseRequest now orderly (if_neg goes).symm
    | receive =>
      simp only [StreamBase.onFrame, now]
      exact goes (.inr rfl) (sound.receive (by rw [result]; decide))
    | last =>
      simp only [StreamBase.onFrame, now]
      refine tracked.goFrame (j := j) ?_ ?_ rfl rfl rfl rfl (fun _ => rfl) tracked.closed
      · intro k differs
        simp [life, now, Ne.symm differs, framePhase]
      · simpa [life, framePhase] using sound.last

theorem stopStream (tracked : Tracked s) (free : s.stop = none) (alive : s.stopStream.crashed = false) :
    Tracked s.stopStream := by
  revert alive
  rw [StreamBase.stopStream]
  split
  · exact fun _ => tracked
  · split
    · exact fun _ => tracked
    · split
      · intro crashed
        cases crashed
      · intro _
        refine ⟨?_, tracked.distinct, fun _ => rfl, fun _ => .inr rfl, ?_, ?_, tracked.closed⟩
        · intro k
          have sound := tracked.lives k
          simp only [life, free] at sound
          exact sound
        · rintro (stopping | stopping | stopping | stopping) <;> cases stopping
        · rintro (stopping | stopping) <;> cases stopping

def apart : StopPhase → Bool
  | .erase _ | .check _ => false
  | .join | .front | .clear | .flush | .wait | .stop | .finish => true

theorem ne_of_apart {phase : StopPhase} (away : apart phase = true) (k : Int) : phase ≠ .erase k ∧ phase ≠ .check k := by
  constructor <;> rintro rfl <;> cases away

section
variable (tracked : Tracked s)
include tracked

theorem goStop {phase next : StopPhase} (now : s.stop = some phase) (joined : s.thread = .none)
    (away : apart phase = true ∧ apart next = true)
    (cleared : next = .flush ∨ next = .wait ∨ next = .stop ∨ next = .finish → s.waitingList = [])
    (home : next = .stop ∨ next = .finish → s.buffersReturned = true) :
    Tracked { s with stop := some next } := by
  refine ⟨?_, tracked.distinct, fun _ => tracked.idle (by rw [now]; exact nofun), fun runs => absurd joined runs, ?_, ?_,
    tracked.closed⟩
  · intro k
    have sound := tracked.lives k
    have before := ne_of_apart away.1 k
    have after := ne_of_apart away.2 k
    simp only [life, now, some.injEq, before.1, before.2] at sound
    simp only [life, some.injEq, after.1, after.2]
    exact sound
  · intro stopping
    simp only [some.injEq] at stopping
    exact cleared stopping
  · intro stopping
    simp only [some.injEq] at stopping
    exact home stopping

theorem joined {phase : StopPhase} (now : s.stop = some phase) (behind : phase ≠ .join) : s.thread = .none := by
  by_contra runs
  obtain busy | join := tracked.running runs
  · have idle := tracked.idle (by rw [now]; exact nofun)
    rw [busy] at idle
    cases idle
  · rw [now, some.injEq] at join
    exact behind join

theorem giveUp {phase : StopPhase} (now : s.stop = some phase) (joined : s.thread = .none)
    (away : apart phase = true) : Tracked { s with stop := none, failed := true } := by
  refine ⟨?_, tracked.distinct, fun stopping => absurd rfl stopping, fun runs => absurd joined runs, nofun, nofun,
    tracked.closed⟩
  intro k
  have sound := (tracked.lives k).fail
  have before := ne_of_apart away k
  simp only [life, now, some.injEq, before.1, before.2] at sound
  exact sound

theorem stopCancel (now : s.stop = some .front) (may : (s.life j).MayCancel) :
    Tracked { s.setNeedCancel j with stop := some (.erase j) } := by
  have joined := tracked.joined now (by decide)
  refine ⟨?_, tracked.distinct, fun _ => tracked.idle (by rw [now]; exact nofun), fun runs => absurd joined runs, nofun,
    nofun,
    tracked.closed⟩
  intro k
  have sound := tracked.lives k
  by_cases same : k = j
  · subst same
    have cancels := sound.stopCancel may (by simp [life, now])
    simp only [StreamBase.life, StreamBase.setNeedCancel, StreamBase.setRequest, update_self]
    simp only [life, now, decide_true, reduceCtorEq, some.injEq, decide_false] at cancels ⊢
    exact cancels
  · simp only [StreamBase.life, StreamBase.setNeedCancel, StreamBase.setRequest, update_of_ne same]
    simp only [StreamBase.life, now, reduceCtorEq, some.injEq, StopPhase.erase.injEq, Ne.symm same,
      decide_false] at sound ⊢
    exact sound

theorem stopErase (now : s.stop = some (.erase j)) :
    Tracked { s.cancelErase j with stop := some (.check j) } := by
  have joined := tracked.joined now nofun
  refine ⟨?_, tracked.distinct.erase j, fun _ => tracked.idle (by rw [now]; exact nofun), fun runs => absurd joined runs,
    nofun,
    nofun, tracked.closed⟩
  intro k
  have sound := tracked.lives k
  by_cases same : k = j
  · subst same
    have erases := sound.stopErase (by simp [StreamBase.life, now]) (by simp [StreamBase.life, now])
    simp [StreamBase.life, StreamBase.cancelErase, tracked.distinct.mem_erase_iff] at erases ⊢
    exact erases
  · simp [StreamBase.life, now, StreamBase.cancelErase, tracked.distinct.mem_erase_iff, same, Ne.symm same] at sound ⊢
    exact sound

theorem stopCheck (now : s.stop = some (.check j)) (alive : (s.cancelCheck j).crashed = false) :
    Tracked { s.cancelCheck j with stop := some .clear } := by
  have joined := tracked.joined now nofun
  have going : 0 < (s.life j).cancelCalls := by simp [Life.cancelCalls, StreamBase.life, now]
  obtain ⟨reported, same, closed, others, own⟩ := tracked.cancelCheck_spec alive going
  rw [same]
  refine ⟨?_, tracked.distinct, fun _ => tracked.idle (by rw [now]; exact nofun), fun runs => absurd joined runs, nofun,
    nofun,
    closed⟩
  intro k
  have sound := tracked.lives k
  by_cases same : k = j
  · subst same
    have checks := sound.stopCheck (by simp [life, now])
    simp only [life, own]
    simp [life, now] at checks ⊢
    exact checks
  · simp only [life, others k same]
    simp [life, now, Ne.symm same] at sound ⊢
    exact sound

theorem finished (now : s.stop = some .finish) {last : Int} (known : s.lastRequest = some last)
    (orderly : ∀ k ∈ s.inTransitList, s.lastRequest = some k ∧ (s.requests k).isContinuous = true ∧ ¬ s.Ended k ∧
      (s.life k).cancelCalls = 0)
    (reports : reported = if (s.requests last).isContinuous ∧ s.inTransitList ≠ [] then s.reported ++ [(.ended, last)]
      else s.reported) :
    Tracked { s with
      isFirstRequest := true
      inTransitList := []
      stop := none
      stopped := fun k => s.stopped k || (s.requests k).added = .queued
      reported := reported } := by
  have joined := tracked.joined now (by decide)
  have empty := tracked.cleared (.inr (.inr (.inr now)))
  have home := tracked.home (.inr now)
  have own (nonempty : s.inTransitList ≠ []) : last ∈ s.inTransitList := by
    obtain ⟨k, member⟩ := exists_mem_of_ne_nil _ nonempty
    have same := (orderly k member).1
    rw [known, some.injEq] at same
    rwa [same]
  refine ⟨?_, tracked.distinct, fun stopping => absurd rfl stopping, fun runs => absurd joined runs, nofun, nofun, ?_⟩
  · intro k
    have sound := tracked.lives k
    have ended : (.ended, k) ∈ reported ↔ (.ended, k) ∈ s.reported ∨ (k = last ∧ s.inTransitList ≠ []) := by
      rw [reports]
      split
      · rename_i both
        simp [both.2]
      · rename_i rests
        have none : s.inTransitList = [] := by
          by_contra nonempty
          exact rests ⟨(orderly last (own nonempty)).2.1, nonempty⟩
        simp [none]
    have framed : ¬ (s.life k).InFrame := by
      simp only [buffersReturned] at home
      split at home
      · rename_i none
        simp [Life.InFrame, life, none, framePhase]
      · rename_i known
        simp only [Life.InFrame, life, known, framePhase]
        split <;> simp
      · cases home
    have gone : 0 < (s.life k).transit → decide (k = last ∧ s.inTransitList ≠ []) = true := by
      intro transit
      have member : k ∈ s.inTransitList := count_pos_iff.mp transit
      have same := (orderly k member).1
      rw [known, some.injEq] at same
      simp [same, ne_nil_of_mem member]
    have reported : decide (k = last ∧ s.inTransitList ≠ []) = true → 0 < (s.life k).transit ∧ (s.life k).isContinuous = true ∧
        (s.life k).ended = false ∧ (s.life k).cancelCalls = 0 := by
      rw [decide_eq_true_iff]
      rintro ⟨rfl, nonempty⟩
      obtain ⟨-, continuous, going, quiet⟩ := orderly k (own nonempty)
      refine ⟨count_pos_iff.mpr (own nonempty), continuous, ?_, quiet⟩
      simpa [life, StreamBase.Ended] using going
    have finishes :=
      sound.finish (by simp [life, empty]) (by simp [life, joined, RequestThread.held]) framed
      gone reported
    simp only [life, ended, count_nil, Bool.decide_or]
    simp only [life, now, reduceCtorEq, some.injEq, decide_false] at finishes ⊢
    exact finishes
  · rw [reports]
    split
    · rename_i both
      exact closed_report tracked.closed (orderly last (own both.2)).2.2.1 .ended
    · exact tracked.closed

theorem proceedStop {succeeds : Bool} (orderly : s.Orderly (.proceedStop succeeds))
    (alive : (s.proceedStop succeeds).crashed = false) : Tracked (s.proceedStop succeeds) := by
  cases now : s.stop with
  | none =>
    simp only [StreamBase.proceedStop, now]
    exact tracked
  | some phase =>
    have joined := tracked.joined now
    simp only [StreamBase.Orderly, now] at orderly
    cases phase with
    | join =>
      simp only [StreamBase.proceedStop, now]
      split
      · rename_i ended
        exact tracked.goStop now ended ⟨rfl, rfl⟩ (by simp) (by simp)
      · exact tracked
    | front =>
      have clears : Tracked { s with stop := some .clear } :=
        tracked.goStop now (joined (by decide)) ⟨rfl, rfl⟩ (by simp) (by simp)
      cases waits : s.waitingList with
      | nil =>
        simp only [StreamBase.proceedStop, now, waits]
        simpa only [waits] using clears
      | cons k rest =>
        simp only [StreamBase.proceedStop, now, waits]
        split
        · rename_i continuous
          have may := orderly k (by rw [waits]; rfl) continuous
          exact tracked.stopCancel now may
        · simpa only [waits] using clears
    | erase k =>
      simp only [StreamBase.proceedStop, now]
      exact tracked.stopErase now
    | check k =>
      simp only [StreamBase.proceedStop, now] at alive ⊢
      exact tracked.stopCheck now alive
    | clear =>
      have empty : s.waitingList = [] := orderly
      have flushes : Tracked { s with stop := some .flush } :=
        tracked.goStop now (joined (by decide)) ⟨rfl, rfl⟩ (fun _ => empty) (by simp)
      simp only [StreamBase.proceedStop, now]
      simpa only [empty] using flushes
    | flush =>
      have empty := tracked.cleared (.inl now)
      revert alive
      simp only [StreamBase.proceedStop, now]
      split
      · intro crashed
        cases crashed
      · intro _
        split
        · exact tracked.goStop now (joined (by decide)) ⟨rfl, rfl⟩ (fun _ => empty) (by simp)
        · exact tracked.giveUp now (joined (by decide)) rfl
    | wait =>
      have empty := tracked.cleared (.inr (.inl now))
      revert alive
      simp only [StreamBase.proceedStop, now]
      split
      · intro crashed
        cases crashed
      · intro _
        split
        · rename_i home
          exact tracked.goStop now (joined (by decide)) ⟨rfl, rfl⟩ (fun _ => empty) (fun _ => home)
        · exact tracked
    | stop =>
      have empty := tracked.cleared (.inr (.inr (.inl now)))
      have home := tracked.home (.inl now)
      revert alive
      simp only [StreamBase.proceedStop, now]
      split
      · intro crashed
        cases crashed
      · intro _
        split
        · exact tracked.goStop now (joined (by decide)) ⟨rfl, rfl⟩ (fun _ => empty) (fun _ => home)
        · exact tracked.giveUp now (joined (by decide)) rfl
    | finish =>
      revert alive
      simp only [StreamBase.proceedStop, now, StreamBase.finishStop]
      split
      · intro crashed
        cases crashed
      · rename_i last known
        split
        · intro crashed
          cases crashed
        · split
          · rename_i ends
            split
            · intro crashed
              cases crashed
            · exact fun _ => tracked.finished now known orderly (if_pos ends).symm
          · rename_i rests
            split
            · intro crashed
              cases crashed
            · exact fun _ => tracked.finished now known orderly (if_neg rests).symm

theorem perform {step : StreamStep} (possible : s.Possible step) (orderly : s.Orderly step)
    (alive : (s.perform step).crashed = false) : Tracked (s.perform step) := by
  cases step with
  | configStream tunnelMode => exact tracked.configStream tunnelMode
  | attachStreamTunnel => exact tracked.attachStreamTunnel
  | detachStreamTunnel => exact tracked.detachStreamTunnel possible
  | commitStream outcome => exact tracked.commitStream possible outcome
  | addRequest => exact tracked.addRequest possible alive
  | queueRequest => exact tracked.queueRequest orderly
  | setFirstRequest k first => exact tracked.setRequest (tracked.lives k)
  | cancel => exact tracked.cancel orderly
  | cancelErase => exact tracked.cancelErase possible
  | cancelCheck => exact tracked.cancelCheck possible alive
  | handleRequest delivered succeeds => exact tracked.handleRequest delivered succeeds
  | handleResult => exact tracked.handleResult possible orderly
  | onFrame => exact tracked.onFrame orderly alive
  | stopStream => exact tracked.stopStream possible alive
  | proceedStop => exact tracked.proceedStop orderly alive

theorem step {step : StreamStep} (possible : s.Possible step) (orderly : s.Orderly step) : Tracked (s.step step) := by
  rw [StreamBase.step]
  split
  · exact tracked
  · split
    · exact tracked.same (fun _ => rfl) rfl rfl rfl rfl rfl (.inl rfl)
    · rename_i alive
      exact tracked.perform possible orderly (by simpa using alive)

end

end Tracked

/-- In an orderly run captures end once. -/
theorem captures_end_once {s : StreamBase}
    (reached : Reaches step (fun s e => s.Possible e ∧ s.Orderly e) .new s) : s.EndsOnce :=
  (reached.keeps Tracked.new fun _ _ tracked may => tracked.step may.1 may.2).endsOnce

/-- A continuous capture comes to the pipeline. -/
def capturing : List StreamStep :=
  [.attachStreamTunnel, .commitStream ⟨true, true, true, true, true⟩, .addRequest 1 true false true true, .queueRequest 1] ++
    replicate 9 (.handleRequest true true)

/-- The capture is cancelled while a frame is in transit, which comes back, and the stream stops. -/
def orderlyCancel : List StreamStep :=
  capturing ++ [.cancel 1, .cancelErase 1, .cancelCheck 1, .handleResult true 1 .ok] ++ replicate 5 (.onFrame .ok) ++
    [.stopStream, .handleRequest true true] ++ replicate 7 (.proceedStop true)

theorem orderlyCancel_ends_once : (orderlyCancel.foldl step .new).stopped 1 = true ∧ (orderlyCancel.foldl step .new).EndsOnce :=
  ⟨by decide, captures_end_once (Takes.reaches (by decide))⟩

/-- `Cancel` begins while a frame is handled; the frame ends the capture, and then `CancelRequest` finds nothing in transit. -/
def racingCancel : List StreamStep :=
  capturing ++ [.handleResult true 1 .ok, .onFrame .ok, .cancel 1, .onFrame .ok, .cancelErase 1, .onFrame .ok, .cancelCheck 1]

theorem racingCancel_ends_twice : ∃ s, Reaches step StreamBase.Possible .new s ∧ ¬ s.EndsOnce := by
  refine ⟨racingCancel.foldl step .new, Takes.reaches (by decide), ?_⟩
  intro ends
  have twice : (racingCancel.foldl step .new).reported.count (.ended, 1) = 2 := by decide
  have once := ends.once 1
  omega

end Peripheral.Camera
