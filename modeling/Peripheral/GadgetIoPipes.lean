import Peripheral.GadgetIo

/-!
The pipes of a handle, opened and closed one after the other: what a failure after any of them leaves behind.
-/
namespace Peripheral.UsbFnIoMgr
open Faults Function

/-- Nothing is different but the pipes and events of a handle. -/
structure OnlyPipes (h : Nat) (s t : State) : Prop where
  rest : t = { s with descriptors := t.descriptors, events := t.events }
  descriptors : ∀ d, (∀ k, d ≠ .pipe h k) → t.descriptors d = s.descriptors d
  events : ∀ e, e.1 ≠ h → t.events e = s.events e

variable {s t u : State} {h k left : Nat} {handle : UsbHandleMgr}

theorem OnlyPipes.refl (h : Nat) (s : State) : OnlyPipes h s s := ⟨rfl, fun _ _ => rfl, fun _ _ => rfl⟩

theorem OnlyPipes.trans (first : OnlyPipes h s t) (second : OnlyPipes h t u) : OnlyPipes h s u := by
  refine ⟨?_, fun d other => (second.descriptors d other).trans (first.descriptors d other),
    fun e other => (second.events e other).trans (first.events e other)⟩
  rw [second.rest, first.rest]

theorem OnlyPipes.same (only : OnlyPipes h s t) : t.made = s.made ∧ t.mapped = s.mapped ∧ t.handles = s.handles ∧
    t.requests = s.requests ∧ t.funcMgr = s.funcMgr ∧ t.interfaceMgr = s.interfaceMgr := by
  rw [only.rest]
  exact ⟨rfl, rfl, rfl, rfl, rfl, rfl⟩

theorem OnlyPipes.putFd (h k : Nat) (s : State) (queue : Option Bool) : OnlyPipes h s (s.putFd (.pipe h k) queue) :=
  ⟨rfl, fun _ other => update_of_ne (other k) _ _, fun _ _ => rfl⟩

theorem OnlyPipes.putEvents (h k : Nat) (s : State) (there : Bool) : OnlyPipes h s (s.putEvents (h, k) there) :=
  ⟨rfl, fun _ _ => rfl, fun _ other => update_of_ne (fun same => other (congrArg Prod.fst same)) _ _⟩

theorem needs_freeEvents {i : Nat} (has : ∀ j < i, handle.reqEvent j = some (h, j) ∧ s.events (h, j)) :
    Needs (freeEvents handle i) ⟨fun _ _ => False, fun _ _ => False, fun _ t => OnlyPipes h s t ∧ t.descriptors = s.descriptors ∧
      ∀ j, i ≤ j → t.events (h, j) = s.events (h, j)⟩ s := by
  induction i with
  | zero => exact ⟨.refl h s, rfl, fun _ _ => rfl⟩
  | succ i ih =>
    rw [freeEvents]
    refine Needs.bind (ih fun j less => has j (Nat.lt_succ_of_lt less)) fun _ t freed => ?_
    obtain ⟨only, descriptors, events⟩ := freed
    obtain ⟨reqEvent, there⟩ := has i (Nat.lt_succ_self i)
    rw [reqEvent, needs_usbFnMemFree, if_pos ((events i (Nat.le_refl i)).trans there)]
    refine ⟨only.trans (.putEvents h i t false), descriptors, fun j above => ?_⟩
    have apart : (h, j) ≠ (h, i) := fun same => absurd (congrArg Prod.snd same) (Nat.ne_of_gt above)
    exact (update_of_ne apart _ _).trans (events j (Nat.le_of_succ_le above))

def AllOpen (o : Nat → PipeAnswer) (left k : Nat) : Prop := k + left ≤ MAX_EP ∧ ∀ j, k ≤ j → j < k + left → (o j).all

theorem allOpen_succ {o : Nat → PipeAnswer} : AllOpen o (left + 1) k ↔ (o k).all ∧ AllOpen o left (k + 1) := by
  have sums : k + 1 + left = k + (left + 1) := by omega
  rw [AllOpen, AllOpen, sums]
  constructor
  · rintro ⟨few, all⟩
    exact ⟨all k (Nat.le_refl k) (by omega), few, fun j above below => all j (Nat.le_of_succ_le above) below⟩
  · rintro ⟨first, few, all⟩
    refine ⟨few, fun j above below => ?_⟩
    rcases Nat.eq_or_lt_of_le above with rfl | later
    · exact first
    · exact all j later below

def Initialised (s : State) (h : Nat) (o : Nat → PipeAnswer) (left k : Nat) (handle : UsbHandleMgr) : Option UsbHandleMgr → State → Prop
  | some handle', t => OnlyPipes h s t ∧ AllOpen o left k ∧ handle'.numFd = handle.numFd ∧ (∀ j < k + left, t.HasPipe h handle' j) ∧
      ∀ j, k + left ≤ j → handle'.fds j = none
  | none, t => OnlyPipes h s t ∧ ¬AllOpen o left k ∧ (∀ j < k, t.descriptors (.pipe h j) ≠ none) ∧
      if (o k).openPipe then t.descriptors (.pipe h k) ≠ none else t = s

def UsbHandleMgr.withPipe (handle : UsbHandleMgr) (h k : Nat) : UsbHandleMgr :=
  { handle with fds := update handle.fds k (some (.pipe h k)), reqEvent := update handle.reqEvent k (some (h, k)) }

/-- The state with the `k`th pipe opened, with its queue and its events. -/
def State.opened (s : State) (h k : Nat) : State := ((s.putFd (.pipe h k) (some false)).putFd (.pipe h k) (some true)).putEvents (h, k) true

theorem opened_only (s : State) (h k : Nat) : OnlyPipes h s (s.opened h k) :=
  ((OnlyPipes.putFd h k s _).trans (.putFd h k _ _)).trans (.putEvents h k _ _)

theorem opened_hasPipe (ready : ∀ j < k, s.HasPipe h handle j) : ∀ j < k + 1, (s.opened h k).HasPipe h (handle.withPipe h k) j := by
  intro j less
  rcases Nat.lt_succ_iff_lt_or_eq.mp less with before | rfl
  · have apart : j ≠ k := Nat.ne_of_lt before
    have other : Fd.pipe h j ≠ .pipe h k := by simpa using apart
    obtain ⟨fd, queue, reqEvent, events⟩ := ready j before
    refine ⟨(update_of_ne apart _ _).trans fd, ?_, (update_of_ne apart _ _).trans reqEvent, ?_⟩
    · exact (update_of_ne other _ _).trans ((update_of_ne other _ _).trans queue)
    · exact (update_of_ne (by simpa using apart) _ _).trans events
  · exact ⟨update_self .., update_self .., update_self .., update_self ..⟩

theorem putFd_pipe_ne {queue : Option Bool} (ready : ∀ j < k, s.HasPipe h handle j) :
    ∀ j < k, (s.putFd (.pipe h k) queue).descriptors (.pipe h j) ≠ none := by
  intro j before
  have other : Fd.pipe h j ≠ .pipe h k := by simpa using Nat.ne_of_lt before
  change update s.descriptors (.pipe h k) queue (.pipe h j) ≠ none
  rw [update_of_ne other, (ready j before).queue]
  simp

/-- All pipes are opened if that can be done. A pipe that was opened stays open where a later one cannot be. -/
theorem needs_initPipes {o : Nat → PipeAnswer} (within : k ≤ MAX_EP) (ready : ∀ j < k, s.HasPipe h handle j)
    (empty : ∀ j, k ≤ j → handle.fds j = none) : Needs (initPipes h o left k handle)
      ⟨fun _ _ => ¬AllOpen o left k ∧ (k < MAX_EP → (o k).openPipe), fun _ _ => False, Initialised s h o left k handle⟩ s := by
  induction left generalizing s k handle with
  | zero => exact ⟨.refl h s, ⟨within, fun j above below => absurd below (Nat.not_lt.mpr above)⟩, rfl, ready, empty⟩
  | succ left ih =>
    rw [initPipes]
    split
    · next full => exact ⟨fun all => absurd all.1 (by omega), fun less => absurd less (Nat.not_lt.mpr full)⟩
    · next room =>
      rw [needs_bind, needs_openPipe]
      by_cases opens : (o k).openPipe
      · rw [if_pos opens]
        change Needs (queueInit (some (.pipe h k)) (o k).queueInit >>= _) _ _
        rw [needs_bind, needs_queueInit]
        by_cases queue : (o k).queueInit
        · have is : ((s.putFd (.pipe h k) (some false)).descriptors (.pipe h k)).map (fun _ => true) = some true := by
            simp [State.putFd]
          rw [if_pos queue, is]
          by_cases memory : (o k).reqEvent
          · simp only [before_last, Bool.not_true, Bool.false_eq_true, if_false, memory, needs_bind, needs_modify]
            refine (ih (s := s.opened h k) (Nat.not_le.mp room) (opened_hasPipe ready) ?_).mono ?_ ?_ ?_
            · intro j above
              exact (update_of_ne (Nat.ne_of_gt above) _ _).trans (empty j (Nat.le_of_succ_le above))
            · rintro fault t ⟨some_, -⟩
              exact ⟨fun all => some_ (allOpen_succ.mp all).2, fun _ => opens⟩
            · intro r t never
              exact never
            · intro result t ends
              have sums : k + 1 + left = k + (left + 1) := by omega
              cases result with
              | some handle' =>
                obtain ⟨only, all, numFd, pipes, beyond⟩ := ends
                rw [sums] at pipes beyond
                exact ⟨(opened_only s h k).trans only, allOpen_succ.mpr ⟨by simp [PipeAnswer.all, opens, queue, memory], all⟩, numFd,
                  pipes, beyond⟩
              | none =>
                obtain ⟨only, some_, before, -⟩ := ends
                refine ⟨(opened_only s h k).trans only, fun all => some_ (allOpen_succ.mp all).2,
                  fun j less => before j (Nat.lt_succ_of_lt less), ?_⟩
                rw [if_pos opens]
                exact before k (Nat.lt_succ_self k)
          · simp only [before_last, Bool.not_true, Bool.false_eq_true, if_false, memory, Bool.not_false, if_true]
            have has : ∀ j < k, handle.reqEvent j = some (h, j) ∧
                ((s.putFd (.pipe h k) (some false)).putFd (.pipe h k) (some true)).events (h, j) :=
              fun j less => ⟨(ready j less).reqEvent, (ready j less).events⟩
            rw [needs_bind]
            refine (needs_freeEvents has).mono (fun _ _ never => never.elim) (fun _ _ never => never) ?_
            rintro - t ⟨only, descriptors, -⟩
            refine ⟨((OnlyPipes.putFd h k s _).trans (.putFd h k _ _)).trans only, fun all => ?_, fun j less => ?_, ?_⟩
            · simp [allOpen_succ, PipeAnswer.all, memory] at all
            · rw [descriptors]
              have other : Fd.pipe h j ≠ .pipe h k := by simpa using Nat.ne_of_lt less
              intro none
              exact putFd_pipe_ne ready j less ((update_of_ne other _ _).symm.trans none)
            · rw [if_pos opens, descriptors]
              simp [State.putFd]
        · rw [if_neg queue]
          refine ⟨.putFd h k s _, fun all => ?_, putFd_pipe_ne ready, ?_⟩
          · simp [allOpen_succ, PipeAnswer.all, queue] at all
          · rw [if_pos opens]
            simp [State.putFd]
      · rw [if_neg opens]
        refine ⟨.refl h s, fun all => ?_, fun j less => ?_, ?_⟩
        · simp [allOpen_succ, PipeAnswer.all, opens] at all
        · rw [(ready j less).queue]
          simp
        · rw [if_neg opens]

/-- Nothing is different but the pipes and events of a handle, and what it says of them. -/
structure OnlyHandle (h : Nat) (s t : State) : Prop where
  rest : t = { s with descriptors := t.descriptors, events := t.events, handles := t.handles }
  descriptors : ∀ d, (∀ k, d ≠ .pipe h k) → t.descriptors d = s.descriptors d
  events : ∀ e, e.1 ≠ h → t.events e = s.events e
  handles : ∀ h' ≠ h, t.handles h' = s.handles h'

theorem OnlyHandle.refl (h : Nat) (s : State) : OnlyHandle h s s := ⟨rfl, fun _ _ => rfl, fun _ _ => rfl, fun _ _ => rfl⟩

theorem OnlyHandle.trans (first : OnlyHandle h s t) (second : OnlyHandle h t u) : OnlyHandle h s u := by
  refine ⟨?_, fun d other => (second.descriptors d other).trans (first.descriptors d other),
    fun e other => (second.events e other).trans (first.events e other),
    fun h' other => (second.handles h' other).trans (first.handles h' other)⟩
  rw [second.rest, first.rest]

theorem OnlyHandle.same (only : OnlyHandle h s t) : t.made = s.made ∧ t.mapped = s.mapped ∧ t.requests = s.requests ∧
    t.funcMgr = s.funcMgr ∧ t.interfaceMgr = s.interfaceMgr := by
  rw [only.rest]
  exact ⟨rfl, rfl, rfl, rfl, rfl⟩

def AllClose (o : Nat → CloseAnswer) (left k : Nat) : Prop := ∀ j, k ≤ j → j < k + left → (o j).all

theorem allClose_succ {o : Nat → CloseAnswer} : AllClose o (left + 1) k ↔ (o k).all ∧ AllClose o left (k + 1) := by
  rw [AllClose, AllClose]
  constructor
  · exact fun all => ⟨all k (Nat.le_refl k) (by omega), fun j above below => all j (Nat.le_of_succ_le above) (by omega)⟩
  · rintro ⟨first, all⟩ j above below
    rcases Nat.eq_or_lt_of_le above with rfl | later
    · exact first
    · exact all j later (by omega)

def State.closed (s : State) (h k : Nat) (handle : UsbHandleMgr) : State :=
  ((((s.putFd (.pipe h k) (some false)).putFd (.pipe h k) none).putHandle h
    (some { handle with fds := update handle.fds k none })).putEvents (h, k) false)

theorem closed_only (s : State) (h k : Nat) (handle : UsbHandleMgr) : OnlyHandle h s (s.closed h k handle) := by
  refine ⟨rfl, fun d other => ?_, fun e other => ?_, fun h' other => update_of_ne other _ _⟩
  · exact (update_of_ne (other k) _ _).trans (update_of_ne (other k) _ _)
  · exact update_of_ne (fun same => other (congrArg Prod.fst same)) _ _

theorem closed_hasPipe (has : ∀ j, k ≤ j → j < k + (left + 1) → s.HasPipe h handle j) : ∀ j, k + 1 ≤ j → j < k + 1 + left →
    (s.closed h k handle).HasPipe h { handle with fds := update handle.fds k none } j := by
  intro j above below
  have apart : j ≠ k := Nat.ne_of_gt above
  have other : Fd.pipe h j ≠ .pipe h k := by simpa using apart
  obtain ⟨fd, queue, reqEvent, events⟩ := has j (Nat.le_of_succ_le above) (by omega)
  refine ⟨(update_of_ne apart _ _).trans fd, ?_, reqEvent, ?_⟩
  · exact (update_of_ne other _ _).trans ((update_of_ne other _ _).trans queue)
  · exact (update_of_ne (by simpa using apart) _ _).trans events

def Closed (s : State) (h : Nat) (o : Nat → CloseAnswer) (left k : Nat) (handle : UsbHandleMgr) : Bool → State → Prop
  | true, t => OnlyHandle h s t ∧ AllClose o left k
  | false, t => ¬AllClose o left k ∧ (¬(o k).queueDel ∧ t = s ∨ (o k).queueDel ∧ ∃ handle', t.handles h = some handle' ∧
      handle'.numFd = handle.numFd ∧ (∀ j < k, handle'.fds j = handle.fds j) ∧
        (handle'.fds k = none ∨ t.descriptors (.pipe h k) ≠ some true))

/-- All pipes are closed if that can be done. Where the first that is tried keeps its queue nothing is different, and where a later
    step fails the first one is lost. -/
theorem needs_closePipes {o : Nat → CloseAnswer} (within : k + left ≤ MAX_EP) (is : s.handles h = some handle)
    (has : ∀ j, k ≤ j → j < k + left → s.HasPipe h handle j) : Needs (closePipes h o left k)
      ⟨fun _ _ => False, fun _ _ => False, Closed s h o left k handle⟩ s := by
  induction left generalizing s k handle with
  | zero => exact ⟨.refl h s, fun j above below => absurd below (Nat.not_lt.mpr above)⟩
  | succ left ih =>
    obtain ⟨fd, queue, reqEvent, events⟩ := has k (Nat.le_refl k) (by omega)
    rw [closePipes, needs_bind, needs_handleAt, is]
    simp only [before_last]
    rw [if_neg (by omega), needs_bind, fd, needs_queueDel, queue]
    by_cases deletes : (o k).queueDel
    · rw [if_pos deletes]
      simp only [before_last, Bool.not_true, Bool.false_eq_true, if_false, Option.map_some]
      rw [needs_bind, needs_closePipe]
      by_cases closes : (o k).closePipe
      · have there : ¬(s.putFd (.pipe h k) (some false)).descriptors (.pipe h k) = none := by simp [State.putFd]
        rw [if_pos closes, if_neg there]
        simp only [before_last, Bool.not_true, Bool.false_eq_true, if_false, needs_bind, needs_modify]
        rw [reqEvent, needs_usbFnMemFree, if_pos (by exact events)]
        have now : (s.closed h k handle).handles h = some { handle with fds := update handle.fds k none } := update_self ..
        refine (ih (s := s.closed h k handle) (by omega) now (closed_hasPipe has)).mono (fun _ _ never => never.elim)
          (fun _ _ never => never) ?_
        intro result t ends
        cases result with
        | true => exact ⟨(closed_only s h k handle).trans ends.1, allClose_succ.mpr ⟨by simp [CloseAnswer.all, deletes, closes], ends.2⟩⟩
        | false =>
          refine ⟨fun all => ends.1 (allClose_succ.mp all).2, .inr ⟨deletes, ?_⟩⟩
          rcases ends.2 with ⟨-, rfl⟩ | ⟨-, handle', is', numFd, before, -⟩
          · exact ⟨_, now, rfl, fun j less => update_of_ne (Nat.ne_of_lt less) _ _, .inl (update_self ..)⟩
          · refine ⟨handle', is', numFd, fun j less => ?_, .inl ?_⟩
            · exact (before j (Nat.lt_succ_of_lt less)).trans (update_of_ne (Nat.ne_of_lt less) _ _)
            · exact (before k (Nat.lt_succ_self k)).trans (update_self ..)
      · rw [if_neg closes]
        refine ⟨fun all => ?_, .inr ⟨deletes, handle, is, rfl, fun _ _ => rfl, .inr ?_⟩⟩
        · simp [allClose_succ, CloseAnswer.all, closes] at all
        · simp [State.putFd]
    · rw [if_neg deletes]
      refine ⟨fun all => ?_, .inl ⟨deletes, rfl⟩⟩
      simp [allClose_succ, CloseAnswer.all, deletes] at all

end Peripheral.UsbFnIoMgr
