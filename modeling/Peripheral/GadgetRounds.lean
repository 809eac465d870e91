import Peripheral.GadgetRouting
import Peripheral.Transitions

/-!
The rounds of the event thread of a USB gadget. Each event goes where it should exactly while no descriptor is closed
between its collection and its events, up to events that nobody takes, and the arrays of a round are not overrun.
-/
namespace Peripheral.UsbFnIo
open Transitions List

/-- `HandleInit` opens more pipes than a handle has room for. -/
def Overruns (pipes : List (Int × Bool × Bool)) : Prop :=
  MAX_EP < pipes.length ∧ ∀ pipe ∈ pipes.take MAX_EP, 0 < pipe.1 ∧ pipe.2.1 ∧ pipe.2.2

instance (pipes : List (Int × Bool × Bool)) : Decidable (Overruns pipes) := inferInstanceAs (Decidable (_ ∧ _))

/-- Before anything is opened: which function each interface belongs to, and how many pipes it has. -/
structure Gadget where
  numFunc : Nat
  numInterfaces : Nat
  funcMgr : Nat → Nat
  numPipes : Nat → Nat

def Gadget.start (g : Gadget) : State where
  dev :=
    { numFunc := g.numFunc
      funcMgr := fun _ => ⟨⟨0, 0⟩, none, 0, 0, []⟩
      numInterfaces := g.numInterfaces
      interfaceMgr := fun i => ⟨g.funcMgr i, g.numPipes i, none⟩
      devState := 0
      next := 1 }
  thread := .collect

def Thread.fds : Thread → List Fd
  | .collect => []
  | .poll funcs pipes => funcs ++ pipes
  | .ep0 funcs pipes => funcs.map Prod.fst ++ pipes.map Prod.fst
  | .epx pipes => pipes.map Prod.fst
  | .events fd _ _ _ pipes => fd :: pipes.map Prod.fst

namespace State

/-- What comes of a step. The handle at hand is freed when its interface is closed, and the array with the events of a
descriptor with the descriptor. -/
def gives (s : State) : Event → Gives
  | .thread _ =>
    match s.thread with
    | .collect =>
      if MAX_EP0_NUM < s.dev.collectEventHandle.1.length ∨ MAX_EP < s.dev.collectEventHandle.2.length then .fault
      else .nothing
    | .ep0 ((fd, event) :: _) _ =>
      match s.dev.getFuncMgr fd.number with
      | none => .nothing
      | some i => (s.dev.funcMgr i).handleEp0Event i event
    | .events fd id j (event :: _) _ =>
      match s.dev.handleAt id with
      | none => .fault
      | some handle =>
        if s.dev.handleOf fd = none ∨ MAX_REQUEST ≤ j then .fault else handleIoEvent event handle.reqEntry
    | _ => .nothing
  | .call (.interfaceOpen i malloc pipes) =>
    if (s.dev.interfaceMgr i).handle = none ∧ malloc ∧ Overruns pipes then .fault else .nothing
  | .call _ => .nothing

/-- What should come of it: an event is for the function or the handle that has the descriptor, and for nobody when it
is closed. -/
def owed (s : State) : Event → Gives
  | .thread _ =>
    match s.thread with
    | .ep0 ((fd, event) :: _) _ =>
      match s.dev.funcOf fd with
      | none => .nothing
      | some i => (s.dev.funcMgr i).handleEp0Event i event
    | .events fd _ _ (event :: _) _ =>
      match s.dev.handleOf fd with
      | none => .nothing
      | some handle => handleIoEvent event handle.reqEntry
    | _ => .nothing
  | .call _ => .nothing

def Right (s : State) (e : Event) : Prop := s.gives e = s.owed e

instance (s : State) (e : Event) : Decidable (s.Right e) := inferInstanceAs (Decidable (_ = _))

/-- What a step must meet for its events to go where they should. -/
def Careful (s : State) : Event → Prop
  | .thread _ =>
    match s.thread with
    | .collect => s.dev.collectEventHandle.1.length ≤ MAX_EP0_NUM ∧ s.dev.collectEventHandle.2.length ≤ MAX_EP
    | .ep0 ((fd, event) :: _) _ =>
      (∃ i < s.dev.numFunc, (s.dev.funcMgr i).fd = fd) ∨
        ∀ i, s.dev.getFuncMgr fd.number = some i → (s.dev.funcMgr i).handleEp0Event i event = .nothing
    | .events fd _ j (_ :: _) _ => (∃ handle ∈ s.dev.handles, fd ∈ handle.fds) ∧ j < MAX_REQUEST
    | _ => True
  | .call (.interfaceOpen i malloc pipes) => (s.dev.interfaceMgr i).handle = none → malloc → ¬ Overruns pipes
  | .call _ => True

def May (s : State) : Event → Prop
  | .thread _ => True
  | .call c => s.dev.MayCall c

instance (s : State) : (e : Event) → Decidable (s.May e)
  | .thread _ => inferInstanceAs (Decidable True)
  | .call c => inferInstanceAs (Decidable (s.dev.MayCall c))

structure Holds (s : State) : Prop where
  dev : s.dev.Good
  old : ∀ fd ∈ s.thread.fds, 0 < fd.number ∧ fd.opening < s.dev.next
  found : ∀ {fd : Fd} {id j : Nat} {events : List UsbFnReqEvent} {epx : List (Fd × List UsbFnReqEvent)},
    s.thread = .events fd id j events epx → ∀ {i : Nat} {h : UsbHandleMgr}, s.dev.Open i h → fd ∈ h.fds → h.id = id

variable {s : State} {e : Event}

theorem start_holds (g : Gadget) : Holds g.start :=
  ⟨⟨fun _ _ pos => absurd pos (Int.lt_irrefl 0), fun opened => (nomatch opened.2), fun opened => (nomatch opened.2),
    fun _ => Nat.one_pos, fun opened => (nomatch opened.2)⟩, fun _ none => (nomatch none), nofun⟩

theorem collected_old (holds : s.dev.Good) :
    ∀ fd ∈ s.dev.collectEventHandle.1 ++ s.dev.collectEventHandle.2, 0 < fd.number ∧ fd.opening < s.dev.next := by
  intro fd member
  rcases mem_append.mp member with ep0 | epx
  · obtain ⟨i, collected, rfl⟩ := mem_map.mp ep0
    obtain ⟨inside, condition⟩ := mem_filter.mp collected
    exact ⟨(of_decide_eq_true condition).1, holds.func_old (mem_range.mp inside)⟩
  · obtain ⟨h, there, collected⟩ := mem_flatMap.mp epx
    obtain ⟨its, pos⟩ := mem_filter.mp collected
    obtain ⟨i, opened⟩ := UsbFnDeviceMgr.mem_handles.mp there
    exact ⟨of_decide_eq_true pos, (holds.handle_old opened).2 fd its⟩

theorem zip_fst {α β : Type} {l : List α} {m : List β} {a : α} (member : a ∈ (l.zip m).map Prod.fst) : a ∈ l := by
  obtain ⟨⟨b, c⟩, inZip, rfl⟩ := mem_map.mp member
  exact (of_mem_zip inZip).1

namespace Holds

theorem goesOn (holds : Holds s) {d : UsbFnDeviceMgr} {thread : Thread} (good : d.Good) (follows : s.dev.Follows d)
    (rest : ∀ fd ∈ thread.fds, fd ∈ s.thread.fds) (free : ∀ fd id j events epx, thread ≠ .events fd id j events epx) :
    Holds ⟨d, thread⟩ := by
  refine ⟨good, fun fd member => ?_, fun at_ => absurd at_ (free _ _ _ _ _)⟩
  obtain ⟨pos, old⟩ := holds.old fd (rest fd member)
  exact ⟨pos, Nat.lt_of_lt_of_le old follows.next⟩

theorem stays (holds : Holds s) {d : UsbFnDeviceMgr} (good : d.Good) (follows : s.dev.Follows d) {fd : Fd} {id j j' : Nat}
    {events events' : List UsbFnReqEvent} {epx : List (Fd × List UsbFnReqEvent)}
    (at_ : s.thread = .events fd id j events epx) : Holds ⟨d, .events fd id j' events' epx⟩ := by
  have old := holds.old
  rw [at_] at old
  refine ⟨good, fun fd member => ?_, fun same => ?_⟩
  · obtain ⟨pos, old⟩ := old fd member
    exact ⟨pos, Nat.lt_of_lt_of_le old follows.next⟩
  · intro i h opened its
    cases same
    obtain ⟨pos, old⟩ := old fd mem_cons_self
    obtain ⟨before, was, same, its⟩ := follows.handles opened fd its pos old
    exact same.symm.trans (holds.found at_ was its)

theorem thread (holds : Holds s) (polled : Option (List UsbEp0Event × List (List UsbFnReqEvent))) :
    Holds (s.threadStep polled) := by
  have same := UsbFnDeviceMgr.Follows.refl s.dev
  unfold threadStep
  split
  · next at_ =>
    simp only
    split
    · exact holds
    · exact ⟨holds.dev, collected_old holds.dev, nofun⟩
  · next ep0 epx at_ =>
    split
    · exact holds.goesOn holds.dev same (fun _ none => nomatch none) nofun
    · next ep0Event reqEvent =>
      refine holds.goesOn holds.dev same (fun fd member => ?_) nofun
      rw [at_]
      exact mem_append.mpr ((mem_append.mp member).imp zip_fst zip_fst)
  · next epx at_ =>
    refine holds.goesOn holds.dev same (fun fd member => ?_) nofun
    rw [at_]
    exact member
  · next fd event rest epx at_ =>
    split
    · refine holds.goesOn holds.dev same (fun fd member => ?_) nofun
      rw [at_]
      exact mem_append_right _ member
    · next i found =>
      obtain ⟨good, follows⟩ := @UsbFnDeviceMgr.Good.handleEp0Event s.dev i holds.dev event
      refine holds.goesOn good follows (fun fd member => ?_) nofun
      rw [at_]
      exact mem_cons_of_mem _ member
  · next at_ => exact holds.goesOn holds.dev same (fun _ none => nomatch none) nofun
  · next fd events rest at_ =>
    split
    · refine holds.goesOn holds.dev same (fun fd member => ?_) nofun
      rw [at_]
      exact mem_cons_of_mem _ member
    · next handle found =>
      have old := holds.old
      rw [at_] at old
      refine ⟨holds.dev, old, fun same => ?_⟩
      intro i h opened its
      cases same
      have owner := holds.dev.getHandleMgr opened its (old fd mem_cons_self).1
      rw [Option.some.inj (owner.symm.trans found)]
  · next fd id j rest at_ =>
    refine holds.goesOn holds.dev same (fun fd member => ?_) nofun
    rw [at_]
    exact mem_cons_of_mem _ member
  · next fd id j event events rest at_ =>
    obtain ⟨good, follows⟩ := holds.dev.handleEpsIoEvent event id
    exact holds.stays good follows at_

theorem step (holds : Holds s) (may : s.May e) : Holds (s.after e) := by
  cases e with
  | thread polled => exact holds.thread polled
  | call c =>
    obtain ⟨good, follows⟩ := holds.dev.perform may
    unfold after
    cases at_ : s.thread with
    | events fd id j events epx => exact holds.stays good follows at_
    | _ => exact holds.goesOn good follows (fun fd member => at_ ▸ member) nofun

theorem handleIoEvent_ne_fault (event : UsbFnReqEvent) (reqEntry : List ReqList) : handleIoEvent event reqEntry ≠ .fault := by
  unfold handleIoEvent
  split
  · split <;> nofun
  · nofun

theorem ep0_right (holds : Holds s) {fd : Fd} (pos : 0 < fd.number) (event : UsbEp0Event) :
    (match s.dev.getFuncMgr fd.number with
      | none => Gives.nothing
      | some i => (s.dev.funcMgr i).handleEp0Event i event) =
    (match s.dev.funcOf fd with
      | none => .nothing
      | some i => (s.dev.funcMgr i).handleEp0Event i event) ↔
    (∃ i < s.dev.numFunc, (s.dev.funcMgr i).fd = fd) ∨
      ∀ i, s.dev.getFuncMgr fd.number = some i → (s.dev.funcMgr i).handleEp0Event i event = .nothing := by
  by_cases owner : ∃ i < s.dev.numFunc, (s.dev.funcMgr i).fd = fd
  · obtain ⟨i, inside, its⟩ := owner
    rw [holds.dev.funcOf inside its pos, holds.dev.getFuncMgr inside its pos]
    exact iff_of_true rfl (.inl ⟨i, inside, its⟩)
  · have nobody : s.dev.funcOf fd = none := by
      refine find?_eq_none.mpr fun i member its => owner ⟨i, mem_range.mp member, of_decide_eq_true its⟩
    rw [nobody, or_iff_right owner]
    cases s.dev.getFuncMgr fd.number with
    | none => exact iff_of_true rfl nofun
    | some i => exact ⟨fun none _ same => Option.some.inj same ▸ none, fun all => all i rfl⟩

theorem epx_right (holds : Holds s) {fd : Fd} {id j : Nat} {event : UsbFnReqEvent} {events : List UsbFnReqEvent}
    {epx : List (Fd × List UsbFnReqEvent)} (at_ : s.thread = .events fd id j (event :: events) epx) :
    (match s.dev.handleAt id with
      | none => Gives.fault
      | some handle =>
        if s.dev.handleOf fd = none ∨ MAX_REQUEST ≤ j then .fault else handleIoEvent event handle.reqEntry) =
    (match s.dev.handleOf fd with
      | none => .nothing
      | some handle => handleIoEvent event handle.reqEntry) ↔
    (∃ handle ∈ s.dev.handles, fd ∈ handle.fds) ∧ j < MAX_REQUEST := by
  by_cases owner : ∃ handle ∈ s.dev.handles, fd ∈ handle.fds
  · obtain ⟨h, there, its⟩ := owner
    obtain ⟨i, opened⟩ := UsbFnDeviceMgr.mem_handles.mp there
    have pos := (holds.old fd (at_ ▸ mem_cons_self)).1
    have address := holds.found at_ opened its
    subst address
    rw [holds.dev.handleOf opened its pos, holds.dev.handleAt opened, and_iff_right ⟨h, there, its⟩]
    by_cases more : MAX_REQUEST ≤ j
    · simp only [more, or_true, if_true]
      exact iff_of_false (handleIoEvent_ne_fault event _).symm (Nat.not_lt.mpr more)
    · simp only [reduceCtorEq, more, or_self, if_false]
      exact iff_of_true trivial (Nat.not_le.mp more)
  · have nobody : s.dev.handleOf fd = none :=
      find?_eq_none.mpr fun h member its => owner ⟨h, member, of_decide_eq_true its⟩
    rw [nobody]
    refine iff_of_false ?_ fun careful => owner careful.1
    cases s.dev.handleAt id with
    | none => nofun
    | some h => simp

theorem right_iff (holds : Holds s) (e : Event) : s.Right e ↔ s.Careful e := by
  cases e with
  | thread polled =>
    unfold Right gives owed Careful
    cases at_ : s.thread with
    | collect =>
      simp only [← Nat.not_lt, ← not_or]
      split
      · next beyond => exact iff_of_false nofun (not_not.mpr beyond)
      · next fits => exact iff_of_true rfl fits
    | poll | epx => exact iff_of_true rfl trivial
    | ep0 funcs pipes =>
      cases funcs with
      | nil => exact iff_of_true rfl trivial
      | cons first rest => exact holds.ep0_right (holds.old first.1 (at_ ▸ mem_cons_self)).1 first.2
    | events fd id j events pipes =>
      cases events with
      | nil => exact iff_of_true rfl trivial
      | cons event events => exact holds.epx_right at_
  | call c =>
    cases c with
    | interfaceOpen i malloc pipes =>
      unfold Right gives owed Careful
      simp only
      split
      · next beyond => exact iff_of_false nofun fun careful => careful beyond.1 beyond.2.1 beyond.2.2
      · next fits => exact iff_of_true rfl fun closed ok beyond => fits ⟨closed, ok, beyond⟩
    | _ => exact iff_of_true rfl trivial

end Holds

/-- In every run every event goes where it should exactly while the condition holds at each step. -/
theorem events_right (g : Gadget) (run : List Event) : Takes after (fun s e => s.May e ∧ s.Right e) g.start run ↔
      Takes after (fun s e => s.May e ∧ s.Careful e) g.start run :=
  Takes.congr (fun (s : State) e (holds : Holds s) => and_congr_right fun _ => holds.right_iff e)
    (fun _ _ holds right => holds.step right.1) (start_holds g)

/-- Two functions with an interface each. The first one's reception is stopped behind the poll, and its event is given
to the second one. -/
theorem stopped_not_right :
    let g : Gadget := ⟨2, 2, id, fun _ => 1⟩
    let run : List Event :=
      [.call (.startRecvEvent 0 4 10 0 5 true), .call (.startRecvEvent 1 4 11 0 6 true), .thread none,
        .thread (some ([.ctrl 2 [], .invalid], [])), .call (.stopRecvEvent 0 true true), .thread none]
    Takes after May g.start run ∧ ¬ Takes after (fun s e => s.May e ∧ s.Right e) g.start run := by
  decide

end State

end Peripheral.UsbFnIo
