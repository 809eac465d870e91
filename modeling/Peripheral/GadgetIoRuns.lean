import Peripheral.GadgetIoPipes

/-!
The runs of the calls on interfaces and requests: where each call is all or nothing, and what holds between the calls.
-/
namespace Peripheral.UsbFnIoMgr
open Faults Function

namespace State

structure Has (s : State) (h : Nat) (handle : UsbHandleMgr) (i : Nat) : Prop where
  intf : handle.intfMgr = some i
  isOpen : (s.interfaceMgr i).isOpen
  own : (s.interfaceMgr i).handle = some h
  few : handle.numFd.toNat ≤ MAX_EP
  size : handle.numFd = (s.interfaceMgr i).numPipes
  old : h < s.made
  pipes : ∀ k < handle.numFd.toNat, s.HasPipe h handle k
  beyond : ∀ k, handle.numFd.toNat ≤ k → handle.fds k = none

structure Good (s : State) : Prop where
  handles : ∀ h handle, s.handles h = some handle → ∃ i, s.Has h handle i
  opened : ∀ i, (s.interfaceMgr i).isOpen → ∃ h handle, (s.interfaceMgr i).handle = some h ∧ s.handles h = some handle ∧
    handle.intfMgr = some i
  pipes : ∀ h k, s.descriptors (.pipe h k) ≠ none → h < s.made
  ep0 : ∀ f n, s.descriptors (.ep0 f n) ≠ none → n < s.made
  funcs : ∀ f d, (s.funcMgr f).fd = some d → (∃ n, d = .ep0 f n) ∧ s.descriptors d ≠ none
  requests : ∀ r req, s.requests r = some req → r < s.made ∧ req.fd.isSome ∧ ∃ buf, req.buf = some buf ∧ s.mapped buf
  apart : ∀ r r' req req', s.requests r = some req → s.requests r' = some req' → req.buf = req'.buf → r = r'
  mapped : ∀ buf, s.mapped buf → buf < s.made

end State

variable {s t u : State} {h i f n r : Nat} {handle : UsbHandleMgr}

theorem State.Has.usable (has : s.Has h handle i) (there : s.handles h = some handle) : s.Usable h :=
  ⟨handle, i, there, has.intf, has.isOpen, has.own, has.few, has.pipes⟩

theorem State.Has.congr (has : s.Has h handle i) (interfaces : t.interfaceMgr i = s.interfaceMgr i)
    (descriptors : ∀ k, t.descriptors (.pipe h k) = s.descriptors (.pipe h k)) (events : ∀ k, t.events (h, k) = s.events (h, k))
    (made : s.made ≤ t.made) : t.Has h handle i := by
  refine ⟨has.intf, ?_, ?_, has.few, ?_, Nat.lt_of_lt_of_le has.old made, fun k less => ?_, has.beyond⟩
  · rw [interfaces]
    exact has.isOpen
  · rw [interfaces]
    exact has.own
  · rw [interfaces]
    exact has.size
  · obtain ⟨fd, queue, reqEvent, there⟩ := has.pipes k less
    exact ⟨fd, (descriptors k).trans queue, reqEvent, (events k).trans there⟩

theorem State.Untouched.refl (s : State) : s.Untouched s := ⟨rfl, rfl, rfl⟩

theorem start_good (interfaceMgr : Nat → UsbFnInterfaceMgr) : (start interfaceMgr).Good := by
  refine ⟨fun _ _ there => ?_, fun _ isOpen => ?_, fun _ _ there => absurd rfl there, fun _ _ there => absurd rfl there,
    fun _ _ there => ?_, fun _ _ there => ?_, fun _ _ _ _ there => ?_, fun _ there => ?_⟩
  · cases there
  · cases isOpen
  · cases there
  · cases there
  · cases there
  · cases there

namespace State.Good

variable (good : s.Good)
include good

theorem kept (handles : t.handles = s.handles) (interfaces : t.interfaceMgr = s.interfaceMgr) (events : t.events = s.events)
    (descriptors : ∀ h k, t.descriptors (.pipe h k) = s.descriptors (.pipe h k)) (made : s.made ≤ t.made) (h : Nat)
    (handle : UsbHandleMgr) (there : t.handles h = some handle) : ∃ i, t.Has h handle i := by
  rw [handles] at there
  obtain ⟨i, has⟩ := good.handles h handle there
  exact ⟨i, has.congr (congrFun interfaces i) (descriptors h) (fun k => congrFun events (h, k)) made⟩

theorem make : s.make.Good := by
  have older : ∀ {n}, n < s.made → n < s.make.made := fun less => Nat.lt_succ_of_lt less
  refine ⟨good.kept rfl rfl rfl (fun _ _ => rfl) (Nat.le_succ _), good.opened, fun h k there => older (good.pipes h k there),
    fun f n there => older (good.ep0 f n there), good.funcs, fun r req there => ?_, good.apart,
    fun buf there => older (good.mapped buf there)⟩
  obtain ⟨old, rest⟩ := good.requests r req there
  exact ⟨older old, rest⟩

theorem putFunc (f : Nat) (queue : Option Bool) (func : UsbFnFuncMgr) (old : n < s.made)
    (its : func.fd = none ∨ func.fd = some (.ep0 f n) ∧ queue ≠ none) : ((s.putFd (.ep0 f n) queue).putFunc f func).Good := by
  have pipe : ∀ h k, Fd.pipe h k ≠ .ep0 f n := by simp
  refine ⟨good.kept rfl rfl rfl (fun h k => update_of_ne (pipe h k) queue s.descriptors) (Nat.le_refl _), good.opened, fun h k there => ?_,
    fun f' n' there => ?_, fun f' d fd => ?_, good.requests, good.apart, good.mapped⟩
  · refine good.pipes h k fun none => there ?_
    exact (update_of_ne (pipe h k) queue s.descriptors).trans none
  · by_cases same : Fd.ep0 f' n' = .ep0 f n
    · cases same
      exact old
    · refine good.ep0 f' n' fun none => there ?_
      exact (update_of_ne same _ _).trans none
  · change (update s.funcMgr f func f').fd = some d at fd
    change (∃ n, d = .ep0 f' n) ∧ update s.descriptors (.ep0 f n) queue d ≠ none
    by_cases same : f' = f
    · subst same
      rw [update_self] at fd
      rcases its with none | ⟨some_, queued⟩
      · rw [none] at fd
        cases fd
      · rw [some_] at fd
        cases fd
        rw [update_self]
        exact ⟨⟨n, rfl⟩, queued⟩
    · rw [update_of_ne same] at fd
      obtain ⟨⟨n', rfl⟩, there⟩ := good.funcs f' d fd
      have other : Fd.ep0 f' n' ≠ .ep0 f n := by simp [same]
      rw [update_of_ne other]
      exact ⟨⟨n', rfl⟩, there⟩

theorem putQuery (n : Nat) (queue : Option Bool) : (s.putFd (.query n) queue).Good := by
  have same : ∀ d, d ≠ .query n → (s.putFd (.query n) queue).descriptors d = s.descriptors d := fun d other => update_of_ne other _ _
  refine ⟨good.kept rfl rfl rfl (fun h k => same _ (by simp)) (Nat.le_refl _), good.opened, fun h k there => ?_,
    fun f n' there => ?_, fun f d fd => ?_, good.requests, good.apart, good.mapped⟩
  · rw [same _ (by simp)] at there
    exact good.pipes h k there
  · rw [same _ (by simp)] at there
    exact good.ep0 f n' there
  · obtain ⟨⟨n', rfl⟩, there⟩ := good.funcs f d fd
    rw [same _ (by simp)]
    exact ⟨⟨n', rfl⟩, there⟩

theorem putEntries (head : ListHead) (l : List Nat) : (s.putEntries head l).Good :=
  ⟨good.kept rfl rfl rfl (fun _ _ => rfl) (Nat.le_refl _), good.opened, good.pipes, good.ep0, good.funcs, good.requests, good.apart,
    good.mapped⟩

theorem callback (f : Nat) : (s.putFunc f { s.funcMgr f with callback := true }).Good := by
  refine ⟨good.kept rfl rfl rfl (fun _ _ => rfl) (Nat.le_refl _), good.opened, good.pipes, good.ep0,
    fun f' d fd => good.funcs f' d ?_, good.requests, good.apart, good.mapped⟩
  change (update s.funcMgr f { s.funcMgr f with callback := true } f').fd = some d at fd
  by_cases same : f' = f
  · subst same
    rwa [update_self] at fd
  · rwa [update_of_ne same] at fd

theorem putRequest {req : ReqList} {buf : Nat} (fd : req.fd.isSome) (its : req.buf = some buf) (before : buf < r) (last : r < s.made)
    (new : ∀ r' req', s.requests r' = some req' → req'.buf ≠ some buf) :
    ((s.putMapped buf true).putRequest r (some req)).Good := by
  have mapped : ∀ b, s.mapped b → update s.mapped buf true b := by
    intro b there
    by_cases same : b = buf
    · rw [same, update_self]
    · rwa [update_of_ne same]
  refine ⟨good.kept rfl rfl rfl (fun _ _ => rfl) (Nat.le_refl _), good.opened, good.pipes, good.ep0, good.funcs,
    fun r' req' there => ?_, fun r1 r2 req1 req2 there1 there2 same => ?_, fun b there => ?_⟩
  · change update s.requests r (some req) r' = some req' at there
    by_cases same : r' = r
    · rw [same, update_self] at there
      cases there
      rw [same]
      exact ⟨last, fd, buf, its, update_self ..⟩
    · rw [update_of_ne same] at there
      obtain ⟨old, fd', b, its', there⟩ := good.requests r' req' there
      exact ⟨old, fd', b, its', mapped b there⟩
  · change update s.requests r (some req) r1 = some req1 at there1
    change update s.requests r (some req) r2 = some req2 at there2
    by_cases is1 : r1 = r
    · by_cases is2 : r2 = r
      · rw [is1, is2]
      · rw [is1, update_self] at there1
        rw [update_of_ne is2] at there2
        cases there1
        exact absurd (same.symm.trans its) (new r2 req2 there2)
    · rw [update_of_ne is1] at there1
      by_cases is2 : r2 = r
      · rw [is2, update_self] at there2
        cases there2
        exact absurd (same.trans its) (new r1 req1 there1)
      · rw [update_of_ne is2] at there2
        exact good.apart r1 r2 req1 req2 there1 there2 same
  · change update s.mapped buf true b at there
    by_cases same : b = buf
    · rw [same]
      exact Nat.lt_trans before last
    · rw [update_of_ne same] at there
      exact good.mapped b there

theorem dropRequest {req : ReqList} {buf : Nat} (there : s.requests r = some req) (its : req.buf = some buf) :
    ((s.putMapped buf false).putRequest r none).Good := by
  have others : ∀ {r' req'}, update s.requests r none r' = some req' → r' ≠ r ∧ s.requests r' = some req' := by
    intro r' req' there'
    by_cases same : r' = r
    · rw [same, update_self] at there'
      cases there'
    · rw [update_of_ne same] at there'
      exact ⟨same, there'⟩
  refine ⟨good.kept rfl rfl rfl (fun _ _ => rfl) (Nat.le_refl _), good.opened, good.pipes, good.ep0, good.funcs,
    fun r' req' there' => ?_, fun r1 r2 req1 req2 there1 there2 same => ?_, fun b there' => ?_⟩
  · obtain ⟨other, there'⟩ := others there'
    obtain ⟨old, fd, b, its', mapped⟩ := good.requests r' req' there'
    refine ⟨old, fd, b, its', ?_⟩
    have apart : b ≠ buf := by
      intro same
      rw [same] at its'
      exact other (good.apart r' r req' req there' there (its'.trans its.symm))
    exact (update_of_ne apart _ _).trans mapped
  · exact good.apart r1 r2 req1 req2 (others there1).2 (others there2).2 same
  · change update s.mapped buf false b at there'
    by_cases same : b = buf
    · rw [same, update_self] at there'
      cases there'
    · rw [update_of_ne same] at there'
      exact good.mapped b there'

theorem openHandle (handle : UsbHandleMgr) (closed : ¬(s.interfaceMgr i).isOpen) (only : OnlyPipes s.made s.make t) (intf : handle.intfMgr = some i)
    (few : handle.numFd.toNat ≤ MAX_EP) (size : handle.numFd = (s.interfaceMgr i).numPipes)
    (pipes : ∀ k < handle.numFd.toNat, t.HasPipe s.made handle k) (beyond : ∀ k, handle.numFd.toNat ≤ k → handle.fds k = none) :
    ((t.putHandle s.made (some handle)).putInterface i { t.interfaceMgr i with isOpen := true, handle := some s.made }).Good := by
  obtain ⟨made, mapped, handles, requests, funcs, interfaces⟩ := only.same
  change t.made = s.made + 1 at made
  change t.mapped = s.mapped at mapped
  change t.handles = s.handles at handles
  change t.requests = s.requests at requests
  change t.funcMgr = s.funcMgr at funcs
  change t.interfaceMgr = s.interfaceMgr at interfaces
  have other : ∀ {h k j}, h ≠ s.made → Fd.pipe h k ≠ .pipe s.made j := fun apart same => apart (Fd.pipe.inj same).1
  refine ⟨fun h handle' there => ?_, fun i' isOpen => ?_, fun h k there => ?_, fun f n there => ?_, fun f d fd => ?_,
    fun r req there => ?_, fun r r' req req' there there' => ?_, fun buf there => ?_⟩
  · change update t.handles s.made (some handle) h = some handle' at there
    by_cases same : h = s.made
    · rw [same, update_self] at there
      cases there
      rw [same]
      refine ⟨i, intf, ?_, ?_, few, ?_, ?_, fun k less => ?_, beyond⟩
      · simp [State.putInterface]
      · simp [State.putInterface]
      · simpa [State.putInterface, interfaces] using size
      · change s.made < t.made
        rw [made]
        exact Nat.lt_succ_self _
      · exact ⟨(pipes k less).fd, (pipes k less).queue, (pipes k less).reqEvent, (pipes k less).events⟩
    · rw [update_of_ne same, handles] at there
      obtain ⟨i', has⟩ := good.handles h handle' there
      have apart : i' ≠ i := fun is => closed (is ▸ has.isOpen)
      refine ⟨i', has.congr ?_ (fun k => ?_) (fun k => ?_) ?_⟩
      · exact (update_of_ne apart _ _).trans (congrFun interfaces i')
      · exact only.descriptors _ fun j => other same
      · exact only.events _ same
      · change s.made ≤ t.made
        rw [made]
        exact Nat.le_succ _
  · change (update t.interfaceMgr i _ i').isOpen at isOpen
    change ∃ h handle', (update t.interfaceMgr i _ i').handle = some h ∧ update t.handles s.made (some handle) h = some handle' ∧ _
    by_cases same : i' = i
    · rw [same, update_self]
      exact ⟨s.made, handle, rfl, update_self .., intf⟩
    · rw [update_of_ne same, interfaces] at isOpen ⊢
      obtain ⟨h, handle', its, there, intf'⟩ := good.opened i' isOpen
      obtain ⟨_, has⟩ := good.handles h handle' there
      refine ⟨h, handle', its, ?_, intf'⟩
      rw [update_of_ne (Nat.ne_of_lt has.old), handles]
      exact there
  · change h < t.made
    rw [made]
    by_cases same : h = s.made
    · rw [same]
      exact Nat.lt_succ_self _
    · refine Nat.lt_succ_of_lt (good.pipes h k fun none => there ?_)
      exact (only.descriptors _ fun j => other same).trans none
  · change n < t.made
    rw [made]
    refine Nat.lt_succ_of_lt (good.ep0 f n fun none => there ?_)
    exact (only.descriptors _ (by simp)).trans none
  · change (t.funcMgr f).fd = some d at fd
    rw [funcs] at fd
    obtain ⟨⟨n, rfl⟩, there⟩ := good.funcs f d fd
    refine ⟨⟨n, rfl⟩, fun none => there ?_⟩
    exact (only.descriptors _ (by simp)).symm.trans none
  · change t.requests r = some req at there
    change r < t.made ∧ req.fd.isSome ∧ ∃ buf, req.buf = some buf ∧ t.mapped buf
    rw [requests] at there
    rw [made, mapped]
    obtain ⟨old, fd⟩ := good.requests r req there
    exact ⟨Nat.lt_succ_of_lt old, fd⟩
  · change t.requests r = some req at there
    change t.requests r' = some req' at there'
    rw [requests] at there there'
    exact good.apart r r' req req' there there'
  · change t.mapped buf at there
    change buf < t.made
    rw [mapped] at there
    rw [made]
    exact Nat.lt_succ_of_lt (good.mapped buf there)

theorem closeHandle (has : s.Has h handle i) (there : s.handles h = some handle) (only : OnlyHandle h s t) :
    ((t.putHandle h none).putInterface i { t.interfaceMgr i with isOpen := false, handle := none }).Good := by
  obtain ⟨made, mapped, requests, funcs, interfaces⟩ := only.same
  have other : ∀ {h' k j}, h' ≠ h → Fd.pipe h' k ≠ .pipe h j := fun apart same => apart (Fd.pipe.inj same).1
  refine ⟨fun h' handle' there' => ?_, fun i' isOpen => ?_, fun h' k there' => ?_, fun f n there' => ?_, fun f d fd => ?_,
    fun r req there' => ?_, fun r r' req req' there1 there2 => ?_, fun buf there' => ?_⟩
  · change update t.handles h none h' = some handle' at there'
    by_cases same : h' = h
    · rw [same, update_self] at there'
      cases there'
    · rw [update_of_ne same, only.handles h' same] at there'
      obtain ⟨i', has'⟩ := good.handles h' handle' there'
      have apart : i' ≠ i := by
        intro is
        have own := has'.own
        rw [is, has.own] at own
        exact same (Option.some.inj own).symm
      refine ⟨i', has'.congr ?_ (fun k => ?_) (fun k => ?_) (Nat.le_of_eq made.symm)⟩
      · exact (update_of_ne apart _ _).trans (congrFun interfaces i')
      · exact only.descriptors _ fun j => other same
      · exact only.events _ same
  · change (update t.interfaceMgr i _ i').isOpen at isOpen
    change ∃ h' handle', (update t.interfaceMgr i _ i').handle = some h' ∧ update t.handles h none h' = some handle' ∧ _
    by_cases same : i' = i
    · rw [same, update_self] at isOpen
      cases isOpen
    · rw [update_of_ne same, interfaces] at isOpen ⊢
      obtain ⟨h', handle', its, there', intf'⟩ := good.opened i' isOpen
      have apart : h' ≠ h := by
        rintro rfl
        rw [there] at there'
        cases there'
        exact same (Option.some.inj (intf'.symm.trans has.intf))
      refine ⟨h', handle', its, ?_, intf'⟩
      rw [update_of_ne apart, only.handles h' apart]
      exact there'
  · change h' < t.made
    rw [made]
    by_cases same : h' = h
    · rw [same]
      exact has.old
    · refine good.pipes h' k fun none => there' ?_
      exact (only.descriptors _ fun j => other same).trans none
  · change n < t.made
    rw [made]
    refine good.ep0 f n fun none => there' ?_
    exact (only.descriptors _ (by simp)).trans none
  · change (t.funcMgr f).fd = some d at fd
    rw [funcs] at fd
    obtain ⟨⟨n, rfl⟩, there'⟩ := good.funcs f d fd
    refine ⟨⟨n, rfl⟩, fun none => there' ?_⟩
    exact (only.descriptors _ (by simp)).symm.trans none
  · change t.requests r = some req at there'
    change r < t.made ∧ req.fd.isSome ∧ ∃ buf, req.buf = some buf ∧ t.mapped buf
    rw [requests] at there'
    rw [made, mapped]
    exact good.requests r req there'
  · change t.requests r = some req at there1
    change t.requests r' = some req' at there2
    rw [requests] at there1 there2
    exact good.apart r r' req req' there1 there2
  · change t.mapped buf at there'
    change buf < t.made
    rw [mapped] at there'
    rw [made]
    exact good.mapped buf there'

end State.Good

/-- How a call ends: as it should where it is careful and only there, and then what holds between the calls holds again. -/
def callEnds (s : State) (call : Call) : Ends Fault Result State Result where
  wrong := fun _ _ => ¬s.Careful call
  early := fun _ _ => False
  last := fun result t => (s.Settled call result t ↔ s.Careful call) ∧ (s.Careful call → t.Good)

theorem allOpen_zero {o : Nat → PipeAnswer} : AllOpen o n 0 ↔ n ≤ MAX_EP ∧ ∀ k < n, (o k).all := by
  simp [AllOpen]

theorem allClose_zero {o : Nat → CloseAnswer} : AllClose o n 0 ↔ ∀ k < n, (o k).all := by
  simp [AllClose]

theorem needs_interfaceOpen (good : s.Good) (i : Nat) (o : Opening) :
    Needs (usbFnIoMgrInterfaceOpen (some i) o) (callEnds s (.interfaceOpen (some i) o)) s := by
  have same : ∀ t, s.Untouched t → t.Good → s.Careful (.interfaceOpen (some i) o) →
      (callEnds s (.interfaceOpen (some i) o)).last (.opened none) t :=
    fun t untouched good' careful => ⟨iff_of_true untouched careful, fun _ => good'⟩
  rw [usbFnIoMgrInterfaceOpen, needs_bind, needs_get, before_last]
  by_cases isOpen : (s.interfaceMgr i).isOpen
  · rw [if_pos isOpen]
    exact same s (.refl s) good (.inl isOpen)
  · rw [if_neg isOpen]
    by_cases memory : o.handle
    · have careful : s.Careful (.interfaceOpen (some i) o) ↔ (0 < (s.interfaceMgr i).numPipes.toNat ∧ ¬(o.pipe 0).openPipe) ∨
          AllOpen o.pipe (s.interfaceMgr i).numPipes.toNat 0 := by
        simp [State.Careful, isOpen, memory, allOpen_zero]
      simp only [memory, Bool.not_true, Bool.false_eq_true, if_false, needs_bind, needs_get, needs_modify, before_last]
      rw [handleInit, needs_bind, needs_get, before_last, needs_bind]
      refine (needs_initPipes (s := s.make) (Nat.zero_le _) (fun j less => absurd less (Nat.not_lt_zero j)) fun _ _ => rfl).mono
        ?_ (fun _ _ never => never) ?_
      · rintro fault t ⟨some_, first⟩
        change ¬s.Careful _
        rw [careful]
        rintro (⟨-, refused⟩ | all)
        · exact refused (first (by decide))
        · exact some_ all
      · intro result t ends
        cases result with
        | none =>
          obtain ⟨only, some_, -, which⟩ := ends
          by_cases opens : (o.pipe 0).openPipe
          · rw [if_pos opens] at which
            have careless : ¬s.Careful (.interfaceOpen (some i) o) := by
              rw [careful]
              rintro (⟨-, refused⟩ | all)
              · exact refused opens
              · exact some_ all
            refine ⟨iff_of_false (fun untouched => ?_) careless, fun done => absurd done careless⟩
            rw [show t.descriptors = s.descriptors from untouched.descriptors] at which
            exact Nat.lt_irrefl _ (good.pipes _ _ which)
          · rw [if_neg opens] at which
            subst which
            refine same s.make ⟨rfl, rfl, rfl⟩ good.make (careful.mpr (.inl ⟨?_, opens⟩))
            by_contra zero
            have none : (s.make.interfaceMgr i).numPipes.toNat = 0 := Nat.eq_zero_of_not_pos zero
            rw [none] at some_
            exact some_ (allOpen_zero.mpr ⟨Nat.zero_le _, fun k less => absurd less (Nat.not_lt_zero k)⟩)
        | some handle =>
          obtain ⟨only, all, size, pipes, beyond⟩ := ends
          rw [Nat.zero_add] at pipes beyond
          change handle.numFd = (s.interfaceMgr i).numPipes at size
          have numPipes : (s.make.interfaceMgr i).numPipes.toNat = handle.numFd.toNat := by rw [size]; rfl
          rw [numPipes] at pipes beyond
          have few : handle.numFd.toNat ≤ MAX_EP := by
            rw [size]
            exact (allOpen_zero.mp all).1
          have good' := good.openHandle { handle with intfMgr := some i } isOpen only rfl few size
            (fun k less => ⟨(pipes k less).fd, (pipes k less).queue, (pipes k less).reqEvent, (pipes k less).events⟩) beyond
          have there : ((t.putHandle s.made (some { handle with intfMgr := some i })).putInterface i
              { t.interfaceMgr i with isOpen := true, handle := some s.made }).handles s.made = some { handle with intfMgr := some i } :=
            update_self ..
          obtain ⟨i', has⟩ := good'.handles _ _ there
          exact ⟨iff_of_true (has.usable there) (careful.mpr (.inr all)), fun _ => good'⟩
    · simp only [memory, Bool.not_false, if_true, needs_pure]
      exact same s (.refl s) good (.inr (.inl memory))

theorem close_ends (good : s.Good) (there : s.handles h = some handle) (o : Nat → CloseAnswer) :
    Needs (usbFnIoMgrInterfaceClose (some h) o) ⟨fun _ _ => False, fun _ _ => False, fun result t =>
      (result = .ret .success ∧ (∀ k < handle.numFd.toNat, (o k).all) ∧ t.Good) ∨
        (result = .ret .deviceBusy ∧ (¬∀ k < handle.numFd.toNat, (o k).all) ∧
          (¬(o 0).queueDel ∧ t = s ∨ (o 0).queueDel ∧ ¬t.Usable h))⟩ s := by
  obtain ⟨i, has⟩ := good.handles h handle there
  rw [usbFnIoMgrInterfaceClose, needs_bind, needs_handleAt, there]
  simp only [before_last, has.intf]
  rw [needs_bind, needs_get, before_last, if_neg (by simp [has.isOpen]), needs_bind]
  refine (needs_closePipes (by rw [Nat.zero_add]; exact has.few) there fun j _ less => has.pipes j (by rwa [Nat.zero_add] at less)).mono
    (fun _ _ never => never) (fun _ _ never => never) ?_
  intro result t ends
  cases result with
  | true => exact .inl ⟨rfl, allClose_zero.mp ends.2, good.closeHandle has there ends.1⟩
  | false =>
    obtain ⟨some_, which⟩ := ends
    refine .inr ⟨rfl, fun all => some_ (allClose_zero.mpr all), ?_⟩
    rcases which with unchanged | ⟨deletes, handle', there', numFd, -, lost⟩
    · exact .inl unchanged
    · refine .inr ⟨deletes, ?_⟩
      rintro ⟨handle'', i', there'', -, -, -, -, pipes⟩
      rw [there'] at there''
      cases there''
      have pos : 0 < handle'.numFd.toNat := by
        rw [numFd]
        by_contra zero
        exact some_ (allClose_zero.mpr fun k less => absurd less (by omega))
      rcases lost with none | queue
      · rw [(pipes 0 pos).fd] at none
        cases none
      · exact queue (pipes 0 pos).queue

theorem needs_interfaceClose (good : s.Good) (there : s.handles h = some handle) (o : Nat → CloseAnswer) :
    Needs (usbFnIoMgrInterfaceClose (some h) o) (callEnds s (.interfaceClose (some h) o)) s := by
  obtain ⟨i, has⟩ := good.handles h handle there
  have careful : s.Careful (.interfaceClose (some h) o) ↔ ¬(o 0).queueDel ∨ ∀ k < handle.numFd.toNat, (o k).all := by
    simp [State.Careful, there]
  refine (close_ends good there o).mono (fun _ _ never => never.elim) (fun _ _ never => never) ?_
  rintro result t (⟨rfl, all, good'⟩ | ⟨rfl, some_, which⟩)
  · exact ⟨iff_of_true (fun failed => absurd rfl failed) (careful.mpr (.inr all)), fun _ => good'⟩
  · rcases which with ⟨keeps, rfl⟩ | ⟨deletes, lost⟩
    · refine ⟨iff_of_true (fun _ => ⟨has.usable there, fun o' => ?_⟩) (careful.mpr (.inl keeps)), fun _ => good⟩
      exact (close_ends good there o').mono (fun _ _ never => never.elim) (fun _ _ never => never.elim) fun _ _ _ => trivial
    · have careless : ¬s.Careful (.interfaceClose (some h) o) := by
        rw [careful]
        rintro (keeps | all)
        · exact keeps deletes
        · exact some_ all
      refine ⟨iff_of_false (fun settled => lost (settled ?_).1) careless, fun done => absurd done careless⟩
      intro failed
      cases failed

theorem getPipeInfo_open (isOpen : (s.interfaceMgr i).isOpen) (own : (s.interfaceMgr i).handle = some h)
    (there : s.handles h = some handle) (few : (s.interfaceMgr i).numPipes.toNat ≤ MAX_EP) (pipeId : UInt8) (o : Query) :
    Needs (usbFnIoMgrInterfaceGetPipeInfo i pipeId o) ⟨fun _ _ => False, fun _ _ => False, fun _ t => t = s⟩ s := by
  rw [usbFnIoMgrInterfaceGetPipeInfo, needs_bind, needs_get, before_last]
  by_cases outside : (s.interfaceMgr i).numPipes ≤ pipeId
  · simp only [outside, if_true]
    rfl
  · have inside := outside
    simp only [outside, if_false, isOpen, if_true, own]
    rw [needs_bind, needs_handleAt, there]
    simp only [before_last]
    have less : pipeId.toNat < (s.interfaceMgr i).numPipes.toNat := Nat.not_le.mp inside
    rw [if_neg (Nat.not_le.mpr (Nat.lt_of_lt_of_le less few))]
    split <;> rfl

theorem needs_getPipeInfo (good : s.Good) (i : Nat) (pipeId : UInt8) (o : Query) :
    Needs (usbFnIoMgrInterfaceGetPipeInfo i pipeId o) ⟨fun _ _ => False, fun _ _ => False, fun _ t => t.Good⟩ s := by
  by_cases isOpen : (s.interfaceMgr i).isOpen
  · obtain ⟨h, handle, own, there, intf⟩ := good.opened i isOpen
    obtain ⟨i', has⟩ := good.handles h handle there
    obtain rfl := Option.some.inj (intf.symm.trans has.intf)
    refine (getPipeInfo_open isOpen own there (by rw [← has.size]; exact has.few) pipeId o).mono (fun _ _ never => never)
      (fun _ _ never => never) ?_
    rintro answer t rfl
    exact good
  · rw [usbFnIoMgrInterfaceGetPipeInfo, needs_bind, needs_get, before_last]
    by_cases outside : (s.interfaceMgr i).numPipes ≤ pipeId
    · simp only [outside, if_true]
      exact good
    · simp only [outside, if_false, isOpen, Bool.false_eq_true]
      rw [needs_bind, needs_get, before_last, needs_bind, needs_modify, before_last, needs_bind, needs_openPipe]
      by_cases opens : o.openPipe
      · rw [if_pos opens]
        simp only [before_last, Option.some_ne_none, if_false]
        rw [needs_bind, needs_closePipe]
        have asked := good.make.putQuery s.made (some false)
        split
        · rw [if_neg (by simp [State.putFd])]
          exact asked.putQuery s.made none
        · exact asked
      · rw [if_neg opens]
        exact good.make

theorem putFunc_self (s : State) (f : Nat) : s.putFunc f (s.funcMgr f) = s := by
  rw [State.putFunc, update_eq_self]

theorem openEp0_ends (good : s.Good) (closed : (s.funcMgr f).fd = none) (o : Ep0Answer) :
    Needs (openEp0AndMapAddr f o) ⟨fun _ _ => False, fun _ _ => False, fun result t => t.Good ∧
      ((result = false ∧ ¬o.openPipe ∧ s.Untouched t) ∨
        (o.openPipe ∧ result = o.queueInit ∧ t.descriptors ≠ s.descriptors ∧ t.mapped = s.mapped ∧ t.handles = s.handles ∧
          t.interfaceMgr = s.interfaceMgr ∧ (t.funcMgr f).fd ≠ none))⟩ s := by
  have fresh : s.descriptors (.ep0 f s.made) = none := by
    by_contra there
    exact Nat.lt_irrefl _ (good.ep0 f s.made there)
  rw [openEp0AndMapAddr, needs_bind, needs_get, before_last, needs_bind, needs_modify, before_last, needs_bind, needs_openPipe]
  by_cases opens : o.openPipe
  · rw [if_pos opens]
    simp only [before_last, needs_bind, needs_modify, Option.some_ne_none, if_false, needs_queueInit]
    have opened := good.make.putFunc (n := s.made) f (some false)
      { s.funcMgr f with fd := some (.ep0 f s.made) } (Nat.lt_succ_self _) (.inr ⟨rfl, by simp⟩)
    have different : ∀ t : State, t.descriptors (.ep0 f s.made) ≠ none → t.descriptors ≠ s.descriptors := by
      intro t there same
      rw [same] at there
      exact there fresh
    by_cases queue : o.queueInit
    · rw [if_pos queue]
      have fd : (((s.make.putFd (.ep0 f s.made) (some false)).putFunc f { s.funcMgr f with fd := some (.ep0 f s.made) }).funcMgr f).fd =
          some (.ep0 f s.made) := by simp [State.putFunc]
      have queued := opened.putFunc (n := s.made) f (some true) _ (Nat.lt_succ_self _) (.inr ⟨fd, by simp⟩)
      have is : ∀ t : State, t.descriptors (.ep0 f s.made) = some false → (t.descriptors (.ep0 f s.made)).map (fun _ => true) = some true := by
        intro t there
        rw [there]
        rfl
      rw [is _ (by simp [State.putFunc, State.putFd])]
      refine ⟨?_, .inr ⟨opens, queue.symm, different _ (by simp [State.putFd]), rfl, rfl, rfl, ?_⟩⟩
      · have self := putFunc_self (((s.make.putFd (.ep0 f s.made) (some false)).putFunc f
          { s.funcMgr f with fd := some (.ep0 f s.made) }).putFd (.ep0 f s.made) (some true)) f
        exact self ▸ queued
      · simp [State.putFunc, State.putFd]
    · rw [if_neg queue]
      refine ⟨opened, .inr ⟨opens, ?_, ?_, rfl, rfl, rfl, ?_⟩⟩
      · simpa using queue
      · exact different _ (by simp [State.putFunc, State.putFd])
      · simp [State.putFunc]
  · rw [if_neg opens]
    have same : { s.funcMgr f with fd := none } = s.funcMgr f := by rw [← closed]
    change (s.make.putFunc f { s.funcMgr f with fd := none }).Good ∧ _
    rw [same]
    refine ⟨?_, .inl ⟨rfl, opens, ⟨rfl, rfl, rfl⟩⟩⟩
    rw [show s.make.putFunc f (s.funcMgr f) = s.make from putFunc_self s.make f]
    exact good.make

theorem getReqType_ends (isOpen : (s.interfaceMgr i).isOpen) (own : (s.interfaceMgr i).handle = some h)
    (there : s.handles h = some handle) (few : (s.interfaceMgr i).numPipes.toNat ≤ MAX_EP) (pipe : UInt8) (o : Query) :
    Needs (getReqType i pipe o) ⟨fun _ _ => False, fun _ _ => False, fun _ t => t = s⟩ s := by
  rw [getReqType]
  split
  · rfl
  · rw [needs_bind]
    refine (getPipeInfo_open isOpen own there few (pipe - 1) o).mono (fun _ _ never => never) (fun _ _ never => never) ?_
    rintro answer t rfl
    simp only [before_last]
    split <;> rfl

section
variable (good : s.Good)
include good

theorem makeRequest_ends (there : s.handles h = some handle) (has : s.Has h handle i) (f : Nat) (pipe : UInt8)
    (len : UInt32) (ep : Option Fd) (o : Allocation) : Needs (makeRequest h i f pipe len ep o)
      ⟨fun _ _ => False, fun _ _ => False, fun result t =>
        (result = .allocated none ∧ (ep = none ∨ o.mapAddr = .null ∨ o.mapAddr = .failed ∧ ¬o.reqList) ∧ t = s) ∨
        (result = .allocated none ∧ ep ≠ none ∧ o.mapAddr = .mapped ∧ ¬o.reqList ∧ t.mapped ≠ s.mapped) ∨
        ∃ r, result = .allocated (some r) ∧ ep ≠ none ∧ o.reqList ∧
          (o.mapAddr = .mapped ∧ t.Good ∧ t.Live r ∨ o.mapAddr = .failed ∧ ¬t.Live r)⟩ s := by
  have few : (s.interfaceMgr i).numPipes.toNat ≤ MAX_EP := by
    rw [← has.size]
    exact has.few
  rw [makeRequest, needs_bind]
  cases ep with
  | none => exact needs_mapAddr_none.mpr (.inl ⟨rfl, .inl rfl, rfl⟩)
  | some d =>
    rw [needs_mapAddr]
    cases answer : o.mapAddr with
    | null => exact .inl ⟨rfl, .inr (.inl rfl), rfl⟩
    | failed =>
      simp only [before_last]
      by_cases memory : o.reqList
      · rw [if_neg (by simp [memory]), needs_bind, needs_get, before_last, needs_bind, needs_modify, before_last, needs_bind]
        refine (getReqType_ends (s := s.make.putEntries _ _) has.isOpen has.own there few pipe o.query).mono (fun _ _ never => never)
          (fun _ _ never => never) ?_
        rintro type t rfl
        refine .inr (.inr ⟨s.made, rfl, by simp, memory, .inr ⟨trivial, ?_⟩⟩)
        rintro ⟨req, buf, its, some_, -⟩
        have is := (update_self ..).symm.trans its
        cases is
        cases some_
      · rw [if_pos (by simp [memory])]
        exact .inl ⟨rfl, .inr (.inr ⟨trivial, memory⟩), rfl⟩
    | mapped =>
      simp only [before_last]
      by_cases memory : o.reqList
      · rw [if_neg (by simp [memory]), needs_bind, needs_get, before_last, needs_bind, needs_modify, before_last, needs_bind]
        refine (getReqType_ends (s := (s.make.putMapped s.made true).make.putEntries _ _) has.isOpen has.own there few pipe o.query).mono
          (fun _ _ never => never) (fun _ _ never => never) ?_
        rintro type t rfl
        refine .inr (.inr ⟨s.made + 1, rfl, by simp, memory, .inl ⟨trivial, ?_, ?_⟩⟩)
        · refine (good.make.make.putEntries _ _).putRequest rfl rfl (Nat.lt_succ_self _) (Nat.lt_succ_self _) ?_
          intro r' req' there' same
          obtain ⟨-, -, buf, its, mapped⟩ := good.requests r' req' there'
          rw [same] at its
          cases its
          exact Nat.lt_irrefl _ (good.mapped _ mapped)
        · exact ⟨_, s.made, update_self .., rfl, update_self ..⟩
      · rw [if_pos (by simp [memory])]
        refine .inr (.inl ⟨rfl, by simp, trivial, memory, fun same => ?_⟩)
        have new : s.mapped s.made := by
          rw [← same]
          exact update_self ..
        exact Nat.lt_irrefl _ (good.mapped _ new)

theorem makeRequest_settled (there : s.handles h = some handle) (has : s.Has h handle i) (f : Nat) {pipe : UInt8}
    (len : UInt32) {ep : Option Fd} (o : Allocation) (careful : s.Careful (.requestAlloc h pipe len o) ↔
      ep = none ∨ o.mapAddr = .null ∨ (o.mapAddr = .failed ∧ ¬o.reqList) ∨ (o.mapAddr = .mapped ∧ o.reqList))
    (accepts : ep ≠ none → pipe ≠ 0 → pipe.toNat ≤ handle.numFd.toNat) :
    Needs (makeRequest h i f pipe len ep o) (callEnds s (.requestAlloc h pipe len o)) s := by
  refine (makeRequest_ends good there has f pipe len ep o).mono (fun _ _ never => never.elim) (fun _ _ never => never) ?_
  rintro result t (⟨rfl, which, rfl⟩ | ⟨rfl, some_, mapped, memory, different⟩ | ⟨r, rfl, some_, memory, which⟩)
  · refine ⟨iff_of_true (.refl t) (careful.mpr ?_), fun _ => good⟩
    rcases which with none | null | failed
    · exact .inl none
    · exact .inr (.inl null)
    · exact .inr (.inr (.inl failed))
  · have careless : ¬s.Careful (.requestAlloc h pipe len o) := by
      rw [careful, mapped]
      simp [some_, memory]
    exact ⟨iff_of_false (fun untouched => different untouched.mapped) careless, fun done => absurd done careless⟩
  · rcases which with ⟨mapped, good', live⟩ | ⟨failed, dead⟩
    · exact ⟨iff_of_true ⟨live, fun pipe => ⟨handle, there, accepts some_ pipe⟩⟩ (careful.mpr (.inr (.inr (.inr ⟨mapped, memory⟩)))),
        fun _ => good'⟩
    · have careless : ¬s.Careful (.requestAlloc h pipe len o) := by
        rw [careful, failed]
        simp [some_, memory]
      exact ⟨iff_of_false (fun settled => dead settled.1) careless, fun done => absurd done careless⟩

theorem needs_requestAlloc (there : s.handles h = some handle) (pipe : UInt8) (len : UInt32) (o : Allocation) :
    Needs (usbFnIoMgrRequestAlloc h pipe len o) (callEnds s (.requestAlloc h pipe len o)) s := by
  obtain ⟨i, has⟩ := good.handles h handle there
  have careful : s.Careful (.requestAlloc h pipe len o) ↔
      if pipe = 0 ∧ (s.funcMgr (s.interfaceMgr i).funcMgr).fd = none then
        ¬o.ep0.openPipe ∨ (o.ep0.queueInit ∧ o.mapAddr = .mapped ∧ o.reqList)
      else if pipe.toNat ≤ MAX_EP ∧ (pipe = 0 ∨ handle.fds (pipe.toNat - 1) ≠ none) then
        o.mapAddr = .null ∨ (o.mapAddr = .failed ∧ ¬o.reqList) ∨ (o.mapAddr = .mapped ∧ o.reqList)
      else True := by
    refine ⟨fun careful => careful handle i there has.intf, fun careful handle' i' there' intf' => ?_⟩
    rw [there] at there'
    cases there'
    rw [has.intf] at intf'
    cases intf'
    exact careful
  rw [usbFnIoMgrRequestAlloc, needs_bind, needs_handleAt, there]
  simp only [before_last, has.intf]
  rw [needs_bind, needs_get, before_last, needs_bind, pipeFd]
  by_cases ctrl : pipe = 0
  · rw [if_pos ctrl, needs_bind, needs_get, before_last]
    by_cases closed : (s.funcMgr (s.interfaceMgr i).funcMgr).fd = none
    · rw [if_pos ⟨ctrl, closed⟩] at careful
      rw [if_pos closed, needs_bind]
      refine (openEp0_ends good closed o.ep0).mono (fun _ _ never => never.elim) (fun _ _ never => never) ?_
      rintro result t ⟨good', which⟩
      rcases which with ⟨rfl, refused, untouched⟩ | ⟨opens, rfl, different, mapped, handles, interfaces, fd⟩
      · exact ⟨iff_of_true untouched (careful.mpr (.inl refused)), fun _ => good'⟩
      · have needs : s.Careful (.requestAlloc h pipe len o) → o.ep0.queueInit ∧ o.mapAddr = .mapped ∧ o.reqList :=
          fun done => (careful.mp done).resolve_left (not_not.mpr opens)
        cases queue : o.ep0.queueInit with
        | false =>
          have careless : ¬s.Careful (.requestAlloc h pipe len o) := by
            intro done
            rw [queue] at needs
            exact absurd (needs done).1 (by decide)
          exact ⟨iff_of_false (fun untouched => different untouched.descriptors) careless, fun done => absurd done careless⟩
        | true =>
          have there' : t.handles h = some handle := by rw [handles, there]
          obtain ⟨i', has'⟩ := good'.handles h handle there'
          obtain rfl := Option.some.inj (has.intf.symm.trans has'.intf)
          refine (makeRequest_ends good' there' has' _ pipe len _ o).mono (fun _ _ never => never.elim) (fun _ _ never => never) ?_
          rintro result u (⟨rfl, lost, rfl⟩ | ⟨rfl, -, -, memory, unlike⟩ | ⟨r, rfl, -, memory, which⟩)
          · have careless : ¬s.Careful (.requestAlloc h pipe len o) := by
              intro done
              obtain ⟨-, mapped, memory⟩ := needs done
              rcases lost with none | null | ⟨-, none⟩
              · exact fd none
              · rw [null] at mapped
                cases mapped
              · exact none memory
            exact ⟨iff_of_false (fun untouched => different untouched.descriptors) careless, fun done => absurd done careless⟩
          · have careless : ¬s.Careful (.requestAlloc h pipe len o) := fun done => memory (needs done).2.2
            exact ⟨iff_of_false (fun untouched => unlike (untouched.mapped.trans mapped.symm)) careless,
              fun done => absurd done careless⟩
          · rcases which with ⟨mapped', good'', live⟩ | ⟨failed, dead⟩
            · refine ⟨iff_of_true ⟨live, fun some_ => absurd ctrl some_⟩ (careful.mpr (.inr ⟨queue, mapped', memory⟩)), fun _ => good''⟩
            · have careless : ¬s.Careful (.requestAlloc h pipe len o) := by
                intro done
                have mapped' := (needs done).2.1
                rw [failed] at mapped'
                cases mapped'
              exact ⟨iff_of_false (fun settled => dead settled.1) careless, fun done => absurd done careless⟩
    · rw [if_neg closed]
      rw [if_neg (fun both => closed both.2), if_pos ⟨by rw [ctrl]; decide, .inl ctrl⟩] at careful
      refine makeRequest_settled good there has _ len o ?_ fun _ some_ => absurd ctrl some_
      rw [careful]
      simp [closed]
  · rw [if_neg ctrl]
    rw [if_neg (fun both => ctrl both.1)] at careful
    split
    · next inside =>
      refine makeRequest_settled good there has _ len o ?_ fun some_ _ => ?_
      · rw [careful]
        by_cases none : handle.fds (pipe.toNat - 1) = none
        · simp [none, ctrl]
        · simp [none, inside]
      · by_contra many
        exact some_ (has.beyond _ (by omega))
    · next outside =>
      rw [if_neg (fun both => outside both.1)] at careful
      exact ⟨iff_of_true (.refl s) (careful.mpr trivial), fun _ => good⟩

theorem free_ends {req : ReqList} (there : s.requests r = some req) (o : Release) : Needs (usbFnIoMgrRequestFree (some r) o)
      ⟨fun fault _ => fault = .freed ∧ o.unmapAddr ∧ ¬s.Removable r req, fun _ _ => False, fun result t =>
        (result = .ret .deviceBusy ∧ ¬o.unmapAddr ∧ t = s) ∨
        (result = .ret .invalidParam ∧ o.unmapAddr ∧ ¬o.releaseBuf ∧ ¬t.Live r) ∨
        (result = .ret .success ∧ o.releaseBuf ∧ s.Removable r req ∧ t.Good)⟩ s := by
  obtain ⟨-, fd, buf, its, mapped⟩ := good.requests r req there
  rw [usbFnIoMgrRequestFree, needs_bind, needs_requestAt, there]
  simp only [before_last, its]
  rw [needs_bind, needs_unmapAddr]
  by_cases unmaps : o.unmapAddr
  · rw [if_pos unmaps, if_pos mapped]
    simp only [before_last, Bool.not_true, Bool.false_eq_true, if_false, releaseBuf, fd, Bool.true_and]
    by_cases releases : o.releaseBuf
    · rw [if_neg (by simp [releases]), needs_bind, dListRemove, needs_bind, needs_get, before_last, needs_bind, needs_get, before_last,
        needs_ite]
      split
      · next freed => exact ⟨rfl, unmaps, fun removable => freed.2.elim (removable freed.1).1 (removable freed.1).2⟩
      · next kept =>
        refine .inr (.inr ⟨rfl, releases, fun freed => ?_, (good.dropRequest there its).putEntries _ _⟩)
        exact not_or.mp fun ends => kept ⟨freed, ends⟩
    · rw [if_pos (by simp [releases])]
      refine .inr (.inl ⟨rfl, unmaps, releases, ?_⟩)
      rintro ⟨req', buf', there', its', mapped'⟩
      have same : s.requests r = some req' := there'
      rw [there] at same
      cases same
      rw [its] at its'
      cases its'
      change update s.mapped buf false buf at mapped'
      rw [update_self] at mapped'
      cases mapped'
  · rw [if_neg unmaps]
    exact .inl ⟨rfl, unmaps, rfl⟩

theorem needs_requestFree {req : ReqList} (there : s.requests r = some req) (o : Release) :
    Needs (usbFnIoMgrRequestFree (some r) o) (callEnds s (.requestFree (some r) o)) s := by
  have careful : s.Careful (.requestFree (some r) o) ↔ ¬o.unmapAddr ∨ (o.releaseBuf ∧ s.Removable r req) := by
    simp [State.Careful, there]
  refine (free_ends good there o).mono ?_ (fun _ _ never => never) ?_
  · rintro fault t ⟨-, unmaps, lost⟩
    change ¬s.Careful _
    rw [careful]
    rintro (keeps | ⟨-, removable⟩)
    · exact keeps unmaps
    · exact lost removable
  · rintro result t (⟨rfl, keeps, rfl⟩ | ⟨rfl, unmaps, refused, dead⟩ | ⟨rfl, releases, removable, good'⟩)
    · obtain ⟨-, -, buf, its, mapped⟩ := good.requests r req there
      refine ⟨iff_of_true (fun _ => ⟨⟨req, buf, there, its, mapped⟩, fun o' => ?_⟩) (careful.mpr (.inl keeps)), fun _ => good⟩
      refine (free_ends good there o').mono ?_ (fun _ _ never => never.elim) fun _ _ _ => trivial
      rintro fault t ⟨rfl, -⟩ same
      cases same
    · have careless : ¬s.Careful (.requestFree (some r) o) := by
        rw [careful]
        simp [unmaps, refused]
      refine ⟨iff_of_false (fun settled => dead (settled ?_).1) careless, fun done => absurd done careless⟩
      intro failed
      cases failed
    · exact ⟨iff_of_true (fun failed => absurd rfl failed) (careful.mpr (.inr ⟨releases, removable⟩)), fun _ => good'⟩

theorem startRecvEvent_good (i : Nat) (o : Ep0Answer) :
    Needs (usbFnMgrStartRecvEvent i o) ⟨fun _ _ => False, fun _ _ => False, fun _ t => t.Good⟩ s := by
  rw [usbFnMgrStartRecvEvent, needs_bind, needs_get, before_last, needs_bind, needs_get, before_last]
  split
  · exact good
  · rw [needs_bind, needs_modify, before_last, needs_bind, needs_get, before_last]
    have set := good.callback (s.interfaceMgr i).funcMgr
    split
    · next closed =>
      rw [needs_bind]
      refine (openEp0_ends set closed o).mono (fun _ _ never => never) (fun _ _ never => never) ?_
      rintro result t ⟨good', -⟩
      simp only [before_last]
      split <;> exact good'
    · exact set

theorem stopRecvEvent_good (i : Nat) (o : CloseAnswer) :
    Needs (usbFnStopRecvEvent i o) ⟨fun _ _ => False, fun _ _ => False, fun _ t => t.Good⟩ s := by
  rw [usbFnStopRecvEvent, needs_bind, needs_get, before_last, needs_bind, needs_get, before_last, needs_bind]
  cases fd : (s.funcMgr (s.interfaceMgr i).funcMgr).fd with
  | none => exact good
  | some d =>
    obtain ⟨⟨n, rfl⟩, there⟩ := good.funcs _ _ fd
    have old := good.ep0 _ n there
    rw [needs_queueDel]
    split
    · simp only [before_last, Bool.not_true, Bool.false_eq_true, if_false]
      rw [needs_bind, needs_closePipe]
      obtain ⟨queue, open_⟩ := Option.ne_none_iff_exists'.mp there
      have deleted := good.putFunc _ (some false) _ old (.inr ⟨fd, by simp⟩)
      rw [show (s.putFd (.ep0 (s.interfaceMgr i).funcMgr n) (some false)).putFunc (s.interfaceMgr i).funcMgr
        (s.funcMgr (s.interfaceMgr i).funcMgr) = s.putFd (.ep0 (s.interfaceMgr i).funcMgr n) (some false) from putFunc_self _ _] at deleted
      simp only [open_, Option.map_some]
      split
      · rw [if_neg (by simp [State.putFd])]
        exact deleted.putFunc _ none ⟨none, false⟩ old (.inl rfl)
      · exact deleted
    · exact good

theorem needs_perform (call : Call) (given : s.Given call) : Needs (perform call) (callEnds s call) s := by
  have fine : ∀ {p : Io Result}, Needs p ⟨fun _ _ => False, fun _ _ => False, fun _ t => t.Good⟩ s →
      (∀ result t, s.Settled call result t) → s.Careful call → Needs p (callEnds s call) s := by
    intro p ends settled careful
    exact ends.mono (fun _ _ never => never.elim) (fun _ _ never => never) fun result t good' =>
      ⟨iff_of_true (settled result t) careful, fun _ => good'⟩
  cases call with
  | interfaceOpen interface o =>
    cases interface with
    | none => exact ⟨iff_of_true (.refl s) trivial, fun _ => good⟩
    | some i => exact needs_interfaceOpen good i o
  | interfaceClose handle o =>
    cases handle with
    | none => exact ⟨iff_of_true trivial trivial, fun _ => good⟩
    | some h =>
      obtain ⟨handle, there⟩ := Option.isSome_iff_exists.mp given
      exact needs_interfaceClose good there o
  | getPipeInfo i pipeId o =>
    refine fine ?_ (fun _ _ => trivial) trivial
    rw [perform, needs_bind]
    exact needs_getPipeInfo good i pipeId o
  | requestAlloc h pipe len o =>
    obtain ⟨handle, there⟩ := Option.isSome_iff_exists.mp given
    exact needs_requestAlloc good there pipe len o
  | requestFree req o =>
    cases req with
    | none => exact ⟨iff_of_true trivial trivial, fun _ => good⟩
    | some r =>
      obtain ⟨req, there⟩ := Option.isSome_iff_exists.mp given
      exact needs_requestFree good there o
  | startRecvEvent i o => exact fine (startRecvEvent_good good i o) (fun _ _ => trivial) trivial
  | stopRecvEvent i o => exact fine (stopRecvEvent_good good i o) (fun _ _ => trivial) trivial

theorem right_iff {call : Call} (given : s.Given call) : s.Right call ↔ s.Careful call := by
  have ends := needs_perform good call given
  rw [Needs] at ends
  rw [State.Right, Needs]
  cases run : (perform call).run s with
  | ok result t =>
    rw [run] at ends
    exact ends.1
  | error stop t =>
    rw [run] at ends
    cases stop with
    | returned result => exact False.elim ends
    | wrong fault => exact iff_of_false (fun never => never) ends

theorem good_after {call : Call} (given : s.Given call) (careful : s.Careful call) : (s.after call).Good := by
  have ends := needs_perform good call given
  rw [Needs] at ends
  rw [State.after]
  cases run : (perform call).run s with
  | ok result t =>
    rw [run] at ends
    exact ends.2 careful
  | error stop t =>
    rw [run] at ends
    cases stop with
    | returned result => exact False.elim ends
    | wrong fault => exact absurd careful ends

end

def State.May (s : State) (call : Call) : Prop := s.Given call ∧ s.Careful call

theorem reached_good {interfaceMgr : Nat → UsbFnInterfaceMgr}
    (reached : Transitions.Reaches State.after State.May (start interfaceMgr) s) : s.Good :=
  reached.keeps (start_good interfaceMgr) fun _ _ good may => good_after good may.1 may.2

/-- In every state of a run of careful calls a call is all or nothing when it is careful, and only then. -/
theorem calls_right {interfaceMgr : Nat → UsbFnInterfaceMgr}
    (reached : Transitions.Reaches State.after State.May (start interfaceMgr) s) {call : Call} (given : s.Given call) :
    s.Right call ↔ s.Careful call :=
  right_iff (reached_good reached) given

def twoPipes : State := start fun _ => ⟨0, 2, false, none⟩

def opens : Call := .interfaceOpen (some 0) ⟨true, fun _ => ⟨true, true, true⟩⟩

def allocates : Call := .requestAlloc 0 1 64 ⟨⟨true, true⟩, .mapped, true, ⟨true, none, true⟩⟩

theorem opens_careful : twoPipes.May opens := ⟨trivial, .inr (.inr (.inr ⟨by decide, fun _ _ => rfl⟩))⟩

theorem allocates_careful : (twoPipes.after opens).May allocates := by
  refine ⟨rfl, ?_⟩
  intro handle i there intf
  cases there
  cases intf
  exact .inr (.inr ⟨rfl, rfl⟩)

theorem calls_right_open : Transitions.Reaches State.after State.May twoPipes (twoPipes.after opens) ∧
    (twoPipes.after opens).Right allocates := by
  have reached : Transitions.Reaches State.after State.May twoPipes (twoPipes.after opens) := .next .first opens opens_careful
  exact ⟨reached, (calls_right reached allocates_careful.1).mpr allocates_careful.2⟩

/-- The second pipe of two cannot be opened, there is no memory for a request, the second pipe of two cannot be closed, and a
    buffer is not released. -/
theorem calls_wrong : ¬twoPipes.Right (.interfaceOpen (some 0) ⟨true, fun k => ⟨k = 0, true, true⟩⟩) ∧
    ¬(twoPipes.after opens).Right (.requestAlloc 0 1 64 ⟨⟨true, true⟩, .mapped, false, ⟨true, none, true⟩⟩) ∧
    ¬(twoPipes.after opens).Right (.interfaceClose (some 0) fun k => ⟨k = 0, true⟩) ∧
    ¬((twoPipes.after opens).after allocates).Right (.requestFree (some 2) ⟨true, false⟩) := by
  have good : twoPipes.Good := start_good _
  have good' := good_after good opens_careful.1 opens_careful.2
  have good'' := good_after good' allocates_careful.1 allocates_careful.2
  refine ⟨?_, ?_, ?_, ?_⟩
  · intro right
    rcases (right_iff good (by trivial)).mp right with isOpen | memory | ⟨-, refused⟩ | ⟨-, all⟩
    · cases isOpen
    · exact memory rfl
    · exact refused rfl
    · exact absurd (all 1 (by decide)) (by decide)
  · intro right
    rcases (right_iff good' (by rfl)).mp right _ _ rfl rfl with null | ⟨failed, -⟩ | ⟨-, memory⟩
    · cases null
    · cases failed
    · cases memory
  · intro right
    rcases (right_iff good' (by rfl)).mp right _ rfl with keeps | all
    · exact keeps rfl
    · exact absurd (all 1 (by decide)) (by decide)
  · intro right
    rcases (right_iff good'' (by rfl)).mp right _ rfl with keeps | ⟨releases, -⟩
    · exact keeps rfl
    · cases releases

end Peripheral.UsbFnIoMgr
