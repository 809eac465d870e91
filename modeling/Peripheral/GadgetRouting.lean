import Mathlib.Data.List.Nodup
import Peripheral.GadgetEvents

/-!
Where the events of the USB gadget should go, and where they do. An event belongs to the function or to the handle
that has the descriptor of the collection still open; a number that is closed and opened again is another descriptor.
-/
namespace Peripheral.UsbFnIo
open List

variable {d : UsbFnDeviceMgr} {i j : Nat} {h k : UsbHandleMgr} {fd : Fd}

theorem find?_only {α : Type} {l : List α} {p : α → Bool} {a : α} (member : a ∈ l) (holds : p a)
    (only : ∀ b ∈ l, p b → b = a) : l.find? p = some a := by
  cases found : l.find? p with
  | none => exact absurd holds (find?_eq_none.mp found a member)
  | some b => rw [only b (mem_of_find?_eq_some found) (find?_some found)]

namespace UsbFnDeviceMgr

def Open (d : UsbFnDeviceMgr) (i : Nat) (h : UsbHandleMgr) : Prop :=
  i < d.numInterfaces ∧ (d.interfaceMgr i).handle = some h

theorem mem_handles : h ∈ d.handles ↔ ∃ i, d.Open i h := by
  simp only [handles, mem_filterMap, mem_range, Open]

def funcOf (d : UsbFnDeviceMgr) (fd : Fd) : Option Nat := (range d.numFunc).find? fun i => (d.funcMgr i).fd = fd

def handleOf (d : UsbFnDeviceMgr) (fd : Fd) : Option UsbHandleMgr := d.handles.find? fun h => fd ∈ h.fds

def handleAt (d : UsbFnDeviceMgr) (id : Nat) : Option UsbHandleMgr := d.handles.find? fun h => h.id = id

def numbers (d : UsbFnDeviceMgr) : List Int :=
  ((range d.numFunc).map fun i => (d.funcMgr i).fd.number) ++ d.handles.flatMap fun h => h.fds.map Fd.number

theorem func_number (inside : i < d.numFunc) : (d.funcMgr i).fd.number ∈ d.numbers :=
  mem_append_left _ (mem_map_of_mem (mem_range.mpr inside))

theorem handle_number (opened : d.Open i h) (its : fd ∈ h.fds) : fd.number ∈ d.numbers :=
  mem_append_right _ (mem_flatMap.mpr ⟨h, mem_handles.mpr ⟨i, opened⟩, mem_map_of_mem its⟩)

/-- Numbers in use belong to one function and to one handle, handles have addresses of their own, and nothing is
younger than `next`. -/
structure Good (d : UsbFnDeviceMgr) : Prop where
  functions : ∀ {i j : Nat}, i < d.numFunc → j < d.numFunc → 0 < (d.funcMgr i).fd.number →
    (d.funcMgr i).fd.number = (d.funcMgr j).fd.number → i = j
  handles : ∀ {i j : Nat} {h k : UsbHandleMgr}, d.Open i h → d.Open j k → ∀ a ∈ h.fds, ∀ b ∈ k.fds, 0 < a.number →
    a.number = b.number → i = j
  addresses : ∀ {i j : Nat} {h k : UsbHandleMgr}, d.Open i h → d.Open j k → h.id = k.id → i = j
  func_old : ∀ {i : Nat}, i < d.numFunc → (d.funcMgr i).fd.opening < d.next
  handle_old : ∀ {i : Nat} {h : UsbHandleMgr}, d.Open i h → h.id < d.next ∧ ∀ fd ∈ h.fds, fd.opening < d.next

theorem Open.same (first : d.Open i h) (second : d.Open i k) : h = k :=
  Option.some.inj (first.2.symm.trans second.2)

namespace Good

variable (good : d.Good)
include good

theorem funcOf (inside : i < d.numFunc) (its : (d.funcMgr i).fd = fd) (pos : 0 < fd.number) : d.funcOf fd = some i := by
  refine find?_only (mem_range.mpr inside) (decide_eq_true its) fun j within same => ?_
  have same := of_decide_eq_true same
  exact good.functions (mem_range.mp within) inside (by rw [same]; exact pos) (by rw [same, its])

theorem getFuncMgr (inside : i < d.numFunc) (its : (d.funcMgr i).fd = fd) (pos : 0 < fd.number) :
    d.getFuncMgr fd.number = some i := by
  have found : ((range d.numFunc).find? fun i => (d.funcMgr i).fd.number = fd.number) = some i := by
    refine find?_only (mem_range.mpr inside) (decide_eq_true (by rw [its])) fun j within same => ?_
    have same := of_decide_eq_true same
    exact good.functions (mem_range.mp within) inside (by rw [same]; exact pos) (by rw [same, its])
  rw [UsbFnDeviceMgr.getFuncMgr, found]

theorem handleOf (opened : d.Open i h) (its : fd ∈ h.fds) (pos : 0 < fd.number) : d.handleOf fd = some h := by
  refine find?_only (mem_handles.mpr ⟨i, opened⟩) (decide_eq_true its) fun k member also => ?_
  obtain ⟨j, other⟩ := mem_handles.mp member
  have same := good.handles other opened fd (of_decide_eq_true also) fd its pos rfl
  subst same
  exact other.same opened

theorem getHandleMgr (opened : d.Open i h) (its : fd ∈ h.fds) (pos : 0 < fd.number) : d.getHandleMgr fd.number = some h := by
  have found : (d.handles.find? fun handle => handle.fds.any (·.number = fd.number)) = some h := by
    refine find?_only (mem_handles.mpr ⟨i, opened⟩) (any_eq_true.mpr ⟨fd, its, decide_eq_true rfl⟩)
      fun k member also => ?_
    obtain ⟨j, other⟩ := mem_handles.mp member
    obtain ⟨b, member, same⟩ := any_eq_true.mp also
    have same := good.handles opened other fd its b member pos (of_decide_eq_true same).symm
    subst same
    exact other.same opened
  rw [UsbFnDeviceMgr.getHandleMgr, found]

theorem handleAt (opened : d.Open i h) : d.handleAt h.id = some h := by
  refine find?_only (mem_handles.mpr ⟨i, opened⟩) (decide_eq_true rfl) fun k member same => ?_
  obtain ⟨j, other⟩ := mem_handles.mp member
  have same := good.addresses other opened (of_decide_eq_true same)
  subst same
  exact other.same opened

end Good

structure Follows (d d' : UsbFnDeviceMgr) : Prop where
  next : d.next ≤ d'.next
  handles : ∀ {i : Nat} {h' : UsbHandleMgr}, d'.Open i h' → ∀ fd ∈ h'.fds, 0 < fd.number → fd.opening < d.next →
    ∃ h, d.Open i h ∧ h.id = h'.id ∧ fd ∈ h.fds

variable {d' : UsbFnDeviceMgr} {next' : Nat}

theorem Follows.refl (d : UsbFnDeviceMgr) : d.Follows d :=
  ⟨Nat.le_refl _, fun opened _ its _ _ => ⟨_, opened, rfl, its⟩⟩

theorem Follows.trans {d'' : UsbFnDeviceMgr} (first : d.Follows d') (later : d'.Follows d'') : d.Follows d'' := by
  refine ⟨first.next.trans later.next, fun opened fd its pos old => ?_⟩
  obtain ⟨h', opened', same, its⟩ := later.handles opened fd its pos (Nat.lt_of_lt_of_le old first.next)
  obtain ⟨h, opened, same', its⟩ := first.handles opened' fd its pos old
  exact ⟨h, opened, same'.trans same, its⟩

theorem open_setHandle {handle : Option UsbHandleMgr} (opened : (d.setHandle i handle).Open j k) :
    (j = i ∧ i < d.numInterfaces ∧ handle = some k) ∨ (j ≠ i ∧ d.Open j k) := by
  obtain ⟨inside, its⟩ := opened
  simp only [setHandle, Function.update_apply] at its inside
  by_cases same : j = i
  · subst same
    rw [if_pos rfl] at its
    exact .inl ⟨rfl, inside, its⟩
  · rw [if_neg same] at its
    exact .inr ⟨same, inside, its⟩

namespace Good

variable (good : d.Good)
include good

theorem later (more : d.next ≤ next') : ({ d with next := next' } : UsbFnDeviceMgr).Good ∧
    d.Follows { d with next := next' } := by
  refine ⟨⟨good.functions, good.handles, good.addresses, fun inside => ?_, fun opened => ?_⟩,
    more, fun opened _ its _ _ => ⟨_, opened, rfl, its⟩⟩
  · exact Nat.lt_of_lt_of_le (good.func_old inside) more
  · obtain ⟨address, fds⟩ := good.handle_old opened
    exact ⟨Nat.lt_of_lt_of_le address more, fun fd its => Nat.lt_of_lt_of_le (fds fd its) more⟩

theorem setFunc {f : UsbFnFuncMgr} (its : f.fd = (d.funcMgr i).fd ∨ f.fd.number ≤ 0 ∨ f.fd.number ∉ d.numbers)
    (old : i < d.numFunc → f.fd.opening < d.next) : (d.setFunc i f).Good ∧ d.Follows (d.setFunc i f) := by
  have others : ∀ {j : Nat}, j < d.numFunc → j ≠ i → 0 < f.fd.number → f.fd.number = (d.funcMgr j).fd.number →
      i < d.numFunc → i = j := by
    intro j within _ pos same inside
    rcases its with kept | none | new
    · rw [kept] at pos same
      exact good.functions inside within pos same
    · exact absurd pos (Int.not_lt.mpr none)
    · exact absurd (same ▸ func_number within) new
  refine ⟨⟨fun {j k} first second pos same => ?_, good.handles, good.addresses, fun {j} inside => ?_, good.handle_old⟩,
    Nat.le_refl _, fun opened _ its _ _ => ⟨_, opened, rfl, its⟩⟩
  · simp only [UsbFnDeviceMgr.setFunc, Function.update_apply] at pos same first second
    by_cases atJ : j = i
    · by_cases atK : k = i
      · rw [atJ, atK]
      · rw [if_pos atJ] at pos
        rw [if_pos atJ, if_neg atK] at same
        exact atJ.trans (others second atK pos same (atJ ▸ first))
    · by_cases atK : k = i
      · rw [if_neg atJ] at pos
        rw [if_neg atJ, if_pos atK] at same
        exact ((others first atJ (same ▸ pos) same.symm (atK ▸ second)).symm).trans atK.symm
      · rw [if_neg atJ] at pos
        rw [if_neg atJ, if_neg atK] at same
        exact good.functions first second pos same
  · simp only [UsbFnDeviceMgr.setFunc, Function.update_apply]
    split
    · next atJ => exact old (atJ ▸ inside)
    · exact good.func_old inside

theorem setHandle_none : (d.setHandle i none).Good ∧ d.Follows (d.setHandle i none) := by
  have same : ∀ {j : Nat} {k : UsbHandleMgr}, (d.setHandle i none).Open j k → d.Open j k := fun opened =>
    (open_setHandle opened).elim (fun here => nomatch here.2.2) And.right
  exact ⟨⟨good.functions, fun first second => good.handles (same first) (same second),
    fun first second => good.addresses (same first) (same second), good.func_old,
      fun opened => good.handle_old (same opened)⟩,
    Nat.le_refl _, fun opened _ its _ _ => ⟨_, same opened, rfl, its⟩⟩

theorem setHandle (more : d.next ≤ next')
    (address : (∃ h, d.Open i h ∧ h.id = k.id) ∨ d.next ≤ k.id) (young : k.id < next')
    (each : ∀ fd ∈ k.fds, fd.opening < next' ∧
      ((∃ h, d.Open i h ∧ h.id = k.id ∧ fd ∈ h.fds) ∨ fd.number ≤ 0 ∨ (fd.number ∉ d.numbers ∧ d.next ≤ fd.opening))) :
    (({ d with next := next' } : UsbFnDeviceMgr).setHandle i (some k)).Good ∧
      d.Follows (({ d with next := next' } : UsbFnDeviceMgr).setHandle i (some k)) := by
  have apart : ∀ {j : Nat} {other : UsbHandleMgr}, d.Open j other → ∀ a ∈ other.fds, ∀ b ∈ k.fds, 0 < a.number →
      a.number = b.number → j = i := by
    intro j other opened a inA b inB pos same
    obtain ⟨-, ⟨h, here, -, its⟩ | none | ⟨new, -⟩⟩ := each b inB
    · exact good.handles opened here a inA b its pos same
    · exact absurd pos (same ▸ Int.not_lt.mpr none)
    · exact absurd (same ▸ handle_number opened inA) new
  have alone : ∀ {j : Nat} {other : UsbHandleMgr}, d.Open j other → other.id = k.id → j = i := by
    intro j other opened same
    rcases address with ⟨h, here, its⟩ | new
    · exact good.addresses opened here (same.trans its.symm)
    · have := (good.handle_old opened).1
      omega
  refine ⟨⟨good.functions, fun first second a inA b inB pos same => ?_, fun first second same => ?_,
    fun inside => Nat.lt_of_lt_of_le (good.func_old inside) more, fun opened => ?_⟩, more,
    fun opened fd its pos old => ?_⟩
  · rcases open_setHandle first with ⟨rfl, -, isA⟩ | ⟨-, openA⟩
    · cases isA
      rcases open_setHandle second with ⟨rfl, -, -⟩ | ⟨-, openB⟩
      · rfl
      · exact (apart openB b inB a inA (same ▸ pos) same.symm).symm
    · rcases open_setHandle second with ⟨rfl, -, isB⟩ | ⟨-, openB⟩
      · cases isB
        exact apart openA a inA b inB pos same
      · exact good.handles openA openB a inA b inB pos same
  · rcases open_setHandle first with ⟨rfl, -, isA⟩ | ⟨-, openA⟩
    · cases isA
      rcases open_setHandle second with ⟨rfl, -, -⟩ | ⟨-, openB⟩
      · rfl
      · exact (alone openB same.symm).symm
    · rcases open_setHandle second with ⟨rfl, -, isB⟩ | ⟨-, openB⟩
      · cases isB
        exact alone openA same
      · exact good.addresses openA openB same
  · rcases open_setHandle opened with ⟨-, -, is⟩ | ⟨-, before⟩
    · cases is
      exact ⟨young, fun fd its => (each fd its).1⟩
    · obtain ⟨address, fds⟩ := good.handle_old before
      exact ⟨Nat.lt_of_lt_of_le address more, fun fd its => Nat.lt_of_lt_of_le (fds fd its) more⟩
  · rcases open_setHandle opened with ⟨rfl, -, is⟩ | ⟨-, before⟩
    · cases is
      obtain ⟨-, here | none | ⟨-, new⟩⟩ := each fd its
      · exact here
      · exact absurd pos (Int.not_lt.mpr none)
      · exact absurd old (Nat.not_lt.mpr new)
    · exact ⟨_, before, rfl, its⟩

theorem setHandle_same {h : UsbHandleMgr} (opened : d.Open i h) (address : h.id = k.id) (fds : h.fds = k.fds) :
    (d.setHandle i (some k)).Good ∧ d.Follows (d.setHandle i (some k)) := by
  obtain ⟨young, old⟩ := good.handle_old opened
  exact good.setHandle (Nat.le_refl _) (.inl ⟨h, opened, address⟩) (address ▸ young) fun fd its =>
    ⟨old fd (fds ▸ its), .inl ⟨h, opened, address, fds ▸ its⟩⟩

end Good

def Unused (d : UsbFnDeviceMgr) (number : Int) : Prop := 0 < number → number ∉ d.numbers

/-- A call is on an interface that there is. -/
def MayCall (d : UsbFnDeviceMgr) : Call → Prop
  | .interfaceOpen i _ pipes => i < d.numInterfaces ∧ pipes.length = (d.interfaceMgr i).numPipes ∧ ∀ pipe ∈ pipes, d.Unused pipe.1
  | .interfaceClose i _ | .stopRecvEvent i .. => i < d.numInterfaces
  | .startRecvEvent i _ _ _ number _ | .requestAlloc i _ number .. => i < d.numInterfaces ∧ d.Unused number
  | .requestFree .. => True

instance (d : UsbFnDeviceMgr) (number : Int) : Decidable (d.Unused number) := inferInstanceAs (Decidable (_ → _ ∉ _))

instance (d : UsbFnDeviceMgr) : (c : Call) → Decidable (d.MayCall c)
  | .interfaceOpen .. => inferInstanceAs (Decidable (_ ∧ _ ∧ _))
  | .interfaceClose .. | .stopRecvEvent .. => inferInstanceAs (Decidable (_ < d.numInterfaces))
  | .startRecvEvent .. | .requestAlloc .. => inferInstanceAs (Decidable (_ ∧ _))
  | .requestFree .. => inferInstanceAs (Decidable True)

theorem handleInit_fds {next : Nat} {pipes : List (Int × Bool × Bool)} {fds : List Fd} (ok : handleInit next pipes = some fds) :
    ∀ fd ∈ fds, next ≤ fd.opening ∧ fd.opening < next + pipes.length ∧ 0 < fd.number ∧ ∃ pipe ∈ pipes, pipe.1 = fd.number := by
  induction pipes generalizing next fds with
  | nil =>
    cases ok
    nofun
  | cons pipe rest ih =>
    obtain ⟨number, queueInit, malloc⟩ := pipe
    rw [handleInit] at ok
    split at ok
    · cases ok
    · next opens =>
      obtain ⟨behind, later, rfl⟩ := Option.map_eq_some_iff.mp ok
      intro fd member
      rw [length_cons]
      rcases mem_cons.mp member with rfl | its
      · exact ⟨Nat.le_refl _, by simp only; omega, Int.not_le.mp (not_or.mp opens).1, _, mem_cons_self, rfl⟩
      · obtain ⟨low, high, pos, pipe, member, same⟩ := ih later fd its
        exact ⟨by omega, by omega, pos, pipe, mem_cons_of_mem _ member, same⟩

theorem closePipes_fds (results : List (Bool × Bool)) (fds : List Fd) :
    ∀ fd ∈ (closePipes results fds).2, fd ∈ fds ∨ fd = closed := by
  induction fds generalizing results with
  | nil =>
    cases results <;> nofun
  | cons first rest ih =>
    cases results with
    | nil => exact fun fd its => .inl its
    | cons result more =>
      obtain ⟨queueDel, closePipe⟩ := result
      rw [closePipes]
      split
      · exact fun fd its => .inl its
      · intro fd its
        rcases mem_cons.mp its with rfl | behind
        · exact .inr rfl
        · exact (ih more fd behind).imp_left (mem_cons_of_mem _)

theorem unused_setFunc {f : UsbFnFuncMgr} {number : Int} (its : f.fd = (d.funcMgr i).fd) (unused : d.Unused number) :
    (d.setFunc i f).Unused number := by
  have same : (d.setFunc i f).numbers = d.numbers := by
    refine congrArg (· ++ _) (map_congr_left fun j _ => ?_)
    simp only [setFunc, Function.update_apply]
    split
    · next atJ => rw [its, atJ]
    · rfl
  rw [Unused, same]
  exact unused

namespace Good

variable (good : d.Good)
include good

theorem interfaceOpen {malloc : Bool} {pipes : List (Int × Bool × Bool)} (unused : ∀ pipe ∈ pipes, d.Unused pipe.1) :
    (d.interfaceOpen i malloc pipes).2.Good ∧ d.Follows (d.interfaceOpen i malloc pipes).2 := by
  unfold UsbFnDeviceMgr.interfaceOpen
  split
  · exact ⟨good, .refl d⟩
  · split
    · exact ⟨good, .refl d⟩
    · cases opens : handleInit (d.next + 1) pipes with
      | none => exact good.later (by omega)
      | some fds =>
        refine good.setHandle (by omega) (.inr (Nat.le_refl _)) (by simp only; omega) fun fd its => ?_
        obtain ⟨low, high, pos, pipe, member, same⟩ := handleInit_fds opens fd its
        exact ⟨by omega, .inr (.inr ⟨same ▸ unused pipe member (same ▸ pos), by omega⟩)⟩

theorem interfaceClose {results : List (Bool × Bool)} (inside : i < d.numInterfaces) :
    (d.interfaceClose i results).2.Good ∧ d.Follows (d.interfaceClose i results).2 := by
  unfold UsbFnDeviceMgr.interfaceClose
  cases its : (d.interfaceMgr i).handle with
  | none => exact ⟨good, .refl d⟩
  | some h =>
    have opened : d.Open i h := ⟨inside, its⟩
    have fds := closePipes_fds results h.fds
    obtain ⟨young, old⟩ := good.handle_old opened
    simp only
    split
    · next left is =>
      rw [is] at fds
      refine good.setHandle (Nat.le_refl _) (.inl ⟨h, opened, rfl⟩) young fun fd member => ?_
      rcases fds fd member with kept | rfl
      · exact ⟨old fd kept, .inl ⟨h, opened, rfl, kept⟩⟩
      · exact ⟨Nat.lt_of_le_of_lt (Nat.zero_le _) young, .inr (.inl (by decide))⟩
    · exact good.setHandle_none

theorem openEp0AndMapAddr {number : Int} {queueInit : Bool} (unused : d.Unused number) :
    (d.openEp0AndMapAddr i number queueInit).2.Good ∧ d.Follows (d.openEp0AndMapAddr i number queueInit).2 := by
  obtain ⟨later, follows⟩ := good.later (Nat.le_succ d.next)
  have opened := @Good.setFunc { d with next := d.next + 1 } i later { d.funcMgr i with fd := ⟨number, d.next⟩ }
    (.inr ((Int.lt_or_le 0 number).symm.imp_right unused)) fun _ => Nat.lt_succ_self _
  have result : (d.openEp0AndMapAddr i number queueInit).2 =
      ({ d with next := d.next + 1 } : UsbFnDeviceMgr).setFunc i { d.funcMgr i with fd := ⟨number, d.next⟩ } := by
    unfold UsbFnDeviceMgr.openEp0AndMapAddr
    simp only
    split
    · rfl
    · split <;> rfl
  rw [result]
  exact ⟨opened.1, follows.trans opened.2⟩

theorem setFunc_same {f : UsbFnFuncMgr} (its : f.fd = (d.funcMgr i).fd) : (d.setFunc i f).Good ∧ d.Follows (d.setFunc i f) :=
  good.setFunc (.inl its) fun inside => its ▸ good.func_old inside

theorem startRecvEvent {eventMask callback context : Nat} {number : Int} {queueInit : Bool} (unused : d.Unused number) :
    (d.startRecvEvent i eventMask callback context number queueInit).2.Good ∧
      d.Follows (d.startRecvEvent i eventMask callback context number queueInit).2 := by
  unfold UsbFnDeviceMgr.startRecvEvent
  simp only
  split
  · exact ⟨good, .refl d⟩
  · generalize (d.interfaceMgr i).funcMgr = f
    obtain ⟨good', follows⟩ := @Good.setFunc_same d f good
      { d.funcMgr f with context := context, eventMask := eventMask, callback := some callback } rfl
    split
    · have opens := @Good.openEp0AndMapAddr _ f good' number queueInit (unused_setFunc rfl unused)
      split <;> exact ⟨opens.1, follows.trans opens.2⟩
    · exact ⟨good', follows⟩

theorem stopRecvEvent {queueDel closePipe : Bool} :
    (d.stopRecvEvent i queueDel closePipe).2.Good ∧ d.Follows (d.stopRecvEvent i queueDel closePipe).2 := by
  unfold UsbFnDeviceMgr.stopRecvEvent
  simp only
  split
  · exact ⟨good, .refl d⟩
  · split
    · exact ⟨good, .refl d⟩
    · exact good.setFunc (.inr (.inl (show closed.number ≤ 0 by decide))) fun inside =>
        Nat.lt_of_le_of_lt (Nat.zero_le _) (good.func_old inside)

theorem insertRequest {f pipe : Nat} {ep : Int} {mapAddr : Option Nat} {malloc complete : Bool} (opened : d.Open i h) :
    (d.insertRequest i f pipe h ep mapAddr malloc complete).2.Good ∧
      d.Follows (d.insertRequest i f pipe h ep mapAddr malloc complete).2 := by
  unfold UsbFnDeviceMgr.insertRequest
  cases mapAddr with
  | none => exact ⟨good, .refl d⟩
  | some buf =>
    simp only
    split
    · exact ⟨good, .refl d⟩
    · obtain ⟨later, follows⟩ := good.later (Nat.le_succ d.next)
      split
      · have same := @Good.setFunc_same _ f later { d.funcMgr f with
          reqEntry := (d.funcMgr f).reqEntry ++ [⟨d.next, buf, pipe, ep, complete, 0, 0⟩] } rfl
        exact ⟨same.1, follows.trans same.2⟩
      · have same := @Good.setHandle_same _ i
          { h with reqEntry := h.reqEntry ++ [⟨d.next, buf, pipe, ep, complete, 0, 0⟩] } later h opened rfl rfl
        exact ⟨same.1, follows.trans same.2⟩

theorem requestAlloc {pipe : Nat} {number : Int} {queueInit : Bool} {mapAddr : Option Nat} {malloc complete : Bool}
    (inside : i < d.numInterfaces) (unused : d.Unused number) :
    (d.requestAlloc i pipe number queueInit mapAddr malloc complete).2.Good ∧
      d.Follows (d.requestAlloc i pipe number queueInit mapAddr malloc complete).2 := by
  unfold UsbFnDeviceMgr.requestAlloc
  cases its : (d.interfaceMgr i).handle with
  | none => exact ⟨good, .refl d⟩
  | some h =>
    simp only
    split
    · split
      · have opens := @Good.openEp0AndMapAddr d (d.interfaceMgr i).funcMgr good number queueInit unused
        have opened : (d.openEp0AndMapAddr (d.interfaceMgr i).funcMgr number queueInit).2.Open i h := by
          unfold UsbFnDeviceMgr.openEp0AndMapAddr
          simp only
          split
          · exact ⟨inside, its⟩
          · split <;> exact ⟨inside, its⟩
        split
        · next d' is =>
          rw [is] at opens opened
          exact ⟨(opens.1.insertRequest opened).1, opens.2.trans (opens.1.insertRequest opened).2⟩
        · next is =>
          rw [is] at opens
          exact opens
      · exact good.insertRequest ⟨inside, its⟩
    · split
      · exact good.insertRequest ⟨inside, its⟩
      · exact ⟨good, .refl d⟩

theorem dropRequest (request : Nat) : (d.dropRequest request).Good ∧ d.Follows (d.dropRequest request) := by
  have before : ∀ {j : Nat} {k : UsbHandleMgr}, (d.dropRequest request).Open j k →
      ∃ h, d.Open j h ∧ h.id = k.id ∧ h.fds = k.fds := by
    intro j k opened
    obtain ⟨h, its, is⟩ := Option.map_eq_some_iff.mp opened.2
    subst is
    exact ⟨h, ⟨opened.1, its⟩, rfl, rfl⟩
  refine ⟨⟨good.functions, fun first second a inA b inB => ?_, fun first second same => ?_, good.func_old, fun opened => ?_⟩,
    Nat.le_refl _, fun opened fd its _ _ => ?_⟩
  · obtain ⟨h, openA, -, fdsA⟩ := before first
    obtain ⟨k, openB, -, fdsB⟩ := before second
    exact good.handles openA openB a (fdsA ▸ inA) b (fdsB ▸ inB)
  · obtain ⟨h, openA, idA, -⟩ := before first
    obtain ⟨k, openB, idB, -⟩ := before second
    exact good.addresses openA openB (idA.trans (same.trans idB.symm))
  · obtain ⟨h, was, address, fds⟩ := before opened
    exact address ▸ fds ▸ good.handle_old was
  · obtain ⟨h, was, address, fds⟩ := before opened
    exact ⟨h, was, address, fds ▸ its⟩

theorem requestFree {request : Nat} {unmapAddr releaseBuf : Bool} :
    (d.requestFree request unmapAddr releaseBuf).2.Good ∧ d.Follows (d.requestFree request unmapAddr releaseBuf).2 := by
  unfold UsbFnDeviceMgr.requestFree
  split
  · exact ⟨good, .refl d⟩
  · split
    · exact ⟨good, .refl d⟩
    · exact good.dropRequest request

theorem perform {c : Call} (may : d.MayCall c) : (d.perform c).Good ∧ d.Follows (d.perform c) := by
  cases c with
  | interfaceOpen => exact good.interfaceOpen may.2.2
  | interfaceClose => exact good.interfaceClose may
  | startRecvEvent => exact good.startRecvEvent may.2
  | stopRecvEvent => exact good.stopRecvEvent
  | requestAlloc => exact good.requestAlloc may.1 may.2
  | requestFree => exact good.requestFree

theorem handleEp0Event (event : UsbEp0Event) : (d.handleEp0Event i event).Good ∧ d.Follows (d.handleEp0Event i event) := by
  cases event with
  | invalid => exact ⟨good, .refl d⟩
  | ctrl type setup =>
    simp only [UsbFnDeviceMgr.handleEp0Event]
    split
    · exact ⟨⟨good.functions, good.handles, good.addresses, good.func_old, good.handle_old⟩, Nat.le_refl _,
        fun opened _ its _ _ => ⟨_, opened, rfl, its⟩⟩
    · exact ⟨good, .refl d⟩
  | ioCompleted event => exact good.setFunc_same rfl

theorem handleEpsIoEvent (event : UsbFnReqEvent) (id : Nat) :
    (d.handleEpsIoEvent event id).Good ∧ d.Follows (d.handleEpsIoEvent event id) := by
  unfold UsbFnDeviceMgr.handleEpsIoEvent
  split
  · next i found =>
    have inside := mem_range.mp (mem_of_find?_eq_some found)
    cases its : (d.interfaceMgr i).handle with
    | none => exact good.setHandle_none
    | some h => exact good.setHandle_same ⟨inside, its⟩ rfl rfl
  · exact ⟨good, .refl d⟩

end Good

end UsbFnDeviceMgr

end Peripheral.UsbFnIo
