import Peripheral.AudioDispatch

/-!
Which requests make the audio server call through a null pointer. A side without an
object has the pid `0`, in every state that the server can get into, so the handlers that
do not look at their object are safe from all clients but that one; those that do not
look at the adapter are not.
-/
namespace Peripheral.Audio
open RemoteCalls Hdf Transitions

@[simp] theorem Pointer.adapter_isNull {address : Option Nat} : (Pointer.adapter address).isNull = false ↔ address ≠ none := by
  cases address <;> simp [isNull]

@[simp] theorem Pointer.object_isNull {render : Option HalObject} : (Pointer.object render).isNull = false ↔ render ≠ none := by
  cases render <;> simp [isNull]

theorem hdf_failure_neg : HDF_FAILURE < 0 := by decide

theorem invalid_param_neg : AUDIO_HAL_ERR_INVALID_PARAM < 0 := by decide

/-- Where a pointer is null, nothing is called through what was taken from the table, and an error is returned. -/
def Handled.Guarded (handled : Handled) : Prop :=
  (∃ pointer ∈ handled.obtained, pointer.isNull) → handled.called = false ∧ handled.ret < 0

def Handler.Provided (s : Service) (answers : Answers) (data : HdfSBuf) : Handler → Prop
  | .initAllPorts => ∀ adapterName behind, readString.run data = .ok adapterName behind →
      ∀ e ∈ s.server.entry adapterName, e.adapter ≠ none
  | .destory .capture => ∀ adapterName pid behind, hdiServiceRenderCaptureReadData.run data = .ok (adapterName, pid) behind →
      ∀ e ∈ s.server.entry adapterName, e.capture.pid = pid → e.adapter ≠ none ∧ (pid = 0 → e.capture.object ≠ none)
  | .frame d => ∀ adapterName behind, hdiServiceRenderCaptureReadData.run data = .ok (adapterName, 0) behind →
      Service.frameReady answers behind d → ∀ e ∈ s.server.entry adapterName, (e.side d).pid = 0 → (e.side d).object ≠ none
  | _ => True

/-- The status says whether there is an object, and without one there is no client and no destruction. -/
structure Side.Plain (side : Side) : Prop where
  matched : side.status = 0 ↔ side.object = none
  vacant : side.object = none → side.pid = 0
  spared : side.destory = false

def AudioInfoInAdapter.Plain (e : AudioInfoInAdapter) : Prop := ∀ d, (e.side d).Plain

def AudioServer.Plain (s : AudioServer) : Prop := ∀ e ∈ s.adapters, e.Plain

namespace Side.Plain

theorem init : Side.init.Plain := ⟨by simp [Side.init], fun _ => rfl, rfl⟩

variable {side : Side}

theorem emptied (spared : side.destory = false) {priority : Int} :
    ({ side with status := 0, priority := priority, object := none, pid := 0 } : Side).Plain :=
  ⟨by simp, fun _ => rfl, spared⟩

theorem taken (spared : side.destory = false) {priority : Int} {object : HalObject} {pid : UInt32} :
    ({ side with status := 1, priority := priority, object := some object, pid := pid } : Side).Plain :=
  ⟨by simp, nofun, spared⟩

theorem setBusy (plain : side.Plain) (busy : Bool) : ({ side with busy := busy } : Side).Plain :=
  ⟨plain.matched, plain.vacant, plain.spared⟩

theorem awaited (plain : side.Plain) : ({ side with destory := false } : Side).Plain := ⟨plain.matched, plain.vacant, rfl⟩

theorem stuck (plain : side.Plain) : ({ side with busy := false, destory := false, pid := 0 } : Side).Plain :=
  ⟨plain.matched, fun _ => rfl, rfl⟩

end Side.Plain

namespace AudioInfoInAdapter.Plain

variable {e : AudioInfoInAdapter} {d : Direction}

section
variable (plain : e.Plain)
include plain

theorem setSide {side : Side} (written : side.Plain) (d : Direction) : (e.setSide side d).Plain := by
  rintro (_ | _)
  · cases d with
    | render => exact written
    | capture => exact plain .render
  · cases d with
    | render => exact plain .capture
    | capture => exact written

theorem setBusy (busy : Bool) : (e.setSide { e.side d with busy := busy } d).Plain :=
  plain.setSide ((plain d).setBusy busy) d

theorem cleared : (e.cleared d).Plain := by
  cases d with
  | render => exact plain.setSide .init .render
  | capture =>
    rintro (_ | _)
    · exact ⟨(plain .render).matched, (plain .render).vacant, (plain .render).spared⟩
    · exact ⟨by simp [Side.init, AudioInfoInAdapter.cleared, AudioInfoInAdapter.side], fun _ => rfl, rfl⟩

variable {hal : HalAnswers}

theorem withCreated {pid type : UInt32} : (e.withCreated d pid type hal).Plain := by
  rw [AudioInfoInAdapter.withCreated]
  split
  · exact plain
  · exact plain.setSide (.taken (plain d).spared) d

theorem checked {priority : Int} {served : Served AudioInfoInAdapter}
    (way : Checked d priority hal e served) : served.state.Plain := by
  cases way with
  | free => exact plain
  | outranked => exact plain
  | busy => exact plain.setSide (plain d).awaited d
  | stuck => exact plain.setSide (plain d).stuck d
  | replaced => exact plain.cleared

theorem creat {pid type : UInt32} : (e.hdiServiceCreat d pid type hal).state.Plain := by
  generalize served : e.hdiServiceCreat d pid type hal = after
  have way := @creation e d hal pid type (plain d).matched
  rw [served] at way
  cases way with
  | unloaded => exact plain
  | refused loaded way => exact plain.checked way
  | passed loaded way => exact (plain.checked way).withCreated

theorem destory {pid : UInt32} {ret : Int} : (e.hdiServiceDestory d pid ret).state.Plain := by
  rcases @hdiServiceDestory_state e d pid ret with same | emptied
  · rw [same]
    exact plain
  · rw [emptied]
    exact plain.setSide (.emptied (plain d).spared) d

theorem frame {pid : UInt32} : (e.hdiServiceFrame d pid).state.Plain := by
  obtain ⟨busy, state⟩ := @hdiServiceFrame_state e d pid
  rw [state]
  exact plain.setBusy busy

end

end AudioInfoInAdapter.Plain

namespace AudioServer

theorem Plain.entry {s : AudioServer} (plain : s.Plain) {adapterName : String} {e : AudioInfoInAdapter}
    (found : e ∈ s.entry adapterName) : e.Plain :=
  plain e (List.mem_of_find?_eq_some found)

theorem Plain.update {s : AudioServer} (plain : s.Plain) {stop : AudioInfoInAdapter → Bool}
    {change : AudioInfoInAdapter → AudioInfoInAdapter} (kept : ∀ e : AudioInfoInAdapter, e.Plain → (change e).Plain) :
    (s.update stop change).Plain :=
  (forall_updateFirst plain).mpr fun e found => kept e (plain e (List.mem_of_find?_eq_some found))

theorem Plain.step {s : AudioServer} (plain : s.Plain) (c : Command) : (s.step c).Plain := by
  by_cases running : s.running
  · rw [step_of_running running]
    cases c with
    | loadAdapter adapterName loaded =>
      simp only [serve, hdiServiceLoadAdapter]
      split
      · exact plain
      · split
        · exact plain.update fun _ kept => kept
        · split
          · exact plain
          · exact plain.update fun _ kept => kept
    | unloadAdapter adapterName =>
      simp only [serve, hdiServiceUnloadAdapter]
      split
      · exact plain
      · split
        · exact plain.update fun _ kept => kept
        · exact plain.update fun _ kept => kept
    | creat d adapterName pid type hal => exact serveAt_forall plain fun _ found => (plain.entry found).creat
    | destory d adapterName pid ret => exact serveAt_forall plain fun _ found => (plain.entry found).destory
    | control d adapterName pid ret =>
      refine serveAt_forall plain fun e found => ?_
      rw [AudioInfoInAdapter.hdiServiceControl_state]
      exact plain.entry found
    | frame d adapterName pid => exact serveAt_forall plain fun _ found => (plain.entry found).frame
    | frameEnd d adapterName ret => exact serveAt_forall plain fun _ found => (plain.entry found).setBusy false
  · rw [step_of_not_running running]
    exact plain

theorem new_plain (names : List String) : (AudioServer.new names).Plain := by
  intro e made
  obtain ⟨name, -, rfl⟩ := List.mem_map.mp made
  rintro (_ | _)
  · exact .init
  · exact .init

end AudioServer

section

variable {α : Type} {reader : Reader Value Int32 α} {refused : Handled} {next : α → Part} {data : HdfSBuf}

theorem Service.refuse_guarded {s : Service} {ret : Int} : (s.refuse ret).Guarded := by
  rintro ⟨pointer, none, -⟩
  exact absurd none List.not_mem_nil

theorem reading_guarded_iff (turned : refused.Guarded) :
    (reading reader refused next data).Guarded ↔ ∀ a behind, reader.run data = .ok a behind → (next a behind).Guarded := by
  rw [reading]
  cases reader.run data with
  | ok a behind =>
    constructor
    · rintro guarded _ _ ⟨⟩
      exact guarded
    · exact fun all => all a behind rfl
  | error code unread => exact iff_of_true turned nofun

theorem finding_guarded_iff {s : Service} {adapterName : String} {missing : Int} {next : AudioInfoInAdapter → Part} :
    (s.finding adapterName missing next data).Guarded ↔ ∀ e ∈ s.server.entry adapterName, (next e data).Guarded := by
  rw [Service.finding]
  cases s.server.entry adapterName with
  | none => exact iff_of_true Service.refuse_guarded (by simp)
  | some e => simp

theorem guarded_of_found {handled : Handled} (found : ∀ pointer ∈ handled.obtained, pointer.isNull = false) :
    handled.Guarded := by
  rintro ⟨pointer, taken, null⟩
  exact absurd null (by simp [found pointer taken])

theorem called_guarded_iff {handled : Handled} (called : handled.called = true) :
    handled.Guarded ↔ ∀ pointer ∈ handled.obtained, pointer.isNull = false := by
  constructor
  · intro guarded pointer taken
    by_contra null
    have quiet := (guarded ⟨pointer, taken, by simpa using null⟩).1
    simp [called] at quiet
  · exact guarded_of_found

end

namespace Service

variable {s : Service} {answers : Answers} {d : Direction} {data : HdfSBuf}

theorem getAllAdapter_guarded : (s.hdiServiceGetAllAdapter answers data).Guarded := by
  rw [hdiServiceGetAllAdapter]
  split
  · exact refuse_guarded
  · split
    · exact refuse_guarded
    · split_ifs <;> exact refuse_guarded

theorem loadAdapter_guarded : (s.hdiServiceLoadAdapter answers data).Guarded := by
  rw [hdiServiceLoadAdapter, reading_guarded_iff refuse_guarded]
  intro adapterName behind _
  dsimp only
  split <;> exact refuse_guarded

theorem unloadAdapter_guarded : (s.hdiServiceUnloadAdapter data).Guarded := by
  rw [hdiServiceUnloadAdapter]
  split
  · exact refuse_guarded
  · exact (reading_guarded_iff refuse_guarded).mpr fun _ _ _ => refuse_guarded

theorem initAllPorts_guarded_iff : (s.hdiServiceInitAllPorts answers data).Guarded ↔ Handler.initAllPorts.Provided s answers data := by
  rw [hdiServiceInitAllPorts, reading_guarded_iff refuse_guarded]
  refine forall₃_congr fun adapterName behind _ => finding_guarded_iff.trans (forall₂_congr fun e _ => ?_)
  rw [called_guarded_iff rfl, List.forall_mem_singleton, Pointer.adapter_isNull]

theorem creat_guarded (plain : s.server.Plain) : (s.hdiServiceCreat answers d data).Guarded := by
  rw [hdiServiceCreat, reading_guarded_iff refuse_guarded]
  intro adapterName _ _
  rw [reading_guarded_iff refuse_guarded]
  intro pid _ _
  rw [reading_guarded_iff refuse_guarded]
  rintro ⟨desc, attrs⟩ _ _
  rw [finding_guarded_iff]
  intro e found
  have matched := (plain.entry found d).matched
  by_cases absent : e.adapter = none
  · rintro -
    simp [absent, AudioInfoInAdapter.hdiServiceCreat, AUDIO_HAL_ERR_INVALID_PARAM]
  · apply guarded_of_found
    intro pointer taken
    rcases List.mem_cons.mp taken with rfl | replaced
    · exact Pointer.adapter_isNull.mpr absent
    · split at replaced
      · next replaces =>
        rw [List.mem_singleton.mp replaced]
        exact Pointer.object_isNull.mpr fun empty => replaces.2.1 (matched.mpr empty)
      · exact absurd replaced List.not_mem_nil

theorem renderDestory_guarded : (s.hdiServiceRenderDestory answers data).Guarded := by
  rw [hdiServiceRenderDestory, reading_guarded_iff refuse_guarded]
  rintro ⟨adapterName, pid⟩ _ _
  rw [finding_guarded_iff]
  intro e _
  split
  · exact refuse_guarded
  · next owned =>
    have owner : e.audioAdapterListGet .render pid = .ok e.render.object := if_neg owned
    by_cases whole : e.adapter ≠ none ∧ e.render.object ≠ none
    · apply guarded_of_found
      simpa using whole
    · rintro -
      refine ⟨by simpa using whole, ?_⟩
      have refused : (e.hdiServiceRenderDestory pid answers.ret).ret = AUDIO_HAL_ERR_INVALID_PARAM := by
        rw [AudioInfoInAdapter.hdiServiceRenderDestory, owner]
        dsimp only
        split
        · next adapter render => exact absurd ⟨by simp [adapter], by simp [render]⟩ whole
        · rfl
      exact refused.symm ▸ invalid_param_neg

theorem captureDestory_guarded_iff (plain : s.server.Plain) :
    (s.hdiServiceCaptureDestory answers data).Guarded ↔ (Handler.destory .capture).Provided s answers data := by
  rw [hdiServiceCaptureDestory, reading_guarded_iff refuse_guarded, Prod.forall]
  refine forall₄_congr fun adapterName pid behind _ => finding_guarded_iff.trans (forall₂_congr fun e found => ?_)
  have vacant := (plain.entry found .capture).vacant
  by_cases owned : e.capture.pid = pid
  · rw [if_neg (not_not_intro owned), called_guarded_iff rfl]
    simp only [List.forall_mem_cons, Pointer.adapter_isNull, Pointer.object_isNull, owned, forall_const, List.not_mem_nil,
      false_implies, implies_true, and_true]
    -- A pid other than `0` has a capture.
    refine and_congr_right fun _ => ⟨fun live _ => live, fun named empty => named ?_ empty⟩
    exact owned.symm.trans (vacant empty)
  · rw [if_pos owned]
    exact iff_of_true refuse_guarded fun same => absurd same owned

theorem frame_guarded_iff (plain : s.server.Plain) :
    (s.hdiServiceFrame answers d data).Guarded ↔ (Handler.frame d).Provided s answers data := by
  rw [hdiServiceFrame, reading_guarded_iff refuse_guarded]
  constructor
  · intro guarded adapterName behind read ready e found owned empty
    have called := finding_guarded_iff.mp (guarded _ _ read) e found
    simp only [ne_eq, owned, not_true_eq_false, if_false, (plain.entry found d).spared, Bool.false_eq_true, ready,
      Bool.not_true] at called
    exact Pointer.object_isNull.mp ((called_guarded_iff rfl).mp called _ List.mem_cons_self) empty
  · rintro provided ⟨adapterName, pid⟩ behind read
    refine finding_guarded_iff.mpr fun e found => ?_
    have side := plain.entry found d
    by_cases empty : (e.side d).object = none
    · -- Without an object the pid that gets here is `0`, and the frame is not ready.
      split
      · exact refuse_guarded
      · next owned =>
        have vacant := side.vacant empty
        rw [not_not.mp owned] at vacant
        subst vacant
        have unready : ¬frameReady answers behind d := fun ready => provided _ _ read ready e found (not_not.mp owned) empty
        simp only [side.spared, Bool.false_eq_true, if_false, unready, Bool.not_false, if_true]
        rintro -
        refine ⟨rfl, ?_⟩
        split <;> simp [AUDIO_HAL_ERR_MALLOC_FAIL, AUDIO_HAL_ERR_INTERNAL]
    · split
      · exact refuse_guarded
      · rw [side.spared]
        split
        · contradiction
        · split <;> exact guarded_of_found (by simpa using empty)

theorem onAdapter_guarded {arguments : Reader Value Int32 Unit} {returned : Int → Int} :
    (s.onAdapter answers arguments returned data).Guarded := by
  rw [onAdapter, reading_guarded_iff refuse_guarded]
  intro adapterName _ _
  rw [reading_guarded_iff refuse_guarded]
  intro _ _ _
  rw [finding_guarded_iff]
  intro e _
  split
  · rintro -
    exact ⟨rfl, invalid_param_neg⟩
  · next loaded =>
    apply guarded_of_found
    simpa using loaded

theorem onObject_guarded {arguments : Reader Value Int32 Unit} {refused : Int} {returned : Int → Int} :
    (s.onObject answers d arguments refused returned data).Guarded := by
  rw [onObject, reading_guarded_iff refuse_guarded]
  rintro ⟨adapterName, pid⟩ _ _
  rw [finding_guarded_iff]
  intro e _
  rcases e.audioAdapterListGet d pid with code | _ | object
  · exact refuse_guarded
  · rintro -
    exact ⟨rfl, hdf_failure_neg⟩
  · rw [reading_guarded_iff]
    · exact fun _ _ _ => guarded_of_found (by simp)
    · exact guarded_of_found (by simp)

theorem handle_guarded_iff (plain : s.server.Plain) (handler : Handler) :
    (s.handle answers handler data).Guarded ↔ handler.Provided s answers data := by
  cases handler with
  | getFuncs =>
    refine iff_of_true ?_ trivial
    simp only [handle, hdiServiceGetFuncs]
    split_ifs <;> exact refuse_guarded
  | getAllAdapter => exact iff_of_true (@getAllAdapter_guarded s answers data) trivial
  | loadAdapter => exact iff_of_true loadAdapter_guarded trivial
  | unloadAdapter => exact iff_of_true unloadAdapter_guarded trivial
  | getDevStatusByPnp =>
    exact iff_of_true ((reading_guarded_iff refuse_guarded).mpr fun _ _ _ => refuse_guarded) trivial
  | initAllPorts => exact initAllPorts_guarded_iff
  | creat d => exact iff_of_true (creat_guarded plain) trivial
  | destory d =>
    cases d with
    | render => exact iff_of_true renderDestory_guarded trivial
    | capture => exact captureDestory_guarded_iff plain
  | frame d => exact frame_guarded_iff plain
  | onAdapter => exact iff_of_true onAdapter_guarded trivial
  | onObject => exact iff_of_true onObject_guarded trivial

end Service

def Handled.Plain (handled : Handled) : Prop := handled.service.server.Plain

section

variable {α : Type} {reader : Reader Value Int32 α} {refused : Handled} {next : α → Part} {data : HdfSBuf}

theorem reading_plain (turned : refused.Plain) (later : ∀ a behind, (next a behind).Plain) :
    (reading reader refused next data).Plain := by
  rw [reading]
  cases reader.run data with
  | ok a behind => exact later a behind
  | error => exact turned

theorem finding_plain {s : Service} {adapterName : String} {missing : Int} {next : AudioInfoInAdapter → Part}
    (plain : s.server.Plain) (later : ∀ e, (next e data).Plain) : (s.finding adapterName missing next data).Plain := by
  rw [Service.finding]
  cases s.server.entry adapterName with
  | none => exact plain
  | some e => exact later e

end

namespace Service

variable {s : Service} {answers : Answers} {data : HdfSBuf}

theorem handle_plain (plain : s.server.Plain) (handler : Handler) : (s.handle answers handler data).Plain := by
  have stepped (c : Command) : (s.step c).server.Plain := plain.step c
  cases handler with
  | getFuncs =>
    simp only [handle, hdiServiceGetFuncs]
    split_ifs <;> exact plain
  | getAllAdapter =>
    simp only [handle, hdiServiceGetAllAdapter]
    split
    · exact plain
    · split
      · exact plain
      · split_ifs
        · exact plain
        · exact plain
        · exact plain
        · exact AudioServer.new_plain _
  | loadAdapter =>
    refine reading_plain plain fun adapterName behind => ?_
    dsimp only
    split
    · exact plain
    · exact stepped _
  | unloadAdapter =>
    simp only [handle, hdiServiceUnloadAdapter]
    split
    · exact plain
    · exact reading_plain plain fun _ _ => stepped _
  | getDevStatusByPnp => exact reading_plain plain fun _ _ => plain
  | initAllPorts =>
    refine reading_plain plain fun _ _ => finding_plain plain fun e => ?_
    rw [Handled.Plain]
    split <;> exact plain
  | creat d =>
    exact reading_plain plain fun _ _ => reading_plain plain fun _ _ => reading_plain plain fun _ _ =>
      finding_plain plain fun _ => stepped _
  | destory d =>
    cases d with
    | render =>
      refine reading_plain plain fun _ _ => finding_plain plain fun e => ?_
      split
      · exact plain
      · exact stepped _
    | capture =>
      refine reading_plain plain fun _ _ => finding_plain plain fun e => ?_
      split
      · exact plain
      · exact stepped _
  | frame d =>
    refine reading_plain plain fun _ _ => finding_plain plain fun e => ?_
    split
    · exact plain
    · split
      · exact stepped _
      · split
        · exact plain
        · exact stepped _
  | onAdapter =>
    refine reading_plain plain fun _ _ => reading_plain plain fun _ _ => finding_plain plain fun e => ?_
    split <;> exact plain
  | onObject d =>
    refine reading_plain plain fun readData _ => finding_plain plain fun e => ?_
    rcases e.audioAdapterListGet d readData.2 with code | _ | object
    · exact plain
    · exact plain
    · exact reading_plain plain fun _ _ => plain

theorem dispatch_plain (plain : s.server.Plain) (desc : String) (cmdId : Int) :
    (s.hdiServiceDispatch answers desc cmdId data).Plain := by
  refine reading_plain plain fun _ behind => ?_
  cases handlerOf cmdId with
  | none => exact plain
  | some handler => exact handle_plain plain handler

theorem after_plain (plain : s.server.Plain) (event : Event) : (s.after event).server.Plain := by
  cases event with
  | request answers desc cmdId data => exact dispatch_plain plain desc cmdId
  | frameReturns d adapterName ret => exact plain.step _

theorem reached_plain (events : List Event) : (events.foldl after start).server.Plain := by
  have keeps : ∀ s : Service, s.server.Plain → (events.foldl after s).server.Plain := by
    induction events with
    | nil => exact fun _ plain => plain
    | cons event events later => exact fun s plain => later _ (after_plain plain event)
  exact keeps start (AudioServer.new_plain [])

/-- In every state that the server can get into, a request is turned away where its handler finds nothing to call, if and only
    if it is not one of those that the handlers trust. -/
theorem dispatch_guarded_iff (events : List Event) (answers : Answers) (desc : String) (cmdId : Int) (data : HdfSBuf) :
    ((events.foldl after start).hdiServiceDispatch answers desc cmdId data).Guarded ↔
      ∀ behind, (checkInterfaceToken desc).run data = .ok () behind → ∀ handler ∈ handlerOf cmdId,
        handler.Provided (events.foldl after start) answers behind := by
  rw [hdiServiceDispatch, reading_guarded_iff refuse_guarded]
  refine Iff.trans ⟨fun all => all (), fun all _ => all⟩ (forall₂_congr fun behind _ => ?_)
  cases handlerOf cmdId with
  | none => exact iff_of_true refuse_guarded (by simp)
  | some handler =>
    rw [handle_guarded_iff (reached_plain events)]
    simp

def willing : Answers := ⟨true, some ["primary"], true, .ok 100, ⟨true, 0, some 300⟩, 0⟩

def greeting : List Event := [.request willing "audio" 0 [.interfaceToken "audio"], .request willing "audio" 1 [.interfaceToken "audio"]]

/-- The ports of a card that is not loaded, a frame for its render and the end of its capture, from the pid `0`. -/
theorem unloaded_card_not_guarded :
    let s := greeting.foldl after start
    ¬(s.hdiServiceDispatch willing "audio" 4 [.interfaceToken "audio", .string "primary"]).Guarded ∧
      ¬(s.hdiServiceDispatch willing "audio" 31 [.interfaceToken "audio", .string "primary", .uint32 0, .buffer []]).Guarded ∧
      ¬(s.hdiServiceDispatch willing "audio" 46 [.interfaceToken "audio", .string "primary", .uint32 0]).Guarded := by
  refine ⟨fun guarded => ?_, fun guarded => ?_, fun guarded => ?_⟩
  · exact absurd (guarded ⟨.adapter none, by decide, rfl⟩).1 (by decide)
  · exact absurd (guarded ⟨.object none, by decide, rfl⟩).1 (by decide)
  · exact absurd (guarded ⟨.adapter none, by decide, rfl⟩).1 (by decide)

end Service

end Peripheral.Audio
