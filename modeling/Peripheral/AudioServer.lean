import Mathlib.Data.List.Basic
import Peripheral.Transitions

/-!
The adapter table of the audio server, `hdf_audio_server_common.c`, and the commands that
read and write it. Each command names its card, and every loop of the source acts on the
first entry with that name. What the HAL and the adapters return is given with the
command. A frame is under way from the command that hands it to the HAL until the HAL
returns; other commands may come in between. Where a pointer is read through that is
null the server is gone.
-/
namespace Peripheral.Audio

def HDF_SUCCESS : Int := 0
def HDF_FAILURE : Int := -1
def HDF_ERR_INVALID_PARAM : Int := -3
def AUDIO_HAL_SUCCESS : Int := 0
def AUDIO_HAL_ERR_INTERNAL : Int := -1
def AUDIO_HAL_ERR_INVALID_PARAM : Int := -3
def AUDIO_HAL_ERR_INVALID_OBJECT : Int := -4
def AUDIO_HAL_ERR_AI_BUSY : Int := -7002
def AUDIO_HAL_ERR_AO_BUSY : Int := -7003
def MAX_AUDIO_ADAPTER_NUM_SERVER : Nat := 8

inductive Direction
  | render
  | capture
  deriving DecidableEq

/-- A render or a capture of the HAL: where it is, the `attrs.type` it was created with, and the client that asked for it.
    The server keeps the client beside the object and never reads it from here. -/
structure HalObject where
  address : Nat
  type : UInt32
  creator : UInt32
  deriving DecidableEq

/-- `const int32_t priority = attrs.type`. -/
def priorityOf (type : UInt32) : Int := type.toInt32.toInt

/-- `renderStatus` to `renderPid` of an entry, or `captureStatus` to `capturePid`. -/
structure Side where
  status : Int
  priority : Int
  object : Option HalObject
  busy : Bool
  destory : Bool
  pid : UInt32
  deriving DecidableEq

/-- `adapter` is the address of the loaded adapter, if there is one. -/
structure AudioInfoInAdapter where
  adapterName : String
  adapter : Option Nat
  adapterUserNum : Int32
  render : Side
  capture : Side
  deriving DecidableEq

/-- What the calls of a create command give: whether the frame that it waits for returns in time, what `DestroyRender` or
    `DestroyCapture` returns, and the object of `CreateRender` or `CreateCapture` unless there is none or an error. -/
structure HalAnswers where
  frameEnds : Bool
  destroys : Int
  creates : Option Nat
  deriving DecidableEq

inductive HalCall
  | operate (object : HalObject)
  | destroy (object : HalObject)
  deriving DecidableEq

def HalCall.object : HalCall → HalObject
  | .operate object => object
  | .destroy object => object

structure Served (σ : Type) where
  state : σ
  ret : Int
  calls : List HalCall
  returns : Bool
  deriving DecidableEq

def Side.init : Side := ⟨0, -1, none, false, false, 0⟩

namespace AudioInfoInAdapter

def init (adapterName : String) : AudioInfoInAdapter := ⟨adapterName, none, 0, .init, .init⟩

def side (e : AudioInfoInAdapter) : Direction → Side
  | .render => e.render
  | .capture => e.capture

def setSide (e : AudioInfoInAdapter) (side : Side) : Direction → AudioInfoInAdapter
  | .render => { e with render := side }
  | .capture => { e with capture := side }

/-- The source counts to a thousand before it gives a busy render up. The pid is cleared before the render is destroyed. -/
def audioDestroyFormerRender (hal : HalAnswers) (renderManage : AudioInfoInAdapter) : Served AudioInfoInAdapter :=
  match renderManage.adapter, renderManage.render.object with
  | some _, some render =>
    if renderManage.render.busy && !hal.frameEnds then
      ⟨{ renderManage with render.destory := false }, AUDIO_HAL_ERR_AO_BUSY, [], true⟩
    else if hal.destroys ≠ 0 then
      ⟨{ renderManage with render.busy := false, render.destory := false, render.pid := 0 }, HDF_FAILURE, [.destroy render], true⟩
    else ⟨{ renderManage with render := .init }, HDF_SUCCESS, [.destroy render], true⟩
  | _, _ => ⟨renderManage, HDF_FAILURE, [], true⟩

/-- At its end this one sets `renderPriority`. -/
def audioDestroyFormerCapture (hal : HalAnswers) (captureManage : AudioInfoInAdapter) : Served AudioInfoInAdapter :=
  match captureManage.adapter, captureManage.capture.object with
  | some _, some capture =>
    if captureManage.capture.busy && !hal.frameEnds then
      ⟨{ captureManage with capture.destory := false }, AUDIO_HAL_ERR_AI_BUSY, [], true⟩
    else if hal.destroys ≠ 0 then
      ⟨{ captureManage with capture.busy := false, capture.destory := false, capture.pid := 0 }, HDF_FAILURE, [.destroy capture], true⟩
    else
      ⟨{ captureManage with
          capture := { Side.init with priority := captureManage.capture.priority }
          render.priority := -1 }, HDF_SUCCESS, [.destroy capture], true⟩
  | _, _ => ⟨captureManage, HDF_FAILURE, [], true⟩

def audioJudgeRenderPriority (hal : HalAnswers) (priority : Int) (e : AudioInfoInAdapter) : Served AudioInfoInAdapter :=
  if e.render.priority ≤ priority then
    let destroyed := e.audioDestroyFormerRender hal
    if destroyed.ret ≠ 0 then { destroyed with ret := HDF_FAILURE } else { destroyed with ret := HDF_SUCCESS }
  else ⟨e, AUDIO_HAL_ERR_AO_BUSY, [], true⟩

def audioJudgeCapturePriority (hal : HalAnswers) (priority : Int) (e : AudioInfoInAdapter) : Served AudioInfoInAdapter :=
  if e.capture.status = 0 then ⟨e, HDF_SUCCESS, [], true⟩
  else if e.capture.priority ≤ priority then e.audioDestroyFormerCapture hal
  else ⟨e, AUDIO_HAL_ERR_AI_BUSY, [], true⟩

/-- `AudioCreatRenderCheck` and `AudioCreatCaptureCheck`. -/
def audioCreatCheck (hal : HalAnswers) (priority : Int) (e : AudioInfoInAdapter) : Direction → Served AudioInfoInAdapter
  | .render => if e.render.status = 0 then ⟨e, HDF_SUCCESS, [], true⟩ else e.audioJudgeRenderPriority hal priority
  | .capture => e.audioJudgeCapturePriority hal priority

/-- `AudioAddRenderInfoInAdapter` and `AudioAddCaptureInfoInAdapter`. -/
def audioAddInfoInAdapter (object : HalObject) (priority : Int) (pid : UInt32) (d : Direction) (e : AudioInfoInAdapter) :
    AudioInfoInAdapter :=
  e.setSide { e.side d with status := 1, priority := priority, object := some object, pid := pid } d

/-- `AudioDestroyRenderInfoInAdapter` and `AudioDestroyCaptureInfoInAdapter`. -/
def audioDestroyInfoInAdapter (d : Direction) (e : AudioInfoInAdapter) : AudioInfoInAdapter :=
  e.setSide { e.side d with status := 0, priority := -1, object := none, pid := 0 } d

def cleared (e : AudioInfoInAdapter) : Direction → AudioInfoInAdapter
  | .render => { e with render := .init }
  | .capture => { e with capture := { Side.init with priority := e.capture.priority }, render.priority := -1 }

inductive Checked (d : Direction) (priority : Int) (hal : HalAnswers) (e : AudioInfoInAdapter) : Served AudioInfoInAdapter → Prop
  | free (empty : (e.side d).object = none) : Checked d priority hal e ⟨e, 0, [], true⟩
  | outranked {former : HalObject} {ret : Int} (found : (e.side d).object = some former) (lower : priority < (e.side d).priority)
      (refuses : ret < 0) : Checked d priority hal e ⟨e, ret, [], true⟩
  | busy {former : HalObject} {ret : Int} (found : (e.side d).object = some former) (reaches : (e.side d).priority ≤ priority)
      (waits : ¬((e.side d).busy → hal.frameEnds)) (refuses : ret < 0) :
      Checked d priority hal e ⟨e.setSide { e.side d with destory := false } d, ret, [], true⟩
  | stuck {former : HalObject} {ret : Int} (found : (e.side d).object = some former) (reaches : (e.side d).priority ≤ priority)
      (ready : (e.side d).busy → hal.frameEnds) (fails : hal.destroys ≠ 0) (refuses : ret < 0) :
      Checked d priority hal e
        ⟨e.setSide { e.side d with busy := false, destory := false, pid := 0 } d, ret, [.destroy former], true⟩
  | replaced {former : HalObject} (found : (e.side d).object = some former) (reaches : (e.side d).priority ≤ priority)
      (ready : (e.side d).busy → hal.frameEnds) (destroyed : hal.destroys = 0) :
      Checked d priority hal e ⟨e.cleared d, 0, [.destroy former], true⟩

variable {e : AudioInfoInAdapter} {d : Direction} {hal : HalAnswers}

theorem audioCreatCheck_free {priority : Int}
    (free : (e.side d).status = 0) : e.audioCreatCheck hal priority d = ⟨e, 0, [], true⟩ := by
  cases d
  · exact if_pos free
  · exact if_pos free

theorem audioCreatCheck_outranked {priority : Int} (taken : (e.side d).status ≠ 0) (lower : priority < (e.side d).priority) :
    ∃ ret < 0, e.audioCreatCheck hal priority d = ⟨e, ret, [], true⟩ := by
  cases d
  · exact ⟨AUDIO_HAL_ERR_AO_BUSY, by decide, (if_neg taken).trans (if_neg (Int.not_le.mpr lower))⟩
  · exact ⟨AUDIO_HAL_ERR_AI_BUSY, by decide, (if_neg taken).trans (if_neg (Int.not_le.mpr lower))⟩

/-- What the check does to a former object that does not outrank the new one. -/
theorem audioCreatCheck_former {priority : Int}
    {former : HalObject}
    (loaded : e.adapter ≠ none) (found : (e.side d).object = some former) (taken : (e.side d).status ≠ 0)
    (reaches : (e.side d).priority ≤ priority) :
    ∃ ret < 0, e.audioCreatCheck hal priority d =
      if (e.side d).busy && !hal.frameEnds then ⟨e.setSide { e.side d with destory := false } d, ret, [], true⟩
      else if hal.destroys ≠ 0 then
        ⟨e.setSide { e.side d with busy := false, destory := false, pid := 0 } d, HDF_FAILURE, [.destroy former], true⟩
      else ⟨e.cleared d, 0, [.destroy former], true⟩ := by
  obtain ⟨adapterName, adapter, users, render, capture⟩ := e
  obtain ⟨adapter, rfl⟩ := Option.ne_none_iff_exists'.mp loaded
  cases d with
  | render =>
    obtain ⟨status, former', object, busy, destory, pid⟩ := render
    simp only [side] at found taken reaches ⊢
    subst found
    refine ⟨HDF_FAILURE, by decide, ?_⟩
    simp only [audioCreatCheck, if_neg taken, audioJudgeRenderPriority, if_pos reaches, audioDestroyFormerRender]
    by_cases waits : (busy && !hal.frameEnds) = true
    · simp [waits, AUDIO_HAL_ERR_AO_BUSY, setSide]
    · by_cases destroyed : hal.destroys = 0
      · simp [waits, destroyed, HDF_SUCCESS, cleared]
      · simp [waits, destroyed, HDF_FAILURE, setSide]
  | capture =>
    obtain ⟨status, former', object, busy, destory, pid⟩ := capture
    simp only [side] at found taken reaches ⊢
    subst found
    exact ⟨AUDIO_HAL_ERR_AI_BUSY, by decide, (if_neg taken).trans (if_pos reaches)⟩

theorem checked {priority : Int} (loaded : e.adapter ≠ none) (matched : (e.side d).status = 0 ↔ (e.side d).object = none) :
    Checked d priority hal e (e.audioCreatCheck hal priority d) := by
  cases found : (e.side d).object with
  | none =>
    rw [audioCreatCheck_free (matched.mpr found)]
    exact .free found
  | some former =>
    have taken : (e.side d).status ≠ 0 := by simp [matched, found]
    by_cases reaches : (e.side d).priority ≤ priority
    · obtain ⟨ret, refuses, served⟩ := audioCreatCheck_former loaded found taken reaches
      rw [served]
      by_cases waits : (e.side d).busy && !hal.frameEnds
      · rw [if_pos waits]
        exact .busy found reaches (by simpa using waits) refuses
      · have ready : (e.side d).busy → hal.frameEnds := by simpa using waits
        rw [if_neg waits]
        by_cases destroyed : hal.destroys = 0
        · rw [if_neg (not_not_intro destroyed)]
          exact .replaced found reaches ready destroyed
        · rw [if_pos destroyed]
          exact .stuck found reaches ready destroyed (by decide)
    · obtain ⟨ret, refuses, served⟩ := audioCreatCheck_outranked taken (Int.not_le.mp reaches)
      rw [served]
      exact .outranked found (Int.not_le.mp reaches) refuses

/-- `HdiServiceCreatRender` and `HdiServiceCreatCapture`. -/
def hdiServiceCreat (d : Direction) (pid type : UInt32) (hal : HalAnswers) (e : AudioInfoInAdapter) :
    Served AudioInfoInAdapter :=
  if e.adapter = none then ⟨e, AUDIO_HAL_ERR_INVALID_PARAM, [], true⟩
  else
    let checked := e.audioCreatCheck hal (priorityOf type) d
    if checked.ret < 0 then checked
    else match hal.creates with
      | none => { checked with ret := AUDIO_HAL_ERR_INTERNAL }
      | some address =>
        { checked with
          state := checked.state.audioAddInfoInAdapter ⟨address, type, pid⟩ (priorityOf type) pid d
          ret := AUDIO_HAL_SUCCESS }

def withCreated (e : AudioInfoInAdapter) (d : Direction) (pid type : UInt32) (hal : HalAnswers) : AudioInfoInAdapter :=
  match hal.creates with
  | none => e
  | some address => e.audioAddInfoInAdapter ⟨address, type, pid⟩ (priorityOf type) pid d

inductive Creation (d : Direction) (pid type : UInt32) (hal : HalAnswers) (e : AudioInfoInAdapter) : Served AudioInfoInAdapter → Prop
  | unloaded (absent : e.adapter = none) : Creation d pid type hal e ⟨e, AUDIO_HAL_ERR_INVALID_PARAM, [], true⟩
  | refused {served : Served AudioInfoInAdapter} (loaded : e.adapter ≠ none) (way : Checked d (priorityOf type) hal e served)
      (refuses : served.ret < 0) : Creation d pid type hal e served
  | passed {served : Served AudioInfoInAdapter} {ret : Int} (loaded : e.adapter ≠ none) (way : Checked d (priorityOf type) hal e served)
      (passes : ¬served.ret < 0) :
      Creation d pid type hal e ⟨served.state.withCreated d pid type hal, ret, served.calls, served.returns⟩

theorem creation {pid type : UInt32} (matched : (e.side d).status = 0 ↔ (e.side d).object = none) :
    Creation d pid type hal e (e.hdiServiceCreat d pid type hal) := by
  rw [hdiServiceCreat]
  by_cases absent : e.adapter = none
  · rw [if_pos absent]
    exact .unloaded absent
  · rw [if_neg absent]
    by_cases refuses : (e.audioCreatCheck hal (priorityOf type) d).ret < 0
    · simpa only [if_pos refuses] using .refused absent (checked absent matched) refuses
    · have way (ret : Int) := @Creation.passed d pid type hal e _ ret absent (checked absent matched) refuses
      simp only [withCreated] at way
      cases made : hal.creates with
      | none => simpa only [if_neg refuses, made] using way AUDIO_HAL_ERR_INTERNAL
      | some address => simpa only [if_neg refuses, made] using way AUDIO_HAL_SUCCESS

/-- `AudioAdapterListGetRender` and `AudioAdapterListGetCapture`. -/
def audioAdapterListGet (d : Direction) (pid : UInt32) (e : AudioInfoInAdapter) : Except Int (Option HalObject) :=
  if (e.side d).pid ≠ pid then .error AUDIO_HAL_ERR_INVALID_OBJECT else .ok (e.side d).object

/-- `AudioAdapterListCheckAndGetRender` and `AudioAdapterListCheckAndGetCapture`. -/
def audioAdapterListCheckAndGet (d : Direction) (pid : UInt32) (e : AudioInfoInAdapter) : Except Int HalObject :=
  match e.audioAdapterListGet d pid with
  | .error ret => .error ret
  | .ok none => .error HDF_FAILURE
  | .ok (some object) => .ok object

/-- The commands `Start`, `Stop`, `Pause` and all others that only call the object; `ret` is what it returns. -/
def hdiServiceControl (d : Direction) (pid : UInt32) (ret : Int) (e : AudioInfoInAdapter) : Served AudioInfoInAdapter :=
  match e.audioAdapterListCheckAndGet d pid with
  | .error code => ⟨e, code, [], true⟩
  | .ok object => ⟨e, ret, [.operate object], true⟩

/-- `HdiServiceRenderRenderFrame` and `HdiServiceCaptureCaptureFrame` up to the call of the HAL, which is made without a look
    at the object. A frame that comes while the object is about to be destroyed is turned away. -/
def hdiServiceFrame (d : Direction) (pid : UInt32) (e : AudioInfoInAdapter) : Served AudioInfoInAdapter :=
  match e.audioAdapterListGet d pid with
  | .error code => ⟨e, code, [], true⟩
  | .ok found =>
    if (e.side d).destory then ⟨e.setSide { e.side d with busy := false } d, HDF_FAILURE, [], true⟩
    else match found with
      | none => ⟨e.setSide { e.side d with busy := true } d, HDF_FAILURE, [], false⟩
      | some object => ⟨e.setSide { e.side d with busy := true } d, AUDIO_HAL_SUCCESS, [.operate object], true⟩

/-- `AudioSetRenderStatus` and `AudioSetCaptureBusy` after the call of the HAL; `ret` is what it returned. -/
def hdiServiceFrameEnd (d : Direction) (ret : Int) (e : AudioInfoInAdapter) : Served AudioInfoInAdapter :=
  ⟨e.setSide { e.side d with busy := false } d, if ret < 0 then ret else AUDIO_HAL_SUCCESS, [], true⟩

def hdiServiceRenderDestory (pid : UInt32) (ret : Int) (e : AudioInfoInAdapter) : Served AudioInfoInAdapter :=
  match e.audioAdapterListGet .render pid with
  | .error code => ⟨e, code, [], true⟩
  | .ok _ =>
    match e.adapter, e.render.object with
    | some _, some render =>
      if ret < 0 then ⟨e, ret, [.destroy render], true⟩
      else ⟨e.audioDestroyInfoInAdapter .render, AUDIO_HAL_SUCCESS, [.destroy render], true⟩
    | _, _ => ⟨e, AUDIO_HAL_ERR_INVALID_PARAM, [], true⟩

/-- This one asks neither for the adapter nor for the capture. -/
def hdiServiceCaptureDestory (pid : UInt32) (ret : Int) (e : AudioInfoInAdapter) : Served AudioInfoInAdapter :=
  match e.audioAdapterListGet .capture pid with
  | .error code => ⟨e, code, [], true⟩
  | .ok found =>
    let calls := found.toList.map .destroy
    if e.adapter = none then ⟨e, HDF_FAILURE, [], false⟩
    else if ret < 0 then ⟨e, ret, calls, true⟩
    else ⟨e.audioDestroyInfoInAdapter .capture, AUDIO_HAL_SUCCESS, calls, true⟩

def hdiServiceDestory (d : Direction) (pid : UInt32) (ret : Int) (e : AudioInfoInAdapter) : Served AudioInfoInAdapter :=
  match d with
  | .render => e.hdiServiceRenderDestory pid ret
  | .capture => e.hdiServiceCaptureDestory pid ret

theorem hdiServiceControl_state {pid : UInt32} {ret : Int} : (e.hdiServiceControl d pid ret).state = e := by
  rw [hdiServiceControl]
  split <;> rfl

theorem hdiServiceFrame_state {pid : UInt32} :
    ∃ busy, (e.hdiServiceFrame d pid).state = e.setSide { e.side d with busy := busy } d := by
  rw [hdiServiceFrame]
  split
  · exact ⟨(e.side d).busy, by cases d <;> rfl⟩
  · split
    · exact ⟨false, rfl⟩
    · split <;> exact ⟨true, rfl⟩

theorem hdiServiceDestory_state {pid : UInt32} {ret : Int} :
    (e.hdiServiceDestory d pid ret).state = e ∨ (e.hdiServiceDestory d pid ret).state = e.audioDestroyInfoInAdapter d := by
  cases d with
  | render =>
    rw [hdiServiceDestory, hdiServiceRenderDestory]
    split
    · exact .inl rfl
    · split
      · split
        · exact .inl rfl
        · exact .inr rfl
      · exact .inl rfl
  | capture =>
    rw [hdiServiceDestory, hdiServiceCaptureDestory]
    split
    · exact .inl rfl
    · split
      · exact .inl rfl
      · split
        · exact .inl rfl
        · exact .inr rfl

end AudioInfoInAdapter

def updateFirst {α : Type} (stop : α → Bool) (change : α → α) (table : List α) : List α :=
  table.replaceF fun e => if stop e then some (change e) else none

section

variable {α β : Type} {stop : α → Bool} {change : α → α} {table : List α}

theorem updateFirst_cons (e : α) : updateFirst stop change (e :: table) =
    if stop e then change e :: table else e :: updateFirst stop change table := by
  by_cases stops : stop e <;> simp [updateFirst, stops]

theorem forall_updateFirst {holds : α → Prop} (all : ∀ e ∈ table, holds e) :
    (∀ e ∈ updateFirst stop change table, holds e) ↔ ∀ e ∈ table.find? stop, holds (change e) := by
  induction table with
  | nil => simp [updateFirst]
  | cons e rest later =>
    rw [List.forall_mem_cons] at all
    rw [updateFirst_cons]
    by_cases stops : stop e
    · simpa [stops] using fun _ => all.2
    · simp [stops, all.1, later all.2]

theorem map_updateFirst_eq_iff {f : α → β} :
    (updateFirst stop change table).map f = table.map f ↔ ∀ e ∈ table.find? stop, f (change e) = f e := by
  induction table with
  | nil => simp [updateFirst]
  | cons e rest later =>
    rw [updateFirst_cons]
    by_cases stops : stop e
    · simp [stops]
    · simp [stops, later]

theorem find?_updateFirst (stays : ∀ e ∈ table.find? stop, stop (change e)) :
    (updateFirst stop change table).find? stop = (table.find? stop).map change := by
  induction table with
  | nil => rfl
  | cons e rest later =>
    rw [updateFirst_cons]
    by_cases stops : stop e
    · have changed : stop (change e) := stays e (by simp [stops])
      simp [stops, changed]
    · rw [List.find?_cons_of_neg stops] at stays ⊢
      simp [stops, later stays]

end

/-- `adapters` is `g_renderAndCaptureManage`. -/
structure AudioServer where
  adapters : List AudioInfoInAdapter
  running : Bool
  deriving DecidableEq

/-- `loaded` is what comes of the port, the kind of the card, the state of the plug and `LoadAdapter`: an error to return, or the
    adapter. -/
inductive Command
  | loadAdapter (adapterName : String) (loaded : Except Int Nat)
  | unloadAdapter (adapterName : String)
  | creat (d : Direction) (adapterName : String) (pid type : UInt32) (hal : HalAnswers)
  | destory (d : Direction) (adapterName : String) (pid : UInt32) (ret : Int)
  | control (d : Direction) (adapterName : String) (pid : UInt32) (ret : Int)
  | frame (d : Direction) (adapterName : String) (pid : UInt32)
  | frameEnd (d : Direction) (adapterName : String) (ret : Int)
  deriving DecidableEq

def named (adapterName : String) (e : AudioInfoInAdapter) : Bool := e.adapterName = adapterName

/-- Where `AudioAdapterCheckListExist` stops. -/
def counted (adapterName : String) (e : AudioInfoInAdapter) : Bool := named adapterName e && 0 ≤ e.adapterUserNum

def used (adapterName : String) (e : AudioInfoInAdapter) : Bool := named adapterName e && 0 < e.adapterUserNum

namespace AudioServer

def new (names : List String) : AudioServer := ⟨(names.take MAX_AUDIO_ADAPTER_NUM_SERVER).map .init, true⟩

def entry (s : AudioServer) (adapterName : String) : Option AudioInfoInAdapter := s.adapters.find? (named adapterName)

def update (s : AudioServer) (stop : AudioInfoInAdapter → Bool) (change : AudioInfoInAdapter → AudioInfoInAdapter) :
    AudioServer :=
  { s with adapters := updateFirst stop change s.adapters }

/-- A command at the entry that its name leads to; `missing` is returned where there is none. -/
def serveAt (s : AudioServer) (adapterName : String) (missing : Int)
    (serve : AudioInfoInAdapter → Served AudioInfoInAdapter) :
    Served AudioServer :=
  match s.entry adapterName with
  | none => ⟨s, missing, [], true⟩
  | some e =>
    let served := serve e
    ⟨{ s.update (named adapterName) (fun e => (serve e).state) with running := served.returns }, served.ret, served.calls, served.returns⟩

/-- An adapter that is in use is counted once more, one that is not is loaded and added. -/
def hdiServiceLoadAdapter (s : AudioServer) (adapterName : String) (loaded : Except Int Nat) : Served AudioServer :=
  match s.adapters.find? (counted adapterName) with
  | none => ⟨s, AUDIO_HAL_ERR_INTERNAL, [], true⟩
  | some e =>
    if 0 < e.adapterUserNum then
      ⟨s.update (counted adapterName) (fun e => { e with adapterUserNum := e.adapterUserNum + 1 }), AUDIO_HAL_SUCCESS, [], true⟩
    else match loaded with
      | .error ret => ⟨s, ret, [], true⟩
      | .ok adapter =>
        ⟨s.update (named adapterName) (fun e => { e with adapter := some adapter, adapterUserNum := 1 }), AUDIO_HAL_SUCCESS, [], true⟩

/-- `AudioAdapterListDestory`: the last user takes the adapter with it. -/
def hdiServiceUnloadAdapter (s : AudioServer) (adapterName : String) : Served AudioServer :=
  match s.adapters.find? (used adapterName) with
  | none => ⟨s, AUDIO_HAL_ERR_INTERNAL, [], true⟩
  | some e =>
    if e.adapterUserNum = 1 then
      ⟨s.update (used adapterName) (fun e => { e with adapterUserNum := e.adapterUserNum - 1, adapter := none }),
        if e.adapter = none then AUDIO_HAL_ERR_INVALID_PARAM else AUDIO_HAL_SUCCESS, [], true⟩
    else ⟨s.update (used adapterName) (fun e => { e with adapterUserNum := e.adapterUserNum - 1 }), AUDIO_HAL_SUCCESS, [], true⟩

variable {s : AudioServer}

theorem serveAt_calls {adapterName : String} {missing : Int} {serve : AudioInfoInAdapter → Served AudioInfoInAdapter}
    {call : HalCall} (made : call ∈ (s.serveAt adapterName missing serve).calls) :
    ∃ e ∈ s.entry adapterName, call ∈ (serve e).calls := by
  rw [serveAt] at made
  cases found : s.entry adapterName with
  | none => simp [found] at made
  | some e => exact ⟨e, rfl, by simpa [found] using made⟩

theorem serveAt_forall {adapterName : String} {missing : Int} {serve : AudioInfoInAdapter → Served AudioInfoInAdapter}
    {holds : AudioInfoInAdapter → Prop} (all : ∀ e ∈ s.adapters, holds e)
    (kept : ∀ e ∈ s.entry adapterName, holds (serve e).state) :
    ∀ e ∈ (s.serveAt adapterName missing serve).state.adapters, holds e := by
  rw [serveAt]
  cases found : s.entry adapterName with
  | none => exact all
  | some e => exact (forall_updateFirst all).mpr kept

theorem serveAt_entry {adapterName : String} {missing : Int} {serve : AudioInfoInAdapter → Served AudioInfoInAdapter}
    {e : AudioInfoInAdapter} (found : s.entry adapterName = some e) (stays : (serve e).state.adapterName = e.adapterName) :
    (s.serveAt adapterName missing serve).state.entry adapterName = some (serve e).state := by
  have name : e.adapterName = adapterName := by simpa [named] using List.find?_some found
  rw [serveAt, found]
  rw [entry] at found
  have after :=
    @find?_updateFirst _ (named adapterName) (fun e => (serve e).state) s.adapters (by simp [found, named, stays, name])
  rw [found] at after
  exact after

def serve (s : AudioServer) : Command → Served AudioServer
  | .loadAdapter adapterName loaded => s.hdiServiceLoadAdapter adapterName loaded
  | .unloadAdapter adapterName => s.hdiServiceUnloadAdapter adapterName
  | .creat d adapterName pid type hal => s.serveAt adapterName AUDIO_HAL_ERR_INTERNAL (·.hdiServiceCreat d pid type hal)
  | .destory d adapterName pid ret => s.serveAt adapterName HDF_ERR_INVALID_PARAM (·.hdiServiceDestory d pid ret)
  | .control d adapterName pid ret => s.serveAt adapterName HDF_ERR_INVALID_PARAM (·.hdiServiceControl d pid ret)
  | .frame d adapterName pid => s.serveAt adapterName HDF_ERR_INVALID_PARAM (·.hdiServiceFrame d pid)
  | .frameEnd d adapterName ret => s.serveAt adapterName HDF_ERR_INVALID_PARAM (·.hdiServiceFrameEnd d ret)

/-- `HdiServiceDispatch`, as long as the server is there. -/
def dispatch (s : AudioServer) (c : Command) : Served AudioServer :=
  if s.running then s.serve c else ⟨s, HDF_FAILURE, [], false⟩

def step (s : AudioServer) (c : Command) : AudioServer := (s.dispatch c).state

theorem step_of_running (running : s.running) (c : Command) : s.step c = (s.serve c).state := by
  rw [step, dispatch, if_pos running]

theorem step_of_not_running (gone : ¬s.running) (c : Command) : s.step c = s := by
  rw [step, dispatch, if_neg gone]

end AudioServer

end Peripheral.Audio
