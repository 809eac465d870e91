import Peripheral.AudioTable

/-!
Who may take a render or a capture from whom, and who may use one. The server goes by
the priority and the pid in its table; both are right as long as no capture is replaced
on a card that plays, which resets the priority of the render, and no former object
withstands its destruction, which clears the pid first.
-/
namespace Peripheral.Audio
open Peripheral.Transitions AudioInfoInAdapter

/-- What the table has to say of an object, for its priority and its client to be kept. -/
structure Side.Owned (side : Side) : Prop where
  matched : side.status = 0 ↔ side.object = none
  ranked : ∀ o ∈ side.object, priorityOf o.type ≤ side.priority
  owner : ∀ o ∈ side.object, side.pid = o.creator

def AudioInfoInAdapter.Owned (e : AudioInfoInAdapter) : Prop := ∀ d, (e.side d).Owned

/-- The driver destroys what is handed to it, and no capture is replaced where something plays. Objects that were created with
    the pid `0` or a negative priority do not suffer. -/
def CreatSpares (d : Direction) (type : UInt32) (hal : HalAnswers) (e : AudioInfoInAdapter) : Prop :=
  Replaces d type hal e →
    (hal.destroys ≠ 0 → ∀ o ∈ (e.side d).object, o.creator = 0) ∧
      (d = .capture → hal.destroys = 0 → ∀ o ∈ e.render.object, priorityOf o.type < 0)

namespace AudioServer

def Owned (s : AudioServer) : Prop := ∀ e ∈ s.adapters, e.Owned

def Operable (s : AudioServer) (d : Direction) (adapterName : String) (o : HalObject) : Prop :=
  ∀ ret, (s.dispatch (.control d adapterName o.creator ret)).calls = [.operate o]

/-- A creation destroys the object of another client only if its own priority is not lower, and where it is refused for the
    object that is there, that one stays and its client can use it. All other commands reach the objects of their own client only. -/
def Lawful (s : AudioServer) (c : Command) : Prop :=
  match c with
  | .creat d adapterName pid type hal =>
    (∀ o, .destroy o ∈ (s.dispatch c).calls → o.creator ≠ pid → priorityOf o.type ≤ priorityOf type) ∧
      ∀ e ∈ s.entry adapterName, ∀ o ∈ (e.side d).object,
        s.running → e.adapter ≠ none → (e.audioCreatCheck hal (priorityOf type) d).ret < 0 → (s.step c).Operable d adapterName o
  | .destory _ _ pid _ | .control _ _ pid _ | .frame _ _ pid => ∀ call ∈ (s.dispatch c).calls, call.object.creator = pid
  | .loadAdapter .. | .unloadAdapter .. | .frameEnd .. => (s.dispatch c).calls = []

def Spares (s : AudioServer) (c : Command) : Prop :=
  s.running → match c with
    | .creat d adapterName _ type hal => ∀ e ∈ s.entry adapterName, CreatSpares d type hal e
    | _ => True

end AudioServer

namespace AudioInfoInAdapter

variable {e : AudioInfoInAdapter}

variable {side : Side}

theorem Owned.setSide (owned : e.Owned) (written : side.Owned) (d : Direction) : (e.setSide side d).Owned := by
  intro other
  cases d <;> cases other
  · exact written
  · exact owned .capture
  · exact owned .render
  · exact written

theorem Owned.emptied (matched : side.status = 0) (empty : side.object = none) : side.Owned := by
  refine ⟨iff_of_true matched empty, ?_, ?_⟩
  · simp [empty]
  · simp [empty]

variable {d : Direction} {pid type : UInt32} {hal : HalAnswers}

section
variable (owned : e.Owned)
include owned

theorem Owned.withCreated : (e.withCreated d pid type hal).Owned := by
  rw [AudioInfoInAdapter.withCreated]
  cases hal.creates with
  | none => exact owned
  | some address => exact owned.setSide ⟨by simp, by simp, by simp⟩ d

theorem Owned.setFlags {busy destory : Bool} :
    (e.setSide { e.side d with busy := busy, destory := destory } d).Owned := by
  have written : Side.Owned { e.side d with busy := busy, destory := destory } :=
    ⟨(owned d).matched, (owned d).ranked, (owned d).owner⟩
  exact owned.setSide written d

theorem Owned.cleared (silent : d = .capture → ∀ o ∈ e.render.object, priorityOf o.type < 0) : (e.cleared d).Owned := by
  cases d with
  | render => exact owned.setSide (Owned.emptied rfl rfl) .render
  | capture =>
    have render : Side.Owned { e.render with priority := -1 } :=
      ⟨(owned .render).matched, fun o there => Int.le_sub_one_of_lt (silent rfl o there), (owned .render).owner⟩
    exact (owned.setSide render .render).setSide (Owned.emptied rfl rfl) .capture

theorem Owned.creat (spares : CreatSpares d type hal e) : (e.hdiServiceCreat d pid type hal).state.Owned := by
  have matched := (owned d).matched
  have way := @creation e d hal pid type matched
  generalize e.hdiServiceCreat d pid type hal = served at way
  cases way with
  | unloaded => exact owned
  | refused loaded way refuses =>
    cases way with
    | free => exact owned
    | outranked => exact owned
    | busy => exact owned.setFlags
    | stuck found reaches ready fails =>
      have replaces : Replaces d type hal e := ⟨loaded, by simp [matched, found], reaches, ready⟩
      have written : Side.Owned { e.side d with busy := false, destory := false, pid := 0 } :=
        ⟨matched, (owned d).ranked, fun o there => ((spares replaces).1 fails o there).symm⟩
      exact owned.setSide written d
    | replaced => simp at refuses
  | passed loaded way passes =>
    cases way with
    | free => exact owned.withCreated
    | outranked found lower refuses => exact absurd refuses passes
    | busy found reaches waits refuses => exact absurd refuses passes
    | stuck found reaches ready fails refuses => exact absurd refuses passes
    | replaced found reaches ready destroyed =>
      have replaces : Replaces d type hal e := ⟨loaded, by simp [matched, found], reaches, ready⟩
      exact (owned.cleared fun capture => (spares replaces).2 capture destroyed).withCreated

variable {o : HalObject}

theorem creat_outranks (destroys : .destroy o ∈ (e.hdiServiceCreat d pid type hal).calls) :
    priorityOf o.type ≤ priorityOf type := by
  have ranked := (owned d).ranked
  have way := @creation e d hal pid type (owned d).matched
  generalize e.hdiServiceCreat d pid type hal = served at way destroys
  have outranks {checked : Served AudioInfoInAdapter} (way : Checked d (priorityOf type) hal e checked)
      (destroys : .destroy o ∈ checked.calls) : priorityOf o.type ≤ priorityOf type := by
    cases way with
    | free => simp at destroys
    | outranked => simp at destroys
    | busy => simp at destroys
    | stuck found reaches =>
      cases List.mem_singleton.mp destroys
      exact Int.le_trans (ranked _ found) reaches
    | replaced found reaches =>
      cases List.mem_singleton.mp destroys
      exact Int.le_trans (ranked _ found) reaches
  cases way with
  | unloaded => simp at destroys
  | refused loaded way => exact outranks way destroys
  | passed loaded way => exact outranks way destroys

theorem creat_refused (spares : CreatSpares d type hal e) (there : (e.side d).object = some o) (loaded : e.adapter ≠ none)
    (refuses : (e.audioCreatCheck hal (priorityOf type) d).ret < 0) :
    ((e.hdiServiceCreat d pid type hal).state.side d).object = some o := by
  have result : e.hdiServiceCreat d pid type hal = e.audioCreatCheck hal (priorityOf type) d := by
    rw [hdiServiceCreat, if_neg loaded]
    exact if_pos refuses
  have way := @checked e d hal (priorityOf type) loaded (owned d).matched
  rw [result]
  generalize e.audioCreatCheck hal (priorityOf type) d = served at way refuses
  cases way with
  | free empty => exact absurd (empty.symm.trans there) (by simp)
  | outranked => exact there
  | busy => cases d <;> exact there
  | stuck => cases d <;> exact there
  | replaced => simp at refuses

theorem Owned.destory {pid : UInt32} {ret : Int} : (e.hdiServiceDestory d pid ret).state.Owned := by
  rcases @hdiServiceDestory_state e d pid ret with same | gone
  · rw [same]
    exact owned
  · rw [gone]
    exact owned.setSide (Owned.emptied rfl rfl) d

theorem audioAdapterListGet_owner {pid : UInt32} (found : e.audioAdapterListGet d pid = .ok (some o)) : o.creator = pid := by
  rw [audioAdapterListGet] at found
  by_cases differs : (e.side d).pid ≠ pid
  · simp [differs] at found
  · rw [if_neg differs] at found
    have there : (e.side d).object = some o := Except.ok.inj found
    exact ((owned d).owner o there).symm.trans (not_not.mp differs)

variable {call : HalCall}

theorem control_owner {pid : UInt32} {ret : Int}
    (made : call ∈ (e.hdiServiceControl d pid ret).calls) : call.object.creator = pid := by
  rw [hdiServiceControl, audioAdapterListCheckAndGet] at made
  cases found : e.audioAdapterListGet d pid with
  | error => simp [found] at made
  | ok object =>
    cases object with
    | none => simp [found] at made
    | some o =>
      simp [found] at made
      rw [made]
      exact audioAdapterListGet_owner owned found

theorem frame_owner {pid : UInt32} (made : call ∈ (e.hdiServiceFrame d pid).calls) : call.object.creator = pid := by
  rw [hdiServiceFrame] at made
  cases found : e.audioAdapterListGet d pid with
  | error => simp [found] at made
  | ok object =>
    by_cases ends : (e.side d).destory
    · simp [found, ends] at made
    · cases object with
      | none => simp [found, ends] at made
      | some o =>
        simp [found, ends] at made
        rw [made]
        exact audioAdapterListGet_owner owned found

theorem destory_owner {pid : UInt32} {ret : Int}
    (made : call ∈ (e.hdiServiceDestory d pid ret).calls) : call.object.creator = pid := by
  cases found : e.audioAdapterListGet d pid with
  | error => cases d <;> simp [hdiServiceDestory, hdiServiceRenderDestory, hdiServiceCaptureDestory, found] at made
  | ok object =>
    have there : object = (e.side d).object := by
      rw [audioAdapterListGet] at found
      split at found
      · simp at found
      · exact (Except.ok.inj found).symm
    have destroys : ∃ o, call = .destroy o ∧ object = some o := by
      cases d with
      | render =>
        simp only [hdiServiceDestory, hdiServiceRenderDestory, found] at made
        split at made
        · rename_i o _ is
          refine ⟨o, ?_, there.trans is⟩
          split at made <;> exact List.mem_singleton.mp made
        · simp at made
      | capture =>
        simp only [hdiServiceDestory, hdiServiceCaptureDestory, found] at made
        split at made
        · simp at made
        · split at made <;> simpa [eq_comm, and_comm] using made
    obtain ⟨o, rfl, rfl⟩ := destroys
    exact audioAdapterListGet_owner owned found

end

theorem adapterName_setSide : (e.setSide side d).adapterName = e.adapterName := by
  cases d <;> rfl

theorem creat_adapterName (owned : e.Owned) : (e.hdiServiceCreat d pid type hal).state.adapterName = e.adapterName := by
  have way := @creation e d hal pid type (owned d).matched
  generalize e.hdiServiceCreat d pid type hal = served at way
  have stays {checked : Served AudioInfoInAdapter} (way : Checked d (priorityOf type) hal e checked) :
      checked.state.adapterName = e.adapterName := by
    cases way with
    | free => rfl
    | outranked => rfl
    | busy => exact adapterName_setSide
    | stuck => exact adapterName_setSide
    | replaced => cases d <;> rfl
  cases way with
  | unloaded => rfl
  | refused loaded way => exact stays way
  | passed loaded way =>
    refine Eq.trans ?_ (stays way)
    rw [withCreated]
    cases hal.creates with
    | none => rfl
    | some address => exact adapterName_setSide

end AudioInfoInAdapter

namespace AudioServer

variable {s : AudioServer} {adapterName : String}

theorem Owned.entry (owned : s.Owned) {e : AudioInfoInAdapter} (found : e ∈ s.entry adapterName) : e.Owned :=
  owned e (List.mem_of_find?_eq_some found)

theorem Owned.update (owned : s.Owned) {stop : AudioInfoInAdapter → Bool}
    {adapter : AudioInfoInAdapter → Option Nat} {users : AudioInfoInAdapter → Int32} :
    (s.update stop fun e => { e with adapter := adapter e, adapterUserNum := users e }).Owned := by
  refine (forall_updateFirst owned).mpr fun e found d => ?_
  have kept := owned e (List.mem_of_find?_eq_some found) d
  cases d <;> exact kept

theorem Owned.step (owned : s.Owned) {c : Command} (spares : s.Spares c) : (s.step c).Owned := by
  by_cases running : s.running
  · have spares := spares running
    rw [step_of_running running]
    cases c with
    | loadAdapter adapterName loaded =>
      simp only [serve, hdiServiceLoadAdapter]
      split
      · exact owned
      · split
        · exact owned.update
        · cases loaded with
          | error => exact owned
          | ok adapter => exact owned.update
    | unloadAdapter adapterName =>
      simp only [serve, hdiServiceUnloadAdapter]
      split
      · exact owned
      · split <;> exact owned.update
    | creat d adapterName pid type hal => exact serveAt_forall owned fun e found => (owned.entry found).creat (spares e found)
    | destory d adapterName pid ret => exact serveAt_forall owned fun e found => (owned.entry found).destory
    | control d adapterName pid ret =>
      exact serveAt_forall owned fun e found => hdiServiceControl_state ▸ owned.entry found
    | frame d adapterName pid =>
      refine serveAt_forall owned fun e found => ?_
      obtain ⟨busy, changed⟩ := @hdiServiceFrame_state e d pid
      rw [changed]
      exact (owned.entry found).setFlags
    | frameEnd d adapterName ret => exact serveAt_forall owned fun e found => (owned.entry found).setFlags
  · rw [step_of_not_running running]
    exact owned

theorem operable_of_entry (running : s.running) (owned : s.Owned) {d : Direction}
    {e : AudioInfoInAdapter} {o : HalObject} (found : s.entry adapterName = some e) (there : (e.side d).object = some o) :
    s.Operable d adapterName o := by
  intro ret
  have owner := (owned.entry found d).owner o there
  rw [dispatch, if_pos running, serve, serveAt, found]
  simp [hdiServiceControl, audioAdapterListCheckAndGet, audioAdapterListGet, owner, there]

theorem creat_running {d : Direction} {pid type : UInt32} {hal : HalAnswers}
    (running : s.running) (owned : s.Owned) : (s.step (.creat d adapterName pid type hal)).running := by
  rw [step_of_running running, serve, serveAt]
  cases found : s.entry adapterName with
  | none => exact running
  | some e =>
    have way := @creation e d hal pid type (owned.entry found d).matched
    change (e.hdiServiceCreat d pid type hal).returns = true
    generalize e.hdiServiceCreat d pid type hal = served at way
    cases way with
    | unloaded => rfl
    | refused loaded way => cases way <;> rfl
    | passed loaded way => cases way <;> rfl

theorem load_calls {loaded : Except Int Nat} : (s.hdiServiceLoadAdapter adapterName loaded).calls = [] := by
  simp only [hdiServiceLoadAdapter]
  split
  · rfl
  · split
    · rfl
    · cases loaded <;> rfl

theorem unload_calls : (s.hdiServiceUnloadAdapter adapterName).calls = [] := by
  simp only [hdiServiceUnloadAdapter]
  split
  · rfl
  · split <;> rfl

theorem frameEnd_calls {d : Direction} {ret missing : Int} :
    (s.serveAt adapterName missing (·.hdiServiceFrameEnd d ret)).calls = [] := by
  refine List.eq_nil_iff_forall_not_mem.mpr fun call made => ?_
  obtain ⟨e, -, made⟩ := serveAt_calls made
  exact absurd made List.not_mem_nil

theorem Owned.lawful (owned : s.Owned) {c : Command} (spares : s.Spares c) : s.Lawful c := by
  by_cases running : s.running
  · have served : s.dispatch c = s.serve c := if_pos running
    cases c with
    | loadAdapter => exact (congrArg Served.calls served).trans load_calls
    | unloadAdapter => exact (congrArg Served.calls served).trans unload_calls
    | creat d adapterName pid type hal =>
      have after := owned.step spares
      constructor
      · intro o destroys _
        rw [served] at destroys
        obtain ⟨e, found, destroys⟩ := serveAt_calls destroys
        exact creat_outranks (owned.entry found) destroys
      · intro e found o there _ loaded refuses
        have stays : ((e.hdiServiceCreat d pid type hal).state.side d).object = some o :=
          creat_refused (owned.entry found) (spares running e found) there loaded refuses
        refine operable_of_entry (creat_running running owned) after ?_ stays
        rw [step_of_running running]
        exact serveAt_entry found (creat_adapterName (owned.entry found))
    | destory d adapterName pid ret =>
      intro call made
      rw [served] at made
      obtain ⟨e, found, made⟩ := serveAt_calls made
      exact destory_owner (owned.entry found) made
    | control d adapterName pid ret =>
      intro call made
      rw [served] at made
      obtain ⟨e, found, made⟩ := serveAt_calls made
      exact control_owner (owned.entry found) made
    | frame d adapterName pid =>
      intro call made
      rw [served] at made
      obtain ⟨e, found, made⟩ := serveAt_calls made
      exact frame_owner (owned.entry found) made
    | frameEnd => exact (congrArg Served.calls served).trans frameEnd_calls
  · have silent : (s.dispatch c).calls = [] := congrArg Served.calls (if_neg running)
    cases c with
    | loadAdapter | unloadAdapter | frameEnd => exact silent
    | creat => exact ⟨fun o destroys => absurd (silent ▸ destroys) List.not_mem_nil, fun e _ o _ runs => absurd runs running⟩
    | destory | control | frame => exact fun call made => absurd (silent ▸ made) List.not_mem_nil

theorem run_lawful (owned : s.Owned) {run : List Command} (spared : Takes step Spares s run) : Takes step Lawful s run := by
  induction run generalizing s with
  | nil => trivial
  | cons c rest later => exact ⟨owned.lawful spared.1, later (owned.step spared.1) spared.2⟩

theorem new_owned (names : List String) : (new names).Owned := by
  intro e isThere d
  obtain ⟨name, -, rfl⟩ := List.mem_map.mp isThere
  cases d <;> exact AudioInfoInAdapter.Owned.emptied rfl rfl

end AudioServer

/-- In every run of commands, of whatever clients and with whatever the HAL returns, in which no former object of a client
    withstands its destruction and no capture is replaced on a card that plays, objects are taken from a client only by
    priority, a refused creation leaves them to it, and nobody else reaches them. -/
theorem objects_kept_by_priority_and_pid (names : List String) (run : List Command)
    (spared : Takes AudioServer.step AudioServer.Spares (.new names) run) :
    Takes AudioServer.step AudioServer.Lawful (.new names) run :=
  AudioServer.run_lawful (AudioServer.new_owned names) spared

instance {d : Direction} {type : UInt32} {hal : HalAnswers} {e : AudioInfoInAdapter} : Decidable (Replaces d type hal e) :=
  inferInstanceAs (Decidable (_ ∧ _ ∧ _ ∧ _))

instance {d : Direction} {type : UInt32} {hal : HalAnswers} {e : AudioInfoInAdapter} :
    Decidable (CreatSpares d type hal e) :=
  inferInstanceAs (Decidable (_ → _ ∧ _))

instance AudioServer.decideSpares (s : AudioServer) : (c : Command) → Decidable (s.Spares c)
  | .creat _ adapterName _ type hal => inferInstanceAs (Decidable (s.running → ∀ e ∈ s.entry adapterName,
    CreatSpares _ type hal e))
  | .loadAdapter .. | .unloadAdapter .. | .destory .. | .control .. | .frame .. | .frameEnd .. =>
    inferInstanceAs (Decidable (s.running → True))

/-- A client plays a call, another one cannot take it over for music, but can for a more urgent one. -/
def renderTakenOver : List Command :=
  [.loadAdapter "primary" (.ok 64), .creat .render "primary" 10 1 ⟨true, 0, some 100⟩, .control .render "primary" 10 0,
    .creat .render "primary" 20 0 ⟨true, 0, some 200⟩, .frame .render "primary" 10, .creat .render "primary" 20 2 ⟨false, 0, some 200⟩,
    .frameEnd .render "primary" 0, .creat .render "primary" 20 2 ⟨true, 0, some 200⟩, .destory .render "primary" 20 0]

theorem renderTakenOver_lawful : Takes AudioServer.step AudioServer.Spares (.new ["primary"]) renderTakenOver ∧
    Takes AudioServer.step AudioServer.Lawful (.new ["primary"]) renderTakenOver := by
  have spared : Takes AudioServer.step AudioServer.Spares (.new ["primary"]) renderTakenOver := by decide
  exact ⟨spared, objects_kept_by_priority_and_pid _ _ spared⟩

/-- With its priority gone, a call gives way to music. -/
def callGivesWay : List Command := recordingTakenOver ++ [.creat .render "primary" 40 0 ⟨true, 0, some 400⟩]

/-- A creation that fails because the driver does not let go of the former object. -/
def creationFails : List Command :=
  [.loadAdapter "primary" (.ok 64), .creat .render "primary" 10 1 ⟨true, 0, some 100⟩, .creat .render "primary" 20 2 ⟨true, -1, none⟩]

/-- The call is taken from its client by a lower priority, and the client whose render stays cannot use it any more. -/
theorem objects_lost : ¬Takes AudioServer.step AudioServer.Lawful (.new ["primary"]) callGivesWay ∧
    ¬Takes AudioServer.step AudioServer.Lawful (.new ["primary"]) creationFails := by
  constructor
  · rintro ⟨-, -, -, -, ⟨outranks, -⟩, -⟩
    exact absurd (outranks ⟨100, 1, 10⟩ (by decide) (by decide)) (by decide)
  · rintro ⟨-, -, ⟨-, stays⟩, -⟩
    exact absurd (stays _ rfl ⟨100, 1, 10⟩ rfl rfl (by decide) (by decide) 0) (by decide)

end Peripheral.Audio
