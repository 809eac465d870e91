import Peripheral.AudioServer

/-!
What every entry of the adapter table should keep. The two sides of an entry are written
by functions of the same shape, but for the one that destroys a former capture: it
resets the priority of the render and leaves that of the capture. The steps for which
the entries stay as they should be are told apart exactly.
-/
namespace Peripheral.Audio
open Peripheral.Transitions AudioInfoInAdapter

def Direction.other : Direction → Direction
  | .render => .capture
  | .capture => .render

structure Side.Sound (side : Side) : Prop where
  status : side.status = if side.object = none then 0 else 1
  priority : side.priority = side.object.elim (-1) fun object => priorityOf object.type

def AudioInfoInAdapter.Live (e : AudioInfoInAdapter) : Prop := e.render.object ≠ none ∨ e.capture.object ≠ none

structure AudioInfoInAdapter.Sound (e : AudioInfoInAdapter) : Prop where
  render : e.render.Sound
  capture : e.capture.Sound
  loaded : e.Live → e.adapter ≠ none ∧ 0 < e.adapterUserNum

namespace AudioInfoInAdapter

variable {e : AudioInfoInAdapter}

theorem Sound.side (sound : e.Sound) (d : Direction) : (e.side d).Sound := by
  cases d with
  | render => exact sound.render
  | capture => exact sound.capture

theorem Sound.matched (sound : e.Sound) (d : Direction) : (e.side d).status = 0 ↔ (e.side d).object = none := by
  rw [(sound.side d).status]
  by_cases empty : (e.side d).object = none <;> simp [empty]

theorem live_iff : e.Live ↔ ∃ d, (e.side d).object ≠ none := by
  constructor
  · rintro (live | live)
    · exact ⟨.render, live⟩
    · exact ⟨.capture, live⟩
  · rintro ⟨_ | _, live⟩
    · exact .inl live
    · exact .inr live

variable {d : Direction}

theorem Sound.setSide_iff (sound : e.Sound) {side : Side} :
    (e.setSide side d).Sound ↔ side.Sound ∧ (side.object ≠ none → e.adapter ≠ none ∧ 0 < e.adapterUserNum) := by
  obtain ⟨render, capture, loaded⟩ := sound
  cases d with
  | render =>
    constructor
    · rintro ⟨written, -, kept⟩
      exact ⟨written, fun live => kept (.inl live)⟩
    · rintro ⟨written, kept⟩
      refine ⟨written, capture, ?_⟩
      rintro (live | live)
      · exact kept live
      · exact loaded (.inr live)
  | capture =>
    constructor
    · rintro ⟨-, written, kept⟩
      exact ⟨written, fun live => kept (.inr live)⟩
    · rintro ⟨written, kept⟩
      refine ⟨render, written, ?_⟩
      rintro (live | live)
      · exact loaded (.inl live)
      · exact kept live

theorem Sound.setFlags (sound : e.Sound) {busy destory : Bool} {pid : UInt32} :
    (e.setSide { e.side d with busy := busy, destory := destory, pid := pid } d).Sound :=
  sound.setSide_iff.mpr ⟨⟨(sound.side d).status, (sound.side d).priority⟩, fun live => sound.loaded (live_iff.mpr ⟨d, live⟩)⟩

@[simp] theorem side_setSide_other {side : Side} : (e.setSide side d).side d.other = e.side d.other := by
  cases d <;> rfl

end AudioInfoInAdapter

/-- The former object is handed to the driver, to be destroyed. -/
def Replaces (d : Direction) (type : UInt32) (hal : HalAnswers) (e : AudioInfoInAdapter) : Prop :=
  e.adapter ≠ none ∧ (e.side d).status ≠ 0 ∧ (e.side d).priority ≤ priorityOf type ∧ ((e.side d).busy → hal.frameEnds)

/-- The command comes to the end and puts a new object into the entry. -/
def Creates (d : Direction) (type : UInt32) (hal : HalAnswers) (e : AudioInfoInAdapter) : Prop :=
  e.adapter ≠ none ∧ hal.creates ≠ none ∧ ((e.side d).status = 0 ∨ Replaces d type hal e ∧ hal.destroys = 0)

def CreatKept (d : Direction) (type : UInt32) (hal : HalAnswers) (e : AudioInfoInAdapter) : Prop :=
  (Creates d type hal e → 0 < e.adapterUserNum) ∧
    (d = .capture → Replaces d type hal e → hal.destroys = 0 →
      e.render.priority = -1 ∧ (hal.creates ≠ none ∨ e.capture.priority = -1))

theorem AudioInfoInAdapter.Sound.created_iff {e : AudioInfoInAdapter} (sound : e.Sound) (d : Direction) (object : HalObject)
    {busy destory : Bool} (pid : UInt32) :
    (e.setSide ⟨1, priorityOf object.type, some object, busy, destory, pid⟩ d).Sound ↔ e.adapter ≠ none ∧
      0 < e.adapterUserNum := by
  rw [sound.setSide_iff]
  constructor
  · rintro ⟨_, loaded⟩
    exact loaded (Option.some_ne_none object)
  · intro loaded
    exact ⟨⟨rfl, rfl⟩, fun _ => loaded⟩

variable {hal : HalAnswers}

theorem AudioInfoInAdapter.Checked.refused_sound {d : Direction} {priority : Int} {e : AudioInfoInAdapter}
    {served : Served AudioInfoInAdapter} (sound : e.Sound) (way : Checked d priority hal e served) (refuses : served.ret < 0) :
    served.state.Sound ∧ served.state.side d.other = e.side d.other := by
  cases way with
  | free => simp at refuses
  | outranked => exact ⟨sound, rfl⟩
  | busy => exact ⟨sound.setFlags, side_setSide_other⟩
  | stuck => exact ⟨sound.setFlags, side_setSide_other⟩
  | replaced => simp at refuses

theorem AudioInfoInAdapter.Checked.refused_kept {d : Direction} {type : UInt32} {e : AudioInfoInAdapter}
    {served : Served AudioInfoInAdapter} (sound : e.Sound) (way : Checked d (priorityOf type) hal e served)
    (refuses : served.ret < 0) : CreatKept d type hal e := by
  have matched := sound.matched d
  have spared : (e.side d).status ≠ 0 ∧ ¬(Replaces d type hal e ∧ hal.destroys = 0) := by
    cases way with
    | free => simp at refuses
    | outranked found lower => exact ⟨by simp [matched, found], fun ⟨⟨_, _, reaches, _⟩,
      _⟩ => absurd reaches (Int.not_le.mpr lower)⟩
    | busy found reaches waits => exact ⟨by simp [matched, found], fun ⟨⟨_, _, _, ready⟩, _⟩ => waits ready⟩
    | stuck found reaches ready fails => exact ⟨by simp [matched, found], fun ⟨_, destroyed⟩ => fails destroyed⟩
    | replaced => simp at refuses
  exact ⟨fun ⟨_, _, ends⟩ => absurd ends (by simp [spared]), fun _ replaces destroyed => absurd ⟨replaces,
    destroyed⟩ spared.2⟩

variable {pid type : UInt32}

theorem free_sound_iff {d : Direction} {e : AudioInfoInAdapter} (sound : e.Sound)
    (loaded : e.adapter ≠ none) (empty : (e.side d).object = none) :
    (e.withCreated d pid type hal).Sound ∧ (e.withCreated d pid type hal).side d.other = e.side d.other ↔
      CreatKept d type hal e := by
  have free := (sound.matched d).mpr empty
  have unused : ¬Replaces d type hal e := fun replaces => replaces.2.1 free
  cases made : hal.creates with
  | none => simp [withCreated, CreatKept, Creates, made, sound, unused]
  | some address =>
    have added : (e.withCreated d pid type hal).Sound ↔ e.adapter ≠ none ∧ 0 < e.adapterUserNum := by
      rw [withCreated, made]
      exact sound.created_iff d ⟨address, type, pid⟩ pid
    have other : (e.withCreated d pid type hal).side d.other = e.side d.other := by
      rw [withCreated, made]
      exact side_setSide_other
    simp [CreatKept, Creates, made, unused, loaded, free, added, other]

theorem replaced_render_sound {e : AudioInfoInAdapter} (sound : e.Sound) (live : e.render.object ≠ none) :
    ((e.cleared .render).withCreated .render pid type hal).Sound ∧
      ((e.cleared .render).withCreated .render pid type hal).capture = e.capture := by
  have users := sound.loaded (.inl live)
  have cleared : (e.setSide .init .render).Sound := sound.setSide_iff.mpr ⟨⟨rfl, rfl⟩, absurd rfl⟩
  rw [withCreated]
  cases hal.creates with
  | none => exact ⟨cleared, rfl⟩
  | some address => exact ⟨(cleared.created_iff .render ⟨address, type, pid⟩ pid).mpr users, rfl⟩

theorem cleared_capture {e : AudioInfoInAdapter} (reset : e.render.priority = -1) :
    e.cleared .capture = e.setSide { Side.init with priority := e.capture.priority } .capture := by
  obtain ⟨_, _, _, ⟨_, _, _, _, _, _⟩, _⟩ := e
  cases reset
  rfl

theorem replaced_capture_sound_iff {e : AudioInfoInAdapter} (sound : e.Sound) (live : e.capture.object ≠ none) :
    ((e.cleared .capture).withCreated .capture pid type hal).Sound ∧
      ((e.cleared .capture).withCreated .capture pid type hal).render = e.render ↔
    e.render.priority = -1 ∧ (hal.creates ≠ none ∨ e.capture.priority = -1) := by
  have users := sound.loaded (.inr live)
  rw [withCreated]
  cases hal.creates with
  | none =>
    constructor
    · rintro ⟨⟨_, ⟨_, stale⟩, _⟩, same⟩
      exact ⟨congrArg Side.priority same.symm, .inr stale⟩
    · rintro ⟨reset, impossible | stale⟩
      · exact absurd rfl impossible
      · rw [cleared_capture reset]
        exact ⟨sound.setSide_iff.mpr ⟨⟨rfl, stale⟩, absurd rfl⟩, rfl⟩
  | some address =>
    constructor
    · rintro ⟨_, same⟩
      exact ⟨congrArg Side.priority same.symm, .inl (Option.some_ne_none address)⟩
    · rintro ⟨reset, _⟩
      rw [cleared_capture reset]
      exact ⟨(sound.created_iff .capture ⟨address, type, pid⟩ pid).mpr users, rfl⟩

theorem replaced_sound_iff {d : Direction} {e : AudioInfoInAdapter} (sound : e.Sound)
    (replaces : Replaces d type hal e) (destroyed : hal.destroys = 0) :
    ((e.cleared d).withCreated d pid type hal).Sound ∧ ((e.cleared d).withCreated d pid type hal).side d.other = e.side d.other ↔
      CreatKept d type hal e := by
  have live : (e.side d).object ≠ none := fun empty => replaces.2.1 ((sound.matched d).mpr empty)
  have users := (sound.loaded (live_iff.mpr ⟨d, live⟩)).2
  cases d with
  | render => exact iff_of_true (replaced_render_sound sound live) ⟨fun _ => users, fun impossible => nomatch impossible⟩
  | capture => simpa [CreatKept, users, replaces, destroyed, Direction.other, side] using replaced_capture_sound_iff sound live

theorem creat_sound_iff {d : Direction} {e : AudioInfoInAdapter} (sound : e.Sound) :
    (e.hdiServiceCreat d pid type hal).state.Sound ∧ (e.hdiServiceCreat d pid type hal).state.side d.other = e.side d.other ↔
      CreatKept d type hal e := by
  have way := @creation e d hal pid type (sound.matched d)
  generalize e.hdiServiceCreat d pid type hal = served at way
  cases way with
  | unloaded absent => simp [CreatKept, Creates, Replaces, absent, sound]
  | refused loaded way refuses => exact iff_of_true (way.refused_sound sound refuses) (way.refused_kept sound refuses)
  | passed loaded way passes =>
    cases way with
    | free empty => exact free_sound_iff sound loaded empty
    | outranked found lower refuses => exact absurd refuses passes
    | busy found reaches waits refuses => exact absurd refuses passes
    | stuck found reaches ready fails refuses => exact absurd refuses passes
    | replaced found reaches ready destroyed =>
      exact replaced_sound_iff sound ⟨loaded, by simp [sound.matched, found], reaches, ready⟩ destroyed

theorem destory_sound {d : Direction} {pid : UInt32} {ret : Int} {e : AudioInfoInAdapter} (sound : e.Sound) :
    (e.hdiServiceDestory d pid ret).state.Sound ∧ (e.hdiServiceDestory d pid ret).state.side d.other = e.side d.other := by
  have emptied : (e.audioDestroyInfoInAdapter d).Sound := sound.setSide_iff.mpr ⟨⟨rfl, rfl⟩, absurd rfl⟩
  rcases @hdiServiceDestory_state e d pid ret with same | gone
  · rw [same]
    exact ⟨sound, rfl⟩
  · rw [gone]
    exact ⟨emptied, side_setSide_other⟩

theorem frame_sound {d : Direction} {pid : UInt32} {e : AudioInfoInAdapter} (sound : e.Sound) :
    (e.hdiServiceFrame d pid).state.Sound ∧ (e.hdiServiceFrame d pid).state.side d.other = e.side d.other := by
  obtain ⟨busy, changed⟩ := @hdiServiceFrame_state e d pid
  rw [changed]
  exact ⟨sound.setFlags, side_setSide_other⟩

def Command.direction : Command → Option Direction
  | .loadAdapter .. | .unloadAdapter .. => none
  | .creat d .. | .destory d .. | .control d .. | .frame d .. | .frameEnd d .. => some d

namespace AudioServer

def Sound (s : AudioServer) : Prop := ∀ e ∈ s.adapters, e.Sound

/-- The command leaves every entry as it should be, and the other direction as it was. -/
def Keeps (s : AudioServer) (c : Command) : Prop :=
  (s.step c).Sound ∧ ∀ d ∈ c.direction, (s.step c).adapters.map (·.side d.other) = s.adapters.map (·.side d.other)

def Orderly (s : AudioServer) (c : Command) : Prop :=
  s.running → match c with
    | .loadAdapter adapterName _ => ∀ e ∈ s.adapters.find? (counted adapterName), e.adapterUserNum = Int32.maxValue → ¬e.Live
    | .unloadAdapter adapterName => ∀ e ∈ s.adapters.find? (used adapterName), e.adapterUserNum = 1 → ¬e.Live
    | .creat d adapterName _ type hal => ∀ e ∈ s.entry adapterName, CreatKept d type hal e
    | _ => True

variable {s : AudioServer} {adapterName : String}

theorem serveAt_keeps_iff (sound : s.Sound) {missing : Int}
    {serve : AudioInfoInAdapter → Served AudioInfoInAdapter} {d : Direction} :
    ((s.serveAt adapterName missing serve).state.Sound ∧
      (s.serveAt adapterName missing serve).state.adapters.map (·.side d.other) = s.adapters.map (·.side d.other)) ↔
    ∀ e ∈ s.entry adapterName, (serve e).state.Sound ∧ (serve e).state.side d.other = e.side d.other := by
  rw [serveAt]
  cases found : s.entry adapterName with
  | none => simp [sound]
  | some e =>
    rw [entry] at found
    constructor
    · rintro ⟨kept, other⟩ e ⟨⟩
      exact ⟨(forall_updateFirst sound).mp kept _ found, map_updateFirst_eq_iff.mp other _ found⟩
    · intro kept
      refine ⟨(forall_updateFirst sound).mpr ?_, map_updateFirst_eq_iff.mpr ?_⟩
      · rw [found]
        exact fun e is => (kept e is).1
      · rw [found]
        exact fun e is => (kept e is).2

variable {users : Int32}

theorem users_load (used : 0 < users) : 0 < users + 1 ↔ users ≠ Int32.maxValue := by
  have least := Int32.le_toInt users
  have most := Int32.toInt_lt users
  rw [Int32.lt_iff_toInt_lt] at used ⊢
  rw [ne_eq, ← Int32.toInt_inj, Int32.toInt_add, Int32.toInt_maxValue, Int.bmod_def]
  simp at *
  omega

theorem users_unload (used : 0 < users) : 0 < users - 1 ↔ users ≠ 1 := by
  have least := Int32.le_toInt users
  have most := Int32.toInt_lt users
  rw [Int32.lt_iff_toInt_lt] at used ⊢
  rw [ne_eq, ← Int32.toInt_inj, Int32.toInt_sub, Int.bmod_def]
  simp at *
  omega

theorem users_sound_iff {e : AudioInfoInAdapter} (sound : e.Sound) {adapter : Option Nat} :
    ({ e with adapter := adapter, adapterUserNum := users } : AudioInfoInAdapter).Sound ↔
    (e.Live → adapter ≠ none ∧ 0 < users) := by
  constructor
  · intro kept
    exact kept.loaded
  · intro loaded
    exact ⟨sound.render, sound.capture, loaded⟩

section
variable (sound : s.Sound)
include sound

theorem update_sound_iff {stop : AudioInfoInAdapter → Bool} {e : AudioInfoInAdapter}
    (found : s.adapters.find? stop = some e) {change : AudioInfoInAdapter → AudioInfoInAdapter} :
    (s.update stop change).Sound ↔ (change e).Sound := by
  rw [Sound, update, forall_updateFirst sound, found]
  simp only [Option.mem_some_iff, forall_eq']

theorem load_sound_iff {loaded : Except Int Nat} : (s.hdiServiceLoadAdapter adapterName loaded).state.Sound ↔
      ∀ e ∈ s.adapters.find? (counted adapterName), e.adapterUserNum = Int32.maxValue → ¬e.Live := by
  simp only [hdiServiceLoadAdapter]
  cases found : s.adapters.find? (counted adapterName) with
  | none => simp [sound]
  | some e =>
    have entrySound := sound e (List.mem_of_find?_eq_some found)
    simp only [Option.mem_some_iff, forall_eq']
    by_cases used : 0 < e.adapterUserNum
    · simp only [if_pos used]
      rw [update_sound_iff sound found, users_sound_iff entrySound, users_load used]
      constructor
      · exact fun kept full live => (kept live).2 full
      · exact fun kept live => ⟨(entrySound.loaded live).1, fun full => kept full live⟩
    · refine iff_of_true ?_ fun full => absurd (full ▸ by decide) used
      simp only [if_neg used]
      cases loaded with
      | error => exact sound
      | ok adapter =>
        refine (forall_updateFirst sound).mpr fun e named => ?_
        exact (users_sound_iff (sound e (List.mem_of_find?_eq_some named))).mpr fun _ => ⟨Option.some_ne_none adapter,
          by decide⟩

theorem unload_sound_iff : (s.hdiServiceUnloadAdapter adapterName).state.Sound ↔
      ∀ e ∈ s.adapters.find? (used adapterName), e.adapterUserNum = 1 → ¬e.Live := by
  rw [hdiServiceUnloadAdapter]
  cases found : s.adapters.find? (used adapterName) with
  | none => simp [sound]
  | some e =>
    have entrySound := sound e (List.mem_of_find?_eq_some found)
    have inUse : named adapterName e ∧ 0 < e.adapterUserNum := by simpa [used] using (List.find?_some found)
    simp only [Option.mem_some_iff, forall_eq']
    by_cases last : e.adapterUserNum = 1
    · simp only [if_pos last]
      rw [update_sound_iff sound found, users_sound_iff entrySound]
      simp [last]
    · refine iff_of_true ?_ (absurd · last)
      simp only [if_neg last]
      rw [update_sound_iff sound found, users_sound_iff entrySound, users_unload inUse.2]
      exact fun live => ⟨(entrySound.loaded live).1, last⟩

theorem keeps_at_iff (running : s.running) {c : Command} {d : Direction}
    {missing : Int} {serve : AudioInfoInAdapter → Served AudioInfoInAdapter} (about : c.direction = some d)
    (serves : s.serve c = s.serveAt adapterName missing serve) :
    s.Keeps c ↔ ∀ e ∈ s.entry adapterName, (serve e).state.Sound ∧ (serve e).state.side d.other = e.side d.other := by
  rw [Keeps, step_of_running running, about, serves]
  simp only [Option.mem_some_iff, forall_eq']
  exact serveAt_keeps_iff sound

theorem entry_sound {e : AudioInfoInAdapter} (found : e ∈ s.entry adapterName) : e.Sound :=
  sound e (List.mem_of_find?_eq_some found)

theorem keeps_iff {c : Command} : s.Keeps c ↔ s.Orderly c := by
  by_cases running : s.running
  · cases c with
    | loadAdapter adapterName loaded =>
      rw [Keeps, step_of_running running]
      simpa [Command.direction, Orderly, running, serve] using load_sound_iff sound
    | unloadAdapter adapterName =>
      rw [Keeps, step_of_running running]
      simpa [Command.direction, Orderly, running, serve] using unload_sound_iff sound
    | creat d adapterName pid type hal =>
      rw [keeps_at_iff sound running rfl rfl, Orderly, forall_prop_of_true running]
      exact forall₂_congr fun e found => creat_sound_iff (entry_sound sound found)
    | destory d adapterName pid ret =>
      rw [keeps_at_iff sound running rfl rfl]
      exact iff_of_true (fun e found => destory_sound (entry_sound sound found)) fun _ => trivial
    | control d adapterName pid ret =>
      rw [keeps_at_iff sound running rfl rfl]
      exact iff_of_true (fun e found => by simp [hdiServiceControl_state,
        entry_sound sound found]) fun _ => trivial
    | frame d adapterName pid =>
      rw [keeps_at_iff sound running rfl rfl]
      exact iff_of_true (fun e found => frame_sound (entry_sound sound found)) fun _ => trivial
    | frameEnd d adapterName ret =>
      rw [keeps_at_iff sound running rfl rfl]
      exact iff_of_true (fun e found => ⟨(entry_sound sound found).setFlags,
        side_setSide_other⟩) fun _ => trivial
  · rw [Keeps, step_of_not_running running]
    exact iff_of_true ⟨sound, fun d _ => rfl⟩ fun runs => absurd runs running

theorem run_keeps_iff (run : List Command) : Takes step Keeps s run ↔ Takes step Orderly s run := by
  induction run generalizing s with
  | nil => exact Iff.rfl
  | cons c rest later =>
    constructor
    · rintro ⟨kept, taken⟩
      exact ⟨(keeps_iff sound).mp kept, (later kept.1).mp taken⟩
    · rintro ⟨orderly, taken⟩
      have kept := (keeps_iff sound).mpr orderly
      exact ⟨kept, (later kept.1).mpr taken⟩

end

theorem new_sound (names : List String) : (new names).Sound := by
  intro e isThere
  obtain ⟨name, -, rfl⟩ := List.mem_map.mp isThere
  exact ⟨⟨rfl, rfl⟩, ⟨rfl, rfl⟩, fun live => by rcases live with live | live <;> exact absurd rfl live⟩

end AudioServer

/-- In every run of commands, with whatever the HAL returns, all entries stay as they should be and no command touches the other
    direction, exactly when no card loses its last user with something live on it, its users are not more than an `int` can
    count, and a capture is replaced only where `renderPriority` is `-1` and the new one comes. -/
theorem adapter_table_sound_iff (names : List String) (run : List Command) :
    (AudioServer.new names).Sound ∧ Takes AudioServer.step AudioServer.Keeps (.new names) run ↔
      Takes AudioServer.step AudioServer.Orderly (.new names) run := by
  have first := AudioServer.new_sound names
  rw [AudioServer.run_keeps_iff first]
  exact and_iff_right first

/-- A client plays, a second one records, and a third one takes the recording over. -/
def recordingTakenOver : List Command :=
  [.loadAdapter "primary" (.ok 64), .creat .render "primary" 10 1 ⟨true, 0, some 100⟩,
    .creat .capture "primary" 20 0 ⟨true, 0, some 200⟩, .creat .capture "primary" 30 0 ⟨true, 0, some 300⟩]

/-- The render's priority is gone while it plays on. -/
theorem taken_over_recording_resets_render :
    ¬((AudioServer.new ["primary"]).Sound ∧ Takes AudioServer.step AudioServer.Keeps (.new ["primary"]) recordingTakenOver) := by
  rintro ⟨-, -, -, -, ⟨-, other⟩, -⟩
  exact absurd (other .capture rfl) (by decide)

end Peripheral.Audio
