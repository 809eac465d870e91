import Peripheral.AudioStream

/-!
When a stream of the audio HAL is what it is for the driver. The calls that set parameters
keep it so whatever the driver answers. It is lost when a START that the driver has
accepted finds no memory or an old pause, and when the buffer is freed for a STOP that the
driver does not accept.
-/
namespace Peripheral.AudioHal
open Transitions
open Audio (AUDIO_HAL_SUCCESS AUDIO_HAL_ERR_INTERNAL AUDIO_HAL_ERR_NOT_SUPPORT AUDIO_HAL_ERR_INVALID_PARAM
  AUDIO_HAL_ERR_INVALID_OBJECT AUDIO_HAL_ERR_MALLOC_FAIL AUDIO_HAL_ERR_AI_BUSY AUDIO_HAL_ERR_AO_BUSY AudioSampleAttributes
  AudioSceneDescriptor Direction)

variable {o : Outside} {s : HwStream} {d : Direction}

/-! ### Calls that neither start nor stop -/

/-- The call changes nothing and fails, or it sets parameters of which the driver has been told. -/
inductive Quiet (s : HwStream) : Called → Prop
  | refused {ret : Int} {stream : HwStream} (error : ret < 0) (same : stream.param = s.param) :
    Quiet s ⟨ret, stream, []⟩
  | changed {stream : HwStream} {cmd : Ioctl} (other : cmd ≠ .start ∧ cmd ≠ .stop) (buffer : stream.param.buffer = s.param.buffer)
    (pause : cmd = .pauseWrite ∨ stream.param.pause = s.param.pause) :
    Quiet s ⟨AUDIO_HAL_SUCCESS, stream, [⟨cmd, stream.param⟩]⟩

theorem HwStream.tried_eq (s : HwStream) (change : Change) : s.tried change = s := by
  rw [HwStream.tried, change.restores]

theorem Outside.checkAddr_cases (o : Outside) : o.checkAddr = AUDIO_HAL_SUCCESS ∨ o.checkAddr < 0 := by
  unfold checkAddr
  split
  · exact .inr (by decide)
  · exact .inl rfl

variable {ret : Int}

theorem quiet_refuse (error : ret < 0) : Quiet s (s.refuse ret) := .refused error rfl

variable {called : Called}

theorem quiet_guard {c : Prop} [Decidable c] (error : ret < 0)
    (behind : ¬ c → Quiet s called) : Quiet s (if c then s.refuse ret else called) := by
  by_cases holds : c
  · rw [if_pos holds]
    exact quiet_refuse error
  · rw [if_neg holds]
    exact behind holds

theorem quiet_checkAddr (behind : Quiet s called) : Quiet s (if o.checkAddr < 0 then s.refuse o.checkAddr else called) := by
  by_cases refused : o.checkAddr < 0
  · rw [if_pos refused]
    exact quiet_refuse refused
  · rwa [if_neg refused]

theorem quiet_checkParaAttr {attrs : AudioSampleAttributes} (behind : Quiet s called) :
    Quiet s (if audioCheckParaAttr attrs ≠ AUDIO_HAL_SUCCESS then s.refuse (audioCheckParaAttr attrs) else called) := by
  by_cases refused : audioCheckParaAttr attrs ≠ AUDIO_HAL_SUCCESS
  · rw [if_pos refused]
    refine quiet_refuse ?_
    simp only [audioCheckParaAttr, checkAttrFormat, checkAttrSamplingRate, HDF_SUCCESS, HDF_ERR_NOT_SUPPORT,
      AUDIO_HAL_SUCCESS] at refused ⊢
    grind
  · rwa [if_neg refused]

variable {cmd : Ioctl}

theorem quiet_ask {change : Change} (other : cmd ≠ .start ∧ cmd ≠ .stop)
    (buffer : ∀ param, (change.set param).buffer = param.buffer)
    (pause : cmd = .pauseWrite ∨ ∀ param, (change.set param).pause = param.pause) : Quiet s (s.ask o cmd change) := by
  rw [HwStream.ask, HwStream.tried_eq]
  refine quiet_guard (by decide) fun _ => ?_
  exact .changed other (buffer s.param) (pause.imp_right fun same => same s.param)

theorem quiet_pause : Quiet s (pause o s) := by
  refine quiet_checkAddr (quiet_guard (by decide) fun _ => ?_)
  refine quiet_guard (by decide) fun _ => quiet_guard (by decide) fun _ => quiet_guard (by decide) fun _ => ?_
  exact quiet_ask (by decide) (fun _ => rfl) (.inl rfl)

theorem quiet_resume : Quiet s (resume o s) := by
  refine quiet_checkAddr (quiet_guard (by decide) fun _ => ?_)
  refine quiet_guard (by decide) fun _ => quiet_guard (by decide) fun _ => ?_
  exact quiet_ask (by decide) (fun _ => rfl) (.inl rfl)

theorem quiet_setMute (mute : Bool) : Quiet s (setMute mute o s) := by
  refine quiet_checkAddr (quiet_guard (by decide) fun _ => quiet_guard (by decide) fun _ => ?_)
  exact quiet_ask (by decide) (fun _ => rfl) (.inr fun _ => rfl)

theorem quiet_audioRenderSetGain (gain : UInt32) : Quiet s (audioRenderSetGain gain o s) := by
  simp only [audioRenderSetGain, HwStream.tried_eq]
  refine quiet_checkAddr (quiet_guard (by decide) fun _ => ?_)
  refine quiet_guard (by decide) fun _ => quiet_guard (by decide) fun _ => ?_
  exact quiet_ask (by decide) (fun _ => rfl) (.inr fun _ => rfl)

theorem audioCaptureSetGain_eq (gain : UInt32) : audioCaptureSetGain gain = audioRenderSetGain gain := by
  funext o s
  simp only [audioCaptureSetGain, audioRenderSetGain, HwStream.tried_eq]

theorem quiet_setChannelMode (mode : UInt32) : Quiet s (audioRenderSetChannelMode mode o s) := by
  simp only [audioRenderSetChannelMode, HwStream.tried_eq]
  refine quiet_checkAddr (quiet_guard (by decide) fun _ => quiet_guard (by decide) fun _ => ?_)
  exact quiet_ask (by decide) (fun _ => rfl) (.inr fun _ => rfl)

theorem quiet_selectScene (scene : Option AudioSceneDescriptor) : Quiet s (selectScene scene o s) := by
  simp only [selectScene, HwStream.tried_eq]
  refine quiet_checkAddr ?_
  cases scene with
  | none => exact quiet_refuse (by decide)
  | some scene =>
    refine quiet_guard (by decide) fun _ => ?_
    cases o.pathSelAnalysisJson with
    | none => exact quiet_refuse (by decide)
    | some selected =>
      refine quiet_guard (by decide) fun _ => quiet_guard (by decide) fun _ => ?_
      exact quiet_ask (by decide) (fun _ => rfl) (.inr fun _ => rfl)

theorem quiet_audioRenderSetSampleAttributes (attrs : Option AudioSampleAttributes) :
    Quiet s (audioRenderSetSampleAttributes attrs o s) := by
  simp only [audioRenderSetSampleAttributes, HwStream.tried_eq]
  refine quiet_checkAddr ?_
  cases attrs with
  | none => exact quiet_refuse (by decide)
  | some attrs =>
    refine quiet_guard (by decide) fun _ => quiet_checkParaAttr (quiet_guard (by decide) fun _ => ?_)
    exact quiet_ask (by decide) (fun _ => rfl) (.inr fun _ => rfl)

theorem quiet_audioCaptureSetSampleAttributes (attrs : Option AudioSampleAttributes) :
    Quiet s (audioCaptureSetSampleAttributes attrs o s) := by
  simp only [audioCaptureSetSampleAttributes, HwStream.tried_eq]
  refine quiet_checkAddr ?_
  cases attrs with
  | none => exact quiet_refuse (by decide)
  | some attrs =>
    refine quiet_checkParaAttr (quiet_guard (by decide) fun _ => quiet_guard (by decide) fun _ => ?_)
    exact quiet_ask (by decide) (fun _ => rfl) (.inr fun _ => rfl)

theorem start_accepted {busy : Int} (starts : o.Starts s) :
    start busy o s =
      if o.calloc then ⟨AUDIO_HAL_SUCCESS, { s with param.buffer := true }, [⟨.start, s.param⟩]⟩
      else ⟨AUDIO_HAL_ERR_MALLOC_FAIL, s, [⟨.start, s.param⟩]⟩ := by
  obtain ⟨listed, lib, buffer, handle, accepted⟩ := starts
  have positive : ¬ o.ret < 0 := by omega
  have address : ¬ o.checkAddr < 0 := by rw [listed]; decide
  cases calloc : o.calloc <;> simp [start, address, lib, buffer, handle, positive, calloc]

theorem quiet_start {busy : Int} (error : busy < 0) (not : ¬ o.Starts s) : Quiet s (start busy o s) := by
  obtain listed | refused := o.checkAddr_cases
  · refine quiet_checkAddr (quiet_guard (by decide) fun lib => quiet_guard error fun buffer => ?_)
    refine quiet_guard (by decide) fun handle => ?_
    by_cases accepted : o.ret < 0
    · rw [if_pos accepted]
      exact quiet_refuse (by decide)
    · exact absurd ⟨listed, by simpa using lib, by simpa using buffer, by simpa using handle, by omega⟩ not
  · rw [start, if_pos refused]
    exact quiet_refuse refused

/-- The buffer is gone: with the consent of the driver, which has stopped the stream, or without. -/
inductive Stopping (s : HwStream) (consent : Prop) : Called → Prop
  | stopped {stream : HwStream} {param : HwParam} (given : consent) (freed : stream.param.buffer = false)
    (pause : stream.param.pause = s.param.pause) : Stopping s consent ⟨AUDIO_HAL_SUCCESS, stream, [⟨.stop, param⟩]⟩
  | lost {ret : Int} {stream : HwStream} (not : ¬ consent) (error : ret < 0)
    (freed : stream.param.buffer = false) : Stopping s consent ⟨ret, stream, []⟩

variable {consent : Prop}

theorem stopping_guard {c : Prop} [Decidable c] {stream : HwStream}
    (freed : stream.param.buffer = false) (error : ret < 0) (not : c → ¬ consent)
    (behind : ¬ c → Stopping s consent called) : Stopping s consent (if c then stream.refuse ret else called) := by
  by_cases holds : c
  · rw [if_pos holds]
    exact .lost (not holds) error freed
  · rw [if_neg holds]
    exact behind holds

theorem audioRenderStop_stopping (listed : o.checkAddr = AUDIO_HAL_SUCCESS) (buffer : s.param.buffer = true) :
    Stopping s (s.devDataHandle = true ∧ o.Answers) (audioRenderStop o s) := by
  have address : ¬ o.checkAddr < 0 := by rw [listed]; decide
  simp only [audioRenderStop, if_neg address, buffer, Bool.not_true, Bool.false_eq_true, if_false]
  refine stopping_guard rfl (by decide) (fun handle given => by simp [given.1] at handle) fun handle => ?_
  refine stopping_guard rfl (by decide) (fun lib given => by simp [given.2.1] at lib) fun lib => ?_
  refine stopping_guard rfl (by decide) (fun refused given => absurd given.2.2 (by omega)) fun accepted => ?_
  exact .stopped ⟨by simpa using handle, by simpa using lib, by omega⟩ rfl rfl

theorem audioCaptureStop_stopping (listed : o.checkAddr = AUDIO_HAL_SUCCESS) (handle : s.devDataHandle = true)
    (buffer : s.param.buffer = true) : Stopping s o.Answers (audioCaptureStop o s) := by
  have address : ¬ o.checkAddr < 0 := by rw [listed]; decide
  simp only [audioCaptureStop, if_neg address, handle, buffer, Bool.not_true, Bool.false_eq_true, if_false]
  refine stopping_guard rfl (by decide) (fun lib given => by simp [given.1] at lib) fun lib => ?_
  refine stopping_guard rfl (by decide) (fun refused given => absurd given.2 (by omega)) fun accepted => ?_
  exact .stopped ⟨by simpa using lib, by omega⟩ rfl rfl

theorem quiet_audioRenderStop (not : ¬ (o.checkAddr = AUDIO_HAL_SUCCESS ∧ s.param.buffer = true)) :
    Quiet s (audioRenderStop o s) := by
  obtain listed | refused := o.checkAddr_cases
  · have buffer : s.param.buffer = false := by simpa [listed] using not
    refine quiet_checkAddr ?_
    rw [if_pos (by simp [buffer])]
    exact quiet_refuse (by decide)
  · rw [audioRenderStop, if_pos refused]
    exact quiet_refuse refused

theorem audioCaptureStop_refused (not : ¬ (s.devDataHandle = true ∧ s.param.buffer = true)) :
    ∃ ret, ret < 0 ∧ audioCaptureStop o s = s.refuse ret := by
  obtain listed | refused := o.checkAddr_cases
  · have address : ¬ o.checkAddr < 0 := by rw [listed]; decide
    by_cases handle : s.devDataHandle = true
    · have buffer : s.param.buffer = false := by simpa [handle] using not
      exact ⟨AUDIO_HAL_ERR_NOT_SUPPORT, by decide, by simp [audioCaptureStop, address, handle, buffer]⟩
    · exact ⟨AUDIO_HAL_ERR_INTERNAL, by decide, by simp [audioCaptureStop, address, handle]⟩
  · exact ⟨o.checkAddr, refused, by rw [audioCaptureStop, if_pos refused]⟩

theorem Stopping.standby {t : HwStream} (pause : t.param.pause = s.param.pause)
    (stopping : Stopping t consent called) : Stopping s consent called.standby := by
  cases stopping with
  | stopped given freed same => exact .stopped given freed (same.trans pause)
  | lost not error freed =>
    rw [Called.standby, if_pos error]
    exact .lost not (by decide) freed

theorem standby_refuse (error : ret < 0) : (s.refuse ret).standby = s.refuse AUDIO_HAL_ERR_INTERNAL := by
  rw [Called.standby, HwStream.refuse, if_pos error]
  rfl

theorem Quiet.standby {t : HwStream} (same : t.param = s.param) (quiet : Quiet t called) : Quiet s called.standby := by
  cases quiet with
  | refused error kept =>
    rw [Called.standby, if_pos error]
    exact .refused (by decide) (kept.trans same)
  | changed other buffer pause =>
    rw [same] at buffer pause
    exact .changed other buffer pause

theorem Session.mirrors_iff {stream : HwStream} {accepted : List Request} : Session.Mirrors ⟨stream, accepted⟩ ↔
      stream.param.buffer = driverStarted accepted ∧ stream.param.pause = driverPaused accepted :=
  ⟨fun mirrors => ⟨mirrors.started, mirrors.paused⟩, fun both => ⟨both.1, both.2⟩⟩

def Keeping (t : Session) (called : Called) : Prop :=
  Session.Mirrors ⟨called.stream, called.accepted ++ t.accepted⟩ ∧
    (called.ret ≠ AUDIO_HAL_SUCCESS → called.stream.param = t.stream.param)

variable {t : Session}

theorem driverStarted_cons (other : cmd ≠ .start ∧ cmd ≠ .stop) (param : HwParam) (before : List Request) :
    driverStarted (⟨cmd, param⟩ :: before) = driverStarted before := by
  cases cmd <;> simp_all [driverStarted]

theorem driverPaused_cons (other : cmd ≠ .start ∧ cmd ≠ .pauseWrite) (param : HwParam) (before : List Request) :
    driverPaused (⟨cmd, param⟩ :: before) = driverPaused before := by
  cases cmd <;> simp_all [driverPaused]

section
variable (mirrors : t.Mirrors)
include mirrors

theorem keeping_quiet (quiet : Quiet t.stream called) : Keeping t called := by
  cases quiet with
  | refused error same =>
    refine ⟨⟨?_, ?_⟩, fun _ => same⟩
    · simpa [same] using mirrors.started
    · simpa [same] using mirrors.paused
  | @changed stream cmd other buffer pause =>
    refine ⟨⟨?_, ?_⟩, fun error => absurd rfl error⟩
    · rw [buffer, mirrors.started]
      exact (driverStarted_cons other _ _).symm
    · by_cases pauses : cmd = .pauseWrite
      · subst pauses
        rfl
      · rw [pause.resolve_left pauses, mirrors.paused]
        exact (driverPaused_cons ⟨other.1, pauses⟩ _ _).symm

theorem keeping_start {busy : Int} (error : busy < 0) :
    Keeping t (start busy o t.stream) ↔ (o.Starts t.stream → o.calloc = true ∧ t.stream.param.pause = false) := by
  by_cases starts : o.Starts t.stream
  · rw [start_accepted starts]
    cases calloc : o.calloc with
    | true =>
      simp only [if_true, Keeping, Session.mirrors_iff]
      simp [starts, driverStarted, driverPaused]
    | false =>
      have buffer := starts.2.2.1
      simp [starts, Keeping, Session.mirrors_iff, buffer, driverStarted]
  · exact iff_of_true (keeping_quiet mirrors (quiet_start error starts)) fun yes => absurd yes starts

theorem keeping_stopping (buffer : t.stream.param.buffer = true)
    (stopping : Stopping t.stream consent called) : Keeping t called ↔ consent := by
  cases stopping with
  | stopped given freed pause =>
    refine iff_of_true ⟨⟨freed, ?_⟩, fun error => absurd rfl error⟩ given
    rw [pause, mirrors.paused]
    exact (driverPaused_cons (by decide) _ _).symm
  | lost not error freed =>
    refine iff_of_false (fun keeps => ?_) not
    have started := keeps.1.started
    have before := mirrors.started
    simp only [List.nil_append] at started
    rw [freed, ← before, buffer] at started
    cases started

theorem keeping_audioRenderStop : Keeping t (audioRenderStop o t.stream) ↔
      (o.checkAddr = AUDIO_HAL_SUCCESS → t.stream.param.buffer = true → t.stream.devDataHandle = true ∧ o.Answers) := by
  by_cases reaches : o.checkAddr = AUDIO_HAL_SUCCESS ∧ t.stream.param.buffer = true
  · rw [keeping_stopping mirrors reaches.2 (audioRenderStop_stopping reaches.1 reaches.2)]
    simp [reaches]
  · exact iff_of_true (keeping_quiet mirrors (quiet_audioRenderStop reaches)) fun listed buffer =>
      absurd ⟨listed, buffer⟩ reaches

theorem keeping_audioRenderTurnStandbyMode : Keeping t (audioRenderTurnStandbyMode o t.stream) ↔
      (o.checkAddr = AUDIO_HAL_SUCCESS → t.stream.param.buffer = true → t.stream.devDataHandle = true ∧ o.Answers) := by
  rw [audioRenderTurnStandbyMode]
  by_cases reaches : o.checkAddr = AUDIO_HAL_SUCCESS ∧ t.stream.param.buffer = true
  · have stopping := Stopping.standby (s := t.stream) (t := { t.stream with turnStandbyStatus := AUDIO_TURN_STANDBY_NOW }) rfl
      (audioRenderStop_stopping reaches.1 reaches.2)
    rw [keeping_stopping mirrors reaches.2 stopping]
    simp [reaches]
  · have quiet := Quiet.standby (s := t.stream) (t := { t.stream with turnStandbyStatus := AUDIO_TURN_STANDBY_NOW }) rfl
      (quiet_audioRenderStop reaches)
    exact iff_of_true (keeping_quiet mirrors quiet) fun listed buffer => absurd ⟨listed, buffer⟩ reaches

theorem keeping_audioCaptureStop : Keeping t (audioCaptureStop o t.stream) ↔
      (o.checkAddr = AUDIO_HAL_SUCCESS → t.stream.devDataHandle = true → t.stream.param.buffer = true → o.Answers) := by
  by_cases reaches : t.stream.devDataHandle = true ∧ t.stream.param.buffer = true
  · obtain listed | refused := o.checkAddr_cases
    · rw [keeping_stopping mirrors reaches.2 (audioCaptureStop_stopping listed reaches.1 reaches.2)]
      simp [listed, reaches]
    · rw [audioCaptureStop, if_pos refused]
      exact iff_of_true (keeping_quiet mirrors (quiet_refuse refused)) fun listed => by simp [listed, AUDIO_HAL_SUCCESS] at refused
  · obtain ⟨ret, error, refused⟩ := audioCaptureStop_refused (o := o) reaches
    rw [refused]
    exact iff_of_true (keeping_quiet mirrors (quiet_refuse error)) fun _ handle buffer => absurd ⟨handle, buffer⟩ reaches

/-- The pins are lost even when there is nothing to stop. -/
theorem keeping_audioCaptureTurnStandbyMode : Keeping t (audioCaptureTurnStandbyMode o t.stream) ↔
      (o.checkAddr = AUDIO_HAL_SUCCESS →
        if t.stream.devDataHandle = true ∧ t.stream.param.buffer = true then o.Answers else t.stream.param.pins = PIN_NONE) := by
  obtain listed | refused := o.checkAddr_cases
  · rw [audioCaptureTurnStandbyMode, if_neg (by rw [listed]; decide)]
    by_cases reaches : t.stream.devDataHandle = true ∧ t.stream.param.buffer = true
    · have stopping := Stopping.standby (s := t.stream) (t := { t.stream with param.pins := PIN_NONE }) rfl
        (audioCaptureStop_stopping listed reaches.1 reaches.2)
      rw [keeping_stopping mirrors reaches.2 stopping, if_pos reaches]
      simp [listed]
    · obtain ⟨ret, error, refused⟩ := audioCaptureStop_refused (s := { t.stream with param.pins := PIN_NONE }) (o := o) reaches
      rw [refused, if_neg reaches, standby_refuse error]
      constructor
      · intro keeps _
        have same := keeps.2 (show AUDIO_HAL_ERR_INTERNAL ≠ AUDIO_HAL_SUCCESS by decide)
        exact (congrArg HwParam.pins same).symm
      · intro none
        have same : t.stream = { t.stream with param.pins := PIN_NONE } := by rw [← none listed]
        rw [← same]
        exact keeping_quiet mirrors (quiet_refuse (by decide))
  · rw [audioCaptureTurnStandbyMode, if_pos refused]
    exact iff_of_true (keeping_quiet mirrors (quiet_refuse refused)) fun listed => by simp [listed, AUDIO_HAL_SUCCESS] at refused

theorem meets_iff (e : StreamCall d × Outside) : Meets t.stream e ↔ (t.step e).Mirrors ∧ t.Keeps e := by
  show _ ↔ Keeping t (e.1.call e.2 t.stream)
  obtain ⟨call, o⟩ := e
  have quiet {called : Called} (quiet : Quiet t.stream called) : True ↔ Keeping t called :=
    iff_of_true trivial (keeping_quiet mirrors quiet)
  cases call with
  | start => cases d <;> exact (keeping_start mirrors (by decide)).symm
  | stop =>
    cases d with
    | render => exact (keeping_audioRenderStop mirrors).symm
    | capture => exact (keeping_audioCaptureStop mirrors).symm
  | turnStandbyMode =>
    cases d with
    | render => exact (keeping_audioRenderTurnStandbyMode mirrors).symm
    | capture => exact (keeping_audioCaptureTurnStandbyMode mirrors).symm
  | pause => cases d <;> exact quiet quiet_pause
  | resume => cases d <;> exact quiet quiet_resume
  | setMute mute => cases d <;> exact quiet (quiet_setMute mute)
  | setGain gain =>
    cases d with
    | render => exact quiet (quiet_audioRenderSetGain gain)
    | capture =>
      show _ ↔ Keeping t (audioCaptureSetGain gain o t.stream)
      rw [audioCaptureSetGain_eq]
      exact quiet (quiet_audioRenderSetGain gain)
  | setChannelMode mode => exact quiet (quiet_setChannelMode mode)
  | selectScene scene => cases d <;> exact quiet (quiet_selectScene scene)
  | setSampleAttributes attrs =>
    cases d with
    | render => exact quiet (quiet_audioRenderSetSampleAttributes attrs)
    | capture => exact quiet (quiet_audioCaptureSetSampleAttributes attrs)

end

theorem Session.Created.mirrors (created : t.Created) : t.Mirrors := by
  obtain ⟨none, buffer, pause⟩ := created
  exact ⟨by rw [buffer, none]; rfl, by rw [pause, none]; rfl⟩

/-- A run is faithful exactly when each of its calls meets its condition. -/
theorem faithful_iff_careful (created : t.Created) (calls : List (StreamCall d × Outside)) : t.Faithful calls ↔ t.Careful calls :=
  Takes.congr (fun _ e mirrors => (meets_iff mirrors e).symm) (fun _ _ _ kept => kept.1) created.mirrors

def refusing : Outside := { willing with ret := -1 }
def newSession : Session := ⟨newStream, []⟩

def playing : List (StreamCall .render × Outside) :=
  [(.start, willing), (.pause, refusing), (.pause, willing), (.setMute true, refusing), (.resume, willing), (.stop, willing)]

theorem playing_faithful : newSession.Faithful playing :=
  (faithful_iff_careful ⟨rfl, rfl, rfl⟩ playing).mpr
    ⟨fun _ => ⟨rfl, rfl⟩, trivial, trivial, trivial, trivial, fun _ _ => ⟨rfl, rfl, by decide⟩, trivial⟩

/-- A STOP that is refused is lost, and so are the pause before a START and the pins of a capture that was not started. -/
theorem stop_pause_and_pins_lost : newSession.Created ∧
      ¬ newSession.Faithful (d := .render) [(.start, willing), (.stop, refusing)] ∧
      ¬ newSession.Faithful (d := .render) [(.start, willing), (.pause, willing), (.stop, willing), (.start, willing)] ∧
      ¬ newSession.Faithful (d := .capture) [(.start, willing), (.stop, refusing)] ∧
      ¬ newSession.Faithful (d := .capture) [(.turnStandbyMode, willing)] := by
  refine ⟨⟨rfl, rfl, rfl⟩, ?_, ?_, ?_, ?_⟩
  · rintro ⟨_, ⟨mirrors, _⟩, _⟩
    exact absurd mirrors.started (by decide)
  · rintro ⟨_, _, _, ⟨mirrors, _⟩, _⟩
    exact absurd mirrors.paused (by decide)
  · rintro ⟨_, ⟨mirrors, _⟩, _⟩
    exact absurd mirrors.started (by decide)
  · rintro ⟨⟨_, keeps⟩, _⟩
    exact absurd (keeps (by decide)) (by decide)

end Peripheral.AudioHal
