import Peripheral.AudioExtraParams
import Peripheral.Floors

/-!
Where a render is, `audio_render.c` and `audio_common.c`. What the driver has taken of a
buffer is counted in frames, and the time of these frames is added to a time stamp. The
position of a render that is mapped comes from the number of all frames at once.
-/
namespace Peripheral.AudioHal
open Floors List
open Audio (AUDIO_HAL_SUCCESS AUDIO_HAL_ERR_INTERNAL AUDIO_HAL_ERR_INVALID_PARAM HDF_FAILURE AudioSampleAttributes)

def FRAME_DATA : UInt64 := 8192 * 2
def SEC_TO_NSEC : Nat := 1000000000

structure AudioTimeStamp where
  tvSec : Int64
  tvNSec : Int64
  deriving DecidableEq

structure Playback where
  render : HwRender
  time : AudioTimeStamp
  bufferFrameSize : UInt64
  bufferSize : UInt64
  deriving DecidableEq

def Playback.attrs (s : Playback) : AudioSampleAttributes := s.render.stream.param.attrs

/-- The arguments of `RenderFrame`: whether there is a frame and a place for the reply, whether the frame overlaps the
    buffer of the render, and how many bytes it has. -/
structure FrameCall where
  frame : Bool
  replyBytes : Bool
  overlaps : Bool
  requestBytes : UInt64
  deriving DecidableEq

def timeToAudioTimeStamp (bufferFrameSize : UInt64) (time : AudioTimeStamp) (sampleRate : UInt32) : Option AudioTimeStamp :=
  if sampleRate = 0 then none
  else
    let tvSec := time.tvSec + (bufferFrameSize / sampleRate.toUInt64).toInt64
    let lastBufFrames := (bufferFrameSize % sampleRate.toUInt64).toInt64
    let tvNSec := time.tvNSec + lastBufFrames * .ofNat SEC_TO_NSEC / sampleRate.toUInt64.toInt64
    if .ofNat SEC_TO_NSEC ≤ tvNSec then some ⟨tvSec + 1, tvNSec - .ofNat SEC_TO_NSEC⟩ else some ⟨tvSec, tvNSec⟩

def pcmBytesToFrames (attrs : AudioSampleAttributes) (bytes : UInt64) : Except Int UInt32 :=
  match formatToBits attrs.format with
  | none => .error HDF_ERR_NOT_SUPPORT
  | some formatBits =>
    if 4 < attrs.channelCount ∨ 64 < formatBits then .error HDF_FAILURE
    else
      let frameSize := attrs.channelCount * (formatBits >>> 3)
      if frameSize = 0 then .error HDF_FAILURE else .ok (bytes.toUInt32 / frameSize)

def audioRenderRenderFramSplit (o : Outside) (s : Playback) : Int :=
  if !o.interfaceLib then HDF_FAILURE
  else if !s.render.stream.devDataHandle then HDF_FAILURE
  else if o.ret < 0 then AUDIO_HAL_ERR_INTERNAL
  else HDF_SUCCESS

def audioRenderRenderFrame (o : Outside) (call : FrameCall) (s : Playback) : Int × Option UInt64 × Playback :=
  if o.checkAddr < 0 then (o.checkAddr, none, s)
  else if !call.frame || !call.replyBytes || !s.render.stream.param.buffer then (AUDIO_HAL_ERR_INVALID_PARAM, none, s)
  else if FRAME_DATA < call.requestBytes then (AUDIO_HAL_ERR_INTERNAL, none, s)
  else if call.overlaps then (AUDIO_HAL_ERR_INTERNAL, none, s)
  else
    let s := { s with bufferSize := call.requestBytes }
    match pcmBytesToFrames s.attrs call.requestBytes with
    | .error ret => (ret, none, s)
    | .ok frameCount =>
      let s := { s with bufferFrameSize := frameCount.toUInt64 }
      if audioRenderRenderFramSplit o s < 0 then (AUDIO_HAL_ERR_INTERNAL, none, s)
      else
        let s := { s with render.frames := s.render.frames + s.bufferFrameSize }
        if s.attrs.sampleRate = 0 then (AUDIO_HAL_ERR_INTERNAL, some call.requestBytes, s)
        else
          match timeToAudioTimeStamp s.bufferFrameSize s.time s.attrs.sampleRate with
          | none => (AUDIO_HAL_ERR_INTERNAL, some call.requestBytes, s)
          | some time => (AUDIO_HAL_SUCCESS, some call.requestBytes, { s with time })

/-- The driver says how many frames it has. A rate of zero is divided by. -/
def audioRenderGetMmapPosition (o : Outside) (answered : UInt64) (places : Bool) (s : Playback) :
    Option (Int × Option (UInt64 × AudioTimeStamp) × Playback) :=
  if o.checkAddr < 0 then some (o.checkAddr, none, s)
  else if !places then some (AUDIO_HAL_ERR_INVALID_PARAM, none, s)
  else if !o.interfaceLib then some (AUDIO_HAL_ERR_INTERNAL, none, s)
  else if !s.render.stream.devDataHandle then some (AUDIO_HAL_ERR_INTERNAL, none, s)
  else if o.ret < 0 then some (AUDIO_HAL_ERR_INTERNAL, none, s)
  else
    let sampleRate := s.attrs.sampleRate.toUInt64
    if sampleRate = 0 then none
    else
      let lastBufFrames := answered % sampleRate
      let time := ⟨(answered / sampleRate).toInt64, (lastBufFrames * .ofNat SEC_TO_NSEC / sampleRate).toInt64⟩
      some (AUDIO_HAL_SUCCESS, some (answered, time), { s with render.frames := answered, time })

namespace Playback

def Created (s : Playback) : Prop := s.render.frames = 0 ∧ s.time = ⟨0, 0⟩

def step (s : Playback) (e : FrameCall × Outside) : Playback := (audioRenderRenderFrame e.2 e.1 s).2.2

def Succeeds (s : Playback) (e : FrameCall × Outside) : Prop := (audioRenderRenderFrame e.2 e.1 s).1 = AUDIO_HAL_SUCCESS

instance (s : Playback) (e : FrameCall × Outside) : Decidable (s.Succeeds e) := inferInstanceAs (Decidable (_ = _))

def frameSize (s : Playback) : Nat := s.attrs.channelCount.toNat * (((formatToBits s.attrs.format).getD 0).toNat / 8)

def rendered (s : Playback) : List (FrameCall × Outside) → List Nat
  | [] => []
  | e :: calls =>
    if s.Succeeds e then e.1.requestBytes.toNat / s.frameSize :: (s.step e).rendered calls else (s.step e).rendered calls

end Playback

def AudioTimeStamp.nanoseconds (time : AudioTimeStamp) : Int := time.tvSec.toInt * SEC_TO_NSEC + time.tvNSec.toInt

/-! ### Signed numbers that are not exceeded -/

theorem toInt_toInt64 {n : UInt64} (small : n.toNat < 2 ^ 63) : n.toInt64.toInt = n.toNat := by
  have same : n.toInt64 = .ofNat n.toNat := by rw [← UInt64.toInt64_ofNat', UInt64.ofNat_toNat]
  rw [same, Int64.toInt_ofNat_of_lt small]

variable {a b : Int64}

theorem toInt_add {n m : Nat} (left : a.toInt = n) (right : b.toInt = m) (small : n + m < 2 ^ 63) :
    (a + b).toInt = (n + m : Nat) := by
  rw [Int64.toInt_add, left, right, Int.bmod_eq_of_le (by omega) (by omega), Int.natCast_add]

theorem toInt_mul {n m : Nat} (left : a.toInt = n) (right : b.toInt = m) (small : n * m < 2 ^ 63) :
    (a * b).toInt = (n * m : Nat) := by
  have bound : ((n * m : Nat) : Int) < 2 ^ 63 := by exact_mod_cast small
  rw [Int64.toInt_mul, left, right, ← Int.natCast_mul, Int.bmod_eq_of_le (by omega) (by omega)]

theorem toInt_div {n m : Nat} (left : a.toInt = n) (right : b.toInt = m) : (a / b).toInt = (n / m : Nat) := by
  have bound := a.toInt_lt
  have least : a ≠ Int64.minValue := by
    rintro rfl
    rw [Int64.toInt_minValue] at left
    omega
  rw [Int64.toInt_div_of_ne_left a b least, left, right, Int.tdiv_eq_ediv_of_nonneg (Int.natCast_nonneg n), Int.natCast_ediv]

theorem timeToAudioTimeStamp_spec {frames : UInt64} {time : AudioTimeStamp} {sampleRate : UInt32} {sec nsec : Nat}
    (rate : 0 < sampleRate.toNat) (seconds : time.tvSec.toInt = sec) (nanos : time.tvNSec.toInt = nsec)
    (normal : nsec < SEC_TO_NSEC)
    (fits : sec * SEC_TO_NSEC + nsec + frames.toNat * SEC_TO_NSEC / sampleRate.toNat < 2 ^ 63 * SEC_TO_NSEC) :
    ∃ later sec' nsec', timeToAudioTimeStamp frames time sampleRate = some later ∧ later.tvSec.toInt = (sec' : Nat) ∧
      later.tvNSec.toInt = (nsec' : Nat) ∧ nsec' < SEC_TO_NSEC ∧
      sec' * SEC_TO_NSEC + nsec' = sec * SEC_TO_NSEC + nsec + frames.toNat * SEC_TO_NSEC / sampleRate.toNat := by
  have notZero : sampleRate ≠ 0 := by
    rintro rfl
    simp at rate
  have size := sampleRate.toNat_lt
  have parts := @Floors.part_eq SEC_TO_NSEC sampleRate.toNat rate frames.toNat
  have rest := Nat.mod_lt frames.toNat rate
  have below : frames.toNat % sampleRate.toNat * SEC_TO_NSEC / sampleRate.toNat < SEC_TO_NSEC := by
    rw [Nat.div_lt_iff_lt_mul rate, Nat.mul_comm SEC_TO_NSEC]
    exact Nat.mul_lt_mul_of_pos_right rest (by decide)
  have whole : (frames / sampleRate.toUInt64).toNat = frames.toNat / sampleRate.toNat := by
    rw [UInt64.toNat_div, UInt32.toNat_toUInt64]
  have last : (frames % sampleRate.toUInt64).toNat = frames.toNat % sampleRate.toNat := by
    rw [UInt64.toNat_mod, UInt32.toNat_toUInt64]
  rw [parts] at fits ⊢
  have short : sec + frames.toNat / sampleRate.toNat < 2 ^ 63 := by
    generalize frames.toNat % sampleRate.toNat * SEC_TO_NSEC / sampleRate.toNat = nanoseconds at fits
    simp only [SEC_TO_NSEC] at fits
    omega
  have room : nsec + frames.toNat % sampleRate.toNat * SEC_TO_NSEC / sampleRate.toNat < 2 ^ 63 := by
    simp only [SEC_TO_NSEC] at normal below ⊢
    omega
  have carried : SEC_TO_NSEC ≤ nsec + frames.toNat % sampleRate.toNat * SEC_TO_NSEC / sampleRate.toNat →
      sec + frames.toNat / sampleRate.toNat + 1 < 2 ^ 63 := by
    generalize frames.toNat % sampleRate.toNat * SEC_TO_NSEC / sampleRate.toNat = nanoseconds at fits
    simp only [SEC_TO_NSEC] at fits ⊢
    omega
  have product : frames.toNat % sampleRate.toNat * SEC_TO_NSEC < 2 ^ 63 := by
    simp only [SEC_TO_NSEC]
    omega
  obtain ⟨nano, nanoIs⟩ : ∃ nano, nano = Int64.ofNat SEC_TO_NSEC := ⟨_, rfl⟩
  have nanoInt : nano.toInt = SEC_TO_NSEC := by
    rw [nanoIs]
    exact Int64.toInt_ofNat_of_lt (by simp [SEC_TO_NSEC])
  have secSum := toInt_add seconds ((toInt_toInt64 (by rw [whole]; omega)).trans (congrArg Nat.cast whole)) short
  have lastInt := (toInt_toInt64 (n := frames % sampleRate.toUInt64) (by rw [last]; omega)).trans (congrArg Nat.cast last)
  have rateInt := (toInt_toInt64 (n := sampleRate.toUInt64) (by rw [UInt32.toNat_toUInt64]; omega)).trans
    (congrArg Nat.cast (UInt32.toNat_toUInt64 sampleRate))
  have nanoSum := toInt_add nanos (toInt_div (toInt_mul lastInt nanoInt product) rateInt) room
  rw [timeToAudioTimeStamp, if_neg notZero, ← nanoIs]
  dsimp only
  generalize time.tvNSec + (frames % sampleRate.toUInt64).toInt64 * nano / sampleRate.toUInt64.toInt64 = tvNSec at nanoSum ⊢
  generalize time.tvSec + (frames / sampleRate.toUInt64).toInt64 = tvSec at secSum ⊢
  generalize frames.toNat % sampleRate.toNat * SEC_TO_NSEC / sampleRate.toNat = nanoseconds at below carried room nanoSum ⊢
  by_cases carry : nano ≤ tvNSec
  · have above : SEC_TO_NSEC ≤ nsec + nanoseconds := by
      rw [Int64.le_iff_toInt_le, nanoInt, nanoSum] at carry
      exact Int.ofNat_le.mp carry
    refine ⟨_, sec + frames.toNat / sampleRate.toNat + 1, nsec + nanoseconds - SEC_TO_NSEC, if_pos carry, ?_, ?_, by omega, ?_⟩
    · exact toInt_add secSum Int64.toInt_one (carried above)
    · rw [Int64.toInt_sub, nanoSum, nanoInt, ← Int.natCast_sub above, Int.bmod_eq_of_le (by omega) (by omega)]
    · simp only [Nat.add_mul, Nat.one_mul]
      omega
  · refine ⟨_, sec + frames.toNat / sampleRate.toNat, nsec + nanoseconds, if_neg carry, secSum, nanoSum, ?_, ?_⟩
    · rw [Int64.le_iff_toInt_le, nanoInt, nanoSum] at carry
      exact not_le.mp fun above => carry (Int.ofNat_le.mpr above)
    · rw [Nat.add_mul]
      omega

theorem pcmBytesToFrames_error {attrs : AudioSampleAttributes} {bytes : UInt64} {ret : Int}
    (error : pcmBytesToFrames attrs bytes = .error ret) : ret ≠ AUDIO_HAL_SUCCESS := by
  simp only [pcmBytesToFrames] at error
  split at error
  · cases error
    decide
  · split_ifs at error <;> cases error <;> decide

theorem pcmBytesToFrames_ok {s : Playback} {bytes : UInt64} {frameCount : UInt32}
    (ok : pcmBytesToFrames s.attrs bytes = .ok frameCount) (inside : bytes ≤ FRAME_DATA) :
    frameCount.toNat = bytes.toNat / s.frameSize ∧ frameCount.toNat ≤ 16384 := by
  have small : bytes.toNat ≤ 16384 := inside
  simp only [pcmBytesToFrames] at ok
  cases bits : formatToBits s.attrs.format with
  | none => simp [bits] at ok
  | some formatBits =>
    simp only [bits] at ok
    split_ifs at ok with unsupported none
    rw [not_or, UInt32.not_lt, UInt32.not_lt] at unsupported
    have channels : s.attrs.channelCount.toNat ≤ 4 := unsupported.1
    have width : formatBits.toNat ≤ 64 := unsupported.2
    have shifted : (formatBits >>> 3).toNat = formatBits.toNat / 8 := by
      rw [UInt32.toNat_shiftRight, Nat.shiftRight_eq_div_pow]
      rfl
    have few : s.attrs.channelCount.toNat * (formatBits.toNat / 8) ≤ 4 * 8 := Nat.mul_le_mul channels (by omega)
    have size : (s.attrs.channelCount * (formatBits >>> 3)).toNat = s.frameSize := by
      rw [UInt32.toNat_mul, shifted, Playback.frameSize, bits, Option.getD_some]
      exact Nat.mod_eq_of_lt (by omega)
    cases ok
    rw [UInt32.toNat_div, UInt64.toNat_toUInt32, size, Nat.mod_eq_of_lt (by omega)]
    exact ⟨rfl, Nat.le_trans (Nat.div_le_self _ _) small⟩

/-- A call fails and leaves the frames and the time, or it adds what the driver has taken. -/
inductive Renders (s : Playback) (call : FrameCall) : Int × Option UInt64 × Playback → Prop
  | fails {ret : Int} {reply : Option UInt64} {later : Playback} (error : ret ≠ AUDIO_HAL_SUCCESS)
      (render : later.render = s.render) (time : later.time = s.time) : Renders s call (ret, reply, later)
  | succeeds {frameCount : UInt32} {time : AudioTimeStamp} (inside : call.requestBytes ≤ FRAME_DATA)
      (counted : pcmBytesToFrames s.attrs call.requestBytes = .ok frameCount)
      (stamped : timeToAudioTimeStamp frameCount.toUInt64 s.time s.attrs.sampleRate = some time) :
      Renders s call (AUDIO_HAL_SUCCESS, some call.requestBytes,
        ⟨{ s.render with frames := s.render.frames + frameCount.toUInt64 }, time, frameCount.toUInt64, call.requestBytes⟩)

theorem timeToAudioTimeStamp_isSome (frames : UInt64) (time : AudioTimeStamp) {sampleRate : UInt32} (rate : sampleRate ≠ 0) :
    ∃ later, timeToAudioTimeStamp frames time sampleRate = some later := by
  rw [timeToAudioTimeStamp, if_neg rate]
  dsimp only
  split <;> exact ⟨_, rfl⟩

theorem renders (o : Outside) (call : FrameCall) {s : Playback} (rate : s.attrs.sampleRate ≠ 0) :
    Renders s call (audioRenderRenderFrame o call s) := by
  have invalid : AUDIO_HAL_ERR_INVALID_PARAM ≠ AUDIO_HAL_SUCCESS := by decide
  have internal : AUDIO_HAL_ERR_INTERNAL ≠ AUDIO_HAL_SUCCESS := by decide
  unfold audioRenderRenderFrame
  by_cases address : o.checkAddr < 0
  · rw [if_pos address]
    exact .fails (Int.ne_of_lt address) rfl rfl
  rw [if_neg address]
  by_cases null : (!call.frame || !call.replyBytes || !s.render.stream.param.buffer) = true
  · rw [if_pos null]
    exact .fails invalid rfl rfl
  rw [if_neg null]
  by_cases long : FRAME_DATA < call.requestBytes
  · rw [if_pos long]
    exact .fails internal rfl rfl
  rw [if_neg long]
  by_cases overlaps : call.overlaps = true
  · rw [if_pos overlaps]
    exact .fails internal rfl rfl
  rw [if_neg overlaps]
  dsimp only
  cases counted : pcmBytesToFrames ({ s with bufferSize := call.requestBytes } : Playback).attrs call.requestBytes with
  | error ret => exact .fails (pcmBytesToFrames_error counted) rfl rfl
  | ok frameCount =>
    dsimp only
    split
    · exact .fails internal rfl rfl
    · split
      · rename_i zero
        exact absurd zero rate
      · split
        · rename_i none
          obtain ⟨time, stamped⟩ := timeToAudioTimeStamp_isSome frameCount.toUInt64 s.time rate
          exact absurd (none.symm.trans stamped) nofun
        · rename_i stamped
          exact .succeeds (UInt64.not_lt.mp long) counted stamped

/-- The frames are all counted, and the time stamp lacks less than a nanosecond for each buffer. -/
structure Accounted (s : Playback) (parts : List Nat) : Prop where
  frames : s.render.frames.toNat = parts.sum
  normal : 0 ≤ s.time.tvNSec.toInt ∧ s.time.tvNSec.toInt < SEC_TO_NSEC
  notAhead : 0 ≤ (s.render.frames.toNat * SEC_TO_NSEC : Int) - s.attrs.sampleRate.toNat * s.time.nanoseconds
  lag : (s.render.frames.toNat * SEC_TO_NSEC : Int) - s.attrs.sampleRate.toNat * s.time.nanoseconds ≤
    parts.length * (s.attrs.sampleRate.toNat - 1)
  mapped : ∀ o places position later,
    audioRenderGetMmapPosition o s.render.frames places s = some (AUDIO_HAL_SUCCESS, some position, later) →
    s.time.nanoseconds ≤ position.2.nanoseconds ∧
      (parts ≠ [] → position.2.nanoseconds < s.time.nanoseconds + parts.length)

namespace Playback
variable {s : Playback} {parts : List Nat}

/-- All frames are counted, and as long as the seconds have room, the time stamp has the time of each buffer. -/
structure Counts (s : Playback) (parts : List Nat) : Prop where
  frames : s.render.frames.toNat = parts.sum % 2 ^ 64
  time : parts.sum / s.attrs.sampleRate.toNat < 2 ^ 63 → ∃ sec nsec : Nat, s.time.tvSec.toInt = sec ∧ s.time.tvNSec.toInt = nsec ∧
    nsec < SEC_TO_NSEC ∧ sec * SEC_TO_NSEC + nsec = scaled SEC_TO_NSEC s.attrs.sampleRate.toNat parts

theorem Created.counts (created : s.Created) : Counts s [] := by
  refine ⟨by simp [created.1], fun _ => ⟨0, 0, ?_, ?_, by decide, by simp [scaled]⟩⟩
  · rw [created.2]
    rfl
  · rw [created.2]
    rfl

theorem toNat_pos (rate : s.attrs.sampleRate ≠ 0) : 0 < s.attrs.sampleRate.toNat := by
  refine Nat.pos_of_ne_zero fun zero => rate ?_
  rwa [← UInt32.toNat_inj]

theorem stream_step (rate : s.attrs.sampleRate ≠ 0) (e : FrameCall × Outside) : (s.step e).render.stream = s.render.stream := by
  have renders := renders e.2 e.1 rate
  rw [step]
  generalize audioRenderRenderFrame e.2 e.1 s = result at renders ⊢
  cases renders with
  | fails _ render _ => rw [render]
  | succeeds _ _ _ => rfl

theorem attrs_step (rate : s.attrs.sampleRate ≠ 0) (e : FrameCall × Outside) : (s.step e).attrs = s.attrs := by
  rw [attrs, stream_step rate e, attrs]

theorem scaled_lt {r : Nat} (positive : 0 < r) (parts : List Nat) (room : parts.sum / r < 2 ^ 63) :
    scaled SEC_TO_NSEC r parts < 2 ^ 63 * SEC_TO_NSEC := by
  refine Nat.lt_of_le_of_lt (scaled_le positive parts) ?_
  rw [Nat.div_lt_iff_lt_mul positive] at room ⊢
  rw [Nat.mul_right_comm]
  exact Nat.mul_lt_mul_of_pos_right room (by decide)

theorem Counts.step (counts : s.Counts parts) (rate : s.attrs.sampleRate ≠ 0) (e : FrameCall × Outside) :
    (s.step e).Counts (if s.Succeeds e then parts ++ [e.1.requestBytes.toNat / s.frameSize] else parts) := by
  have renders := renders e.2 e.1 rate
  have same := attrs_step rate e
  by_cases succeeds : s.Succeeds e
  · rw [if_pos succeeds]
    rw [Succeeds] at succeeds
    rw [Playback.step] at same ⊢
    generalize audioRenderRenderFrame e.2 e.1 s = result at renders same succeeds ⊢
    cases renders with
    | fails error _ _ => exact absurd succeeds error
    | @succeeds frameCount later inside counted stamped =>
      obtain ⟨part, few⟩ := pcmBytesToFrames_ok counted inside
      have positive := toNat_pos rate
      refine ⟨?_, ?_⟩
      · rw [UInt64.toNat_add, counts.frames, UInt32.toNat_toUInt64, part, sum_append, sum_singleton, Nat.mod_add_mod]
      · rw [same]
        intro room
        have fits := scaled_lt positive _ room
        rw [sum_append] at room
        obtain ⟨sec, nsec, seconds, nanos, normal, total⟩ :=
          counts.time (Nat.lt_of_le_of_lt (Nat.div_le_div_right (Nat.le_add_right _ _)) room)
        rw [scaled_append, ← part, ← UInt32.toNat_toUInt64 frameCount, ← total] at fits ⊢
        obtain ⟨after, sec', nsec', stamped', seconds', nanos', normal', total'⟩ :=
          timeToAudioTimeStamp_spec positive seconds nanos normal fits
        rw [stamped] at stamped'
        cases stamped'
        exact ⟨sec', nsec', seconds', nanos', normal', total'⟩
  · rw [if_neg succeeds]
    rw [Succeeds] at succeeds
    rw [Playback.step] at same ⊢
    generalize audioRenderRenderFrame e.2 e.1 s = result at renders same succeeds ⊢
    cases renders with
    | fails error render time =>
      refine ⟨?_, ?_⟩
      · rw [render]
        exact counts.frames
      · rw [same, time]
        exact counts.time
    | succeeds _ _ _ => exact absurd rfl succeeds

theorem Counts.run (counts : s.Counts parts) (rate : s.attrs.sampleRate ≠ 0) (calls : List (FrameCall × Outside)) :
    (calls.foldl Playback.step s).Counts (parts ++ s.rendered calls) ∧ (calls.foldl Playback.step s).attrs = s.attrs := by
  induction calls generalizing s parts with
  | nil => exact ⟨by simpa [rendered] using counts, rfl⟩
  | cons e calls ih =>
    have same := attrs_step rate e
    obtain ⟨later, unchanged⟩ := ih (counts.step rate e) (by rwa [same])
    refine ⟨?_, unchanged.trans same⟩
    rw [rendered]
    by_cases succeeds : s.Succeeds e
    · rw [if_pos succeeds] at later ⊢
      rwa [append_assoc] at later
    · rw [if_neg succeeds] at later ⊢
      exact later

theorem audioRenderGetMmapPosition_spec {o : Outside} {answered : UInt64} {places : Bool} {position : UInt64 × AudioTimeStamp}
    {later : Playback} (rate : s.attrs.sampleRate ≠ 0) (room : answered.toNat / s.attrs.sampleRate.toNat < 2 ^ 63)
    (gives : audioRenderGetMmapPosition o answered places s = some (AUDIO_HAL_SUCCESS, some position, later)) :
    position.1 = answered ∧ position.2.nanoseconds = (answered.toNat * SEC_TO_NSEC / s.attrs.sampleRate.toNat : Nat) := by
  have positive := toNat_pos rate
  have size := s.attrs.sampleRate.toNat_lt
  have notZero : s.attrs.sampleRate.toUInt64 ≠ 0 := by
    intro zero
    have bits := congrArg UInt64.toNat zero
    rw [UInt32.toNat_toUInt64] at bits
    exact positive.ne' bits
  unfold audioRenderGetMmapPosition at gives
  dsimp only at gives
  split_ifs at gives <;>
    simp only [Option.some.injEq, Prod.mk.injEq, reduceCtorEq, false_and, and_false] at gives
  obtain ⟨-, rfl, -⟩ := gives
  refine ⟨rfl, ?_⟩
  have rest := Nat.mod_lt answered.toNat positive
  have below : answered.toNat % s.attrs.sampleRate.toNat * SEC_TO_NSEC / s.attrs.sampleRate.toNat < SEC_TO_NSEC := by
    rw [Nat.div_lt_iff_lt_mul positive, Nat.mul_comm SEC_TO_NSEC]
    exact Nat.mul_lt_mul_of_pos_right rest (by decide)
  have nano : (UInt64.ofNat SEC_TO_NSEC).toNat = SEC_TO_NSEC := rfl
  have product : answered.toNat % s.attrs.sampleRate.toNat * SEC_TO_NSEC < 2 ^ 64 := by
    simp only [SEC_TO_NSEC]
    omega
  have whole : (answered / s.attrs.sampleRate.toUInt64).toNat = answered.toNat / s.attrs.sampleRate.toNat := by
    rw [UInt64.toNat_div, UInt32.toNat_toUInt64]
  have part : (answered % s.attrs.sampleRate.toUInt64 * .ofNat SEC_TO_NSEC / s.attrs.sampleRate.toUInt64).toNat =
      answered.toNat % s.attrs.sampleRate.toNat * SEC_TO_NSEC / s.attrs.sampleRate.toNat := by
    rw [UInt64.toNat_div, UInt64.toNat_mul, UInt64.toNat_mod, UInt32.toNat_toUInt64, nano, Nat.mod_eq_of_lt product]
  have small : answered.toNat % s.attrs.sampleRate.toNat * SEC_TO_NSEC / s.attrs.sampleRate.toNat < 2 ^ 63 :=
    Nat.lt_trans below (by decide)
  rw [AudioTimeStamp.nanoseconds, toInt_toInt64 (by rwa [whole]), toInt_toInt64 (by rwa [part]), whole, part,
    Floors.part_eq positive answered.toNat, Int.natCast_add, Int.natCast_mul]

theorem Counts.accounted (counts : s.Counts parts) (rate : s.attrs.sampleRate ≠ 0) (room : parts.sum < 2 ^ 64)
    (seconds : parts.sum / s.attrs.sampleRate.toNat < 2 ^ 63) : Accounted s parts := by
  have positive := toNat_pos rate
  have frames := counts.frames.trans (Nat.mod_eq_of_lt room)
  obtain ⟨sec, nsec, tvSec, tvNSec, normal, total⟩ := counts.time seconds
  have nanoseconds : s.time.nanoseconds = (scaled SEC_TO_NSEC s.attrs.sampleRate.toNat parts : Nat) := by
    rw [AudioTimeStamp.nanoseconds, tvSec, tvNSec, ← total, Int.natCast_add, Int.natCast_mul]
  have below : (s.attrs.sampleRate.toNat * scaled SEC_TO_NSEC s.attrs.sampleRate.toNat parts : Int) ≤
      parts.sum * SEC_TO_NSEC := by
    exact_mod_cast mul_scaled_le SEC_TO_NSEC s.attrs.sampleRate.toNat parts
  have above : (parts.sum * SEC_TO_NSEC : Int) ≤ s.attrs.sampleRate.toNat * scaled SEC_TO_NSEC s.attrs.sampleRate.toNat parts +
      parts.length * (s.attrs.sampleRate.toNat - 1) := by
    have within := @le_mul_scaled SEC_TO_NSEC s.attrs.sampleRate.toNat positive parts
    rw [← Int.natCast_pred_of_pos positive]
    exact_mod_cast within
  refine ⟨frames, by omega, ?_, ?_, ?_⟩
  · rw [frames, nanoseconds]
    omega
  · rw [frames, nanoseconds]
    omega
  · intro o places position later gives
    rw [(audioRenderGetMmapPosition_spec rate (by rwa [frames]) gives).2, nanoseconds, frames]
    refine ⟨Int.ofNat_le.mpr (scaled_le positive parts), fun some => ?_⟩
    exact_mod_cast lt_scaled_add positive some

/-- Frames are counted up to 64 bits, and within these the position is right. A call that fails does not move it. -/
theorem position_accounted (created : s.Created) (rate : s.attrs.sampleRate ≠ 0) (calls : List (FrameCall × Outside)) :
    (calls.foldl Playback.step s).render.frames.toNat = (s.rendered calls).sum % 2 ^ 64 ∧
      ((s.rendered calls).sum < 2 ^ 64 → (s.rendered calls).sum / s.attrs.sampleRate.toNat < 2 ^ 63 →
        Accounted (calls.foldl Playback.step s) (s.rendered calls)) ∧ ∀ e, ¬ (calls.foldl Playback.step s).Succeeds e →
        ((calls.foldl Playback.step s).step e).render.frames = (calls.foldl Playback.step s).render.frames ∧
          ((calls.foldl Playback.step s).step e).time = (calls.foldl Playback.step s).time := by
  obtain ⟨counts, attrs⟩ := created.counts.run rate calls
  rw [nil_append] at counts
  have rate' : (calls.foldl Playback.step s).attrs.sampleRate ≠ 0 := by rwa [attrs]
  refine ⟨counts.frames, fun room seconds => counts.accounted rate' room (by rwa [attrs]), ?_⟩
  intro e fails
  have renders := renders e.2 e.1 rate'
  rw [Succeeds] at fails
  rw [step]
  generalize audioRenderRenderFrame e.2 e.1 _ = result at renders fails ⊢
  cases renders with
  | fails _ render time => exact ⟨congrArg HwRender.frames render, time⟩
  | succeeds _ _ _ => exact absurd rfl fails

def monoRender : Playback where
  render := ⟨{ newStream with
    param.buffer := true
    param.attrs.format := AUDIO_FORMAT_PCM_8_BIT
    param.attrs.channelCount := 1 }, 0, 0⟩
  time := ⟨0, 0⟩
  bufferFrameSize := 0
  bufferSize := 0

def fullCall : FrameCall × Outside := (⟨true, true, false, 16384⟩, willing)

theorem fullCall_succeeds (same : s.render.stream = monoRender.render.stream) : s.Succeeds fullCall := by
  have rate : s.attrs.sampleRate ≠ 0 := by
    rw [attrs, same]
    decide
  have counted : pcmBytesToFrames s.attrs 16384 = .ok 16384 := by
    rw [attrs, same]
    decide
  have buffer : s.render.stream.param.buffer = true := by rw [same]; rfl
  have handle : s.render.stream.devDataHandle = true := by rw [same]; rfl
  obtain ⟨time, stamped⟩ := timeToAudioTimeStamp_isSome 16384 s.time rate
  rw [attrs] at counted rate stamped
  have accepts (later : Playback) (stays : later.render.stream = s.render.stream) :
      ¬ audioRenderRenderFramSplit willing later < 0 := by
    rw [audioRenderRenderFramSplit, stays, handle]
    decide
  have address : ¬ willing.checkAddr < 0 := by decide
  simp [Succeeds, audioRenderRenderFrame, fullCall, address, buffer, attrs, counted, rate, stamped, accepts, FRAME_DATA]

theorem rendered_full (same : s.render.stream = monoRender.render.stream) (n : Nat) :
    s.rendered (replicate n fullCall) = replicate n 16384 := by
  induction n generalizing s with
  | zero => rfl
  | succ n ih =>
    have rate : s.attrs.sampleRate ≠ 0 := by
      rw [attrs, same]
      decide
    have size : s.frameSize = 1 := by
      rw [frameSize, attrs, same]
      decide
    rw [replicate_succ, rendered, if_pos (fullCall_succeeds same), size, Nat.div_one,
      ih ((stream_step rate fullCall).trans same)]
    rfl

theorem played_accounted : Accounted ((replicate 2 fullCall).foldl Playback.step monoRender) [16384, 16384] := by
  have accounted := (position_accounted (s := monoRender) ⟨rfl, rfl⟩ (by decide) (replicate 2 fullCall)).2.1
  rw [rendered_full rfl 2] at accounted
  exact accounted (by decide) (by decide)

/-- The lag of no buffer at all is not below nothing, and after enough buffers the count begins again. -/
theorem frames_wrap : monoRender.Created ∧ monoRender.attrs.sampleRate ≠ 0 ∧
    ¬ (monoRender.render.frames.toNat * SEC_TO_NSEC : Int) - monoRender.attrs.sampleRate.toNat * monoRender.time.nanoseconds <
      (monoRender.rendered []).length * monoRender.attrs.sampleRate.toNat ∧
    (monoRender.rendered (replicate (2 ^ 50) fullCall)).sum = 2 ^ 64 ∧
    ((replicate (2 ^ 50) fullCall).foldl Playback.step monoRender).render.frames.toNat = 0 := by
  have rendered := rendered_full (s := monoRender) rfl (2 ^ 50)
  have created : monoRender.Created := ⟨rfl, rfl⟩
  have rate : monoRender.attrs.sampleRate ≠ 0 := by decide
  have total : (monoRender.rendered (replicate (2 ^ 50) fullCall)).sum = 2 ^ 64 := by
    rw [rendered, sum_replicate_nat]
    omega
  have counts := (created.counts.run rate (replicate (2 ^ 50) fullCall)).1.frames
  rw [nil_append, total, Nat.mod_self] at counts
  exact ⟨created, rate, by decide, total, counts⟩

end Playback

end Peripheral.AudioHal
