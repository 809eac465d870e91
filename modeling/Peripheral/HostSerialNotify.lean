import Peripheral.Bytes

/-!
The notifications that the serial driver of the host receives, from `usb_serial.c`. What an interrupt transfer carries may be
less than a notification; then it is put into a buffer of the device, which is kept and made larger as it is needed, and the
notification is read from there when all of it has come.
-/
namespace Peripheral.HostSerial
open Bytes List
open UInt32 (toNat_add le_iff_toNat_le lt_iff_toNat_lt)

/-- `sizeof(struct UsbCdcNotification)`. -/
def headerSize : UInt32 := 8

/-- What `memcpy_s` takes at most. -/
def SECUREC_MEM_MAX_LEN : Nat := 0x7fffffff

/-- A completed transfer: its buffer may hold more than what was received now. -/
structure UsbRequest where
  status : Int32
  actualLength : UInt32
  buffer : Mem

structure AcmDevice where
  nbSize : UInt32
  nbIndex : UInt32
  notificationBuffer : Block
  made : Nat
  processed : List Mem

inductive Dr
  | request
  | notification (made : Nat)

/-- The memory behind the pointer, unless it was freed or is too small for a header. -/
def Dr.view (dr : Dr) (req : UsbRequest) (acm : AcmDevice) : Option Mem :=
  match dr with
  | .request => some req.buffer
  | .notification made =>
    if made = acm.made ∧ headerSize.toNat ≤ acm.notificationBuffer.size then some acm.notificationBuffer.byte else none

/-- `memcpy_s` into a block. Where there is too little room for the copy, it clears that. -/
def memcpyS (b : Block) (dst destMax : Nat) (src : Mem) (count : Nat) : Option Block :=
  if destMax = 0 ∨ SECUREC_MEM_MAX_LEN < destMax then some b
  else if destMax < count then b.write dst destMax fun _ => 0
  else b.write dst count src

def grow (allocated : Bool) (expectedSize : UInt32) (acm : AcmDevice) : Bool × AcmDevice :=
  if acm.nbSize < expectedSize then
    if allocated then (true, { acm with nbSize := expectedSize, notificationBuffer := .zeroed expectedSize.toNat, made := acm.made + 1 })
    else (false, { acm with nbSize := 0, notificationBuffer := .zeroed 0, made := acm.made + 1 })
  else (true, acm)

def process (req : UsbRequest) (dr : Dr) (currentSize expectedSize : UInt32) (acm : AcmDevice) : Option AcmDevice :=
  if expectedSize ≤ currentSize then
    (dr.view req acm).map fun buf => { acm with processed := acm.processed ++ [buf], nbIndex := 0 }
  else some acm

def acmCtrlIrqCheckSize (allocated : Bool) (req : UsbRequest) (acm : AcmDevice) (dr : Dr) : Option (Bool × AcmDevice) := do
  let header ← dr.view req acm
  let expectedSize := headerSize + UInt32.ofNat (load header 6 2)
  if req.actualLength < expectedSize then
    match grow allocated expectedSize acm with
    | (false, acm) => pure (false, acm)
    | (true, acm) =>
      let left := expectedSize - acm.nbIndex
      let copySize := if req.actualLength < left then req.actualLength else left
      let buffer ← memcpyS acm.notificationBuffer acm.nbIndex.toNat (acm.nbSize - acm.nbIndex).toNat req.buffer copySize.toNat
      let acm := { acm with notificationBuffer := buffer, nbIndex := acm.nbIndex + copySize }
      let acm ← process req dr acm.nbIndex expectedSize acm
      pure (true, acm)
  else
    let acm ← process req dr req.actualLength expectedSize acm
    pure (true, acm)

def acmCtrlIrq (allocated : Bool) (req : UsbRequest) (acm : AcmDevice) : Option (Bool × AcmDevice) :=
  if req.status ≠ 0 then some (false, acm)
  else acmCtrlIrqCheckSize allocated req acm (if acm.nbIndex = 0 then .request else .notification acm.made)

def irqs : List UsbRequest → AcmDevice → Option AcmDevice
  | [], acm => some acm
  | req :: requests, acm => (acmCtrlIrq true req acm).bind fun result => irqs requests result.2

def UsbRequest.data (req : UsbRequest) : List UInt8 := bytes req.buffer req.actualLength.toNat

/-- The first bytes of a notification say how long it is. -/
def Notification (l : List UInt8) : Prop := l.length = 8 + load (fun i => l.getD i 0) 6 2

/-- Every transfer carries `p` bytes, but the last one carries the rest. -/
inductive Carries (p : Nat) : List UInt8 → List UsbRequest → Prop
  | last {t : UsbRequest} (good : t.status = 0) (short : t.data.length ≤ p) : Carries p t.data [t]
  | more {t : UsbRequest} {rest : List UInt8} {others : List UsbRequest} (good : t.status = 0) (full : t.data.length = p)
      (some : rest ≠ []) (carries : Carries p rest others) : Carries p (t.data ++ rest) (t :: others)

inductive CarriesAll (p : Nat) : List (List UInt8) → List UsbRequest → Prop
  | nil : CarriesAll p [] []
  | cons {l : List UInt8} {requests : List UsbRequest} {others : List (List UInt8)} {behind : List UsbRequest}
      (first : Carries p l requests) (rest : CarriesAll p others behind) : CarriesAll p (l :: others) (requests ++ behind)

def Starts (m : Mem) (l : List UInt8) : Prop := bytes m l.length = l

/-- The buffer is as long as the device says, and no longer than a notification can be. -/
structure AcmDevice.Sound (acm : AcmDevice) : Prop where
  size : acm.notificationBuffer.size = acm.nbSize.toNat
  bound : acm.nbSize.toNat < 8 + 65536

/-- The beginning of a notification is in the buffer, which has room for all of it. -/
structure Part (acm : AcmDevice) (before l : List UInt8) : Prop where
  sound : acm.Sound
  index : acm.nbIndex.toNat = before.length
  header : 8 ≤ before.length
  starts : Starts acm.notificationBuffer.byte before
  room : l.length ≤ acm.nbSize.toNat

section
variable {acm : AcmDevice} {t : UsbRequest} {l before rest : List UInt8}

theorem Starts.nil (m : Mem) : Starts m [] := rfl

theorem Starts.byte {m : Mem} (starts : Starts m l) {i : Nat} (inside : i < l.length) : m i = l.getD i 0 := by
  have there : i < (bytes m l.length).length := by simpa using inside
  have same : (bytes m l.length)[i]? = l[i]? := by rw [starts]
  rw [getElem?_eq_getElem there, bytes_getElem m there] at same
  rw [getD_eq_getElem?_getD, ← same, Option.getD_some]

theorem expected_size (notification : Notification l) {m : Mem} (starts : Starts m before) (header : 8 ≤ before.length)
    (whole : before ++ rest = l) : (headerSize + UInt32.ofNat (load m 6 2)).toNat = l.length := by
  have same : load m 6 2 = load (fun i => l.getD i 0) 6 2 := load_congr fun i inside => by
    rw [starts.byte (by omega), ← whole, getD_append _ _ _ _ (by omega)]
  have small := load_lt (fun i => l.getD i 0) 6 2
  rw [toNat_add, UInt32.toNat_ofNat', notification, same]
  have eight : headerSize.toNat = 8 := rfl
  omega

theorem Starts.patch {m src : Mem} (starts : Starts m before) {n : Nat} :
    Starts (patch m before.length n src) (before ++ bytes src n) := by
  have kept : bytes (Bytes.patch m before.length n src) before.length = bytes m before.length :=
    bytes_congr fun i inside => patch_outside (.inl inside)
  rw [Starts, length_append, bytes_length, bytes_add, bytes_patch, kept, starts]

theorem memcpyS_fits {b : Block} {dst destMax count : Nat} {src : Mem} (some : destMax ≠ 0) (small : destMax ≤ SECUREC_MEM_MAX_LEN)
    (fits : count ≤ destMax) (inside : dst + count ≤ b.size) :
    memcpyS b dst destMax src count = .some ⟨b.size, Bytes.patch b.byte dst count src⟩ := by
  rw [memcpyS, if_neg (by omega), if_neg (by omega), Block.write_inside inside]

def copied (acm : AcmDevice) (t : UsbRequest) : AcmDevice :=
  { acm with
    notificationBuffer :=
      ⟨acm.notificationBuffer.size, Bytes.patch acm.notificationBuffer.byte acm.nbIndex.toNat t.actualLength.toNat t.buffer⟩
    nbIndex := acm.nbIndex + t.actualLength }

variable {grown : AcmDevice}

theorem checkSize_copies {dr : Dr} {m : Mem} (there : dr.view t acm = some m) (sound : grown.Sound)
    (grows : grow true (headerSize + UInt32.ofNat (load m 6 2)) acm = (true, grown))
    (less : t.actualLength.toNat < (headerSize + UInt32.ofNat (load m 6 2)).toNat) (nonempty : 0 < t.actualLength.toNat)
    (fits : grown.nbIndex.toNat + t.actualLength.toNat ≤ (headerSize + UInt32.ofNat (load m 6 2)).toNat)
    (room : (headerSize + UInt32.ofNat (load m 6 2)).toNat ≤ grown.nbSize.toNat) : acmCtrlIrqCheckSize true t acm dr =
      (process t dr (copied grown t).nbIndex (headerSize + UInt32.ofNat (load m 6 2)) (copied grown t)).map (true, ·) := by
  rw [acmCtrlIrqCheckSize, there]
  simp only [Option.bind_eq_bind, Option.bind_some]
  generalize headerSize + UInt32.ofNat (load m 6 2) = expectedSize at *
  have bound := sound.bound
  have size := sound.size
  have left : (grown.nbSize - grown.nbIndex).toNat = grown.nbSize.toNat - grown.nbIndex.toNat :=
    UInt32.toNat_sub_of_le _ _ (le_iff_toNat_le.mpr (by omega))
  have lacks : (expectedSize - grown.nbIndex).toNat = expectedSize.toNat - grown.nbIndex.toNat :=
    UInt32.toNat_sub_of_le _ _ (le_iff_toNat_le.mpr (by omega))
  have copySize : (if t.actualLength < expectedSize - grown.nbIndex then t.actualLength else expectedSize - grown.nbIndex) =
      t.actualLength := by
    split
    · rfl
    · rename_i more
      rw [lt_iff_toNat_lt] at more
      rw [← UInt32.toNat_inj]
      omega
  have done : memcpyS grown.notificationBuffer grown.nbIndex.toNat (grown.nbSize - grown.nbIndex).toNat t.buffer t.actualLength.toNat = _ :=
    memcpyS_fits (by omega) (by rw [SECUREC_MEM_MAX_LEN]; omega) (by omega) (by omega)
  rw [if_pos (lt_iff_toNat_lt.mpr less), grows]
  simp only [copySize, done, Option.bind_some]
  rw [copied]
  cases process t dr _ expectedSize _ <;> rfl

theorem copied_starts (starts : Starts grown.notificationBuffer.byte before)
    (index : grown.nbIndex.toNat = before.length) : Starts (copied grown t).notificationBuffer.byte (before ++ t.data) := by
  rw [copied, index]
  exact starts.patch

theorem copied_sound (sound : grown.Sound) : (copied grown t).Sound := ⟨sound.size, sound.bound⟩

theorem copied_index (grown : AcmDevice) {t : UsbRequest} (fits : grown.nbIndex.toNat + t.actualLength.toNat < 8 + 65536) :
    (copied grown t).nbIndex.toNat = grown.nbIndex.toNat + t.actualLength.toNat := by
  rw [copied, toNat_add]
  omega

theorem length_notification (notification : Notification l) : l.length < 8 + 65536 := by
  have small := load_lt (fun i => l.getD i 0) 6 2
  rw [notification]
  omega

theorem irq_part (part : Part acm before l) (notification : Notification l) (whole : before ++ (t.data ++ rest) = l)
    (good : t.status = 0) (nonempty : t.data ≠ []) : ∃ acm', acmCtrlIrq true t acm = some (true, acm') ∧
      if rest = [] then acm'.Sound ∧ acm'.nbIndex = 0 ∧ ∃ m, acm'.processed = acm.processed ++ [m] ∧ Starts m l
      else Part acm' (before ++ t.data) l ∧ acm'.processed = acm.processed := by
  obtain ⟨sound, index, header, starts, room⟩ := part
  have expected := expected_size notification starts header whole
  have total := congrArg length whole
  have length : t.data.length = t.actualLength.toNat := bytes_length _ _
  have positive : 0 < t.data.length := length_pos_iff.mpr nonempty
  have short := length_notification notification
  simp only [length_append] at total
  have busy : acm.nbIndex ≠ 0 := fun zero => by
    rw [zero, UInt32.toNat_zero] at index
    omega
  have there : (Dr.notification acm.made).view t acm = some acm.notificationBuffer.byte :=
    if_pos ⟨rfl, by rw [sound.size]; exact Nat.le_trans (Nat.le_trans header (by omega)) room⟩
  have enough : grow true (headerSize + UInt32.ofNat (load acm.notificationBuffer.byte 6 2)) acm = (true, acm) := by
    rw [grow, if_neg]
    rw [lt_iff_toNat_lt]
    omega
  have filled := copied_index acm (t := t) (by omega)
  rw [acmCtrlIrq, if_neg (by simpa using good), if_neg busy,
    checkSize_copies there sound enough (by omega) (by omega) (by omega) (by omega), process]
  by_cases all : rest = []
  · subst all
    rw [if_pos (le_iff_toNat_le.mpr (by rw [length_nil] at total; omega))]
    have kept : (Dr.notification acm.made).view t (copied acm t) = some (copied acm t).notificationBuffer.byte :=
      if_pos ⟨rfl, by rw [(copied_sound sound).size]; exact Nat.le_trans (Nat.le_trans header (by omega)) room⟩
    rw [kept]
    refine ⟨_, rfl, ?_⟩
    rw [if_pos rfl]
    refine ⟨⟨sound.size, sound.bound⟩, rfl, _, rfl, ?_⟩
    rw [← whole, append_nil]
    exact copied_starts starts index
  · have left : 0 < rest.length := length_pos_iff.mpr all
    rw [if_neg (fun done => by rw [le_iff_toNat_le] at done; omega)]
    refine ⟨_, rfl, ?_⟩
    rw [if_neg all]
    refine ⟨⟨copied_sound sound, ?_, ?_, copied_starts starts index, room⟩, rfl⟩
    · rw [filled, index, length_append, length]
    · rw [length_append]
      omega

theorem grow_enough (sound : acm.Sound) {expectedSize : UInt32} (small : expectedSize.toNat < 8 + 65536) :
    ∃ grown, grow true expectedSize acm = (true, grown) ∧ grown.Sound ∧ grown.nbIndex = acm.nbIndex ∧
      expectedSize.toNat ≤ grown.nbSize.toNat ∧ grown.processed = acm.processed := by
  rw [grow]
  split
  · exact ⟨_, rfl, ⟨rfl, small⟩, rfl, Nat.le_refl _, rfl⟩
  · rename_i enough
    rw [lt_iff_toNat_lt, Nat.not_lt] at enough
    exact ⟨acm, rfl, sound, rfl, enough, rfl⟩

theorem irq_first (sound : acm.Sound) (free : acm.nbIndex = 0) (notification : Notification l) (whole : t.data ++ rest = l)
    (good : t.status = 0) (header : 8 ≤ t.data.length) : ∃ acm', acmCtrlIrq true t acm = some (true, acm') ∧
      if rest = [] then acm'.Sound ∧ acm'.nbIndex = 0 ∧ ∃ m, acm'.processed = acm.processed ++ [m] ∧ Starts m l
      else Part acm' t.data l ∧ acm'.processed = acm.processed := by
  have starts : Starts t.buffer t.data := by
    rw [Starts, UsbRequest.data, bytes_length]
  have expected := expected_size notification starts header whole
  have total := congrArg length whole
  have length : t.data.length = t.actualLength.toNat := bytes_length _ _
  have short := length_notification notification
  rw [length_append] at total
  have there : Dr.request.view t acm = some t.buffer := rfl
  rw [acmCtrlIrq, if_neg (by simpa using good), if_pos free]
  by_cases all : rest = []
  · subst all
    rw [append_nil] at whole
    rw [length_nil] at total
    rw [acmCtrlIrqCheckSize, there]
    simp only [Option.bind_eq_bind, Option.bind_some]
    rw [if_neg (by rw [lt_iff_toNat_lt]; omega), process, if_pos (le_iff_toNat_le.mpr (by omega)), there]
    refine ⟨_, rfl, ?_⟩
    rw [if_pos trivial]
    exact ⟨⟨sound.size, sound.bound⟩, rfl, _, rfl, whole ▸ starts⟩
  · obtain ⟨grown, grows, sound', index, room, processed⟩ := grow_enough sound (Nat.lt_of_le_of_lt (Nat.le_of_eq expected) short)
    have left : 0 < rest.length := length_pos_iff.mpr all
    have zero : grown.nbIndex.toNat = 0 := by rw [index, free]; rfl
    have filled := copied_index grown (t := t) (by omega)
    rw [checkSize_copies there sound' grows (by omega) (by omega) (by omega) room, process,
      if_neg (fun done => by rw [le_iff_toNat_le] at done; omega)]
    refine ⟨_, rfl, ?_⟩
    rw [if_neg all]
    refine ⟨⟨copied_sound sound', ?_, header, copied_starts (.nil _) zero, ?_⟩, processed⟩
    · rw [filled, zero, Nat.zero_add, length]
    · rw [← expected]
      exact room

/-- Exactly one buffer was processed, and it starts with the notification. -/
def Processed (acm acm' : AcmDevice) (l : List UInt8) : Prop :=
  acm'.Sound ∧ acm'.nbIndex = 0 ∧ ∃ m, acm'.processed = acm.processed ++ [m] ∧ Starts m l

theorem irqs_part {p : Nat} {requests : List UsbRequest} (carries : Carries p rest requests) (positive : 0 < p)
    (part : Part acm before l) (notification : Notification l) (whole : before ++ rest = l) (nonempty : rest ≠ []) :
    ∃ acm', irqs requests acm = some acm' ∧ Processed acm acm' l := by
  induction carries generalizing acm before with
  | last good _ =>
    obtain ⟨acm', run, done⟩ := irq_part part notification (by rwa [append_nil]) good nonempty
    rw [if_pos rfl] at done
    exact ⟨acm', by rw [irqs, run]; rfl, done⟩
  | more good full some _ ih =>
    obtain ⟨acm', run, goesOn⟩ := irq_part part notification whole good
      (length_pos_iff.mp (full ▸ positive))
    rw [if_neg some] at goesOn
    obtain ⟨acm'', others, sound, index, m, processed, starts⟩ := ih goesOn.1 (by rw [append_assoc]; exact whole) some
    exact ⟨acm'', by rw [irqs, run]; exact others, sound, index, m, by rw [processed, goesOn.2], starts⟩

theorem irqs_notification {p : Nat} {requests : List UsbRequest} (carries : Carries p l requests) (large : 8 ≤ p)
    (notification : Notification l) (sound : acm.Sound) (free : acm.nbIndex = 0) :
    ∃ acm', irqs requests acm = some acm' ∧ Processed acm acm' l := by
  have long : 8 ≤ l.length := by
    rw [notification]
    omega
  cases carries with
  | last good _ =>
    obtain ⟨acm', run, done⟩ := irq_first sound free notification (append_nil _) good long
    rw [if_pos rfl] at done
    exact ⟨acm', by rw [irqs, run]; rfl, done⟩
  | more good full some others =>
    obtain ⟨acm', run, goesOn⟩ := irq_first sound free notification rfl good (full ▸ large)
    rw [if_neg some] at goesOn
    obtain ⟨acm'', rest, done, index, m, processed, starts⟩ :=
      irqs_part others (Nat.lt_of_lt_of_le (by decide) large) goesOn.1 notification rfl some
    exact ⟨acm'', by rw [irqs, run]; exact rest, done, index, m, by rw [processed, goesOn.2], starts⟩

end

theorem irqs_append (requests behind : List UsbRequest) (acm : AcmDevice) :
    irqs (requests ++ behind) acm = (irqs requests acm).bind (irqs behind) := by
  induction requests generalizing acm with
  | nil => rfl
  | cons t requests ih =>
    rw [cons_append, irqs, irqs, Option.bind_assoc]
    congr 1
    funext result
    exact ih result.2

/-- However notifications are split, no copy leaves the buffer, each one is processed once and in order, from a buffer that
    starts with it, and then none is begun. -/
theorem notifications_processed {p : Nat} (large : 8 ≤ p) {notifications : List (List UInt8)} {requests : List UsbRequest}
    (carries : CarriesAll p notifications requests) (wellformed : ∀ l ∈ notifications, Notification l) {acm : AcmDevice}
    (sound : acm.Sound) (free : acm.nbIndex = 0) : ∃ acm' buffers, irqs requests acm = some acm' ∧ acm'.Sound ∧ acm'.nbIndex = 0 ∧
      acm'.processed = acm.processed ++ buffers ∧ List.Forall₂ Starts buffers notifications := by
  induction carries generalizing acm with
  | nil => exact ⟨acm, [], rfl, sound, free, (append_nil _).symm, .nil⟩
  | cons first _ ih =>
    obtain ⟨acm', run, sound', free', m, processed, starts⟩ :=
      irqs_notification first large (wellformed _ mem_cons_self) sound free
    obtain ⟨acm'', buffers, others, sound'', free'', rest, all⟩ :=
      ih (fun l among => wellformed l (mem_cons_of_mem _ among)) sound' free'
    refine ⟨acm'', m :: buffers, ?_, sound'', free'', ?_, .cons starts all⟩
    · rw [irqs_append, run]
      exact others
    · rw [rest, processed, append_assoc]
      rfl

def AcmDevice.start : AcmDevice := ⟨0, 0, .zeroed 0, 0, []⟩

def twoTransfers : UsbRequest × UsbRequest := (⟨0, 8, fun i => if i = 6 then 2 else 0⟩, ⟨0, 2, fun _ => 7⟩)

def oneTransfer : UsbRequest := ⟨0, 8, fun i => if i = 1 then 0x20 else 0⟩

/-- A notification in two transfers, one without data, and the first once more. -/
theorem notifications_processed_three : ∃ acm' buffers,
    irqs [twoTransfers.1, twoTransfers.2, oneTransfer, twoTransfers.1, twoTransfers.2] AcmDevice.start = some acm' ∧
      acm'.Sound ∧ acm'.nbIndex = 0 ∧ acm'.processed = [] ++ buffers ∧ List.Forall₂ Starts buffers
        [twoTransfers.1.data ++ twoTransfers.2.data, oneTransfer.data, twoTransfers.1.data ++ twoTransfers.2.data] := by
  have split : Carries 8 (twoTransfers.1.data ++ twoTransfers.2.data) [twoTransfers.1, twoTransfers.2] :=
    .more rfl rfl (by decide) (.last rfl (by decide))
  have whole : Carries 8 oneTransfer.data [oneTransfer] := .last rfl (by decide)
  exact notifications_processed (Nat.le_refl 8) (.cons split (.cons whole (.cons split .nil)))
    (by unfold Notification; decide) ⟨rfl, by decide⟩ rfl

end Peripheral.HostSerial
