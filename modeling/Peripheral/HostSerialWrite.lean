import Mathlib.Data.List.FinRange
import Peripheral.Transitions

/-!
The write buffers of the serial driver of the host, from `usb_serial.c`. A command takes a buffer that is not in use, fills it
and submits its request, and the completion of the request gives the buffer back. The port is open, so that its pipe is there.
-/
namespace Peripheral.HostSerialWrite
open Function Transitions

def ACM_NW := 16

/-- A write buffer, with what its memory holds. -/
structure AcmWb where
  use : Bool
  len : Nat
  buf : List UInt8
  deriving DecidableEq

structure AcmDevice where
  wb : Fin ACM_NW → AcmWb
  writeSize : Nat
  inFlight : Fin ACM_NW → Bool

inductive Reply
  | noWriteBuf
  | failure
  | io
  | size (n : Nat)
  deriving DecidableEq

namespace AcmDevice

def put (acm : AcmDevice) (i : Fin ACM_NW) (wb : AcmWb) : AcmDevice := { acm with wb := update acm.wb i wb }

def setUse (acm : AcmDevice) (i : Fin ACM_NW) (use : Bool) : AcmDevice := acm.put i { acm.wb i with use := use }

def setInFlight (acm : AcmDevice) (i : Fin ACM_NW) (away : Bool) : AcmDevice :=
  { acm with inFlight := update acm.inFlight i away }

end AcmDevice

def acmWbAlloc (acm : AcmDevice) : Option (Fin ACM_NW × AcmDevice) :=
  match (List.finRange ACM_NW).find? fun i => !(acm.wb i).use with
  | some i => some (i, acm.put i { acm.wb i with use := true, len := 0 })
  | none => none

def acmWbIsAvail (acm : AcmDevice) : Nat := ACM_NW - (List.finRange ACM_NW).countP fun i => (acm.wb i).use

def copyText (acm : AcmDevice) (i : Fin ACM_NW) (text : List UInt8) : Nat × AcmDevice :=
  let size := if text.length + 1 > acm.writeSize then acm.writeSize else text.length + 1
  (size, acm.put i { acm.wb i with len := size, buf := (text ++ [0]).take size ++ (acm.wb i).buf.drop size })

def acmStartWb (acm : AcmDevice) (i : Fin ACM_NW) (fills submits : Bool) : AcmDevice :=
  if !fills then acm
  else if !submits then acm.setUse i false
  else acm.setInFlight i true

/-- The request is completed when the submission returns. -/
def acmStartWbSync (acm : AcmDevice) (i : Fin ACM_NW) (fills _submits : Bool) : AcmDevice :=
  if !fills then acm else acm.setUse i false

def serialWrite (acm : AcmDevice) (text : Option (List UInt8)) (fills submits : Bool) : Reply × Option (Fin ACM_NW) × AcmDevice :=
  if acmWbIsAvail acm = 0 then (.noWriteBuf, none, acm)
  else
    match acmWbAlloc acm with
    | none => (.failure, none, acm)
    | some (i, acm) =>
      match text with
      | none => (.io, none, acm)
      | some text =>
        let (size, acm) := copyText acm i text
        (.size size, some i, acmStartWb acm i fills submits)

/-- Without a free buffer this one takes the first. -/
def serialWriteSync (acm : AcmDevice) (text : Option (List UInt8)) (fills submits : Bool) : Reply × Option (Fin ACM_NW) × AcmDevice :=
  if acmWbIsAvail acm = 0 then (.noWriteBuf, none, acm)
  else
    let (i, acm) := (acmWbAlloc acm).getD (⟨0, by decide⟩, acm)
    match text with
    | none => (.io, none, acm)
    | some text =>
      let (size, acm) := copyText acm i text
      (.size size, some i, acmStartWbSync acm i fills submits)

def acmWriteBulk (acm : AcmDevice) (i : Fin ACM_NW) (status : Int32) : AcmDevice :=
  if status = 0 then acm.setUse i false else acm

inductive Event
  | write (text : Option (List UInt8)) (fills submits : Bool)
  | writeSync (text : Option (List UInt8)) (fills submits : Bool)
  | complete (i : Fin ACM_NW) (status : Int32)

/-- The reply of a command, the buffer that it has filled, and the device. Only what is in flight is completed. -/
def handle (acm : AcmDevice) : Event → Option Reply × Option (Fin ACM_NW) × AcmDevice
  | .write text fills submits =>
    let (reply, filled, acm) := serialWrite acm text fills submits
    (some reply, filled, acm)
  | .writeSync text fills submits =>
    let (reply, filled, acm) := serialWriteSync acm text fills submits
    (some reply, filled, acm)
  | .complete i status =>
    (none, none, if acm.inFlight i then acmWriteBulk (acm.setInFlight i false) i status else acm)

def step (acm : AcmDevice) (e : Event) : AcmDevice := (handle acm e).2.2

/-- Exactly the buffers whose requests are in flight are in use. -/
def Kept (acm : AcmDevice) : Prop := ∀ i, (acm.wb i).use = acm.inFlight i

/-- The flags are right after the event; a command is refused only if all requests are in flight, and it fills no buffer whose
    request is. -/
structure Right (acm : AcmDevice) (e : Event) : Prop where
  kept : Kept (step acm e)
  refused : (handle acm e).1 = some .noWriteBuf → ∀ i, acm.inFlight i
  fresh : ∀ i, (handle acm e).2.1 = some i → acm.inFlight i = false

/-- A command that gets a buffer has a string, and its request is filled in; a request is completed without an error. -/
def Fine (acm : AcmDevice) : Event → Prop
  | .write text fills _ | .writeSync text fills _ => (∀ i, acm.inFlight i) ∨ (text.isSome ∧ fills)
  | .complete i status => acm.inFlight i → status = 0

def taken (acm : AcmDevice) (i : Fin ACM_NW) : AcmDevice := acm.put i { acm.wb i with use := true, len := 0 }

section
variable {acm : AcmDevice}

theorem avail_zero : acmWbIsAvail acm = 0 ↔ ∀ i, (acm.wb i).use := by
  have all := List.countP_eq_length (p := fun i => (acm.wb i).use) (l := List.finRange ACM_NW)
  have most := List.countP_le_length (p := fun i => (acm.wb i).use) (l := List.finRange ACM_NW)
  rw [List.length_finRange] at all most
  simp only [List.mem_finRange, true_implies] at all
  rw [acmWbIsAvail, ← all]
  omega

theorem alloc_some (free : ¬∀ i, (acm.wb i).use) : ∃ i, (acm.wb i).use = false ∧ acmWbAlloc acm = some (i, taken acm i) := by
  rw [acmWbAlloc]
  cases found : (List.finRange ACM_NW).find? fun i => !(acm.wb i).use with
  | none =>
    refine absurd (fun i => ?_) free
    simpa using List.find?_eq_none.mp found i (List.mem_finRange i)
  | some i => exact ⟨i, by simpa using List.find?_some found, rfl⟩

section
variable (kept : Kept acm)
include kept

theorem Kept.all : (∀ i, (acm.wb i).use) ↔ ∀ i, acm.inFlight i :=
  forall_congr' fun i => by rw [kept i]

variable {i : Fin ACM_NW}

theorem kept_iff {acm' : AcmDevice}
    (others : ∀ j, j ≠ i → (acm'.wb j).use = (acm.wb j).use ∧ acm'.inFlight j = acm.inFlight j) :
    Kept acm' ↔ (acm'.wb i).use = acm'.inFlight i := by
  constructor
  · intro all
    exact all i
  · intro same j
    by_cases here : j = i
    · rw [here]
      exact same
    · rw [(others j here).1, (others j here).2]
      exact kept j

/-- The commands alike: what starts the request decides what becomes of the flag. -/
theorem start_kept (free : (acm.wb i).use = false) (text : List UInt8) (fills submits : Bool) :
    (Kept (acmStartWb (copyText (taken acm i) i text).2 i fills submits) ↔ fills) ∧
    (Kept (acmStartWbSync (copyText (taken acm i) i text).2 i fills submits) ↔ fills) := by
  have away : acm.inFlight i = false := by rw [← kept i, free]
  refine ⟨(kept_iff kept (i := i) fun j other => ?_).trans ?_, (kept_iff kept (i := i) fun j other => ?_).trans ?_⟩
  · cases fills <;> cases submits <;>
      simp [acmStartWb, copyText, taken, AcmDevice.put, AcmDevice.setUse, AcmDevice.setInFlight, update_of_ne other]
  · cases fills <;> cases submits <;>
      simp [acmStartWb, copyText, taken, AcmDevice.put, AcmDevice.setUse, AcmDevice.setInFlight, away]
  · cases fills <;> simp [acmStartWbSync, copyText, taken, AcmDevice.put, AcmDevice.setUse, update_of_ne other]
  · cases fills <;> simp [acmStartWbSync, copyText, taken, AcmDevice.put, AcmDevice.setUse, away]

theorem leaked (free : (acm.wb i).use = false) : ¬Kept (taken acm i) := by
  intro all
  have here := all i
  simp only [taken, AcmDevice.put, update_self] at here
  rw [← kept i, free] at here
  cases here

/-- A command either is refused for lack of buffers, or takes one that is free: then it has no string, or it fills the buffer, and
    the flag is right exactly if the request could be filled in. -/
theorem command_iff {e : Event} {text : Option (List UInt8)} {fills : Bool}
    (fine : Fine acm e ↔ (∀ i, acm.inFlight i) ∨ (text.isSome ∧ fills))
    (full : acmWbIsAvail acm = 0 → handle acm e = (some .noWriteBuf, none, acm))
    (free : ∀ i, acmWbIsAvail acm ≠ 0 → (acm.wb i).use = false → acmWbAlloc acm = some (i, taken acm i) →
      (text = none → handle acm e = (some .io, none, taken acm i)) ∧
      (text ≠ none → ∃ n acm', handle acm e = (some (.size n), some i, acm') ∧ (Kept acm' ↔ fills))) :
    Right acm e ↔ Fine acm e := by
  rw [fine]
  by_cases all : ∀ i, (acm.wb i).use
  · have refused := full (avail_zero.mpr all)
    refine iff_of_true ⟨?_, fun _ => kept.all.mp all, ?_⟩ (Or.inl (kept.all.mp all))
    · rw [step, refused]
      exact kept
    · rw [refused]
      intro i none
      cases none
  · obtain ⟨i, unused, allocated⟩ := alloc_some all
    obtain ⟨missing, there⟩ := free i (fun zero => all (avail_zero.mp zero)) unused allocated
    have some : ¬∀ i, acm.inFlight i := fun away => all (kept.all.mpr away)
    by_cases none : text = none
    · refine iff_of_false (fun right => leaked kept unused ?_) (by simp [some, none])
      have after := right.kept
      rwa [step, missing none] at after
    · obtain ⟨n, acm', is, started⟩ := there none
      have present : text.isSome := Option.isSome_iff_ne_none.mpr none
      simp only [some, present, true_and, false_or]
      rw [← started]
      constructor
      · intro right
        have after := right.kept
        rwa [step, is] at after
      · intro after
        refine ⟨by rwa [step, is], ?_, ?_⟩
        · rw [is]
          intro none
          cases none
        · rw [is]
          rintro j ⟨⟩
          rw [← kept i, unused]

theorem write_iff (text : Option (List UInt8)) (fills submits : Bool) :
    Right acm (.write text fills submits) ↔ Fine acm (.write text fills submits) := by
  refine command_iff kept Iff.rfl (fun zero => by simp only [handle, serialWrite, zero, if_true]) fun i room free allocated => ?_
  constructor
  · rintro rfl
    simp only [handle, serialWrite, room, if_false, allocated]
  · intro there
    obtain ⟨string, rfl⟩ := Option.ne_none_iff_exists'.mp there
    refine ⟨(copyText (taken acm i) i string).1, _, ?_, (start_kept kept free string fills submits).1⟩
    simp only [handle, serialWrite, room, if_false, allocated]

theorem writeSync_iff (text : Option (List UInt8)) (fills submits : Bool) :
    Right acm (.writeSync text fills submits) ↔ Fine acm (.writeSync text fills submits) := by
  refine command_iff kept Iff.rfl (fun zero => by simp only [handle, serialWriteSync, zero, if_true]) fun i room free allocated => ?_
  constructor
  · rintro rfl
    simp only [handle, serialWriteSync, room, if_false, allocated, Option.getD_some]
  · intro there
    obtain ⟨string, rfl⟩ := Option.ne_none_iff_exists'.mp there
    refine ⟨(copyText (taken acm i) i string).1, _, ?_, (start_kept kept free string fills submits).2⟩
    simp only [handle, serialWriteSync, room, if_false, allocated, Option.getD_some]

theorem complete_iff (i : Fin ACM_NW) (status : Int32) : Right acm (.complete i status) ↔ Fine acm (.complete i status) := by
  have quiet : ∀ holds : Prop, (holds ↔ Fine acm (.complete i status)) → (Kept (step acm (.complete i status)) ↔ holds) →
      (Right acm (.complete i status) ↔ Fine acm (.complete i status)) := fun holds fine after =>
    ⟨fun right => fine.mp (after.mp right.kept), fun ok => ⟨after.mpr (fine.mpr ok), by simp [handle], by simp [handle]⟩⟩
  by_cases away : acm.inFlight i
  · refine quiet (status = 0) (by simp [Fine, away]) ((kept_iff kept (i := i) fun j other => ?_).trans ?_)
    · by_cases success : status = 0 <;>
        simp [step, handle, acmWriteBulk, away, success, AcmDevice.setInFlight, AcmDevice.setUse, AcmDevice.put, update_of_ne other]
    · have used : (acm.wb i).use = true := by rw [kept i, away]
      by_cases success : status = 0 <;>
        simp [step, handle, acmWriteBulk, away, success, AcmDevice.setInFlight, AcmDevice.setUse, AcmDevice.put, used]
  · refine quiet True (by simp [Fine, away]) ?_
    simpa [step, handle, away] using kept

/-- An event is right exactly if it is fine, once the flags are right. -/
theorem right_iff_fine (e : Event) : Right acm e ↔ Fine acm e := by
  cases e with
  | write text fills submits => exact write_iff kept text fills submits
  | writeSync text fills submits => exact writeSync_iff kept text fills submits
  | complete i status => exact complete_iff kept i status

end

end

def start (writeSize : Nat) (buf : Fin ACM_NW → List UInt8) : AcmDevice := ⟨fun i => ⟨false, 0, buf i⟩, writeSize, fun _ => false⟩

/-- Each event of a run is right exactly if each is fine. -/
theorem writes_right (writeSize : Nat) (buf : Fin ACM_NW → List UInt8) (events : List Event) :
    Takes step Right (start writeSize buf) events ↔ Takes step Fine (start writeSize buf) events := by
  have kept : Kept (start writeSize buf) := fun _ => rfl
  have keeps : ∀ acm e, Kept acm → Right acm e → Kept (step acm e) := fun _ _ _ right => right.kept
  exact Takes.congr (fun _ e kept => right_iff_fine kept e) keeps kept

/-- A command without a string keeps the buffer. -/
theorem writes_wrong : ¬Takes step Right (start 512 fun _ => []) [.write none true true] := by
  intro taken
  have fine := (right_iff_fine (fun _ => rfl) _).mp taken.1
  simp only [Fine, start, Bool.false_eq_true, Option.isSome_none, false_and, or_false] at fine
  exact fine ⟨0, by decide⟩

end Peripheral.HostSerialWrite
