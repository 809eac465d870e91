import Peripheral.MetadataOps
import Peripheral.Transitions
import Peripheral.UsbSerial

/-!
The control requests of the serial gadget, `cdcacm.c`. A request is taken from the pool
before the setup packet is looked at; it comes back when the controller completes it,
and so only if it was submitted.
-/
namespace Peripheral.Acm
open Peripheral.Transitions
open Peripheral.UsbSerial (RequestStatus)

def usbDdkCdcReqSetLineCoding : UInt8 := 0x20
def usbDdkCdcReqGetLineCoding : UInt8 := 0x21
def usbDdkCdcReqSetControlLineState : UInt8 := 0x22
def ctrlRequestNum : Nat := 2

/-- `UsbCdcLineCoding`, seven bytes without gaps. -/
structure LineCoding where
  dwDTERate : UInt32
  bCharFormat : UInt8
  bParityType : UInt8
  bDataBits : UInt8
  deriving DecidableEq

namespace LineCoding

def size : Nat := 7

def bytes (l : LineCoding) : List UInt8 :=
  [l.dwDTERate.toUInt8, (l.dwDTERate >>> 8).toUInt8, (l.dwDTERate >>> 16).toUInt8, (l.dwDTERate >>> 24).toUInt8,
    l.bCharFormat, l.bParityType, l.bDataBits]

def ofBytes (buf : List UInt8) : LineCoding :=
  let byte := fun i => buf.getD i 0
  ⟨(byte 0).toUInt32 ||| (byte 1).toUInt32 <<< 8 ||| (byte 2).toUInt32 <<< 16 ||| (byte 3).toUInt32 <<< 24,
    byte 4, byte 5, byte 6⟩

end LineCoding

/-- `UsbFnCtrlRequest`, as far as it is read. -/
structure CtrlSetup where
  request : UInt8
  value : UInt16
  length : UInt16
  deriving DecidableEq

/-- `UsbFnRequest` with the request code of its `CtrlInfo`. -/
structure CtrlRequest where
  address : Nat
  request : UInt8
  buf : List UInt8
  length : Nat
  deriving DecidableEq

/-- What `UsbAcmDevice` has for control requests, the line coding of its port, and the requests that are submitted. -/
structure Control where
  ctrlPool : List CtrlRequest
  ctrlReqNum : Int
  lineCoding : LineCoding
  portLineCoding : LineCoding
  handshakeBits : UInt16
  inFlight : List CtrlRequest
  deriving DecidableEq

namespace Control

/-- The loop of `AcmAllocCtrlRequests`; `answers` says of each round whether the info and the request are allocated. -/
def allocRounds (answers : Nat → Bool × Bool) : Nat → Nat → Control → Control
  | 0, _, a => a
  | rounds + 1, i, a =>
    if (answers i).1 && (answers i).2 then
      let req := ⟨i, 0, List.replicate (LineCoding.size + LineCoding.size) 0, 0⟩
      allocRounds answers rounds (i + 1) { a with ctrlPool := a.ctrlPool ++ [req], ctrlReqNum := a.ctrlReqNum + 1 }
    else a

def acmAllocCtrlRequests (answers : Nat → Bool × Bool) (num : Nat) (a : Control) : Control :=
  allocRounds answers num 0 { a with ctrlPool := [], ctrlReqNum := 0 }

/-- Only the requests in the pool are freed. -/
def acmFreeCtrlRequests (a : Control) : Control :=
  { a with ctrlPool := [], ctrlReqNum := a.ctrlReqNum - a.ctrlPool.length }

def acmGetCtrlReq (a : Control) : Option CtrlRequest × Control :=
  match a.ctrlPool with
  | [] => (none, a)
  | req :: pool => (some req, { a with ctrlPool := pool })

/-- The `switch` of `AcmSetup`: the request and its length, or nothing when the function returns. -/
def acmReply (a : Control) (req : CtrlRequest) (setup : CtrlSetup) : Option (CtrlRequest × Nat) × Control :=
  if setup.request = usbDdkCdcReqSetLineCoding then
    (some (req, if setup.length.toNat ≠ LineCoding.size then 0 else setup.length.toNat), a)
  else if setup.request = usbDdkCdcReqGetLineCoding then
    let ret := min setup.length.toNat LineCoding.size
    let a := if a.lineCoding.dwDTERate = 0 then { a with lineCoding := a.portLineCoding } else a
    if Metadata.securecOk ret ret then
      (some ({ req with buf := a.lineCoding.bytes.take ret ++ req.buf.drop ret }, ret), a)
    else (none, a)
  else if setup.request = usbDdkCdcReqSetControlLineState then
    (some (req, 0), { a with handshakeBits := setup.value })
  else (some (req, 0), a)

/-- A request that cannot be submitted is in no list any more. -/
def acmSetup (a : Control) (setup : CtrlSetup) (submitted : Bool) : Control :=
  match a.acmGetCtrlReq with
  | (none, a) => a
  | (some req, a) =>
    match a.acmReply req setup with
    | (none, a) => a
    | (some (req, ret), a) =>
      let req := { req with request := setup.request, length := ret }
      if submitted then { a with inFlight := a.inFlight ++ [req] } else a

def acmCtrlComplete (a : Control) (req : CtrlRequest) (status : RequestStatus) (actual : Nat) : Control :=
  let lineCoding :=
    if status = .completed ∧ req.request = usbDdkCdcReqSetLineCoding ∧ actual = LineCoding.size then .ofBytes req.buf
    else a.lineCoding
  { a with lineCoding := lineCoding, ctrlPool := a.ctrlPool ++ [req] }

inductive Event
  | setup (setup : CtrlSetup) (submitted : Bool)
  | complete (address : Nat) (status : RequestStatus) (actual : Nat) (buf : List UInt8)
  | free

def after (a : Control) : Event → Control
  | .setup setup submitted => a.acmSetup setup submitted
  | .complete address status actual buf =>
    match a.inFlight.find? fun req => req.address = address with
    | none => a
    | some req =>
      { a with inFlight := a.inFlight.erase req }.acmCtrlComplete { req with buf := buf } status actual
  | .free => a.acmFreeCtrlRequests

/-- The device that `AcmDriverBind` made, with the line coding of its port, when its requests were allocated. -/
def start (answers : Nat → Bool × Bool) (portLineCoding : LineCoding) : Control :=
  acmAllocCtrlRequests answers ctrlRequestNum ⟨[], 0, ⟨0, 0, 0, 0⟩, portLineCoding, 0, []⟩

def Conserved (a : Control) : Prop := (a.ctrlPool.length + a.inFlight.length : Int) = a.ctrlReqNum

/-- No request is lost, and there is none for a setup packet only while all of them are in flight. -/
def Right (a : Control) (e : Event) : Prop :=
  (a.after e).Conserved ∧ (a.ctrlPool = [] → (a.inFlight.length : Int) = a.ctrlReqNum)

/-- A setup packet that finds a request does not ask for no bytes of the line coding, and the answer is submitted. -/
def Careful (a : Control) : Event → Prop
  | .setup setup submitted =>
    a.ctrlPool = [] ∨ (submitted = true ∧ ¬ (setup.request = usbDdkCdcReqGetLineCoding ∧ setup.length = 0))
  | .complete .. | .free => True

section
variable {a : Control}

theorem acmReply_same (a : Control) (req : CtrlRequest) (setup : CtrlSetup) :
    (a.acmReply req setup).2.ctrlPool = a.ctrlPool ∧ (a.acmReply req setup).2.inFlight = a.inFlight ∧
      (a.acmReply req setup).2.ctrlReqNum = a.ctrlReqNum := by
  unfold acmReply
  dsimp only
  split
  · simp
  · split
    · split <;> split <;> simp
    · split <;> simp

theorem copied_iff (n : Nat) : Metadata.securecOk (min n LineCoding.size) (min n LineCoding.size) = true ↔ n ≠ 0 := by
  have small : min n LineCoding.size ≤ Metadata.securecMemMaxLen :=
    (Nat.min_le_right _ _).trans (by decide)
  have size : 0 < LineCoding.size := by decide
  simp only [Metadata.securecOk, small, decide_true, Bool.and_true, Nat.le_refl, decide_eq_true_eq]
  omega

theorem acmReply_none (a : Control) (req : CtrlRequest) (setup : CtrlSetup) :
    (a.acmReply req setup).1 = none ↔ setup.request = usbDdkCdcReqGetLineCoding ∧ setup.length = 0 := by
  have differs : usbDdkCdcReqSetLineCoding ≠ usbDdkCdcReqGetLineCoding := by decide
  have zero : setup.length = 0 ↔ setup.length.toNat = 0 := UInt16.toNat_inj.symm
  unfold acmReply
  simp only [copied_iff]
  by_cases set : setup.request = usbDdkCdcReqSetLineCoding
  · simp [set, differs]
  · rw [if_neg set]
    by_cases get : setup.request = usbDdkCdcReqGetLineCoding
    · rw [if_pos get]
      by_cases none : setup.length.toNat = 0
      · simp [get, zero, none]
      · simp [zero, none]
    · rw [if_neg get]
      split <;> simp [get]

theorem acmSetup_empty (empty : a.ctrlPool = []) (setup : CtrlSetup) (submitted : Bool) :
    a.acmSetup setup submitted = a := by simp [acmSetup, acmGetCtrlReq, empty]

theorem acmSetup_taken {req : CtrlRequest} {pool : List CtrlRequest} (pooled : a.ctrlPool = req :: pool)
    (setup : CtrlSetup) (submitted : Bool) :
    (a.acmSetup setup submitted).ctrlPool = pool ∧ (a.acmSetup setup submitted).ctrlReqNum = a.ctrlReqNum ∧
      (a.acmSetup setup submitted).inFlight.length = a.inFlight.length +
        if submitted = true ∧ ¬ (setup.request = usbDdkCdcReqGetLineCoding ∧ setup.length = 0) then 1 else 0 := by
  have same := acmReply_same { a with ctrlPool := pool } req setup
  have none := acmReply_none { a with ctrlPool := pool } req setup
  simp only [acmSetup, acmGetCtrlReq, pooled]
  cases reply : { a with ctrlPool := pool }.acmReply req setup with
  | mk answer a' =>
    rw [reply] at same none
    simp only at same none
    cases answer with
    | none =>
      have gone := none.mp rfl
      simp [same, gone]
    | some answer =>
      have asks : ¬ (setup.request = usbDdkCdcReqGetLineCoding ∧ setup.length = 0) := fun gone => nomatch none.mpr gone
      cases submitted <;> simp [same, asks]

theorem Conserved.complete (conserved : a.Conserved) (address : Nat) (status : RequestStatus) (actual : Nat)
    (buf : List UInt8) : (a.after (.complete address status actual buf)).Conserved := by
  cases found : a.inFlight.find? fun req => req.address = address with
  | none => simpa [after, found] using conserved
  | some req =>
    have member := List.mem_of_find?_eq_some found
    have shorter := List.length_erase_of_mem member
    have positive := List.length_pos_of_mem member
    simp only [Conserved, after, found, acmCtrlComplete, List.length_append, List.length_singleton] at conserved ⊢
    omega

theorem Conserved.free (conserved : a.Conserved) : (a.after .free).Conserved := by
  simp only [Conserved, after, acmFreeCtrlRequests, List.length_nil] at conserved ⊢
  omega

theorem Conserved.dropped (conserved : a.Conserved) (empty : a.ctrlPool = []) : (a.inFlight.length : Int) = a.ctrlReqNum := by
  simpa [Conserved, empty] using conserved

theorem right_iff (conserved : a.Conserved) (e : Event) : a.Right e ↔ a.Careful e := by
  have dropped := conserved.dropped
  cases e with
  | complete address status actual buf =>
    exact ⟨fun _ => trivial, fun _ => ⟨conserved.complete address status actual buf, dropped⟩⟩
  | free => exact ⟨fun _ => trivial, fun _ => ⟨conserved.free, dropped⟩⟩
  | setup setup submitted =>
    cases pooled : a.ctrlPool with
    | nil =>
      have same := acmSetup_empty pooled setup submitted
      simp only [Right, Careful, after, same]
      exact ⟨fun _ => .inl pooled, fun _ => ⟨conserved, dropped⟩⟩
    | cons req pool =>
      obtain ⟨left, number, flight⟩ := acmSetup_taken pooled setup submitted
      simp only [Conserved, pooled, List.length_cons] at conserved
      simp only [Right, Careful, Conserved, after, left, number, flight, pooled]
      by_cases answered : submitted = true ∧ ¬ (setup.request = usbDdkCdcReqGetLineCoding ∧ setup.length = 0)
      · rw [if_pos answered]
        constructor
        · exact fun _ => .inr answered
        · intro _
          exact ⟨by omega, nofun⟩
      · rw [if_neg answered]
        constructor
        · intro right
          omega
        · rintro (empty | done)
          · cases empty
          · exact absurd done answered

end

theorem allocRounds_conserved (answers : Nat → Bool × Bool) (rounds i : Nat) {a : Control} (conserved : a.Conserved) :
    (allocRounds answers rounds i a).Conserved := by
  induction rounds generalizing i a with
  | zero => exact conserved
  | succ rounds ih =>
    rw [allocRounds]
    split
    · apply ih
      simp only [Conserved, List.length_append, List.length_singleton] at conserved ⊢
      omega
    · exact conserved

theorem start_conserved (answers : Nat → Bool × Bool) (portLineCoding : LineCoding) :
    (start answers portLineCoding).Conserved := by
  apply allocRounds_conserved
  simp [Conserved]

/-- In every run no control request is lost exactly while each setup packet that finds a request asks for some bytes, and
its answer is submitted. -/
theorem control_right (answers : Nat → Bool × Bool) (portLineCoding : LineCoding) (run : List Event) :
    Takes after Right (start answers portLineCoding) run ↔ Takes after Careful (start answers portLineCoding) run :=
  Takes.congr (fun _ e conserved => right_iff conserved e) (fun _ _ _ right => right.1) (start_conserved answers portLineCoding)

/-- Twice the host asks for no bytes of the line coding, and no request is left. -/
theorem empty_reads_not_right : ¬ Takes after Right (start (fun _ => (true, true)) ⟨9600, 0, 0, 8⟩)
      [.setup ⟨usbDdkCdcReqGetLineCoding, 0, 0⟩ true, .setup ⟨usbDdkCdcReqGetLineCoding, 0, 0⟩ true] := by
  rintro ⟨⟨conserved, _⟩, _⟩
  exact absurd conserved (by unfold Conserved; decide)

end Control

end Peripheral.Acm
