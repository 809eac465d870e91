import Mathlib.Algebra.BigOperators.Group.List.Lemmas
import Peripheral.UsbQueue

/-!
The requests of a USB host in `linux_adapter.c`: how a request is split into the URBs that are
submitted for it, how it is cancelled, and what is made of the URBs that are reaped. A pointer to
an URB is its number in the request. Memory that is asked for is there; of the block of an
isochronous URB `room` says how many frame descriptors it has behind the structure.
-/
namespace Peripheral.Usb.Host
open UsbQueue (UsbRequestStatus)

deriving instance DecidableEq for UsbRequestStatus

def maxBulkDataBufferLength : Nat := 4096
def maxIsoPacketsPerUrb : Nat := 128
def maxIsoDataBufferLen : Nat := 8 * 1024
def usbRawControlSetupSize : Nat := 8

/-! The capabilities of a device. -/

def usbAdapterCapBulkContinuation : UInt32 := 0x02
def usbAdapterCapNoPacketSizeLim : UInt32 := 0x04
def usbAdapterCapBulkScatterGather : UInt32 := 0x08

/-! What the kernel says of an URB is 0 or one of these with a minus. -/

def enoent : Int := 2
def enodev : Int := 19
def epipe : Int := 32
def eoverflow : Int := 75
def econnreset : Int := 104
def eshutdown : Int := 108
def eremoteio : Int := 121

inductive Hdf
  | success | failure | errInvalidParam | errIo | errBadFd | devErrNoDevice
  deriving DecidableEq

inductive RequestType
  | control | isochronous | bulk | interrupt
  deriving DecidableEq

/-- `UsbIsoPacketDesc`, with the status of a request or that of the kernel. -/
structure IsoPacketDesc (σ : Type) where
  length : Nat
  actualLength : Nat
  status : σ
  deriving DecidableEq

/-- `UsbAdapterUrb`; the buffer is where it begins in that of the request. -/
structure AdapterUrb where
  status : Int
  buffer : Nat
  bufferLength : Nat
  actualLength : Nat
  numberOfPackets : Nat
  isoFrameDesc : List (IsoPacketDesc Int)
  deriving DecidableEq

def AdapterUrb.zero : AdapterUrb := ⟨0, 0, 0, 0, 0, []⟩

/-- `UsbHostRequest`, with the URBs that `urbs` and `isoUrbs` point to. There are as many packet descriptors as
`numIsoPackets` says. -/
structure HostRequest where
  requestType : RequestType
  length : Nat
  actualLength : Nat
  status : UsbRequestStatus
  urbs : Option (List AdapterUrb)
  numUrbs : Nat
  numRetired : Nat
  reqStatus : UsbRequestStatus
  isoPacketOffset : Nat
  isoPacketDesc : List (IsoPacketDesc UsbRequestStatus)
  deriving DecidableEq

def HostRequest.numIsoPackets (r : HostRequest) : Nat := r.isoPacketDesc.length

def HostRequest.packetLengths (r : HostRequest) : List Nat := r.isoPacketDesc.map IsoPacketDesc.length

def adapterAllocRequest : HostRequest :=
  ⟨.control, 0, 0, .COMPLETED, some [.zero], 0, 0, .COMPLETED, 0, []⟩

/-- `RawFillControlRequest`, `RawFillBulkRequest`, `RawFillInterruptRequest` and `RawFillIsoRequest`, with the packets as the
caller has set them. -/
def HostRequest.rawFill (r : HostRequest) (requestType : RequestType) (length : Nat)
    (packets : List (IsoPacketDesc UsbRequestStatus)) : HostRequest :=
  { r with requestType := requestType, length := length, isoPacketDesc := packets }

/-- What the kernel does with a submission: it takes so many URBs, and refuses the next with `errno`. -/
structure Usbfs where
  caps : UInt32
  accepted : Nat
  errno : Int

def refusal (errno : Int) : Hdf := if errno = enodev then .devErrNoDevice else .errIo

def osSubmitControlRequest (usbfs : Usbfs) (r : HostRequest) : HostRequest × Hdf :=
  if r.length > maxBulkDataBufferLength then (r, .errInvalidParam)
  else
    let urb := { AdapterUrb.zero with bufferLength := r.length }
    let r := { r with urbs := some [urb], numUrbs := 1 }
    if usbfs.accepted < 1 then ({ r with urbs := none }, refusal usbfs.errno) else (r, .success)

def bulkBufferLen (caps : UInt32) (length : Nat) : Nat :=
  if caps &&& usbAdapterCapBulkScatterGather ≠ 0 then if length ≠ 0 then length else 1
  else if caps &&& usbAdapterCapBulkContinuation ≠ 0 then maxBulkDataBufferLength
  else if caps &&& usbAdapterCapNoPacketSizeLim ≠ 0 then if length ≠ 0 then length else 1
  else maxBulkDataBufferLength

def bulkNumUrbs (length bulkBufferLen : Nat) : Nat :=
  if length = 0 then 1
  else if length % bulkBufferLen > 0 then length / bulkBufferLen + 1
  else length / bulkBufferLen

def osSubmitBulkRequestHandleUrb (r : HostRequest) (bulkBufferLen number : Nat) : AdapterUrb :=
  let len := r.length % bulkBufferLen
  { AdapterUrb.zero with
    buffer := number * bulkBufferLen
    bufferLength := if number + 1 = r.numUrbs ∧ len ≠ 0 then len else bulkBufferLen }

def osSubmitBulkRequestHandle (usbfs : Usbfs) (r : HostRequest) : HostRequest × Hdf :=
  if r.numUrbs ≤ usbfs.accepted then (r, .success)
  else if usbfs.accepted = 0 then (r, .errIo)
  else
    let r := { r with numRetired := r.numRetired + (r.numUrbs - usbfs.accepted) }
    (if usbfs.errno ≠ eremoteio then { r with reqStatus := .ERROR } else r, .success)

def osSubmitBulkRequest (usbfs : Usbfs) (r : HostRequest) : HostRequest × Hdf :=
  if r.length > maxBulkDataBufferLength ∨ r.length = 0 then (r, .failure)
  else
    let len := bulkBufferLen usbfs.caps r.length
    let r := { r with numUrbs := bulkNumUrbs r.length len, numRetired := 0, reqStatus := .COMPLETED }
    let urbs := (List.range r.numUrbs).map (osSubmitBulkRequestHandleUrb r len)
    osSubmitBulkRequestHandle usbfs { r with urbs := some urbs }

/-- The loop of `OsAllocIsoUrbs` over the packets of one URB, with the packets that are left for it. The frame descriptors
behind the room of the block are outside of it. -/
def isoFrames (room : Nat) (packets : List Nat) : (left j packetIdx : Nat) → AdapterUrb → Option (Nat × AdapterUrb)
  | 0, _, packetIdx, urb => some (packetIdx, urb)
  | left + 1, j, packetIdx, urb => do
    let packetLen ← packets[packetIdx]?
    if j < room then
      isoFrames room packets left (j + 1) (packetIdx + 1)
        { urb with
          bufferLength := urb.bufferLength + packetLen
          isoFrameDesc := urb.isoFrameDesc ++ [⟨packetLen, 0, 0⟩] }
    else none

def allocIsoUrbs (room : Nat) (packets : List Nat) : (urbs packetIdx urbBuffer numPacketsLeft : Nat) →
    Option (List AdapterUrb)
  | 0, _, _, _ => some []
  | urbs + 1, packetIdx, urbBuffer, numPacketsLeft => do
    let numPackets := min numPacketsLeft maxIsoPacketsPerUrb
    let (packetIdx, urb) ← isoFrames room packets numPackets 0 packetIdx .zero
    let rest ← allocIsoUrbs room packets urbs packetIdx (urbBuffer + urb.bufferLength) (numPacketsLeft - numPackets)
    return { urb with numberOfPackets := numPackets, buffer := urbBuffer } :: rest

def osAllocIsoUrbs (room : Nat) (r : HostRequest) (numUrbs : Nat) : Option (List AdapterUrb) :=
  allocIsoUrbs room r.packetLengths numUrbs 0 0 r.numIsoPackets

/-- The kernel is taken to have the URBs that are submitted, although `ioctl` is given the structures and not their addresses. -/
def osSubmitIsoUrbs (usbfs : Usbfs) (r : HostRequest) (numUrbs : Nat) : HostRequest × Hdf :=
  if numUrbs ≤ usbfs.accepted then (r, .success)
  else if usbfs.accepted = 0 then ({ r with urbs := none }, refusal usbfs.errno)
  else
    let r := { r with reqStatus := .ERROR, numRetired := r.numRetired + (numUrbs - usbfs.accepted) }
    (if r.numRetired = numUrbs then { r with urbs := none } else r, .success)

/-- The first loop of `OsSubmitIsoRequest`: the length of all packets, unless one is too long. -/
def totalLen : (packets : List Nat) → (sum : Nat) → Option Nat
  | [], sum => some sum
  | packetLen :: packets, sum =>
    if packetLen > maxIsoDataBufferLen then none else totalLen packets ((sum + packetLen) % 2^32)

def HostRequest.isoNumUrbs (r : HostRequest) : Nat := (r.numIsoPackets + (maxIsoPacketsPerUrb - 1)) / maxIsoPacketsPerUrb

/-- `none` where it leaves the memory, or the number of URBs is no `int32_t`. -/
def osSubmitIsoRequest (room : Nat) (usbfs : Usbfs) (r : HostRequest) : Option (HostRequest × Hdf) :=
  if r.numIsoPackets < 1 then some (r, .errInvalidParam)
  else if r.length > maxIsoDataBufferLen then some (r, .failure)
  else
    match totalLen r.packetLengths 0 with
    | none => some (r, .errInvalidParam)
    | some totalLen =>
      if r.length < totalLen then some (r, .errInvalidParam)
      else if r.numIsoPackets + (maxIsoPacketsPerUrb - 1) ≥ 2^31 then none
      else do
        let urbs ← osAllocIsoUrbs room r r.isoNumUrbs
        let r := { r with urbs := some urbs, numUrbs := r.isoNumUrbs, numRetired := 0, isoPacketOffset := 0 }
        return osSubmitIsoUrbs usbfs r r.numUrbs

def adapterSubmitRequest (room : Nat) (usbfs : Usbfs) (r : HostRequest) : Option (HostRequest × Hdf) :=
  let r := { r with actualLength := 0 }
  match r.requestType with
  | .control => some (osSubmitControlRequest usbfs r)
  | .isochronous => osSubmitIsoRequest room usbfs r
  | .bulk | .interrupt => some (osSubmitBulkRequest usbfs r)

/-- The URBs are discarded in the kernel; what becomes of them is seen when they are reaped. -/
def adapterCancelRequest (r : HostRequest) : HostRequest × Hdf :=
  if r.urbs = none then (r, .errBadFd)
  else if r.requestType = .bulk ∧ r.reqStatus = .ERROR then (r, .success)
  else ({ r with reqStatus := .CANCELLED }, .success)

/-- What the kernel writes into an URB that has ended, and into its frames. -/
structure Report where
  status : Int
  actualLength : Nat
  frame : Nat → Nat × Int

def AdapterUrb.reaped (urb : AdapterUrb) (report : Report) : AdapterUrb :=
  { urb with
    status := report.status
    actualLength := report.actualLength
    isoFrameDesc := urb.isoFrameDesc.mapIdx fun j frame => ⟨frame.length, (report.frame j).1, (report.frame j).2⟩ }

/-- A request whose URB has been seen to, with the status that its callback was called with. -/
structure Reaped where
  request : HostRequest
  called : Option UsbRequestStatus
  ret : Hdf

def rawHandleRequestCompletion (r : HostRequest) (status : UsbRequestStatus) : Reaped :=
  ⟨{ r with status := status }, some status, .success⟩

def controlStatus (status : Int) : UsbRequestStatus :=
  if status = 0 then .COMPLETED
  else if status = -enoent then .CANCELLED
  else if status = -epipe then .STALL
  else if status = -eoverflow then .OVERFLOW
  else if status = -enodev ∨ status = -eshutdown then .NO_DEVICE
  else .ERROR

def osControlCompletion (r : HostRequest) (urb : AdapterUrb) : Reaped :=
  let r := { r with actualLength := r.actualLength + urb.actualLength }
  if r.reqStatus = .CANCELLED then rawHandleRequestCompletion { r with urbs := none } .CANCELLED
  else rawHandleRequestCompletion { r with urbs := none } (controlStatus urb.status)

def packetStatus (status : Int) : UsbRequestStatus :=
  if status = 0 then .COMPLETED
  else if status = -enodev ∨ status = -eshutdown then .NO_DEVICE
  else if status = -epipe then .STALL
  else if status = -eoverflow then .OVERFLOW
  else .ERROR

def IsoPacketDesc.ended (requestDesc : IsoPacketDesc UsbRequestStatus) (urbDesc : IsoPacketDesc Int) :
    IsoPacketDesc UsbRequestStatus :=
  { requestDesc with status := packetStatus urbDesc.status, actualLength := urbDesc.actualLength }

def desStatus (urb : AdapterUrb) : (left i : Nat) → HostRequest → Option HostRequest
  | 0, _, r => some r
  | left + 1, i, r => do
    let urbDesc ← urb.isoFrameDesc[i]?
    let requestDesc ← r.isoPacketDesc[r.isoPacketOffset]?
    desStatus urb left (i + 1)
      { r with
        isoPacketDesc := r.isoPacketDesc.set r.isoPacketOffset (requestDesc.ended urbDesc)
        isoPacketOffset := r.isoPacketOffset + 1 }

def osIsoRequestDesStatus (r : HostRequest) (urb : AdapterUrb) : Option HostRequest := desStatus urb urb.numberOfPackets 0 r

def isoStatus (status : Int) : UsbRequestStatus :=
  if status = -eshutdown then .NO_DEVICE
  else if ¬ (status = 0 ∨ status = -enoent ∨ status = -econnreset) then .ERROR
  else .COMPLETED

/-- The URB with the number `i`, which is looked up in `isoUrbs`. -/
def osIsoCompletion (r : HostRequest) (i : Nat) (urb : AdapterUrb) : Option Reaped :=
  if ¬ i < r.numUrbs then some ⟨r, none, .errBadFd⟩
  else do
    let r ← osIsoRequestDesStatus r urb
    let r := { r with numRetired := r.numRetired + 1 }
    if r.reqStatus ≠ .COMPLETED then
      if r.numRetired = r.numUrbs then return rawHandleRequestCompletion { r with urbs := none } .ERROR
      else return ⟨r, none, .success⟩
    else if r.numRetired = r.numUrbs then
      return rawHandleRequestCompletion { r with urbs := none } (isoStatus urb.status)
    else return ⟨r, none, .success⟩

/-- What is moved in the buffer is left out. -/
def osProcessAbnormalReap (r : HostRequest) (urb : AdapterUrb) : HostRequest × Hdf :=
  let r := if urb.actualLength > 0 then { r with actualLength := r.actualLength + urb.actualLength } else r
  (r, if r.numRetired = r.numUrbs then .success else .errIo)

def HostRequest.fails (r : HostRequest) (status : UsbRequestStatus) : HostRequest :=
  if r.reqStatus = .COMPLETED then { r with reqStatus := status } else r

def osUrbStatusToRequestStatus (r : HostRequest) (urb : AdapterUrb) : HostRequest × Hdf :=
  if urb.status = 0 then (r, .success)
  else if urb.status = -eshutdown then ({ r with reqStatus := .NO_DEVICE }, .devErrNoDevice)
  else if urb.status = -epipe then (r.fails .STALL, .devErrNoDevice)
  else if urb.status = -eoverflow then (r.fails .OVERFLOW, .failure)
  else (r.fails .ERROR, .devErrNoDevice)

def bulkCancel (r : HostRequest) : Reaped :=
  if r.numRetired = r.numUrbs then rawHandleRequestCompletion r r.reqStatus else ⟨r, none, .success⟩

def osBulkCompletion (r : HostRequest) (urb : AdapterUrb) : Reaped :=
  let r := { r with numRetired := r.numRetired + 1 }
  if r.reqStatus ≠ .COMPLETED then
    match osProcessAbnormalReap r urb with
    | (r, .success) => rawHandleRequestCompletion r r.reqStatus
    | (r, _) => ⟨r, none, .success⟩
  else
    match osUrbStatusToRequestStatus { r with actualLength := r.actualLength + urb.actualLength } urb with
    | (r, .devErrNoDevice) => bulkCancel r
    | (r, .failure) => rawHandleRequestCompletion r r.reqStatus
    | (r, _) =>
      if r.numRetired = r.numUrbs then rawHandleRequestCompletion r r.reqStatus
      else if urb.actualLength < urb.bufferLength then bulkCancel (r.fails .COMPLETED_SHORT)
      else ⟨r, none, .success⟩

/-- `AdapterUrbCompleteHandle` when it reaps the URB with this number. -/
def adapterUrbCompleteHandle (r : HostRequest) (i : Nat) (report : Report) : Option Reaped := do
  let urb ← r.urbs.bind (·[i]?)
  let urb := urb.reaped report
  match r.requestType with
  | .control => return osControlCompletion r urb
  | .isochronous => osIsoCompletion r i urb
  | .bulk | .interrupt => return osBulkCompletion r urb

variable {r : HostRequest} {urb : AdapterUrb}

theorem desStatus_eq {before these behind : List (IsoPacketDesc UsbRequestStatus)} {frames : List (IsoPacketDesc Int)} {i : Nat}
    (left : urb.isoFrameDesc.drop i = frames) (many : these.length = frames.length)
    (packets : r.isoPacketDesc = before ++ these ++ behind) (offset : r.isoPacketOffset = before.length) :
    desStatus urb frames.length i r = some { r with
      isoPacketDesc := before ++ List.zipWith IsoPacketDesc.ended these frames ++ behind
      isoPacketOffset := before.length + frames.length } := by
  induction frames generalizing i r before these with
  | nil =>
    have none : these = [] := by simpa using many
    subst none
    cases r
    simp_all [desStatus]
  | cons frame frames ih =>
    obtain ⟨packet, these, rfl⟩ : ∃ packet rest, these = packet :: rest := by
      cases these with
      | nil => simp at many
      | cons packet rest => exact ⟨packet, rest, rfl⟩
    have first : urb.isoFrameDesc[i]? = some frame := by
      have head := congrArg (·[0]?) left
      simpa using head
    have later : urb.isoFrameDesc.drop (i + 1) = frames := by
      rw [← List.drop_drop, left]
      rfl
    have there : r.isoPacketDesc[r.isoPacketOffset]? = some packet := by simp [packets, offset]
    have set : r.isoPacketDesc.set r.isoPacketOffset (packet.ended frame) = (before ++ [packet.ended frame]) ++ these ++ behind := by
      simp [packets, offset]
    have moved : r.isoPacketOffset + 1 = (before ++ [packet.ended frame]).length := by simp [offset]
    have next := ih (r := { r with
        isoPacketDesc := r.isoPacketDesc.set r.isoPacketOffset (packet.ended frame)
        isoPacketOffset := r.isoPacketOffset + 1 }) later (by simpa using many) set moved
    rw [List.length_cons, desStatus, first, there]
    simp only [Option.bind_eq_bind, Option.bind_some, next, List.length_append, List.length_singleton, List.zipWith_cons_cons,
      List.append_assoc, List.cons_append]
    congr 2
    omega

theorem osIsoRequestDesStatus_some (counted : urb.isoFrameDesc.length = urb.numberOfPackets)
    (inside : r.isoPacketOffset + urb.numberOfPackets ≤ r.isoPacketDesc.length) :
    ∃ packets, packets.length = r.isoPacketDesc.length ∧ osIsoRequestDesStatus r urb = some { r with
      isoPacketDesc := packets
      isoPacketOffset := r.isoPacketOffset + urb.numberOfPackets } := by
  let these := (r.isoPacketDesc.drop r.isoPacketOffset).take urb.numberOfPackets
  have many : these.length = urb.isoFrameDesc.length := by
    simp only [these, List.length_take, List.length_drop]
    omega
  have offset : (r.isoPacketDesc.take r.isoPacketOffset).length = r.isoPacketOffset := by
    rw [List.length_take]
    omega
  have parts : r.isoPacketDesc =
      r.isoPacketDesc.take r.isoPacketOffset ++ these ++ r.isoPacketDesc.drop (r.isoPacketOffset + urb.numberOfPackets) := by
    rw [List.append_assoc, ← List.drop_drop, List.take_append_drop, List.take_append_drop]
  have set := desStatus_eq (List.drop_zero ..) many parts offset.symm
  rw [counted, offset] at set
  refine ⟨_, ?_, set⟩
  simp only [List.length_append, List.length_zipWith, List.length_drop, offset, many]
  omega

/-- The status of a request whose last URB has ended with this one. -/
def HostRequest.isoResult (r : HostRequest) (status : Int) : UsbRequestStatus :=
  if r.reqStatus ≠ .COMPLETED then .ERROR else isoStatus status

variable {i : Nat} {later : HostRequest}

theorem osIsoCompletion_last (listed : i < r.numUrbs) (set : osIsoRequestDesStatus r urb = some later)
    (last : later.numRetired + 1 = later.numUrbs) :
    osIsoCompletion r i urb = some (rawHandleRequestCompletion
      { later with numRetired := later.numRetired + 1, urbs := none } (later.isoResult urb.status)) := by
  rw [osIsoCompletion, if_neg (not_not_intro listed), set]
  by_cases failed : later.reqStatus ≠ .COMPLETED
  · simp [failed, last, HostRequest.isoResult]
  · simp [failed, last, HostRequest.isoResult]

theorem osIsoCompletion_more (listed : i < r.numUrbs) (set : osIsoRequestDesStatus r urb = some later)
    (more : later.numRetired + 1 ≠ later.numUrbs) :
    osIsoCompletion r i urb = some ⟨{ later with numRetired := later.numRetired + 1 }, none, .success⟩ := by
  rw [osIsoCompletion, if_neg (not_not_intro listed), set]
  by_cases failed : later.reqStatus ≠ .COMPLETED
  · simp [failed, more]
  · simp [more]

end Peripheral.Usb.Host
