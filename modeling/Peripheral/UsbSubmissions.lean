import Peripheral.UsbIsoSplit

/-!
What becomes of a submission of a request of a USB host: which URBs are in the kernel when it is
accepted, and what the callback is told when they have been reaped in any order.
-/
namespace Peripheral.Usb.Host
open UsbQueue (UsbRequestStatus)

def begins (requestType : RequestType) (inherited : UsbRequestStatus) : UsbRequestStatus :=
  match requestType with
  | .control | .isochronous => inherited
  | .bulk | .interrupt => .COMPLETED

/-- The status of a request as long as no URB has failed. -/
def standing (first : UsbRequestStatus) (cancelled refused : Bool) : UsbRequestStatus :=
  if cancelled then .CANCELLED else if refused then .ERROR else first

def bulkStatus (status : Int) : UsbRequestStatus :=
  if status = 0 then .COMPLETED
  else if status = -eshutdown then .NO_DEVICE
  else if status = -epipe then .STALL
  else if status = -eoverflow then .OVERFLOW
  else .ERROR

/-- What the callback is told, by the status of the request and that of its last URB. -/
def outcome (requestType : RequestType) (reqStatus : UsbRequestStatus) (status : Int) : UsbRequestStatus :=
  match requestType with
  | .control => if reqStatus = .CANCELLED then .CANCELLED else controlStatus status
  | .isochronous => if reqStatus ≠ .COMPLETED then .ERROR else isoStatus status
  | .bulk | .interrupt => if reqStatus ≠ .COMPLETED then reqStatus else bulkStatus status

def packetsAt (urbs : List AdapterUrb) (i : Nat) : Nat := (urbs[i]?.map AdapterUrb.numberOfPackets).getD 0

/-- A request some of whose URBs are in the kernel, as far as what is still to come depends on it. -/
structure InFlight (kind : RequestType) (stands : UsbRequestStatus) (refused : Bool) (own : List AdapterUrb)
    (flight : List Nat) (r : HostRequest) : Prop where
  requestType : r.requestType = kind
  reqStatus : r.reqStatus = stands
  urbs : r.urbs = some own
  numUrbs : r.numUrbs = own.length
  listed : ∀ i ∈ flight, i < own.length
  once : flight.Nodup
  left : kind ≠ .control → r.numRetired + flight.length = r.numUrbs
  alone : kind ≠ .isochronous → own.length = 1 ∧ refused = false
  counted : ∀ urb ∈ own, urb.isoFrameDesc.length = urb.numberOfPackets
  inside : kind = .isochronous → r.isoPacketOffset + (flight.map (packetsAt own)).sum ≤ r.isoPacketDesc.length

namespace InFlight
variable {kind : RequestType} {stands : UsbRequestStatus} {refused : Bool} {own : List AdapterUrb}
  {flight : List Nat} {r : HostRequest} {i : Nat}

section
variable (inFlight : InFlight kind stands refused own flight r)
include inFlight

theorem last (single : kind ≠ .isochronous) (there : i ∈ flight) : flight = [i] := by
  have one := (inFlight.alone single).1
  have below (j : Nat) (member : j ∈ flight) : j = 0 := by
    have listed := inFlight.listed j member
    omega
  have once := inFlight.once
  cases flight with
  | nil => simp at there
  | cons j rest =>
    have first := below j (by simp)
    have none : rest = [] := by
      rw [List.eq_nil_iff_forall_not_mem]
      intro k member
      have again := below k (by simp [member])
      rw [List.nodup_cons, first, ← again] at once
      exact once.1 member
    rw [first, none, below i there]

theorem cancel (bulk : kind = .bulk → stands ≠ .ERROR) :
    InFlight kind .CANCELLED refused own flight (adapterCancelRequest r).1 := by
  have some : r.urbs ≠ none := by simp [inFlight.urbs]
  have marked : ¬ (r.requestType = .bulk ∧ r.reqStatus = .ERROR) := by
    rw [inFlight.requestType, inFlight.reqStatus]
    exact fun ⟨same, error⟩ => bulk same error
  rw [adapterCancelRequest, if_neg some, if_neg marked]
  exact { inFlight with reqStatus := rfl }

theorem urb (there : i ∈ flight) : ∃ urb, own[i]? = some urb ∧ urb ∈ own ∧ r.urbs.bind (·[i]?) = some urb := by
  have listed := inFlight.listed i there
  refine ⟨own[i], List.getElem?_eq_getElem listed, List.getElem_mem listed, ?_⟩
  rw [inFlight.urbs, Option.bind_some, List.getElem?_eq_getElem listed]

end

end InFlight

section
variable {r : HostRequest} {urb : AdapterUrb}

theorem osControlCompletion_called : (osControlCompletion r urb).called = some (outcome .control r.reqStatus urb.status) := by
  rw [osControlCompletion]
  by_cases cancelled : r.reqStatus = .CANCELLED
  · simp [cancelled, rawHandleRequestCompletion, outcome]
  · simp [cancelled, rawHandleRequestCompletion, outcome]

theorem osUrbStatusToRequestStatus_eq (none : r.reqStatus = .COMPLETED) :
    ∃ ret, osUrbStatusToRequestStatus r urb = ({ r with reqStatus := bulkStatus urb.status }, ret) := by
  cases r
  cases none
  rw [osUrbStatusToRequestStatus, bulkStatus]
  split
  · exact ⟨_, rfl⟩
  split
  · exact ⟨_, rfl⟩
  split
  · exact ⟨_, rfl⟩
  split
  · exact ⟨_, rfl⟩
  · exact ⟨_, rfl⟩

theorem osBulkCompletion_called (last : r.numRetired + 1 = r.numUrbs) :
    (osBulkCompletion r urb).called = some (outcome .bulk r.reqStatus urb.status) := by
  rw [osBulkCompletion, outcome]
  by_cases none : r.reqStatus = .COMPLETED
  · obtain ⟨ret, is⟩ : ∃ ret, osUrbStatusToRequestStatus
        { r with numRetired := r.numRetired + 1, actualLength := r.actualLength + urb.actualLength } urb = (_, ret) :=
      osUrbStatusToRequestStatus_eq none
    simp only [none, ne_eq, not_true_eq_false, if_false] at is ⊢
    rw [is]
    cases ret <;> simp [last, bulkCancel, rawHandleRequestCompletion]
  · by_cases data : urb.actualLength > 0
    · simp [none, osProcessAbnormalReap, last, data, rawHandleRequestCompletion]
    · simp [none, osProcessAbnormalReap, last, data, rawHandleRequestCompletion]

end

namespace InFlight
variable {kind : RequestType} {stands : UsbRequestStatus} {refused : Bool} {own : List AdapterUrb}
  {flight : List Nat} {r : HostRequest} {i : Nat}

theorem desStatus (inFlight : InFlight .isochronous stands refused own flight r) (there : i ∈ flight) {urb : AdapterUrb}
    (is : own[i]? = some urb) (report : Report) :
    ∃ later, osIsoRequestDesStatus r (urb.reaped report) = some later ∧
      InFlight .isochronous stands refused own (flight.erase i) { later with numRetired := later.numRetired + 1 } := by
  have sum := List.sum_map_erase (packetsAt own) there
  have packets : packetsAt own i = urb.numberOfPackets := by simp [packetsAt, is]
  have inside := inFlight.inside rfl
  have left := inFlight.left nofun
  have length := List.length_erase_of_mem there
  have some := List.length_pos_of_mem there
  have counted : (urb.reaped report).isoFrameDesc.length = (urb.reaped report).numberOfPackets := by
    simpa using inFlight.counted urb (List.mem_of_getElem? is)
  have fits : r.isoPacketOffset + (urb.reaped report).numberOfPackets ≤ r.isoPacketDesc.length := by
    rw [reaped_numberOfPackets]
    omega
  obtain ⟨descs, many, set⟩ := osIsoRequestDesStatus_some counted fits
  refine ⟨_, set, { inFlight with
    listed := fun j member => inFlight.listed j (List.mem_of_mem_erase member)
    once := inFlight.once.erase i
    left := fun _ => ?_
    inside := fun _ => ?_ }⟩
  · simp only
    omega
  · simp only [reaped_numberOfPackets, many]
    omega

theorem complete_iso (inFlight : InFlight .isochronous stands refused own flight r) (there : i ∈ flight) (report : Report) :
    ∃ done, adapterUrbCompleteHandle r i report = some done ∧
      if flight = [i] then done.called = some (outcome .isochronous stands report.status)
      else done.called = none ∧ InFlight .isochronous stands refused own (flight.erase i) done.request := by
  obtain ⟨urb, is, -, found⟩ := inFlight.urb there
  obtain ⟨later, set, next⟩ := inFlight.desStatus there is report
  have listed : i < r.numUrbs := by
    rw [inFlight.numUrbs]
    exact inFlight.listed i there
  have left := next.left nofun
  simp only [adapterUrbCompleteHandle, found, Option.bind_eq_bind, Option.bind_some, inFlight.requestType]
  by_cases last : flight = [i]
  · simp only [last, List.erase_cons_head, List.length_nil, Nat.add_zero, if_true] at left ⊢
    rw [osIsoCompletion_last listed set left]
    refine ⟨_, rfl, ?_⟩
    have stands := next.reqStatus
    simp only at stands
    simp only [rawHandleRequestCompletion, HostRequest.isoResult, outcome, stands]
    rfl
  · have more : (flight.erase i).length ≠ 0 := by
      intro none
      rw [List.length_erase_of_mem there] at none
      obtain ⟨j, only⟩ := List.length_eq_one_iff.mp (Nat.le_antisymm (Nat.sub_eq_zero_iff_le.mp none)
        (List.length_pos_of_mem there))
      simp_all
    simp only at left
    rw [osIsoCompletion_more listed set (by omega)]
    refine ⟨_, rfl, ?_⟩
    rw [if_neg last]
    exact ⟨rfl, next⟩

theorem complete_single (inFlight : InFlight kind stands refused own flight r) (single : kind ≠ .isochronous) (there : i ∈ flight)
    (report : Report) : ∃ done, adapterUrbCompleteHandle r i report = some done ∧
      done.called = some (outcome kind stands report.status) := by
  obtain ⟨urb, -, -, found⟩ := inFlight.urb there
  have left := inFlight.left
  have status := inFlight.reqStatus
  rw [inFlight.last single there, List.length_singleton] at left
  simp only [adapterUrbCompleteHandle, found, Option.bind_eq_bind, Option.bind_some, inFlight.requestType]
  cases kind with
  | isochronous => exact absurd rfl single
  | control => exact ⟨_, rfl, by rw [osControlCompletion_called, status]; rfl⟩
  | bulk => exact ⟨_, rfl, by rw [osBulkCompletion_called (left (by decide)), status]; rfl⟩
  | interrupt => exact ⟨_, rfl, by rw [osBulkCompletion_called (left (by decide)), status]; rfl⟩

theorem complete (inFlight : InFlight kind stands refused own flight r) (there : i ∈ flight) (report : Report) :
    ∃ done, adapterUrbCompleteHandle r i report = some done ∧
      if flight = [i] then done.called = some (outcome kind stands report.status)
      else done.called = none ∧ InFlight kind stands refused own (flight.erase i) done.request := by
  by_cases iso : kind = .isochronous
  · subst iso
    exact inFlight.complete_iso there report
  · obtain ⟨done, completed, called⟩ := inFlight.complete_single iso there report
    exact ⟨done, completed, (if_pos (inFlight.last iso there)).mpr called⟩

end InFlight

section
variable {room : Nat} {usbfs : Usbfs} {r f later : HostRequest}

structure Alike (r f : HostRequest) : Prop where
  requestType : f.requestType = r.requestType
  length : f.length = r.length
  isoPacketDesc : f.isoPacketDesc = r.isoPacketDesc

theorem refusal_ne_success (errno : Int) : refusal errno ≠ .success := by
  rw [refusal]
  split <;> simp

/-- A submission is accepted for every request like this one, and its URBs are then in the kernel. -/
def Accepted (room : Nat) (usbfs : Usbfs) (r : HostRequest) (own : List AdapterUrb) : Prop :=
  ∀ f, Alike r f → ∃ launched, adapterSubmitRequest room usbfs f = some (launched, .success) ∧
    InFlight r.requestType (standing (begins r.requestType f.reqStatus) false (decide (usbfs.accepted < own.length)))
      (decide (usbfs.accepted < own.length)) own (List.range (min usbfs.accepted own.length)) launched

theorem bulkBufferLen_cases (caps : UInt32) {length : Nat} (pos : length ≠ 0) :
    bulkBufferLen caps length = length ∨ bulkBufferLen caps length = maxBulkDataBufferLength := by
  rw [bulkBufferLen]
  split
  · exact .inl rfl
  split
  · exact .inr rfl
  split
  · exact .inl rfl
  · exact .inr rfl

theorem bulkNumUrbs_one (caps : UInt32) {length : Nat} (pos : length ≠ 0) (small : length ≤ maxBulkDataBufferLength) :
    bulkNumUrbs length (bulkBufferLen caps length) = 1 := by
  rw [bulkNumUrbs, if_neg pos]
  rcases bulkBufferLen_cases caps pos with is | is
  · simp [is, Nat.div_self (Nat.pos_of_ne_zero pos)]
  · rw [is]
    rcases Nat.eq_or_lt_of_le small with rfl | less
    · simp [maxBulkDataBufferLength]
    · rw [Nat.mod_eq_of_lt less, Nat.div_eq_of_lt less, if_pos (Nat.pos_of_ne_zero pos)]

theorem bulkUrb_whole (caps : UInt32) (one : r.numUrbs = 1) (pos : r.length ≠ 0) (small : r.length ≤ maxBulkDataBufferLength) :
    osSubmitBulkRequestHandleUrb r (bulkBufferLen caps r.length) 0 = { AdapterUrb.zero with bufferLength := r.length } := by
  rw [osSubmitBulkRequestHandleUrb, one]
  rcases bulkBufferLen_cases caps pos with is | is
  · simp [is, AdapterUrb.zero]
  · rw [is]
    rcases Nat.eq_or_lt_of_le small with same | less
    · simp [same, AdapterUrb.zero]
    · simp [Nat.mod_eq_of_lt less, pos, AdapterUrb.zero]

theorem osSubmitBulkRequest_eq (pos : r.length ≠ 0) (small : r.length ≤ maxBulkDataBufferLength) (taken : 1 ≤ usbfs.accepted) :
    osSubmitBulkRequest usbfs r = ({ r with
      urbs := some [{ AdapterUrb.zero with bufferLength := r.length }]
      numUrbs := 1, numRetired := 0, reqStatus := .COMPLETED }, .success) := by
  have inside : ¬ (r.length > maxBulkDataBufferLength ∨ r.length = 0) := by omega
  have urb := bulkUrb_whole (r := { r with numUrbs := 1, numRetired := 0, reqStatus := .COMPLETED }) usbfs.caps rfl pos small
  simp only at urb
  rw [osSubmitBulkRequest, if_neg inside]
  simp [bulkNumUrbs_one usbfs.caps pos small, osSubmitBulkRequestHandle, taken, urb]

theorem inFlight_one {kind : RequestType} {stands : UsbRequestStatus} {urb : AdapterUrb} {launched : HostRequest} (single : kind ≠ .isochronous)
    (taken : 1 ≤ usbfs.accepted) (frames : urb.isoFrameDesc.length = urb.numberOfPackets)
    (requestType : launched.requestType = kind) (reqStatus : launched.reqStatus = stands) (urbs : launched.urbs = some [urb])
    (numUrbs : launched.numUrbs = 1) (left : kind ≠ .control → launched.numRetired = 0) :
    InFlight kind (standing stands false (decide (usbfs.accepted < [urb].length)))
      (decide (usbfs.accepted < [urb].length)) [urb] (List.range (min usbfs.accepted [urb].length)) launched := by
  have whole : decide (usbfs.accepted < [urb].length) = false := by
    rw [List.length_singleton]
    exact decide_eq_false (by omega)
  have one : min usbfs.accepted [urb].length = 1 := by
    rw [List.length_singleton]
    omega
  rw [whole, one]
  exact {
    requestType := requestType
    reqStatus := by simp [standing, reqStatus]
    urbs := urbs
    numUrbs := numUrbs
    listed := by simp
    once := by simp
    left := fun other => by simp [left other, numUrbs]
    alone := fun _ => ⟨rfl, rfl⟩
    counted := by simpa using frames
    inside := fun iso => absurd iso single }

theorem accepted_control (kind : r.requestType = .control)
    (success : adapterSubmitRequest room usbfs r = some (later, .success)) :
    ∃ own, own.length = later.numUrbs ∧ Accepted room usbfs r own := by
  rw [adapterSubmitRequest, kind] at success
  simp only [osSubmitControlRequest] at success
  by_cases long : r.length > maxBulkDataBufferLength
  · simp [long] at success
  by_cases none : usbfs.accepted < 1
  · simp [long, none, refusal_ne_success] at success
  refine ⟨[{ AdapterUrb.zero with bufferLength := r.length }], ?_, fun f alike => ?_⟩
  · simp only [long, none, if_false, Option.some.injEq, Prod.mk.injEq] at success
    simp [← success.1]
  · refine ⟨{ f with actualLength := 0, urbs := some [{ AdapterUrb.zero with bufferLength := r.length }], numUrbs := 1 }, ?_, ?_⟩
    · rw [adapterSubmitRequest, alike.requestType, kind]
      simp only [osSubmitControlRequest, alike.length, long, none, if_false]
    · have begun : begins r.requestType f.reqStatus = f.reqStatus := by rw [kind]; rfl
      rw [begun]
      have taken : 1 ≤ usbfs.accepted := by omega
      exact inFlight_one (by simp [kind]) taken rfl alike.requestType rfl rfl rfl (by simp [kind])

theorem adapterSubmitRequest_bulk (kind : r.requestType = .bulk ∨ r.requestType = .interrupt) :
    adapterSubmitRequest room usbfs r = some (osSubmitBulkRequest usbfs { r with actualLength := 0 }) := by
  rw [adapterSubmitRequest]
  rcases kind with bulk | interrupt
  · simp only [bulk]
  · simp only [interrupt]

theorem accepted_bulk (kind : r.requestType = .bulk ∨ r.requestType = .interrupt)
    (success : adapterSubmitRequest room usbfs r = some (later, .success)) :
    ∃ own, own.length = later.numUrbs ∧ Accepted room usbfs r own := by
  rw [adapterSubmitRequest_bulk kind, Option.some.injEq] at success
  by_cases outside : r.length > maxBulkDataBufferLength ∨ r.length = 0
  · simp [osSubmitBulkRequest, outside] at success
  have pos : r.length ≠ 0 := by omega
  have small : r.length ≤ maxBulkDataBufferLength := by omega
  by_cases taken : 1 ≤ usbfs.accepted
  · rw [osSubmitBulkRequest_eq (r := { r with actualLength := 0 }) pos small taken, Prod.mk.injEq] at success
    refine ⟨[{ AdapterUrb.zero with bufferLength := r.length }], by simp [← success.1], fun f alike => ?_⟩
    have same : f.requestType = .bulk ∨ f.requestType = .interrupt := by rwa [alike.requestType]
    have submitted : osSubmitBulkRequest usbfs { f with actualLength := 0 } = _ :=
      osSubmitBulkRequest_eq (by simpa [alike.length] using pos) (by simpa [alike.length] using small) taken
    refine ⟨_, (adapterSubmitRequest_bulk same).trans (congrArg some submitted), ?_⟩
    have single : r.requestType ≠ .isochronous := by rcases kind with is | is <;> simp [is]
    have begun : begins r.requestType f.reqStatus = .COMPLETED := by rcases kind with is | is <;> rw [is] <;> rfl
    rw [begun]
    exact inFlight_one single taken rfl alike.requestType rfl (by simp [alike.length]) rfl (fun _ => rfl)
  · have none : usbfs.accepted = 0 := by omega
    simp [osSubmitBulkRequest, pos, Nat.not_lt.mpr small, osSubmitBulkRequestHandle, bulkNumUrbs_one usbfs.caps pos small, none]
      at success

namespace Alike

theorem numIsoPackets (alike : Alike r f) : f.numIsoPackets = r.numIsoPackets := by
  simp [HostRequest.numIsoPackets, alike.isoPacketDesc]

theorem packetLengths (alike : Alike r f) : f.packetLengths = r.packetLengths := by
  simp [HostRequest.packetLengths, alike.isoPacketDesc]

theorem isoNumUrbs (alike : Alike r f) : f.isoNumUrbs = r.isoNumUrbs := by
  simp [HostRequest.isoNumUrbs, alike.numIsoPackets]

end Alike

theorem osSubmitIsoRequest_some (success : osSubmitIsoRequest room usbfs r = some (later, .success)) :
    1 ≤ r.numIsoPackets ∧ ∃ own, osAllocIsoUrbs room r r.isoNumUrbs = some own ∧ ∀ f, Alike r f →
      osSubmitIsoRequest room usbfs f = some (osSubmitIsoUrbs usbfs
        { f with urbs := some own, numUrbs := r.isoNumUrbs, numRetired := 0, isoPacketOffset := 0 } r.isoNumUrbs) := by
  rw [osSubmitIsoRequest] at success
  by_cases none : r.numIsoPackets < 1
  · simp [none] at success
  rw [if_neg none] at success
  by_cases long : r.length > maxIsoDataBufferLen
  · simp [long] at success
  rw [if_neg long] at success
  cases total : totalLen r.packetLengths 0 with
  | none => simp [total] at success
  | some sum =>
    simp only [total] at success
    by_cases beyond : r.length < sum
    · simp [beyond] at success
    rw [if_neg beyond] at success
    by_cases round : r.numIsoPackets + (maxIsoPacketsPerUrb - 1) ≥ 2^31
    · rw [if_pos round] at success
      cases success
    rw [if_neg round] at success
    cases allocated : osAllocIsoUrbs room r r.isoNumUrbs with
    | none => simp [allocated] at success
    | some own =>
      refine ⟨by omega, own, rfl, fun f alike => ?_⟩
      have same : osAllocIsoUrbs room f f.isoNumUrbs = some own := by
        rw [← allocated, alike.isoNumUrbs]
        simp only [osAllocIsoUrbs, alike.packetLengths, alike.numIsoPackets]
      rw [osSubmitIsoRequest, alike.numIsoPackets, alike.length, alike.packetLengths, if_neg none, if_neg long, total]
      simp only
      rw [if_neg beyond, if_neg round, same, alike.isoNumUrbs]
      rfl

theorem packetsAt_sum (own : List AdapterUrb) :
    ((List.range own.length).map (packetsAt own)).sum = (own.map AdapterUrb.numberOfPackets).sum := by
  congr 1
  apply List.ext_getElem
  · simp
  · intro i _ there
    rw [List.length_map] at there
    simp [packetsAt, there]

theorem Split.accepted {packets : List Nat} {start : Nat} {own : List AdapterUrb} (split : Split packets start own) (n : Nat) :
    ((List.range (min n own.length)).map (packetsAt own)).sum ≤ packets.length := by
  have part : List.Sublist (List.range (min n own.length)) (List.range own.length) :=
    List.range_sublist.mpr (Nat.min_le_right ..)
  have less := (part.map (packetsAt own)).sum_le_sum (by simp)
  have lengths : own.map AdapterUrb.numberOfPackets = own.map fun urb => urb.lengths.length := by
    refine List.map_congr_left fun urb member => ?_
    rw [AdapterUrb.lengths, List.length_map, split.counted urb member]
  have all : (own.map AdapterUrb.numberOfPackets).sum = packets.length := by
    rw [← split.assigned, List.length_flatMap, lengths]
  rwa [packetsAt_sum, all] at less

theorem inFlight_first {stands : UsbRequestStatus} {refused : Bool} {own : List AdapterUrb} {n : Nat}
    (split : Split r.packetLengths 0 own) (requestType : r.requestType = .isochronous) (reqStatus : r.reqStatus = stands)
    (urbs : r.urbs = some own) (numUrbs : r.numUrbs = own.length) (offset : r.isoPacketOffset = 0)
    (left : r.numRetired + min n own.length = own.length) :
    InFlight .isochronous stands refused own (List.range (min n own.length)) r where
  requestType := requestType
  reqStatus := reqStatus
  urbs := urbs
  numUrbs := numUrbs
  listed := by
    intro i member
    rw [List.mem_range] at member
    omega
  once := List.nodup_range
  left := by
    intro _
    rw [List.length_range, left, numUrbs]
  alone := fun other => absurd rfl other
  counted := split.counted
  inside := by
    intro _
    have inside := split.accepted n
    rw [HostRequest.packetLengths, List.length_map] at inside
    simpa [offset] using inside

theorem osSubmitIsoUrbs_inFlight {own : List AdapterUrb} (split : Split r.packetLengths 0 own) (taken : usbfs.accepted ≠ 0)
    (requestType : r.requestType = .isochronous) (urbs : r.urbs = some own) (numUrbs : r.numUrbs = own.length)
    (numRetired : r.numRetired = 0) (offset : r.isoPacketOffset = 0) :
    ∃ launched, osSubmitIsoUrbs usbfs r own.length = (launched, .success) ∧ launched.numUrbs = own.length ∧
      InFlight .isochronous (standing r.reqStatus false (decide (usbfs.accepted < own.length)))
        (decide (usbfs.accepted < own.length)) own (List.range (min usbfs.accepted own.length)) launched := by
  by_cases all : own.length ≤ usbfs.accepted
  · have whole : decide (usbfs.accepted < own.length) = false := decide_eq_false (by omega)
    rw [whole]
    exact ⟨r, if_pos all, numUrbs, inFlight_first split requestType rfl urbs numUrbs offset (by omega)⟩
  · have part : decide (usbfs.accepted < own.length) = true := decide_eq_true (by omega)
    rw [part]
    refine ⟨{ r with reqStatus := .ERROR, numRetired := r.numRetired + (own.length - usbfs.accepted) }, ?_, numUrbs, ?_⟩
    · rw [osSubmitIsoUrbs, if_neg all, if_neg taken]
      simp only [numRetired]
      rw [if_neg (by omega)]
    · refine inFlight_first split requestType rfl urbs numUrbs offset ?_
      simp only
      omega

theorem accepted_iso (kind : r.requestType = .isochronous)
    (success : adapterSubmitRequest room usbfs r = some (later, .success)) :
    ∃ own, own.length = later.numUrbs ∧ Accepted room usbfs r own := by
  rw [adapterSubmitRequest_iso kind] at success
  obtain ⟨packets, own, allocated, submits⟩ := osSubmitIsoRequest_some success
  obtain ⟨-, many, split⟩ := osAllocIsoUrbs_split packets allocated
  have pos : 0 < own.length := many ▸ isoNumUrbs_pos packets
  rw [submits _ ⟨rfl, rfl, rfl⟩, Option.some.injEq] at success
  simp only [← many] at success submits
  have taken : usbfs.accepted ≠ 0 := by
    intro none
    rw [osSubmitIsoUrbs, if_neg (by omega), if_pos none] at success
    exact refusal_ne_success _ (Prod.mk.inj success).2
  have launch (f : HostRequest) (alike : Alike r f) := osSubmitIsoUrbs_inFlight
    (r := { f with actualLength := 0, urbs := some own, numUrbs := own.length, numRetired := 0, isoPacketOffset := 0 })
    (alike.packetLengths.symm ▸ split) taken (alike.requestType.trans kind) rfl rfl rfl rfl
  refine ⟨own, ?_, fun f alike => ?_⟩
  · obtain ⟨launched, is, numUrbs, -⟩ := launch r ⟨rfl, rfl, rfl⟩
    rw [is, Prod.mk.injEq] at success
    rw [← success.1, numUrbs]
  · obtain ⟨launched, is, -, inFlight⟩ := launch f alike
    refine ⟨launched, ?_, ?_⟩
    · rw [adapterSubmitRequest_iso (alike.requestType.trans kind),
        submits { f with actualLength := 0 } ⟨alike.requestType, alike.length, alike.isoPacketDesc⟩, is]
    · rw [kind]
      exact inFlight

theorem accepted (success : adapterSubmitRequest room usbfs r = some (later, .success)) :
    ∃ own, own.length = later.numUrbs ∧ Accepted room usbfs r own := by
  cases kind : r.requestType with
  | control => exact accepted_control kind success
  | isochronous => exact accepted_iso kind success
  | bulk => exact accepted_bulk (.inl kind) success
  | interrupt => exact accepted_bulk (.inr kind) success

end
end Peripheral.Usb.Host
