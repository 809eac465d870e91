import Peripheral.Cuts
import Peripheral.UsbHostRequest

/-!
Isochronous requests of a USB host: the packets of a request are assigned to its URBs, and what the
URBs end with is put together again in the request.
-/
namespace Peripheral.Usb.Host
open Tiling AdapterUrb List
open Option (bind_eq_bind bind_some)
open UsbQueue (UsbRequestStatus)

def AdapterUrb.lengths (urb : AdapterUrb) : List Nat := urb.isoFrameDesc.map IsoPacketDesc.length

def AdapterUrb.slice (urb : AdapterUrb) : Interval := ⟨urb.buffer, urb.bufferLength⟩

/-- The URBs are reaped in the order of their numbers, from `i` on. For each it is told whether, and with which status, the
callback was called. -/
def reapAll (r : HostRequest) (i : Nat) : List Report → Option (HostRequest × List (Option UsbRequestStatus))
  | [] => some (r, [])
  | report :: reports => do
    let done ← adapterUrbCompleteHandle r i report
    let (last, called) ← reapAll done.request (i + 1) reports
    return (last, done.called :: called)

def packetOf (frame : IsoPacketDesc Int) : IsoPacketDesc UsbRequestStatus :=
  ⟨frame.length, frame.actualLength, packetStatus frame.status⟩

/-- The URBs have the packets in order, at most 128 each, and their buffers follow each other from `start` on. -/
structure Split (packets : List Nat) (start : Nat) (urbs : List AdapterUrb) : Prop where
  assigned : urbs.flatMap lengths = packets
  counted : ∀ urb ∈ urbs, urb.isoFrameDesc.length = urb.numberOfPackets
  few : ∀ urb ∈ urbs, urb.numberOfPackets ≤ maxIsoPacketsPerUrb
  slices : urbs.map slice = cuts start (urbs.map fun urb => urb.lengths.sum)

/-- Whatever the URBs end with, the packets end with what their frames do, and the callback is called for the last URB and no
other. -/
def Reassembled (r : HostRequest) (urbs : List AdapterUrb) : Prop :=
  ∀ reports : List Report, reports.length = urbs.length → ∃ last status,
    reapAll r 0 reports = some (last, replicate (urbs.length - 1) none ++ [some status]) ∧
      last.isoPacketDesc = (zipWith reaped urbs reports).flatMap (·.isoFrameDesc.map packetOf)

/-- The packets of a request are split into URBs inside of its buffer, and if it is submitted, and all URBs are accepted, they
are put together exactly. -/
def Exact (room : Nat) (r : HostRequest) : Prop :=
  ∃ urbs, osAllocIsoUrbs room r r.isoNumUrbs = some urbs ∧ Split r.packetLengths 0 urbs ∧
    (∀ urb ∈ urbs, urb.buffer + urb.bufferLength ≤ r.length) ∧
    ∀ usbfs : Usbfs, r.isoNumUrbs ≤ usbfs.accepted → ∃ submitted,
      adapterSubmitRequest room usbfs r = some (submitted, .success) ∧ submitted.urbs = some urbs ∧ Reassembled submitted urbs

structure IsoRequest (r : HostRequest) : Prop where
  requestType : r.requestType = .isochronous
  packets : 1 ≤ r.numIsoPackets
  short : ∀ packetLen ∈ r.packetLengths, packetLen ≤ maxIsoDataBufferLen
  fits : r.packetLengths.sum ≤ r.length
  length : r.length ≤ maxIsoDataBufferLen

variable {room : Nat} {packets : List Nat}

theorem isoFrames_some {left j packetIdx : Nat} {urb : AdapterUrb} (inside : packetIdx + left ≤ packets.length)
    (fits : j + left ≤ room) :
    isoFrames room packets left j packetIdx urb = some (packetIdx + left, { urb with
      bufferLength := urb.bufferLength + ((packets.drop packetIdx).take left).sum
      isoFrameDesc := urb.isoFrameDesc ++ ((packets.drop packetIdx).take left).map (⟨·, 0, 0⟩) }) := by
  induction left generalizing j packetIdx urb with
  | zero => simp [isoFrames]
  | succ left ih =>
    have there : packetIdx < packets.length := by omega
    have first : packets.drop packetIdx = packets[packetIdx] :: packets.drop (packetIdx + 1) :=
      drop_eq_getElem_cons there
    rw [isoFrames, getElem?_eq_getElem there]
    simp only [bind_eq_bind, bind_some]
    rw [if_pos (by omega), ih (by omega) (by omega), first]
    simp only [take_succ_cons, sum_cons, map_cons, append_assoc, singleton_append, Nat.add_assoc, Nat.add_comm 1]

theorem isoFrames_none {left j packetIdx : Nat} {urb : AdapterUrb} (some : 0 < left) (outside : room < j + left) :
    isoFrames room packets left j packetIdx urb = none := by
  induction left generalizing j packetIdx urb with
  | zero => omega
  | succ left ih =>
    rw [isoFrames]
    cases packets[packetIdx]? with
    | none => rfl
    | some packetLen =>
      simp only [bind_eq_bind, bind_some]
      by_cases inside : j < room
      · rw [if_pos inside]
        exact ih (by omega) (by omega)
      · exact if_neg inside

variable {urbs : List AdapterUrb}

variable {start : Nat}

theorem Split.cons {packets more : List Nat} {urb : AdapterUrb}
    (split : Split more (start + urb.bufferLength) urbs) (lengths : urb.lengths = packets) (buffer : urb.buffer = start)
    (length : urb.bufferLength = packets.sum) (counted : urb.isoFrameDesc.length = urb.numberOfPackets)
    (few : urb.numberOfPackets ≤ maxIsoPacketsPerUrb) : Split (packets ++ more) start (urb :: urbs) where
  assigned := by simp [lengths, split.assigned]
  counted := by simpa using ⟨counted, split.counted⟩
  few := by simpa using ⟨few, split.few⟩
  slices := by
    have later := split.slices
    rw [length] at later
    simp [cuts, slice, lengths, buffer, length, later]

theorem allocIsoUrbs_some {urbs packetIdx urbBuffer numPacketsLeft : Nat}
    (enough : numPacketsLeft ≤ urbs * maxIsoPacketsPerUrb) (left : packetIdx + numPacketsLeft = packets.length)
    (fits : min numPacketsLeft maxIsoPacketsPerUrb ≤ room) :
    ∃ l, allocIsoUrbs room packets urbs packetIdx urbBuffer numPacketsLeft = some l ∧ l.length = urbs ∧
      Split (packets.drop packetIdx) urbBuffer l := by
  induction urbs generalizing packetIdx urbBuffer numPacketsLeft with
  | zero =>
    have none : packets.drop packetIdx = [] := drop_eq_nil_of_le (by omega)
    rw [none]
    exact ⟨[], rfl, rfl, ⟨rfl, nofun, nofun, rfl⟩⟩
  | succ urbs ih =>
    rw [Nat.succ_mul] at enough
    rw [allocIsoUrbs]
    generalize is : min numPacketsLeft maxIsoPacketsPerUrb = numPackets at fits ⊢
    rw [isoFrames_some (by omega) (by omega)]
    generalize own : (packets.drop packetIdx).take numPackets = packetsOf
    obtain ⟨rest, allocated, many, split⟩ : ∃ l, allocIsoUrbs room packets urbs (packetIdx + numPackets)
        (urbBuffer + packetsOf.sum) (numPacketsLeft - numPackets) = some l ∧ l.length = urbs ∧
        Split (packets.drop (packetIdx + numPackets)) (urbBuffer + packetsOf.sum) l :=
      ih (by omega) (by omega) (by omega)
    simp only [bind_eq_bind, bind_some, zero, Nat.zero_add, allocated]
    refine ⟨_, rfl, by simp [many], ?_⟩
    have parts : packets.drop packetIdx = packetsOf ++ packets.drop (packetIdx + numPackets) := by
      rw [← drop_drop, ← own, take_append_drop]
    have long : packetsOf.length = numPackets := by
      rw [← own, length_take, length_drop]
      omega
    rw [parts]
    refine split.cons ?_ rfl rfl ?_ ?_
    · simp [lengths, Function.comp_def]
    · simpa using long
    · simp only
      omega

theorem allocIsoUrbs_none {urbs packetIdx urbBuffer numPacketsLeft : Nat} (outside : room < min numPacketsLeft maxIsoPacketsPerUrb) :
    allocIsoUrbs room packets (urbs + 1) packetIdx urbBuffer numPacketsLeft = none := by
  rw [allocIsoUrbs, isoFrames_none (by omega) (by omega)]
  rfl

variable {r : HostRequest} {urb : AdapterUrb} {done rest : List AdapterUrb}
  {before behind : List (IsoPacketDesc UsbRequestStatus)}

@[simp] theorem reaped_numberOfPackets (report : Report) : (urb.reaped report).numberOfPackets = urb.numberOfPackets := rfl

@[simp] theorem reaped_length (report : Report) : (urb.reaped report).isoFrameDesc.length = urb.isoFrameDesc.length := by
  simp [reaped]

@[simp] theorem reaped_lengths (report : Report) : (urb.reaped report).lengths = urb.lengths := by
  apply ext_getElem
  · simp [lengths]
  · intro j _ _
    simp [lengths, reaped]

theorem zipWith_ended {packets : List (IsoPacketDesc UsbRequestStatus)} {frames : List (IsoPacketDesc Int)}
    (own : packets.map IsoPacketDesc.length = frames.map IsoPacketDesc.length) :
    zipWith IsoPacketDesc.ended packets frames = frames.map packetOf := by
  induction frames generalizing packets with
  | nil => simp
  | cons frame frames ih =>
    cases packets with
    | nil => simp at own
    | cons packet packets =>
      simp only [map_cons, cons.injEq] at own
      simp [IsoPacketDesc.ended, packetOf, own.1, ih own.2]

/-- Some URBs of a request have been reaped and the rest not: the packets before are those of the first. -/
structure Reaping (r : HostRequest) (done rest : List AdapterUrb) (before behind : List (IsoPacketDesc UsbRequestStatus)) :
    Prop where
  requestType : r.requestType = .isochronous
  urbs : r.urbs = some (done ++ rest)
  numUrbs : r.numUrbs = (done ++ rest).length
  numRetired : r.numRetired = done.length
  packets : r.isoPacketDesc = before ++ behind
  offset : r.isoPacketOffset = before.length
  own : behind.map IsoPacketDesc.length = rest.flatMap lengths
  counted : ∀ urb ∈ rest, urb.isoFrameDesc.length = urb.numberOfPackets

theorem Reaping.desStatus (reaping : Reaping r done (urb :: rest) before behind) (report : Report) :
    ∃ packets, packets.map IsoPacketDesc.length = rest.flatMap lengths ∧
      osIsoRequestDesStatus r (urb.reaped report) = some { r with
        isoPacketDesc := before ++ (urb.reaped report).isoFrameDesc.map packetOf ++ packets
        isoPacketOffset := before.length + urb.isoFrameDesc.length } := by
  have own := reaping.own
  rw [flatMap_cons, map_eq_append_iff] at own
  obtain ⟨these, packets, rfl, lengths, later⟩ := own
  refine ⟨packets, later, ?_⟩
  have numbers := reaping.counted urb (by simp)
  have own := lengths.trans (reaped_lengths report).symm
  have many : these.length = (urb.reaped report).isoFrameDesc.length := by
    rw [← length_map IsoPacketDesc.length, own, AdapterUrb.lengths, length_map]
  rw [osIsoRequestDesStatus, reaped_numberOfPackets, ← numbers, ← reaped_length report, ← zipWith_ended own]
  exact desStatus_eq (drop_zero ..) many (by simp [reaping.packets]) reaping.offset

theorem Reaping.reap (reaping : Reaping r done (urb :: rest) before behind) (report : Report) :
    ∃ reaped, adapterUrbCompleteHandle r done.length report = some reaped ∧
      if rest = [] then (∃ status, reaped.called = some status) ∧
        reaped.request.isoPacketDesc = before ++ (urb.reaped report).isoFrameDesc.map packetOf
      else reaped.called = none ∧ ∃ packets,
        Reaping reaped.request (done ++ [urb]) rest (before ++ (urb.reaped report).isoFrameDesc.map packetOf) packets := by
  obtain ⟨packets, lengths, set⟩ := reaping.desStatus report
  have there : r.urbs.bind (·[done.length]?) = some urb := by simp [reaping.urbs]
  have numUrbs := reaping.numUrbs
  have numRetired := reaping.numRetired
  have listed : done.length < r.numUrbs := by simp [numUrbs]
  simp only [adapterUrbCompleteHandle, there, bind_eq_bind, bind_some, reaping.requestType]
  by_cases last : rest = []
  · subst last
    have none : packets = [] := by simpa using lengths
    rw [osIsoCompletion_last listed set (by simp [numUrbs, numRetired])]
    exact ⟨_, rfl, by simp [rawHandleRequestCompletion, none]⟩
  · have more : rest.length ≠ 0 := by simpa using last
    rw [osIsoCompletion_more listed set (by simp [numUrbs, numRetired]; omega)]
    refine ⟨_, rfl, ?_⟩
    rw [if_neg last]
    refine ⟨rfl, packets, ?_⟩
    exact {
      requestType := reaping.requestType
      urbs := by simp [reaping.urbs]
      numUrbs := by simp [numUrbs]
      numRetired := by simp [numRetired]
      packets := rfl
      offset := by simp
      own := lengths
      counted := fun urb member => reaping.counted urb (by simp [member]) }

theorem Reaping.reapAll (reaping : Reaping r done rest before behind) (left : rest ≠ []) {reports : List Report}
    (reported : reports.length = rest.length) : ∃ last status,
      reapAll r done.length reports = some (last, replicate (rest.length - 1) none ++ [some status]) ∧ last.isoPacketDesc =
          before ++ (zipWith reaped rest reports).flatMap (·.isoFrameDesc.map packetOf) := by
  induction rest generalizing r done before behind reports with
  | nil => exact absurd rfl left
  | cons urb rest ih =>
    obtain ⟨report, reports, rfl⟩ : ∃ report more, reports = report :: more := by
      cases reports with
      | nil => simp at reported
      | cons report more => exact ⟨report, more, rfl⟩
    simp only [length_cons, Nat.add_right_cancel_iff] at reported
    obtain ⟨reaped, completed, then_⟩ := reaping.reap report
    rw [Host.reapAll, completed]
    simp only [bind_eq_bind, bind_some]
    by_cases last : rest = []
    · rw [if_pos last] at then_
      obtain ⟨⟨status, called⟩, packets⟩ := then_
      subst last
      obtain rfl : reports = [] := by simpa using reported
      exact ⟨reaped.request, status, by simp [Host.reapAll, called], by simp [packets]⟩
    · rw [if_neg last] at then_
      obtain ⟨called, packets, later⟩ := then_
      obtain ⟨final, status, executed, set⟩ := ih later last reported
      rw [length_append, length_singleton] at executed
      refine ⟨final, status, ?_, by simp [set]⟩
      have more : rest.length ≠ 0 := by simpa using last
      obtain ⟨n, length⟩ : ∃ n, rest.length = n + 1 := ⟨rest.length - 1, by omega⟩
      simp [executed, called, length, replicate_succ]

variable {usbfs : Usbfs}

theorem totalLen_some {packets : List Nat} {sum : Nat} (short : ∀ packetLen ∈ packets, packetLen ≤ maxIsoDataBufferLen)
    (small : sum + packets.sum < 2^32) : totalLen packets sum = some (sum + packets.sum) := by
  induction packets generalizing sum with
  | nil => rfl
  | cons packetLen packets ih =>
    rw [sum_cons] at small ⊢
    have first := short packetLen (by simp)
    rw [totalLen, if_neg (by omega), Nat.mod_eq_of_lt (by omega), ih (fun other member => short other (by simp [member])) (by omega)]
    simp [Nat.add_assoc]

theorem isoNumUrbs_enough : r.numIsoPackets ≤ r.isoNumUrbs * maxIsoPacketsPerUrb := by
  simp only [HostRequest.isoNumUrbs, maxIsoPacketsPerUrb]
  omega

theorem isoNumUrbs_pos (packets : 1 ≤ r.numIsoPackets) : 0 < r.isoNumUrbs := by
  simp only [HostRequest.isoNumUrbs, maxIsoPacketsPerUrb]
  omega

theorem IsoRequest.osSubmitIsoRequest (request : IsoRequest r) :
    osSubmitIsoRequest room usbfs r =
      if r.numIsoPackets + (maxIsoPacketsPerUrb - 1) ≥ 2^31 then none
      else (osAllocIsoUrbs room r r.isoNumUrbs).map fun urbs => osSubmitIsoUrbs usbfs
        { r with urbs := some urbs, numUrbs := r.isoNumUrbs, numRetired := 0, isoPacketOffset := 0 } r.isoNumUrbs := by
  have packets := request.packets
  have length := request.length
  have fits := request.fits
  have limit : maxIsoDataBufferLen = 8192 := rfl
  have total : totalLen r.packetLengths 0 = some r.packetLengths.sum := by
    rw [totalLen_some request.short (by omega), Nat.zero_add]
  rw [Host.osSubmitIsoRequest, if_neg (by omega), if_neg (by omega), total]
  simp only
  rw [if_neg (by omega), Option.map_eq_bind]
  rfl

theorem adapterSubmitRequest_iso (requestType : r.requestType = .isochronous) :
    adapterSubmitRequest room usbfs r = Host.osSubmitIsoRequest room usbfs { r with actualLength := 0 } := by
  cases r
  cases requestType
  rfl

theorem IsoRequest.submit (request : IsoRequest r) (accepts : r.isoNumUrbs ≤ usbfs.accepted) :
    adapterSubmitRequest room usbfs r =
      if r.numIsoPackets + (maxIsoPacketsPerUrb - 1) ≥ 2^31 then none
      else (osAllocIsoUrbs room r r.isoNumUrbs).map fun urbs =>
        ({ r with actualLength := 0, urbs := some urbs, numUrbs := r.isoNumUrbs, numRetired := 0, isoPacketOffset := 0 },
          .success) := by
  have begun : IsoRequest { r with actualLength := 0 } :=
    ⟨request.requestType, request.packets, request.short, request.fits, request.length⟩
  have all (later : HostRequest) : osSubmitIsoUrbs usbfs later r.isoNumUrbs = (later, .success) := if_pos accepts
  rw [adapterSubmitRequest_iso request.requestType, begun.osSubmitIsoRequest]
  change ite (r.numIsoPackets + (maxIsoPacketsPerUrb - 1) ≥ 2^31) none
    ((osAllocIsoUrbs room r r.isoNumUrbs).map fun urbs =>
      osSubmitIsoUrbs usbfs _ r.isoNumUrbs) = _
  simp only [all]
  rfl

theorem Split.inside {packets : List Nat} (split : Split packets start urbs)
    (member : urb ∈ urbs) : urb.buffer + urb.bufferLength ≤ start + packets.sum := by
  have slice : urb.slice ∈ cuts start (urbs.map fun urb => urb.lengths.sum) := split.slices ▸ mem_map_of_mem member
  have bounded := cuts_bounded slice
  have sum : (urbs.map fun urb => urb.lengths.sum).sum = packets.sum := by
    rw [← split.assigned, flatMap, sum_flatten, map_map, Function.comp_def]
  rwa [sum] at bounded

theorem Split.reassembled (split : Split r.packetLengths start urbs)
    (requestType : r.requestType = .isochronous) (packets : 1 ≤ r.numIsoPackets) (many : urbs.length = r.isoNumUrbs) :
    Reassembled { r with
      actualLength := 0, urbs := some urbs, numUrbs := r.isoNumUrbs, numRetired := 0, isoPacketOffset := 0 } urbs := by
  intro reports reported
  have reaping : Reaping { r with
      actualLength := 0, urbs := some urbs, numUrbs := r.isoNumUrbs, numRetired := 0, isoPacketOffset := 0 }
      [] urbs [] r.isoPacketDesc := {
    requestType := requestType
    urbs := rfl
    numUrbs := by simp [many]
    numRetired := rfl
    packets := rfl
    offset := rfl
    own := split.assigned.symm
    counted := split.counted }
  have left : urbs ≠ [] := by
    rintro rfl
    exact absurd many (isoNumUrbs_pos packets).ne
  simpa using reaping.reapAll left reported

theorem osAllocIsoUrbs_some (fits : min r.numIsoPackets maxIsoPacketsPerUrb ≤ room) :
    ∃ urbs, osAllocIsoUrbs room r r.isoNumUrbs = some urbs ∧ urbs.length = r.isoNumUrbs ∧ Split r.packetLengths 0 urbs :=
  allocIsoUrbs_some isoNumUrbs_enough (by simp [HostRequest.packetLengths, HostRequest.numIsoPackets]) fits

theorem osAllocIsoUrbs_split (packets : 1 ≤ r.numIsoPackets) (allocated : osAllocIsoUrbs room r r.isoNumUrbs = some urbs) :
    min r.numIsoPackets maxIsoPacketsPerUrb ≤ room ∧ urbs.length = r.isoNumUrbs ∧ Split r.packetLengths 0 urbs := by
  by_cases fits : min r.numIsoPackets maxIsoPacketsPerUrb ≤ room
  · obtain ⟨all, is, many, split⟩ := osAllocIsoUrbs_some fits
    rw [is, Option.some.injEq] at allocated
    subst allocated
    exact ⟨fits, many, split⟩
  · obtain ⟨n, many⟩ := Nat.exists_eq_succ_of_ne_zero (isoNumUrbs_pos packets).ne'
    rw [osAllocIsoUrbs, many, allocIsoUrbs_none (by omega)] at allocated
    cases allocated

/-- An isochronous request is split and put together exactly when there is room for the frame descriptors behind the URBs, and
the number of packets can be rounded up. -/
theorem isoRequest_exact_iff (request : IsoRequest r) : Exact room r ↔
      r.numIsoPackets + (maxIsoPacketsPerUrb - 1) < 2^31 ∧ min r.numIsoPackets maxIsoPacketsPerUrb ≤ room := by
  have packets := request.packets
  constructor
  · rintro ⟨urbs, allocated, -, -, whole⟩
    obtain ⟨submitted, is, -⟩ := whole ⟨0, r.isoNumUrbs, 0⟩ (Nat.le_refl _)
    rw [request.submit (Nat.le_refl _)] at is
    by_cases round : r.numIsoPackets + (maxIsoPacketsPerUrb - 1) ≥ 2^31
    · rw [if_pos round] at is
      cases is
    · exact ⟨by omega, (osAllocIsoUrbs_split packets allocated).1⟩
  · rintro ⟨round, fits⟩
    obtain ⟨urbs, allocated, many, split⟩ := osAllocIsoUrbs_some fits
    refine ⟨urbs, allocated, split, fun urb member => ?_, fun usbfs accepts => ?_⟩
    · exact (split.inside member).trans (by simpa using request.fits)
    · have is : adapterSubmitRequest room usbfs r = _ := request.submit accepts
      rw [if_neg (by omega), allocated, Option.map_some] at is
      exact ⟨_, is, rfl, split.reassembled request.requestType packets many⟩

def onePacket : HostRequest := adapterAllocRequest.rawFill .isochronous 8 [⟨8, 0, .COMPLETED⟩]

theorem onePacket_isoRequest : IsoRequest onePacket := ⟨rfl, by decide, by decide, by decide, by decide⟩

/-- One packet more than one URB takes. -/
def manyPackets : HostRequest :=
  adapterAllocRequest.rawFill .isochronous 1032 (replicate 129 ⟨8, 0, .COMPLETED⟩)

theorem manyPackets_exact : IsoRequest manyPackets ∧ Exact 128 manyPackets := by
  have many : manyPackets.numIsoPackets = 129 := length_replicate
  have lengths : manyPackets.packetLengths = replicate 129 8 := map_replicate
  have request : IsoRequest manyPackets := by
    refine ⟨rfl, by rw [many]; decide, ?_, ?_, by decide⟩
    · rw [lengths]
      intro packetLen member
      rw [eq_of_mem_replicate member]
      decide
    · rw [lengths, sum_replicate_nat]
      decide
  refine ⟨request, (isoRequest_exact_iff request).mpr ?_⟩
  rw [many]
  decide

/-- What an allocation of `sizeof(struct UsbAdapterUrb)` has for the frame descriptors: the structure ends where they begin. -/
def sizeofRoom : Nat := 0

theorem onePacket_not_exact : IsoRequest onePacket ∧ ¬ Exact sizeofRoom onePacket := by
  refine ⟨onePacket_isoRequest, ?_⟩
  rintro ⟨urbs, allocated, -⟩
  cases allocated

end Peripheral.Usb.Host
