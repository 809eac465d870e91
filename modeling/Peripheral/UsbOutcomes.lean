import Peripheral.UsbSubmissions

/-!
A request of a USB host that is used again and again: filled, submitted, cancelled at any time, and
filled again when its URBs have been reaped. What the callback of a submission is told is compared
with what a request would tell that was allocated for this submission alone.
-/
namespace Peripheral.Usb.Host
open Transitions
open UsbQueue (UsbRequestStatus)

inductive Event
  | fill (requestType : RequestType) (length : Nat) (packets : List (IsoPacketDesc UsbRequestStatus))
  | submit (usbfs : Usbfs)
  | cancel
  | complete (i : Nat) (report : Report)

structure State where
  request : HostRequest
  flight : List Nat
  /-- The status that the request had when it was submitted. -/
  inherited : UsbRequestStatus
  fresh : HostRequest
  cancelled : Bool
  refused : Bool
  /-- All URBs that were reaped had status 0 and full length. -/
  whole : Bool

def start : State := ⟨adapterAllocRequest, [], .COMPLETED, adapterAllocRequest, false, false, true⟩

/-- The length that an URB ends with if nothing is missing; the setup packet of a control transfer does not count. -/
def HostRequest.fullLength (r : HostRequest) (urb : AdapterUrb) : Nat :=
  if r.requestType = .control then urb.bufferLength - usbRawControlSetupSize else urb.bufferLength

/-- The URB ends with status 0 and full length. -/
def HostRequest.Full (r : HostRequest) (i : Nat) (report : Report) : Prop :=
  report.status = 0 ∧ (r.urbs.bind (·[i]?)).map r.fullLength = some report.actualLength

instance (r : HostRequest) (i : Nat) (report : Report) : Decidable (r.Full i report) :=
  inferInstanceAs (Decidable (_ ∧ _))

/-- With this URB all URBs of the submission have ended with status 0 and full length. -/
def State.Whole (s : State) (i : Nat) (report : Report) : Prop :=
  s.refused = false ∧ s.whole = true ∧ s.request.Full i report

def HostRequest.renewed (r : HostRequest) : HostRequest :=
  adapterAllocRequest.rawFill r.requestType r.length r.isoPacketDesc

section
variable (room : Nat)

def State.after (s : State) : Event → State
  | .fill requestType length packets => { s with request := s.request.rawFill requestType length packets }
  | .submit usbfs =>
    match adapterSubmitRequest room usbfs s.request with
    | none => s
    | some (request, ret) =>
      { request := request
        flight := if ret = .success then List.range (min usbfs.accepted request.numUrbs) else []
        inherited := s.request.reqStatus
        fresh := ((adapterSubmitRequest room usbfs s.request.renewed).getD (s.request.renewed, .failure)).1
        cancelled := false
        refused := decide (usbfs.accepted < request.numUrbs)
        whole := true }
  | .cancel =>
    { s with request := (adapterCancelRequest s.request).1, fresh := (adapterCancelRequest s.fresh).1, cancelled := true }
  | .complete i report =>
    match adapterUrbCompleteHandle s.request i report, adapterUrbCompleteHandle s.fresh i report with
    | some done, some fresh =>
      { s with
        request := done.request
        flight := s.flight.erase i
        fresh := fresh.request
        whole := s.whole && decide (s.request.Full i report) }
    | _, _ => s

/-- A submission is reaped before the next, and keeps to its memory; the URBs that are reaped are in the kernel. -/
def State.Possible (s : State) : Event → Prop
  | .fill .. => s.flight = []
  | .submit usbfs => s.flight = [] ∧ (adapterSubmitRequest room usbfs s.request).isSome
  | .cancel => True
  | .complete i _ => i ∈ s.flight

instance (s : State) : (event : Event) → Decidable (s.Possible room event)
  | .fill .. => inferInstanceAs (Decidable (s.flight = []))
  | .submit _ => inferInstanceAs (Decidable (_ ∧ _))
  | .cancel => inferInstanceAs (Decidable True)
  | .complete i _ => inferInstanceAs (Decidable (i ∈ s.flight))

end

/-- The callback is called if that of the fresh request is, and with the same status: CANCELLED only if the submission was
cancelled, and COMPLETED if all its URBs have ended with status 0 and full length. -/
def State.Right (s : State) : Event → Prop
  | .complete i report => ∃ done fresh,
      adapterUrbCompleteHandle s.request i report = some done ∧ adapterUrbCompleteHandle s.fresh i report = some fresh ∧
        done.called = fresh.called ∧ ∀ status ∈ done.called,
          (status = .CANCELLED → s.cancelled = true) ∧ (s.Whole i report → status = .COMPLETED)
  | _ => True

/-- No URB ends a submission with a status that is not its own: one that a control or isochronous request had before it was
submitted, or that of a cancellation that came too late or from elsewhere. -/
def State.Careful (s : State) : Event → Prop
  | .complete i report =>
    match s.request.requestType with
    | .control =>
      (s.inherited = .CANCELLED ∨ report.status = -enoent → s.cancelled = true) ∧ (s.cancelled = true → ¬ s.Whole i report)
    | .isochronous => s.flight = [i] →
      (s.inherited ≠ .COMPLETED → s.cancelled = true ∨ s.refused = true ∨ isoStatus report.status = .ERROR) ∧
        (s.cancelled = true → ¬ s.Whole i report)
    | .bulk | .interrupt => s.cancelled = true → ¬ s.Whole i report
  | _ => True

variable {room : Nat} {s : State} {i : Nat}

/-- Both requests are where the submission and the events since have brought them. -/
def State.Good (s : State) : Prop := s.flight ≠ [] → ∃ own,
  InFlight s.request.requestType (standing (begins s.request.requestType s.inherited) s.cancelled s.refused) s.refused own
    s.flight s.request ∧
  InFlight s.request.requestType (standing (begins s.request.requestType .COMPLETED) s.cancelled s.refused) s.refused own
    s.flight s.fresh

namespace State.Good

theorem submit (good : s.Good) (usbfs : Usbfs) : (s.after room (.submit usbfs)).Good := by
  intro flying
  simp only [State.after] at flying ⊢
  cases submitted : adapterSubmitRequest room usbfs s.request with
  | none =>
    simp only [submitted] at flying ⊢
    exact good flying
  | some result =>
    obtain ⟨request, ret⟩ := result
    simp only [submitted] at flying ⊢
    by_cases success : ret = .success
    · subst success
      obtain ⟨own, many, accepts⟩ := accepted submitted
      obtain ⟨launched, is, inFlight⟩ := accepts s.request ⟨rfl, rfl, rfl⟩
      obtain ⟨renewed, is', inFlight'⟩ := accepts s.request.renewed ⟨rfl, rfl, rfl⟩
      obtain rfl : request = launched := by
        rw [submitted, Option.some.injEq, Prod.mk.injEq] at is
        exact is.1
      rw [is', if_pos rfl, inFlight.requestType, ← many]
      exact ⟨own, inFlight, inFlight'⟩
    · rw [if_neg success] at flying
      exact absurd rfl flying

theorem cancel (good : s.Good) : (s.after room .cancel).Good := by
  intro flying
  obtain ⟨own, inFlight, inFlight'⟩ := good flying
  have bulk (first : UsbRequestStatus) : s.request.requestType = .bulk →
      standing (begins s.request.requestType first) s.cancelled s.refused ≠ .ERROR := by
    intro is
    have alone := (inFlight.alone (by simp [is])).2
    rw [is, alone, begins, standing]
    split <;> simp
  have marked := inFlight.cancel (bulk _)
  simp only [State.after, marked.requestType]
  exact ⟨own, marked, inFlight'.cancel (bulk _)⟩

theorem complete (good : s.Good) (there : i ∈ s.flight) (report : Report) : (s.after room (.complete i report)).Good := by
  obtain ⟨own, inFlight, inFlight'⟩ := good (List.ne_nil_of_mem there)
  obtain ⟨done, is, later⟩ := inFlight.complete there report
  obtain ⟨fresh, is', later'⟩ := inFlight'.complete there report
  intro flying
  simp only [State.after, is, is'] at flying ⊢
  by_cases last : s.flight = [i]
  · simp [last] at flying
  · rw [if_neg last] at later later'
    rw [later.2.requestType]
    exact ⟨own, later.2, later'.2⟩

theorem after (good : s.Good) {event : Event} (possible : s.Possible room event) : (s.after room event).Good := by
  cases event with
  | fill requestType length packets => exact fun flying => absurd possible flying
  | submit usbfs => exact good.submit usbfs
  | cancel => exact good.cancel
  | complete i report => exact good.complete possible report

end State.Good

/-! What one submission is told. -/

section
variable {inherited : UsbRequestStatus} {cancelled refused : Bool} {status : Int} {whole : Prop}

theorem controlStatus_cancelled : controlStatus status = .CANCELLED ↔ status = -enoent := by
  unfold controlStatus
  constructor
  · intro is
    split at is
    · cases is
    split at is
    · assumption
    split at is
    · cases is
    split at is
    · cases is
    split at is <;> cases is
  · rintro rfl
    simp [enoent]

theorem isoStatus_ne_cancelled : isoStatus status ≠ .CANCELLED := by
  rw [isoStatus]
  split
  · simp
  · split <;> simp

theorem bulkStatus_ne_cancelled : bulkStatus status ≠ .CANCELLED := by
  rw [bulkStatus]
  split
  · simp
  split
  · simp
  split
  · simp
  split <;> simp

def Own (requestType : RequestType) (inherited : UsbRequestStatus) (cancelled refused : Bool) (status : Int) (whole : Prop) :
    Prop :=
  outcome requestType (standing (begins requestType inherited) cancelled refused) status =
      outcome requestType (standing (begins requestType .COMPLETED) cancelled refused) status ∧
    (outcome requestType (standing (begins requestType inherited) cancelled refused) status = .CANCELLED → cancelled = true) ∧
    (whole → outcome requestType (standing (begins requestType inherited) cancelled refused) status = .COMPLETED)

theorem own_control (ok : whole → status = 0) : Own .control inherited cancelled false status whole ↔
    (inherited = .CANCELLED ∨ status = -enoent → cancelled = true) ∧ (cancelled = true → ¬ whole) := by
  have completed : whole → controlStatus status = .COMPLETED := by
    intro is
    rw [ok is]
    rfl
  cases cancelled with
  | true => simp [Own, standing, outcome]
  | false =>
    by_cases kept : inherited = .CANCELLED
    · simp [Own, begins, standing, outcome, kept]
    · simpa [Own, begins, standing, outcome, kept, controlStatus_cancelled] using fun _ => completed

/-- With all URBs accepted or not: those that are refused are missed. -/
theorem own_isochronous (ok : whole → status = 0) (all : whole → refused = false) :
    Own .isochronous inherited cancelled refused status whole ↔
      (inherited ≠ .COMPLETED → cancelled = true ∨ refused = true ∨ isoStatus status = .ERROR) ∧
        (cancelled = true → ¬ whole) := by
  have completed : whole → isoStatus status = .COMPLETED := by
    intro is
    rw [ok is]
    rfl
  have other : isoStatus status ≠ .CANCELLED := isoStatus_ne_cancelled
  cases cancelled with
  | true => simp [Own, standing, outcome]
  | false =>
    cases refused with
    | true => simpa [Own, standing, outcome] using all
    | false =>
      by_cases kept : inherited = .COMPLETED
      · simpa [Own, begins, standing, outcome, kept, other] using completed
      · have error : .ERROR = isoStatus status → ¬ whole := by
          intro is holds
          have ended := completed holds
          rw [← is] at ended
          cases ended
        simpa [Own, begins, standing, outcome, kept, eq_comm] using error

theorem own_bulk (ok : whole → status = 0) {requestType : RequestType} (bulk : requestType = .bulk ∨ requestType = .interrupt) :
    Own requestType inherited cancelled false status whole ↔ (cancelled = true → ¬ whole) := by
  have completed : whole → bulkStatus status = .COMPLETED := by
    intro is
    rw [ok is]
    rfl
  have other : bulkStatus status ≠ .CANCELLED := bulkStatus_ne_cancelled
  have same : Own requestType inherited cancelled false status whole = Own .bulk inherited cancelled false status whole := by
    rcases bulk with rfl | rfl <;> rfl
  rw [same]
  cases cancelled with
  | true => simp [Own, standing, outcome]
  | false => simpa [Own, begins, standing, outcome, other] using completed

end

theorem State.Whole.status {report : Report} (whole : s.Whole i report) : report.status = 0 := whole.2.2.1

/-- For the last URB of a submission it has to be its own status, and nothing before. -/
theorem State.Good.right_own (good : s.Good) (there : i ∈ s.flight) (report : Report) : s.Right (.complete i report) ↔
    (s.flight = [i] → Own s.request.requestType s.inherited s.cancelled s.refused report.status (s.Whole i report)) := by
  obtain ⟨own, inFlight, inFlight'⟩ := good (List.ne_nil_of_mem there)
  obtain ⟨reaped, is, told⟩ := inFlight.complete there report
  obtain ⟨fresh, is', told'⟩ := inFlight'.complete there report
  have right : s.Right (.complete i report) ↔ reaped.called = fresh.called ∧ ∀ status ∈ reaped.called,
      (status = .CANCELLED → s.cancelled = true) ∧ (s.Whole i report → status = .COMPLETED) := by
    simp [State.Right, is, is']
  rw [right]
  by_cases last : s.flight = [i]
  · rw [if_pos last] at told told'
    simp [told, told', last, Own]
  · rw [if_neg last] at told told'
    simp [told.1, told'.1, last]

theorem State.Good.right_single (good : s.Good) (there : i ∈ s.flight) (report : Report) {kind : RequestType}
    (is : s.request.requestType = kind) (single : kind ≠ .isochronous) : s.Right (.complete i report) ↔
    Own kind s.inherited s.cancelled false report.status (s.Whole i report) := by
  obtain ⟨own, inFlight, -⟩ := good (List.ne_nil_of_mem there)
  rw [is] at inFlight
  rw [good.right_own there, inFlight.last single there, is, (inFlight.alone single).2]
  exact forall_prop_of_true rfl

theorem State.Good.right_iff (good : s.Good) {event : Event} (possible : s.Possible room event) :
    s.Right event ↔ s.Careful event := by
  cases event with
  | fill requestType length packets => exact Iff.rfl
  | submit usbfs => exact Iff.rfl
  | cancel => exact Iff.rfl
  | complete i report =>
    have there : i ∈ s.flight := possible
    cases kind : s.request.requestType with
    | isochronous =>
      rw [good.right_own there, kind]
      simp only [State.Careful, kind]
      exact imp_congr_right fun _ => own_isochronous State.Whole.status (·.1)
    | control =>
      rw [good.right_single there report kind nofun]
      simp only [State.Careful, kind]
      exact own_control State.Whole.status
    | bulk =>
      rw [good.right_single there report kind nofun]
      simp only [State.Careful, kind]
      exact own_bulk State.Whole.status (.inl rfl)
    | interrupt =>
      rw [good.right_single there report kind nofun]
      simp only [State.Careful, kind]
      exact own_bulk State.Whole.status (.inr rfl)

theorem start_good : start.Good := fun flying => absurd rfl flying

/-- In a run of one request every submission tells its own status if and only if every URB is reaped carefully. -/
theorem request_right_iff (room : Nat) (run : List Event) :
    Takes (State.after room) (fun s event => s.Possible room event ∧ s.Right event) start run ↔
      Takes (State.after room) (fun s event => s.Possible room event ∧ s.Careful event) start run := by
  refine Takes.congr (fun s event (good : s.Good) => ?_) (fun s event good may => good.after may.1) start_good
  exact and_congr_right good.right_iff

def cancelledRun : List Event :=
  [.fill .control 16 [], .submit ⟨0, 1, 0⟩, .cancel, .complete 0 ⟨-enoent, 0, fun _ => (0, 0)⟩, .submit ⟨0, 1, 0⟩,
    .complete 0 ⟨0, 8, fun _ => (0, 0)⟩]

theorem cancelledRun_not_right : Takes (State.after 128) (State.Possible 128) start cancelledRun ∧
      ¬ Takes (State.after 128) (fun s event => s.Possible 128 event ∧ s.Right event) start cancelledRun := by
  refine ⟨by decide, ?_⟩
  rintro ⟨-, -, -, -, -, ⟨-, reaped, fresh, is, is', called, -⟩, -⟩
  -- the second submission tells CANCELLED, and a fresh request COMPLETED
  cases is
  cases is'
  cases called

end Peripheral.Usb.Host
