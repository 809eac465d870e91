import Mathlib.Data.List.Flatten
import Peripheral.UsbSerialRequests

/-!
The bytes that are written to the serial port. They leave the fifo in order, each
once, into requests that are submitted; the bytes of a request that the controller
refuses are not put back.
-/
namespace Peripheral.UsbSerial
open Controller Gadget List

/-- What an event takes from its caller: the part of the string that `UsbSerialWrite` reports as written. -/
def Gadget.taken (g : Gadget) : Event → List UInt8
  | .write (some text) =>
    if g.port.locked then []
    else match (usbSerialWrite g (some text)).1 with
      | none => []
      | some size => text.take size.toNat
  | _ => []

def Gadget.accepted : Gadget → List Event → List UInt8
  | _, [] => []
  | g, e :: events => g.taken e ++ (g.step e).accepted events

/-- The payloads of the submitted write requests and the fifo together are what was taken. -/
def Conserved (g : Gadget) (accepted : List UInt8) : Prop :=
  (g.controller.writes.filter Submission.accepted).flatMap Submission.payload ++ g.port.writeFifo.contents = accepted

def Event.StaysOpen : Event → Prop
  | .disable | .closePort => False
  | _ => True

structure Flow (accepted : List UInt8) (port : Port) (c : Controller) : Prop where
  valid : port.writeFifo.Valid
  law : c.writes.flatMap Submission.payload ++ port.writeFifo.contents = accepted
  some_ : ∀ w ∈ c.writes, w.payload ≠ []

section
variable {accepted : List UInt8} {port : Port} {c : Controller}

variable {c' : Controller} {port' : Port}

theorem Flow.same (flow : Flow accepted port c) (fifo : port'.writeFifo = port.writeFifo)
    (writes : c'.writes = c.writes) : Flow accepted port' c' := by
  refine ⟨?_, ?_, ?_⟩
  · rw [fifo]
    exact flow.valid
  · rw [fifo, writes]
    exact flow.law
  · rw [writes]
    exact flow.some_

theorem Flow.submitted {maxIn : UInt16} {bytes : List UInt8} (flow : Flow accepted port c) (answer : Bool)
    (next : bytes = (port.writeFifo.read maxIn.toUInt32).1) (some_ : bytes ≠ [])
    (fifo : port'.writeFifo = (port.writeFifo.read maxIn.toUInt32).2) (writes : c'.writes = c.writes ++ [⟨bytes, answer⟩]) :
    Flow accepted port' c' := by
  obtain ⟨taken, left, kept, _⟩ := flow.valid.read maxIn.toUInt32
  refine ⟨?_, ?_, ?_⟩
  · rw [fifo]
    exact kept
  · rw [fifo, writes, left, ← flow.law, flatMap_append, next, taken]
    simp
  · rw [writes]
    intro w member
    rcases mem_append.mp member with before | now
    · exact flow.some_ w before
    · rw [mem_singleton.mp now]
      exact some_

theorem Flow.round {maxIn : UInt16} (round : TxRound maxIn port c port' c')
    (flow : Flow accepted port c) : Flow accepted port' c' := by
  cases round with
  | idle empty =>
    obtain ⟨taken, left, kept, _⟩ := flow.valid.read maxIn.toUInt32
    refine ⟨kept, ?_, flow.some_⟩
    have whole := take_append_drop maxIn.toUInt32.toNat port.writeFifo.contents
    rw [← taken, empty, nil_append, ← left] at whole
    simp only [whole]
    exact flow.law
  | refused _ next some_ => exact flow.submitted false next some_ rfl rfl
  | accepted _ next some_ _ => exact flow.submitted true next some_ rfl rfl

theorem Flow.startTx (maxIn : UInt16) (flow : Flow accepted port c) :
    Flow accepted (usbSerialStartTx maxIn port c).1 (usbSerialStartTx maxIn port c).2 := usbSerialStartTx_rounds Flow.round flow

/-! ### What does not touch the bytes -/

theorem startRx_same (rounds : Nat) : (startRx rounds port c).1.writeFifo = port.writeFifo ∧
    (startRx rounds port c).2.writes = c.writes := by
  induction rounds generalizing port c with
  | zero => exact ⟨rfl, rfl⟩
  | succ rounds ih =>
    unfold startRx
    split
    · exact ⟨rfl, rfl⟩
    · split
      · exact ⟨rfl, rfl⟩
      · cases answer : c.answers c.asked with
        | false => simp [submitRead, ask, answer]
        | true =>
          simp only [submitRead, ask, answer, if_true]
          exact ih

theorem rxPush_same (inFifo : Bool) (queue : List Request) : (rxPush inFifo queue port).writeFifo = port.writeFifo := by
  induction queue generalizing port with
  | nil => rfl
  | cons req queue ih => exact ih

theorem usbSerialFreeRequests_same (pool : List Request) (allocated : Int) :
    (usbSerialFreeRequests pool allocated c).2.writes = c.writes := by
  induction pool generalizing allocated c with
  | nil => rfl
  | cons req pool ih => exact ih _

theorem allocRequests_same (num : Nat) (pool : List Request) (allocated : Int) :
    (allocRequests num pool allocated c).2.2.2.writes = c.writes := by
  induction num generalizing pool allocated c with
  | zero => rfl
  | succ num ih =>
    unfold allocRequests
    cases answer : c.answers c.asked with
    | false => simp only [allocRequest, ask, answer, Bool.false_eq_true, if_false]
    | true =>
      simp only [allocRequest, ask, answer, if_true]
      exact ih _ _

theorem Flow.startRx (flow : Flow accepted port c) : Flow accepted (usbSerialStartRx port c).1 (usbSerialStartRx port c).2 :=
  flow.same (startRx_same _).1 (startRx_same _).2

theorem Flow.rxPush (inFifo : Bool) (flow : Flow accepted port c) :
    Flow accepted (usbSerialRxPush inFifo port c).1 (usbSerialRxPush inFifo port c).2 := by
  have pushed : Flow accepted (UsbSerial.rxPush inFifo port.readQueue port) c := flow.same (rxPush_same inFifo _) rfl
  unfold usbSerialRxPush
  simp only
  split
  · exact pushed.startRx
  · exact pushed

section
variable (flow : Flow accepted port c)
include flow

theorem Flow.ensureReads : Flow accepted (UsbSerial.ensureReads port c).2.1 (UsbSerial.ensureReads port c).2.2 := by
  unfold UsbSerial.ensureReads
  split
  · exact flow.same rfl (allocRequests_same queueSize.toNat port.readPool port.readAllocated)
  · exact flow

theorem Flow.ensureWrites : Flow accepted (UsbSerial.ensureWrites port c).2.1 (UsbSerial.ensureWrites port c).2.2 := by
  unfold UsbSerial.ensureWrites
  split
  · exact flow.same rfl (allocRequests_same queueSize.toNat port.writePool port.writeAllocated)
  · exact flow

theorem Flow.freeRead :
    Flow accepted (freeReadRequests port c).1 (freeReadRequests port c).2 := flow.same rfl (usbSerialFreeRequests_same _ _)

theorem Flow.freeWrite :
    Flow accepted (freeWriteRequests port c).1 (freeWriteRequests port c).2 := flow.same rfl (usbSerialFreeRequests_same _ _)

end

theorem usbSerialAllocFifo_same (fifo : DataFifo) (size : UInt32) : (usbSerialAllocFifo fifo size c).2.2.writes = c.writes := by
  unfold usbSerialAllocFifo
  split
  · rfl
  · cases answer : c.answers c.asked with
    | false => simp only [ask, answer]
    | true => simp only [ask, answer]

theorem usbSerialAllocFifo_contents {fifo : DataFifo} (valid : fifo.Valid) (size : UInt32) (power : ∃ k, size.toNat = 2 ^ k) :
    (usbSerialAllocFifo fifo size c).2.1.Valid ∧ (usbSerialAllocFifo fifo size c).2.1.contents = fifo.contents := by
  unfold usbSerialAllocFifo
  split
  · exact ⟨valid, rfl⟩
  · rename_i missing
    have zero : fifo.size = 0 := by simpa [DataFifo.isInitialized] using missing
    have empty : fifo.contents = [] := by
      apply eq_nil_of_length_eq_zero
      have bounded := valid.bounded
      rw [zero] at bounded
      rw [DataFifo.length_contents]
      exact Nat.le_zero.mp bounded
    cases answer : c.answers c.asked with
    | false =>
      simp only [ask, answer]
      exact ⟨valid, trivial⟩
    | true =>
      simp only [ask, answer]
      refine ⟨.init (.inr power) (by simp), ?_⟩
      rw [empty, DataFifo.contents_init]

theorem Flow.allocFifos (flow : Flow accepted port c) :
    Flow accepted (UsbSerial.allocFifos port c).2.1 (UsbSerial.allocFifos port c).2.2 := by
  have first : Flow accepted { port with writeFifo := (usbSerialAllocFifo port.writeFifo writeBufSize c).2.1 }
      (usbSerialAllocFifo port.writeFifo writeBufSize c).2.2 := by
    obtain ⟨valid, contents⟩ := usbSerialAllocFifo_contents (c := c) flow.valid writeBufSize ⟨13, rfl⟩
    have writes := usbSerialAllocFifo_same (c := c) port.writeFifo writeBufSize
    refine ⟨valid, ?_, ?_⟩
    · rw [contents, writes]
      exact flow.law
    · rw [writes]
      exact flow.some_
  unfold UsbSerial.allocFifos
  split
  · rename_i failed
    rw [failed] at first
    exact first
  · rename_i there
    rw [there] at first
    exact first.same rfl (usbSerialAllocFifo_same _ _)

theorem flow_keeps (maxIn : UInt16) (accepted : List UInt8) : Keeps maxIn (Flow accepted) where
  flags flow _ _ _ _ := flow.same rfl rfl
  fifos := Flow.allocFifos
  reads := Flow.ensureReads
  writes := Flow.ensureWrites
  rx := Flow.startRx
  tx := Flow.startTx maxIn
  freeRead := Flow.freeRead
  freeWrite := Flow.freeWrite

end

abbrev Gadget.Flow (g : Gadget) (accepted : List UInt8) : Prop := UsbSerial.Flow accepted g.port g.controller

section
variable {g : Gadget} {accepted : List UInt8}

section
variable (flow : g.Flow accepted)
include flow

theorem usbSerialRead_flow : (usbSerialRead g).2.Flow accepted := by
  unfold usbSerialRead
  split
  · exact flow
  · have taken : ∀ fifo, UsbSerial.Flow accepted { g.port with readFifo := fifo } g.controller.ask.2 := fun fifo =>
      flow.same rfl rfl
    cases answer : g.controller.answers g.controller.asked with
    | false =>
      simp only [ask, answer]
      exact flow.same rfl rfl
    | true =>
      simp only [ask, answer]
      split
      · exact (taken _).startRx
      · exact taken _

theorem usbSerialWrite_flow (free : g.port.locked = false) (data : Option (List UInt8)) :
    (usbSerialWrite g data).2.Flow (accepted ++ g.taken (.write data)) := by
  cases data with
  | none =>
    simp only [taken, append_nil]
    exact flow.same rfl rfl
  | some text =>
    cases answer : g.controller.answers g.controller.asked with
    | false =>
      simp only [taken, free, usbSerialWrite, ask, answer, Bool.false_eq_true, if_false, append_nil]
      exact flow.same rfl rfl
    | true =>
      by_cases long : text.length + 1 > stringMaxLen
      · simp only [taken, free, usbSerialWrite, ask, answer, Bool.false_eq_true, if_false, if_pos long, append_nil]
        exact flow.same rfl rfl
      · have small : (UInt32.ofNat text.length).toNat = text.length := by
          unfold stringMaxLen at long
          rw [UInt32.toNat_ofNat_of_lt']
          simp [UInt32.size]
          omega
        have whole : (UInt32.ofNat text.length).toNat ≤ text.length := by rw [small]
        obtain ⟨_, contents, valid, _⟩ := flow.valid.write whole
        simp only [taken, free, usbSerialWrite, ask, answer, Bool.false_eq_true, if_false, if_neg long]
        apply UsbSerial.Flow.startTx
        refine ⟨valid, ?_, flow.some_⟩
        rw [contents, ← append_assoc, flow.law]

theorem readComplete_flow (req req' : Request) :
    (usbSerialReadComplete { g with controller := { g.controller with reading := g.controller.reading.erase req } }
      req').Flow accepted := by
  have queued : UsbSerial.Flow accepted { g.port with readQueue := g.port.readQueue ++ [req'] }
      { g.controller with reading := g.controller.reading.erase req } := flow.same rfl rfl
  exact queued.rxPush g.inFifo

theorem writeComplete_flow (req req' : Request) :
    (usbSerialWriteComplete { g with controller := { g.controller with writing := g.controller.writing.erase req } }
      req').Flow accepted := by
  have back : UsbSerial.Flow accepted
      { g.port with writePool := g.port.writePool ++ [req'], writeStarted := g.port.writeStarted - 1 }
      { g.controller with writing := g.controller.writing.erase req } := flow.same rfl rfl
  unfold usbSerialWriteComplete
  cases req'.status with
  | completed => exact back.startTx g.maxIn
  | noDevice => exact back
  | other => exact back

theorem step_flow {e : Event} (stays : e.StaysOpen) : (g.step e).Flow (accepted ++ g.taken e) := by
  unfold step
  split
  · rename_i locked
    have nothing : g.taken e = [] := by
      cases e with
      | write data =>
        cases data with
        | none => rfl
        | some text => simp [taken, locked]
      | _ => rfl
    rw [nothing, append_nil]
    exact flow
  · rename_i free
    have unlocked : g.port.locked = false := by simpa using free
    have untouched : ∀ {g' : Gadget}, g'.Flow accepted → g'.Flow (accepted ++ []) := by
      intro g' flow
      rw [append_nil]
      exact flow
    cases e with
    | write data => exact usbSerialWrite_flow flow unlocked data
    | disable => exact stays.elim
    | closePort => exact stays.elim
    | enable => exact untouched ((flow_keeps g.maxIn accepted).acmEnable flow)
    | suspend => exact untouched (flow.same rfl rfl)
    | resume => exact untouched ((flow_keeps g.maxIn accepted).acmResume flow)
    | openPort => exact untouched ((flow_keeps g.maxIn accepted).usbSerialOpen flow)
    | read => exact untouched (usbSerialRead_flow flow)
    | readComplete address status received =>
      simp only [handle, taken, append_nil]
      split
      · exact flow
      · exact readComplete_flow flow _ _
    | writeComplete address status =>
      simp only [handle, taken, append_nil]
      split
      · exact flow
      · exact writeComplete_flow flow _ _

end

theorem run_flow (events : List Event) (stays : ∀ e ∈ events, e.StaysOpen) (flow : g.Flow accepted) :
    (g.run events).Flow (accepted ++ g.accepted events) := by
  induction events generalizing g accepted with
  | nil =>
    rw [Gadget.accepted, append_nil]
    exact flow
  | cons e events ih =>
    have first := step_flow flow (stays e (mem_cons_self ..))
    rw [Gadget.accepted, ← append_assoc]
    exact ih (fun e' member => stays e' (mem_cons_of_mem _ member)) first

theorem accepted_of_flatMap_filter {writes : List Submission} (some_ : ∀ w ∈ writes, w.payload ≠ [])
    (same : (writes.filter Submission.accepted).flatMap Submission.payload = writes.flatMap Submission.payload) :
    ∀ w ∈ writes, w.accepted = true := by
  induction writes with
  | nil => simp
  | cons w writes ih =>
    rw [forall_mem_cons] at some_ ⊢
    cases answer : w.accepted with
    | true =>
      rw [filter_cons_of_pos answer, flatMap_cons, flatMap_cons, append_right_inj] at same
      exact ⟨rfl, ih some_.2 same⟩
    | false =>
      rw [filter_cons_of_neg (by simp [answer]), flatMap_cons] at same
      have shorter := ((filter_sublist (p := Submission.accepted) (l := writes)).flatMap Submission.payload).length_le
      have lengths := congrArg length same
      have positive := length_pos_of_ne_nil some_.1
      rw [length_append] at lengths
      omega

theorem Flow.conserved_iff (flow : g.Flow accepted) : Conserved g accepted ↔ ∀ w ∈ g.controller.writes, w.accepted = true := by
  unfold Conserved
  rw [← flow.law, append_left_inj]
  constructor
  · exact accepted_of_flatMap_filter flow.some_
  · intro all
    rw [filter_eq_self.mpr all]

end

theorem start_flow (maxIn : UInt16) (inFifo : Bool) (answers : Nat → Bool) : (start maxIn inFifo answers).Flow [] := by
  refine ⟨.init (.inl rfl) rfl, ?_, by simp [start]⟩
  simp only [start, flatMap_nil, nil_append]
  exact DataFifo.contents_init 0 []

/-- No byte is lost, doubled or moved exactly when the controller refuses no write request. -/
theorem conserved_iff_none_refused (maxIn : UInt16) (inFifo : Bool) (answers : Nat → Bool) (events : List Event)
    (stays : ∀ e ∈ events, e.StaysOpen) :
    let g := start maxIn inFifo answers
    Conserved (g.run events) (g.accepted events) ↔ ∀ w ∈ (g.run events).controller.writes, w.accepted = true := by
  have flow := run_flow events stays (start_flow maxIn inFifo answers)
  exact UsbSerial.Flow.conserved_iff flow

def writeOnce : List Event := [.enable, .openPort, .write (some [0x61, 0x62])]

theorem writeOnce_stays : ∀ e ∈ writeOnce, e.StaysOpen := by
  simp [writeOnce, Event.StaysOpen]

/-- The controller accepts everything. -/
theorem writeOnce_conserved : (∀ e ∈ writeOnce, e.StaysOpen) ∧
    Conserved ((start 64 true fun _ => true).run writeOnce) [0x61, 0x62] := by
  refine ⟨writeOnce_stays, ?_⟩
  have whole : (start 64 true fun _ => true).accepted writeOnce = [0x61, 0x62] := by decide +kernel
  have all : ∀ w ∈ ((start 64 true fun _ => true).run writeOnce).controller.writes, w.accepted = true := by
    decide +kernel
  rw [← whole]
  exact (conserved_iff_none_refused 64 true (fun _ => true) writeOnce writeOnce_stays).mpr all

/-- The controller accepts everything but the one write request. -/
theorem writeOnce_not_conserved : (∀ e ∈ writeOnce, e.StaysOpen) ∧
    let g := start 64 true fun k => k ≠ 27
    g.accepted writeOnce = [0x61, 0x62] ∧ ¬ Conserved (g.run writeOnce) (g.accepted writeOnce) := by
  refine ⟨writeOnce_stays, ?_, ?_⟩
  · decide +kernel
  · unfold Conserved
    decide +kernel

end Peripheral.UsbSerial
