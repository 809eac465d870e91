import Peripheral.H4Framing
import Peripheral.Transitions

/-!
The events of the Bluetooth controller on their way from `H4Protocol::ReadData` through
`VendorInterface::OnEventReceived`, `vendor_interface.cpp`. The thread of the watcher reads
and handles them; the vendor library sends its commands from threads of its own and
writes the opcode of the last one, which the handler reads twice and clears.
-/
namespace Peripheral.Hci
open Peripheral.Transitions List

def eventCodeCommandComplete : UInt8 := 0x0E
def eventCodeVendorSpecific : UInt8 := 0xFF

def opcodeOf (data : List UInt8) : Option UInt16 :=
  let opcodeOffset := (header packetTypeEvent).headerSize + 1
  match data[opcodeOffset]?, data[opcodeOffset + 1]? with
  | some low, some high => some (low.toUInt16 + high.toUInt16 <<< 0x08)
  | _, _ => none

/-- Where the thread of the watcher is; `outside` is where a read leaves the event. -/
inductive WatcherPc
  | reading
  | test (data : List UInt8)
  | compare (data : List UInt8)
  | forget (data : List UInt8)
  | callback (data : List UInt8)
  | outside
  deriving DecidableEq

/-- `VendorInterface` with its reader and what the controller has sent. What was handed to `OnEventReceived`, to
    `eventDataCallback_`, and to the vendor for its own events and for its commands is recorded, and so is the
    opcode sent last until a command was completed with it. -/
structure VendorInterface where
  h4 : H4Protocol
  rest : List UInt8
  vendorSentOpcode : UInt16
  watcher : WatcherPc
  delivered : List (List UInt8)
  reached : List (List UInt8)
  vendorEvents : List (List UInt8)
  completed : List (List UInt8)
  awaited : Option UInt16
  deriving DecidableEq

def WatcherPc.handled : WatcherPc → List (List UInt8)
  | .reading | .outside => []
  | .test data | .compare data | .forget data | .callback data => [data]

/-- How many steps there are at most until the event is handled. -/
def WatcherPc.left : WatcherPc → Nat
  | .reading | .outside => 0
  | .callback _ => 1
  | .forget _ => 2
  | .compare _ => 3
  | .test _ => 4

namespace VendorInterface

/-- A call of `ReadData`; what it calls back with is handled next if it is an event. -/
def readData (s : VendorInterface) (choice : Nat) : VendorInterface :=
  match s.h4.readData s.rest choice with
  | (none, h4, rest) => { s with h4 := h4, rest := rest }
  | (some delivery, h4, rest) =>
    let s := { s with h4 := h4, rest := rest }
    if delivery.packetType = packetTypeEvent then
      { s with watcher := .test delivery.packet, delivered := s.delivered ++ [delivery.packet] }
    else s

/-- The next step of `OnEventReceived`. An opcode that is sent after the last one was cleared, but before the vendor is
    called, counts as sent after the call. -/
def onEventReceived (s : VendorInterface) : VendorInterface :=
  match s.watcher with
  | .reading | .outside => s
  | .test data =>
    match data[0]? with
    | none => { s with watcher := .outside }
    | some code =>
      if code = eventCodeVendorSpecific then
        { s with watcher := .callback data, vendorEvents := s.vendorEvents ++ [data] }
      else if s.vendorSentOpcode ≠ 0 ∧ code = eventCodeCommandComplete then { s with watcher := .compare data }
      else { s with watcher := .callback data }
  | .compare data =>
    match opcodeOf data with
    | none => { s with watcher := .outside }
    | some opcode => { s with watcher := if opcode = s.vendorSentOpcode then .forget data else .callback data }
  | .forget data =>
    { s with watcher := .callback data, vendorSentOpcode := 0, completed := s.completed ++ [data], awaited := none }
  | .callback data => { s with watcher := .reading, reached := s.reached ++ [data] }

/-- The write of `OnCmdXmitCallback`. -/
def onCmdXmitCallback (s : VendorInterface) (opcode : UInt16) : VendorInterface :=
  { s with vendorSentOpcode := opcode, awaited := some opcode }

inductive Event
  | sent (bytes : List UInt8)
  /-- The watcher sees bytes and `ReadData` takes some of them. -/
  | read (choice : Nat)
  | handle
  | xmit (opcode : UInt16)
  deriving DecidableEq

def after (s : VendorInterface) : Event → VendorInterface
  | .sent bytes => { s with rest := s.rest ++ bytes }
  | .read choice => if s.watcher = .reading then s.readData choice else s
  | .handle => s.onEventReceived
  | .xmit opcode => s.onCmdXmitCallback opcode

def start : VendorInterface := ⟨⟨0, [], 0⟩, [], 0, .reading, [], [], [], [], none⟩

/-- What is promised of a step and of the state behind it. -/
structure Right (s : VendorInterface) (e : Event) : Prop where
  /-- Every index is below the size of the event. -/
  inside : (s.after e).watcher ≠ .outside
  /-- All events that were delivered have reached the callback, once and in order, but for the one that is handled. -/
  once : (s.after e).delivered = (s.after e).reached ++ (s.after e).watcher.handled
  /-- An event that is handled gets nearer to the callback whenever the handler goes on, and never farther from it. -/
  onward : s.watcher ≠ .reading →
    (s.after e).watcher.left ≤ s.watcher.left ∧ (e = .handle → (s.after e).watcher.left < s.watcher.left)
  /-- A command is completed with the opcode that was sent last, which is forgotten then. -/
  matched : (s.after e).completed ≠ s.completed → ∃ data opcode,
    (s.after e).completed = s.completed ++ [data] ∧ opcodeOf data = some opcode ∧ s.awaited = some opcode ∧
      (s.after e).vendorSentOpcode = 0

/-- A command-complete event that is tested while an opcode is remembered has the bytes of its opcode, and the vendor does
    not send another opcode between the comparison and the clearing. -/
def Careful (s : VendorInterface) : Event → Prop
  | .sent _ | .read _ => True
  | .handle => ∀ data, s.watcher = .test data → data[0]? = some eventCodeCommandComplete → s.vendorSentOpcode ≠ 0 →
      5 ≤ data.length
  | .xmit opcode => ∀ data, s.watcher = .forget data → opcodeOf data = some opcode

/-! ### What holds between the steps -/

end VendorInterface

/-- The packet of the reader is empty or has the size of its header. -/
def H4Protocol.HasHeader (h : H4Protocol) : Prop :=
  h.hciPacket = [] ∨ (header h.packetType).headerSize ≤ h.hciPacket.length

theorem read_length_le (rest : List UInt8) (length choice : Nat) : (read rest length choice).1.length ≤ length := by
  simp only [read, length_take]
  omega

theorem H4Protocol.HasHeader.readData {h : H4Protocol} (hasHeader : h.HasHeader) (rest : List UInt8) (choice : Nat) :
    (h.readData rest choice).2.1.HasHeader ∧ ∀ delivery, (h.readData rest choice).1 = some delivery →
        (header delivery.packetType).headerSize < delivery.packet.length := by
  by_cases empty : h.hciPacket.length = 0
  · rw [H4Protocol.readData, if_pos empty]
    split
    · exact ⟨hasHeader, by simp⟩
    · split
      · refine ⟨.inr ?_, by simp⟩
        simp only [resize, length_append, length_take, length_replicate]
        omega
      · exact ⟨.inl (eq_nil_of_length_eq_zero empty), by simp⟩
  · have some_ : h.hciPacket ≠ [] := fun nil => empty (by rw [nil, length_nil])
    have size := hasHeader.resolve_left some_
    obtain ⟨packetType, packet, readLength⟩ := h
    have short := read_length_le rest (packet.length - readLength) choice
    cases taken : read rest (packet.length - readLength) choice with
    | mk bytes left =>
      cases bytes with
      | nil =>
        rw [H4Protocol.readData, if_neg empty]
        simp only [taken]
        split
        · exact ⟨hasHeader, by simp⟩
        · exact ⟨hasHeader, by simp⟩
      | cons byte more =>
        rw [taken, length_cons] at short
        have inside : readLength + (byte :: more).length ≤ packet.length := by
          rw [length_cons]
          omega
        by_cases phase : packet.length = (header packetType).headerSize
        · rw [readData_head some_ phase taken (cons_ne_nil byte more) inside]
          refine ⟨.inr ?_, by simp⟩
          dsimp only
          split
          · rw [length_append, store_length inside]
            omega
          · rw [store_length inside]
            exact size
        · have longer : (header packetType).headerSize < packet.length := lt_of_le_of_ne size (Ne.symm phase)
          rw [readData_body some_ phase taken (cons_ne_nil byte more) inside]
          split
          · refine ⟨.inl rfl, ?_⟩
            intro delivery called
            rw [H4Protocol.packetCallback] at called
            split at called
            · cases called
              dsimp only
              rwa [store_length inside]
            · cases called
          · refine ⟨.inr ?_, by simp⟩
            dsimp only
            rw [store_length inside]
            exact size

variable {data : List UInt8}

theorem exists_opcodeOf (long : 5 ≤ data.length) : ∃ opcode, opcodeOf data = some opcode := by
  have size : (header packetTypeEvent).headerSize = 2 := by decide
  have low : (header packetTypeEvent).headerSize + 1 < data.length := by omega
  have high : (header packetTypeEvent).headerSize + 1 + 1 < data.length := by omega
  rw [opcodeOf, getElem?_eq_getElem low, getElem?_eq_getElem high]
  exact ⟨_, rfl⟩

namespace VendorInterface

structure Good (s : VendorInterface) : Prop where
  header : s.h4.HasHeader
  long : ∀ data ∈ s.watcher.handled, 2 < data.length
  remembered : s.vendorSentOpcode ≠ 0 → s.awaited = some s.vendorSentOpcode
  compared : ∀ data, s.watcher = .compare data → 5 ≤ data.length ∧ s.awaited = some s.vendorSentOpcode
  equal : ∀ data, s.watcher = .forget data → ∃ opcode, opcodeOf data = some opcode ∧ s.awaited = some opcode
  inside : s.watcher ≠ .outside
  once : s.delivered = s.reached ++ s.watcher.handled

theorem Good.start : Good start where
  header := .inl rfl
  long := nofun
  remembered := fun some_ => absurd rfl some_
  compared := nofun
  equal := nofun
  inside := nofun
  once := rfl

section
variable {s : VendorInterface}

section
variable (good : s.Good)
include good

theorem Good.sent (bytes : List UInt8) : (s.after (.sent bytes)).Good :=
  ⟨good.header, good.long, good.remembered, good.compared, good.equal, good.inside, good.once⟩

theorem Good.readData (idle : s.watcher = .reading) (choice : Nat) : (s.readData choice).Good := by
  obtain ⟨kept, longer⟩ := good.header.readData s.rest choice
  have once : s.delivered = s.reached := by
    have once := good.once
    rwa [idle, WatcherPc.handled, append_nil] at once
  rw [VendorInterface.readData]
  split
  · next h4 rest called =>
    rw [called] at kept
    exact ⟨kept, good.long, good.remembered, good.compared, good.equal, good.inside, good.once⟩
  · next delivery h4 rest called =>
    rw [called] at kept longer
    dsimp only
    split
    · next event =>
      refine ⟨kept, ?_, good.remembered, nofun, nofun, nofun, ?_⟩
      · intro data handled
        have same : data = delivery.packet := by simpa [WatcherPc.handled] using handled
        have size : (Hci.header packetTypeEvent).headerSize = 2 := by decide
        have long := longer delivery rfl
        rw [event, size] at long
        rwa [same]
      · simp [WatcherPc.handled, once]
    · exact ⟨kept, good.long, good.remembered, good.compared, good.equal, good.inside, good.once⟩

theorem Good.xmit {opcode : UInt16} (careful : s.Careful (.xmit opcode)) : (s.after (.xmit opcode)).Good where
  header := good.header
  long := good.long
  remembered := fun _ => rfl
  compared := fun data compare => ⟨(good.compared data compare).1, rfl⟩
  equal := fun data forget => ⟨opcode, careful data forget, rfl⟩
  inside := good.inside
  once := good.once

theorem Good.toCallback (handled : s.watcher.handled = [data])
    {opcode : UInt16} {awaited : Option UInt16} (remembered : opcode ≠ 0 → awaited = some opcode)
    (vendorEvents completed : List (List UInt8)) :
    Good { s with
      watcher := .callback data, vendorSentOpcode := opcode, awaited := awaited
      vendorEvents := vendorEvents, completed := completed } where
  header := good.header
  long := by
    have long := good.long
    rwa [handled] at long
  remembered := remembered
  compared := nofun
  equal := nofun
  inside := nofun
  once := by
    have once := good.once
    rwa [handled] at once

theorem Good.test (at_ : s.watcher = .test data) (careful : s.Careful .handle) : s.onEventReceived.Good := by
  have handled : s.watcher.handled = [data] := by rw [at_, WatcherPc.handled]
  have long : 2 < data.length := good.long data (by simp [handled])
  obtain ⟨code, behind, rfl⟩ := exists_cons_of_length_pos (by omega : 0 < data.length)
  simp only [onEventReceived, at_, getElem?_cons_zero]
  split
  · exact good.toCallback handled good.remembered _ _
  · split
    · next remembered =>
      refine ⟨good.header, ?_, good.remembered, ?_, nofun, nofun, ?_⟩
      · simpa [WatcherPc.handled] using long
      · intro data same
        cases same
        exact ⟨careful _ at_ (by simp [remembered.2]) remembered.1, good.remembered remembered.1⟩
      · rw [good.once, handled, WatcherPc.handled]
    · exact good.toCallback handled good.remembered _ _

theorem Good.compare (at_ : s.watcher = .compare data) : s.onEventReceived.Good := by
  have handled : s.watcher.handled = [data] := by rw [at_, WatcherPc.handled]
  obtain ⟨long, awaited⟩ := good.compared data at_
  obtain ⟨opcode, read⟩ := exists_opcodeOf long
  simp only [onEventReceived, at_, read]
  split
  · next same =>
    refine ⟨good.header, ?_, good.remembered, nofun, ?_, nofun, ?_⟩
    · simpa [WatcherPc.handled] using (by omega : 2 < data.length)
    · intro data' same'
      cases same'
      exact ⟨opcode, read, by rw [awaited, same]⟩
    · rw [good.once, handled, WatcherPc.handled]
  · exact good.toCallback handled good.remembered _ _

theorem Good.handle (careful : s.Careful .handle) : s.onEventReceived.Good := by
  cases at_ : s.watcher with
  | reading =>
    rw [onEventReceived, at_]
    exact good
  | outside => exact absurd at_ good.inside
  | test data => exact good.test at_ careful
  | compare data => exact good.compare at_
  | forget data =>
    rw [onEventReceived, at_]
    exact good.toCallback (by rw [at_, WatcherPc.handled]) (fun some_ => absurd rfl some_) _ _
  | callback data =>
    rw [onEventReceived, at_]
    refine ⟨good.header, nofun, good.remembered, nofun, nofun, nofun, ?_⟩
    have once := good.once
    rw [at_, WatcherPc.handled] at once
    rw [once, WatcherPc.handled, append_nil]

theorem Good.after {e : Event} (careful : s.Careful e) : (s.after e).Good := by
  cases e with
  | sent bytes => exact good.sent bytes
  | read choice =>
    rw [VendorInterface.after]
    split
    · next idle => exact good.readData idle choice
    · exact good
  | handle => exact good.handle careful
  | xmit opcode => exact good.xmit careful

end

theorem onEventReceived_left (busy : s.watcher ≠ .reading) (inside : s.watcher ≠ .outside) :
    s.onEventReceived.watcher.left < s.watcher.left := by
  cases at_ : s.watcher with
  | reading => exact absurd at_ busy
  | outside => exact absurd at_ inside
  | test data =>
    rw [onEventReceived, at_]
    dsimp only
    split
    · simp [WatcherPc.left]
    · split
      · simp [WatcherPc.left]
      · split <;> simp [WatcherPc.left]
  | compare data =>
    rw [onEventReceived, at_]
    dsimp only
    split
    · simp [WatcherPc.left]
    · split <;> simp [WatcherPc.left]
  | forget data | callback data => simp [onEventReceived, at_, WatcherPc.left]

theorem after_left (inside : s.watcher ≠ .outside) (e : Event) (busy : s.watcher ≠ .reading) :
    (s.after e).watcher.left ≤ s.watcher.left ∧ (e = .handle → (s.after e).watcher.left < s.watcher.left) := by
  have less := onEventReceived_left busy inside
  cases e with
  | sent bytes | xmit opcode => exact ⟨Nat.le_refl _, nofun⟩
  | read choice =>
    rw [after, if_neg busy]
    exact ⟨Nat.le_refl _, nofun⟩
  | handle => exact ⟨Nat.le_of_lt less, fun _ => less⟩

@[simp] theorem readData_completed (choice : Nat) : (s.readData choice).completed = s.completed := by
  rw [readData]
  split
  · rfl
  · dsimp only
    split <;> rfl

theorem forgets_of_completed {e : Event} (more : (s.after e).completed ≠ s.completed) :
    e = .handle ∧ ∃ data, s.watcher = .forget data := by
  cases e with
  | sent bytes | xmit opcode => exact absurd rfl more
  | read choice =>
    rw [after] at more
    split at more
    · exact absurd (readData_completed choice) more
    · exact absurd rfl more
  | handle =>
    refine ⟨rfl, ?_⟩
    rw [after, onEventReceived] at more
    split at more
    · exact absurd rfl more
    · exact absurd rfl more
    · split at more
      · exact absurd rfl more
      · split at more
        · exact absurd rfl more
        · split at more <;> exact absurd rfl more
    · split at more <;> exact absurd rfl more
    · next data forget => exact ⟨data, forget⟩
    · exact absurd rfl more

theorem Good.right (good : s.Good) {e : Event} (careful : s.Careful e) : s.Right e := by
  have kept := good.after careful
  refine ⟨kept.inside, kept.once, after_left good.inside e, ?_⟩
  intro more
  obtain ⟨rfl, data, forget⟩ := forgets_of_completed more
  obtain ⟨opcode, read, awaited⟩ := good.equal data forget
  refine ⟨data, opcode, ?_, read, awaited, ?_⟩
  · simp [VendorInterface.after, onEventReceived, forget]
  · simp [VendorInterface.after, onEventReceived, forget]

end

/-- In a run whose steps are careful the events are handled as promised. -/
theorem hciEvents_right (run : List Event) (careful : Takes after Careful start run) : Takes after Right start run :=
  careful.mono (fun _ _ good careful => ⟨good.right careful, good.after careful⟩) Good.start

def shortCompletion : List Event :=
  [.xmit 0x0C03, .sent [0x04, 0x0E, 0x01, 0x01], .read 1, .read 2, .read 1, .handle, .handle]

theorem shortCompletion_not_right : ¬ Takes after Right start shortCompletion := by
  intro right
  exact right.2.2.2.2.2.2.1.inside (by decide)

/-- A reset that is sent and completed. -/
theorem reset_right : Takes after Right start
    [.xmit 0x0C03, .sent [0x04, 0x0E, 0x04, 0x01, 0x03, 0x0C, 0x00], .read 1, .read 2, .read 4, .handle, .handle, .handle,
      .handle] :=
  hciEvents_right _ ⟨nofun, trivial, trivial, trivial, trivial, fun data at_ _ _ => by cases at_; decide,
    nofun, nofun, nofun, trivial⟩

end VendorInterface

end Peripheral.Hci
