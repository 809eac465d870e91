import Peripheral.DataFifoRuns
import Peripheral.UsbEcm

/-!
What the serial ports receive, on the three paths there are: the two of the gadget, and `AcmReadBulk` of the host in
`usb_serial.c`. Each makes room in a full fifo and writes what a completed transfer has brought. Beside the port stand the
bytes that the fifo held first with all that was received since, and what the readers have taken.
-/
namespace Peripheral.SerialReceive
open Transitions List
open UsbSerial (Request)

def acmReadBulk (fifo : DataFifo) (status : Int32) (buffer : List UInt8) : DataFifo :=
  if status = 0 then
    if buffer ≠ [] then
      let size := UInt32.ofNat buffer.length
      let fifo := if fifo.isFull then fifo.skip size else fifo
      (fifo.write buffer size).2
    else fifo
  else fifo

inductive Port
  | acm (port : UsbSerial.Port) (controller : UsbSerial.Controller)
  | ecm (port : UsbEcm.Port)
  | host (fifo : DataFifo)

namespace Port

def fifo : Port → DataFifo
  | .acm port _ => port.readFifo
  | .ecm port => port.readFifo
  | .host fifo => fifo

/-- A transfer is completed; `inFifo` is the flag of the serial gadget, and `a` answers the network port. -/
def receive (data : List UInt8) (inFifo : Bool) (a : UsbEcm.Answers) : Port → Port
  | .acm port controller =>
    let (port, controller) := UsbSerial.usbSerialRxPush inFifo { port with readQueue := [⟨0, data, .completed⟩] } controller
    .acm port controller
  | .ecm port => .ecm (UsbEcm.usbEcmRxPush a { port with readQueue := [⟨0, data, .completed⟩] })
  | .host fifo => .host (acmReadBulk fifo 0 data)

def setFifo (fifo : DataFifo) : Port → Port
  | .acm port controller => .acm { port with readFifo := fifo } controller
  | .ecm port => .ecm { port with readFifo := fifo }
  | .host _ => .host fifo

def isAcm : Port → Bool
  | .acm _ _ => true
  | .ecm _ | .host _ => false

end Port

/-- The port, the bytes that were there and were received, and what each reader has obtained. -/
structure Receiver where
  port : Port
  stream : List UInt8
  taken : List (List UInt8)

def start (port : Port) : Receiver := ⟨port, port.fifo.contents, []⟩

inductive Event
  | transfer (data : List UInt8) (inFifo : Bool) (a : UsbEcm.Answers)
  | read (size : UInt32)

def step (r : Receiver) : Event → Receiver
  | .transfer data inFifo a => { r with port := r.port.receive data inFifo a, stream := r.stream ++ data }
  | .read size =>
    let (bytes, fifo) := r.port.fifo.read size
    { r with port := r.port.setFifo fifo, taken := r.taken ++ [bytes] }

/-- The fifo holds the newest bytes, and before them stands what the readers obtained, one after the other, each behind the
    bytes that were dropped before it. -/
def Newest (r : Receiver) : Prop :=
  ∃ gaps dropped, gaps.length = r.taken.length ∧
    r.stream = (zipWith (· ++ ·) gaps r.taken).flatten ++ dropped ++ r.port.fifo.contents

structure Right (r : Receiver) (e : Event) : Prop where
  suffix : (step r e).port.fifo.contents <:+ (step r e).stream
  newest : Newest (step r e)
  whole : ∀ data inFifo a, e = .transfer data inFifo a → data <:+ (step r e).port.fifo.contents

/-- A transfer has up to 8192 bytes and finds the fifo full or fits; the serial gadget buffers what it receives. -/
def Fits (r : Receiver) : Event → Prop
  | .transfer data inFifo _ => 0 < data.length ∧ data.length ≤ 8192 ∧ (r.port.isAcm → inFifo) ∧
      (r.port.fifo.isFull ∨ data.length ≤ r.port.fifo.availSize.toNat)
  | .read _ => True

/-- What the paths do to their fifos. -/
def push (fifo : DataFifo) (data : List UInt8) : DataFifo :=
  ((if fifo.isFull then fifo.skip (UInt32.ofNat data.length) else fifo).write data (UInt32.ofNat data.length)).2

section
variable {fifo : DataFifo} {data : List UInt8}

theorem startRx_readFifo (rounds : Nat) (port : UsbSerial.Port) (c : UsbSerial.Controller) :
    (UsbSerial.startRx rounds port c).1.readFifo = port.readFifo := by
  induction rounds generalizing port c with
  | zero => rfl
  | succ rounds ih =>
    rw [UsbSerial.startRx]
    split
    · rfl
    · split
      · rfl
      · split
        · rfl
        · exact ih _ _

theorem ecm_startRx_readFifo (a : UsbEcm.Answers) (rounds i : Nat) (port : UsbEcm.Port) :
    (UsbEcm.startRx a rounds i port).readFifo = port.readFifo := by
  induction rounds generalizing i port with
  | zero => rfl
  | succ rounds ih =>
    rw [UsbEcm.startRx]
    split
    · rfl
    · split
      · rfl
      · split
        · rfl
        · exact ih _ _

theorem receive_fifo (port : Port) (some_ : 0 < data.length) {inFifo : Bool}
    (buffers : port.isAcm → inFifo) (a : UsbEcm.Answers) : (port.receive data inFifo a).fifo = push port.fifo data := by
  have nonempty : data ≠ [] := length_pos_iff.mp some_
  cases port with
  | acm port controller =>
    have pushed : UsbSerial.pushBytes inFifo port.readFifo ⟨0, data, .completed⟩ = push port.readFifo data := by
      simp [UsbSerial.pushBytes, push, buffers rfl, nonempty]
    simp only [Port.receive, Port.fifo, UsbSerial.usbSerialRxPush]
    split
    · exact (startRx_readFifo _ _ _).trans pushed
    · exact pushed
  | ecm port =>
    have pushed : (UsbEcm.rxPush [⟨0, data, .completed⟩] { port with readQueue := [⟨0, data, .completed⟩] }).readFifo =
        push port.readFifo data := by
      simp [UsbEcm.rxPush, UsbEcm.push, UsbEcm.pushBytes, push, nonempty]
    simp only [Port.receive, Port.fifo, UsbEcm.usbEcmRxPush]
    split
    · exact (ecm_startRx_readFifo a _ _ _).trans pushed
    · exact pushed
  | host fifo =>
    rw [Port.receive, acmReadBulk, if_pos rfl, if_pos nonempty]
    rfl

theorem isFull_iff (valid : fifo.Valid) (size : fifo.size = 8192) : fifo.isFull ↔ fifo.len.toNat = 8192 := by
  have bounded := valid.bounded
  rw [size] at bounded
  change fifo.len.toNat ≤ 8192 at bounded
  have last : (fifo.size - 1).toNat = 8191 := by rw [size]; rfl
  simp only [DataFifo.isFull, decide_eq_true_eq, gt_iff_lt, UInt32.lt_iff_toNat_lt, last]
  omega

theorem push_contents (valid : fifo.Valid) (size : fifo.size = 8192) (small : data.length ≤ 8192) :
    (push fifo data).Valid ∧ (push fifo data).size = 8192 ∧ (push fifo data).contents =
      fifo.contents.drop (if fifo.isFull then data.length else 0) ++
        data.take (if fifo.isFull then data.length else 8192 - fifo.len.toNat) := by
  have length : (UInt32.ofNat data.length).toNat = data.length := UInt32.toNat_ofNat_of_lt' (Nat.lt_of_le_of_lt small (by decide))
  rw [push]
  by_cases full : fifo.isFull
  · have all := (isFull_iff valid size).mp full
    have there : UInt32.ofNat data.length ≤ fifo.len := by
      rw [UInt32.le_iff_toNat_le, length, all]
      exact small
    obtain ⟨contents, valid', size'⟩ := valid.skip there
    obtain ⟨count, written, valid'', size''⟩ := valid'.write (Nat.le_of_eq length)
    have left : (fifo.skip (UInt32.ofNat data.length)).len.toNat = 8192 - data.length := by
      rw [← DataFifo.length_contents, contents, length_drop, DataFifo.length_contents, all, length]
    rw [size', size, left, length] at count
    change _ = min data.length (8192 - _) at count
    simp only [if_pos full]
    refine ⟨valid'', size''.trans (size'.trans size), ?_⟩
    rw [written, contents, count, length, Nat.min_eq_left (by omega)]
  · obtain ⟨count, written, valid', size'⟩ := valid.write (Nat.le_of_eq length)
    simp only [if_neg full]
    refine ⟨valid', size'.trans size, ?_⟩
    rw [written, count, size, length, drop_zero]
    change _ ++ data.take (min data.length (8192 - _)) = _
    congr 1
    rw [take_eq_take_iff]
    omega

theorem push_whole (valid : fifo.Valid) (size : fifo.size = 8192) (small : data.length ≤ 8192)
    (room : fifo.isFull ∨ data.length ≤ fifo.availSize.toNat) : ∃ k, (push fifo data).contents = fifo.contents.drop k ++ data := by
  obtain ⟨-, -, contents⟩ := push_contents valid size small
  by_cases full : fifo.isFull
  · refine ⟨data.length, ?_⟩
    rw [contents, if_pos full, if_pos full, take_length]
  · have bounded := valid.bounded
    rw [size] at bounded
    change fifo.len.toNat ≤ 8192 at bounded
    have avail : fifo.availSize.toNat = 8192 - fifo.len.toNat := by
      rw [DataFifo.availSize, size]
      exact UInt32.toNat_sub_of_le _ _ (UInt32.le_iff_toNat_le.mpr bounded)
    refine ⟨0, ?_⟩
    rw [contents, if_neg full, if_neg full, take_of_length_le]
    rw [← avail]
    exact room.resolve_left full

end

structure Sound (r : Receiver) : Prop where
  valid : r.port.fifo.Valid
  size : r.port.fifo.size = 8192
  newest : Newest r

section
variable {r : Receiver}

theorem Newest.suffix (newest : Newest r) : r.port.fifo.contents <:+ r.stream := by
  obtain ⟨gaps, dropped, -, is⟩ := newest
  exact ⟨_, is.symm⟩

theorem setFifo_fifo (port : Port) (fifo : DataFifo) : (port.setFifo fifo).fifo = fifo := by
  cases port <;> rfl

/-- The older bytes that are dropped go to the others that were. -/
theorem Sound.transfer (sound : Sound r) (data : List UInt8) (inFifo : Bool) (a : UsbEcm.Answers) (fits : Fits r (.transfer data inFifo a)) :
    Right r (.transfer data inFifo a) ∧ Sound (step r (.transfer data inFifo a)) := by
  obtain ⟨some_, small, buffers, room⟩ := fits
  have same := receive_fifo r.port some_ buffers a
  obtain ⟨valid, size, -⟩ := push_contents sound.valid sound.size small
  obtain ⟨k, contents⟩ := push_whole sound.valid sound.size small room
  rw [← same] at valid size contents
  have newest : Newest (step r (.transfer data inFifo a)) := by
    obtain ⟨gaps, dropped, count, is⟩ := sound.newest
    refine ⟨gaps, dropped ++ r.port.fifo.contents.take k, count, ?_⟩
    simp only [step, contents, is, append_assoc, append_cancel_left_eq]
    rw [← append_assoc (take _ _), take_append_drop]
  refine ⟨⟨newest.suffix, newest, fun data' inFifo' a' is => ?_⟩, valid, size, newest⟩
  cases is
  exact ⟨_, contents.symm⟩

/-- What a reader obtains stands behind what was dropped. -/
theorem Sound.read (sound : Sound r) (n : UInt32) : Right r (.read n) ∧ Sound (step r (.read n)) := by
  obtain ⟨got, left, valid, size⟩ := sound.valid.read n
  have after : (step r (.read n)).port.fifo = (r.port.fifo.read n).2 := setFifo_fifo _ _
  rw [← after] at left valid size
  have newest : Newest (step r (.read n)) := by
    obtain ⟨gaps, dropped, count, is⟩ := sound.newest
    refine ⟨gaps ++ [dropped], [], by simp [step, count], ?_⟩
    rw [left]
    simp only [step, is, got, zipWith_append count]
    simp [append_assoc]
  refine ⟨⟨newest.suffix, newest, fun data inFifo a is => ?_⟩, valid, size.trans sound.size, newest⟩
  cases is

theorem Sound.step (sound : Sound r) {e : Event} (fits : Fits r e) : Right r e ∧ Sound (SerialReceive.step r e) := by
  cases e with
  | transfer data inFifo a => exact sound.transfer data inFifo a fits
  | read n => exact sound.read n

end

/-- While every transfer finds its fifo full or fits, each port keeps the newest bytes. -/
theorem newest_kept (port : Port) (valid : port.fifo.Valid) (size : port.fifo.size = 8192) {events : List Event}
    (fits : Takes step Fits (start port) events) : Takes step Right (start port) events := by
  have sound : Sound (start port) := ⟨valid, size, [], [], rfl, rfl⟩
  have kept : ∀ r e, Sound r → Fits r e → Right r e ∧ Sound (step r e) := fun _ _ sound fit => sound.step fit
  exact Takes.mono kept sound fits

def granted : UsbEcm.Answers := ⟨true, true, true, true, fun _ => true, fun _ => true, fun _ => true, fun _ => true⟩

/-- A transfer to a fifo that holds nothing, and a read of two of its bytes. -/
theorem newest_kept_three : Takes step Right (start (.host (.init 8192 (replicate 8192 0))))
    [.transfer [1, 2, 3] true granted, .read 2] := by
  have valid : (DataFifo.init 8192 (replicate 8192 0)).Valid := .init (.inr ⟨13, rfl⟩) (length_replicate ..)
  refine newest_kept (.host _) valid rfl ⟨⟨by decide, by decide, fun _ => rfl, .inr ?_⟩, trivial, trivial⟩
  change 3 ≤ (8192 - (0 - 0) : UInt32).toNat
  decide

def nearlyFull : DataFifo := ⟨0, 8191, 8192, replicate 8192 0⟩

/-- Of two bytes the second is lost. -/
theorem newest_lost : ¬Takes step Right (start (.host nearlyFull)) [.transfer [1, 2] true granted] := by
  intro taken
  have valid : nearlyFull.Valid := ⟨.inr ⟨13, rfl⟩, length_replicate .., by decide⟩
  have left : 8192 - nearlyFull.len.toNat = 1 := by decide
  have room : ¬nearlyFull.isFull := by decide
  have size : nearlyFull.size = 8192 := rfl
  generalize nearlyFull = fifo at *
  have same : ((Port.host fifo).receive [1, 2] true granted).fifo = push fifo [1, 2] :=
    receive_fifo (.host fifo) (by decide) (fun _ => rfl) granted
  obtain ⟨-, -, contents⟩ := push_contents valid size (show [(1 : UInt8), 2].length ≤ 8192 by decide)
  rw [if_neg room, if_neg room, left] at contents
  have suffix := taken.1.suffix
  change ((Port.host fifo).receive [1, 2] true granted).fifo.contents <:+ fifo.contents ++ [1, 2] at suffix
  rw [same, contents] at suffix
  obtain ⟨before, is⟩ := suffix
  have last := congrArg getLast? is
  simp at last

end Peripheral.SerialReceive
