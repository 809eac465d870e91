import Peripheral.Loops
import Peripheral.HciProtocol

/-!
The senders of the Bluetooth transports. `write` takes as many bytes as it likes of what
it is given; `H4Protocol::SendPacket` goes on until a packet is gone, and
`MctProtocol::SendPacket` hands the type of the packet to the channel of that type.
-/
namespace Peripheral.Hci
open Peripheral.Loops List

def packetTypeCommand : UInt8 := 1

/-- The channels that the vendor opens; a transport with one channel has the first of them. -/
inductive HciChannel
  | cmd | evt | aclOut | aclIn
  deriving DecidableEq

/-- What a call of `write` does: it takes some bytes, is to be called again, or fails. -/
inductive WriteAnswer
  | accepts (n : Nat)
  | again
  | fails
  deriving DecidableEq

/-- How often `write` was called, and the bytes in each channel. -/
structure Wire where
  asked : Nat
  written : HciChannel → List UInt8

namespace Wire

def start : Wire := ⟨0, fun _ => []⟩

def put (w : Wire) (fd : HciChannel) (bytes : List UInt8) : Wire :=
  ⟨w.asked + 1, Function.update w.written fd (w.written fd ++ bytes)⟩

@[simp] theorem put_same (w : Wire) (fd : HciChannel) (bytes : List UInt8) :
    (w.put fd bytes).written fd = w.written fd ++ bytes := by simp [put]

@[simp] theorem put_other {fd other : HciChannel} (differs : other ≠ fd) (w : Wire) (bytes : List UInt8) :
    (w.put fd bytes).written other = w.written other := by simp [put, differs]

end Wire

/-- One call of `write`. -/
def writeRound (answers : Nat → WriteAnswer) (fd : HciChannel) (data : List UInt8) (w : Wire) :
    Outcome Empty (Wire ⊕ (Int × Wire)) :=
  match answers w.asked with
  | .accepts n => .ret (.inr (((data.take n).length : Int), w.put fd (data.take n)))
  | .again => .ret (.inl (w.put fd []))
  | .fails => .ret (.inr (-1, w.put fd []))

/-- `HciProtocol::Write`. -/
def hciWrite (answers : Nat → WriteAnswer) (fd : HciChannel) (data : List UInt8) (fuel : Nat) (w : Wire) :
    Outcome Empty (Int × Wire) := iterate (fun _ => writeRound answers fd data) fuel w

namespace H4Protocol

/-- One round of the loop over the packet, with the bytes that are written. -/
def sendRound (answers : Nat → WriteAnswer) (packetData : List UInt8) (fuel : Nat) :
    Nat × Wire → Outcome Empty ((Nat × Wire) ⊕ (Int × Wire))
  | (writtenNumber, w) => do
    let (ret, w) ← hciWrite answers .cmd (packetData.drop writtenNumber) fuel w
    if ret < 0 then return .inr (ret, w)
    let writtenNumber := writtenNumber + ret.toNat
    if writtenNumber ≠ packetData.length then return .inl (writtenNumber, w)
    return .inr (writtenNumber, w)

def sendPacket (answers : Nat → WriteAnswer) (packetType : UInt8) (packetData : List UInt8) (fuel : Nat) (w : Wire) :
    Outcome Empty (Int × Wire) := do
  let (ret, w) ← hciWrite answers .cmd [packetType] fuel w
  if ret ≠ 1 then return (0, w)
  iterate (sendRound answers packetData) fuel (0, w)

end H4Protocol

/-- `MctProtocol::SendPacket`: one byte is written, the type. -/
def MctProtocol.sendPacket (answers : Nat → WriteAnswer) (packetType : UInt8) (_packetData : List UInt8) (fuel : Nat)
    (w : Wire) : Outcome Empty (Int × Wire) :=
  if packetType = packetTypeCommand then hciWrite answers .cmd [packetType] fuel w
  else if packetType = packetTypeAclData then hciWrite answers .aclOut [packetType] fuel w
  else .ret (0, w)

/-! ### Calls one after the other -/

/-- A call of `SendPacket` with a command or with data. -/
structure OutgoingPacket where
  packetType : UInt8
  packetData : List UInt8
  kind : packetType = packetTypeCommand ∨ packetType = packetTypeAclData

def sendAll (sendPacket : UInt8 → List UInt8 → Nat → Wire → Outcome Empty (Int × Wire)) (fuel : Nat) :
    List OutgoingPacket → Wire → Outcome Empty (List Int × Wire)
  | [], w => .ret ([], w)
  | p :: packets, w => do
    let (ret, w) ← sendPacket p.packetType p.packetData fuel w
    let (rets, w) ← sendAll sendPacket fuel packets w
    return (ret :: rets, w)

/-- Each `write` takes at least one byte, if it is given one. -/
def Partial (answers : Nat → WriteAnswer) : Prop := ∀ n, ∃ m, 0 < m ∧ answers n = .accepts m

def sizes (packets : List OutgoingPacket) : List Int := packets.map fun p => p.packetData.length

def dataOf (packetType : UInt8) (packets : List OutgoingPacket) : List UInt8 :=
  (packets.filter fun p => p.packetType = packetType).flatMap OutgoingPacket.packetData

/-- The calls return, the channel has each packet behind its type, and each call says how many bytes of it there are. -/
def H4Sends (answers : Nat → WriteAnswer) (packets : List OutgoingPacket) : Prop :=
  ∃ w, Comes (fun fuel => sendAll (H4Protocol.sendPacket answers) fuel packets .start) (.ret (sizes packets, w)) ∧
    w.written .cmd = packets.flatMap fun p => p.packetType :: p.packetData

/-- The calls return, each channel has the data of its packets in order, and each call says how many bytes that is. -/
def MctSends (answers : Nat → WriteAnswer) (packets : List OutgoingPacket) : Prop :=
  ∃ w, Comes (fun fuel => sendAll (MctProtocol.sendPacket answers) fuel packets .start) (.ret (sizes packets, w)) ∧
    (dataOf packetTypeCommand packets).Sublist (w.written .cmd) ∧
    (dataOf packetTypeAclData packets).Sublist (w.written .aclOut)

/-- Both transports send everything, however the descriptor takes it. -/
def SendsAll (packets : List OutgoingPacket) : Prop :=
  ∀ answers, Partial answers → H4Sends answers packets ∧ MctSends answers packets

/-! ### The transport with one channel -/

section
variable {answers : Nat → WriteAnswer}

section
variable (partial_ : Partial answers)
include partial_

theorem comes_hciWrite (fd : HciChannel) (data : List UInt8) (w : Wire) : ∃ n, n ≤ data.length ∧ (data ≠ [] → 0 < n) ∧
      Comes (fun fuel => hciWrite answers fd data fuel w) (.ret ((n : Int), w.put fd (data.take n))) := by
  obtain ⟨m, positive, accepts⟩ := partial_ w.asked
  refine ⟨(data.take m).length, by simp, ?_, ?_⟩
  · intro some_
    have := length_pos_of_ne_nil some_
    simp only [length_take]
    omega
  · have same : data.take (data.take m).length = data.take m := by simp
    rw [same]
    refine comes_iterate_break ?_
    simp only [writeRound, accepts]
    exact Comes.const _

theorem comes_hciWrite_byte (fd : HciChannel) (byte : UInt8) (w : Wire) :
    Comes (fun fuel => hciWrite answers fd [byte] fuel w) (.ret (1, w.put fd [byte])) := by
  obtain ⟨n, small, positive, comes⟩ := comes_hciWrite partial_ fd [byte] w
  have one : n = 1 := by
    have := positive (by simp)
    simp only [length_singleton] at small
    omega
  subst one
  exact comes

theorem comes_sendRound {packetData : List UInt8} {writtenNumber : Nat}
    (inside : writtenNumber ≤ packetData.length) (w : Wire) :
    ∃ w', Comes (fun fuel => iterate (H4Protocol.sendRound answers packetData) fuel (writtenNumber, w))
        (.ret ((packetData.length : Int), w')) ∧ w'.written .cmd = w.written .cmd ++ packetData.drop writtenNumber := by
  -- on the bytes that are left; every round takes one of them
  induction left : packetData.length - writtenNumber using Nat.strong_induction_on generalizing writtenNumber w with
  | _ left_ ih =>
    obtain ⟨n, small, positive, comes⟩ := comes_hciWrite partial_ .cmd (packetData.drop writtenNumber) w
    rw [length_drop] at small
    have round : Comes (fun fuel => H4Protocol.sendRound answers packetData fuel (writtenNumber, w))
        (if writtenNumber + n ≠ packetData.length then
          .ret (.inl (writtenNumber + n, w.put .cmd ((packetData.drop writtenNumber).take n)))
        else .ret (.inr (((writtenNumber + n : Nat) : Int), w.put .cmd ((packetData.drop writtenNumber).take n)))) := by
      refine comes.bind ?_
      have sign : ¬ (n : Int) < 0 := by omega
      simp only [if_neg sign, Int.toNat_natCast]
      split
      · exact Comes.const _
      · exact Comes.const _
    by_cases whole : writtenNumber + n = packetData.length
    · rw [if_neg (by simpa using whole)] at round
      have rest : (packetData.drop writtenNumber).take n = packetData.drop writtenNumber :=
        take_of_length_le (by rw [length_drop]; omega)
      rw [rest, whole] at round
      exact ⟨_, comes_iterate_break round, Wire.put_same _ _ _⟩
    · rw [if_pos whole] at round
      have some_ : packetData.drop writtenNumber ≠ [] := by
        intro empty
        have := drop_eq_nil_iff.mp empty
        omega
      obtain ⟨w', rest, written⟩ := ih (packetData.length - (writtenNumber + n)) (by have := positive some_; omega)
        (by omega) (w.put .cmd ((packetData.drop writtenNumber).take n)) rfl
      refine ⟨w', comes_iterate_next round rest, ?_⟩
      rw [written, Wire.put_same, append_assoc, ← drop_drop, take_append_drop]

theorem H4Protocol.comes_sendPacket (packetType : UInt8) (packetData : List UInt8) (w : Wire) :
    ∃ w', Comes (fun fuel => H4Protocol.sendPacket answers packetType packetData fuel w)
        (.ret ((packetData.length : Int), w')) ∧ w'.written .cmd = w.written .cmd ++ packetType :: packetData := by
  obtain ⟨w', comes, written⟩ := comes_sendRound partial_ (Nat.zero_le packetData.length) (w.put .cmd [packetType])
  refine ⟨w', (comes_hciWrite_byte partial_ .cmd packetType w).bind ?_, ?_⟩
  · simpa using comes
  · simp [written]

theorem h4_sendAll (packets : List OutgoingPacket) (w : Wire) :
    ∃ w', Comes (fun fuel => sendAll (H4Protocol.sendPacket answers) fuel packets w) (.ret (sizes packets, w')) ∧
      w'.written .cmd = w.written .cmd ++ packets.flatMap fun p => p.packetType :: p.packetData := by
  induction packets generalizing w with
  | nil => exact ⟨w, Comes.const _, by simp⟩
  | cons p packets ih =>
    obtain ⟨w', first, wrote⟩ := H4Protocol.comes_sendPacket partial_ p.packetType p.packetData w
    obtain ⟨w'', rest, written⟩ := ih w'
    refine ⟨w'', first.bind (rest.map (f := fun a => pure (_ :: a.1, a.2))), ?_⟩
    simp [written, wrote]

theorem h4Sends (packets : List OutgoingPacket) : H4Sends answers packets := by
  obtain ⟨w, comes, written⟩ := h4_sendAll partial_ packets .start
  exact ⟨w, comes, by simpa [Wire.start] using written⟩

/-! ### The transport with a channel for each type -/

theorem MctProtocol.comes_sendPacket (p : OutgoingPacket) (w : Wire) :
    Comes (fun fuel => MctProtocol.sendPacket answers p.packetType p.packetData fuel w)
      (.ret (1, w.put (if p.packetType = packetTypeCommand then .cmd else .aclOut) [p.packetType])) := by
  by_cases command : p.packetType = packetTypeCommand
  · simp only [MctProtocol.sendPacket, if_pos command]
    exact comes_hciWrite_byte partial_ _ _ w
  · have data := p.kind.resolve_left command
    simp only [MctProtocol.sendPacket, if_neg command, if_pos data]
    exact comes_hciWrite_byte partial_ _ _ w

end

def typesOf (packetType : UInt8) (packets : List OutgoingPacket) : List UInt8 :=
  (packets.filter fun p => p.packetType = packetType).map OutgoingPacket.packetType

theorem mct_sendAll (partial_ : Partial answers) (packets : List OutgoingPacket) (w : Wire) :
    ∃ w', Comes (fun fuel => sendAll (MctProtocol.sendPacket answers) fuel packets w) (.ret (packets.map fun _ => 1, w')) ∧
      w'.written .cmd = w.written .cmd ++ typesOf packetTypeCommand packets ∧
      w'.written .aclOut = w.written .aclOut ++ typesOf packetTypeAclData packets := by
  induction packets generalizing w with
  | nil => exact ⟨w, Comes.const _, by simp [typesOf], by simp [typesOf]⟩
  | cons p packets ih =>
    have first := MctProtocol.comes_sendPacket partial_ p w
    obtain ⟨w', rest, commands, datas⟩ := ih (w.put (if p.packetType = packetTypeCommand then .cmd else .aclOut) [p.packetType])
    refine ⟨w', first.bind (rest.map (f := fun a => pure (_ :: a.1, a.2))), ?_, ?_⟩
    · rcases p.kind with command | data
      · simp [commands, typesOf, command]
      · simp [commands, typesOf, data, packetTypeAclData, packetTypeCommand]
    · rcases p.kind with command | data
      · simp [datas, typesOf, command, packetTypeAclData, packetTypeCommand]
      · simp [datas, typesOf, data, packetTypeAclData, packetTypeCommand]

variable {packets : List OutgoingPacket}

theorem single_of_flatMap (one : ∀ p ∈ packets, p.packetData.length = 1)
    (same : packets.flatMap OutgoingPacket.packetData = packets.map OutgoingPacket.packetType) :
    ∀ p ∈ packets, p.packetData = [p.packetType] := by
  induction packets with
  | nil => simp
  | cons p packets ih =>
    obtain ⟨byte, is⟩ := length_eq_one_iff.mp (one p (by simp))
    rw [flatMap_cons, is, map_cons, singleton_append, cons.injEq] at same
    intro q member
    rcases mem_cons.mp member with rfl | later
    · rw [is, same.1]
    · exact ih (fun r there => one r (by simp [there])) same.2 q later

/-- Where all data of one type arrive, they are the types of their packets. -/
theorem single_of_sublist {packetType : UInt8}
    (one : ∀ p ∈ packets, p.packetData.length = 1) (arrived : (dataOf packetType packets).Sublist (typesOf packetType packets)) :
    ∀ p ∈ packets, p.packetType = packetType → p.packetData = [p.packetType] := by
  intro p member typed
  have ones : ∀ q ∈ packets.filter fun p => p.packetType = packetType, q.packetData.length = 1 := by
    intro q there
    exact one q (mem_of_mem_filter there)
  have count : (dataOf packetType packets).length = (typesOf packetType packets).length := by
    rw [dataOf, typesOf, length_flatMap, length_map, map_congr_left ones]
    simp
  exact single_of_flatMap ones (arrived.eq_of_length count) p (by simp [member, typed])

theorem dataOf_of_single (single : ∀ p ∈ packets, p.packetData = [p.packetType])
    (packetType : UInt8) : dataOf packetType packets = typesOf packetType packets := by
  rw [dataOf, typesOf, flatMap_congr fun p member => single p (mem_of_mem_filter member)]
  exact map_eq_flatMap.symm

theorem mctSends_iff (partial_ : Partial answers) (packets : List OutgoingPacket) :
    MctSends answers packets ↔ ∀ p ∈ packets, p.packetData = [p.packetType] := by
  obtain ⟨w, comes, commands, datas⟩ := mct_sendAll partial_ packets .start
  simp only [Wire.start, nil_append] at commands datas
  constructor
  · rintro ⟨w', comes', commands', datas'⟩
    obtain ⟨rets, rfl⟩ := Prod.mk.inj (Outcome.ret.inj (comes.unique comes' (by simp)))
    have one : ∀ p ∈ packets, p.packetData.length = 1 := by
      intro p member
      have ret := map_inj_left.mp rets p member
      omega
    rw [commands] at commands'
    rw [datas] at datas'
    intro p member
    rcases p.kind with command | data
    · exact single_of_sublist one commands' p member command
    · exact single_of_sublist one datas' p member data
  · intro single
    have rets : packets.map (fun _ => (1 : Int)) = sizes packets := by
      refine map_congr_left ?_
      intro p member
      simp [single p member]
    rw [rets] at comes
    refine ⟨w, comes, ?_, ?_⟩
    · rw [commands, dataOf_of_single single]
    · rw [datas, dataOf_of_single single]

/-- Both transports send everything exactly when the data of each packet are the byte of its type. -/
theorem sendsAll_iff (packets : List OutgoingPacket) : SendsAll packets ↔ ∀ p ∈ packets, p.packetData = [p.packetType] := by
  constructor
  · intro sends
    have one : Partial fun _ => .accepts 1 := fun _ => ⟨1, by simp⟩
    exact (mctSends_iff one packets).mp (sends _ one).2
  · intro single answers partial_
    exact ⟨h4Sends partial_ packets, (mctSends_iff partial_ packets).mpr single⟩

end

def resetCommand : OutgoingPacket := ⟨packetTypeCommand, [0x03, 0x0C, 0x00], .inl rfl⟩

theorem resetCommand_not_sendsAll : ¬ SendsAll [resetCommand] := by
  intro sends
  have one : Partial fun _ => .accepts 1 := fun _ => ⟨1, by simp⟩
  exact absurd ((mctSends_iff one [resetCommand]).mp (sends _ one).2 resetCommand (by simp)) (by decide)

end Peripheral.Hci
