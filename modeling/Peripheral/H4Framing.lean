import Peripheral.HciProtocol
import Mathlib.Data.List.Infix

/-!
How `H4Protocol::ReadData` cuts the channel into packets. The phase of the reader is
in the size of its packet: nothing, a header, or more. After the header of a packet
without payload the reader is still in the phase of the header, with nothing left to
read, and stays there.
-/
namespace Peripheral.Hci
open H4Protocol List

theorem read_part {part : List UInt8} (some_ : part ≠ []) (more : List UInt8) (choice : Nat) :
    ∃ n, 0 < n ∧ n ≤ part.length ∧ read (part ++ more) part.length choice = (part.take n, part.drop n ++ more) := by
  have positive := length_pos_of_ne_nil some_
  refine ⟨min (max choice 1) part.length, by omega, Nat.min_le_right _ _, ?_⟩
  unfold read
  rw [take_append_of_le_length (Nat.min_le_right _ _), drop_append_of_le_length (Nat.min_le_right _ _)]

theorem read_nothing (rest : List UInt8) (choice : Nat) : read rest 0 choice = ([], rest) := by
  simp [read]

theorem resize_append (packet : List UInt8) (n : Nat) : resize packet (packet.length + n) = packet ++ replicate n 0 := by
  simp [resize]

section
variable {packet full bytes : List UInt8} {k n : Nat}

theorem store_length (inside : k + bytes.length ≤ packet.length) : (store packet k bytes).length = packet.length := by
  simp only [store, length_append, length_take, length_drop]
  omega

theorem store_take (inside : k + bytes.length ≤ packet.length) (before : packet.take k = full.take k)
    (next : bytes = (full.drop k).take bytes.length) :
    (store packet k bytes).take (k + bytes.length) = full.take (k + bytes.length) := by
  have front : (packet.take k ++ bytes).length = k + bytes.length := by
    rw [length_append, length_take]
    omega
  rw [store, ← front, take_left, front, take_add, before, ← next]

end

/-- The phases of the reader in a stream of packets: some are done, and of the others the first is begun. -/
inductive At (packets : List Packet) : Link → Prop
  | idle {done todo : List Packet} (packetType : UInt8) (split : packets = done ++ todo) (served : ∀ p ∈ done,
    p.payload ≠ []) :
      At packets ⟨⟨packetType, [], 0⟩, serialise todo, done.map Packet.delivery⟩
  | head {done todo : List Packet} {p : Packet} {packet : List UInt8} {k : Nat} (split : packets = done ++ p :: todo)
      (served : ∀ p ∈ done, p.payload ≠ []) (size : packet.length = p.head.length) (short : k < p.head.length)
      (same : packet.take k = p.head.take k) :
      At packets ⟨⟨p.kind.code, packet, k⟩, p.head.drop k ++ (p.payload ++ serialise todo), done.map Packet.delivery⟩
  | body {done todo : List Packet} {p : Packet} {packet : List UInt8} {k : Nat} (split : packets = done ++ p :: todo)
      (served : ∀ p ∈ done, p.payload ≠ []) (size : packet.length = (p.head ++ p.payload).length) (begun : p.head.length ≤ k)
      (short : k < (p.head ++ p.payload).length) (same : packet.take k = (p.head ++ p.payload).take k) :
      At packets ⟨⟨p.kind.code, packet, k⟩, (p.head ++ p.payload).drop k ++ serialise todo, done.map Packet.delivery⟩
  | stuck {done todo : List Packet} {p : Packet} (split : packets = done ++ p :: todo) (served : ∀ p ∈ done, p.payload ≠ [])
      (empty : p.payload = []) :
      At packets ⟨⟨p.kind.code, p.head, p.head.length⟩, serialise todo, done.map Packet.delivery⟩

theorem serialise_cons (p : Packet) (todo : List Packet) :
    serialise (p :: todo) = p.kind.code :: (p.head ++ (p.payload ++ serialise todo)) := by simp [serialise]

theorem Kind.code_bounds (kind : Kind) : (kind.code > packetTypeUnknown && kind.code < packetTypeMax) = true := by
  cases kind <;> decide

theorem Kind.headerSize_pos (kind : Kind) : 0 < (Hci.header kind.code).headerSize := by
  cases kind <;> decide

theorem Kind.calls_back (kind : Kind) (packet : List UInt8) (k : Nat) :
    (packetCallback ⟨kind.code, packet, k⟩) = some ⟨kind.code, packet⟩ := by
  cases kind <;> rfl

theorem Packet.head_pos (p : Packet) : 0 < p.head.length := by
  rw [p.size]
  exact p.kind.headerSize_pos

section
variable {packets : List Packet}

theorem At.start (packets : List Packet) :
    At packets (Link.start (serialise packets)) := .idle 0 (by rfl : packets = [] ++ packets) (by simp)

variable {done todo : List Packet}

theorem At.step_idle (packetType : UInt8) (split : packets = done ++ todo)
    (served : ∀ p ∈ done, p.payload ≠ []) (choice : Nat) :
    At packets (Link.step ⟨⟨packetType, [], 0⟩, serialise todo, done.map Packet.delivery⟩ choice) := by
  cases todo with
  | nil =>
    have nothing : read (serialise []) 1 choice = ([], serialise []) := by simp [read, serialise]
    simp only [Link.step, readData, length_nil, if_true, nothing, Option.toList_none, append_nil]
    exact .idle packetType split served
  | cons p todo =>
    obtain ⟨n, positive, small, taken⟩ :=
      read_part (cons_ne_nil p.kind.code []) (p.head ++ (p.payload ++ serialise todo)) choice
    have one : n = 1 := by
      simp only [length_singleton] at small
      omega
    subst one
    rw [serialise_cons]
    simp only [length_singleton, singleton_append, take_succ_cons, take_zero, drop_succ_cons, drop_zero, nil_append] at taken
    simp only [Link.step, readData, length_nil, if_true, taken, p.kind.code_bounds, Option.toList_none, append_nil]
    have begun : At packets ⟨⟨p.kind.code, resize [] (Hci.header p.kind.code).headerSize, 0⟩,
        p.head.drop 0 ++ (p.payload ++ serialise todo), done.map Packet.delivery⟩ := by
      refine .head split served ?_ p.head_pos rfl
      simp [resize, p.size]
    exact begun

variable {packetType : UInt8} {packet rest left bytes : List UInt8} {k choice : Nat}

theorem readData_head (some_ : packet ≠ []) (phase : packet.length = (Hci.header packetType).headerSize)
    (taken : read rest (packet.length - k) choice = (bytes, left)) (bytes_ : bytes ≠ [])
    (inside : k + bytes.length ≤ packet.length) :
    readData ⟨packetType, packet, k⟩ rest choice = (none, ⟨packetType, if k + bytes.length = packet.length then
      store packet k bytes ++ replicate (dataLen (Hci.header packetType) (store packet k bytes)) 0
      else store packet k bytes, k + bytes.length⟩, left) := by
  have long : ¬ packet.length = 0 := fun zero => some_ (eq_nil_of_length_eq_zero zero)
  obtain ⟨byte, more, rfl⟩ := exists_cons_of_ne_nil bytes_
  unfold readData
  simp only [if_neg long, if_pos phase, taken, store_length inside]
  by_cases whole : k + (byte :: more).length = packet.length
  · rw [if_pos whole, if_pos whole, ← store_length inside, resize_append]
  · rw [if_neg whole, if_neg whole]

theorem readData_body (some_ : packet ≠ []) (phase : ¬ packet.length = (Hci.header packetType).headerSize)
    (taken : read rest (packet.length - k) choice = (bytes, left)) (bytes_ : bytes ≠ [])
    (inside : k + bytes.length ≤ packet.length) :
    readData ⟨packetType, packet, k⟩ rest choice = if k + bytes.length = packet.length then
        (packetCallback ⟨packetType, store packet k bytes, k + bytes.length⟩, ⟨packetType, [], 0⟩, left)
      else (none, ⟨packetType, store packet k bytes, k + bytes.length⟩, left) := by
  have long : ¬ packet.length = 0 := fun zero => some_ (eq_nil_of_length_eq_zero zero)
  obtain ⟨byte, more, rfl⟩ := exists_cons_of_ne_nil bytes_
  unfold readData
  simp only [if_neg long, if_neg phase, taken, store_length inside]

theorem read_packet {full : List UInt8} (size : packet.length = full.length) (short : k < full.length)
    (same : packet.take k = full.take k) (more : List UInt8) (choice : Nat) :
    ∃ bytes, bytes ≠ [] ∧ k + bytes.length ≤ packet.length ∧
      read (full.drop k ++ more) (packet.length - k) choice = (bytes, full.drop (k + bytes.length) ++ more) ∧
      (store packet k bytes).take (k + bytes.length) = full.take (k + bytes.length) := by
  have left : (full.drop k).length = packet.length - k := by rw [length_drop, size]
  have part : full.drop k ≠ [] := ne_nil_of_length_pos (by omega)
  obtain ⟨n, positive, small, taken⟩ := read_part part more choice
  have count : ((full.drop k).take n).length = n := length_take_of_le small
  refine ⟨(full.drop k).take n, ne_nil_of_length_pos (by omega), by omega, ?_, ?_⟩
  · rw [← left, taken, drop_drop, count]
  · exact store_take (by omega) same (by rw [count])

theorem At.step_head {p : Packet} (split : packets = done ++ p :: todo)
    (served : ∀ p ∈ done, p.payload ≠ []) (size : packet.length = p.head.length) (short : k < p.head.length)
    (same : packet.take k = p.head.take k) (choice : Nat) :
    At packets (Link.step ⟨⟨p.kind.code, packet, k⟩, p.head.drop k ++ (p.payload ++ serialise todo), done.map Packet.delivery⟩
      choice) := by
  obtain ⟨bytes, some_, inside, taken, prefix_⟩ := read_packet size short same (p.payload ++ serialise todo) choice
  have called := readData_head (ne_nil_of_length_pos (by omega)) (size.trans p.size) taken some_ inside
  simp only [Link.step, called, Option.toList_none, append_nil]
  have stored := store_length inside
  by_cases whole : k + bytes.length = packet.length
  · have complete : store packet k bytes = p.head := by
      rw [← take_of_length_le (Nat.le_of_eq (stored.trans whole.symm)), prefix_]
      exact take_of_length_le (by omega)
    have used : p.head.drop (k + bytes.length) = [] := drop_of_length_le (by omega)
    rw [if_pos whole, used, nil_append, complete, p.length, whole, size]
    cases empty : p.payload with
    | nil =>
      simp only [length_nil, replicate_zero, append_nil, nil_append]
      exact .stuck split served empty
    | cons byte more =>
      rw [← empty]
      have rest : p.payload ++ serialise todo = (p.head ++ p.payload).drop p.head.length ++ serialise todo := by
        rw [drop_left]
      have some_ : 0 < p.payload.length := by
        rw [empty]
        exact Nat.succ_pos _
      rw [rest]
      refine .body split served ?_ (Nat.le_refl _) ?_ ?_
      · simp
      · rw [length_append]
        omega
      · rw [take_left, take_left]
  · rw [if_neg whole]
    exact .head split served (stored.trans size) (by omega) prefix_

theorem At.step_body {p : Packet} (split : packets = done ++ p :: todo)
    (served : ∀ p ∈ done, p.payload ≠ []) (size : packet.length = (p.head ++ p.payload).length) (begun : p.head.length ≤ k)
    (short : k < (p.head ++ p.payload).length) (same : packet.take k = (p.head ++ p.payload).take k) (choice : Nat) :
    At packets (Link.step ⟨⟨p.kind.code, packet, k⟩, (p.head ++ p.payload).drop k ++ serialise todo, done.map Packet.delivery⟩
      choice) := by
  obtain ⟨bytes, some_, inside, taken, prefix_⟩ := read_packet size short same (serialise todo) choice
  have lengths : (p.head ++ p.payload).length = p.head.length + p.payload.length := length_append
  have phase : ¬ packet.length = (Hci.header p.kind.code).headerSize := by
    rw [← p.size]
    omega
  have called := readData_body (ne_nil_of_length_pos (by omega)) phase taken some_ inside
  have stored := store_length inside
  by_cases whole : k + bytes.length = packet.length
  · have complete : store packet k bytes = p.head ++ p.payload := by
      rw [← take_of_length_le (Nat.le_of_eq (stored.trans whole.symm)), prefix_]
      exact take_of_length_le (by omega)
    have used : (p.head ++ p.payload).drop (k + bytes.length) = [] := drop_of_length_le (by omega)
    rw [if_pos whole, complete, p.kind.calls_back, used, nil_append] at called
    simp only [Link.step, called]
    have next : At packets ⟨⟨p.kind.code, [], 0⟩, serialise todo, (done ++ [p]).map Packet.delivery⟩ := by
      refine .idle _ (by rw [split, append_assoc]; rfl) ?_
      intro q member
      rcases mem_append.mp member with before | now
      · exact served q before
      · rw [mem_singleton.mp now]
        exact ne_nil_of_length_pos (by omega)
    rw [map_append] at next
    exact next
  · rw [if_neg whole] at called
    simp only [Link.step, called, Option.toList_none, append_nil]
    exact .body split served (stored.trans size) (by omega) (by omega) prefix_

theorem readData_stuck (phase : packet.length = (Hci.header packetType).headerSize) (some_ : packet ≠ []) :
    readData ⟨packetType, packet, packet.length⟩ rest choice = (none, ⟨packetType, packet, packet.length⟩, rest) := by
  have long : ¬ packet.length = 0 := fun zero => some_ (eq_nil_of_length_eq_zero zero)
  simp only [readData, if_neg long, if_pos phase, Nat.sub_self, read_nothing]

variable {link : Link}

theorem At.step (at_ : At packets link) (choice : Nat) : At packets (link.step choice) := by
  cases at_ with
  | idle packetType split served => exact .step_idle packetType split served choice
  | head split served size short same => exact .step_head split served size short same choice
  | body split served size begun short same => exact .step_body split served size begun short same choice
  | stuck split served empty =>
    rename_i p
    have stays : ∀ rest, readData ⟨p.kind.code, p.head, p.head.length⟩ rest choice =
      (none, ⟨p.kind.code, p.head, p.head.length⟩, rest) := fun rest =>
      readData_stuck p.size (ne_nil_of_length_pos p.head_pos)
    simp only [Link.step, stays, Option.toList_none, append_nil]
    exact .stuck split served empty

theorem At.after (at_ : At packets link) (choices : Nat → Nat) (n : Nat) : At packets (link.after choices n) := by
  induction n with
  | zero => exact at_
  | succ n ih => exact ih.step (choices n)

def H4Protocol.asks (h : H4Protocol) : Nat := if h.hciPacket.length = 0 then 1 else h.hciPacket.length - h.readLength

theorem readData_rest (h : H4Protocol) (rest : List UInt8) (choice : Nat) :
    (h.readData rest choice).2.2 = rest.drop (min (max choice 1) h.asks) := by
  unfold readData asks
  by_cases idle : h.hciPacket.length = 0
  · rw [if_pos idle, if_pos idle]
    unfold read
    split
    · rename_i is
      exact (congrArg Prod.snd is).symm
    · rename_i is
      split <;> exact (congrArg Prod.snd is).symm
  · rw [if_neg idle, if_neg idle]
    unfold read
    split
    · split
      · rename_i is
        exact (congrArg Prod.snd is).symm
      · rename_i is
        simp only
        split <;> exact (congrArg Prod.snd is).symm
    · split
      · rename_i is
        exact (congrArg Prod.snd is).symm
      · rename_i is
        simp only
        split <;> exact (congrArg Prod.snd is).symm

theorem Link.step_shorter (some_ : link.rest ≠ []) (asks : link.reader.asks ≠ 0) (choice : Nat) :
    (link.step choice).rest.length < link.rest.length := by
  have positive := length_pos_of_ne_nil some_
  have rest : (link.step choice).rest = link.rest.drop (min (max choice 1) link.reader.asks) := readData_rest _ _ _
  rw [rest, length_drop]
  omega

theorem Link.settles (link : Link) (choices : Nat → Nat) :
    ∃ n, (link.after choices n).rest = [] ∨ (link.after choices n).reader.asks = 0 := by
  by_contra never
  have on : ∀ n, (link.after choices n).rest ≠ [] ∧ (link.after choices n).reader.asks ≠ 0 := by
    intro n
    constructor
    · exact fun empty => never ⟨n, .inl empty⟩
    · exact fun nothing => never ⟨n, .inr nothing⟩
  have shorter : ∀ n, (link.after choices n).rest.length + n ≤ link.rest.length := by
    intro n
    induction n with
    | zero => exact Nat.le_refl _
    | succ n ih =>
      have step := Link.step_shorter (on n).1 (on n).2 (choices n)
      rw [Link.after]
      omega
  have := shorter (link.rest.length + 1)
  omega

theorem At.asks (at_ : At packets link) (nothing : link.reader.asks = 0) :
    ∃ done p todo, packets = done ++ p :: todo ∧ p.payload = [] ∧ link.delivered = done.map Packet.delivery ∧
      link.reader.hciPacket ≠ [] := by
  unfold H4Protocol.asks at nothing
  cases at_ with
  | idle packetType split served => simp at nothing
  | head split served size short same =>
    split at nothing
    · omega
    · simp only at nothing
      omega
  | body split served size begun short same =>
    split at nothing
    · omega
    · simp only at nothing
      omega
  | stuck split served empty =>
    exact ⟨_, _, _, split, empty, rfl, ne_nil_of_length_pos (Packet.head_pos _)⟩

/-- When the channel is empty, all packets are delivered or the last one has no payload. -/
theorem At.empty (at_ : At packets link) (empty : link.rest = []) (asks : link.reader.asks ≠ 0) :
    link.delivered = packets.map Packet.delivery ∧ (∀ p ∈ packets, p.payload ≠ []) ∧ link.reader.hciPacket = [] ∧
      link.reader.readLength = 0 := by
  cases at_ with
  | @idle done todo packetType split served =>
    cases todo with
    | nil =>
      rw [append_nil] at split
      subst split
      exact ⟨rfl, served, rfl, rfl⟩
    | cons p todo =>
      rw [serialise_cons] at empty
      cases empty
  | head split served size short same =>
    have none := length_eq_zero_iff.mpr (append_eq_nil_iff.mp empty).1
    rw [length_drop] at none
    omega
  | body split served size begun short same =>
    have none := length_eq_zero_iff.mpr (append_eq_nil_iff.mp empty).1
    rw [length_drop] at none
    omega
  | @stuck done todo p split served _ =>
    have long : p.head ≠ [] := ne_nil_of_length_pos p.head_pos
    exact absurd (by simp [H4Protocol.asks, long]) asks

/-- However the channel is read, it is read to its end, and then the packets were delivered and the reader is between
    packets. -/
def Exact (packets : List Packet) : Prop :=
  ∀ choices : Nat → Nat, (∃ n, ((Link.start (serialise packets)).after choices n).rest = []) ∧
    ∀ n, ((Link.start (serialise packets)).after choices n).rest = [] →
      let link := (Link.start (serialise packets)).after choices n
      link.delivered = packets.map Packet.delivery ∧ link.reader.hciPacket = [] ∧ link.reader.readLength = 0

/-- Framing is exact for the packets that have a payload. -/
theorem exact_iff_payloads (packets : List Packet) : Exact packets ↔ ∀ p ∈ packets, p.payload ≠ [] := by
  constructor
  · intro exact_
    obtain ⟨⟨n, empty⟩, all⟩ := exact_ fun _ => 1
    have at_ := (At.start packets).after (fun _ => 1) n
    obtain ⟨_, idle, _⟩ := all n empty
    have asks : ((Link.start (serialise packets)).after (fun _ => 1) n).reader.asks ≠ 0 := by
      simp [asks, idle]
    exact (at_.empty empty asks).2.1
  · intro payloads choices
    have asks : ∀ n, ((Link.start (serialise packets)).after choices n).reader.asks ≠ 0 := by
      intro n nothing
      obtain ⟨done, p, todo, split, empty, _⟩ := ((At.start packets).after choices n).asks nothing
      exact payloads p (by simp [split]) empty
    constructor
    · obtain ⟨n, settled⟩ := (Link.start (serialise packets)).settles choices
      exact ⟨n, settled.resolve_right (asks n)⟩
    · intro n empty
      obtain ⟨delivered, _, idle, start⟩ := ((At.start packets).after choices n).empty empty (asks n)
      exact ⟨delivered, idle, start⟩

end

def emptyEvent : Packet := ⟨.event, [0x10, 0], [], rfl, rfl⟩

/-- After the event was read the callback was not called. -/
theorem emptyEvent_not_exact : ¬ Exact [emptyEvent] := by
  intro exact_
  obtain ⟨_, all⟩ := exact_ fun _ => 2
  have empty := all 2 rfl
  exact absurd empty.1 (by decide)

end Peripheral.Hci
