import Peripheral.H4Framing

/-!
The transport with a channel for each type of packet, beside the one with a single
channel. A channel that was just constructed has an empty packet where it expects
the size of a header, asks for nothing, and never gets past that.
-/
namespace Peripheral.Hci

structure MctLink where
  reader : MctProtocol
  events : List UInt8
  acls : List UInt8
  deliveredEvents : List (List UInt8)
  deliveredAcls : List (List UInt8)

inductive MctCall
  | readEventData (choice : Nat)
  | readAclData (choice : Nat)

/-- The bytes of the packets of one kind, as its own channel carries them. -/
def channel (kind : Kind) (packets : List Packet) : List UInt8 :=
  (packets.filter fun p => p.kind = kind).flatMap fun p => p.head ++ p.payload

namespace MctLink

def start (packets : List Packet) : MctLink := ⟨.new, channel .event packets, channel .acl packets, [], []⟩

def step (link : MctLink) : MctCall → MctLink
  | .readEventData choice =>
    let (delivered, reader, rest) := link.reader.readEventData link.events choice
    { link with reader := reader, events := rest, deliveredEvents := link.deliveredEvents ++ delivered.toList }
  | .readAclData choice =>
    let (delivered, reader, rest) := link.reader.readAclData link.acls choice
    { link with reader := reader, acls := rest, deliveredAcls := link.deliveredAcls ++ delivered.toList }

def after (link : MctLink) (calls : Nat → MctCall) : Nat → MctLink
  | 0 => link
  | n + 1 => (link.after calls n).step (calls n)

end MctLink

def ofKind (kind : Kind) (delivered : List Delivery) : List (List UInt8) :=
  (delivered.filter fun d => d.packetType = kind.code).map Delivery.packet

/-- Both channels are read again and again. -/
def Fair (calls : Nat → MctCall) : Prop :=
  ∀ n, (∃ m ≥ n, ∃ choice, calls m = .readEventData choice) ∧ ∃ m ≥ n, ∃ choice, calls m = .readAclData choice

/-- However the channels are read, in the end both transports have delivered the same events and the same data. -/
def SameDeliveries (packets : List Packet) : Prop :=
  ∀ (calls : Nat → MctCall) (choices : Nat → Nat), Fair calls → ∃ n, ∀ m ≥ n,
    ((MctLink.start packets).after calls m).deliveredEvents =
      ofKind .event ((Link.start (serialise packets)).after choices m).delivered ∧
    ((MctLink.start packets).after calls m).deliveredAcls =
      ofKind .acl ((Link.start (serialise packets)).after choices m).delivered

theorem MctChannel.readData_new {header : PacketHeader} (size : header.headerSize ≠ 0) (rest : List UInt8) (choice : Nat) :
    MctChannel.readData header ⟨[], 0⟩ rest choice = (none, ⟨[], 0⟩, rest) := by
  have phase : ¬ ([] : List UInt8).length = header.headerSize := fun zero => size zero.symm
  rw [MctChannel.readData, if_neg phase]
  simp only [List.length_nil, Nat.sub_self, read_nothing]

theorem MctLink.step_new (packets : List Packet) (call : MctCall) :
    (MctLink.start packets).step call = MctLink.start packets := by
  cases call with
  | readEventData choice =>
    simp only [MctLink.step, MctLink.start, MctProtocol.readEventData, MctProtocol.new,
      MctChannel.readData_new (show (header packetTypeEvent).headerSize ≠ 0 by decide), Option.toList_none, List.append_nil]
  | readAclData choice =>
    simp only [MctLink.step, MctLink.start, MctProtocol.readAclData, MctProtocol.new,
      MctChannel.readData_new (show (header packetTypeAclData).headerSize ≠ 0 by decide), Option.toList_none, List.append_nil]

theorem MctLink.after_new (packets : List Packet) (calls : Nat → MctCall) (n : Nat) :
    (MctLink.start packets).after calls n = MctLink.start packets := by
  induction n with
  | zero => rfl
  | succ n ih => rw [MctLink.after, ih, MctLink.step_new]

/-! ### What the single channel delivers -/

theorem Link.delivered_mono (link : Link) (choices : Nat → Nat) {n m : Nat} (later : n ≤ m) :
    (link.after choices n).delivered <+: (link.after choices m).delivered := by
  induction later with
  | refl => exact List.prefix_rfl
  | step _ ih =>
    rw [Link.after]
    exact ih.trans (List.prefix_append _ _)

section
variable {packets : List Packet}

theorem At.delivered {link : Link} (at_ : At packets link) :
    ∃ done todo, packets = done ++ todo ∧ (∀ p ∈ done, p.payload ≠ []) ∧ link.delivered = done.map Packet.delivery := by
  cases at_ with
  | idle packetType split served => exact ⟨_, _, split, served, rfl⟩
  | head split served size short same => exact ⟨_, _, split, served, rfl⟩
  | body split served size begun short same => exact ⟨_, _, split, served, rfl⟩
  | stuck split served empty => exact ⟨_, _, split, served, rfl⟩

theorem delivered_first (packets : List Packet) {p : Packet} (some_ : p.payload ≠ []) (choices : Nat → Nat) :
    ∃ n, ((Link.start (serialise (p :: packets))).after choices n).delivered ≠ [] := by
  obtain ⟨n, settled⟩ := (Link.start (serialise (p :: packets))).settles choices
  have at_ := (At.start (p :: packets)).after choices n
  refine ⟨n, ?_⟩
  by_cases asks : ((Link.start (serialise (p :: packets))).after choices n).reader.asks = 0
  · obtain ⟨done, q, todo, split, empty, delivered, _⟩ := at_.asks asks
    rw [delivered]
    cases done with
    | nil =>
      cases split
      exact absurd empty some_
    | cons first done => simp
  · rw [(at_.empty (settled.resolve_right asks) asks).1]
    simp

theorem delivered_none (first : ∀ p, packets.head? = some p → p.payload = []) {link : Link} (at_ : At packets link) :
    link.delivered = [] := by
  obtain ⟨done, todo, split, served, delivered⟩ := at_.delivered
  cases done with
  | nil => exact delivered
  | cons p done => exact absurd (first p (by rw [split]; rfl)) (served p (List.mem_cons_self ..))

def inTurns (n : Nat) : MctCall := if n % 2 = 0 then .readEventData 1 else .readAclData 1

theorem inTurns_fair : Fair inTurns := by
  intro n
  refine ⟨⟨2 * n, by omega, 1, ?_⟩, ⟨2 * n + 1, by omega, 1, ?_⟩⟩
  · rw [inTurns, if_pos (by omega)]
  · rw [inTurns, if_neg (by omega)]

theorem mem_ofKind {p : Packet} {delivered : List Delivery} (member : p.delivery ∈ delivered) :
    p.head ++ p.payload ∈ ofKind p.kind delivered := by
  refine List.mem_map.mpr ⟨p.delivery, ?_, rfl⟩
  exact List.mem_filter.mpr ⟨member, by simp [Packet.delivery]⟩

/-- A first packet with a payload is delivered by the single channel only. -/
theorem not_sameDeliveries {p : Packet} (kinds : ∀ q ∈ p :: packets, q.kind = .event ∨ q.kind = .acl) (some_ : p.payload ≠ []) :
    ¬ SameDeliveries (p :: packets) := by
  intro same
  obtain ⟨n, first⟩ := delivered_first packets some_ fun _ => 1
  obtain ⟨n', agree⟩ := same inTurns (fun _ => 1) inTurns_fair
  obtain ⟨events, acls⟩ := agree (max n n') (Nat.le_max_right _ _)
  rw [MctLink.after_new] at events acls
  have longer := (Link.start (serialise (p :: packets))).delivered_mono (fun _ => 1) (Nat.le_max_left n n')
  obtain ⟨done, todo, split, _, delivered⟩ := ((At.start (p :: packets)).after (fun _ => 1) (max n n')).delivered
  rw [delivered] at longer events acls
  cases done with
  | nil => exact first (List.prefix_nil.mp longer)
  | cons q done =>
    have member : q.head ++ q.payload ∈ ofKind q.kind ((q :: done).map Packet.delivery) :=
      mem_ofKind (List.mem_map_of_mem (List.mem_cons_self ..))
    rcases kinds q (by rw [split]; exact List.mem_cons_self ..) with event | acl
    · rw [event, ← events] at member
      cases member
    · rw [acl, ← acls] at member
      cases member

/-- The transports deliver the same exactly when the single channel delivers nothing. -/
theorem sameDeliveries_iff_first_empty (packets : List Packet) (kinds : ∀ p ∈ packets, p.kind = .event ∨ p.kind = .acl) :
    SameDeliveries packets ↔ ∀ p, packets.head? = some p → p.payload = [] := by
  constructor
  · intro same p first
    by_contra some_
    cases packets with
    | nil => cases first
    | cons q packets =>
      cases first
      exact not_sameDeliveries kinds some_ same
  · intro first calls choices _
    refine ⟨0, fun m _ => ?_⟩
    rw [MctLink.after_new, delivered_none first ((At.start packets).after choices m)]
    exact ⟨rfl, rfl⟩

end

def shortEvent : Packet := ⟨.event, [0x10, 1], [0], rfl, rfl⟩

/-- Neither transport delivers an event without parameters. -/
theorem emptyEvent_sameDeliveries : (∀ p ∈ [emptyEvent], p.kind = .event ∨ p.kind = .acl) ∧ SameDeliveries [emptyEvent] := by
  have kinds : ∀ p ∈ [emptyEvent], p.kind = .event ∨ p.kind = .acl := by simp [emptyEvent]
  refine ⟨kinds, (sameDeliveries_iff_first_empty [emptyEvent] kinds).mpr ?_⟩
  rintro p ⟨⟩
  rfl

/-- Only the single channel delivers an event with a parameter. -/
theorem shortEvent_not_sameDeliveries :
    (∀ p ∈ [shortEvent], p.kind = .event ∨ p.kind = .acl) ∧ ¬ SameDeliveries [shortEvent] := by
  have kinds : ∀ p ∈ [shortEvent], p.kind = .event ∨ p.kind = .acl := by simp [shortEvent]
  exact ⟨kinds, not_sameDeliveries kinds (List.cons_ne_nil _ _)⟩

end Peripheral.Hci
