import Mathlib.Data.List.Basic

/-!
The readers of the Bluetooth transports: `h4_protocol.cpp`, where one channel carries
packets of every type with a type byte before each, and `mct_protocol.cpp`, where the
events and the ACL data have a channel of their own. A call takes what one `read` of
the channel returns. How much that is, is chosen from outside.
-/
namespace Peripheral.Hci

def packetTypeUnknown : UInt8 := 0
def packetTypeAclData : UInt8 := 2
def packetTypeScoData : UInt8 := 3
def packetTypeEvent : UInt8 := 4
def packetTypeMax : UInt8 := 5

structure PacketHeader where
  headerSize : Nat
  dataLengthOffset : Nat
  dataLengthSize : Nat
  deriving DecidableEq

/-- `HciProtocol::header_`, by the packet type. -/
def header (packetType : UInt8) : PacketHeader :=
  [⟨0, 0, 0⟩, ⟨3, 2, 1⟩, ⟨4, 2, 2⟩, ⟨3, 2, 1⟩, ⟨2, 1, 1⟩].getD packetType.toNat ⟨0, 0, 0⟩

/-- The bytes that `Read` returns and what is left in the channel. At least one byte is returned when one is asked for
    and there is one. -/
def read (rest : List UInt8) (length choice : Nat) : List UInt8 × List UInt8 :=
  (rest.take (min (max choice 1) length), rest.drop (min (max choice 1) length))

def resize (packet : List UInt8) (size : Nat) : List UInt8 := packet.take size ++ List.replicate (size - packet.length) 0

def store (packet : List UInt8) (readLength : Nat) (bytes : List UInt8) : List UInt8 :=
  packet.take readLength ++ bytes ++ packet.drop (readLength + bytes.length)

/-- The length field of a header, the least byte first. -/
def dataLen (header : PacketHeader) (packet : List UInt8) : Nat :=
  (List.range header.dataLengthSize).foldl
    (fun sum ii => sum + (packet.getD (header.dataLengthOffset + ii) 0).toNat <<< (ii * 8)) 0

/-! ### One channel for all packets -/

structure H4Protocol where
  packetType : UInt8
  hciPacket : List UInt8
  readLength : Nat
  deriving DecidableEq

structure Delivery where
  packetType : UInt8
  packet : List UInt8
  deriving DecidableEq

namespace H4Protocol

def packetCallback (h : H4Protocol) : Option Delivery :=
  if h.packetType = packetTypeAclData || h.packetType = packetTypeScoData || h.packetType = packetTypeEvent then
    some ⟨h.packetType, h.hciPacket⟩
  else none

def readData (h : H4Protocol) (rest : List UInt8) (choice : Nat) : Option Delivery × H4Protocol × List UInt8 :=
  if h.hciPacket.length = 0 then
    match read rest 1 choice with
    | ([], rest) => (none, h, rest)
    | (packetType :: _, rest) =>
      if packetType > packetTypeUnknown && packetType < packetTypeMax then
        (none, { h with packetType := packetType, hciPacket := resize h.hciPacket (header packetType).headerSize }, rest)
      else (none, { h with packetType := packetType }, rest)
  else if h.hciPacket.length = (header h.packetType).headerSize then
    match read rest (h.hciPacket.length - h.readLength) choice with
    | ([], rest) => (none, h, rest)
    | (bytes, rest) =>
      let packet := store h.hciPacket h.readLength bytes
      let readLength := h.readLength + bytes.length
      if readLength = packet.length then
        (none, ⟨h.packetType, resize packet (packet.length + dataLen (header h.packetType) packet), readLength⟩, rest)
      else (none, ⟨h.packetType, packet, readLength⟩, rest)
  else
    match read rest (h.hciPacket.length - h.readLength) choice with
    | ([], rest) => (none, h, rest)
    | (bytes, rest) =>
      let packet := store h.hciPacket h.readLength bytes
      let readLength := h.readLength + bytes.length
      if readLength = packet.length then
        (packetCallback ⟨h.packetType, packet, readLength⟩, ⟨h.packetType, [], 0⟩, rest)
      else (none, ⟨h.packetType, packet, readLength⟩, rest)

end H4Protocol

/-- The packet of a channel of `MctProtocol`. -/
structure MctChannel where
  packet : List UInt8
  readLength : Nat
  deriving DecidableEq

/-- A read of a channel with the header of its packets. Only the first byte of the length field is used. -/
def MctChannel.readData (header : PacketHeader) (m : MctChannel) (rest : List UInt8) (choice : Nat) :
    Option (List UInt8) × MctChannel × List UInt8 :=
  if m.packet.length = header.headerSize then
    match read rest (m.packet.length - m.readLength) choice with
    | ([], rest) => (none, m, rest)
    | (bytes, rest) =>
      let packet := store m.packet m.readLength bytes
      let readLength := m.readLength + bytes.length
      if readLength = packet.length then
        (none, ⟨resize packet (packet.length + (packet.getD header.dataLengthOffset 0).toNat), readLength⟩, rest)
      else (none, ⟨packet, readLength⟩, rest)
  else
    match read rest (m.packet.length - m.readLength) choice with
    | ([], rest) => (none, m, rest)
    | (bytes, rest) =>
      let packet := store m.packet m.readLength bytes
      let readLength := m.readLength + bytes.length
      if readLength = packet.length then (some packet, ⟨resize packet header.headerSize, 0⟩, rest)
      else (none, ⟨packet, readLength⟩, rest)

structure MctProtocol where
  acl : MctChannel
  event : MctChannel
  deriving DecidableEq

namespace MctProtocol

def new : MctProtocol := ⟨⟨[], 0⟩, ⟨[], 0⟩⟩

def readEventData (m : MctProtocol) (rest : List UInt8) (choice : Nat) : Option (List UInt8) × MctProtocol × List UInt8 :=
  let (delivered, event, rest) := m.event.readData (header packetTypeEvent) rest choice
  (delivered, { m with event := event }, rest)

def readAclData (m : MctProtocol) (rest : List UInt8) (choice : Nat) : Option (List UInt8) × MctProtocol × List UInt8 :=
  let (delivered, acl, rest) := m.acl.readData (header packetTypeAclData) rest choice
  (delivered, { m with acl := acl }, rest)

end MctProtocol

inductive Kind
  | acl | sco | event
  deriving DecidableEq

def Kind.code : Kind → UInt8
  | acl => packetTypeAclData
  | sco => packetTypeScoData
  | event => packetTypeEvent

structure Packet where
  kind : Kind
  head : List UInt8
  payload : List UInt8
  size : head.length = (header kind.code).headerSize
  length : dataLen (header kind.code) head = payload.length

def serialise (packets : List Packet) : List UInt8 := packets.flatMap fun p => p.kind.code :: (p.head ++ p.payload)

def Packet.delivery (p : Packet) : Delivery := ⟨p.kind.code, p.head ++ p.payload⟩

/-! ### Calls one after the other -/

structure Link where
  reader : H4Protocol
  rest : List UInt8
  delivered : List Delivery
  deriving DecidableEq

namespace Link

def start (stream : List UInt8) : Link := ⟨⟨0, [], 0⟩, stream, []⟩

def step (link : Link) (choice : Nat) : Link :=
  let (delivered, reader, rest) := link.reader.readData link.rest choice
  ⟨reader, rest, link.delivered ++ delivered.toList⟩

def after (link : Link) (choices : Nat → Nat) : Nat → Link
  | 0 => link
  | n + 1 => (link.after choices n).step (choices n)

end Link

end Peripheral.Hci
