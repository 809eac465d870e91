import Peripheral.Loops

/-!
The parser of USB configuration descriptors in `usb_raw_api_library.c`. It goes
over the bytes twice: `GetInterfaceNumber` counts interfaces and alternate
settings to allocate for them, and `ParseConfigurationDes` with its callees fills
what was allocated. The buffer is the list of its bytes; a read behind its end and
a write behind the allocated alternate settings are faults. Allocations are taken
to succeed. Sizes are not negative and below 2^31; only the subtraction of
`FindNextDescriptor`, on a `size_t`, can wrap.
-/
namespace Peripheral.Usb
open Peripheral.Loops

def usbDdkDtConfig : Nat := 0x02
def usbDdkDtInterface : Nat := 0x04
def usbDdkDtEndpoint : Nat := 0x05
def usbDdkDtConfigSize : Nat := 9
def usbDdkDtInterfaceSize : Nat := 9
def usbDdkDtEndpointSize : Nat := 7
def usbDdkDtEndpointAudioSize : Nat := 9
def descHeaderLength : Nat := 2
def usbMaxInterfaces : Nat := 32
def usbMaxAltsetting : Nat := 128
def usbMaxEndpoints : Nat := 32

inductive HdfError
  | errIo | devErrNorange
  deriving DecidableEq

/-- `UsbRawEndpointDescriptor`: the nine bytes of the descriptor and what follows it. -/
structure RawEndpoint where
  endpointDescriptor : List UInt8
  extra : List UInt8
  deriving DecidableEq

/-- `UsbRawInterfaceDescriptor`: one alternate setting. -/
structure RawAltsetting where
  interfaceDescriptor : List UInt8
  endPoint : List RawEndpoint
  extra : List UInt8
  deriving DecidableEq

/-- `UsbRawInterface`, with the alternate settings it was allocated for and the ones it has. -/
structure RawInterface where
  allocated : Nat
  altsetting : List RawAltsetting
  deriving DecidableEq

/-- `UsbRawConfigDescriptor`. -/
structure RawConfig where
  configDescriptor : List UInt8
  interface : List RawInterface
  extra : List UInt8
  deriving DecidableEq

def byteAt (buffer : List UInt8) (i : Nat) : Outcome HdfError Nat :=
  match buffer[i]? with
  | some b => .ret b.toNat
  | none => .fault

def bytesAt (buffer : List UInt8) (i n : Nat) : Outcome HdfError (List UInt8) :=
  if i + n ≤ buffer.length then .ret ((buffer.drop i).take n) else .fault

def field (descriptor : List UInt8) (i : Nat) : Nat := (descriptor.getD i 0).toNat

/-- An interface number with the alternate settings counted for it: `nIntf[i]` and `nAlts[i]`. -/
structure Counted where
  nIntf : Nat
  nAlts : Nat
  deriving DecidableEq

def countInterface (inum : Nat) (counted : List Counted) : List Counted :=
  match counted.findIdx? (fun c => c.nIntf = inum) with
  | some i => counted.modify i fun c => if c.nAlts < usbMaxAltsetting then { c with nAlts := c.nAlts + 1 } else c
  | none => if counted.length < usbMaxInterfaces then counted ++ [⟨inum, 1⟩] else counted

def getInterfaceNumberDes (buffer : List UInt8) (desc : Nat) (counted : List Counted) :
    Outcome HdfError (List Counted) := do
  let bLength ← byteAt buffer desc
  if bLength < usbDdkDtInterfaceSize then return counted
  let inum ← byteAt buffer (desc + 2)
  return countInterface inum counted

/-- One descriptor of `GetInterfaceNumber`. -/
def countDescriptor (buffer : List UInt8) : Nat × Nat × List Counted →
    Outcome HdfError ((Nat × Nat × List Counted) ⊕ List Counted)
  | (buffer2, size2, counted) => do
    if size2 > 0 then
      if size2 < descHeaderLength then return .inr counted
      let bLength ← byteAt buffer buffer2
      if bLength > size2 ∨ bLength < descHeaderLength then return .inr counted
      let bDescriptorType ← byteAt buffer (buffer2 + 1)
      let counted ← if bDescriptorType = usbDdkDtInterface then getInterfaceNumberDes buffer buffer2 counted
        else pure counted
      return .inl (buffer2 + bLength, size2 - bLength, counted)
    else return .inr counted

def getInterfaceNumber (buffer : List UInt8) (fuel : Nat) : Outcome HdfError (List Counted) :=
  iterate (fun _ => countDescriptor buffer) fuel (0, buffer.length, [])

def subSize (size bLength : Nat) : Nat := if bLength ≤ size then size - bLength else 2^64 - (bLength - size)

/-- One descriptor of `FindNextDescriptor`. -/
def skipDescriptor (buffer : List UInt8) : Nat × Nat → Outcome HdfError ((Nat × Nat) ⊕ Nat)
  | (pos, size) => do
    if size > 0 then
      let bDescriptorType ← byteAt buffer (pos + 1)
      if bDescriptorType = usbDdkDtInterface ∨ bDescriptorType = usbDdkDtEndpoint then return .inr pos
      let bLength ← byteAt buffer pos
      return .inl (pos + bLength, subSize size bLength)
    else return .inr pos

def findNextDescriptor (buffer : List UInt8) (fuel pos size : Nat) : Outcome HdfError Nat :=
  iterate (fun _ => skipDescriptor buffer) fuel (pos, size)

def parseExtra (buffer : List UInt8) (fuel pos size : Nat) : Outcome HdfError (List UInt8 × Nat) := do
  let next ← findNextDescriptor buffer fuel pos size
  let extra ← bytesAt buffer pos (next - pos)
  return (extra, next)

/-- The nine bytes of an endpoint descriptor; the two of an audio endpoint are zero when they are not there. -/
def parseEndpointDescriptor (buffer : List UInt8) (pos bLength : Nat) : Outcome HdfError (List UInt8) := do
  if bLength ≥ usbDdkDtEndpointAudioSize then bytesAt buffer pos usbDdkDtEndpointAudioSize
  else
    let descriptor ← bytesAt buffer pos usbDdkDtEndpointSize
    return descriptor ++ [0, 0]

def parseEndpoint (buffer : List UInt8) (fuel pos size : Nat) : Outcome HdfError (Option (RawEndpoint × Nat)) := do
  if size < descHeaderLength then Outcome.error .errIo
  else
    let bDescriptorType ← byteAt buffer (pos + 1)
    let bLength ← byteAt buffer pos
    if bDescriptorType ≠ usbDdkDtEndpoint ∨ bLength > size then return none
    if bLength < usbDdkDtEndpointSize then Outcome.error .errIo
    else
      let descriptor ← parseEndpointDescriptor buffer pos bLength
      let (extra, next) ← parseExtra buffer fuel (pos + bLength) (size - bLength)
      return some (⟨descriptor, extra⟩, next)

/-- The loop of `ParseInterfaceEndpoint` with `remaining` endpoints to go. -/
def parseEndpoints (buffer : List UInt8) (fuel pos size : Nat) (endPoint : List RawEndpoint) :
    Nat → Outcome HdfError (List RawEndpoint × Nat × Nat)
  | 0 => return (endPoint, pos, size)
  | remaining+1 => do
    let some (parsed, next) ← parseEndpoint buffer fuel pos size | return (endPoint, pos, size)
    parseEndpoints buffer fuel next (size - (next - pos)) (endPoint ++ [parsed]) remaining

/-- One alternate setting, after `RawParseDescriptor` has accepted its descriptor. -/
def parseAltsetting (buffer : List UInt8) (fuel pos size : Nat) (descriptor : List UInt8) :
    Outcome HdfError (RawAltsetting × Nat × Nat) := do
  let bLength := field descriptor 0
  let bNumEndpoints := field descriptor 4
  let (extra, next) ← parseExtra buffer fuel (pos + bLength) (size - bLength)
  let (endPoint, pos, size) ← parseEndpoints buffer fuel next (size - (next - pos)) [] bNumEndpoints
  let descriptor := if endPoint.length < bNumEndpoints then descriptor.set 4 (UInt8.ofNat endPoint.length) else descriptor
  return (⟨descriptor, endPoint, extra⟩, pos, size)

/-- The state of the loop of `ParseInterface`; no number is -1. -/
structure InterfaceLoop where
  pos : Nat
  size : Nat
  usbInterface : RawInterface
  interfaceNumber : Option Nat

/-- One round of the loop of `ParseInterface`. `RawParseDescriptor` copies the descriptor into the alternate setting
    behind the last one before it looks at it. -/
def interfaceRound (buffer : List UInt8) (fuel : Nat) (s : InterfaceLoop) :
    Outcome HdfError (InterfaceLoop ⊕ (Nat × RawInterface)) := do
  if s.size ≥ usbDdkDtInterfaceSize then
    if s.usbInterface.altsetting.length ≥ s.usbInterface.allocated then Outcome.fault
    else
      let descriptor ← bytesAt buffer s.pos usbDdkDtInterfaceSize
      if field descriptor 1 ≠ usbDdkDtInterface ∨ field descriptor 0 > s.size then return .inr (s.pos, s.usbInterface)
      if field descriptor 0 < usbDdkDtInterfaceSize ∨ field descriptor 4 > usbMaxEndpoints then Outcome.error .errIo
      else
        let interfaceNumber := s.interfaceNumber.getD (field descriptor 2)
        let (parsed, pos, size) ← parseAltsetting buffer fuel s.pos s.size descriptor
        let usbInterface := { s.usbInterface with altsetting := s.usbInterface.altsetting ++ [parsed] }
        if size < usbDdkDtInterfaceSize then return .inr (pos, usbInterface)
        let bDescriptorType ← byteAt buffer (pos + 1)
        let bInterfaceNumber ← byteAt buffer (pos + 2)
        if bDescriptorType ≠ usbDdkDtInterface ∨ bInterfaceNumber ≠ interfaceNumber then return .inr (pos, usbInterface)
        return .inl ⟨pos, size, usbInterface, some interfaceNumber⟩
  else return .inr (s.pos, s.usbInterface)

/-- The position behind what was parsed and the interface; `none` is a null pointer. -/
def parseInterface (buffer : List UInt8) (fuel : Nat) (usbInterface : Option RawInterface) (pos size : Nat) :
    Outcome HdfError (Nat × RawInterface) :=
  match usbInterface with
  | none => .error .devErrNorange
  | some usbInterface =>
    if usbInterface.altsetting.length > usbMaxAltsetting then .error .devErrNorange
    else iterate (interfaceRound buffer) fuel ⟨pos, size, usbInterface, none⟩

/-- The state of the loop of `ParseConfigurationDes`; `selected` is the interface `usbInterface` points to. -/
structure ConfigLoop where
  pos : Nat
  size : Nat
  interface : List RawInterface
  selected : Option Nat

/-- The interface with the number at `pos`, or the one before when there is none. The number is not read when there
    are no interfaces to compare it with. -/
def selectInterface (buffer : List UInt8) (counted : List Counted) (pos : Nat) (selected : Option Nat) :
    Outcome HdfError (Option Nat) := do
  if counted = [] then return selected
  else
    let bInterfaceNumber ← byteAt buffer (pos + 2)
    return (counted.findIdx? (fun c => c.nIntf = bInterfaceNumber)).or selected

/-- One round of the loop of `ParseConfigurationDes`. -/
def configRound (buffer : List UInt8) (counted : List Counted) (fuel : Nat) (s : ConfigLoop) :
    Outcome HdfError (ConfigLoop ⊕ (Nat × List RawInterface)) := do
  if s.size > 0 then
    let selected ← selectInterface buffer counted s.pos s.selected
    let (pos, usbInterface) ← parseInterface buffer fuel (selected.bind (s.interface[·]?)) s.pos s.size
    let interface := match selected with
      | some i => s.interface.set i usbInterface
      | none => s.interface
    return .inl ⟨pos, s.size - (pos - s.pos), interface, selected⟩
  else return .inr (s.size, s.interface)

def allocateInterface (c : Counted) : RawInterface :=
  ⟨if c.nAlts > usbMaxAltsetting then usbMaxAltsetting else c.nAlts, []⟩

/-- The rest of the configuration, with the size that is returned. -/
def parseConfigurationDes (buffer : List UInt8) (counted : List Counted) (fuel pos size : Nat)
    (configDescriptor : List UInt8) : Outcome HdfError (Nat × RawConfig) := do
  let (extra, next) ← parseExtra buffer fuel pos size
  let interface := counted.map allocateInterface
  let selected := if counted.length = 0 then none else some (counted.length - 1)
  let (size, interface) ← iterate (configRound buffer counted) fuel ⟨next, size - (next - pos), interface, selected⟩
  return (size, ⟨configDescriptor, interface, extra⟩)

/-- Whether the first descriptor is refused. Its length is compared with the size cut down to a byte. -/
def badHeader (configDescriptor : List UInt8) (size : Nat) : Bool :=
  field configDescriptor 1 ≠ usbDdkDtConfig || field configDescriptor 0 < usbDdkDtConfigSize ||
    field configDescriptor 0 > size % 2^8 || field configDescriptor 4 > usbMaxInterfaces

def parseConfiguration (buffer : List UInt8) (fuel : Nat) : Outcome HdfError (Nat × RawConfig) := do
  if buffer.length < usbDdkDtConfigSize then Outcome.error .errIo
  else
    let configDescriptor ← bytesAt buffer 0 usbDdkDtConfigSize
    if badHeader configDescriptor buffer.length then Outcome.error .errIo
    else
      let counted ← getInterfaceNumber buffer fuel
      parseConfigurationDes buffer counted fuel (field configDescriptor 0) (buffer.length - field configDescriptor 0)
        (configDescriptor.set 4 (UInt8.ofNat counted.length))

/-- What is returned and the configuration; an error is returned as it is. -/
def descToConfig (buffer : List UInt8) (fuel : Nat) : Outcome HdfError (Nat × RawConfig) :=
  parseConfiguration buffer fuel

end Peripheral.Usb
