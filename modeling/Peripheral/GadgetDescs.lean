import Peripheral.Loops

/-!
The descriptors in the configuration of USB gadgets, from `usbfn_cfg_mgr.c`. A descriptor is read from a node of the
configuration into memory of as many bytes as the node says, at the offsets that belong to its type.
-/
namespace Peripheral.UsbFnCfgMgr
open Loops List

structure DeviceResourceIface (Node : Type) where
  getUint8 : Node → String → Option UInt8
  getUint16 : Node → String → Option UInt16
  getUint32 : Node → String → Option UInt32
  getUint8Array : Node → String → (len : Nat) → Option {data : List UInt8 // data.length = len}
  getString : Node → String → Option String
  getElemNum : Node → String → Int
  getStringArrayElem : Node → String → Nat → Option String
  getChildNode : Node → String → Option Node

def USB_DDK_DT_DEVICE : UInt8 := 0x01
def USB_DDK_DT_STRING : UInt8 := 0x03
def USB_DDK_DT_INTERFACE : UInt8 := 0x04
def USB_DDK_DT_ENDPOINT : UInt8 := 0x05
def USB_DDK_DT_DEVICE_QUALIFIER : UInt8 := 0x06
def USB_DDK_DT_OTG : UInt8 := 0x09
def USB_DDK_DT_DEBUG : UInt8 := 0x0A
def USB_DDK_DT_INTERFACE_ASSOCIATION : UInt8 := 0x0B
def USB_DDK_DT_SECURITY : UInt8 := 0x0C
def USB_DDK_DT_ENCRYPTION_TYPE : UInt8 := 0x0E
def USB_DDK_DT_SS_ENDPOINT_COMP : UInt8 := 0x30
def USB_DDK_DT_SSP_ISOC_ENDPOINT_COMP : UInt8 := 0x31

def USB_DDK_DT_ENDPOINT_AUDIO_SIZE : UInt8 := 0x09
/-- The size of `UsbOtg20Descriptor`. -/
def OTG20_SIZE : UInt8 := 5
/-- The size of `UsbDeviceDescriptor`. -/
def DEVICE_SIZE : UInt8 := 18

/-- An attribute, and the offset of its field. -/
inductive Field
  | uint8 (attr : String) (offset : Nat)
  | uint16 (attr : String) (offset : Nat)
  | uint32 (attr : String) (offset : Nat)

abbrev Buffer := List UInt8

/-- A `switch` with its cases and what it does otherwise. -/
def switch {α : Type} (value : UInt8) (cases : List (UInt8 × α)) (default : α) : α :=
  ((cases.find? fun entry => entry.1 = value).map Prod.snd).getD default

namespace Field

def offset : Field → Nat
  | .uint8 _ offset | .uint16 _ offset | .uint32 _ offset => offset

def width : Field → Nat
  | .uint8 .. => 1
  | .uint16 .. => 2
  | .uint32 .. => 4

def ends (field : Field) : Nat := field.offset + field.width

def isByte : Field → Bool
  | .uint8 .. => true
  | _ => false

def read {Node : Type} (drsOps : DeviceResourceIface Node) (node : Node) : Field → Option (List UInt8)
  | .uint8 attr _ => (drsOps.getUint8 node attr).map fun v => [v]
  | .uint16 attr _ => (drsOps.getUint16 node attr).map fun v : UInt16 => [v.toUInt8, (v >>> 8).toUInt8]
  | .uint32 attr _ => (drsOps.getUint32 node attr).map fun v : UInt32 =>
      [v.toUInt8, (v >>> 8).toUInt8, (v >>> 16).toUInt8, (v >>> 24).toUInt8]

end Field

def put (buf : Buffer) (offset : Nat) (data : List UInt8) : Buffer :=
  buf.take offset ++ data ++ buf.drop (offset + data.length)

def store (offset : Nat) (data : List UInt8) (buf : Buffer) : Outcome Unit Buffer :=
  if offset + data.length ≤ buf.length then .ret (put buf offset data) else .fault

def storeAll : List (Nat × List UInt8) → Buffer → Outcome Unit Buffer
  | [], buf => .ret buf
  | (offset, data) :: rest, buf => store offset data buf >>= storeAll rest

section
variable {Node : Type} (drsOps : DeviceResourceIface Node) (node : Node)

/-- The attributes of one condition, up to the first that fails. A byte is read into its field, which gets the default 0 when
    that fails; the others are read into variables. -/
def readChain : List Field → Buffer → Outcome Unit (Buffer × List (Nat × List UInt8))
  | [], buf => .ret (buf, [])
  | .uint8 attr offset :: rest, buf => do
    let buf ← store offset [(drsOps.getUint8 node attr).getD 0] buf
    if (drsOps.getUint8 node attr).isSome then readChain rest buf else .error ()
  | field :: rest, buf =>
    match field.read drsOps node with
    | none => .error ()
    | some data => do
      let (buf, late) ← readChain rest buf
      .ret (buf, (field.offset, data) :: late)

/-- One condition, and the variables that are copied to their fields after it. -/
def parseFields (fields : List Field) (buf : Buffer) : Outcome Unit Buffer := do
  let (buf, late) ← readChain drsOps node fields buf
  storeAll late buf

def accocInterfaceFields : List Field :=
  [.uint8 "bLength" 0, .uint8 "bDescriptorType" 1, .uint8 "bFirstInterface" 2, .uint8 "bInterfaceCount" 3,
    .uint8 "bFunctionClass" 4, .uint8 "bFunctionSubClass" 5, .uint8 "bFunctionProtocol" 6, .uint8 "iFunction" 7]

def parseAccocInterfaceDesc : Buffer → Outcome Unit Buffer := parseFields drsOps node accocInterfaceFields

def interfaceFields : List Field :=
  [.uint8 "bLength" 0, .uint8 "bDescriptorType" 1, .uint8 "bInterfaceNumber" 2, .uint8 "bAlternateSetting" 3,
    .uint8 "bNumEndpoints" 4, .uint8 "bInterfaceClass" 5, .uint8 "bInterfaceSubClass" 6, .uint8 "bInterfaceProtocol" 7,
    .uint8 "iInterface" 8]

def parseInterfaceDesc : Buffer → Outcome Unit Buffer := parseFields drsOps node interfaceFields

def endpointFields : List Field :=
  [.uint8 "bLength" 0, .uint8 "bDescriptorType" 1, .uint8 "bEndpointAddress" 2, .uint8 "bmAttributes" 3,
    .uint16 "wMaxPacketSize" 4, .uint8 "bInterval" 6]

def endpointAudioFields : List Field := [.uint8 "bRefresh" 7, .uint8 "bSynchAddress" 8]

def parseEndpointDesc (buf : Buffer) : Outcome Unit Buffer := do
  let buf ← parseFields drsOps node endpointFields buf
  if buf.head? = some USB_DDK_DT_ENDPOINT_AUDIO_SIZE then parseFields drsOps node endpointAudioFields buf
  else .ret buf

def stringFields : List Field := [.uint8 "bLength" 0, .uint8 "bDescriptorType" 1, .uint16 "wData" 2]

def parseStringDesc : Buffer → Outcome Unit Buffer := parseFields drsOps node stringFields

def sspIsocEndpointFields : List Field :=
  [.uint8 "bLength" 0, .uint8 "bDescriptorType" 1, .uint16 "wReseved" 2, .uint32 "dwBytesPerInterval" 4]

def parseSspIsocEndpointDesc : Buffer → Outcome Unit Buffer := parseFields drsOps node sspIsocEndpointFields

def ssEndpointFields : List Field :=
  [.uint8 "bLength" 0, .uint8 "bDescriptorType" 1, .uint8 "bMaxBurst" 2, .uint8 "bmAttributes" 3, .uint16 "wBytesPerInterval" 4]

def parseSsEndpointDesc : Buffer → Outcome Unit Buffer := parseFields drsOps node ssEndpointFields

def qualifierFields : List Field :=
  [.uint8 "bLength" 0, .uint8 "bDescriptorType" 1, .uint8 "bDeviceClass" 4, .uint8 "bDeviceSubClass" 5,
    .uint8 "bDeviceProtocol" 6, .uint8 "bMaxPacketSize0" 7, .uint8 "bNumConfigurations" 8, .uint16 "bcdUSB" 2]

def parseQualifierDesc : Buffer → Outcome Unit Buffer := parseFields drsOps node qualifierFields

def otgFields : List Field := [.uint8 "bLength" 0, .uint8 "bDescriptorType" 1, .uint8 "bmAttributes" 2]

/-- The release number of OTG 2.0, from some attribute. -/
def otg20Fields (attr : String) : List Field := [.uint16 attr 3]

/-- It is read from the attribute of the device qualifier. -/
def parseOtgDesc (length : UInt8) (buf : Buffer) : Outcome Unit Buffer := do
  let buf ← parseFields drsOps node otgFields buf
  if length = OTG20_SIZE then parseFields drsOps node (otg20Fields "bcdUSB") buf
  else .ret buf

def debugFields : List Field :=
  [.uint8 "bLength" 0, .uint8 "bDescriptorType" 1, .uint8 "bDebugInEndpoint" 2, .uint8 "bDebugOutEndpoint" 3]

def parseDebugDesc : Buffer → Outcome Unit Buffer := parseFields drsOps node debugFields

def securityFields : List Field :=
  [.uint8 "bLength" 0, .uint8 "bDescriptorType" 1, .uint8 "bNumEncryptionTypes" 4, .uint16 "wTotalLength" 2]

def parseSecurityDesc : Buffer → Outcome Unit Buffer := parseFields drsOps node securityFields

/-- The bytes as they stand in the configuration, or zeros where they cannot be read. -/
def parseOtherDesc (length : UInt8) (buf : Buffer) : Outcome Unit Buffer := do
  let buf ← store 0 (((drsOps.getUint8Array node "desc_data" length.toNat).map Subtype.val).getD
    (replicate length.toNat 0)) buf
  if (drsOps.getUint8Array node "desc_data" length.toNat).isNone then .error ()
  else
    match buf with
    | [] => .fault
    | first :: _ => if first ≠ length then .error () else .ret buf

def parseDescriptor (buf : Buffer) (descType length : UInt8) : Outcome Unit Buffer :=
  switch descType
    [(USB_DDK_DT_INTERFACE, parseInterfaceDesc drsOps node buf),
      (USB_DDK_DT_ENDPOINT, parseEndpointDesc drsOps node buf),
      (USB_DDK_DT_STRING, parseStringDesc drsOps node buf),
      (USB_DDK_DT_INTERFACE_ASSOCIATION, parseAccocInterfaceDesc drsOps node buf),
      (USB_DDK_DT_SSP_ISOC_ENDPOINT_COMP, parseSspIsocEndpointDesc drsOps node buf),
      (USB_DDK_DT_SS_ENDPOINT_COMP, parseSsEndpointDesc drsOps node buf),
      (USB_DDK_DT_DEVICE_QUALIFIER, parseQualifierDesc drsOps node buf),
      (USB_DDK_DT_OTG, parseOtgDesc drsOps node length buf),
      (USB_DDK_DT_DEBUG, parseDebugDesc drsOps node buf),
      (USB_DDK_DT_SECURITY, parseSecurityDesc drsOps node buf),
      (USB_DDK_DT_ENCRYPTION_TYPE, parseSecurityDesc drsOps node buf)]
    (parseOtherDesc drsOps node length buf)

end

section
variable {Node : Type} (drsOps : DeviceResourceIface Node) (node : Node)

def Field.readable (field : Field) : Bool := (field.read drsOps node).isSome

def Field.data (field : Field) : List UInt8 := (field.read drsOps node).getD (replicate field.width 0)

def place (fields : List Field) (buf : Buffer) : Buffer :=
  fields.foldl (fun buf field => put buf field.offset (field.data drsOps node)) buf

def image (fields : List Field) (buf : Buffer) : Buffer :=
  place drsOps node (fields.filter (!·.isByte)) (place drsOps node (fields.filter (·.isByte)) buf)

/-- The fields up to the first that cannot be read, which is stored too if it is a byte. -/
def reached : List Field → List Field
  | [] => []
  | field :: rest =>
    if field.readable drsOps node then field :: reached rest
    else if field.isByte then [field]
    else []

/-- Every field that is stored lies inside of so many bytes. -/
def Fits (len : Nat) (fields : List Field) : Prop :=
  (∀ field ∈ reached drsOps node fields, field.isByte → field.ends ≤ len) ∧
    ((∀ field ∈ fields, field.readable drsOps node) → ∀ field ∈ fields, field.ends ≤ len)

instance (len : Nat) (fields : List Field) : Decidable (Fits drsOps node len fields) :=
  inferInstanceAs (Decidable (_ ∧ _))

theorem Field.data_length (field : Field) : (field.data drsOps node).length = field.width := by
  unfold Field.data
  cases field with
  | uint8 attr offset => cases found : drsOps.getUint8 node attr <;> simp [Field.read, Field.width, found]
  | uint16 attr offset => cases found : drsOps.getUint16 node attr <;> simp [Field.read, Field.width, found]
  | uint32 attr offset => cases found : drsOps.getUint32 node attr <;> simp [Field.read, Field.width, found]

variable {buf : Buffer}

theorem put_length {offset : Nat} {data : List UInt8} (fits : offset + data.length ≤ buf.length) :
    (put buf offset data).length = buf.length := by
  simp only [put, length_append, length_take, length_drop]
  omega

theorem place_length (fields : List Field) : ∀ buf : Buffer, (∀ field ∈ fields, field.ends ≤ buf.length) →
    (place drsOps node fields buf).length = buf.length := by
  induction fields with
  | nil =>
    intro buf _
    rfl
  | cons field rest ih =>
    intro buf fits
    have first : field.offset + (field.data drsOps node).length ≤ buf.length := by
      rw [Field.data_length]
      exact fits field mem_cons_self
    have same := put_length first
    have later : (place drsOps node rest (put buf field.offset (field.data drsOps node))).length = _ :=
      ih (put buf field.offset (field.data drsOps node)) (by
        intro other member
        rw [same]
        exact fits other (mem_cons_of_mem _ member))
    exact later.trans same

variable {field : Field}

theorem store_field : store field.offset (field.data drsOps node) buf =
      if field.ends ≤ buf.length then .ret (put buf field.offset (field.data drsOps node)) else .fault := by
  rw [store, Field.data_length]
  rfl

/-- What is left for the end of a condition. -/
def late (fields : List Field) : List (Nat × List UInt8) :=
  (fields.filter (!·.isByte)).map fun field => (field.offset, field.data drsOps node)

theorem readChain_byte (byte : field.isByte) (rest : List Field) (buf : Buffer) : readChain drsOps node (field :: rest) buf =
      (store field.offset (field.data drsOps node) buf >>= fun buf =>
        if field.readable drsOps node then readChain drsOps node rest buf else .error ()) := by
  cases field with
  | uint8 attr offset =>
    have same : Field.data drsOps node (.uint8 attr offset) = [(drsOps.getUint8 node attr).getD 0] := by
      cases found : drsOps.getUint8 node attr <;> simp [Field.data, Field.read, Field.width, found]
    simp only [readChain, Field.offset, same, Field.readable, Field.read, Option.isSome_map]
  | uint16 attr offset => cases byte
  | uint32 attr offset => cases byte

theorem readChain_word (word : ¬field.isByte) (rest : List Field) (buf : Buffer) : readChain drsOps node (field :: rest) buf =
      if field.readable drsOps node then
        readChain drsOps node rest buf >>= fun r => .ret (r.1, (field.offset, field.data drsOps node) :: r.2)
      else .error () := by
  cases field with
  | uint8 attr offset => exact absurd rfl word
  | uint16 attr offset =>
    cases found : (Field.uint16 attr offset).read drsOps node <;> simp [readChain, Field.readable, Field.data, found]
  | uint32 attr offset =>
    cases found : (Field.uint32 attr offset).read drsOps node <;> simp [readChain, Field.readable, Field.data, found]

theorem readChain_eq (fields : List Field) : ∀ buf : Buffer, readChain drsOps node fields buf =
      if ∀ field ∈ reached drsOps node fields, field.isByte → field.ends ≤ buf.length then
        if ∀ field ∈ fields, field.readable drsOps node then
          .ret (place drsOps node (fields.filter (·.isByte)) buf, late drsOps node fields) else .error () else .fault := by
  induction fields with
  | nil =>
    intro buf
    simp [readChain, reached, place, late]
  | cons field rest ih =>
    intro buf
    by_cases byte : field.isByte
    · rw [readChain_byte drsOps node byte, store_field]
      by_cases fits : field.ends ≤ buf.length
      · have inside : field.offset + (field.data drsOps node).length ≤ buf.length := by
          rw [Field.data_length]
          exact fits
        rw [if_pos fits, Outcome.ret_bind]
        by_cases there : field.readable drsOps node
        · simp only [if_pos there, ih, put_length inside]
          simp [reached, there, byte, fits, place, late]
        · simp [reached, there, byte, fits]
      · have stored : field ∈ reached drsOps node (field :: rest) := by
          by_cases there : field.readable drsOps node <;> simp [reached, there, byte]
        rw [if_neg fits, Outcome.fault_bind, if_neg fun all => fits (all field stored byte)]
    · rw [readChain_word drsOps node byte, ih]
      by_cases there : field.readable drsOps node
      · have bytes : (∀ other ∈ reached drsOps node (field :: rest), other.isByte → other.ends ≤ buf.length) ↔
            ∀ other ∈ reached drsOps node rest, other.isByte → other.ends ≤ buf.length := by
          simp [reached, there, byte]
        have all : (∀ other ∈ field :: rest, other.readable drsOps node) ↔ ∀ other ∈ rest, other.readable drsOps node := by
          simp [there]
        simp only [if_pos there, bytes, all]
        split
        · split
          · simp [byte, late]
          · rfl
        · rfl
      · simp [reached, there, byte]

theorem storeAll_late (fields : List Field) : ∀ buf : Buffer,
    storeAll (fields.map fun field => (field.offset, field.data drsOps node)) buf =
      if ∀ field ∈ fields, field.ends ≤ buf.length then .ret (place drsOps node fields buf) else .fault := by
  induction fields with
  | nil =>
    intro buf
    simp [storeAll, place]
  | cons field rest ih =>
    intro buf
    rw [map_cons, storeAll, store_field]
    by_cases fits : field.ends ≤ buf.length
    · have inside : field.offset + (field.data drsOps node).length ≤ buf.length := by
        rw [Field.data_length]
        exact fits
      rw [if_pos fits, Outcome.ret_bind, ih, put_length inside]
      simp [fits, place]
    · simp [fits]

theorem reached_all {fields : List Field} (all : ∀ field ∈ fields, field.readable drsOps node) :
    reached drsOps node fields = fields := by
  induction fields with
  | nil => rfl
  | cons field rest ih =>
    rw [forall_mem_cons] at all
    rw [reached, if_pos all.1, ih all.2]

theorem parseFields_eq (fields : List Field) (buf : Buffer) : parseFields drsOps node fields buf =
      if Fits drsOps node buf.length fields then
        if ∀ field ∈ fields, field.readable drsOps node then .ret (image drsOps node fields buf) else .error ()
      else .fault := by
  unfold parseFields
  rw [readChain_eq]
  by_cases bytes : ∀ field ∈ reached drsOps node fields, field.isByte → field.ends ≤ buf.length
  · rw [if_pos bytes]
    by_cases all : ∀ field ∈ fields, field.readable drsOps node
    · have inner : ∀ field ∈ fields.filter (·.isByte), field.ends ≤ buf.length := by
        intro field member
        rw [mem_filter] at member
        refine bytes field ?_ member.2
        rw [reached_all drsOps node all]
        exact member.1
      have fits : Fits drsOps node buf.length fields ↔ ∀ field ∈ fields.filter (!·.isByte), field.ends ≤ buf.length := by
        constructor
        · intro fits field member
          exact fits.2 all field (mem_filter.mp member).1
        · intro words
          refine ⟨bytes, fun _ field member => ?_⟩
          by_cases byte : field.isByte
          · exact inner field (mem_filter.mpr ⟨member, byte⟩)
          · exact words field (mem_filter.mpr ⟨member, by simpa using byte⟩)
      simp only [if_pos all, Outcome.ret_bind, fits]
      unfold late
      rw [storeAll_late, place_length drsOps node _ _ inner]
      rfl
    · have fits : Fits drsOps node buf.length fields := ⟨bytes, fun every => absurd every all⟩
      rw [if_neg all, if_pos fits, if_neg all]
      rfl
  · rw [if_neg bytes, if_neg fun fits : Fits drsOps node buf.length fields => bytes fits.1]
    rfl

/-- The conditions for a type. The second one of OTG 2.0 reads the attribute that is given. -/
def parts (otg : String) (descType length bLength : UInt8) : Option (List (List Field)) :=
  switch descType
    [(USB_DDK_DT_INTERFACE, some [interfaceFields]),
      (USB_DDK_DT_ENDPOINT, some (endpointFields :: if bLength = USB_DDK_DT_ENDPOINT_AUDIO_SIZE then [endpointAudioFields] else [])),
      (USB_DDK_DT_STRING, some [stringFields]),
      (USB_DDK_DT_INTERFACE_ASSOCIATION, some [accocInterfaceFields]),
      (USB_DDK_DT_SSP_ISOC_ENDPOINT_COMP, some [sspIsocEndpointFields]),
      (USB_DDK_DT_SS_ENDPOINT_COMP, some [ssEndpointFields]),
      (USB_DDK_DT_DEVICE_QUALIFIER, some [qualifierFields]),
      (USB_DDK_DT_OTG, some (otgFields :: if length = OTG20_SIZE then [otg20Fields otg] else [])),
      (USB_DDK_DT_DEBUG, some [debugFields]),
      (USB_DDK_DT_SECURITY, some [securityFields]),
      (USB_DDK_DT_ENCRYPTION_TYPE, some [securityFields])]
    none

def parseParts : List (List Field) → Buffer → Outcome Unit Buffer
  | [], buf => .ret buf
  | fields :: rest, buf => parseFields drsOps node fields buf >>= parseParts rest

/-- Every field that is stored lies inside, one condition after the other. -/
def Inside (len : Nat) : List (List Field) → Prop
  | [] => True
  | fields :: rest => Fits drsOps node len fields ∧ ((∀ field ∈ fields, field.readable drsOps node) → Inside len rest)

def images (parts : List (List Field)) (buf : Buffer) : Buffer :=
  parts.foldl (fun buf fields => image drsOps node fields buf) buf

/-- The bytes of the descriptor that a node says. -/
def IsDesc (otg : String) (node : Node) (desc : Buffer) : Prop :=
  ∃ length descType, drsOps.getUint8 node "bLength" = some length ∧ drsOps.getUint8 node "bDescriptorType" = some descType ∧
    match parts otg descType length length with
    | none => desc.head? = some length ∧ (drsOps.getUint8Array node "desc_data" length.toNat).map Subtype.val = some desc
    | some parts =>
      (∀ fields ∈ parts, ∀ field ∈ fields, field.readable drsOps node ∧ field.ends ≤ length.toNat) ∧
        desc = images drsOps node parts (replicate length.toNat 0)

/-- Whether the parser of a node's descriptor stores only into the bytes that were allocated for it. -/
def StoresInside (node : Node) : Prop :=
  ∀ length descType, drsOps.getUint8 node "bLength" = some length → drsOps.getUint8 node "bDescriptorType" = some descType →
    length ≠ 0 → parseDescriptor drsOps node (replicate length.toNat 0) descType length ≠ .fault

/-- The fields that are reached lie in the length that the node says. -/
def LongEnough (node : Node) : Prop :=
  ∀ length descType, drsOps.getUint8 node "bLength" = some length → drsOps.getUint8 node "bDescriptorType" = some descType →
    length ≠ 0 → ∀ parts' ∈ parts "bcdUSB" descType length length, Inside drsOps node length.toNat parts'

theorem image_length {fields : List Field} (fits : ∀ field ∈ fields, field.ends ≤ buf.length) :
    (image drsOps node fields buf).length = buf.length := by
  have bytes := place_length drsOps node (fields.filter (·.isByte)) buf fun field member =>
    fits field (mem_filter.mp member).1
  unfold image
  rw [place_length, bytes]
  intro field member
  rw [bytes]
  exact fits field (mem_filter.mp member).1

theorem parseParts_ret (parts : List (List Field)) : ∀ (buf desc : Buffer), parseParts drsOps node parts buf = .ret desc ↔
      (∀ fields ∈ parts, ∀ field ∈ fields, field.readable drsOps node ∧ field.ends ≤ buf.length) ∧
        desc = images drsOps node parts buf := by
  induction parts with
  | nil =>
    intro buf desc
    constructor
    · intro same
      cases same
      exact ⟨by simp, rfl⟩
    · rintro ⟨_, rfl⟩
      rfl
  | cons fields rest ih =>
    intro buf desc
    rw [parseParts, parseFields_eq]
    by_cases fits : Fits drsOps node buf.length fields
    · by_cases all : ∀ field ∈ fields, field.readable drsOps node
      · have ends := fits.2 all
        have first : ∀ field ∈ fields, field.readable drsOps node ∧ field.ends ≤ buf.length := fun field member =>
          ⟨all field member, ends field member⟩
        rw [if_pos fits, if_pos all, Outcome.ret_bind, ih, image_length drsOps node ends, forall_mem_cons]
        exact and_congr_left fun _ => (and_iff_right first).symm
      · rw [if_pos fits, if_neg all]
        refine iff_of_false (by simp) fun good => all fun field member => ?_
        exact (good.1 fields mem_cons_self field member).1
    · rw [if_neg fits]
      refine iff_of_false (by simp) fun good => fits ?_
      have first := good.1 fields mem_cons_self
      have same := reached_all drsOps node fun field member => (first field member).1
      refine ⟨fun field member _ => ?_, fun _ field member => (first field member).2⟩
      rw [same] at member
      exact (first field member).2

theorem parseParts_fault (parts : List (List Field)) : ∀ buf : Buffer,
    parseParts drsOps node parts buf ≠ .fault ↔ Inside drsOps node buf.length parts := by
  induction parts with
  | nil =>
    intro buf
    simp [parseParts, Inside]
  | cons fields rest ih =>
    intro buf
    rw [parseParts, parseFields_eq, Inside]
    by_cases fits : Fits drsOps node buf.length fields
    · by_cases all : ∀ field ∈ fields, field.readable drsOps node
      · rw [if_pos fits, if_pos all, Outcome.ret_bind, ih, image_length drsOps node (fits.2 all)]
        exact ⟨fun inside => ⟨fits, fun _ => inside⟩, fun inside => inside.2 all⟩
      · rw [if_pos fits, if_neg all]
        exact iff_of_true (by simp) ⟨fits, fun every => absurd every all⟩
    · rw [if_neg fits]
      exact iff_of_false (by simp) fun inside => fits inside.1

theorem place_cons (first : UInt8) (fields : List Field) : ∀ rest : Buffer, (∀ field ∈ fields, 0 < field.offset) →
    ∃ rest', place drsOps node fields (first :: rest) = first :: rest' := by
  induction fields with
  | nil =>
    intro rest _
    exact ⟨rest, rfl⟩
  | cons field others ih =>
    intro rest behind
    rw [forall_mem_cons] at behind
    obtain ⟨offset, same⟩ := Nat.exists_eq_succ_of_ne_zero (Nat.pos_iff_ne_zero.mp behind.1)
    have kept : ∃ rest', put (first :: rest) field.offset (field.data drsOps node) = first :: rest' := by
      rw [same]
      exact ⟨_, rfl⟩
    obtain ⟨rest', kept⟩ := kept
    rw [place, foldl_cons, kept]
    exact ih rest' behind.2

theorem head?_endpoint {first : UInt8} (rest : Buffer) (length : drsOps.getUint8 node "bLength" = some first) (old : UInt8) :
    (image drsOps node endpointFields (old :: rest)).head? = some first := by
  have begins : put (old :: rest) 0 (Field.data drsOps node (.uint8 "bLength" 0)) = first :: rest := by
    simp [put, Field.data, Field.read, length]
  have whole : image drsOps node endpointFields (old :: rest) =
      place drsOps node [.uint16 "wMaxPacketSize" 4]
        (place drsOps node [.uint8 "bDescriptorType" 1, .uint8 "bEndpointAddress" 2, .uint8 "bmAttributes" 3, .uint8 "bInterval" 6]
          (put (old :: rest) 0 (Field.data drsOps node (.uint8 "bLength" 0)))) := rfl
  obtain ⟨rest', bytes⟩ := place_cons drsOps node first
    [.uint8 "bDescriptorType" 1, .uint8 "bEndpointAddress" 2, .uint8 "bmAttributes" 3, .uint8 "bInterval" 6] rest (by decide)
  obtain ⟨rest'', words⟩ := place_cons drsOps node first [.uint16 "wMaxPacketSize" 4] rest' (by decide)
  rw [whole, begins, bytes, words, head?_cons]

theorem parseEndpointDesc_parts {first : UInt8} (length : drsOps.getUint8 node "bLength" = some first) (buf : Buffer) :
    parseEndpointDesc drsOps node buf =
      parseParts drsOps node (endpointFields :: if first = USB_DDK_DT_ENDPOINT_AUDIO_SIZE then [endpointAudioFields] else []) buf := by
  rw [parseEndpointDesc, parseParts, parseFields_eq]
  by_cases fits : Fits drsOps node buf.length endpointFields
  · by_cases all : ∀ field ∈ endpointFields, field.readable drsOps node
    · rw [if_pos fits, if_pos all, Outcome.ret_bind, Outcome.ret_bind]
      cases buf with
      | nil => exact absurd (fits.2 all (.uint8 "bLength" 0) mem_cons_self) (by decide)
      | cons old rest =>
        rw [head?_endpoint drsOps node rest length]
        simp only [Option.some.injEq]
        split
        · rw [parseParts]
          cases parseFields drsOps node endpointAudioFields (image drsOps node endpointFields (old :: rest)) <;> rfl
        · rfl
    · rw [if_pos fits, if_neg all]
      rfl
  · rw [if_neg fits]
    rfl

theorem parseParts_one (fields : List Field) (buf : Buffer) :
    parseParts drsOps node [fields] buf = parseFields drsOps node fields buf := by
  rw [parseParts]
  cases parseFields drsOps node fields buf <;> rfl

theorem parseOtgDesc_parts (length : UInt8) (buf : Buffer) : parseOtgDesc drsOps node length buf =
      parseParts drsOps node (otgFields :: if length = OTG20_SIZE then [otg20Fields "bcdUSB"] else []) buf := by
  rw [parseOtgDesc, parseParts]
  cases parseFields drsOps node otgFields buf with
  | ret buf' =>
    rw [Outcome.ret_bind, Outcome.ret_bind]
    split
    · rw [parseParts_one]
    · rfl
  | error e => rfl
  | fault => rfl
  | stuck => rfl

theorem switch_map {α β : Type} (f : α → β) (value : UInt8) (cases : List (UInt8 × α)) (default : α) :
    f (switch value cases default) = switch value (cases.map fun entry => (entry.1, f entry.2)) (f default) := by
  unfold switch
  induction cases with
  | nil => rfl
  | cons entry rest ih =>
    by_cases same : entry.1 = value
    · simp [same]
    · simpa [same] using ih

/-- What is read where the type has no parts of its own. -/
def parseBy (length : UInt8) (buf : Buffer) (parts : Option (List (List Field))) : Outcome Unit Buffer :=
  parts.elim (parseOtherDesc drsOps node length buf) fun parts => parseParts drsOps node parts buf

theorem parseDescriptor_parts {length : UInt8} (long : drsOps.getUint8 node "bLength" = some length) (descType : UInt8)
    (buf : Buffer) :
    parseDescriptor drsOps node buf descType length = parseBy drsOps node length buf (parts "bcdUSB" descType length length) := by
  rw [parts, switch_map (parseBy drsOps node length buf), parseDescriptor, parseEndpointDesc_parts drsOps node long,
    parseOtgDesc_parts]
  simp only [map_cons, map_nil, parseBy, Option.elim, parseParts_one]
  rfl

theorem switch_holds {α : Type} {p : α → Prop} {value : UInt8} {cases : List (UInt8 × α)} {default : α}
    (all : ∀ entry ∈ cases, p entry.2) (otherwise : p default) : p (switch value cases default) := by
  unfold switch
  cases found : cases.find? fun entry => entry.1 = value with
  | none => exact otherwise
  | some entry => exact all entry (mem_of_find?_eq_some found)

theorem parts_length {otg : String} {descType length bLength : UInt8} {parts' : List (List Field)}
    (type : parts otg descType length bLength = some parts') : ∃ fields ∈ parts', Field.uint8 "bLength" 0 ∈ fields := by
  have begins : ∀ parts', parts otg descType length bLength = some parts' →
      ∃ fields rest, parts' = fields :: rest ∧ Field.uint8 "bLength" 0 ∈ fields := by
    unfold parts
    refine switch_holds (p := fun found => ∀ parts', found = some parts' →
      ∃ fields rest, parts' = fields :: rest ∧ Field.uint8 "bLength" 0 ∈ fields) ?_ ?_
    · simp only [forall_mem_cons]
      refine ⟨?_, ?_, ?_, ?_, ?_, ?_, ?_, ?_, ?_, ?_, ?_, ?_⟩
      all_goals simp [interfaceFields, endpointFields, stringFields, accocInterfaceFields, sspIsocEndpointFields, ssEndpointFields,
        qualifierFields, otgFields, debugFields, securityFields]
    · intro parts' none
      cases none
  obtain ⟨fields, rest, rfl, member⟩ := begins parts' type
  exact ⟨fields, mem_cons_self, member⟩

theorem IsDesc.length_ne_zero {otg : String} {desc : Buffer} {length : UInt8} (is : IsDesc drsOps otg node desc)
    (long : drsOps.getUint8 node "bLength" = some length) : length ≠ 0 := by
  obtain ⟨length', descType, long', _, is⟩ := is
  rw [long] at long'
  cases long'
  rintro rfl
  cases type : parts otg descType 0 0 with
  | none =>
    rw [type] at is
    obtain ⟨first, data⟩ := is
    cases found : drsOps.getUint8Array node "desc_data" (0 : UInt8).toNat with
    | none =>
      rw [found] at data
      cases data
    | some bytes =>
      rw [found] at data
      cases data
      have empty : bytes.val = [] := eq_nil_of_length_eq_zero bytes.property
      rw [empty] at first
      cases first
  | some parts =>
    rw [type] at is
    obtain ⟨fields, member, begins⟩ := parts_length type
    have ends := (is.1 fields member _ begins).2
    exact absurd ends (by decide)

theorem parseOtherDesc_eq (length : UInt8) :
    parseOtherDesc drsOps node length (replicate length.toNat 0) =
      match drsOps.getUint8Array node "desc_data" length.toNat with
      | none => .error ()
      | some data =>
        match data.val with
        | [] => .fault
        | first :: rest => if first ≠ length then .error () else .ret (first :: rest) := by
  unfold parseOtherDesc
  cases found : drsOps.getUint8Array node "desc_data" length.toNat with
  | none => simp [store]
  | some bytes =>
    have whole : put (replicate length.toNat 0) 0 bytes.val = bytes.val := by
      simp [put, bytes.property]
    simp only [Option.map_some, Option.getD_some, store, bytes.property, length_replicate, Nat.zero_add, Nat.le_refl, if_true,
      whole, Outcome.ret_bind, Option.isNone_some, Bool.false_eq_true, if_false]
    cases bytes.val <;> rfl

/-- The parsers come to the descriptor of the node, with the attribute that they read for OTG 2.0. -/
theorem parseDescriptor_ret {length descType : UInt8} (long : drsOps.getUint8 node "bLength" = some length)
    (type : drsOps.getUint8 node "bDescriptorType" = some descType) (desc : Buffer) :
    parseDescriptor drsOps node (replicate length.toNat 0) descType length = .ret desc ↔ IsDesc drsOps "bcdUSB" node desc := by
  have same : IsDesc drsOps "bcdUSB" node desc ↔
      match parts "bcdUSB" descType length length with
      | none => desc.head? = some length ∧ (drsOps.getUint8Array node "desc_data" length.toNat).map Subtype.val = some desc
      | some parts =>
        (∀ fields ∈ parts, ∀ field ∈ fields, field.readable drsOps node ∧ field.ends ≤ length.toNat) ∧
          desc = images drsOps node parts (replicate length.toNat 0) := by
    constructor
    · rintro ⟨length', descType', long', type', is⟩
      rw [long] at long'
      rw [type] at type'
      cases long'
      cases type'
      exact is
    · exact fun is => ⟨length, descType, long, type, is⟩
  rw [same, parseDescriptor_parts drsOps node long]
  cases parts "bcdUSB" descType length length with
  | none =>
    rw [parseBy, Option.elim, parseOtherDesc_eq]
    cases drsOps.getUint8Array node "desc_data" length.toNat with
    | none => simp
    | some bytes =>
      simp only [Option.map_some, Option.some.injEq]
      cases bytes.val with
      | nil =>
        refine iff_of_false (by simp) ?_
        rintro ⟨first, same⟩
        cases same
        cases first
      | cons first rest =>
        simp only
        by_cases whole : first = length
        · rw [if_neg (not_not_intro whole), Outcome.ret.injEq]
          refine ⟨fun same => ⟨?_, same⟩, And.right⟩
          rw [← same, head?_cons, whole]
        · rw [if_pos whole]
          refine iff_of_false (by simp) ?_
          rintro ⟨first', same⟩
          subst same
          exact whole (Option.some.inj first')
  | some parts =>
    rw [parseBy, Option.elim, parseParts_ret, length_replicate]

theorem storesInside_iff (node : Node) : StoresInside drsOps node ↔ LongEnough drsOps node := by
  refine forall_congr' fun length => forall_congr' fun descType => forall_congr' fun long => forall_congr' fun _ =>
    forall_congr' fun some' => ?_
  rw [parseDescriptor_parts drsOps node long]
  cases parts "bcdUSB" descType length length with
  | none =>
    refine iff_of_true ?_ (by simp)
    rw [parseBy, Option.elim, parseOtherDesc_eq]
    cases drsOps.getUint8Array node "desc_data" length.toNat with
    | none => simp
    | some bytes =>
      have long := bytes.property
      simp only
      cases same : bytes.val with
      | nil =>
        rw [same] at long
        exact absurd (UInt8.toNat_inj.mp long.symm) some'
      | cons first rest =>
        simp only
        split <;> simp
  | some parts =>
    rw [parseBy, Option.elim, parseParts_fault, length_replicate]
    simp

end

end Peripheral.UsbFnCfgMgr
