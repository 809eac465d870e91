import Peripheral.Faults
import Peripheral.GadgetDescs

/-!
How the description of a USB gadget is loaded from the configuration and how it is released, from `usbfn_cfg_mgr.c`. The
description is built of lists in lists, and each allocation may fail.
-/
namespace Peripheral.UsbFnCfgMgr
open Faults Function

inductive Owner
  | device
  | function (config function : Nat)
  deriving DecidableEq

inductive Speed
  | fs
  | hs
  | ss
  | ssp
  deriving DecidableEq

/-- A block of memory, known by what it is allocated for. -/
inductive Site
  | usbDevDesc
  | deviceDesc
  | fnStrings (owner : Owner)
  | fnString (owner : Owner) (count : Nat)
  | strings (owner : Owner) (count : Nat)
  | configs
  | config (count : Nat)
  | functions (config : Nat)
  | function (config iCount : Nat)
  | descriptors (config function : Nat) (speed : Speed)
  | descBuff (config function : Nat) (speed : Speed) (iCount : Nat)
  deriving DecidableEq

inductive Fault
  | outside
  | notAllocated
  deriving DecidableEq

abbrev Ledger := Site → Bool

abbrev Load := Prog Fault Empty Ledger

structure UsbString where
  id : UInt8
  s : String
  deriving DecidableEq

structure UsbFnStrings where
  language : UInt16
  strings : List UsbString
  deriving DecidableEq

structure UsbFnFunction where
  funcName : String
  strings : List UsbFnStrings
  descriptors : Speed → Option (List Buffer)

structure UsbFnConfiguration where
  configurationValue : UInt8
  iConfiguration : UInt8
  attributes : UInt8
  maxPower : UInt16
  functions : List UsbFnFunction

structure UsbDeviceDescriptor where
  bLength : UInt8
  bDescriptorType : UInt8
  bcdUSB : UInt16
  bDeviceClass : UInt8
  bDeviceSubClass : UInt8
  bDeviceProtocol : UInt8
  bMaxPacketSize0 : UInt8
  idVendor : UInt16
  idProduct : UInt16
  bcdDevice : UInt16
  iManufacturer : UInt8
  iProduct : UInt8
  iSerialNumber : UInt8
  bNumConfigurations : UInt8
  deriving DecidableEq

structure UsbFnDeviceDesc where
  deviceDesc : UsbDeviceDescriptor
  deviceStrings : List UsbFnStrings
  configs : List UsbFnConfiguration

section
variable (allocates : Site → Bool)

def usbFnMemCalloc (site : Site) : Load Bool := do
  if allocates site then
    modify fun live => update live site true
    pure true
  else pure false

end

def usbFnMemFree (site : Site) : Load Unit := do
  let live ← get
  if live site then set (update live site false) else goWrong .notAllocated

/-- The first blocks of an array are released, from the last one down. -/
def freeDown (site : Nat → Site) : Nat → Load Unit
  | 0 => pure ()
  | count + 1 => do
    usbFnMemFree (site count)
    freeDown site count

def parseEach {α : Type} (parse : Nat → Load (Option α)) (release : Nat → Load Unit) : Nat → List α → Load (Option (List α))
  | 0, done => pure (some done.reverse)
  | n + 1, done => do
    match ← parse done.length with
    | none =>
      release done.length
      pure none
    | some entry => parseEach parse release n (entry :: done)

section
variable {Node : Type} (drsOps : DeviceResourceIface Node) (allocates : Site → Bool)

def entry (node : Node) (list : String) (count : Nat) : Option Node :=
  (drsOps.getStringArrayElem node list count).bind (drsOps.getChildNode node)

def named (node : Node) (attr : String) : Option Node := (drsOps.getString node attr).bind (drsOps.getChildNode node)

def parseDevDesc (node : Node) : Option UsbDeviceDescriptor := do
  let bLength ← drsOps.getUint8 node "bLength"
  guard (bLength = DEVICE_SIZE)
  let bDescriptorType ← drsOps.getUint8 node "bDescriptorType"
  let bDeviceClass ← drsOps.getUint8 node "bDeviceClass"
  let bDeviceSubClass ← drsOps.getUint8 node "bDeviceSubClass"
  let bDeviceProtocol ← drsOps.getUint8 node "bDeviceProtocol"
  let bMaxPacketSize0 ← drsOps.getUint8 node "bMaxPacketSize0"
  let iManufacturer ← drsOps.getUint8 node "manufacturer"
  let iProduct ← drsOps.getUint8 node "product"
  let iSerialNumber ← drsOps.getUint8 node "serialnumber"
  let bNumConfigurations ← drsOps.getUint8 node "numConfigurations"
  guard (bDescriptorType = USB_DDK_DT_DEVICE)
  let bcdUSB ← drsOps.getUint16 node "bcdUSB"
  let idVendor ← drsOps.getUint16 node "idVendor"
  let idProduct ← drsOps.getUint16 node "idProduct"
  let bcdDevice ← drsOps.getUint16 node "bcdDevice"
  some ⟨bLength, bDescriptorType, bcdUSB, bDeviceClass, bDeviceSubClass, bDeviceProtocol, bMaxPacketSize0, idVendor, idProduct,
    bcdDevice, iManufacturer, iProduct, iSerialNumber, bNumConfigurations⟩

/-- An array for a list of a node, and the loop over its entries. -/
def parseList {α : Type} (site : Site) (parse : Nat → Load (Option α)) (release : Nat → Load Unit) (node : Node) (list : String) :
    Load (Option (List α)) := do
  if drsOps.getElemNum node list ≤ 0 then pure none
  else if ← usbFnMemCalloc allocates site then parseEach parse release (drsOps.getElemNum node list).toNat []
  else pure none

def parseUsbString (node : Node) (iCount : Nat) : Option UsbString := do
  let strNode ← entry drsOps node "stringList" iCount
  let id ← drsOps.getUint8 strNode "id"
  let s ← drsOps.getString strNode "str"
  some ⟨id, s⟩

def parseString (owner : Owner) (count : Nat) (node : Node) : Load (Option UsbFnStrings) :=
  match drsOps.getUint16 node "language" with
  | none => pure none
  | some language => do
    let strings ← parseList drsOps allocates (.strings owner count)
      (fun iCount => pure (parseUsbString drsOps node iCount))
      (fun _ => usbFnMemFree (.strings owner count)) node "stringList"
    pure (strings.map (UsbFnStrings.mk language))

/-- The entry at which the loop fails is not released. -/
def parseStrings (owner : Owner) (node : Node) : Load (Option (List UsbFnStrings)) :=
  parseList drsOps allocates (.fnStrings owner)
    (fun count => do
      if ← usbFnMemCalloc allocates (.fnString owner count) then
        match entry drsOps node "stringTabList" count with
        | none => pure none
        | some stringNode => parseString drsOps allocates owner count stringNode
      else pure none)
    (fun count => do
      freeDown (.fnString owner) count
      usbFnMemFree (.fnStrings owner)) node "stringTabList"

/-- No memory is allocated for no bytes. -/
def parseDesc (site : Site) (node : Node) : Load (Option Buffer) :=
  match drsOps.getUint8 node "bLength" with
  | none => pure none
  | some length =>
    match drsOps.getUint8 node "bDescriptorType" with
    | none => pure none
    | some descType => do
      if length = 0 then pure none
      else if ← usbFnMemCalloc allocates site then
        match parseDescriptor drsOps node (List.replicate length.toNat 0) descType length with
        | .ret descBuff => pure (some descBuff)
        | .error _ =>
          usbFnMemFree site
          pure none
        | .fault | .stuck => goWrong .outside
      else pure none

def parseFunDesc (c f : Nat) (speed : Speed) (descName : String) (node : Node) : Load (Option (List Buffer)) :=
  parseList drsOps allocates (.descriptors c f speed)
    (fun iCount =>
      match entry drsOps node descName iCount with
      | none => pure none
      | some descNode => parseDesc drsOps allocates (.descBuff c f speed iCount) descNode)
    (fun iCount => do
      freeDown (.descBuff c f speed) iCount
      usbFnMemFree (.descriptors c f speed)) node descName

def Speed.descName : Speed → String
  | .fs => "fsDescList"
  | .hs => "hsDescList"
  | .ss => "ssDescList"
  | .ssp => "sspDescList"

def Speed.choose {α : Type} (fs hs ss ssp : α) : Speed → α
  | .fs => fs
  | .hs => hs
  | .ss => ss
  | .ssp => ssp

/-- A list that cannot be read is null. -/
def parseUsbFnFunction (c f : Nat) (node : Node) : Load (Option UsbFnFunction) :=
  match drsOps.getString node "funcName" with
  | none => pure none
  | some funcName => do
    match ← parseStrings drsOps allocates (.function c f) node with
    | none => pure none
    | some strings =>
      let fs ← parseFunDesc drsOps allocates c f .fs Speed.fs.descName node
      let hs ← parseFunDesc drsOps allocates c f .hs Speed.hs.descName node
      let ss ← parseFunDesc drsOps allocates c f .ss Speed.ss.descName node
      let ssp ← parseFunDesc drsOps allocates c f .ssp Speed.ssp.descName node
      pure (some ⟨funcName, strings, Speed.choose fs hs ss ssp⟩)

/-- The first function is not released. -/
def parseUsbFnFunctions (c : Nat) (node : Node) : Load (Option (List UsbFnFunction)) :=
  parseList drsOps allocates (.functions c)
    (fun iCount => do
      if ← usbFnMemCalloc allocates (.function c iCount) then
        match entry drsOps node "functionList" iCount with
        | none => pure none
        | some funNode => parseUsbFnFunction drsOps allocates c iCount funNode
      else pure none)
    (fun iCount => do
      freeDown (fun i => .function c (i + 1)) (iCount - 1)
      usbFnMemFree (.functions c)) node "functionList"

def parseUsbFnConfiguration (c : Nat) (node : Node) : Load (Option UsbFnConfiguration) :=
  match drsOps.getUint8 node "configurationValue", drsOps.getUint8 node "iConfiguration", drsOps.getUint8 node "attributes",
    drsOps.getUint16 node "maxPower" with
  | some configurationValue, some iConfiguration, some attributes, some maxPower => do
    let functions ← parseUsbFnFunctions drsOps allocates c node
    pure (functions.map fun functions => ⟨configurationValue, iConfiguration, attributes, maxPower, functions⟩)
  | _, _, _, _ => pure none

/-- An entry of the strings of the device. Behind the last one is a null pointer, and behind that nothing. -/
def freeDeviceString (languages count : Nat) : Load Unit :=
  if count < languages then usbFnMemFree (.fnString .device count)
  else if count = languages then pure ()
  else goWrong .outside

/-- Strings of the device are released, up to the number of the configuration. -/
def freeDeviceStrings (languages : Nat) : Nat → Load Unit
  | 0 => usbFnMemFree (.fnStrings .device)
  | count + 1 => do
    freeDeviceString languages count
    freeDeviceStrings languages count

def parseUsbFnCfgLists (deviceStrings : List UsbFnStrings) (node : Node) : Load (Option (List UsbFnConfiguration)) :=
  parseList drsOps allocates .configs
    (fun count => do
      if ← usbFnMemCalloc allocates (.config count) then
        match entry drsOps node "configList" count with
        | none => pure none
        | some childConfigNode => parseUsbFnConfiguration drsOps allocates count childConfigNode
      else pure none)
    (freeDeviceStrings deviceStrings.length) node "configList"

end

section
variable {Node : Type} (deviceResourceGetIfaceInstance : Option (DeviceResourceIface Node)) (allocates : Site → Bool)

def parseUsbFnDevDesc (node : Node) : Load (Option UsbDeviceDescriptor) :=
  match deviceResourceGetIfaceInstance with
  | none => pure none
  | some drsOps =>
    match named drsOps node "usb_dev_desc" with
    | none => pure none
    | some devDescNode => do
      if ← usbFnMemCalloc allocates .deviceDesc then
        match parseDevDesc drsOps devDescNode with
        | none =>
          usbFnMemFree .deviceDesc
          pure none
        | some deviceDesc => pure (some deviceDesc)
      else pure none

def parseUsbFnDevStrings (node : Node) : Load (Option (List UsbFnStrings)) :=
  match deviceResourceGetIfaceInstance with
  | none => pure none
  | some drsOps =>
    match named drsOps node "usb_dev_string" with
    | none => pure none
    | some fnDevStrNode => parseStrings drsOps allocates .device fnDevStrNode

def parseUsbFnConfigurations (deviceStrings : List UsbFnStrings) (node : Node) : Load (Option (List UsbFnConfiguration)) :=
  match deviceResourceGetIfaceInstance with
  | none => pure none
  | some drsOps =>
    match named drsOps node "usb_configuration" with
    | none => pure none
    | some configNode => parseUsbFnCfgLists drsOps allocates deviceStrings configNode

/-- The part of `UsbFnCfgMgrGetInstanceFromHCS` at its label. -/
def failDevString : Load (Option UsbFnDeviceDesc) := do
  usbFnMemFree .deviceDesc
  usbFnMemFree .usbDevDesc
  pure none

def getInstanceFromHCS (node : Option Node) : Load (Option UsbFnDeviceDesc) :=
  match node with
  | none => pure none
  | some node => do
    if ← usbFnMemCalloc allocates .usbDevDesc then
      match ← parseUsbFnDevDesc deviceResourceGetIfaceInstance allocates node with
      | none => pure none
      | some deviceDesc =>
        match ← parseUsbFnDevStrings deviceResourceGetIfaceInstance allocates node with
        | none => failDevString
        | some deviceStrings =>
          match ← parseUsbFnConfigurations deviceResourceGetIfaceInstance allocates deviceStrings node with
          | none => failDevString
          | some configs => pure (some ⟨deviceDesc, deviceStrings, configs⟩)
    else pure none

end

def next (iCount : Int) : Int := if iCount = 127 then -128 else iCount + 1

/-- A loop up to the null pointer at the end of an array. -/
def freeEach {α : Type} (release : Nat → α → Load Unit) : Int → List α → Load Unit
  | iCount, [] => if iCount < 0 then goWrong .outside else pure ()
  | iCount, entry :: rest =>
    if iCount < 0 then goWrong .outside
    else do
      release iCount.toNat entry
      freeEach release (next iCount) rest

def freeFnStrings (owner : Owner) (fnStrings : List UsbFnStrings) : Load Unit := do
  freeEach (fun iCount _ => usbFnMemFree (.fnString owner iCount)) 0 fnStrings
  usbFnMemFree (.fnStrings owner)

def freeFuncDescHead (c f : Nat) (speed : Speed) (descHeads : Option (List Buffer)) : Load Unit :=
  match descHeads with
  | none => pure ()
  | some descHeads => do
    freeEach (fun iCount _ => usbFnMemFree (.descBuff c f speed iCount)) 0 descHeads
    usbFnMemFree (.descriptors c f speed)

def freeFunctions (c : Nat) (fnFunctions : List UsbFnFunction) : Load Unit := do
  freeEach
    (fun f fnFunction => do
      freeFnStrings (.function c f) fnFunction.strings
      freeFuncDescHead c f .fs (fnFunction.descriptors .fs)
      freeFuncDescHead c f .hs (fnFunction.descriptors .hs)
      freeFuncDescHead c f .ss (fnFunction.descriptors .ss)
      freeFuncDescHead c f .ssp (fnFunction.descriptors .ssp)
      usbFnMemFree (.function c f)) 0 fnFunctions
  usbFnMemFree (.functions c)

def freeConfigs (fnConfigs : List UsbFnConfiguration) : Load Unit := do
  freeEach
    (fun c fnConfig => do
      freeFunctions c fnConfig.functions
      usbFnMemFree (.config c)) 0 fnConfigs
  usbFnMemFree .configs

def freeUsbFnDeviceDesc (fnDevDesc : UsbFnDeviceDesc) : Load Unit := do
  usbFnMemFree .deviceDesc
  freeFnStrings .device fnDevDesc.deviceStrings
  freeConfigs fnDevDesc.configs
  usbFnMemFree .usbDevDesc

end Peripheral.UsbFnCfgMgr
