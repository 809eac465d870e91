import Mathlib.Logic.Function.Basic
import Peripheral.HdfSBuf
import Peripheral.Transitions

/-!
The properties of the interfaces of USB gadgets, from `usbfn_cfg_mgr.c`. One list keeps the
values that were registered or set; where it has none, a value comes from the descriptor of
the device or from its configuration. All devices share the list.
-/
namespace Peripheral.UsbFnCfg
open Transitions Hdf Option List

/-- The characters of a string, without the one that ends it. -/
abbrev CString := List Char

def MAX_LEN := 64

def DESC_TYPE : CString := "bDescriptorType".toList
def USBDEV_CLASS : CString := "bDeviceClass".toList
def USBDEV_SUBCLASS : CString := "bDeviceSubClass".toList
def USBDEV_PROTOCOL : CString := "bDeviceProtocol".toList
def USBDEV_MAXSIZE : CString := "bMaxPacketSize0".toList
def USBDEV_MANUFACTURER : CString := "manufacturer".toList
def USBDEV_PRODUCT : CString := "product".toList
def USBDEV_SERIALNUM : CString := "serialnumber".toList
def USBDEV_NUMCFG : CString := "numConfigurations".toList
def USBDEV_BCD : CString := "bcdUSB".toList
def USBDEV_VENDOR : CString := "idVendor".toList
def USBDEV_IDPRODUCT : CString := "idProduct".toList
def USBDEV_BCDDEVICE : CString := "bcdDevice".toList

structure UsbDeviceDescriptor where
  bDeviceClass : UInt8
  bDeviceSubClass : UInt8
  bDeviceProtocol : UInt8
  bMaxPacketSize0 : UInt8
  iManufacturer : UInt8
  iProduct : UInt8
  iSerialNumber : UInt8
  bNumConfigurations : UInt8
  bcdUSB : UInt16
  idVendor : UInt16
  idProduct : UInt16
  bcdDevice : UInt16

structure UsbFnStrings where
  language : UInt16
  strings : List CString

structure UsbFnInterfaceInfo where
  index : UInt8
  configIndex : UInt8

structure PropNode where
  name : Option CString
  value : Option CString

/-- The configured properties of one interface; a node that is not found is none. -/
structure PropListNode where
  configNum : Option UInt8
  interfaceNum : Option UInt8
  propList : List (Option PropNode)

/-- A device with its description, and its node `custom_prop` if there is one. -/
structure UsbFnDeviceMgr where
  deviceDesc : UsbDeviceDescriptor
  deviceStrings : List UsbFnStrings
  interfaces : List UsbFnInterfaceInfo
  custom_prop : Option (List (Option PropListNode))

structure UsbFnInterface where
  object : Nat
  place : Nat
  deriving DecidableEq

structure UsbFnCfgPropMgr where
  intf : UsbFnInterface
  name : CString
  value : CString

structure Store where
  g_cfgEntry : List UsbFnCfgPropMgr
  mem : Nat → Option UsbFnDeviceMgr
  made : Nat

/-- What the adapter answers while a property is set; strings are written language by language. -/
structure Answers where
  calloc : Bool
  writeProp : Int32
  writeDesString : Nat → Int32
  writeUDC : Bool → Int32

def UsbFnCfgPropMgr.is (obj : UsbFnCfgPropMgr) (intf : UsbFnInterface) (name : CString) :
    Bool := obj.intf = intf ∧ obj.name = name

def devDescValue (deviceDesc : UsbDeviceDescriptor) (name : CString) : Option UInt16 :=
  if name = USBDEV_CLASS then some deviceDesc.bDeviceClass.toUInt16
  else if name = USBDEV_SUBCLASS then some deviceDesc.bDeviceSubClass.toUInt16
  else if name = USBDEV_PROTOCOL then some deviceDesc.bDeviceProtocol.toUInt16
  else if name = USBDEV_MAXSIZE then some deviceDesc.bMaxPacketSize0.toUInt16
  else if name = USBDEV_MANUFACTURER then some deviceDesc.iManufacturer.toUInt16
  else if name = USBDEV_PRODUCT then some deviceDesc.iProduct.toUInt16
  else if name = USBDEV_SERIALNUM then some deviceDesc.iSerialNumber.toUInt16
  else if name = USBDEV_NUMCFG then some deviceDesc.bNumConfigurations.toUInt16
  else if name = USBDEV_BCD then some deviceDesc.bcdUSB
  else if name = USBDEV_VENDOR then some deviceDesc.idVendor
  else if name = USBDEV_IDPRODUCT then some deviceDesc.idProduct
  else if name = USBDEV_BCDDEVICE then some deviceDesc.bcdDevice
  else none

def isDevDescProp (name : CString) : Bool :=
  name ∈ [USBDEV_SUBCLASS, DESC_TYPE, USBDEV_CLASS, USBDEV_PROTOCOL, USBDEV_MAXSIZE, USBDEV_MANUFACTURER, USBDEV_PRODUCT,
    USBDEV_SERIALNUM, USBDEV_NUMCFG, USBDEV_BCD, USBDEV_VENDOR, USBDEV_IDPRODUCT, USBDEV_BCDDEVICE]

def propValueFromList (name : CString) : List (Option PropNode) → Option CString
  | [] => none
  | none :: _ => none
  | some propNode :: rest =>
    match propNode.name with
    | none => none
    | some propName => if propName = name then propNode.value else propValueFromList name rest

def getPropValueFromPropList (info : UsbFnInterfaceInfo) (name : CString) (propListNode : PropListNode) : Option CString :=
  match propListNode.configNum, propListNode.interfaceNum with
  | some configNum, some interfaceNum =>
    if info.index ≠ interfaceNum ∨ info.configIndex ≠ configNum then none else propValueFromList name propListNode.propList
  | _, _ => none

def getPropValueFromHcs (info : UsbFnInterfaceInfo) (name : CString) : List (Option PropListNode) → Option CString
  | [] => none
  | none :: _ => none
  | some propListNode :: rest =>
    match getPropValueFromPropList info name propListNode with
    | some propValue => some propValue
    | none => getPropValueFromHcs info name rest

def findPropFromHcs (dev : UsbFnDeviceMgr) (info : UsbFnInterfaceInfo) (name : CString) : Option CString :=
  dev.custom_prop.bind (getPropValueFromHcs info name)

/-- `%x` -/
def hex (val : UInt16) : CString := Nat.toDigits 16 val.toNat

/-- What `snprintf_s` leaves in an array of `MAX_LEN`. -/
def snprintf (s : CString) : CString := s.take (MAX_LEN - 1)

/-- The first entry of a name gets a value. -/
def setValue (intf : UsbFnInterface) (name value : CString) : List UsbFnCfgPropMgr → List UsbFnCfgPropMgr
  | [] => []
  | obj :: rest => if obj.is intf name then { obj with value := value } :: rest else obj :: setValue intf name value rest

namespace Store

variable (s : Store)

def deref (intf : UsbFnInterface) : Option (UsbFnDeviceMgr × UsbFnInterfaceInfo) :=
  (s.mem intf.object).bind fun dev => dev.interfaces[intf.place]?.map fun info => (dev, info)

def isPropRegisted (intf : UsbFnInterface) (name : CString) : Bool := s.g_cfgEntry.any (·.is intf name)

def findPropMgr (intf : UsbFnInterface) (name : CString) : Option UsbFnCfgPropMgr := s.g_cfgEntry.find? (·.is intf name)

def setValue (intf : UsbFnInterface) (name value : CString) : Store :=
  { s with g_cfgEntry := UsbFnCfg.setValue intf name (snprintf value) s.g_cfgEntry }

/-- `UsbFnCfgMgrRegisterProp`. An entry that cannot be filled is lost. -/
def registerProp (intf : UsbFnInterface) (name value : CString) (calloc : Bool) : Int32 × Store :=
  if s.isPropRegisted intf name then
    if !isDevDescProp name then (HDF_FAILURE, s)
    else (if value.length < MAX_LEN then HDF_SUCCESS else HDF_FAILURE, s.setValue intf name value)
  else if !calloc then (HDF_FAILURE, s)
  else if MAX_LEN ≤ name.length ∨ MAX_LEN ≤ value.length then (HDF_FAILURE, s)
  else (HDF_SUCCESS, { s with g_cfgEntry := s.g_cfgEntry ++ [⟨intf, name, value⟩] })

/-- `UsbFnCfgMgrUnRegisterAllProp`. -/
def unRegisterAllProp : Store := { s with g_cfgEntry := [] }

end Store

/-- `memcpy_s` of the characters alone; it refuses to copy none. -/
def copied (value : CString) (buffer : Nat → Char) : Int32 × (Nat → Char) :=
  if value = [] then (HDF_FAILURE, buffer) else (HDF_SUCCESS, fun i => value.getD i (buffer i))

/-- `UsbFnCfgMgrGetProp`, unless it follows a pointer to a device that is gone. -/
def Store.getProp (s : Store) (intf : UsbFnInterface) (name : CString) (buffer : Nat → Char) :
    Option (Int32 × (Nat → Char)) :=
  if !s.isPropRegisted intf name then
    (s.deref intf).map fun (dev, info) =>
      match devDescValue dev.deviceDesc name with
      | some val => copied (hex val) buffer
      | none =>
        match findPropFromHcs dev info name with
        | none => (HDF_FAILURE, buffer)
        | some propValue => copied propValue buffer
  else match s.findPropMgr intf name with
    | none => some (HDF_FAILURE, buffer)
    | some fnCfgPropMgr => some (copied fnCfgPropMgr.value buffer)

section

variable (sscanf : CString → Option UInt32)

/-- The tables are written one after the other, each after it was read. -/
def changeStrings (data : UInt32) (writeDesString : Nat → Int32) : (i : Nat) → List UsbFnStrings → Option Int32
  | _, [] => some HDF_SUCCESS
  | i, table :: rest =>
    if table.strings.length ≤ data.toNat then none
    else if writeDesString i ≠ 0 then some HDF_FAILURE
    else changeStrings data writeDesString (i + 1) rest

def isStringProp (name : CString) : Bool := name ∈ [USBDEV_MANUFACTURER, USBDEV_PRODUCT, USBDEV_SERIALNUM]

def changeUdcName (o : Answers) : Int32 :=
  if o.writeUDC false ≠ 0 then HDF_FAILURE else if o.writeUDC true ≠ 0 then HDF_FAILURE else HDF_SUCCESS

/-- `UsbFnCfgChangeDevceDes`, unless it reads behind the strings. -/
def changeDevceDes (dev : UsbFnDeviceMgr) (name value : CString) (o : Answers) : Option Int32 :=
  match sscanf value with
  | none => some HDF_FAILURE
  | some data =>
    let written := if isStringProp name then changeStrings data o.writeDesString 0 dev.deviceStrings else some o.writeProp
    written.map fun ret => if ret ≠ 0 then HDF_ERR_INVALID_PARAM else changeUdcName o

/-- `UsbFnCfgMgrSetProp`, unless it goes wrong. A value is kept before the device is changed. -/
def Store.setProp (s : Store) (intf : UsbFnInterface) (name value : CString) (o : Answers) : Option (Int32 × Store) :=
  let deviceProp := isDevDescProp name
  let isRegist := s.isPropRegisted intf name
  if !isRegist && !deviceProp then
    (s.deref intf).map fun (dev, info) =>
      if (findPropFromHcs dev info name).isSome then s.registerProp intf name value o.calloc else (HDF_FAILURE, s)
  else
    let kept := if isRegist then (if value.length < MAX_LEN then HDF_SUCCESS else HDF_FAILURE, s.setValue intf name value)
      else s.registerProp intf name value o.calloc
    if kept.1 ≠ HDF_SUCCESS then some (HDF_FAILURE, kept.2)
    else if deviceProp then
      (s.deref intf).bind fun (dev, _) => (changeDevceDes sscanf dev name value o).map fun ret =>
        (if ret ≠ HDF_SUCCESS then HDF_FAILURE else HDF_SUCCESS, kept.2)
    else some (HDF_SUCCESS, kept.2)

end

inductive Call
  | create (dev : UsbFnDeviceMgr)
  /-- Whether the device is removed is decided before its properties are. -/
  | remove (device : Nat) (removed : Bool)
  | registerProp (intf : UsbFnInterface) (name value : CString) (calloc : Bool)
  | setProp (intf : UsbFnInterface) (name value : CString) (o : Answers)
  | getProp (intf : UsbFnInterface) (name : CString) (buffer : Nat → Char)

structure System where
  store : Store
  told : UsbFnInterface → CString → Option CString

/-- A value under one name of one interface. -/
def tell (told : UsbFnInterface → CString → Option CString) (intf : UsbFnInterface) (name value : CString) :
    UsbFnInterface → CString → Option CString :=
  fun other called => if other = intf ∧ called = name then some value else told other called

/-- Nothing is told of a device. -/
def forget (told : UsbFnInterface → CString → Option CString) (device : Nat) : UsbFnInterface → CString → Option CString :=
  fun other called => if other.object = device then none else told other called

def Store.stored (s : Store) (intf : UsbFnInterface) (name : CString) :
    Option CString := (s.findPropMgr intf name).map (·.value)

def Store.given (s : Store) (intf : UsbFnInterface) (name : CString) : Option CString :=
  (s.deref intf).bind fun (dev, info) => (devDescValue dev.deviceDesc name).map hex <|> findPropFromHcs dev info name

/-- The characters of a value, and the zero behind them. -/
def Holds (buffer : Nat → Char) (value : CString) : Prop :=
  (∀ i, (within : i < value.length) → buffer i = value[i]) ∧ buffer value.length = '\x00'

section

variable (sscanf : CString → Option UInt32)

/-- The device takes a value for one of its properties. -/
def Accepted (dev : UsbFnDeviceMgr) (name value : CString) (o : Answers) : Prop :=
  (∃ data, sscanf value = some data) ∧
    (if isStringProp name then ∀ i < dev.deviceStrings.length, o.writeDesString i = 0 else o.writeProp = 0) ∧
      o.writeUDC false = 0 ∧ o.writeUDC true = 0

/-- The strings that are read for a value are there: in each language up to one that the adapter refuses. -/
def Readable (dev : UsbFnDeviceMgr) (name value : CString) (o : Answers) : Prop :=
  isStringProp name → ∀ data, sscanf value = some data → ∀ i table, dev.deviceStrings[i]? = some table →
    (∀ j < i, o.writeDesString j = 0) → data.toNat < table.strings.length

end

namespace System

variable (sscanf : CString → Option UInt32) (s : System)

def start : System := ⟨⟨[], fun _ => none, 0⟩, fun _ _ => none⟩

/-- A value that was told counts if this was a success. -/
def kept (intf : UsbFnInterface) (name value : CString) (ended : Int32 × Store) : System :=
  ⟨ended.2, if ended.1 = HDF_SUCCESS then tell s.told intf name value else s.told⟩

/-- Nothing is said of what follows where the code has gone wrong. -/
def after : Call → System
  | .create dev =>
    ⟨{ s.store with mem := Function.update s.store.mem s.store.made (some dev), made := s.store.made + 1 }, forget s.told s.store.made⟩
  | .remove _ false => s
  | .remove device true => ⟨{ s.store.unRegisterAllProp with mem := Function.update s.store.mem device none },
    forget s.told device⟩
  | .registerProp intf name value calloc => s.kept intf name value (s.store.registerProp intf name value calloc)
  | .setProp intf name value o =>
    match s.store.setProp sscanf intf name value o with
    | none => s
    | some ended => s.kept intf name value ended
  | .getProp _ _ _ => s

/-- Calls name devices and interfaces that are there, and their strings are not too long. -/
def Legal : Call → Prop
  | .create _ => True
  | .remove device _ => (s.store.mem device).isSome
  | .registerProp intf name value _ | .setProp intf name value _ =>
    (s.store.deref intf).isSome ∧ name.length < MAX_LEN ∧ value.length < MAX_LEN
  | .getProp intf name _ => (s.store.deref intf).isSome ∧ name.length < MAX_LEN

def expected (intf : UsbFnInterface) (name : CString) : Option CString := s.told intf name <|> s.store.given intf name

/-- A value that is not kept is not stored. -/
def Kept (ended : Int32 × Store) : Prop := ended.1 ≠ HDF_SUCCESS → ended.2.stored = s.store.stored

def Right : Call → Prop
  | .create _ | .remove _ false => True
  | .remove device true =>
    ∀ intf name, s.store.unRegisterAllProp.stored intf name = if intf.object = device then none else s.store.stored intf name
  | .registerProp intf name value calloc => s.Kept (s.store.registerProp intf name value calloc)
  | .setProp intf name value o => ∃ ended, s.store.setProp sscanf intf name value o = some ended ∧ s.Kept ended
  | .getProp intf name buffer => ∃ ended, s.store.getProp intf name buffer = some ended ∧
      (ended.1 = HDF_SUCCESS → ∃ value, s.expected intf name = some value ∧ Holds ended.2 value)

def Careful : Call → Prop
  | .create _ | .remove _ false | .registerProp _ _ _ _ => True
  | .remove device true => ∀ intf name, intf.object ≠ device → s.told intf name = none
  | .setProp intf name value o => isDevDescProp name → (s.told intf name = none → o.calloc) → ∀ dev info,
      s.store.deref intf = some (dev, info) →
        Readable sscanf dev name value o ∧ (Accepted sscanf dev name value o ∨ s.told intf name = some value)
  | .getProp intf name buffer => ∀ value, s.expected intf name = some value → value ≠ [] → buffer value.length = '\x00'

/-- What is kept is what was told, and the devices that it was told for have been made. -/
structure Good : Prop where
  stored : s.store.stored = s.told
  made : ∀ obj ∈ s.store.g_cfgEntry, obj.intf.object < s.store.made
  fresh : ∀ device, (s.store.mem device).isSome → device < s.store.made

end System

section

variable {s : Store} {intf : UsbFnInterface} {name value : CString}

variable {obj : UsbFnCfgPropMgr}

theorem is_iff : obj.is intf name ↔ obj.intf = intf ∧ obj.name = name := by
  simp [UsbFnCfgPropMgr.is]

theorem isPropRegisted_iff : s.isPropRegisted intf name ↔ (s.stored intf name).isSome := by
  rw [Store.isPropRegisted, Store.stored, isSome_map, Store.findPropMgr, List.find?_isSome, List.any_eq_true]

def valueOf (entries : List UsbFnCfgPropMgr) (other : UsbFnInterface) (called : CString) : Option CString :=
  (entries.find? (·.is other called)).map (·.value)

variable {other : UsbFnInterface} {called : CString}

@[simp] theorem valueOf_nil : valueOf [] other called = none := rfl

@[simp] theorem valueOf_cons {rest : List UsbFnCfgPropMgr} :
    valueOf (obj :: rest) other called = if obj.is other called then some obj.value else valueOf rest other called := by
  rw [valueOf, find?_cons]
  cases obj.is other called <;> rfl

theorem valueOf_append {before rest : List UsbFnCfgPropMgr} :
    valueOf (before ++ rest) other called = (valueOf before other called).or (valueOf rest other called) := by
  rw [valueOf, find?_append, map_or, valueOf, valueOf]

theorem valueOf_setValue {entries : List UsbFnCfgPropMgr} (other : UsbFnInterface) (called : CString) :
    valueOf (setValue intf name value entries) other called =
      if other = intf ∧ called = name ∧ entries.any (·.is intf name) then some value else valueOf entries other called := by
  induction entries with
  | nil => simp [setValue]
  | cons obj rest later =>
    rw [setValue]
    by_cases its : obj.is intf name
    · obtain ⟨rfl, rfl⟩ := is_iff.mp its
      rw [if_pos its, valueOf_cons, valueOf_cons]
      by_cases same : other = obj.intf ∧ called = obj.name
      · obtain ⟨rfl, rfl⟩ := same
        simp [UsbFnCfgPropMgr.is]
      · have differs : ¬ (obj.is other called) := fun its => same ⟨(is_iff.mp its).1.symm, (is_iff.mp its).2.symm⟩
        have differs' : ¬ (UsbFnCfgPropMgr.is { obj with value := value } other called) := differs
        rw [if_neg differs, if_neg differs', if_neg fun h => same ⟨h.1, h.2.1⟩]
    · rw [if_neg its, valueOf_cons, valueOf_cons, later]
      by_cases same : obj.is other called
      · have differs : ¬ (other = intf ∧ called = name ∧ ((obj :: rest).any (·.is intf name))) := by
          rintro ⟨rfl, rfl, -⟩
          exact its same
        rw [if_pos same, if_pos same, if_neg differs]
      · simp [same, its]

theorem stored_setValue (registed : s.isPropRegisted intf name) :
    (s.setValue intf name value).stored = tell s.stored intf name (snprintf value) := by
  funext other called
  refine (valueOf_setValue other called).trans ?_
  rw [Store.isPropRegisted] at registed
  simp [registed, tell, Store.stored, Store.findPropMgr, valueOf]

theorem stored_append (absent : ¬ s.isPropRegisted intf name) :
    Store.stored { s with g_cfgEntry := s.g_cfgEntry ++ [⟨intf, name, value⟩] } = tell s.stored intf name value := by
  funext other called
  refine valueOf_append.trans ?_
  rw [valueOf_cons, valueOf_nil, tell]
  by_cases same : other = intf ∧ called = name
  · obtain ⟨rfl, rfl⟩ := same
    rw [isPropRegisted_iff, not_isSome_iff_eq_none] at absent
    have none : valueOf s.g_cfgEntry other called = none := absent
    rw [none, if_pos (is_iff.mpr ⟨rfl, rfl⟩), if_pos ⟨rfl, rfl⟩, none_or]
  · have differs : ¬ UsbFnCfgPropMgr.is ⟨intf, name, value⟩ other called := fun its =>
      same ⟨(is_iff.mp its).1.symm, (is_iff.mp its).2.symm⟩
    rw [if_neg same, if_neg differs, or_none]
    rfl

theorem snprintf_short (short : value.length < MAX_LEN) : snprintf value = value :=
  take_of_length_le (Nat.le_pred_of_lt short)

theorem registerProp_cases (short : name.length < MAX_LEN) (short' : value.length < MAX_LEN) (calloc : Bool) :
    ((s.registerProp intf name value calloc).1 = HDF_SUCCESS ∧
      (s.registerProp intf name value calloc).2.stored = tell s.stored intf name value ∧
      (¬ s.isPropRegisted intf name → calloc = true)) ∨
    (s.registerProp intf name value calloc).1 = HDF_FAILURE ∧ (s.registerProp intf name value calloc).2 = s ∧
      (¬ s.isPropRegisted intf name → calloc = false) := by
  rw [Store.registerProp]
  by_cases registed : s.isPropRegisted intf name
  · rw [if_pos registed]
    cases isDevDescProp name with
    | false => exact .inr ⟨rfl, rfl, fun absent => absurd registed absent⟩
    | true =>
      refine .inl ⟨by simp [short'], ?_, fun absent => absurd registed absent⟩
      rw [if_neg (by simp), stored_setValue registed, snprintf_short short']
  · rw [if_neg registed]
    cases calloc with
    | false => exact .inr ⟨rfl, rfl, fun _ => rfl⟩
    | true =>
      have fits : ¬ (MAX_LEN ≤ name.length ∨ MAX_LEN ≤ value.length) := by omega
      rw [if_neg (by simp), if_neg fits]
      exact .inl ⟨rfl, stored_append registed, fun _ => rfl⟩

structure Store.Changes (s t : Store) (intf : UsbFnInterface) : Prop where
  mem : t.mem = s.mem
  made : t.made = s.made
  intfs : ∀ obj ∈ t.g_cfgEntry, obj.intf = intf ∨ ∃ old ∈ s.g_cfgEntry, old.intf = obj.intf

theorem Store.Changes.refl : s.Changes s intf := ⟨rfl, rfl, fun obj within => .inr ⟨obj, within, rfl⟩⟩

theorem setValue_intfs {entries : List UsbFnCfgPropMgr} (within : obj ∈ setValue intf name value entries) :
    ∃ old ∈ entries, old.intf = obj.intf := by
  induction entries with
  | nil => exact absurd within not_mem_nil
  | cons first rest later =>
    rw [setValue] at within
    split at within
    · rcases mem_cons.mp within with rfl | behind
      · exact ⟨first, mem_cons_self, rfl⟩
      · exact ⟨obj, mem_cons_of_mem _ behind, rfl⟩
    · rcases mem_cons.mp within with rfl | behind
      · exact ⟨obj, mem_cons_self, rfl⟩
      · obtain ⟨old, there, same⟩ := later behind
        exact ⟨old, mem_cons_of_mem _ there, same⟩

theorem setValue_changes : s.Changes (s.setValue intf name value) intf := ⟨rfl, rfl, fun _ within => .inr (setValue_intfs within)⟩

theorem registerProp_changes {calloc : Bool} : s.Changes (s.registerProp intf name value calloc).2 intf := by
  rw [Store.registerProp]
  split
  · split
    · exact .refl
    · exact setValue_changes
  · split
    · exact .refl
    · split
      · exact .refl
      · refine ⟨rfl, rfl, fun obj within => ?_⟩
        rcases mem_append.mp within with old | last
        · exact .inr ⟨obj, old, rfl⟩
        · exact .inl (mem_singleton.mp last ▸ rfl)

theorem setProp_success {sscanf : CString → Option UInt32} {o : Answers} {ended : Int32 × Store} (short : name.length < MAX_LEN)
    (short' : value.length < MAX_LEN) (ends : s.setProp sscanf intf name value o = some ended) :
    s.Changes ended.2 intf ∧ (ended.1 = HDF_SUCCESS → ended.2.stored = tell s.stored intf name value) := by
  have failure : HDF_FAILURE ≠ HDF_SUCCESS := by decide
  have register : (s.registerProp intf name value o.calloc).1 = HDF_SUCCESS →
      (s.registerProp intf name value o.calloc).2.stored = tell s.stored intf name value := by
    intro success
    rcases registerProp_cases short short' o.calloc with ⟨-, stored, -⟩ | ⟨fails, -⟩
    · exact stored
    · exact absurd (fails.symm.trans success) failure
  have changed {dev : UsbFnDeviceMgr} {t : Store} : (changeDevceDes sscanf dev name value o).map (fun ret =>
      (if ret ≠ HDF_SUCCESS then HDF_FAILURE else HDF_SUCCESS, t)) = some ended → ended.2 = t := by
    intro ends
    obtain ⟨ret, -, rfl⟩ := map_eq_some_iff.mp ends
    rfl
  rw [Store.setProp] at ends
  cases registed : s.isPropRegisted intf name with
  | true =>
    have stored := @stored_setValue s intf name value registed
    rw [snprintf_short short'] at stored
    simp only [registed, Bool.not_true, Bool.false_and, Bool.false_eq_true, if_false, if_true, short', ne_eq,
      not_true_eq_false] at ends
    split at ends
    · obtain ⟨⟨dev, info⟩, -, ends⟩ := bind_eq_some_iff.mp ends
      rw [changed ends]
      exact ⟨setValue_changes, fun _ => stored⟩
    · obtain rfl := some.inj ends
      exact ⟨setValue_changes, fun _ => stored⟩
  | false =>
    simp only [registed, Bool.not_false, Bool.true_and, Bool.false_eq_true, if_false] at ends
    cases device : isDevDescProp name with
    | false =>
      simp only [device, Bool.not_false, if_true] at ends
      obtain ⟨⟨dev, info⟩, -, rfl⟩ := map_eq_some_iff.mp ends
      dsimp only
      split
      · exact ⟨registerProp_changes, register⟩
      · exact ⟨.refl, fun success => absurd success failure⟩
    | true =>
      simp only [device, Bool.not_true, Bool.false_eq_true, if_false, if_true] at ends
      split at ends
      · obtain rfl := some.inj ends
        exact ⟨registerProp_changes, fun success => absurd success failure⟩
      · next keeps =>
        obtain ⟨⟨dev, info⟩, -, ends⟩ := bind_eq_some_iff.mp ends
        rw [changed ends]
        exact ⟨registerProp_changes, fun _ => register (not_not.mp keeps)⟩

end

section

variable {sscanf : CString → Option UInt32} {dev : UsbFnDeviceMgr} {name value : CString} {o : Answers}

theorem changeStrings_isSome {data : UInt32} {writes : Nat → Int32} {k : Nat} {tables : List UsbFnStrings} :
    (changeStrings data writes k tables).isSome ↔ ∀ i table, tables[i]? = some table → (∀ j < i, writes (k + j) = 0) →
      data.toNat < table.strings.length := by
  induction tables generalizing k with
  | nil => simp [changeStrings]
  | cons table rest later =>
    rw [changeStrings]
    by_cases missing : table.strings.length ≤ data.toNat
    · rw [if_pos missing]
      refine iff_of_false (by simp) fun readable => ?_
      exact absurd (readable 0 table rfl fun j none => absurd none (Nat.not_lt_zero j)) (Nat.not_lt.mpr missing)
    · rw [if_neg missing]
      by_cases refused : writes k ≠ 0
      · rw [if_pos refused]
        refine iff_of_true rfl fun i found there accepted => ?_
        cases i with
        | zero => exact some.inj there ▸ Nat.not_le.mp missing
        | succ i => exact absurd (accepted 0 (Nat.succ_pos i)) refused
      · rw [if_neg refused, later]
        constructor
        · intro readable i found there accepted
          cases i with
          | zero => exact some.inj there ▸ Nat.not_le.mp missing
          | succ i =>
            refine readable i found there fun j before => ?_
            rw [Nat.add_assoc, Nat.add_comm 1]
            exact accepted (j + 1) (Nat.succ_lt_succ before)
        · intro readable i found there accepted
          refine readable (i + 1) found there fun j before => ?_
          cases j with
          | zero => exact not_not.mp refused
          | succ j =>
            have next := accepted j (Nat.lt_of_succ_lt_succ before)
            rwa [Nat.add_assoc, Nat.add_comm 1] at next

theorem changeStrings_success {data : UInt32} {writes : Nat → Int32} {k : Nat} {tables : List UsbFnStrings} {ret : Int32}
    (ended : changeStrings data writes k tables = some ret) : ret = 0 ↔ ∀ i < tables.length, writes (k + i) = 0 := by
  induction tables generalizing k with
  | nil =>
    have success : HDF_SUCCESS = ret := some.inj ended
    exact iff_of_true success.symm fun i none => absurd none (Nat.not_lt_zero i)
  | cons table rest later =>
    rw [changeStrings] at ended
    split at ended
    · cases ended
    · split at ended
      · next refused =>
        have failure : HDF_FAILURE = ret := some.inj ended
        refine iff_of_false (failure ▸ by decide) fun accepted => refused (accepted 0 (Nat.succ_pos _))
      · next accepted =>
        rw [later ended]
        constructor
        · intro others i within
          cases i with
          | zero => exact not_not.mp accepted
          | succ i =>
            rw [Nat.add_comm i, ← Nat.add_assoc]
            exact others i (Nat.lt_of_succ_lt_succ within)
        · intro all i within
          rw [Nat.add_assoc, Nat.add_comm 1]
          exact all (i + 1) (Nat.succ_lt_succ within)

theorem changeUdcName_success : changeUdcName o = HDF_SUCCESS ↔ o.writeUDC false = 0 ∧ o.writeUDC true = 0 := by
  have failure : HDF_FAILURE ≠ HDF_SUCCESS := by decide
  rw [changeUdcName]
  by_cases off : o.writeUDC false = 0
  · by_cases on : o.writeUDC true = 0 <;> simp [off, on, failure]
  · simp [off, failure]

theorem changeDevceDes_isSome : (changeDevceDes sscanf dev name value o).isSome ↔ Readable sscanf dev name value o := by
  rw [changeDevceDes, Readable]
  cases scanned : sscanf value with
  | none => simp
  | some data =>
    dsimp only
    rw [isSome_map]
    by_cases text : isStringProp name
    · rw [if_pos text, changeStrings_isSome]
      simp [text]
    · rw [if_neg text]
      exact iff_of_true rfl fun text' => absurd text' text

theorem changeDevceDes_success {ret : Int32} (ended : changeDevceDes sscanf dev name value o = some ret) :
    ret = HDF_SUCCESS ↔ Accepted sscanf dev name value o := by
  rw [changeDevceDes] at ended
  rw [Accepted]
  cases scanned : sscanf value with
  | none =>
    rw [scanned] at ended
    have failure : HDF_FAILURE = ret := some.inj ended
    exact iff_of_false (failure ▸ by decide) fun ⟨⟨_, read⟩, _⟩ => nomatch read
  | some data =>
    rw [scanned] at ended
    dsimp only at ended
    obtain ⟨written, writes, rfl⟩ := map_eq_some_iff.mp ended
    have accepted : written = 0 ↔ if isStringProp name then ∀ i < dev.deviceStrings.length,
      o.writeDesString i = 0 else o.writeProp = 0 := by
      by_cases text : isStringProp name
      · rw [if_pos text] at writes ⊢
        simpa using changeStrings_success writes
      · rw [if_neg text] at writes ⊢
        rw [some.inj writes]
    rw [← accepted, ← changeUdcName_success]
    by_cases ok : written = 0
    · simp [ok]
    · simp [ok, HDF_ERR_INVALID_PARAM, HDF_SUCCESS]

end

namespace System

variable {sscanf : CString → Option UInt32} {s : System} {intf : UsbFnInterface} {name value : CString}

theorem Good.told_isSome (good : s.Good) : s.store.isPropRegisted intf name ↔ (s.told intf name).isSome := by
  rw [isPropRegisted_iff, good.stored]

variable {buffer : Nat → Char}

theorem Good.getProp_eq (good : s.Good) (live : (s.store.deref intf).isSome) :
    s.store.getProp intf name buffer = some (match s.expected intf name with
      | none => (HDF_FAILURE, buffer)
      | some value => copied value buffer) := by
  obtain ⟨⟨dev, info⟩, there⟩ := isSome_iff_exists.mp live
  rw [Store.getProp, expected, Store.given, ← good.stored, there]
  cases stored : s.store.stored intf name with
  | none =>
    have absent : s.store.isPropRegisted intf name = false := by
      rw [← Bool.not_eq_true, isPropRegisted_iff, stored]
      simp
    rw [absent]
    simp only [Bool.not_false, if_true, map_some, bind_some, some.injEq, HOrElse.hOrElse, OrElse.orElse]
    cases devDescValue dev.deviceDesc name with
    | some val => rfl
    | none => cases findPropFromHcs dev info name <;> rfl
  | some value =>
    have registed : s.store.isPropRegisted intf name := isPropRegisted_iff.mpr (by rw [stored]; rfl)
    obtain ⟨obj, found, its⟩ := map_eq_some_iff.mp stored
    rw [registed, found]
    simp [its]

theorem copied_success : (copied value buffer).1 = HDF_SUCCESS ↔ value ≠ [] := by
  have failure : HDF_FAILURE ≠ HDF_SUCCESS := by decide
  by_cases empty : value = [] <;> simp [copied, empty, failure]

theorem holds_copied (full : value ≠ []) : Holds (copied value buffer).2 value ↔ buffer value.length = '\x00' := by
  rw [copied, if_neg full, Holds]
  have behind : value.getD value.length (buffer value.length) = buffer value.length := by simp
  dsimp only
  rw [behind, and_iff_right]
  intro i within
  simp [List.getD, within]

theorem right_getProp (good : s.Good) (live : (s.store.deref intf).isSome) :
    Right sscanf s (.getProp intf name buffer) ↔ Careful sscanf s (.getProp intf name buffer) := by
  rw [Right, Careful, good.getProp_eq live]
  cases s.expected intf name with
  | none =>
    have failure : HDF_FAILURE ≠ HDF_SUCCESS := by decide
    simp [failure]
  | some value =>
    simp only [some.injEq, exists_eq_left', forall_eq', copied_success]
    exact forall_congr' holds_copied

theorem right_remove (good : s.Good) {device : Nat} :
    Right sscanf s (.remove device true) ↔ Careful sscanf s (.remove device true) := by
  have none (intf : UsbFnInterface) (name : CString) : s.store.unRegisterAllProp.stored intf name = none := rfl
  simp only [Right, Careful, none, good.stored]
  refine forall_congr' fun intf => forall_congr' fun name => ?_
  by_cases its : intf.object = device <;> simp [its, eq_comm]

theorem right_registerProp {calloc : Bool} (short : name.length < MAX_LEN) (short' : value.length < MAX_LEN) :
    s.Kept (s.store.registerProp intf name value calloc) := by
  intro fails
  rcases registerProp_cases short short' calloc with ⟨success, -⟩ | ⟨-, same, -⟩
  · exact absurd success fails
  · rw [same]

theorem tell_eq {told : UsbFnInterface → CString → Option CString} :
    tell told intf name value = told ↔ told intf name = some value := by
  constructor
  · intro same
    rw [← same, tell, if_pos ⟨rfl, rfl⟩]
  · intro already
    funext other called
    rw [tell]
    split
    · next its => rw [its.1, its.2, already]
    · rfl

theorem right_changed (good : s.Good) {dev : UsbFnDeviceMgr} {o : Answers} {store : Store}
    (stored : store.stored = tell s.store.stored intf name value) :
    (∃ ended, ((changeDevceDes sscanf dev name value o).map fun ret =>
        (if ret ≠ HDF_SUCCESS then HDF_FAILURE else HDF_SUCCESS, store)) = some ended ∧ s.Kept ended) ↔
      Readable sscanf dev name value o ∧ (Accepted sscanf dev name value o ∨ s.told intf name = some value) := by
  have failure : HDF_FAILURE ≠ HDF_SUCCESS := by decide
  rw [← changeDevceDes_isSome]
  cases changed : changeDevceDes sscanf dev name value o with
  | none => simp
  | some ret =>
    rw [← changeDevceDes_success changed]
    simp only [map_some, some.injEq, exists_eq_left', isSome_some, true_and, Kept, stored, tell_eq, good.stored]
    by_cases success : ret = HDF_SUCCESS <;> simp [success, failure]

theorem right_setProp (good : s.Good) {o : Answers} (live : (s.store.deref intf).isSome) (short : name.length < MAX_LEN)
    (short' : value.length < MAX_LEN) :
    Right sscanf s (.setProp intf name value o) ↔ Careful sscanf s (.setProp intf name value o) := by
  obtain ⟨⟨dev, info⟩, there⟩ := isSome_iff_exists.mp live
  have success {store : Store} : s.Kept (HDF_SUCCESS, store) := fun fails => absurd rfl fails
  rw [Right, Careful, Store.setProp]
  simp only [there, map_some, bind_some]
  cases device : isDevDescProp name with
  | false =>
    refine iff_of_true ?_ fun its => absurd its Bool.false_ne_true
    cases registed : s.store.isPropRegisted intf name with
    | false =>
      refine ⟨_, rfl, ?_⟩
      split
      · exact right_registerProp short short'
      · exact fun _ => rfl
    | true => simpa [short'] using success
  | true =>
    cases registed : s.store.isPropRegisted intf name with
    | false =>
      have absent : ¬ s.store.isPropRegisted intf name := Bool.eq_false_iff.mp registed
      have untold : s.told intf name = none := by
        rwa [good.told_isSome, not_isSome_iff_eq_none] at absent
      simp only [untold, forall_const, Bool.not_true, Bool.and_false, Bool.false_eq_true, if_false, if_true]
      rcases registerProp_cases short short' o.calloc with ⟨keeps, stored, enough⟩ | ⟨fails, same, memory⟩
      · rw [if_neg (not_not.mpr keeps)]
        refine (right_changed good stored).trans ?_
        simp [enough absent, untold]
      · have failure : HDF_FAILURE ≠ HDF_SUCCESS := by decide
        rw [fails, if_pos failure, same]
        refine iff_of_true ⟨_, rfl, fun _ => rfl⟩ fun enough => ?_
        exact absurd ((memory absent).symm.trans enough) Bool.false_ne_true
    | true =>
      have stored := @stored_setValue s.store intf name value registed
      rw [snprintf_short short'] at stored
      have told : s.told intf name ≠ none := isSome_iff_ne_none.mp (good.told_isSome.mp registed)
      simp only [Bool.not_true, if_true, short']
      rw [if_neg (not_not.mpr rfl)]
      refine (right_changed good stored).trans ?_
      simp [told]

theorem right_iff (good : s.Good) {call : Call} (legal : s.Legal call) : Right sscanf s call ↔ Careful sscanf s call := by
  cases call with
  | create dev => exact Iff.rfl
  | remove device removed =>
    cases removed with
    | false => exact Iff.rfl
    | true => exact right_remove good
  | registerProp intf name value calloc => exact iff_of_true (right_registerProp legal.2.1 legal.2.2) trivial
  | setProp intf name value o => exact right_setProp good legal.1 legal.2.1 legal.2.2
  | getProp intf name buffer => exact right_getProp good legal.1

theorem Good.kept (good : s.Good) {ended : Int32 × Store} (live : (s.store.deref intf).isSome)
    (changes : s.store.Changes ended.2 intf)
    (success : ended.1 = HDF_SUCCESS → ended.2.stored = tell s.store.stored intf name value) (kept : s.Kept ended) :
    (s.kept intf name value ended).Good := by
  refine ⟨?_, fun obj within => ?_, fun device there => ?_⟩
  · rw [System.kept]
    dsimp only
    split
    · next ok => rw [success ok, good.stored]
    · next fails => rw [kept fails, good.stored]
  · refine Nat.lt_of_lt_of_eq ?_ changes.made.symm
    rcases changes.intfs obj within with rfl | ⟨old, there, same⟩
    · obtain ⟨⟨dev, info⟩, found⟩ := isSome_iff_exists.mp live
      obtain ⟨dev, there, -⟩ := bind_eq_some_iff.mp found
      exact good.fresh _ (there ▸ rfl)
    · exact same ▸ good.made old there
  · refine Nat.lt_of_lt_of_eq (good.fresh device ?_) changes.made.symm
    rw [← changes.mem]
    exact there

theorem Good.after (good : s.Good) {call : Call} (legal : s.Legal call) (right : Right sscanf s call) :
    (s.after sscanf call).Good := by
  cases call with
  | create dev =>
    have untold (intf : UsbFnInterface) (name : CString) (new : intf.object = s.store.made) : s.told intf name = none := by
      rw [← good.stored, Store.stored, map_eq_none_iff]
      refine find?_eq_none.mpr fun obj within its => ?_
      have before := good.made obj within
      rw [(is_iff.mp its).1, new] at before
      exact Nat.lt_irrefl _ before
    refine ⟨?_, fun obj within => Nat.lt_succ_of_lt (good.made obj within), fun device there => ?_⟩
    · refine good.stored.trans ?_
      funext intf name
      by_cases new : intf.object = s.store.made
      · exact (untold intf name new).trans (if_pos new).symm
      · exact (if_neg new).symm
    · by_cases new : device = s.store.made
      · exact new ▸ Nat.lt_succ_self _
      · refine Nat.lt_succ_of_lt (good.fresh device ?_)
        rw [← Function.update_of_ne new (some dev) s.store.mem]
        exact there
  | remove device removed =>
    cases removed with
    | false => exact good
    | true =>
      refine ⟨?_, fun obj within => absurd within not_mem_nil, fun other there => good.fresh other ?_⟩
      · funext intf name
        refine (right intf name).trans ?_
        rw [good.stored]
        rfl
      · by_cases its : other = device
        · exact its ▸ legal
        · rw [← Function.update_of_ne its none s.store.mem]
          exact there
  | registerProp intf name value calloc =>
    refine good.kept legal.1 registerProp_changes (fun success => ?_) right
    rcases registerProp_cases legal.2.1 legal.2.2 calloc with ⟨-, stored, -⟩ | ⟨fails, -⟩
    · exact stored
    · exact absurd (fails.symm.trans success) (by decide)
  | setProp intf name value o =>
    obtain ⟨ended, ends, kept⟩ := right
    obtain ⟨changes, success⟩ := setProp_success legal.2.1 legal.2.2 ends
    rw [System.after, ends]
    exact good.kept legal.1 changes success kept
  | getProp intf name buffer => exact good

theorem start_good : start.Good := ⟨rfl, fun _ within => absurd within not_mem_nil, fun _ none => absurd none Bool.false_ne_true⟩

theorem takes_right (good : s.Good) (run : List Call) (legal : Takes (after sscanf) Legal s run) :
    Takes (after sscanf) (Right sscanf) s run ↔ Takes (after sscanf) (Careful sscanf) s run := by
  induction run generalizing s with
  | nil => exact Iff.rfl
  | cons call rest later =>
    obtain ⟨first, others⟩ := legal
    refine (and_congr_right fun right => later (good.after first right) others).trans ?_
    exact and_congr_left' (right_iff good first)

/-- In a run all calls do what they should exactly if each is a careful one. -/
theorem props_right (sscanf : CString → Option UInt32) (run : List Call) (legal : Takes (after sscanf) Legal start run) :
    Takes (after sscanf) (Right sscanf) start run ↔ Takes (after sscanf) (Careful sscanf) start run :=
  takes_right start_good run legal

def phone : UsbFnDeviceMgr :=
  ⟨⟨0, 0, 0, 64, 1, 2, 3, 1, 0x200, 0x12d1, 0x5000, 0x223⟩, [⟨0x409, ["HISILICON".toList, "HDC Device".toList]⟩], [⟨0, 1⟩], none⟩

def answers (writeProp : Int32) : Answers := ⟨true, writeProp, fun _ => 0, fun _ => 0⟩

def acm0 : UsbFnInterface := ⟨0, 0⟩
def acm1 : UsbFnInterface := ⟨1, 0⟩

def scan (value : CString) : Option UInt32 := if value = "5a5a".toList then some 0x5a5a else none

def renamed : List Call :=
  [.create phone, .setProp acm0 USBDEV_VENDOR "5a5a".toList (answers 0), .getProp acm0 USBDEV_VENDOR fun _ => '\x00']

theorem renamed_right : Takes (after scan) (Right scan) start renamed :=
  (props_right scan renamed ⟨trivial, ⟨rfl, by decide, by decide⟩, ⟨rfl, by decide⟩, trivial⟩).mpr
    ⟨trivial, fun _ _ _ _ _ => ⟨fun text => absurd text (by decide), .inl ⟨⟨0x5a5a, by decide⟩, rfl, rfl, rfl⟩⟩, fun _ _ _ => rfl, trivial⟩

def refused : List Call := [.create phone, .setProp acm0 USBDEV_VENDOR "5a5a".toList (answers (-1))]

def shared : System :=
  [.create phone, .create phone, .registerProp acm1 "name_test".toList "value".toList true].foldl (after scan) start

/-- The value is kept, and with the first of two devices what is kept for the second is lost. -/
theorem refused_not_right :
    (∃ store, (start.after scan (.create phone)).store.setProp scan acm0 USBDEV_VENDOR "5a5a".toList (answers (-1)) =
      some (HDF_FAILURE, store) ∧ store.stored acm0 USBDEV_VENDOR = some "5a5a".toList) ∧
    shared.store.stored acm1 "name_test".toList = some "value".toList ∧
    (shared.after scan (.remove 0 true)).store.stored acm1 "name_test".toList = none ∧
    Takes (after scan) Legal start refused ∧ ¬ Takes (after scan) (Right scan) start refused := by
  refine ⟨⟨_, rfl, rfl⟩, rfl, rfl, ⟨trivial, ⟨rfl, by decide, by decide⟩, trivial⟩, ?_⟩
  rintro ⟨-, ⟨ended, ends, kept⟩, -⟩
  obtain rfl := some.inj ends
  have changed := congrFun (congrFun (kept (by decide)) acm0) USBDEV_VENDOR
  exact absurd changed (by decide)

end System

end Peripheral.UsbFnCfg
