import Peripheral.UsbConfig

/-!
The interface pools of `usb_interface_pool.c`, with what they use of
`usb_protocol.c`, `usb_raw_api_library.c` and `linux_adapter.c`. The host is the
memory of one session: its pools and devices by their addresses, and the lists they
are in. A call is `none` when it uses memory that was freed. The answers of the
kernel and of the threads are arguments; allocations are taken to succeed. A device
handle is freed with its device, and is written as the address of the device.
-/
namespace Peripheral.UsbPool
open Peripheral.Usb

def usbCtrlInterfaceId : UInt8 := 0xFF
def usbDefaultAltsetting : UInt8 := 0x0
def interfacePoolIdMax : Nat := 128

inductive InterfaceStatus
  | normal | add | remove
  deriving DecidableEq

/-- `UsbSdkInterface`: an alternate setting of an interface. -/
structure SdkInterface where
  interfaceIndex : UInt8
  altSettingId : UInt8
  curAltSetting : UInt8
  status : InterfaceStatus
  parentObjectId : Nat
  session : Bool
  refCount : Int
  deriving DecidableEq

/-- `UsbInterfacePool`; the device is an address. -/
structure InterfacePool where
  objectId : Nat
  busNum : UInt8
  devAddr : UInt8
  refCount : Int
  ioRefCount : Int
  device : Nat
  interfaceList : List SdkInterface
  deriving DecidableEq

/-- `UsbDevice` with its handle; the private object is the address of a pool. -/
structure Device where
  busNum : UInt8
  devAddr : UInt8
  refcnt : Int
  claimedInterfaces : BitVec 32
  privateObject : Option Nat
  deriving DecidableEq

structure ObjRef where
  pool : Nat
  index : Nat
  deriving DecidableEq

/-- `UsbInterfaceHandleEntity`. -/
structure InterfaceHandle where
  devHandle : Nat
  interfaceIndex : UInt8
  deriving DecidableEq

/-- The memory of a session. `idNum` is shared with other sessions, and no address from `fresh` on was used. -/
structure Host where
  idNum : Nat
  fresh : Nat
  ifacePoolList : List Nat
  usbDevs : List Nat
  pools : Nat → Option InterfacePool
  devices : Nat → Option Device

namespace Host

def setPool (h : Host) (p : Nat) (pool : InterfacePool) : Host :=
  { h with pools := Function.update h.pools p (some pool) }

def setDevice (h : Host) (d : Nat) (device : Device) : Host :=
  { h with devices := Function.update h.devices d (some device) }

end Host

def InterfacePool.setObj (pool : InterfacePool) (i : Nat) (obj : SdkInterface) : InterfacePool :=
  { pool with interfaceList := pool.interfaceList.set i obj }

inductive PoolQuery
  | normal (busNum usbAddr : UInt8)
  | objectId (id : Nat)

def PoolQuery.finds (pool : InterfacePool) : PoolQuery → Bool
  | normal busNum usbAddr => pool.busNum = busNum && pool.devAddr = usbAddr
  | objectId id => pool.objectId = id

inductive InterfaceQuery
  | interfaceIndex (n : UInt8)
  | altSettings (n alt : UInt8)

def InterfaceQuery.finds (obj : SdkInterface) : InterfaceQuery → Bool
  | interfaceIndex n => obj.interfaceIndex = n && obj.curAltSetting = obj.altSettingId
  | altSettings n alt => obj.interfaceIndex = n && obj.altSettingId = alt

def InterfaceQuery.number : InterfaceQuery → UInt8
  | interfaceIndex n => n
  | altSettings n _ => n

/-- The object with one reference more, and whether the interface has to be claimed. -/
def ifInterfaceRefCount (obj : SdkInterface) (n : UInt8) (refCountFlag : Bool) : SdkInterface × Bool :=
  if refCountFlag && n ≠ usbCtrlInterfaceId then ({ obj with refCount := obj.refCount + 1 }, obj.refCount = 0)
  else (obj, false)

/-- The place of the object with the claim flag, and the pool with the object counted. -/
def ifFindInterfaceObj (pool : InterfacePool) (query : InterfaceQuery) (refCountFlag statusFlag : Bool) :
    Option (Nat × Bool) × InterfacePool :=
  match pool.interfaceList.findIdx? (query.finds ·) with
  | none => (none, pool)
  | some i =>
    match pool.interfaceList[i]? with
    | none => (none, pool)
    | some obj =>
      let (counted, claimFlag) := ifInterfaceRefCount obj query.number refCountFlag
      let pool := pool.setObj i counted
      -- The reference is not taken back when the interface was removed.
      if statusFlag && obj.status = .remove then (none, pool) else (some (i, claimFlag), pool)

def findPool (h : Host) (query : PoolQuery) : Option (Nat × InterfacePool) :=
  h.ifacePoolList.findSome? fun p => (h.pools p).bind fun pool => if query.finds pool then some (p, pool) else none

def ifFindInterfacePool (h : Host) (query : PoolQuery) (refCountFlag : Bool) : Option Nat × Host :=
  match findPool h query with
  | none => (none, h)
  | some (p, pool) => (some p, if refCountFlag then h.setPool p { pool with refCount := pool.refCount + 1 } else h)

/-- What is found when a device is opened: whether there is one, the active configuration when it and its pipes can
    be made, and whether the kernel lets an interface be claimed. -/
structure Attached where
  opens : Bool
  config : Option RawConfig
  claims : Bool

inductive Answer
  | success | noDevice | failure
  deriving DecidableEq

def rawOpenDevice (h : Host) (busNum usbAddr : UInt8) (attached : Attached) : Option Nat × Host :=
  let known := h.usbDevs.findSome? fun d => (h.devices d).bind fun device =>
    if device.busNum = busNum && device.devAddr = usbAddr then some (d, device) else none
  match known with
  | some (d, device) => (some d, h.setDevice d { device with refcnt := device.refcnt + 1 })
  | none =>
    if attached.opens then
      (some h.fresh, { h.setDevice h.fresh ⟨busNum, usbAddr, 1, 0, none⟩ with
        fresh := h.fresh + 1, usbDevs := h.fresh :: h.usbDevs })
    else (none, h)

def rawCloseDevice (h : Host) (d : Nat) : Option Host := do
  let device ← h.devices d
  if device.refcnt - 1 > 0 then return h.setDevice d { device with refcnt := device.refcnt - 1 }
  return { h with usbDevs := h.usbDevs.erase d, devices := Function.update h.devices d none }

def interfaceBit (n : UInt8) : BitVec 32 := 1#32 <<< n.toNat

/-- The device with the interface claimed; nothing when an error is returned. -/
def rawClaimInterface (device : Device) (n : UInt8) (claims : Bool) : Option Device :=
  if n.toNat ≥ usbMaxInterfaces then none
  else if device.claimedInterfaces &&& interfaceBit n ≠ 0 then some device
  else if claims then some { device with claimedInterfaces := device.claimedInterfaces ||| interfaceBit n }
  else none

/-- The device with the interface released; nothing when an error is returned. A device that is gone keeps the bit. -/
def rawReleaseInterface (device : Device) (n : UInt8) (answer : Answer) : Option Device :=
  if n.toNat ≥ usbMaxInterfaces then none
  else if device.claimedInterfaces &&& interfaceBit n = 0 then none
  else match answer with
    | .success => some { device with claimedInterfaces := device.claimedInterfaces &&& ~~~ interfaceBit n }
    | .noDevice => some device
    | .failure => none

def usbIfCreatInterfacePool (h : Host) (busNum devAddr : UInt8) (d : Nat) : Nat × Host :=
  let idNum := (h.idNum + 1) % interfacePoolIdMax
  (h.fresh, { h.setPool h.fresh ⟨idNum, busNum, devAddr, 0, 0, d, []⟩ with
    idNum := idNum, fresh := h.fresh + 1, ifacePoolList := h.ifacePoolList ++ [h.fresh] })

def createCtrPipe (parentObjectId : Nat) : SdkInterface := ⟨usbCtrlInterfaceId, 0, 0, .normal, parentObjectId, false, 0⟩

/-- One object for each alternate setting. -/
def usbProtocalCreatInterfaceObj (config : RawConfig) (parentObjectId : Nat) : List SdkInterface :=
  config.interface.flatMap fun itface => itface.altsetting.map fun ifDes =>
    ⟨ifDes.interfaceDescriptor.getD 2 0, ifDes.interfaceDescriptor.getD 3 0, usbDefaultAltsetting, .normal,
      parentObjectId, false, 0⟩

/-- A pool for the device. Its objects are destroyed when the configuration cannot be read; the pool stays. -/
def usbProtocalParseDescriptor (h : Host) (d : Nat) (busNum devAddr : UInt8) (config : Option RawConfig) :
    Option (Bool × Host) := do
  let (p, h) := usbIfCreatInterfacePool h busNum devAddr d
  let device ← h.devices d
  let pool ← h.pools p
  let h := h.setDevice d { device with privateObject := some p }
  match config with
  | none => return (false, h)
  | some config =>
    let objects := createCtrPipe pool.objectId :: usbProtocalCreatInterfaceObj config pool.objectId
    return (true, h.setPool p { pool with interfaceList := objects })

def ifDestroyInterfacePool (h : Host) (p : Nat) : Option (Bool × Host) := do
  let pool ← h.pools p
  if h.ifacePoolList = [] then return (true, h)
  match findPool h (.objectId pool.objectId) with
  | none => return (false, h)
  | some (q, _) =>
    return (true, { h with ifacePoolList := h.ifacePoolList.erase q, pools := Function.update h.pools q none })

/-- Gives a reference of the pool back, and destroys the pool with the device when it was the last. Without a handle of
    the device nothing is done. -/
def ifDestoryDevice (h : Host) (p : Nat) (devHandle : Option Nat) (refCountFlag : Bool) : Option (Bool × Host) :=
  match devHandle with
  | none => some (false, h)
  | some d => do
    let pool ← h.pools p
    let refCount := if refCountFlag then pool.refCount - 1 else pool.refCount
    let h := h.setPool p { pool with refCount := refCount }
    if refCount > 0 then return (true, h)
    let (destroyed, h) ← ifDestroyInterfacePool h p
    if !destroyed then return (false, h)
    let h ← rawCloseDevice h d
    return (true, h)

/-- The pool of a device that is opened, and the handle of the device. -/
def ifGetInterfacePool (h : Host) (busNum usbAddr : UInt8) (attached : Attached) :
    Option (Option Nat × Option Nat × Host) :=
  match rawOpenDevice h busNum usbAddr attached with
  | (none, h) => some (none, none, h)
  | (some d, h) => do
    let (parsed, h) ← usbProtocalParseDescriptor h d busNum usbAddr attached.config
    if !parsed then
      let h ← rawCloseDevice h d
      return (none, some d, h)
    match ifFindInterfacePool h (.normal busNum usbAddr) true with
    | (some p, h) => return (some p, some d, h)
    | (none, h) =>
      let device ← h.devices d
      let p ← device.privateObject
      let (_, h) ← ifDestoryDevice h p (some d) false
      return (none, some d, h)

/-- The object is counted in the pool, and claimed at the kernel with its first reference. -/
def claimObj (h : Host) (p : Nat) (devHandle : Option Nat) (n : UInt8) (attached : Attached) :
    Option (Option ObjRef × Host) := do
  let pool ← h.pools p
  match ifFindInterfaceObj pool (.interfaceIndex n) true true with
  | (none, pool) =>
    let (_, h) ← ifDestoryDevice (h.setPool p pool) p devHandle true
    return (none, h)
  | (some (i, claimFlag), pool) =>
    let obj ← pool.interfaceList[i]?
    let claimed := h.setPool p (pool.setObj i { obj with session := true })
    if n ≠ usbCtrlInterfaceId && claimFlag then
      let device ← h.devices pool.device
      match rawClaimInterface device n attached.claims with
      | none =>
        let pool' := pool.setObj i { obj with refCount := obj.refCount - 1 }
        let (_, h) ← ifDestoryDevice (h.setPool p pool') p (some pool.device) true
        return (none, h)
      | some device => return (some ⟨p, i⟩, claimed.setDevice pool.device device)
    else return (some ⟨p, i⟩, claimed)

def usbClaimInterface (h : Host) (busNum usbAddr n : UInt8) (attached : Attached) : Option (Option ObjRef × Host) :=
  match ifFindInterfacePool h (.normal busNum usbAddr) true with
  | (some p, h) => claimObj h p none n attached
  | (none, h) => do
    match ← ifGetInterfacePool h busNum usbAddr attached with
    | (none, _, h) => return (none, h)
    | (some p, devHandle, h) => claimObj h p devHandle n attached

def usbReleaseInterface (h : Host) (interfaceObj : ObjRef) (answer : Answer) : Option (Bool × Host) := do
  let owner ← h.pools interfaceObj.pool
  let obj ← owner.interfaceList[interfaceObj.index]?
  if !obj.session then return (false, h)
  match findPool h (.objectId obj.parentObjectId) with
  | none => return (false, h)
  | some (p, pool) =>
    let device ← h.devices pool.device
    if obj.interfaceIndex = usbCtrlInterfaceId then ifDestoryDevice h p (some pool.device) true
    else
      let released := h.setPool interfaceObj.pool (owner.setObj interfaceObj.index { obj with refCount := obj.refCount - 1 })
      if obj.refCount - 1 ≤ 0 then
        match rawReleaseInterface device obj.interfaceIndex answer with
        | none => return (false, h)
        | some device => ifDestoryDevice (released.setDevice pool.device device) p (some pool.device) true
      else ifDestoryDevice released p (some pool.device) true

/-- Whether the status of the interface is changed; the listeners have to accept it. -/
def usbAddOrRemoveInterface (h : Host) (busNum usbAddr n : UInt8) (status : InterfaceStatus) (accepted : Bool) :
    Option (Bool × Host) :=
  match findPool h (.normal busNum usbAddr) with
  | none => some (false, h)
  | some (p, pool) =>
    match ifFindInterfaceObj pool (.interfaceIndex n) false false with
    | (none, _) => some (false, h)
    | (some (i, _), pool) => do
      let obj ← pool.interfaceList[i]?
      if obj.status = status || status = .normal || !accepted then return (false, h)
      return (true, h.setPool p (pool.setObj i { obj with status := status }))

def usbOpenInterface (h : Host) (interfaceObj : ObjRef) (starts : Bool) : Option (Option InterfaceHandle × Host) := do
  let owner ← h.pools interfaceObj.pool
  let obj ← owner.interfaceList[interfaceObj.index]?
  if !obj.session || obj.status = .remove then return (none, h)
  match findPool h (.objectId obj.parentObjectId) with
  | none => return (none, h)
  | some (p, pool) =>
    let _ ← h.devices pool.device
    if pool.ioRefCount = 0 && !starts then return (none, h)
    let h := h.setPool interfaceObj.pool (owner.setObj interfaceObj.index { obj with refCount := obj.refCount + 1 })
    let pool ← h.pools p
    return (some ⟨pool.device, obj.interfaceIndex⟩, h.setPool p { pool with ioRefCount := pool.ioRefCount + 1 })

/-- Whether it succeeds. The object is the one of the current alternate setting. -/
def usbCloseInterface (h : Host) (interfaceHandle : InterfaceHandle) (stops : Bool) : Option (Bool × Host) := do
  let device ← h.devices interfaceHandle.devHandle
  match device.privateObject with
  | none => return (false, h)
  | some p =>
    let pool ← h.pools p
    match ifFindInterfaceObj pool (.interfaceIndex interfaceHandle.interfaceIndex) false false with
    | (none, _) => return (false, h)
    | (some (i, _), pool) =>
      let obj ← pool.interfaceList[i]?
      -- When the threads do not stop, the reference is taken back.
      if pool.ioRefCount - 1 = 0 && !stops then return (false, h)
      let pool := pool.setObj i { obj with refCount := obj.refCount - 1 }
      return (true, h.setPool p { pool with ioRefCount := pool.ioRefCount - 1 })

/-- The object of the setting, which every object of the interface has as its current one then. -/
def usbSelectInterfaceSetting (h : Host) (interfaceHandle : InterfaceHandle) (settingIndex : UInt8) (sets : Bool) :
    Option (Option ObjRef × Host) := do
  let device ← h.devices interfaceHandle.devHandle
  match device.privateObject with
  | none => return (none, h)
  | some p =>
    if !sets then return (none, h)
    let pool ← h.pools p
    let pool := { pool with interfaceList := pool.interfaceList.map fun obj =>
      if obj.interfaceIndex = interfaceHandle.interfaceIndex then { obj with curAltSetting := settingIndex } else obj }
    match ifFindInterfaceObj pool (.interfaceIndex interfaceHandle.interfaceIndex) false true with
    | (none, pool) => return (none, h.setPool p pool)
    | (some (i, _), pool) =>
      let obj ← pool.interfaceList[i]?
      return (some ⟨p, i⟩, h.setPool p (pool.setObj i { obj with session := true }))

end Peripheral.UsbPool
