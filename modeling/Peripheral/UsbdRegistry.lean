import Mathlib.Data.List.Nodup
import Peripheral.Sessions

/-!
The devices of the USB service, as `usbd_dispatcher.c` and `usbd.c` keep them. A device is put into the list
before it is initialised, and taken out of it by its bus and address, which its release sets to zero. Every
release leaves the SDK session that its initialisation entered, and so do the failures of the initialisation.
-/
namespace Peripheral.Usbd
open Sessions

inductive HdfStatus
  | success
  | failure
  | errInvalidParam
  | errInvalidObject
  | errMallocFail
  | errIo
  | devErrNoDevice
  deriving DecidableEq

abbrev Key := UInt8 × UInt8

structure HostDevice where
  busNum : UInt8
  devAddr : UInt8
  initFlag : Bool
  deriving DecidableEq

def HostDevice.key (port : HostDevice) : Key := (port.busNum, port.devAddr)

/-- Devices are numbered as they are allocated; `sdk` has the calls of `UsbInitHostSdk` that succeeded and those of
`UsbExitHostSdk`, with the device for which they were made. -/
structure UsbdService where
  devList : List Nat
  device : Nat → HostDevice
  next : Nat
  freed : List Nat
  sdk : List (Nat × Call)

/-- What the calls of `UsbdInit` come back with. -/
structure InitOutcome where
  sdk : Bool
  ctrIface : Bool
  ctrDevHandle : Bool
  pipeMemory : Bool
  pipeInfo : Bool
  deriving DecidableEq

/-- The same of an attachment; `created` is the result of `HostDeviceCreate`. -/
structure AttachOutcome where
  created : HdfStatus
  init : InitOutcome
  fifo : Bool
  deriving DecidableEq

/-- The configurations that the device reports before and after the new one was set, and what a reopening meets. -/
structure ConfigOutcome where
  old : Option UInt8
  set : Bool
  new : Option UInt8
  init : InitOutcome
  deriving DecidableEq

namespace UsbdService

def key (s : UsbdService) (port : Nat) : Key := (s.device port).key

def keys (s : UsbdService) : List Key := s.devList.map s.key

def usbInitHostSdk (s : UsbdService) (port : Nat) : UsbdService := { s with sdk := s.sdk ++ [(port, .opens)] }

def usbExitHostSdk (s : UsbdService) (port : Nat) : UsbdService := { s with sdk := s.sdk ++ [(port, .closes)] }

def osalMemFree (s : UsbdService) (port : Nat) : UsbdService := { s with freed := port :: s.freed }

def setDevice (s : UsbdService) (port : Nat) (device : HostDevice) : UsbdService :=
  { s with device := Function.update s.device port device }

def returnClainInterfaces (s : UsbdService) (ret : HdfStatus) (port : Nat) : HdfStatus × UsbdService :=
  (ret, s.usbExitHostSdk port)

def returnOpenInterfaces (s : UsbdService) (ret : HdfStatus) (port : Nat) : HdfStatus × UsbdService :=
  (ret, s.usbExitHostSdk port)

def returnGetPipes (s : UsbdService) (ret : HdfStatus) (port : Nat) : HdfStatus × UsbdService :=
  (ret, s.usbExitHostSdk port)

def usbdClaimInterfaces (o : InitOutcome) : HdfStatus := if o.ctrIface then .success else .failure

def usbdOpenInterfaces (o : InitOutcome) : HdfStatus := if o.ctrDevHandle then .success else .failure

def usbdGetCtrlPipe (o : InitOutcome) : HdfStatus :=
  if !o.pipeMemory then .errMallocFail else if o.pipeInfo then .success else .failure

def usbdInit (s : UsbdService) (port : Nat) (o : InitOutcome) : HdfStatus × UsbdService :=
  if (s.device port).initFlag then (.success, s)
  else if !o.sdk then (.errIo, s)
  else
    let s := s.usbInitHostSdk port
    if usbdClaimInterfaces o ≠ .success then s.returnClainInterfaces (usbdClaimInterfaces o) port
    else if usbdOpenInterfaces o ≠ .success then s.returnOpenInterfaces (usbdOpenInterfaces o) port
    else if usbdGetCtrlPipe o ≠ .success then s.returnGetPipes (usbdGetCtrlPipe o) port
    else (.success, s)

def usbdRelease (s : UsbdService) (port : Nat) : UsbdService := (s.usbExitHostSdk port).setDevice port ⟨0, 0, false⟩

/-- The first device with the bus and address of `port` is taken out of the list. -/
def removeDevFromService (s : UsbdService) (port : Nat) : UsbdService :=
  { s with devList := s.devList.eraseP fun tempPort => s.key tempPort = s.key port }

def findDevFromService (s : UsbdService) (busNum devAddr : UInt8) : Option Nat :=
  s.devList.find? fun port => s.key port = (busNum, devAddr)

def setInitFlag (s : UsbdService) (port : Nat) : UsbdService :=
  s.setDevice port { s.device port with initFlag := true }

def giveUp (s : UsbdService) (port : Nat) : UsbdService :=
  ((s.usbdRelease port).removeDevFromService port).osalMemFree port

def reOpenDevice (s : UsbdService) (port : Nat) (o : InitOutcome) : HdfStatus × UsbdService :=
  let old := s.device port
  let s := s.usbdRelease port
  let s := s.setDevice port { s.device port with busNum := old.busNum, devAddr := old.devAddr }
  let (ret, s) := s.usbdInit port o
  if ret ≠ .success then (ret, s.giveUp port) else (.success, s.setInitFlag port)

def funSetActiveConfig (s : UsbdService) (port : Nat) (configId : UInt8) (o : ConfigOutcome) : HdfStatus × UsbdService :=
  match o.old with
  | none => (.errInvalidParam, s)
  | some configIdOld =>
    if configId = configIdOld then (.success, s)
    else if !o.set then (.errIo, s)
    else if o.new ≠ some configId then (.errIo, s)
    else if configId ≠ 0 then s.reOpenDevice port o.init
    else (.success, s)

/-- `UsbdServiceDispatch` of `CMD_FUN_SET_CONFIG`. -/
def dispatchSetConfig (s : UsbdService) (busNum devAddr configId : UInt8) (o : ConfigOutcome) : HdfStatus × UsbdService :=
  match s.findDevFromService busNum devAddr with
  | none => (.devErrNoDevice, s)
  | some port => if (s.device port).initFlag then s.funSetActiveConfig port configId o else (.devErrNoDevice, s)

def hostDeviceCreate (s : UsbdService) : UsbdService :=
  { s.setDevice s.next ⟨0, 0, false⟩ with next := s.next + 1 }

def funAttachDevice (s : UsbdService) (port : Nat) (o : AttachOutcome) : HdfStatus × UsbdService :=
  if (s.device port).initFlag then (.success, s)
  else
    let (ret, s) := s.usbdInit port o.init
    if ret ≠ .success then (ret, s.giveUp port)
    else if !o.fifo then (.errInvalidParam, s.giveUp port)
    else (.success, s.setInitFlag port)

def usbdDeviceCreateAndAttach (s : UsbdService) (busNum devAddr : UInt8) (o : AttachOutcome) : HdfStatus × UsbdService :=
  if o.created = .success then
    let port := s.next
    let s := s.hostDeviceCreate
    let s := s.setDevice port { s.device port with busNum := busNum, devAddr := devAddr }
    let s := { s with devList := port :: s.devList }
    s.funAttachDevice port o
  else (o.created, s)

def funDetachDevice (s : UsbdService) (port : Option Nat) : HdfStatus × UsbdService :=
  match port with
  | none => (.errInvalidParam, s)
  | some port => (.success, ((s.removeDevFromService port).usbdRelease port).osalMemFree port)

def usbdDeviceDettach (s : UsbdService) (busNum devAddr : UInt8) : HdfStatus × UsbdService :=
  s.funDetachDevice (s.findDevFromService busNum devAddr)

def usbdFindDevForBusNum (s : UsbdService) (busNum : UInt8) : Option (Nat × UsbdService) :=
  match s.devList.find? fun tempPort => (s.device tempPort).busNum = busNum with
  | none => none
  | some port => some (port, { s with devList := s.devList.eraseP fun tempPort => (s.device tempPort).busNum = busNum })

/-- The turns of the loop of `UsbdRemoveBusDev`; there are no more than devices. -/
def removeBusDevs (busNum : UInt8) : Nat → UsbdService → UsbdService
  | 0, s => s
  | turns+1, s =>
    match s.usbdFindDevForBusNum busNum with
    | none => s
    | some (tempPort, s) => removeBusDevs busNum turns ((s.usbdRelease tempPort).osalMemFree tempPort)

def usbdRemoveBusDev (s : UsbdService) (busNum : UInt8) : UsbdService := removeBusDevs busNum s.devList.length s

end UsbdService

inductive PnpId
  | gadgetAdd
  | gadgetRemove
  | addDevice
  | removeDevice
  deriving DecidableEq

/-- What is used of `UsbPnpNotifyMatchInfoTable`, or of the reply to `USB_PNP_DRIVER_GETDEVICES`. -/
structure InfoTable where
  busNum : UInt32
  devNum : UInt32
  deviceClass : UInt8
  deriving DecidableEq

namespace InfoTable

def isHub (info : InfoTable) : Prop := info.deviceClass = 0x09

instance : DecidablePred isHub := fun info => inferInstanceAs (Decidable (info.deviceClass = 0x09))

def key (info : InfoTable) : Key := (info.busNum.toUInt8, info.devNum.toUInt8)

end InfoTable

namespace UsbdService

/-- `infoTable` is `none` when it could not be read from the event. -/
def usbdPnpLoaderEventReceived (s : UsbdService) (id : PnpId) (infoTable : Option InfoTable) (o : AttachOutcome) :
    HdfStatus × UsbdService :=
  if id = .gadgetAdd ∨ id = .gadgetRemove then (.success, s)
  else match infoTable with
    | none => (.errInvalidParam, s)
    | some info =>
      if info.isHub then
        if id = .removeDevice then (.success, s.usbdRemoveBusDev info.key.1) else (.success, s)
      else if id = .addDevice then (.success, (s.usbdDeviceCreateAndAttach info.key.1 info.key.2 o).2)
      else (.success, (s.usbdDeviceDettach info.key.1 info.key.2).2)

/-- A device of the reply, with what its attachment meets. -/
def hdfReadDevice (s : UsbdService) (d : InfoTable × AttachOutcome) : UsbdService :=
  if d.1.isHub then s else (s.usbdDeviceCreateAndAttach d.1.key.1 d.1.key.2 d.2).2

/-- The loop over the reply; there is none if it could not be asked for. -/
def usbdAddDevicesOnStart (s : UsbdService) (reply : List (InfoTable × AttachOutcome)) : UsbdService :=
  reply.foldl hdfReadDevice s

end UsbdService

end Peripheral.Usbd
