import Peripheral.WlanFeatures

/-!
What the WLAN HAL does for a feature, `wifi_hal_base_feature.c`, `wifi_hal_ap_feature.c`,
`wifi_hal_sta_feature.c` and `wifi_hal_cmd.c`: it checks the arguments and asks the client
of the driver, whose answers are a parameter. The variables that it fills belong to its
callers, so it is said what is done to them, also where an error is reported.
-/
namespace Peripheral.Wlan
open Hdf

def HDF_ERR_NOT_SUPPORT : Int32 := -2
def ETH_ADDR_LEN : Nat := 6
def MAX_CHANNEL_NUM : UInt32 := 14
def MAX_ASSOC_STA_NUM : Nat := 8
def SECUREC_MEM_MAX_LEN : Nat := 0x7fffffff

/-- A code that reports an error. -/
abbrev Code := { code : Int32 // code ≠ HDF_SUCCESS }

namespace Code

def failure : Code := ⟨HDF_FAILURE, by decide⟩
def invalidParam : Code := ⟨HDF_ERR_INVALID_PARAM, by decide⟩

end Code

abbrev Mac := Vector UInt8 ETH_ADDR_LEN

/-- A code, and what is done to the variables of the caller. -/
abbrev HalAnswer (α : Type) := Int32 × (α → α)

/-- What variables hold after a success that hold `initial` before. -/
def HalAnswer.given {α : Type} (answer : HalAnswer α) (initial : α) : Except Code α :=
  if error : answer.1 ≠ HDF_SUCCESS then .error ⟨answer.1, error⟩ else .ok (answer.2 initial)

/-- A number, and names or a null pointer. -/
abbrev IfNames := UInt32 × Option String

/-- The answers of the driver's client and of the allocator to one request. No more stations and frequencies are reported than
    its parsers let pass; of the table of combinations it writes less than the ten words that every caller has. An array may
    be written in part, and be changed by a request that fails. -/
structure Driver where
  isSupportCombo : Except Code UInt8
  getComboInfo : HalAnswer (Vector UInt64 10)
  getDevMacAddr : String → Int32 → HalAnswer Mac
  setMacAddr : String → Mac → Int32
  getValidFreqByBand : String → Int32 → (size : UInt32) → Except Code { freqs : List Int32 // freqs.length ≤ size.toNat }
  setTxPower : String → Int32 → Int32
  getAssociatedStas : String → Except Code { stas : List Mac // stas.length ≤ MAX_ASSOC_STA_NUM }
  wifiSetCountryCode : String → String → Int32
  setScanMacAddr : String → Mac → Int32
  acquireChipId : String → HalAnswer UInt8
  getIfNamesByChipId : UInt8 → Except (Code × (IfNames → IfNames)) (UInt32 × String)
  setResetDriver : UInt8 → Int32
  getNetDeviceInfo : Except Code (List UInt8)
  wifiCmdScan : String → List UInt8 → Int32
  wifiDriverClientInit : Int32
  getUsableNetworkInfo : Except Int32 (List NetworkInfo)
  nodes : Nat
  /-- Whether `malloc` and `OsalMemCalloc` give memory for anything else. -/
  malloc : Bool
  calloc : Bool
  /-- Whether `OsalMutexInit` and `OsalMutexDestroy` succeed. -/
  mutex : Bool

/-- `memcpy_s`: whether it succeeds, and how many bytes of the destination it writes. It clears one that is too small. -/
def memcpyS (destMax count : Nat) : Bool × Nat :=
  if destMax = 0 ∨ SECUREC_MEM_MAX_LEN < destMax then (false, 0)
  else if destMax < count then (false, destMax)
  else (true, count)

structure Filled (α : Type) where
  written : Nat
  result : Except Code (List α)

variable (driver : Driver)

def IWiFi.supports (s : IWiFi) (mode : Fin 11) : Bool := s.nodes.any fun node => node.supportMode.get mode == 1

def getSupportTypeByList (s : IWiFi) (supType : Vector UInt8 12) : Vector UInt8 12 :=
  .ofFn fun i => if mode : i.val < 11 then (if s.supports ⟨i, mode⟩ then 1 else supType[i]) else supType[i]

/-- `GetSupportFeatureInner` and `HalCmdGetSupportType`, for the twelve bytes that every caller has. The modes are set before
    the driver is asked. -/
def getSupportFeature (s : IWiFi) : HalAnswer (Vector UInt8 12) :=
  match driver.isSupportCombo with
  | .error code => (code, getSupportTypeByList s)
  | .ok isComboValid => (HDF_SUCCESS, fun supType => (getSupportTypeByList s supType).set 11 isComboValid)

def getSupportCombo : HalAnswer (Vector UInt64 10) := driver.getComboInfo

def getNetworkIfaceName (feature : IWiFiBaseFeature) : String := feature.ifName

def getFeatureType (feature : IWiFiBaseFeature) : Int32 := feature.type

def setMacAddress (feature : IWiFiBaseFeature) (mac : Mac) (len : UInt8) : Int32 :=
  if len ≠ 6 then HDF_ERR_INVALID_PARAM else driver.setMacAddr feature.ifName mac

def getDeviceMacAddress (feature : IWiFiBaseFeature) (len : UInt8) : HalAnswer Mac :=
  if len ≠ 6 then (HDF_ERR_INVALID_PARAM, id) else driver.getDevMacAddr feature.ifName feature.type

/-- `GetValidFreqsWithBandInner` and `HalCmdGetValidFreqWithBand`. -/
def getValidFreqsWithBand (feature : IWiFiBaseFeature) (band : Int32) (size : UInt32) : Filled Int32 :=
  if size < MAX_CHANNEL_NUM then ⟨0, .error .invalidParam⟩
  else if !driver.calloc then ⟨0, .error .failure⟩
  else match driver.getValidFreqByBand feature.ifName band size with
    | .error code => ⟨0, .error code⟩
    | .ok freqs =>
      let (copied, bytes) := memcpyS (size.toNat * 4) (freqs.val.length * 4)
      ⟨bytes / 4, if copied then .ok freqs.val else .error .failure⟩

def setTxPower (feature : IWiFiBaseFeature) (power : Int32) : Int32 :=
  if power ≤ 0 then HDF_ERR_INVALID_PARAM else driver.setTxPower feature.ifName power

def getChipId (feature : IWiFiBaseFeature) : HalAnswer UInt8 := driver.acquireChipId feature.ifName

def getIfNamesByChipId (chipId : UInt8) : Except (Code × (IfNames → IfNames)) (UInt32 × String) :=
  driver.getIfNamesByChipId chipId

/-- `GetAsscociatedStasInner` and `HalCmdGetAsscociatedStas`. -/
def getAsscociatedStas (feature : IWiFiBaseFeature) (size : UInt32) : Filled Mac :=
  if size = 0 then ⟨0, .error .invalidParam⟩
  else match driver.getAssociatedStas feature.ifName with
    | .error code => ⟨0, .error code⟩
    | .ok stas =>
      let (copied, bytes) := memcpyS (size.toNat * 6) (stas.val.length * 6)
      ⟨bytes / 6, if copied then .ok stas.val else .error .failure⟩

def setCountryCode (feature : IWiFiBaseFeature) (code : String) (len : UInt32) : Int32 :=
  if len.toNat ≠ code.utf8ByteSize then HDF_ERR_INVALID_PARAM else driver.wifiSetCountryCode feature.ifName code

def setScanningMacAddress (feature : IWiFiBaseFeature) (scanMac : Mac) (len : UInt8) : Int32 :=
  if len ≠ 6 then HDF_ERR_INVALID_PARAM else driver.setScanMacAddr feature.ifName scanMac

def startScan (ifName : String) (scan : List UInt8) : Int32 := driver.wifiCmdScan ifName scan

def resetDriver (chipId : UInt8) : Int32 := driver.setResetDriver chipId

def getNetDevInfo : Except Code (List UInt8) := driver.getNetDeviceInfo

end Peripheral.Wlan
