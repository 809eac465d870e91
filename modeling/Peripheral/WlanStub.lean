import Peripheral.Faults
import Peripheral.WlanEvents
import Peripheral.WlanHal

/-!
`WlanHdiServiceOnRemoteRequest` with its handlers, `wlan_hdi_service_stub.c`. They use one
object of the HAL and one feature of each type through global pointers, and hardly look at
these. What happens behind a pointer that is null or freed, and beyond the end of an array,
is not said: a handler goes wrong there. A write into a reply succeeds.
-/
namespace Peripheral.Wlan
open RemoteCalls Hdf Faults Transitions

def IFNAME_MAX_LEN : Nat := 16
def WLAN_FREQ_MAX_NUM : Nat := 35
def WLAN_MAX_NUM_STA_WITH_AP : Nat := 4

/-- `sizeof(struct StaInfo)`, which stands where the number of stations is asked for. -/
def sizeofStaInfo : UInt32 := 6

/-- The features that the pointers are for. -/
inductive Kind
  | ap
  | sta
  deriving DecidableEq

def Kind.type : Kind → Int32
  | .ap => 3
  | .sta => 2

/-- The kind of a `wlanType` in a request. -/
def Kind.of (wlanType : Int32) : Option Kind :=
  if wlanType = Kind.ap.type then some .ap else if wlanType = Kind.sta.type then some .sta else none

/-- What a handler goes wrong with: `g_wifi`, `g_apFeature` or `g_staFeature`, the end of `ifName` or of an array of its own, the
    feature that the HAL has found, or the `FeatureInfo` that it has freed. -/
inductive Fault
  | wifi
  | feature
  | ifName
  | array
  | found
  | info

/-- The global variables, the HAL and the clients. A pointer to a feature is the number of it. Of each kind `destroyed` says
    whether the last that was done to it was to destroy it. -/
structure Service where
  g_wifi : Bool
  g_apFeature : Option Nat
  g_staFeature : Option Nat
  isInited : Bool
  g_isInitMutex : Bool
  wifi : IWiFi
  stub : HdfWlanStubData
  destroyed : Kind → Bool

structure Serving where
  service : Service
  data : HdfSBuf
  reply : HdfSBuf
  renamed : List (String × String)

abbrev Handle := Prog Fault Int32 Serving

namespace Service

def new : Service := ⟨false, none, none, false, false, .new, .new, fun _ => false⟩

def pointer (s : Service) : Kind → Option Nat
  | .ap => s.g_apFeature
  | .sta => s.g_staFeature

def setPointer (s : Service) (id : Option Nat) : Kind → Service
  | .ap => { s with g_apFeature := id }
  | .sta => { s with g_staFeature := id }

def feature (s : Service) (id : Nat) : Option IWiFiBaseFeature := s.wifi.features.find? (·.id = id)

def update (s : Service) (id : Nat) (change : IWiFiBaseFeature → IWiFiBaseFeature) : Service :=
  { s with wifi.features := s.wifi.features.map fun feature => if feature.id = id then change feature else feature }

def setDestroyed (s : Service) (kind : Kind) (destroyed : Bool) : Service :=
  { s with destroyed := Function.update s.destroyed kind destroyed }

end Service

section

variable {α : Type}

def orReturn (code : Int32) (reader : Reader Value Int32 α) :
    Reader Value Int32 α := EStateM.adaptExcept (fun _ => code) reader

def arguments (reader : Reader Value Int32 α) : Handle α := do
  let st ← get
  match reader.run st.data with
  | .ok a rest =>
    set { st with data := rest }
    pure a
  | .error code _ => fail code

def write (value : Value) : Handle Unit := modify fun st => { st with reply := st.reply ++ [value] }

def useWifi : Handle Unit := do
  if !(← get).service.g_wifi then goWrong .wifi

def onService (f : Service → Service) : Handle Unit := modify fun st => { st with service := f st.service }

/-- Most handlers return this for any error of the HAL. -/
def success (ret : Int32) : Handle Int32 := if ret ≠ HDF_SUCCESS then fail HDF_FAILURE else pure ret

def obtain {ε : Type} (result : Except ε α) : Handle α :=
  match result with
  | .error _ => fail HDF_FAILURE
  | .ok a => pure a

def fill (size : Nat) (filled : Filled α) : Handle (List α) :=
  if size < filled.written then goWrong .array else obtain filled.result

end

def pointed (kind : Kind) : Handle IWiFiBaseFeature := do
  let st ← get
  match st.service.pointer kind with
  | none => goWrong .feature
  | some id =>
    match st.service.feature id with
    | none => goWrong .feature
    | some feature => pure feature

/-- The name of a request is copied over that of the feature. It is the first member, so that the destination is null with
    the pointer, which `strcpy_s` refuses; the size that it is given is that of the source. -/
def named (kind : Kind) (name : String) : Handle IWiFiBaseFeature := do
  let st ← get
  match st.service.pointer kind with
  | none => fail HDF_FAILURE
  | some id =>
    match st.service.feature id with
    | none => goWrong .feature
    | some feature =>
      if IFNAME_MAX_LEN < name.utf8ByteSize + 1 then goWrong .ifName
      else
        let service := st.service.update id fun feature => { feature with ifName := name }
        set { st with service := service, renamed := st.renamed ++ [(feature.ifName, name)] }
        pure { feature with ifName := name }

def checkInterfaceDesc : Reader Value Int32 Unit :=
  orReturn HDF_ERR_INVALID_PARAM (checkInterfaceToken "HDI.WLAN.V1_0")

def readName : Reader Value Int32 String := do
  checkInterfaceDesc
  orReturn HDF_FAILURE readString

def readCreateFeature : Reader Value Int32 UInt8 := do
  checkInterfaceDesc
  orReturn HDF_ERR_INVALID_PARAM readUint8

def readRegCallback : Reader Value Int32 Remote := do
  checkInterfaceDesc
  orReturn HDF_ERR_INVALID_PARAM readRemoteService

def readDestoryFeature : Reader Value Int32 (String × Int32) := do
  checkInterfaceDesc
  let name ← orReturn HDF_ERR_INVALID_PARAM readString
  let wlanType ← orReturn HDF_ERR_INVALID_PARAM readInt32
  pure (name, wlanType)

def readChip : Reader Value Int32 UInt8 := readCreateFeature

def readCountryCode : Reader Value Int32 (String × String) := do
  let name ← readName
  let code ← orReturn HDF_FAILURE readString
  pure (name, code)

def readFeatureType : Reader Value Int32 Int32 := do
  checkInterfaceDesc
  readInt32 <|> pure 0

def readSetMacAddr : Reader Value Int32 (String × Mac) := do
  let name ← readName
  let mac ← many (orReturn HDF_ERR_INVALID_PARAM readUint8) ETH_ADDR_LEN
  pure (name, mac)

def readNameAndNumber : Reader Value Int32 (String × Int32) := do
  let name ← readName
  let number ← orReturn HDF_ERR_INVALID_PARAM readInt32
  pure (name, number)

def readFreqWithband : Reader Value Int32 (String × Int32 × UInt32) := do
  let name ← readName
  let wlanBand ← orReturn HDF_ERR_INVALID_PARAM readInt32
  let size ← orReturn HDF_ERR_INVALID_PARAM readUint32
  pure (name, wlanBand, size)

def readScanMacAddr : Reader Value Int32 (String × UInt8 × Mac) := do
  let name ← readName
  let length ← orReturn HDF_FAILURE readUint8
  let scanMac ← many (orReturn HDF_FAILURE readUint8) ETH_ADDR_LEN
  pure (name, length, scanMac)

/-- `sizeOfScan` is `sizeof(WifiScan)`. -/
def readScan (sizeOfScan : Nat) : Reader Value Int32 (String × List UInt8) := do
  let ifName ← readName
  let scan ← orReturn HDF_FAILURE readBuffer
  if scan.length ≠ sizeOfScan then throw HDF_FAILURE
  pure (ifName, scan)

/-! ### The handlers, behind what they read -/

section

variable (driver : Driver)

def hdiWifiConstruct : Handle Int32 := do
  let s := (← get).service
  if !s.isInited then
    if !s.g_isInitMutex && !driver.mutex then fail HDF_FAILURE
    onService fun s => { s with isInited := true, g_isInitMutex := true, wifi.nodes := [] }
  onService fun s => { s with g_wifi := true }
  pure HDF_SUCCESS

def hdiWifiDeConstruct : Handle Int32 := do
  onService fun s => { s with g_wifi := false }
  if (← get).service.g_isInitMutex && !driver.mutex then fail HDF_FAILURE
  onService fun s => { s with g_isInitMutex := false }
  pure HDF_SUCCESS

def operate (op : Operation) : Handle Int32 := do
  useWifi
  let st ← get
  let (ret, wifi) := st.service.wifi.perform op
  set { st with service.wifi := wifi }
  pure ret

def wlanServiceStubStart : Handle Int32 := do
  let ret ← operate (.start driver.wifiDriverClientInit driver.getUsableNetworkInfo driver.nodes)
  success ret

def wlanServiceStubStop : Handle Int32 := do
  let ret ← operate .stop
  success ret

def wlanServiceStubGetSupportFeature : Handle Int32 := do
  useWifi
  let st ← get
  let support ← obtain ((getSupportFeature driver st.service.wifi).given (.replicate 12 0))
  write (.uint32 12)
  write (.unpadBuffer support.toList)
  pure HDF_SUCCESS

/-- The loop keeps in `ret` that each write went well, which is `1`. -/
def wlanServiceStubGetSupportCombo : Handle Int32 := do
  useWifi
  match (getSupportCombo driver).given (.replicate 10 0) with
  | .error code => fail code
  | .ok combo =>
    modify fun st => { st with reply := st.reply ++ (combo.toList.take ETH_ADDR_LEN).map .uint64 }
    pure 1

/-- A type that is not known leads to a write from the `FeatureInfo` that was freed before. -/
def wlanServiceStudCreateFeature (wlanType : UInt8) : Handle Int32 := do
  if !driver.calloc then fail HDF_FAILURE
  match Kind.of wlanType.toUInt32.toInt32 with
  | none => goWrong .info
  | some kind =>
    let made := (← get).service.wifi.made
    let ret ← operate (.createFeature kind.type driver.malloc)
    onService fun s => (s.setPointer (if ret = HDF_SUCCESS then some made else none) kind).setDestroyed kind false
    let _ ← success ret
    let feature ← pointed kind
    write (.string feature.ifName)
    write (.int32 feature.type)
    pure ret

/-- The feature that is found is not looked at either. -/
def wlanServiceStudGetFeatureByIfName (ifName : String) : Handle Int32 := do
  useWifi
  let s := (← get).service
  let (ret, baseFeature) := s.wifi.getFeatureByIfName ifName
  let _ ← success ret
  match baseFeature.bind s.feature with
  | none => goWrong .found
  | some feature =>
    write (.int32 feature.type)
    pure ret

/-- The second step is made only if the client could be added. -/
def wlanServiceStudRegCallback (client : Client) (callback : Remote) : Handle Int32 := do
  let (ret, stub) := (← get).service.stub.hdfWlanAddRemoteObj client callback driver.calloc
  onService fun s => { s with stub := stub }
  if ret ≠ HDF_SUCCESS then fail ret
  useWifi
  let (ret, stub) := stub.registerEventCallback driver.malloc
  onService fun s => { s with stub := stub }
  pure ret

def wlanServiceStubUnRegCallback (client : Client) : Handle Int32 := do
  onService fun s => { s with stub := s.stub.hdfWlanDelRemoteObj client }
  if (← get).service.stub.remoteListHead = [] then
    useWifi
    let (ret, stub) := (← get).service.stub.unregisterEventCallback
    onService fun s => { s with stub := stub }
    pure ret
  else pure HDF_SUCCESS

def wlanServiceStubDestoryFeature (name : String) (wlanType : Int32) : Handle Int32 := do
  match Kind.of wlanType with
  | none => fail HDF_FAILURE
  | some kind =>
    let feature ← named kind name
    let ret ← operate (.destroyFeature feature.id)
    let ret ← success ret
    onService fun s => s.setDestroyed kind true
    pure ret

def wlanServiceStubResetDriver (chipId : UInt8) : Handle Int32 := do
  useWifi
  success (resetDriver driver chipId)

/-- What was found goes into the request. -/
def wlanServiceStubGetAsscociateSta (name : String) : Handle Int32 := do
  let feature ← named .ap name
  let staInfo ← fill WLAN_MAX_NUM_STA_WITH_AP (getAsscociatedStas driver feature sizeofStaInfo)
  write (.uint32 (.ofNat staInfo.length))
  modify fun st => { st with data := st.data ++ [.buffer ((staInfo.head?.getD (.replicate _ 0)).toList)] }
  pure HDF_SUCCESS

def wlanServiceStubSetCountryCode (name code : String) : Handle Int32 := do
  let feature ← named .ap name
  success (setCountryCode driver feature code (.ofNat code.utf8ByteSize))

def wlanServiceStubGetNetworkName (name : String) : Handle Int32 := do
  let feature ← named .ap name
  write (.string (getNetworkIfaceName feature))
  pure HDF_SUCCESS

def wlanServiceStubGetFeatureType (featureType : Int32) : Handle Int32 := do
  let feature ← pointed .ap
  onService fun s => s.update feature.id fun feature => { feature with type := featureType }
  write (.int32 (getFeatureType { feature with type := featureType }))
  pure HDF_SUCCESS

/-- `wlanType` is always that of an AP. -/
def wlanServcieStubSetMacAddr (name : String) (mac : Mac) : Handle Int32 := do
  let feature ← named .ap name
  success (setMacAddress driver feature mac 6)

def wlanServiceGetMacAddr (name : String) (wlanType : Int32) : Handle Int32 := do
  match Kind.of wlanType with
  | none => fail HDF_FAILURE
  | some kind =>
    let feature ← named kind name
    let mac ← obtain ((getDeviceMacAddress driver feature 6).given (.replicate _ 0))
    write (.unpadBuffer mac.toList)
    pure HDF_SUCCESS

def wlanServiceStubGetFreqWithband (name : String) (wlanBand : Int32) (size : UInt32) : Handle Int32 := do
  let feature ← named .ap name
  let freq ← fill WLAN_FREQ_MAX_NUM (getValidFreqsWithBand driver feature wlanBand size)
  write (.uint32 (.ofNat freq.length))
  modify fun st => { st with reply := st.reply ++ freq.map .int32 }
  pure HDF_SUCCESS

def wlanServiceStubSetTxPowr (name : String) (power : Int32) : Handle Int32 := do
  let feature ← named .ap name
  success (setTxPower driver feature power)

def wlanServiceStubGetChipId (name : String) (wlanType : Int32) : Handle Int32 := do
  match Kind.of wlanType with
  | none => fail HDF_FAILURE
  | some kind =>
    let feature ← named kind name
    let chipId ← obtain ((getChipId driver feature).given 0)
    write (.uint8 chipId)
    pure HDF_SUCCESS

def wlanServiceStubGetNameByChipId (chipId : UInt8) : Handle Int32 := do
  let _ ← pointed .sta
  let (num, ifName) ← obtain (getIfNamesByChipId driver chipId)
  write (.uint8 num.toUInt8)
  write (.string ifName)
  pure HDF_SUCCESS

/-- This one returns the code of the HAL. -/
def wlanServiceStubSetScanMacAddr (name : String) (length : UInt8) (scanMac : Mac) : Handle Int32 := do
  let feature ← named .sta name
  pure (setScanningMacAddress driver feature scanMac length)

def wlanServiceStubGetNetdevInfo : Handle Int32 := do
  if !driver.calloc then fail HDF_FAILURE
  useWifi
  let info ← obtain (getNetDevInfo driver)
  write (.buffer info)
  pure HDF_SUCCESS

def wlanServiceStubStartScan (ifName : String) (scan : List UInt8) : Handle Int32 := do
  let _ ← pointed .sta
  pure (startScan driver ifName scan)

end

inductive InterFacesCmd
  | construct
  | deconstruct
  | start
  | stop
  | getSupportFeature
  | getSupportCombo
  | createFeature
  | getFeatureName
  | registerCallback
  | unregisterCallback
  | destroyFeature
  | resetDriver
  | getAsscociateSta
  | setCountryCode
  | getNetworkName
  | getFeatureType
  | setMacAddr
  | getMacAddr
  | getFreqWithband
  | setTxPowr
  | getChipid
  | getNameBychipid
  | setSacnMacaddr
  | getNetdevInfo
  | startScan
  deriving DecidableEq

def InterFacesCmd.all : List InterFacesCmd :=
  [.construct, .deconstruct, .start, .stop, .getSupportFeature, .getSupportCombo, .createFeature, .getFeatureName,
    .registerCallback, .unregisterCallback, .destroyFeature, .resetDriver, .getAsscociateSta, .setCountryCode,
    .getNetworkName, .getFeatureType, .setMacAddr, .getMacAddr, .getFreqWithband, .setTxPowr, .getChipid, .getNameBychipid,
    .setSacnMacaddr, .getNetdevInfo, .startScan]

def InterFacesCmd.ofId (cmdId : Int) : Option InterFacesCmd := if cmdId < 0 then none else InterFacesCmd.all[cmdId.toNat]?

structure Request where
  client : Client
  cmdId : Int
  data : HdfSBuf
  driver : Driver
  sizeOfScan : Nat

def handle (r : Request) : InterFacesCmd → Handle Int32
  | .construct => do
    arguments checkInterfaceDesc
    hdiWifiConstruct r.driver
  | .deconstruct => do
    arguments checkInterfaceDesc
    hdiWifiDeConstruct r.driver
  | .start => do
    arguments checkInterfaceDesc
    wlanServiceStubStart r.driver
  | .stop => do
    arguments checkInterfaceDesc
    wlanServiceStubStop
  | .getSupportFeature => do
    arguments checkInterfaceDesc
    wlanServiceStubGetSupportFeature r.driver
  | .getSupportCombo => do
    arguments checkInterfaceDesc
    wlanServiceStubGetSupportCombo r.driver
  | .createFeature => do
    let wlanType ← arguments readCreateFeature
    wlanServiceStudCreateFeature r.driver wlanType
  | .getFeatureName => do
    let ifName ← arguments readName
    wlanServiceStudGetFeatureByIfName ifName
  | .registerCallback => do
    let callback ← arguments readRegCallback
    wlanServiceStudRegCallback r.driver r.client callback
  | .unregisterCallback => wlanServiceStubUnRegCallback r.client
  | .destroyFeature => do
    let (name, wlanType) ← arguments readDestoryFeature
    wlanServiceStubDestoryFeature name wlanType
  | .resetDriver => do
    let chipId ← arguments readChip
    wlanServiceStubResetDriver r.driver chipId
  | .getAsscociateSta => do
    let name ← arguments readName
    wlanServiceStubGetAsscociateSta r.driver name
  | .setCountryCode => do
    let (name, code) ← arguments readCountryCode
    wlanServiceStubSetCountryCode r.driver name code
  | .getNetworkName => do
    let name ← arguments readName
    wlanServiceStubGetNetworkName name
  | .getFeatureType => do
    let featureType ← arguments readFeatureType
    wlanServiceStubGetFeatureType featureType
  | .setMacAddr => do
    let (name, mac) ← arguments readSetMacAddr
    wlanServcieStubSetMacAddr r.driver name mac
  | .getMacAddr => do
    let (name, wlanType) ← arguments readNameAndNumber
    wlanServiceGetMacAddr r.driver name wlanType
  | .getFreqWithband => do
    let (name, wlanBand, size) ← arguments readFreqWithband
    wlanServiceStubGetFreqWithband r.driver name wlanBand size
  | .setTxPowr => do
    let (name, power) ← arguments readNameAndNumber
    wlanServiceStubSetTxPowr r.driver name power
  | .getChipid => do
    let (name, wlanType) ← arguments readNameAndNumber
    wlanServiceStubGetChipId r.driver name wlanType
  | .getNameBychipid => do
    let chipId ← arguments readChip
    wlanServiceStubGetNameByChipId r.driver chipId
  | .setSacnMacaddr => do
    let (name, length, scanMac) ← arguments readScanMacAddr
    wlanServiceStubSetScanMacAddr r.driver name length scanMac
  | .getNetdevInfo => do
    arguments checkInterfaceDesc
    wlanServiceStubGetNetdevInfo r.driver
  | .startScan => do
    let (ifName, scan) ← arguments (readScan r.sizeOfScan)
    wlanServiceStubStartScan r.driver ifName scan

def wlanHdiServiceOnRemoteRequest (r : Request) : Handle Int32 :=
  match InterFacesCmd.ofId r.cmdId with
  | none => fail HDF_ERR_INVALID_PARAM
  | some cmd => handle r cmd

def Service.serve (s : Service) (r : Request) : EStateM.Result (Stop Fault Int32) Serving Int32 :=
  (wlanHdiServiceOnRemoteRequest r).run ⟨s, r.data, [], []⟩

/-- The service after a request. One that went wrong stays as it was; what it is then nobody knows. -/
def Service.after (s : Service) (r : Request) : Service :=
  match s.serve r with
  | .ok _ st => st.service
  | .error (.returned _) st => st.service
  | .error (.wrong _) _ => s

example : InterFacesCmd.ofId 10 = some .destroyFeature ∧ InterFacesCmd.ofId 24 = some .startScan ∧
    InterFacesCmd.ofId 25 = none :=
  ⟨rfl, rfl, rfl⟩

end Peripheral.Wlan
