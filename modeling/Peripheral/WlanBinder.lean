import Peripheral.WlanGuards

/-!
Calls of the WLAN HAL through the proxy, `wlan_hal_c_proxy.c`, beside the same calls made on
the objects of the service. Proxy and service were written each for itself: types that they
write and read differ, codes of the HAL are replaced, and some arguments do not arrive.
-/
namespace Peripheral.Wlan
open RemoteCalls Hdf Faults Transitions

structure WlanFeatureInfo where
  ifName : String
  wlanType : Int32

/-- The calls with their arguments, and with what is in the variables that a call of the HAL may leave as they are. An address
    has its six bytes whatever length is passed beside it. -/
inductive WlanCall
  | createFeature (type : Int32)
  | destroyFeature (ifeature : WlanFeatureInfo)
  | getSupportFeature (supType : Vector UInt8 12)
  | getSupportCombo (combo : Vector UInt64 10)
  | getAsscociatedStas (ifeature : WlanFeatureInfo) (count : UInt32)
  | getFreqsWithBand (ifeature : WlanFeatureInfo) (band : Int32) (count : UInt32)
  | getIfNamesByChipId (chipId : UInt8) (names : IfNames)
  | getChipId (ifeature : WlanFeatureInfo) (chipId : UInt8)
  | getDeviceMacAddress (ifeature : WlanFeatureInfo) (mac : Mac) (len : UInt8)
  | setMacAddress (ifeature : WlanFeatureInfo) (mac : Mac) (len : UInt8)
  | setScanningMacAddress (ifeature : WlanFeatureInfo) (scanMac : Mac) (len : UInt8)
  | setCountryCode (ifeature : WlanFeatureInfo) (code : String) (len : UInt32)
  | setTxPower (ifeature : WlanFeatureInfo) (power : Int32)

@[reducible] def WlanCall.Out : WlanCall → Type
  | createFeature _ => String × Int32
  | getSupportFeature _ => List UInt8
  | getSupportCombo _ => List UInt64
  | getAsscociatedStas _ _ => List Mac
  | getFreqsWithBand _ _ _ => List Int32
  | getIfNamesByChipId _ _ => IfNames
  | getChipId _ _ => UInt8
  | getDeviceMacAddress _ _ _ => List UInt8
  | _ => Unit

/-- The code of a call, and what its variables hold after a success, if it fills them, or after an error, if that changed
    them. -/
abbrev Outcome (α : Type) := Int32 × Option α

section

variable {α : Type}

/-- A call of the HAL for variables that hold `before`. -/
def HalAnswer.outcome {β : Type} [DecidableEq β] (answer : HalAnswer β) (shown : β → α) (before : β) : Outcome α :=
  (answer.1, if answer.1 = HDF_SUCCESS ∨ answer.2 before ≠ before then some (shown (answer.2 before)) else none)

/-- A copy that fails may have cleared the array. -/
def Filled.outcome (zero : α) (filled : Filled α) : Outcome (List α) :=
  match filled.result with
  | .ok values => (HDF_SUCCESS, some values)
  | .error code => (code, if filled.written = 0 then none else some (.replicate filled.written zero))

/-- A reply that is read; what cannot be read is reported. -/
def receive (reader : Reader Value Int32 α) (reply : HdfSBuf) : Option (Outcome α) :=
  match reader.run reply with
  | .ok a _ => some (HDF_SUCCESS, some a)
  | .error code _ => some (code, none)

def copied (size : Nat) (reply : HdfSBuf) : Option (Outcome (List UInt8)) :=
  if size = 0 then some (HDF_SUCCESS, some [])
  else match (readUnpadBuffer size).run reply with
    | .ok bytes _ => some (HDF_SUCCESS, some bytes.toList)
    | .error _ _ => none

def unread (_ : HdfSBuf) : Option (Outcome Unit) := some (HDF_SUCCESS, none)

def answered (read : HdfSBuf → Option (Outcome α)) (code : Int32) (reply : HdfSBuf) : Option (Outcome α) :=
  if code ≠ HDF_SUCCESS then some (code, none) else read reply

variable (s : Service) (driver : Driver)

def sent (id : Int) (values : List Value) : Request := ⟨0, id, .interfaceToken "HDI.WLAN.V1_0" :: values, driver, 0⟩

/-- `WlanProxyCall` and what is around it. Nothing is said where the service goes wrong or the proxy does. -/
def wlanProxyCall (id : Int) (values : List Value) (read : HdfSBuf → Option (Outcome α)) : Option (Outcome α) :=
  match s.serve (sent driver id values) with
  | .ok ret st => answered read ret st.reply
  | .error (.returned code) st => answered read code st.reply
  | .error (.wrong _) _ => none

/-- The code is kept in a `bool`. A reply without a name leaves the feature as it was allocated. -/
def wlanCreateFeature (type : Int32) : Option (Outcome (String × Int32)) :=
  let ended := wlanProxyCall s driver 6 [.int32 type] fun reply =>
    match readString.run reply with
    | .error _ _ => some (HDF_SUCCESS, none)
    | .ok ifName rest => receive (do pure (ifName, ← readInt32 <|> pure 0)) rest
  ended.map fun (ec, out) => (if ec = 0 then 0 else 1, out)

def wlanDestroyFeature (ifeature : WlanFeatureInfo) : Option (Outcome Unit) :=
  wlanProxyCall s driver 10 [.string ifeature.ifName, .int32 ifeature.wlanType] unread

def wlanGetSupportFeature : Option (Outcome (List UInt8)) :=
  wlanProxyCall s driver 4 [] fun reply =>
    match readUint32.run reply with
    | .ok size rest => copied size.toNat rest
    | .error _ rest => copied 0 rest

/-- A word that cannot be read is only reported in the log. -/
def wlanGetSupportCombo : Option (Outcome (List UInt64)) :=
  wlanProxyCall s driver 5 [] fun reply =>
    match (many readUint64 ETH_ADDR_LEN).run reply with
    | .ok combo _ => some (HDF_SUCCESS, some combo.toList)
    | .error _ _ => some (HDF_SUCCESS, none)

/-- What is read for the stations is only a pointer to them. -/
def wlanGetAsscociatedStas (ifeature : WlanFeatureInfo) (_ : UInt32) : Option (Outcome (List Mac)) :=
  wlanProxyCall s driver 12 [.string ifeature.ifName] fun reply =>
    match (orReturn HDF_ERR_MALLOC_FAIL (readUint32 >>= fun _ => readBuffer)).run reply with
    | .ok _ _ => some (HDF_SUCCESS, none)
    | .error code _ => some (code, none)

def wlanGetFreqsWithBand (ifeature : WlanFeatureInfo) (band : Int32) (count : UInt32) : Option (Outcome (List Int32)) :=
  wlanProxyCall s driver 18 [.string ifeature.ifName, .int32 band, .int32 count.toInt32] (receive do
    let num ← orReturn HDF_FAILURE readUint32
    let freqs ← many (orReturn HDF_FAILURE readInt32) num.toNat
    pure freqs.toList)

/-- A reply without names is a success. -/
def wlanGetIfNamesByChipId (chipId : UInt8) : Option (Outcome IfNames) :=
  wlanProxyCall s driver 21 [.uint8 chipId] (receive do
    let num ← orReturn HDF_ERR_INVALID_PARAM readUint32
    let ifNames ← orReturn HDF_SUCCESS readString
    pure (num, some ifNames))

def wlanGetChipId (ifeature : WlanFeatureInfo) : Option (Outcome UInt8) :=
  wlanProxyCall s driver 20 [.string ifeature.ifName, .int32 ifeature.wlanType] (receive (orReturn HDF_ERR_MALLOC_FAIL readUint8))

def wlanGetDeviceMacAddress (ifeature : WlanFeatureInfo) (len : UInt8) : Option (Outcome (List UInt8)) :=
  wlanProxyCall s driver 17 [.string ifeature.ifName, .int32 ifeature.wlanType] (copied len.toNat)

def wlanSetMacAddress (ifeature : WlanFeatureInfo) (mac : Mac) (_ : UInt8) : Option (Outcome Unit) :=
  wlanProxyCall s driver 16 (.string ifeature.ifName :: mac.toList.map .uint8) unread

def wlanSetScanningMacAddress (ifeature : WlanFeatureInfo) (scanMac : Mac) (len : UInt8) : Option (Outcome Unit) :=
  wlanProxyCall s driver 22 (.string ifeature.ifName :: .uint8 len :: scanMac.toList.map .uint8) unread

def wlanSetCountryCode (ifeature : WlanFeatureInfo) (code : String) (_ : UInt32) : Option (Outcome Unit) :=
  wlanProxyCall s driver 13 [.string ifeature.ifName, .string code] unread

def wlanSetTxPower (ifeature : WlanFeatureInfo) (power : Int32) : Option (Outcome Unit) :=
  wlanProxyCall s driver 19 [.string ifeature.ifName, .int32 power] unread

def proxied : (call : WlanCall) → Option (Outcome call.Out)
  | .createFeature type => wlanCreateFeature s driver type
  | .destroyFeature ifeature => wlanDestroyFeature s driver ifeature
  | .getSupportFeature _ => wlanGetSupportFeature s driver
  | .getSupportCombo _ => wlanGetSupportCombo s driver
  | .getAsscociatedStas ifeature count => wlanGetAsscociatedStas s driver ifeature count
  | .getFreqsWithBand ifeature band count => wlanGetFreqsWithBand s driver ifeature band count
  | .getIfNamesByChipId chipId _ => wlanGetIfNamesByChipId s driver chipId
  | .getChipId ifeature _ => wlanGetChipId s driver ifeature
  | .getDeviceMacAddress ifeature _ len => wlanGetDeviceMacAddress s driver ifeature len
  | .setMacAddress ifeature mac len => wlanSetMacAddress s driver ifeature mac len
  | .setScanningMacAddress ifeature scanMac len => wlanSetScanningMacAddress s driver ifeature scanMac len
  | .setCountryCode ifeature code len => wlanSetCountryCode s driver ifeature code len
  | .setTxPower ifeature power => wlanSetTxPower s driver ifeature power

def direct (feature : IWiFiBaseFeature) : (call : WlanCall) → Outcome call.Out
  | .createFeature type =>
    let (ret, wifi) := s.wifi.createFeature type driver.malloc
    (ret, if ret = HDF_SUCCESS then (wifi.features.find? (·.id = s.wifi.made)).map fun made => (made.ifName,
      made.type) else none)
  | .destroyFeature _ => ((s.wifi.destroyFeature feature.id).1, none)
  | .getSupportFeature supType => (getSupportFeature driver s.wifi).outcome (·.toList) supType
  | .getSupportCombo combo => (getSupportCombo driver).outcome (·.toList) combo
  | .getAsscociatedStas _ count => (getAsscociatedStas driver feature count).outcome (.replicate _ 0)
  | .getFreqsWithBand _ band count => (getValidFreqsWithBand driver feature band count).outcome 0
  | .getIfNamesByChipId chipId names =>
    match getIfNamesByChipId driver chipId with
    | .error (code, change) => (code, if change names = names then none else some (change names))
    | .ok (num, ifNames) => (HDF_SUCCESS, some (num, some ifNames))
  | .getChipId _ chipId => (getChipId driver feature).outcome id chipId
  | .getDeviceMacAddress _ mac len => (getDeviceMacAddress driver feature len).outcome (·.toList) mac
  | .setMacAddress _ mac len => (setMacAddress driver feature mac len, none)
  | .setScanningMacAddress _ scanMac len => (setScanningMacAddress driver feature scanMac len, none)
  | .setCountryCode _ code len => (setCountryCode driver feature code len, none)
  | .setTxPower _ power => (setTxPower driver feature power, none)

def Transparent (feature : IWiFiBaseFeature) (call : WlanCall) :
    Prop := proxied s driver call = some (direct s driver feature call)

end

namespace Service

variable (s : Service)

def Has (kind : Kind) (feature : IWiFiBaseFeature) : Prop := ∃ id, s.pointer kind = some id ∧ s.feature id = some feature

def StandsFor (ifeature : WlanFeatureInfo) (kind : Kind) (feature : IWiFiBaseFeature) : Prop :=
  s.Has kind feature ∧ feature.ifName = ifeature.ifName ∧ feature.type = ifeature.wlanType ∧ ifeature.wlanType = kind.type

/-- The same call can be made on the objects of the service: two are functions of an AP, and one is a function of a station. -/
def Meets (feature : IWiFiBaseFeature) : WlanCall → Prop
  | .createFeature _ | .getSupportFeature _ | .getSupportCombo _ => s.g_wifi
  | .getIfNamesByChipId _ _ => s.g_wifi ∧ s.Has .sta feature
  | .getAsscociatedStas ifeature _ | .setCountryCode ifeature _ _ => s.g_wifi ∧ s.StandsFor ifeature .ap feature
  | .setScanningMacAddress ifeature _ _ => s.g_wifi ∧ s.StandsFor ifeature .sta feature
  | .destroyFeature ifeature | .getFreqsWithBand ifeature _ _ | .getChipId ifeature _ | .getDeviceMacAddress ifeature _ _
  | .setMacAddress ifeature _ _ | .setTxPower ifeature _ => s.g_wifi ∧ ∃ kind, s.StandsFor ifeature kind feature

/-- What comes back of a code when the AP is used for any feature: that is the code, or a failure where there is no AP. -/
def Passes (ret : Int32) : Prop :=
  match s.g_apFeature with
  | none => ret = HDF_FAILURE
  | some _ => s.destroyed .ap = false ∧ (ret = HDF_SUCCESS ∨ ret = HDF_FAILURE)

/-- The driver fails with a failure and leaves the variables, or does the same to them as to the service's, which are zero. -/
def Alike {α : Type} (answer : HalAnswer α) (zero before : α) : Prop :=
  if answer.1 = HDF_SUCCESS then answer.2 before = answer.2 zero else answer.1 = HDF_FAILURE ∧ answer.2 before = before

def Faithful (driver : Driver) : WlanCall → Prop
  | .createFeature _ => False
  | .destroyFeature _ => True
  | .getSupportFeature supType =>
    match driver.isSupportCombo with
    | .error code => code = .failure ∧ ∀ mode : Fin 11, s.wifi.supports mode → supType.get mode.castSucc = 1
    | .ok _ => ∀ mode : Fin 11, ¬ s.wifi.supports mode → supType.get mode.castSucc = 0
  | .getSupportCombo combo => driver.getComboInfo.1 ≠ HDF_SUCCESS ∧ driver.getComboInfo.2 combo = combo
  | .getAsscociatedStas ifeature count => count ≠ 0 ∧ driver.getAssociatedStas ifeature.ifName = .error .failure
  | .getFreqsWithBand ifeature band count => count < MAX_CHANNEL_NUM ∨
    driver.calloc ∧ driver.getValidFreqByBand ifeature.ifName band count = .error .invalidParam
  | .getIfNamesByChipId chipId names =>
    ∃ change, driver.getIfNamesByChipId chipId = .error (.failure, change) ∧ change names = names
  | .getChipId ifeature chipId => Alike (driver.acquireChipId ifeature.ifName) 0 chipId
  | .getDeviceMacAddress ifeature mac len =>
    len = 6 ∧ Alike (driver.getDevMacAddr ifeature.ifName ifeature.wlanType) (.replicate _ 0) mac
  | .setMacAddress ifeature mac len => len = 6 ∧ s.Passes (driver.setMacAddr ifeature.ifName mac)
  | .setScanningMacAddress _ _ _ => True
  | .setCountryCode ifeature code len => len.toNat = code.utf8ByteSize ∧ s.Passes (driver.wifiSetCountryCode ifeature.ifName code)
  | .setTxPower ifeature power => 0 < power ∧ s.Passes (driver.setTxPower ifeature.ifName power)

end Service

section

theorem delivers_checkInterfaceDesc : Delivers [.interfaceToken "HDI.WLAN.V1_0"] checkInterfaceDesc () :=
  (delivers_token _).adaptExcept

variable {α : Type} {code : Int32} {asked : Value → Option α} {value : Value} {a : α}

theorem delivers_orReturn (given : asked value = some a) : Delivers [value] (orReturn code (take asked)) a :=
  (delivers_take given).adaptExcept

variable {name : String}

theorem delivers_readName : Delivers [.interfaceToken "HDI.WLAN.V1_0", .string name] readName name :=
  .value delivers_checkInterfaceDesc (delivers_orReturn rfl)

theorem delivers_readNameAndNumber {number : Int32} :
    Delivers [.interfaceToken "HDI.WLAN.V1_0", .string name, .int32 number] readNameAndNumber (name, number) :=
  .block delivers_readName (.last (delivers_orReturn rfl))

theorem delivers_readDestoryFeature {wlanType : Int32} :
    Delivers [.interfaceToken "HDI.WLAN.V1_0", .string name, .int32 wlanType] readDestoryFeature (name, wlanType) :=
  .value delivers_checkInterfaceDesc (.value (delivers_orReturn rfl) (.last (delivers_orReturn rfl)))

theorem delivers_readCountryCode {name code : String} :
    Delivers [.interfaceToken "HDI.WLAN.V1_0", .string name, .string code] readCountryCode (name, code) :=
  .block delivers_readName (.last (delivers_orReturn rfl))

theorem delivers_readChip {chipId : UInt8} : Delivers [.interfaceToken "HDI.WLAN.V1_0", .uint8 chipId] readChip chipId :=
  .value delivers_checkInterfaceDesc (delivers_orReturn rfl)

theorem delivers_mac {mac : Mac} : Delivers (mac.toList.map .uint8) (many (orReturn code readUint8) ETH_ADDR_LEN) mac := by
  have each (byte : UInt8) : Delivers [.uint8 byte] (orReturn code readUint8) byte := delivers_orReturn rfl
  rw [List.map_eq_flatMap]
  exact .many each mac

theorem delivers_readSetMacAddr {mac : Mac} :
    Delivers (.interfaceToken "HDI.WLAN.V1_0" :: .string name :: mac.toList.map .uint8) readSetMacAddr (name, mac) :=
  .block delivers_readName (.last delivers_mac)

theorem delivers_readScanMacAddr {length : UInt8} {scanMac : Mac} :
    Delivers (.interfaceToken "HDI.WLAN.V1_0" :: .string name :: .uint8 length :: scanMac.toList.map .uint8) readScanMacAddr
      (name, length, scanMac) :=
  .block delivers_readName (.value (delivers_orReturn rfl) (.last delivers_mac))

end

section

variable {α : Type} {s : Service} {driver : Driver} {st : Serving} {read : HdfSBuf → Option (Outcome α)} {outcome : Outcome α}

def arrives (read : HdfSBuf → Option (Outcome α)) (outcome : Outcome α) : Ends Fault Int32 Serving Int32 :=
  ⟨fun _ _ => False, fun code st => answered read code st.reply = some outcome, fun code st => answered read code st.reply = some outcome⟩

@[simp] theorem arrives_wrong {fault : Fault} : (arrives read outcome).wrong fault st ↔ False := Iff.rfl

@[simp] theorem arrives_early {code : Int32} : (arrives read outcome).early code st ↔ answered read code st.reply = some outcome := Iff.rfl

@[simp] theorem arrives_last {code : Int32} : (arrives read outcome).last code st ↔ answered read code st.reply = some outcome := Iff.rfl

@[simp] theorem sent_driver {id : Int} {values : List Value} : (sent driver id values).driver = driver := rfl

theorem wlanProxyCall_iff {id : Int} {values : List Value} : wlanProxyCall s driver id values read = some outcome ↔
    Needs (wlanHdiServiceOnRemoteRequest (sent driver id values)) (arrives read outcome)
      ⟨s, .interfaceToken "HDI.WLAN.V1_0" :: values, [], []⟩ := by
  rw [wlanProxyCall, Needs, Service.serve, sent]
  cases EStateM.run _ _ with
  | ok ret st => exact Iff.rfl
  | error stop st => cases stop <;> simp [Ends.Hold]

variable {reply : HdfSBuf}

theorem needs_delivered {β : Type} {values : HdfSBuf} {reader : Reader Value Int32 β} {b : β} {rest : β → Handle α}
    {renamed : List (String × String)} {ends : Ends Fault Int32 Serving α} (delivers : Delivers values reader b) :
    Needs (arguments reader >>= rest) ends ⟨s, values, reply, renamed⟩ ↔ Needs (rest b) ends ⟨s, [], reply, renamed⟩ := by
  have reads := delivers []
  rw [List.append_nil] at reads
  rw [needs_bind, needs_arguments, reads, before_last]

theorem answered_failure : answered read HDF_FAILURE st.reply = some outcome ↔ outcome = (HDF_FAILURE, none) := by
  rw [answered, if_pos failure_ne, Option.some.injEq, eq_comm]

@[simp] theorem answered_success : answered read HDF_SUCCESS reply = read reply := if_neg (by simp)

theorem answered_error {code : Int32} (error : code ≠ HDF_SUCCESS) : answered read code reply = some (code, none) :=
  if_pos error

theorem destroyFeature_fst {wifi : IWiFi} {id : Nat} {feature : IWiFiBaseFeature}
    (found : wifi.features.find? (·.id = id) = some feature) : (wifi.destroyFeature id).1 =
      if (atFirst (·.named feature.ifName) wifi.nodes).isSome then HDF_SUCCESS else HDF_FAILURE := by
  simp only [IWiFi.destroyFeature, found]
  cases atFirst (·.named feature.ifName) wifi.nodes <;> rfl

theorem find_update {feature : IWiFiBaseFeature} (found : s.feature feature.id = some feature) :
    (s.update feature.id fun other => { other with ifName := feature.ifName }).feature feature.id = some feature := by
  let change (other : IWiFiBaseFeature) : IWiFiBaseFeature :=
    if other.id = feature.id then { other with ifName := feature.ifName } else other
  have ids (other : IWiFiBaseFeature) : (change other).id = other.id := by
    simp only [change]
    split <;> rfl
  have kept : ((fun other => decide (other.id = feature.id)) ∘ change) = fun other => decide (other.id = feature.id) := by
    funext other
    simp only [Function.comp, ids]
  have first : (s.wifi.features.map change).find? (·.id = feature.id) = some feature := by
    rw [Service.feature] at found
    rw [List.find?_map, kept, found, Option.map_some]
    simp [change]
  exact first

theorem answered_unread {code : Int32} : answered unread code reply = some (code, none) := by
  by_cases ok : code = HDF_SUCCESS
  · rw [ok, answered_success, unread]
  · exact answered_error ok

/-- A name that is copied over itself: the handler goes on with the feature. -/
theorem needs_stands {kind : Kind} {feature : IWiFiBaseFeature} {rest : IWiFiBaseFeature → Handle α} {data reply : HdfSBuf}
    {renamed : List (String × String)} {ends : Ends Fault Int32 Serving α} (good : s.Good) (has : s.Has kind feature) :
    Needs (named kind feature.ifName >>= rest) ends ⟨s, data, reply, renamed⟩ ↔
      Needs (rest feature) ends ⟨s.update feature.id fun other => { other with ifName := feature.ifName }, data, reply,
        renamed ++ [(feature.ifName, feature.ifName)]⟩ := by
  obtain ⟨id, points, found⟩ := has
  obtain ⟨there, rfl⟩ := Service.feature_some found
  have short := good.features feature there
  rw [needs_bind, needs_named, points]
  simp only [found]
  rw [if_neg (by omega), before_last]

theorem arrives_code {ret : Int32} {outcome : Outcome Unit} : Needs (success ret) (arrives unread outcome) st ↔
    outcome = (if ret = HDF_SUCCESS then HDF_SUCCESS else HDF_FAILURE, none) := by
  rw [needs_success]
  split
  · next ok => rw [arrives_last, ok, answered_success, unread, Option.some.injEq, eq_comm]
  · rw [arrives_early, answered_failure]

theorem receive_delivered {values : HdfSBuf} {reader : Reader Value Int32 α} {a : α} (delivers : Delivers values reader a) :
    receive reader values = some (HDF_SUCCESS, some a) := by
  have reads := delivers []
  rw [List.append_nil] at reads
  rw [receive, reads]

theorem arrives_obtain {β : Type} [DecidableEq β] {answer : HalAnswer β} {zero before : β} {shown : β → α}
    {rest : β → Handle Int32} (hal : outcome = answer.outcome shown before)
    (each : ∀ b, Needs (rest b) (arrives read (HDF_SUCCESS, some (shown (answer.2 before)))) st ↔ answer.2 before = b) :
    Needs (obtain (answer.given zero) >>= rest) (arrives read outcome) st ↔ Service.Alike answer zero before := by
  rw [needs_bind, needs_obtain, hal, Service.Alike, HalAnswer.given, HalAnswer.outcome]
  by_cases ok : answer.1 = HDF_SUCCESS
  · simp only [ok, ne_eq, not_true, dite_false, if_true, true_or]
    exact each _
  · simp only [ok, ne_eq, not_false_eq_true, dite_true, if_false, false_or]
    rw [before_early, arrives_early, answered_failure, Prod.mk.injEq]
    by_cases same : answer.2 before = before <;> simp [same]

theorem arrives_passed {name : String} {ret code : Int32} {set : IWiFiBaseFeature → Int32} (good : st.service.Good)
    (short : name.utf8ByteSize < IFNAME_MAX_LEN) (sets : ∀ feature, feature.ifName = name → set feature = ret) :
    Needs (named .ap name >>= fun feature => success (set feature)) (arrives unread (code, none)) st ↔
      match st.service.g_apFeature with
      | none => code = HDF_FAILURE
      | some _ => st.service.destroyed .ap = false ∧ code = if ret = HDF_SUCCESS then HDF_SUCCESS else HDF_FAILURE := by
  rw [needs_bind, needs_named, Service.pointer]
  cases points : st.service.g_apFeature with
  | none =>
    dsimp only
    rw [before_early, arrives_early, answered_failure]
    simp
  | some id =>
    have there := good.there .ap id points
    cases found : st.service.feature id with
    | none => simp [found, ← there]
    | some feature =>
      simp only [found]
      rw [if_neg (by omega), before_last, arrives_code, sets _ rfl]
      simp [← there, found]

theorem passed_iff {ret : Int32} : (match s.g_apFeature with
      | none => ret = HDF_FAILURE
      | some _ => s.destroyed .ap = false ∧
        ret = if ret = HDF_SUCCESS then HDF_SUCCESS else HDF_FAILURE) ↔ s.Passes ret := by
  rw [Service.Passes]
  cases s.g_apFeature with
  | none => exact Iff.rfl
  | some id =>
    refine and_congr_right fun _ => ?_
    by_cases ok : ret = HDF_SUCCESS <;> simp [ok]

/-- The HAL found its arguments invalid, which the service never reports for an AP. -/
theorem not_passed {ret : Int32} : ¬ match s.g_apFeature with
      | none => HDF_ERR_INVALID_PARAM = HDF_FAILURE
      | some _ => s.destroyed .ap = false ∧
        HDF_ERR_INVALID_PARAM = if ret = HDF_SUCCESS then HDF_SUCCESS else HDF_FAILURE := by
  cases s.g_apFeature with
  | none => simp [HDF_ERR_INVALID_PARAM, HDF_FAILURE]
  | some id =>
    rintro ⟨-, same⟩
    split at same <;> revert same <;> decide

end

section

variable {s : Service} {driver : Driver} {feature : IWiFiBaseFeature}

theorem known_of_type {wlanType : Int32} {kind : Kind} (type : wlanType = kind.type) : Kind.of wlanType = some kind := by
  cases kind <;> simp [Kind.of, type, Kind.type]

theorem copied_unpadBuffer {size : Nat} {bytes expected : Vector UInt8 size} :
    copied size [.unpadBuffer bytes.toList] = some (HDF_SUCCESS, some expected.toList) ↔ expected = bytes := by
  have reads := delivers_unpadBuffer bytes []
  rw [List.append_nil] at reads
  have gives : copied size [.unpadBuffer bytes.toList] = some (HDF_SUCCESS, some bytes.toList) := by
    rw [copied, reads]
    split
    · next none => subst none; simp
    · rfl
  rw [gives]
  simp [Vector.toList_inj, eq_comm]

theorem copied_success {size : Nat} {reply : HdfSBuf} {outcome : Outcome (List UInt8)}
    (gives : copied size reply = some outcome) : outcome.1 = HDF_SUCCESS := by
  rw [copied] at gives
  split at gives
  · rw [← Option.some.inj gives]
  · split at gives
    · rw [← Option.some.inj gives]
    · cases gives

/-- The type is sent as a word and read as a byte. -/
theorem transparent_createFeature {type : Int32} : ¬ Transparent s driver feature (.createFeature type) := by
  have refused (read : HdfSBuf → Option (Outcome (String × Int32))) :
      wlanProxyCall s driver 6 [.int32 type] read = some (HDF_ERR_INVALID_PARAM, none) := by
    refine wlanProxyCall_iff.mpr ?_
    change Needs (arguments readCreateFeature >>= _) _ _
    have fails : readCreateFeature.run [.interfaceToken "HDI.WLAN.V1_0",
      .int32 type] = .error HDF_ERR_INVALID_PARAM [.int32 type] := rfl
    rw [needs_bind, needs_arguments, fails]
    exact answered_error invalidParam_ne
  intro same
  rw [Transparent, proxied, wlanCreateFeature] at same
  simp only [refused, Option.map_some, Option.some.injEq] at same
  have code : (1 : Int32) = (s.wifi.createFeature type driver.malloc).1 := congrArg Prod.fst same
  rcases s.wifi.createFeature_cases type driver.malloc with ⟨_, _, _, _, -, -, -, gives⟩ | ⟨fails, -⟩
  · rw [gives] at code
    exact absurd (show (1 : Int32) = HDF_SUCCESS from code) (by decide)
  · rw [fails] at code
    exact absurd (show (1 : Int32) = HDF_FAILURE from code) (by decide)

variable {ifeature : WlanFeatureInfo}

theorem transparent_destroyFeature {kind : Kind} (good : s.Good) (wifi : s.g_wifi)
    (stands : s.StandsFor ifeature kind feature) : Transparent s driver feature (.destroyFeature ifeature) := by
  obtain ⟨has, same, -, type⟩ := stands
  have destroys {t : Service} {ret : Int32} {renamed : List (String × String)} (wifi : t.g_wifi)
      (same : (t.wifi.destroyFeature feature.id).1 = ret) (code : ret = HDF_SUCCESS ∨ ret = HDF_FAILURE) :
      Needs (do
        let ret ← operate (.destroyFeature feature.id)
        let ret ← success ret
        onService fun s => s.setDestroyed kind true
        pure ret) (arrives unread (ret, none)) ⟨t, [], [], renamed⟩ := by
    rw [needs_bind, needs_operate, if_pos wifi, before_last, needs_bind, needs_success, IWiFi.perform, same]
    rcases code with rfl | rfl
    · rw [if_pos rfl, before_last, needs_bind, needs_onService, before_last, needs_pure, arrives_last, answered_success, unread]
    · rw [if_neg failure_ne, before_early, arrives_early, answered_failure]
  obtain ⟨id, points, found⟩ := id has
  obtain ⟨-, rfl⟩ := Service.feature_some found
  refine wlanProxyCall_iff.mpr ((needs_delivered delivers_readDestoryFeature).mpr ?_)
  simp only [wlanServiceStubDestoryFeature, known_of_type type, ← same]
  rw [needs_stands good has]
  have code := destroyFeature_fst found
  refine destroys wifi ((destroyFeature_fst (find_update found)).trans code.symm) ?_
  rw [code]
  split
  · exact .inl rfl
  · exact .inr rfl

section
variable {wifi : IWiFi} {supType : Vector UInt8 12} {i : Nat}

theorem getSupportTypeByList_mode (mode : i < 11) (inside : i < 12) :
    (getSupportTypeByList wifi supType)[i] = if wifi.supports ⟨i, mode⟩ then 1 else supType[i] := by
  simp [getSupportTypeByList, mode]

theorem getSupportTypeByList_last (last : ¬ i < 11) (inside : i < 12) : (getSupportTypeByList wifi supType)[i] = supType[i] := by
  simp [getSupportTypeByList, last]

theorem getSupportTypeByList_alike {v : UInt8} {size : 11 < 12} :
    (getSupportTypeByList wifi supType).set 11 v size = (getSupportTypeByList wifi (.replicate 12 0)).set 11 v size ↔
      ∀ mode : Fin 11, ¬ wifi.supports mode → supType.get mode.castSucc = 0 := by
  constructor
  · rintro same ⟨i, mode⟩ none
    have inside : i < 12 := by omega
    have here := congrArg (fun l => l[i]) same
    simp only [Vector.getElem_set, show ¬11 = i by omega, if_false, getSupportTypeByList_mode mode inside, none,
      Vector.getElem_replicate, Bool.false_eq_true] at here
    exact here
  · intro zero
    refine Vector.ext fun i inside => ?_
    by_cases last : 11 = i
    · simp [last]
    · have mode : i < 11 := by omega
      simp only [Vector.getElem_set, last, if_false, getSupportTypeByList_mode mode inside, Vector.getElem_replicate]
      split
      · rfl
      · next none => exact zero ⟨i, mode⟩ none

theorem getSupportTypeByList_self : getSupportTypeByList wifi supType = supType ↔
    ∀ mode : Fin 11, wifi.supports mode → supType.get mode.castSucc = 1 := by
  constructor
  · rintro same ⟨i, mode⟩ there
    have inside : i < 12 := by omega
    have here : (getSupportTypeByList wifi supType)[i] = _ := getSupportTypeByList_mode mode inside
    rw [if_pos there] at here
    simp only [same] at here
    exact here
  · intro one
    refine Vector.ext fun i inside => ?_
    by_cases mode : i < 11
    · rw [getSupportTypeByList_mode mode inside]
      split
      · next there => exact (one ⟨i, mode⟩ there).symm
      · rfl
    · exact getSupportTypeByList_last mode inside

end

theorem transparent_getSupportFeature {supType : Vector UInt8 12} (wifi : s.g_wifi) :
    Transparent s driver feature (.getSupportFeature supType) ↔ s.Faithful driver (.getSupportFeature supType) := by
  refine wlanProxyCall_iff.trans ((needs_delivered delivers_checkInterfaceDesc).trans ?_)
  rw [wlanServiceStubGetSupportFeature, needs_bind, needs_useWifi, if_pos wifi, before_last, needs_bind, needs_get, before_last]
  refine (arrives_obtain rfl fun support => ?_).trans ?_
  · rw [needs_bind, needs_write, before_last, needs_bind, needs_write, before_last, needs_pure, arrives_last, answered_success]
    exact copied_unpadBuffer
  · rw [Service.Faithful, getSupportFeature, sent_driver, Service.Alike]
    cases driver.isSupportCombo with
    | error code => simp [code.2, getSupportTypeByList_self, Code.failure, Subtype.ext_iff]
    | ok v => simp only [if_true, getSupportTypeByList_alike]

theorem transparent_getSupportCombo {combo : Vector UInt64 10} (wifi : s.g_wifi) :
    Transparent s driver feature (.getSupportCombo combo) ↔ s.Faithful driver (.getSupportCombo combo) := by
  refine wlanProxyCall_iff.trans ((needs_delivered delivers_checkInterfaceDesc).trans ?_)
  rw [wlanServiceStubGetSupportCombo, needs_bind, needs_useWifi, if_pos wifi, before_last, sent_driver, Service.Faithful, direct,
    getSupportCombo, HalAnswer.outcome]
  by_cases ok : driver.getComboInfo.1 = HDF_SUCCESS
  · rw [HalAnswer.given, dif_neg (not_not.mpr ok)]
    simp only [ok, ne_eq, not_true, false_and, iff_false]
    rw [needs_bind, needs_modify, before_last, needs_pure, arrives_last, answered_error (by decide)]
    simp [HDF_SUCCESS]
  · rw [HalAnswer.given, dif_pos ok]
    simp only [ok, ne_eq, not_false_eq_true, true_and, false_or]
    rw [needs_fail, arrives_early, answered_error ok]
    by_cases same : driver.getComboInfo.2 combo = combo <;> simp [same]

theorem transparent_getIfNamesByChipId {chipId : UInt8} {names : IfNames} (has : s.Has .sta feature) :
    Transparent s driver feature (.getIfNamesByChipId chipId names) ↔ s.Faithful driver (.getIfNamesByChipId chipId names) := by
  obtain ⟨id, points, found⟩ := has
  refine wlanProxyCall_iff.trans ((needs_delivered delivers_readChip).trans ?_)
  rw [wlanServiceStubGetNameByChipId, needs_bind, needs_pointed, points]
  simp only [Option.bind_some, found, before_last, Service.Faithful, direct, getIfNamesByChipId, sent_driver]
  rw [needs_bind, needs_obtain]
  cases driver.getIfNamesByChipId chipId with
  | error refused =>
    obtain ⟨code, change⟩ := refused
    dsimp only
    rw [before_early, arrives_early, answered_failure, Prod.mk.injEq]
    by_cases same : change names = names <;> simp [same, Code.failure, Subtype.ext_iff]
  | ok found =>
    simp only [reduceCtorEq, false_and, exists_false, iff_false]
    rw [before_last, needs_bind, needs_write, before_last, needs_bind, needs_write, before_last, needs_pure, arrives_last,
      answered_success]
    have refused : receive (orReturn HDF_ERR_INVALID_PARAM readUint32 >>= fun num => orReturn HDF_SUCCESS readString >>= fun ifNames =>
        pure (num, some ifNames)) [.uint8 found.1.toUInt8, .string found.2] = some (HDF_ERR_INVALID_PARAM, none) := rfl
    intro same
    rw [List.nil_append] at same
    have same := refused.symm.trans same
    simp at same

section
variable (good : s.Good)
include good

theorem transparent_getChipId {kind : Kind} {chipId : UInt8} (stands : s.StandsFor ifeature kind feature) :
    Transparent s driver feature (.getChipId ifeature chipId) ↔ s.Faithful driver (.getChipId ifeature chipId) := by
  obtain ⟨has, same, -, type⟩ := stands
  refine wlanProxyCall_iff.trans ((needs_delivered delivers_readNameAndNumber).trans ?_)
  simp only [wlanServiceStubGetChipId, known_of_type type, ← same, Service.Faithful]
  rw [needs_stands good has]
  refine arrives_obtain rfl fun given => ?_
  rw [needs_bind, needs_write, before_last, needs_pure, arrives_last, answered_success]
  change receive (orReturn HDF_ERR_MALLOC_FAIL readUint8) [.uint8 given] =
    some (HDF_SUCCESS, some ((driver.acquireChipId feature.ifName).2 chipId)) ↔ _
  have read : receive (orReturn HDF_ERR_MALLOC_FAIL readUint8) [.uint8 given] = some (HDF_SUCCESS, some given) :=
    receive_delivered (delivers_orReturn rfl)
  rw [read]
  exact ⟨fun same => by cases same; rfl, fun same => by rw [← same]; rfl⟩

theorem transparent_getDeviceMacAddress {kind : Kind} {mac : Mac} {len : UInt8}
    (stands : s.StandsFor ifeature kind feature) : Transparent s driver feature (.getDeviceMacAddress ifeature mac len) ↔
      s.Faithful driver (.getDeviceMacAddress ifeature mac len) := by
  obtain ⟨has, same, sort, type⟩ := stands
  refine wlanProxyCall_iff.trans ((needs_delivered delivers_readNameAndNumber).trans ?_)
  simp only [wlanServiceGetMacAddr, known_of_type type, ← same, Service.Faithful]
  rw [needs_stands good has, ← sort]
  by_cases six : len = 6
  · subst six
    simp only [true_and]
    refine arrives_obtain rfl fun given => ?_
    rw [needs_bind, needs_write, before_last, needs_pure, arrives_last, answered_success]
    exact copied_unpadBuffer
  · have refused : (getDeviceMacAddress driver feature len).outcome (fun mac : Mac => mac.toList) mac =
        (HDF_ERR_INVALID_PARAM, none) := by
      simp [getDeviceMacAddress, six, HalAnswer.outcome, invalidParam_ne]
    simp only [six, false_and, iff_false, direct, refused]
    rw [needs_bind, needs_obtain]
    split
    · rw [before_early, arrives_early, answered_failure]
      intro same
      exact absurd (show HDF_ERR_INVALID_PARAM = HDF_FAILURE from congrArg Prod.fst same) (by decide)
    · rw [before_last, needs_bind, needs_write, before_last, needs_pure, arrives_last, answered_success]
      intro same
      exact invalidParam_ne (copied_success same)

/-- Whatever the length is that is passed beside an address, six bytes are sent. -/
theorem transparent_setMacAddress {kind : Kind} {mac : Mac} {len : UInt8}
    (stands : s.StandsFor ifeature kind feature) : Transparent s driver feature (.setMacAddress ifeature mac len) ↔
      s.Faithful driver (.setMacAddress ifeature mac len) := by
  obtain ⟨⟨id, -, found⟩, same, -, -⟩ := stands
  have short := same ▸ good.features feature (Service.feature_some found).1
  have sets (other : IWiFiBaseFeature) (named : other.ifName = ifeature.ifName) :
      setMacAddress driver other mac 6 = driver.setMacAddr ifeature.ifName mac := by
    rw [setMacAddress, if_neg (by decide), named]
  refine wlanProxyCall_iff.trans ((needs_delivered delivers_readSetMacAddr).trans ((arrives_passed good short sets).trans ?_))
  rw [setMacAddress, same, Service.Faithful]
  by_cases six : len = 6
  · rw [if_neg (by simp [six]), and_iff_right six]
    exact passed_iff
  · rw [if_pos six]
    exact iff_of_false not_passed fun h => six h.1

theorem transparent_setTxPower {kind : Kind} {power : Int32}
    (stands : s.StandsFor ifeature kind feature) : Transparent s driver feature (.setTxPower ifeature power) ↔
      s.Faithful driver (.setTxPower ifeature power) := by
  obtain ⟨⟨id, -, found⟩, same, -, -⟩ := stands
  have short := same ▸ good.features feature (Service.feature_some found).1
  have sets (other : IWiFiBaseFeature) (named : other.ifName = ifeature.ifName) :
      setTxPower driver other power = setTxPower driver feature power := by
    rw [setTxPower, setTxPower, named, same]
  refine wlanProxyCall_iff.trans ((needs_delivered delivers_readNameAndNumber).trans ((arrives_passed good short sets).trans ?_))
  rw [setTxPower, same, Service.Faithful]
  by_cases positive : 0 < power
  · rw [if_neg (Int32.not_le.mpr positive), and_iff_right positive]
    exact passed_iff
  · rw [if_pos (Int32.not_lt.mp positive)]
    exact iff_of_false not_passed fun h => positive h.1

theorem transparent_setCountryCode {code : String} {len : UInt32}
    (stands : s.StandsFor ifeature .ap feature) : Transparent s driver feature (.setCountryCode ifeature code len) ↔
      s.Faithful driver (.setCountryCode ifeature code len) := by
  obtain ⟨⟨id, -, found⟩, same, -, -⟩ := stands
  have short := same ▸ good.features feature (Service.feature_some found).1
  have sets (other : IWiFiBaseFeature) (named : other.ifName = ifeature.ifName) :
      setCountryCode driver other code (.ofNat code.utf8ByteSize) = setCountryCode driver feature code (.ofNat code.utf8ByteSize) := by
    rw [setCountryCode, setCountryCode, named, same]
  refine wlanProxyCall_iff.trans ((needs_delivered delivers_readCountryCode).trans ((arrives_passed good short sets).trans ?_))
  rw [setCountryCode, setCountryCode, same, Service.Faithful]
  by_cases whole : len.toNat = code.utf8ByteSize
  · have whole' : (UInt32.ofNat code.utf8ByteSize).toNat = code.utf8ByteSize := by rw [← whole, UInt32.ofNat_toNat]
    rw [if_neg (not_not.mpr whole), if_neg (not_not.mpr whole'), and_iff_right whole]
    exact passed_iff
  · rw [if_pos whole]
    exact iff_of_false not_passed fun h => whole h.1

theorem transparent_setScanningMacAddress {scanMac : Mac} {len : UInt8} (stands : s.StandsFor ifeature .sta feature) :
    Transparent s driver feature (.setScanningMacAddress ifeature scanMac len) := by
  obtain ⟨has, same, -, -⟩ := stands
  refine wlanProxyCall_iff.mpr ((needs_delivered delivers_readScanMacAddr).mpr ?_)
  simp only [wlanServiceStubSetScanMacAddr, ← same]
  rw [needs_stands good has, needs_pure, arrives_last]
  exact answered_unread

end

theorem transparent_getFreqsWithBand {band : Int32} {count : UInt32} (same : feature.ifName = ifeature.ifName) :
    Transparent s driver feature (.getFreqsWithBand ifeature band count) ↔
      s.Faithful driver (.getFreqsWithBand ifeature band count) := by
  have refused (read : HdfSBuf → Option (Outcome (List Int32))) :
      wlanProxyCall s driver 18 [.string ifeature.ifName, .int32 band, .int32 count.toInt32] read =
        some (HDF_ERR_INVALID_PARAM, none) := by
    refine wlanProxyCall_iff.mpr ?_
    change Needs (arguments readFreqWithband >>= _) _ _
    have fails : readFreqWithband.run
        [.interfaceToken "HDI.WLAN.V1_0", .string ifeature.ifName, .int32 band, .int32 count.toInt32] =
          .error HDF_ERR_INVALID_PARAM [.int32 count.toInt32] := rfl
    rw [needs_bind, needs_arguments, fails]
    exact answered_error invalidParam_ne
  rw [Transparent, proxied, wlanGetFreqsWithBand, refused, direct, getValidFreqsWithBand, Service.Faithful, same]
  by_cases small : count < MAX_CHANNEL_NUM
  · simp [small, Filled.outcome, Code.invalidParam]
  · simp only [small, if_false, false_or]
    cases driver.calloc with
    | false => simp [Filled.outcome, Code.failure, HDF_FAILURE, HDF_ERR_INVALID_PARAM]
    | true =>
      cases driver.getValidFreqByBand ifeature.ifName band count with
      | error code => simp [Filled.outcome, Code.invalidParam, Subtype.ext_iff, eq_comm]
      | ok freqs =>
        simp only [Bool.not_true, Bool.false_eq_true, if_false, reduceCtorEq, and_false, iff_false, Option.some.injEq]
        split <;> simp [Filled.outcome, Code.failure, HDF_FAILURE, HDF_ERR_INVALID_PARAM, HDF_SUCCESS]

/-- What is found is written into the request, and the reply ends with the number. -/
theorem transparent_getAsscociatedStas {count : UInt32} (good : s.Good)
    (stands : s.StandsFor ifeature .ap feature) : Transparent s driver feature (.getAsscociatedStas ifeature count) ↔
      s.Faithful driver (.getAsscociatedStas ifeature count) := by
  obtain ⟨has, same, -, -⟩ := stands
  refine wlanProxyCall_iff.trans ((needs_delivered delivers_readName).trans ?_)
  simp only [wlanServiceStubGetAsscociateSta, ← same, Service.Faithful, sent_driver]
  have room : ¬ sizeofStaInfo = 0 := by decide
  rw [needs_stands good has, needs_bind, fill, needs_ite, getAsscociatedStas, if_neg room]
  simp only [direct, getAsscociatedStas]
  cases driver.getAssociatedStas feature.ifName with
  | error code =>
    rw [if_neg (Nat.not_lt_zero _), needs_obtain]
    dsimp only
    rw [before_early, arrives_early, answered_failure]
    by_cases none : count = 0
    · simp [none, Filled.outcome, Code.invalidParam, HDF_FAILURE, HDF_ERR_INVALID_PARAM]
    · simp [none, Filled.outcome, Code.failure, Subtype.ext_iff]
  | ok stas =>
    simp only [reduceCtorEq, and_false, iff_false]
    split
    · simp
    · next within =>
      have fits : memcpyS (sizeofStaInfo.toNat * 6) (stas.val.length * 6) = (true, stas.val.length * 6) := by
        have size : sizeofStaInfo.toNat = 6 := rfl
        rw [memcpyS, size, if_neg (by decide)] at within ⊢
        by_cases long : 6 * 6 < stas.val.length * 6
        · rw [if_pos long] at within
          exact absurd (show WLAN_MAX_NUM_STA_WITH_AP < 6 * 6 / 6 by decide) within
        · rw [if_neg long]
      rw [fits, needs_obtain]
      simp only [if_true]
      rw [before_last, needs_bind, needs_write, before_last, needs_bind, needs_modify, before_last, needs_pure, arrives_last,
        answered_success]
      intro ended
      have read : some (HDF_ERR_MALLOC_FAIL, none) = some _ := ended
      have code := congrArg Prod.fst (Option.some.inj read)
      by_cases none : count = 0
      · simp only [none, if_true] at code
        exact absurd (show HDF_ERR_MALLOC_FAIL = HDF_ERR_INVALID_PARAM from code) (by decide)
      · simp only [none, if_false] at code
        cases copies : (memcpyS (count.toNat * 6) (stas.val.length * 6)).1 with
        | true =>
          rw [copies] at code
          exact absurd (show HDF_ERR_MALLOC_FAIL = HDF_SUCCESS from code) (by decide)
        | false =>
          rw [copies] at code
          exact absurd (show HDF_ERR_MALLOC_FAIL = HDF_FAILURE from code) (by decide)

end

namespace Service

/-- After any requests, a call comes back through the proxy as from the HAL exactly if it is a faithful one. -/
theorem proxied_direct (earlier : List Request) (driver : Driver) (feature : IWiFiBaseFeature) (call : WlanCall)
    (meets : (earlier.foldl after new).Meets feature call) :
    Transparent (earlier.foldl after new) driver feature call ↔ (earlier.foldl after new).Faithful driver call := by
  have good := new_good.run earlier
  generalize earlier.foldl after new = s at *
  cases call with
  | createFeature type => exact iff_of_false transparent_createFeature id
  | getSupportFeature supType => exact transparent_getSupportFeature meets
  | getSupportCombo combo => exact transparent_getSupportCombo meets
  | getIfNamesByChipId chipId names => exact transparent_getIfNamesByChipId meets.2
  | getAsscociatedStas ifeature count => exact transparent_getAsscociatedStas good meets.2
  | setCountryCode ifeature code len => exact transparent_setCountryCode good meets.2
  | setScanningMacAddress ifeature scanMac len => exact iff_of_true (transparent_setScanningMacAddress good meets.2) trivial
  | destroyFeature ifeature =>
    obtain ⟨wifi, kind, stands⟩ := meets
    exact iff_of_true (transparent_destroyFeature good wifi stands) trivial
  | getFreqsWithBand ifeature band count =>
    obtain ⟨-, kind, -, same, -⟩ := meets
    exact transparent_getFreqsWithBand same
  | getChipId ifeature chipId =>
    obtain ⟨-, kind, stands⟩ := meets
    exact transparent_getChipId good stands
  | getDeviceMacAddress ifeature mac len =>
    obtain ⟨-, kind, stands⟩ := meets
    exact transparent_getDeviceMacAddress good stands
  | setMacAddress ifeature mac len =>
    obtain ⟨-, kind, stands⟩ := meets
    exact transparent_setMacAddress good stands
  | setTxPower ifeature power =>
    obtain ⟨-, kind, stands⟩ := meets
    exact transparent_setTxPower good stands

def wlan0 : IWiFiBaseFeature := ⟨0, "wlan0", 2⟩
def wlan0Info : WlanFeatureInfo := ⟨"wlan0", 2⟩

theorem wlan0_stands : (created.foldl after new).StandsFor wlan0Info .sta wlan0 := ⟨⟨0, rfl, rfl⟩, rfl, rfl, rfl⟩

theorem created_transparent :
    Transparent (created.foldl after new) { answers with acquireChipId := fun _ => (HDF_SUCCESS, fun _ => 3) } wlan0
      (.getChipId wlan0Info 7) :=
  (proxied_direct created _ wlan0 (.getChipId wlan0Info 7) ⟨rfl, .sta, wlan0_stands⟩).mpr rfl

/-- The stub returns what the last write returned, which was a success. -/
theorem combo_not_transparent : let driver := { answers with getComboInfo := (HDF_SUCCESS, fun _ => Vector.replicate 10 5) }
    (created.foldl after new).Meets wlan0 (.getSupportCombo (.replicate 10 0)) ∧
      proxied (created.foldl after new) driver (.getSupportCombo (.replicate 10 0)) = some (1, none) ∧
      direct (created.foldl after new) driver wlan0 (.getSupportCombo (.replicate 10 0)) =
        (HDF_SUCCESS, some [5, 5, 5, 5, 5, 5, 5, 5, 5, 5]) ∧
      ¬ Transparent (created.foldl after new) driver wlan0 (.getSupportCombo (.replicate 10 0)) :=
  ⟨rfl, rfl, rfl, fun same => absurd (congrArg (·.map Prod.fst) same) (by decide)⟩

end Service

end Peripheral.Wlan
