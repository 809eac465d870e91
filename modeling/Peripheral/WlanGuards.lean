import Peripheral.WlanPointers

/-!
Which requests the WLAN service handles safely. It uses `g_wifi` whatever it is, and the
features once they were created; of a name it does not ask whether it is that of the
feature, nor how long it is.
-/
namespace Peripheral.Wlan
open RemoteCalls Hdf Faults Transitions

def Spared (renamed : List (String × String)) : Prop := ∀ w ∈ renamed, w.1 = w.2

/-- A request does not go wrong, an early end is an error, and the names stay as they are. -/
def safe {α : Type} : Ends Fault Int32 Serving α :=
  ⟨fun _ _ => False, fun code st => code ≠ HDF_SUCCESS ∧ Spared st.renamed, fun _ st => Spared st.renamed⟩

namespace Service

variable (s : Service)

def Safe (r : Request) : Prop := Needs (wlanHdiServiceOnRemoteRequest r) safe ⟨s, r.data, [], []⟩

/-- The pointer is to a feature that was not destroyed. -/
def Denotes (kind : Kind) : Prop := (s.pointer kind).isSome ∧ s.destroyed kind = false

def Named (kind : Kind) (name : String) : Prop := ∀ id, s.pointer kind = some id →
  s.destroyed kind = false ∧ ∀ feature, s.feature id = some feature → feature.ifName = name

def Asked {α : Type} (r : Request) (reader : Reader Value Int32 α) (asked : α → Prop) : Prop :=
  ∀ a rest, reader.run r.data = .ok a rest → asked a

/-- The HAL was constructed; a feature that is used is there, and has the name of the request; and no more stations and
    frequencies are found than there is room for. -/
def CarefulOf (r : Request) : InterFacesCmd → Prop
  | .construct | .deconstruct => True
  | .start | .stop | .getSupportFeature | .getSupportCombo => Asked r checkInterfaceDesc fun _ => s.g_wifi
  | .createFeature => Asked r readCreateFeature fun wlanType =>
    r.driver.calloc → (Kind.of wlanType.toUInt32.toInt32).isSome ∧ s.g_wifi
  | .getFeatureName => Asked r readName fun ifName => s.g_wifi ∧ ∀ before node after,
    atFirst (·.named ifName) s.wifi.nodes = some (before, node, after) → ∃ feature ∈ s.wifi.features, node.ifeature = some feature.id
  | .registerCallback => Asked r readRegCallback fun _ => r.client ∉ s.stub.registered → r.driver.calloc → s.g_wifi
  | .unregisterCallback => (∀ other ∈ s.stub.registered, other = r.client) → s.g_wifi
  | .destroyFeature => Asked r readDestoryFeature fun (name, wlanType) => ∀ kind, Kind.of wlanType = some kind →
    s.Named kind name ∧ ((s.pointer kind).isSome → s.g_wifi)
  | .resetDriver => Asked r readChip fun _ => s.g_wifi
  | .getAsscociateSta => Asked r readName fun name => s.Named .ap name ∧ ((s.pointer .ap).isSome →
    ∀ stas, r.driver.getAssociatedStas name = .ok stas → stas.val.length ≤ WLAN_MAX_NUM_STA_WITH_AP)
  | .getNetworkName => Asked r readName fun name => s.Named .ap name
  | .setCountryCode => Asked r readCountryCode fun (name, _) => s.Named .ap name
  | .getFeatureType => Asked r readFeatureType fun _ => s.Denotes .ap
  | .setMacAddr => Asked r readSetMacAddr fun (name, _) => s.Named .ap name
  | .getMacAddr | .getChipid => Asked r readNameAndNumber fun (name, wlanType) =>
    ∀ kind, Kind.of wlanType = some kind → s.Named kind name
  | .getFreqWithband => Asked r readFreqWithband fun (name, wlanBand, size) => s.Named .ap name ∧ ((s.pointer .ap).isSome →
    MAX_CHANNEL_NUM ≤ size → r.driver.calloc → size.toNat * 4 ≤ SECUREC_MEM_MAX_LEN →
      ∀ freqs, r.driver.getValidFreqByBand name wlanBand size = .ok freqs → freqs.val.length ≤ WLAN_FREQ_MAX_NUM)
  | .setTxPowr => Asked r readNameAndNumber fun (name, _) => s.Named .ap name
  | .getNameBychipid => Asked r readChip fun _ => s.Denotes .sta
  | .setSacnMacaddr => Asked r readScanMacAddr fun (name, _, _) => s.Named .sta name
  | .getNetdevInfo => Asked r checkInterfaceDesc fun _ => r.driver.calloc → s.g_wifi
  | .startScan => Asked r (readScan r.sizeOfScan) fun _ => s.Denotes .sta

def Careful (r : Request) : Prop := ∀ cmd, InterFacesCmd.ofId r.cmdId = some cmd → s.CarefulOf r cmd

end Service

section

variable {α : Type} {st : Serving} {s : Service}

@[simp] theorem safe_wrong {fault : Fault} : (safe : Ends Fault Int32 Serving α).wrong fault st ↔ False := Iff.rfl

@[simp] theorem safe_early {code : Int32} :
    (safe : Ends Fault Int32 Serving α).early code st ↔ code ≠ HDF_SUCCESS ∧ Spared st.renamed := Iff.rfl

@[simp] theorem safe_last {a : α} : (safe : Ends Fault Int32 Serving α).last a st ↔ Spared st.renamed := Iff.rfl

@[simp] theorem spared_nil : Spared [] := by simp [Spared]

@[simp] theorem spared_one {before after : String} : Spared [(before, after)] ↔ before = after := by simp [Spared]

/-! ### What the readers return when they fail -/

def Refuses (reader : Reader Value Int32 α) :
    Prop := ∀ data code rest, reader.run data = .error code rest → code ≠ HDF_SUCCESS

theorem refuses_pure {a : α} : Refuses (pure a) := by
  rintro data code rest ⟨⟩

theorem Refuses.bind {β : Type} {reader : Reader Value Int32 β} {next : β → Reader Value Int32 α} (first : Refuses reader)
    (later : ∀ b, Refuses (next b)) : Refuses (reader >>= next) := by
  intro data code rest fails
  rw [EStateM.run_bind] at fails
  cases reads : reader.run data with
  | ok b behind =>
    rw [reads] at fails
    exact later b behind code rest fails
  | error code' behind =>
    rw [reads] at fails
    obtain ⟨rfl, rfl⟩ := EStateM.Result.error.inj fails
    exact first data _ _ reads

theorem refuses_orReturn {code : Int32} {reader : Reader Value Int32 α} (error : code ≠ HDF_SUCCESS) :
    Refuses (orReturn code reader) := by
  intro data code' rest fails
  rw [EStateM.run, orReturn, EStateM.adaptExcept] at fails
  split at fails
  · obtain ⟨rfl, -⟩ := EStateM.Result.error.inj fails
    exact error
  · cases fails

theorem refuses_many {reader : Reader Value Int32 α} (each : Refuses reader) (n : Nat) : Refuses (many reader n) := by
  induction n with
  | zero => exact refuses_pure
  | succ n rest => exact rest.bind fun _ => each.bind fun _ => refuses_pure

theorem failure_ne : HDF_FAILURE ≠ HDF_SUCCESS := by decide

theorem invalidParam_ne : HDF_ERR_INVALID_PARAM ≠ HDF_SUCCESS := by decide

theorem refuses_checkInterfaceDesc : Refuses checkInterfaceDesc := refuses_orReturn invalidParam_ne

theorem refuses_readName : Refuses readName := refuses_checkInterfaceDesc.bind fun _ => refuses_orReturn failure_ne

theorem refuses_readCreateFeature : Refuses readCreateFeature :=
  refuses_checkInterfaceDesc.bind fun _ => refuses_orReturn invalidParam_ne

theorem refuses_readNameAndNumber : Refuses readNameAndNumber :=
  refuses_readName.bind fun _ => (refuses_orReturn invalidParam_ne).bind fun _ => refuses_pure

theorem refuses_orElse {reader : Reader Value Int32 α} {other : Reader Value Int32 α} (refuses : Refuses other) :
    Refuses (reader <|> other) := by
  intro data code rest fails
  simp only [HOrElse.hOrElse, OrElse.orElse, EStateM.run, EStateM.orElse] at fails
  cases reads : reader data with
  | ok a behind =>
    rw [reads] at fails
    cases fails
  | error code' behind =>
    rw [reads] at fails
    exact refuses _ _ _ fails

theorem refuses_readFeatureType : Refuses readFeatureType :=
  refuses_checkInterfaceDesc.bind fun _ => refuses_orElse refuses_pure

theorem refuses_readScan {sizeOfScan : Nat} : Refuses (readScan sizeOfScan) := by
  refine refuses_readName.bind fun _ => (refuses_orReturn failure_ne).bind fun scan => ?_
  have last (ifName : String) : Refuses (pure (ifName, scan)) := refuses_pure
  dsimp only
  split
  · refine Refuses.bind (fun data code rest fails => ?_) fun _ => last _
    obtain ⟨rfl, -⟩ := EStateM.Result.error.inj fails
    exact failure_ne
  · exact last _

theorem safe_arguments {β : Type} {reader : Reader Value Int32 β} {rest : β → Handle α} (refuses : Refuses reader)
    (clean : Spared st.renamed) : Needs (arguments reader >>= rest) safe st ↔
      ∀ b behind, reader.run st.data = .ok b behind → Needs (rest b) safe { st with data := behind } := by
  rw [needs_bind, needs_arguments]
  cases reads : reader.run st.data with
  | ok b behind => simp
  | error code behind => simp [clean, refuses _ _ _ reads]

theorem safe_named {kind : Kind} {name : String} {rest : IWiFiBaseFeature → Handle α} {more : Prop} (good : st.service.Good)
    (clean : st.renamed = []) (tail : ∀ feature t, feature.ifName = name → t.service.g_wifi = st.service.g_wifi →
      (Needs (rest feature) safe t ↔ Spared t.renamed ∧ more)) :
    Needs (named kind name >>= rest) safe st ↔ st.service.Named kind name ∧ ((st.service.pointer kind).isSome → more) := by
  rw [needs_bind, needs_named, Service.Named]
  cases points : st.service.pointer kind with
  | none => simp [clean, failure_ne]
  | some id =>
    have there := good.there kind id points
    dsimp only
    cases found : st.service.feature id with
    | none =>
      have gone : st.service.destroyed kind = true := by simpa [found] using there
      simp [gone]
    | some feature =>
      have short := good.features feature (Service.feature_some found).1
      have live : st.service.destroyed kind = false := there.mp (by simp [found])
      dsimp only
      split
      · next long =>
        have another : feature.ifName ≠ name := by
          rintro rfl
          omega
        simp [found, another]
      · have renamed := tail { feature with ifName := name } { st with
          service := st.service.update id fun feature => { feature with ifName := name }
          renamed := st.renamed ++ [(feature.ifName, name)] } rfl rfl
        rw [before_last, renamed]
        simp [clean, found, live]

theorem safe_named_only {kind : Kind} {name : String} {rest : IWiFiBaseFeature → Handle α} (good : st.service.Good)
    (clean : st.renamed = []) (tail : ∀ feature t, Needs (rest feature) safe t ↔ Spared t.renamed) :
    Needs (named kind name >>= rest) safe st ↔ st.service.Named kind name := by
  have whole := @safe_named _ st kind name rest True good clean fun feature t _ _ => by rw [tail, and_true]
  simpa using whole

theorem safe_pointed {kind : Kind} {rest : IWiFiBaseFeature → Handle α} (good : st.service.Good)
    (tail : ∀ feature, Needs (rest feature) safe st) : Needs (pointed kind >>= rest) safe st ↔ st.service.Denotes kind := by
  rw [needs_bind, needs_pointed, Service.Denotes]
  cases points : st.service.pointer kind with
  | none => simp
  | some id =>
    have there := good.there kind id points
    cases found : st.service.feature id with
    | none => simp [found, ← there]
    | some feature => simp [found, ← there, tail feature]

theorem safe_success {ret : Int32} : Needs (success ret) safe st ↔ Spared st.renamed := by
  simp [failure_ne]

theorem safe_obtain {ε : Type} {result : Except ε α} {β : Type} {rest : α → Handle β}
    (tail : ∀ a, Needs (rest a) safe st ↔ Spared st.renamed) : Needs (obtain result >>= rest) safe st ↔ Spared st.renamed := by
  rw [needs_bind, needs_obtain]
  cases result with
  | error code => simp [failure_ne]
  | ok a => exact tail a

theorem safe_fill {size : Nat} {filled : Filled α} {β : Type} {rest : List α → Handle β}
    (tail : ∀ a, Needs (rest a) safe st ↔ Spared st.renamed) :
    Needs (fill size filled >>= rest) safe st ↔ Spared st.renamed ∧ filled.written ≤ size := by
  rw [fill, needs_bind, needs_ite]
  split
  · next beyond => simp [Nat.not_le.mpr beyond]
  · next within => rw [← needs_bind, safe_obtain tail, and_iff_left (Nat.le_of_not_lt within)]

theorem safe_useWifi {rest : Unit → Handle α} :
    Needs (useWifi >>= rest) safe st ↔ st.service.g_wifi ∧ Needs (rest ()) safe st := by
  rw [needs_bind, needs_useWifi]
  cases st.service.g_wifi <;> simp

theorem safe_operate {op : Operation} {rest : Int32 → Handle α}
    (tail : ∀ ret service, Needs (rest ret) safe { st with service := service } ↔ Spared st.renamed) :
    Needs (operate op >>= rest) safe st ↔ Spared st.renamed ∧ st.service.g_wifi := by
  rw [needs_bind, needs_operate]
  cases st.service.g_wifi with
  | true => simp [tail]
  | false => simp

variable {driver : Driver}

variable {client : Client}

theorem safe_regCallback {callback : Remote} (clean : Spared st.renamed) :
    Needs (wlanServiceStudRegCallback driver client callback) safe st ↔
      (client ∉ st.service.stub.registered → driver.calloc → st.service.g_wifi) := by
  rw [wlanServiceStudRegCallback, needs_bind, needs_get, before_last]
  rcases st.service.stub.add_cases client callback driver.calloc with ⟨fails, why⟩ | ⟨free, enough, adds⟩
  · rw [fails]
    rcases why with known | short
    · simp [failure_ne, clean, known]
    · simp [failure_ne, clean, short]
  · rw [adds]
    simp [clean, free, enough]

theorem del_nil {stub : HdfWlanStubData} (once : stub.registered.Nodup) :
    (stub.hdfWlanDelRemoteObj client).remoteListHead = [] ↔ ∀ other ∈ stub.registered, other = client := by
  constructor
  · intro empty other h
    obtain ⟨node, there, rfl⟩ := List.mem_map.mp h
    by_contra differs
    have stays : node ∈ (stub.hdfWlanDelRemoteObj client).remoteListHead :=
      (List.mem_eraseP_of_neg (by simpa using differs)).mpr there
    simp [empty] at stays
  · intro only
    rw [HdfWlanStubData.hdfWlanDelRemoteObj]
    rw [HdfWlanStubData.registered] at once only
    cases nodes : stub.remoteListHead with
    | nil => rfl
    | cons first rest =>
      rw [nodes] at once only
      have head : first.client = client := only _ (List.mem_cons_self ..)
      rw [List.eraseP_cons_of_pos (by simpa using head), List.eq_nil_iff_forall_not_mem]
      intro node h
      have same : node.client = client := only _ (List.mem_cons_of_mem _ (List.mem_map_of_mem h))
      exact (List.nodup_cons.mp once).1 (List.mem_map.mpr ⟨node, h, same.trans head.symm⟩)

theorem safe_unRegCallback (good : st.service.Good) (clean : Spared st.renamed) :
    Needs (wlanServiceStubUnRegCallback client) safe st ↔
      ((∀ other ∈ st.service.stub.registered, other = client) → st.service.g_wifi) := by
  rw [← del_nil good.once, wlanServiceStubUnRegCallback, needs_bind, needs_onService, before_last, needs_bind, needs_get,
    before_last, needs_ite]
  split
  · next only =>
    rw [safe_useWifi, forall_prop_of_true only]
    simp [clean]
  · next others => simp [clean, others]

theorem safe_createFeature {wlanType : UInt8} (good : st.service.Good) (clean : Spared st.renamed) :
    Needs (wlanServiceStudCreateFeature driver wlanType) safe st ↔
      (driver.calloc → (Kind.of wlanType.toUInt32.toInt32).isSome ∧ st.service.g_wifi) := by
  rw [wlanServiceStudCreateFeature]
  cases driver.calloc with
  | false => simp [failure_ne, clean]
  | true =>
    simp only [Bool.not_true, Bool.false_eq_true, if_false, forall_const]
    cases Kind.of wlanType.toUInt32.toInt32 with
    | none => simp
    | some kind =>
      have last (ret : Int32) {t : Serving} (good : t.service.Good) (clean : Spared t.renamed) (denotes : t.service.Denotes kind) :
          Needs (do
            let feature ← pointed kind
            write (.string feature.ifName)
            write (.int32 feature.type)
            pure ret) safe t :=
        (safe_pointed good fun _ => by simpa using clean).mpr denotes
      have created := good.created kind driver.malloc
      dsimp only
      rw [needs_bind, needs_get, before_last, needs_bind, needs_operate, before_last, before_wrong]
      split
      · next wifi =>
        refine iff_of_true ?_ ⟨rfl, wifi⟩
        rw [needs_bind, needs_onService, before_last, needs_bind, needs_success, before_last, before_early]
        by_cases ok : (st.service.wifi.perform (.createFeature kind.type driver.malloc)).1 = HDF_SUCCESS
        · rw [if_pos ok]
          exact last _ created clean ⟨by simp [Service.pointer_setPointer, ok], by simp⟩
        · rw [if_neg ok]
          exact ⟨failure_ne, clean⟩
      · next wifi => simp [wifi]

theorem safe_getFeatureByIfName {ifName : String} (clean : Spared st.renamed) :
    Needs (wlanServiceStudGetFeatureByIfName ifName) safe st ↔ st.service.g_wifi ∧ ∀ before node after,
      atFirst (·.named ifName) st.service.wifi.nodes = some (before, node, after) →
        ∃ feature ∈ st.service.wifi.features, node.ifeature = some feature.id := by
  refine safe_useWifi.trans (and_congr_right fun _ => ?_)
  rw [needs_bind, needs_get, before_last]
  simp only [IWiFi.getFeatureByIfName]
  cases found : atFirst (·.named ifName) st.service.wifi.nodes with
  | none => simp [failure_ne, clean]
  | some parts =>
    obtain ⟨before, node, after⟩ := parts
    have there : (node.ifeature.bind st.service.feature).isSome ↔
      ∃ feature ∈ st.service.wifi.features, node.ifeature = some feature.id := by
      cases node.ifeature with
      | none => simp
      | some id =>
        rw [Option.bind_some, Service.feature_isSome]
        exact exists_congr fun feature => and_congr_right fun _ => by rw [Option.some.injEq, eq_comm]
    rw [needs_bind, needs_success]
    have only : (∀ before' node' after', some (before, node, after) = some (before', node', after') →
        ∃ feature ∈ st.service.wifi.features, node'.ifeature = some feature.id) ↔
          (node.ifeature.bind st.service.feature).isSome := by
      rw [there]
      exact ⟨fun h => h _ _ _ rfl, by rintro h _ _ _ ⟨⟩; exact h⟩
    rw [only, if_pos rfl, before_last]
    dsimp only
    cases node.ifeature.bind st.service.feature with
    | none => simp
    | some feature => simp [clean]

theorem memcpyS_fits {destMax count : Nat} (room : 0 < destMax) (fits : count ≤ destMax) :
    (memcpyS destMax count).2 = if destMax ≤ SECUREC_MEM_MAX_LEN then count else 0 := by
  rw [memcpyS]
  by_cases within : destMax ≤ SECUREC_MEM_MAX_LEN
  · rw [if_neg (by omega), if_neg (by omega), if_pos within]
  · rw [if_pos (by omega), if_neg within]

/-- The HAL is given room for six stations, and there are up to eight. -/
theorem getAsscociatedStas_written {feature : IWiFiBaseFeature} :
    (getAsscociatedStas driver feature sizeofStaInfo).written ≤ WLAN_MAX_NUM_STA_WITH_AP ↔
      ∀ stas, driver.getAssociatedStas feature.ifName = .ok stas → stas.val.length ≤ WLAN_MAX_NUM_STA_WITH_AP := by
  have size : sizeofStaInfo.toNat = 6 := rfl
  rw [getAsscociatedStas, if_neg (by decide)]
  cases driver.getAssociatedStas feature.ifName with
  | error code => simp
  | ok stas =>
    simp only [memcpyS, size, Except.ok.injEq, forall_eq', WLAN_MAX_NUM_STA_WITH_AP, SECUREC_MEM_MAX_LEN]
    split
    · omega
    · split
      · dsimp only
        omega
      · dsimp only
        omega

theorem getValidFreqsWithBand_written {feature : IWiFiBaseFeature} {band : Int32} {size : UInt32} :
    (getValidFreqsWithBand driver feature band size).written ≤ WLAN_FREQ_MAX_NUM ↔
      (MAX_CHANNEL_NUM ≤ size → driver.calloc → size.toNat * 4 ≤ SECUREC_MEM_MAX_LEN →
        ∀ freqs, driver.getValidFreqByBand feature.ifName band size = .ok freqs → freqs.val.length ≤ WLAN_FREQ_MAX_NUM) := by
  rw [getValidFreqsWithBand]
  split
  · next small => simp [UInt32.not_le.mpr small]
  · next enough =>
    cases driver.calloc with
    | false => simp
    | true =>
      cases driver.getValidFreqByBand feature.ifName band size with
      | error code => simp
      | ok freqs =>
        have bound := freqs.2
        have some_room : 14 ≤ size.toNat := UInt32.le_iff_toNat_le.mp (UInt32.not_lt.mp enough)
        have room := UInt32.not_lt.mp enough
        simp only [memcpyS_fits (show 0 < size.toNat * 4 by omega) (Nat.mul_le_mul_right 4 bound), Except.ok.injEq,
          forall_eq',
          Bool.not_true, Bool.false_eq_true, if_false, room, true_imp_iff]
        split
        · next within => simp [within]
        · next beyond => simp [beyond]

end

namespace Service

variable {s : Service}

theorem careful_handle (good : s.Good) (r : Request) (cmd : InterFacesCmd) :
    Needs (handle r cmd) safe ⟨s, r.data, [], []⟩ ↔ s.CarefulOf r cmd := by
  have reads {α : Type} {reader : Reader Value Int32 α} {rest : α → Handle Int32} {asked : α → Prop} (refuses : Refuses reader)
      (each : ∀ a data, Needs (rest a) safe ⟨s, data, [], []⟩ ↔ asked a) :
      Needs (arguments reader >>= rest) safe ⟨s, r.data, [], []⟩ ↔ Asked r reader asked := by
    rw [safe_arguments refuses spared_nil]
    exact ⟨fun h a behind read => (each a behind).mp (h a behind read),
      fun h a behind read => (each a behind).mpr (h a behind read)⟩
  cases cmd with
  | construct =>
    simp only [CarefulOf, iff_true]
    have always : Asked r checkInterfaceDesc fun _ => True := fun _ _ _ => trivial
    refine (reads refuses_checkInterfaceDesc fun _ data => ?_).mpr always
    simp [hdiWifiConstruct, failure_ne, needs_ite]
  | deconstruct =>
    simp only [CarefulOf, iff_true]
    have always : Asked r checkInterfaceDesc fun _ => True := fun _ _ _ => trivial
    refine (reads refuses_checkInterfaceDesc fun _ data => ?_).mpr always
    simp [hdiWifiDeConstruct, failure_ne, needs_ite]
  | start =>
    exact reads refuses_checkInterfaceDesc fun _ data => (safe_operate fun _ _ => safe_success).trans (and_iff_right spared_nil)
  | stop =>
    exact reads refuses_checkInterfaceDesc fun _ data => (safe_operate fun _ _ => safe_success).trans (and_iff_right spared_nil)
  | getSupportFeature =>
    refine reads refuses_checkInterfaceDesc fun _ data => safe_useWifi.trans (and_iff_left ?_)
    rw [needs_bind, needs_get, before_last, safe_obtain fun _ => Iff.rfl]
    exact spared_nil
  | getSupportCombo =>
    refine reads refuses_checkInterfaceDesc fun _ data => safe_useWifi.trans (and_iff_left ?_)
    split
    · next code _ => exact ⟨code.2, spared_nil⟩
    · exact spared_nil
  | createFeature =>
    exact reads refuses_readCreateFeature fun wlanType data => safe_createFeature good spared_nil
  | getFeatureName =>
    exact reads refuses_readName fun ifName data => safe_getFeatureByIfName spared_nil
  | registerCallback =>
    exact reads (refuses_checkInterfaceDesc.bind fun _ => refuses_orReturn invalidParam_ne) fun callback data =>
      safe_regCallback spared_nil
  | unregisterCallback => exact safe_unRegCallback good spared_nil
  | destroyFeature =>
    refine reads (refuses_checkInterfaceDesc.bind fun _ => (refuses_orReturn invalidParam_ne).bind fun _ =>
      (refuses_orReturn invalidParam_ne).bind fun _ => refuses_pure) fun (name, wlanType) data => ?_
    dsimp only [wlanServiceStubDestoryFeature]
    cases Kind.of wlanType with
    | none => simp [failure_ne]
    | some kind =>
      simp only [Option.some.injEq, forall_eq']
      refine safe_named good rfl fun feature t _ same => ?_
      rw [safe_operate fun ret service => ?_, same]
      rw [needs_bind, needs_success]
      simp [failure_ne]
  | resetDriver => exact reads refuses_readCreateFeature fun _ data => safe_useWifi.trans (and_iff_left (safe_success.mpr spared_nil))
  | getAsscociateSta =>
    refine reads refuses_readName fun name data => safe_named good rfl fun feature t named _ => ?_
    rw [safe_fill fun _ => Iff.rfl, getAsscociatedStas_written, named]
  | setCountryCode =>
    refine reads (refuses_readName.bind fun _ => (refuses_orReturn failure_ne).bind fun _ => refuses_pure) fun (name,
      code) data => ?_
    exact safe_named_only good rfl fun _ _ => safe_success
  | getNetworkName => exact reads refuses_readName fun name data => safe_named_only good rfl fun _ _ => Iff.rfl
  | getFeatureType =>
    exact reads refuses_readFeatureType fun featureType data => safe_pointed good fun feature => spared_nil
  | setMacAddr =>
    refine reads (refuses_readName.bind fun _ => (refuses_many (refuses_orReturn invalidParam_ne) _).bind fun _ => refuses_pure)
      fun (name, mac) data => ?_
    exact safe_named_only good rfl fun _ _ => safe_success
  | getMacAddr =>
    refine reads refuses_readNameAndNumber fun (name, wlanType) data => ?_
    dsimp only [wlanServiceGetMacAddr]
    cases Kind.of wlanType with
    | none => simp [failure_ne]
    | some kind =>
      simp only [Option.some.injEq, forall_eq']
      exact safe_named_only good rfl fun _ _ => safe_obtain fun _ => Iff.rfl
  | getFreqWithband =>
    refine reads (refuses_readName.bind fun _ => (refuses_orReturn invalidParam_ne).bind fun _ =>
      (refuses_orReturn invalidParam_ne).bind fun _ => refuses_pure) fun (name, wlanBand, size) data => ?_
    refine safe_named good rfl fun feature t named _ => ?_
    rw [safe_fill fun _ => Iff.rfl, getValidFreqsWithBand_written, named]
  | setTxPowr =>
    exact reads refuses_readNameAndNumber fun (name, power) data => safe_named_only good rfl fun _ _ => safe_success
  | getChipid =>
    refine reads refuses_readNameAndNumber fun (name, wlanType) data => ?_
    dsimp only [wlanServiceStubGetChipId]
    cases Kind.of wlanType with
    | none => simp [failure_ne]
    | some kind =>
      simp only [Option.some.injEq, forall_eq']
      exact safe_named_only good rfl fun _ _ => safe_obtain fun _ => Iff.rfl
  | getNameBychipid =>
    refine reads refuses_readCreateFeature fun chipId data => safe_pointed good fun _ => ?_
    exact (safe_obtain fun _ => Iff.rfl).mpr spared_nil
  | setSacnMacaddr =>
    refine reads (refuses_readName.bind fun _ => (refuses_orReturn failure_ne).bind fun _ =>
      (refuses_many (refuses_orReturn failure_ne) _).bind fun _ => refuses_pure) fun (name, length, scanMac) data => ?_
    exact safe_named_only good rfl fun _ _ => Iff.rfl
  | getNetdevInfo =>
    refine reads refuses_checkInterfaceDesc fun _ data => ?_
    rw [wlanServiceStubGetNetdevInfo]
    cases r.driver.calloc with
    | false => simp [failure_ne]
    | true =>
      simp only [Bool.not_true, Bool.false_eq_true, if_false, forall_const]
      refine safe_useWifi.trans (and_iff_left ?_)
      exact (safe_obtain fun _ => Iff.rfl).mpr spared_nil
  | startScan => exact reads refuses_readScan fun _ data => safe_pointed good fun _ => spared_nil

theorem safe_iff (good : s.Good) (r : Request) : s.Safe r ↔ s.Careful r := by
  rw [Safe, Careful, wlanHdiServiceOnRemoteRequest]
  cases InterFacesCmd.ofId r.cmdId with
  | none => simp [invalidParam_ne]
  | some cmd => simpa using careful_handle good r cmd

theorem takes_safe (good : s.Good) (run : List Request) :
    Takes Service.after Safe s run ↔ Takes Service.after Careful s run := by
  induction run generalizing s with
  | nil => exact Iff.rfl
  | cons r rest later => exact and_congr (safe_iff good r) (later (good.after r))

/-- In a run all requests are safe exactly if each is a careful one. -/
theorem run_safe (run : List Request) : Takes Service.after Safe new run ↔ Takes Service.after Careful new run :=
  takes_safe new_good run

def answers : Driver where
  isSupportCombo := .error .failure
  getComboInfo := (HDF_FAILURE, id)
  getDevMacAddr _ _ := (HDF_FAILURE, id)
  setMacAddr _ _ := HDF_FAILURE
  getValidFreqByBand _ _ _ := .error .failure
  setTxPower _ _ := HDF_FAILURE
  getAssociatedStas _ := .error .failure
  wifiSetCountryCode _ _ := HDF_FAILURE
  setScanMacAddr _ _ := HDF_FAILURE
  acquireChipId _ := (HDF_FAILURE, id)
  getIfNamesByChipId _ := .error (.failure, id)
  setResetDriver _ := HDF_FAILURE
  getNetDeviceInfo := .error .failure
  wifiCmdScan _ _ := HDF_FAILURE
  wifiDriverClientInit := HDF_SUCCESS
  getUsableNetworkInfo := .ok [IWiFi.wlan0]
  nodes := 1
  malloc := true
  calloc := true
  mutex := true

def request (cmdId : Int) (values : List Value) :
    Request := ⟨0, cmdId, .interfaceToken "HDI.WLAN.V1_0" :: values, answers, 0⟩

def created : List Request := [request 0 [], request 2 [], request 6 [.uint8 2]]
def overlong : Request := request 20 [.string "wlan0_of_no_one_", .int32 2]

theorem overlong_not_safe : Takes Service.after Safe new created ∧
    (∃ st, (created.foldl after new).serve overlong = .error (.wrong .ifName) st) ∧
      ¬ Takes Service.after Safe new (created ++ [overlong]) := by
  have wrong : ∃ st, (created.foldl after new).serve overlong = .error (.wrong .ifName) st := ⟨_, rfl⟩
  refine ⟨⟨spared_nil, spared_nil, spared_nil, trivial⟩, wrong, fun taken => ?_⟩
  obtain ⟨-, last, -⟩ := Takes.append.mp taken
  obtain ⟨st, wrong⟩ := wrong
  have ended := congrArg safe.Hold wrong
  exact ended.mp last

end Service

end Peripheral.Wlan
