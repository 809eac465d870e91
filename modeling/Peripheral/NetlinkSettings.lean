import Peripheral.NetlinkCommand

/-!
The settings of the WLAN client, `netlink_cmd_adapter.c`: each makes a message, sends it and
reports what the exchange gave. The mutex that is busy for too long and the answer of the
kernel are both lost on the way (`settings_accounted`).
-/
namespace Peripheral.Netlink
open Loops

structure System (ν : Type) where
  lib : Libnl
  ifNametoindex : ν → UInt32
  nlmsgAlloc : Bool
  familyId : Int32

section
variable {ν δ σ : Type}

def setTxPowerMsg (sys : System ν) (ifName : ν) (power : Int32) : Except Int32 Msg :=
  let ifaceId := sys.ifNametoindex ifName
  if ifaceId = 0 then .error RET_CODE_INVALID_PARAM
  else if ¬sys.nlmsgAlloc then .error RET_CODE_NOMEM
  else
    let msg := genlmsgPut sys.familyId false .setWiphy
    let msg := sys.lib.nlaPut msg .ifindex (.u32 ifaceId)
    let msg := sys.lib.nlaPut msg .wiphyTxPowerSetting (.u32 NL80211_TX_POWER_LIMITED)
    .ok (sys.lib.nlaPut msg .wiphyTxPowerLevel (.u32 (100 * power).toUInt32))

def vendorMsg (sys : System ν) (ifaceId subcmd : UInt32) (type : Nat) (payload : List UInt8) : Except Int32 Msg :=
  let msg := genlmsgPut sys.familyId false .vendor
  let msg := sys.lib.nlaPut msg .ifindex (.u32 ifaceId)
  let msg := sys.lib.nlaPut msg .vendorId (.u32 VENDOR_ID)
  let msg := sys.lib.nlaPut msg .vendorSubcmd (.u32 subcmd)
  match sys.lib.nlaNestStart msg with
  | none => .error RET_CODE_FAILURE
  | some msg => .ok (sys.lib.nlaNestEnd (sys.lib.nlaPutNested msg type (.bytes payload)) .vendorData)

def wifiSetCountryCodeMsg (sys : System ν) (ifName : ν) (code : List UInt8) : Except Int32 Msg :=
  let ifaceId := sys.ifNametoindex ifName
  if ifaceId = 0 then .error RET_CODE_FAILURE
  else if ¬sys.nlmsgAlloc then .error RET_CODE_NOMEM
  else vendorMsg sys ifaceId WIFI_SUBCMD_SET_COUNTRY_CODE WIFI_ATTRIBUTE_COUNTRY code

/-- Here the memory is asked for first. -/
def setScanMacAddrMsg (sys : System ν) (ifName : ν) (scanMac : List UInt8) : Except Int32 Msg :=
  let ifaceId := sys.ifNametoindex ifName
  if ¬sys.nlmsgAlloc then .error RET_CODE_NOMEM
  else if ifaceId = 0 then .error RET_CODE_FAILURE
  else vendorMsg sys ifaceId WIFI_SUBCMD_SET_RANDOM_MAC_OUI ANDR_WIFI_ATTRIBUTE_RANDOM_MAC_OUI scanMac

def wifiCmdScanMsg (sys : System ν) (ifName : ν) (scan : WifiScan) : Except Int32 Msg :=
  let ifaceId := sys.ifNametoindex ifName
  if ifaceId = 0 then .error RET_CODE_FAILURE
  else if ¬sys.nlmsgAlloc then .error RET_CODE_NOMEM
  else
    let msg := genlmsgPut sys.familyId false .triggerScan
    sys.lib.cmdScanPutMsg (sys.lib.nlaPut msg .ifindex (.u32 ifaceId)) scan

def wiphyDump (sys : System ν) (ifaceId : UInt32) : Msg :=
  let msg := genlmsgPut sys.familyId true .getWiphy
  let msg := sys.lib.nlaPut msg .splitWiphyDump .flag
  sys.lib.nlaPut msg .ifindex (.u32 ifaceId)

/-- The names may be null, as may the place for the answer. -/
def acquireChipIdMsg (sys : System ν) (ifName : Option ν) (chipId : Option UInt8) : Except Int32 Msg :=
  match ifName, chipId with
  | some ifName, some _ =>
    let ifaceId := sys.ifNametoindex ifName
    if ifaceId = 0 then .error RET_CODE_FAILURE
    else if ¬sys.nlmsgAlloc then .error RET_CODE_NOMEM
    else .ok (wiphyDump sys ifaceId)
  | _, _ => .error RET_CODE_INVALID_PARAM

/-- `ParserChipId`, of messages that may not be parsed and have a chip or none. -/
def parserChipId (parsed : Except Int (Option UInt8)) (chipId : Option UInt8) : Option UInt8 × Int :=
  match parsed with
  | .ok (some id) => (some id, NL_SKIP)
  | _ => (chipId, NL_SKIP)

def request (made : Except Int32 Msg) (wire : Wire δ) (handler : Handler δ σ) (data : σ) (report : Int32 → Int32) (fuel : Nat) :
    Outcome Empty Int32 :=
  match made with
  | .error code => .ret code
  | .ok msg => sendCmdSync wire msg handler data fuel >>= fun sent => .ret (report sent.ret)

/-- Any failure is reported as `RET_CODE_FAILURE`. -/
def orFailure (ret : Int32) : Int32 := if ret ≠ RET_CODE_SUCCESS then RET_CODE_FAILURE else RET_CODE_SUCCESS

def setTxPower (sys : System ν) (wire : Wire δ) (ifName : ν) (power : Int32) (fuel : Nat) : Outcome Empty Int32 :=
  request (setTxPowerMsg sys ifName power) wire none () orFailure fuel

def wifiSetCountryCode (sys : System ν) (wire : Wire δ) (ifName : ν) (code : List UInt8) (fuel : Nat) : Outcome Empty Int32 :=
  request (wifiSetCountryCodeMsg sys ifName code) wire none () id fuel

def setScanMacAddr (sys : System ν) (wire : Wire δ) (ifName : ν) (scanMac : List UInt8) (fuel : Nat) : Outcome Empty Int32 :=
  request (setScanMacAddrMsg sys ifName scanMac) wire none () id fuel

def wifiCmdScan (sys : System ν) (wire : Wire δ) (ifName : ν) (scan : WifiScan) (fuel : Nat) : Outcome Empty Int32 :=
  request (wifiCmdScanMsg sys ifName scan) wire none () orFailure fuel

/-- What the exchange gave is not looked at. -/
def acquireChipId (sys : System ν) (wire : Wire (Except Int (Option UInt8))) (ifName : Option ν) (chipId : Option UInt8)
    (fuel : Nat) : Outcome Empty Int32 :=
  request (acquireChipIdMsg sys ifName chipId) wire (some parserChipId) chipId (fun _ => RET_CODE_SUCCESS) fuel

/-- The call comes back, with success for an exchange that ended well and nothing else, and with the mutex as it was. -/
def Reports (wire : Wire δ) (msg : Msg) (handler : Handler δ σ) (data : σ) : Prop :=
  ∃ sent : Sent σ, Comes (sendCmdSync wire msg handler data) (.ret sent) ∧
    (sent.ret = RET_CODE_SUCCESS ↔ wire.Exchanges msg ∧ (wire.answer msg).ending.Accepts) ∧ sent.locks = sent.unlocks

/-- Success is reported of a message that the kernel accepted, and of nothing else. -/
def Truthful (made : Except Int32 Msg) (wire : Wire δ) (setting : Nat → Outcome Empty Int32) : Prop :=
  Comes setting (.ret RET_CODE_SUCCESS) → ∃ msg, made = .ok msg ∧ wire.Accepts msg

/-- The mutex comes free in time, and an answer that is read to its end is no error. -/
def Wire.Honest (wire : Wire δ) (msg : Msg) (handler : Handler δ σ) (data : σ) : Prop :=
  ¬wire.TimesOut ∧ (wire.Exchanges msg → wire.Arrives msg handler data → (wire.answer msg).ending.Accepts)

variable {wire : Wire δ}

theorem sends_free {msg : Msg} (sends : wire.Sends msg) : ¬wire.TimesOut := by
  obtain ⟨-, ⟨n, few, free, -⟩, -⟩ := sends
  rintro ⟨-, busy⟩
  have both : (0 : Int) = EBUSY := free.symm.trans (busy n few)
  exact absurd both (by decide)

theorem sendCmdSync_cases (wire : Wire δ) (msg : Msg) (handler : Handler δ σ) (data : σ) :
    ((wire.Exchanges msg → wire.Arrives msg handler data) ∧ ∃ sent : Sent σ,
      Comes (sendCmdSync wire msg handler data) (.ret sent) ∧ sent.locks = sent.unlocks ∧
        (sent.ret = RET_CODE_SUCCESS ↔ wire.TimesOut ∨ wire.Exchanges msg)) ∨
    ((wire.Exchanges msg ∧ ¬wire.Arrives msg handler data) ∧ Comes (sendCmdSync wire msg handler data) .stuck) := by
  by_cases exchanges : wire.Exchanges msg
  · by_cases arrives : wire.Arrives msg handler data
    · obtain ⟨sent, comes, success, freed, -⟩ := sendCmdSync_answered exchanges arrives
      exact .inl ⟨fun _ => arrives, sent, comes, freed, iff_of_true success (.inr exchanges)⟩
    · exact .inr ⟨⟨exchanges, arrives⟩, sendCmdSync_lost exchanges arrives⟩
  · obtain ⟨sent, comes, success, freed, -⟩ := sendCmdSync_early exchanges
    exact .inl ⟨fun there => absurd there exchanges, sent, comes, freed, by simp [success, exchanges]⟩

theorem reports_iff (wire : Wire δ) (msg : Msg) (handler : Handler δ σ) (data : σ) : Reports wire msg handler data ↔
    ¬wire.TimesOut ∧ (wire.Exchanges msg → wire.Arrives msg handler data ∧ (wire.answer msg).ending.Accepts) := by
  rcases sendCmdSync_cases wire msg handler data with ⟨arrives, sent, comes, freed, success⟩ | ⟨⟨exchanges, lost⟩, stuck⟩
  · constructor
    · rintro ⟨sent', comes', right, -⟩
      have same : sent = sent' := by
        have := comes.unique comes' (by simp)
        simpa using this
      subst same
      have both : wire.TimesOut ∨ wire.Exchanges msg ↔ wire.Exchanges msg ∧ (wire.answer msg).ending.Accepts :=
        success.symm.trans right
      have free : ¬wire.TimesOut := fun busy => sends_free (both.mp (.inl busy)).1.1 busy
      exact ⟨free, fun exchanges => ⟨arrives exchanges, (both.mp (.inr exchanges)).2⟩⟩
    · rintro ⟨free, accepts⟩
      refine ⟨sent, comes, success.trans ?_, freed⟩
      constructor
      · rintro (busy | exchanges)
        · exact absurd busy free
        · exact ⟨exchanges, (accepts exchanges).2⟩
      · rintro ⟨exchanges, -⟩
        exact .inr exchanges
  · refine iff_of_false ?_ (fun right => lost (right.2 exchanges).1)
    rintro ⟨sent, comes, -⟩
    have := stuck.unique comes (by simp)
    cases this

theorem truthful_iff {made : Except Int32 Msg} {handler : Handler δ σ} {data : σ} {report : Int32 → Int32}
    (refuses : made ≠ .error RET_CODE_SUCCESS) (same : ∀ ret, report ret = RET_CODE_SUCCESS ↔ ret = RET_CODE_SUCCESS) :
    Truthful made wire (request made wire handler data report) ↔ ∀ msg, made = .ok msg → wire.Honest msg handler data := by
  cases made with
  | error code =>
    refine iff_of_true (fun comes => ?_) (fun msg is => by cases is)
    have is : Outcome.ret (ε := Empty) code = .ret RET_CODE_SUCCESS := (Comes.const _).unique comes (by simp)
    exact absurd (congrArg Except.error (Outcome.ret.inj is)) refuses
  | ok msg =>
    have made : (∀ msg', Except.ok (ε := Int32) msg = .ok msg' → wire.Honest msg' handler data) ↔ wire.Honest msg handler data := by
      simp
    rw [made]
    rcases sendCmdSync_cases wire msg handler data with ⟨arrives, sent, comes, -, success⟩ | ⟨⟨exchanges, lost⟩, stuck⟩
    · have reported : Comes (request (.ok msg) wire handler data report) (.ret (report sent.ret)) := comes.map
      constructor
      · intro truthful
        have accepted : wire.TimesOut ∨ wire.Exchanges msg → wire.Accepts msg := by
          intro either
          rw [(same _).mpr (success.mpr either)] at reported
          obtain ⟨msg', is, accepts⟩ := truthful reported
          cases is
          exact accepts
        exact ⟨fun busy => sends_free (accepted (.inl busy)).1 busy, fun exchanges _ => (accepted (.inr exchanges)).2⟩
      · rintro ⟨free, accepts⟩ comes'
        have ret := reported.unique comes' (by simp)
        simp only [Outcome.ret.injEq] at ret
        rcases success.mp ((same _).mp ret) with busy | exchanges
        · exact absurd busy free
        · exact ⟨msg, rfl, exchanges.1, accepts exchanges (arrives exchanges)⟩
    · refine iff_of_true (fun comes => ?_) ⟨sends_free exchanges.1, fun _ arrives => absurd arrives lost⟩
      have waiting : Comes (request (.ok msg) wire handler data report) .stuck := stuck.map
      have := waiting.unique comes (by simp)
      cases this

theorem ignoring_iff {made : Except Int32 Msg} {handler : Handler δ σ} {data : σ} (refuses : made ≠ .error RET_CODE_SUCCESS) :
    Truthful made wire (request made wire handler data (fun _ => RET_CODE_SUCCESS)) ↔
      ∀ msg, made = .ok msg → (wire.Exchanges msg → wire.Arrives msg handler data) → wire.Accepts msg := by
  cases made with
  | error code =>
    refine iff_of_true (fun comes => ?_) (fun msg is => by cases is)
    have is : Outcome.ret (ε := Empty) code = .ret RET_CODE_SUCCESS := (Comes.const _).unique comes (by simp)
    exact absurd (congrArg Except.error (Outcome.ret.inj is)) refuses
  | ok msg =>
    constructor
    · intro truthful msg' is arrives
      cases is
      rcases sendCmdSync_cases wire msg handler data with ⟨-, sent, comes, -, -⟩ | ⟨⟨exchanges, lost⟩, -⟩
      · obtain ⟨msg', is, accepts⟩ := truthful comes.map
        cases is
        exact accepts
      · exact absurd (arrives exchanges) lost
    · intro accepts comes
      rcases sendCmdSync_cases wire msg handler data with ⟨arrives, -⟩ | ⟨-, stuck⟩
      · exact ⟨msg, rfl, accepts msg rfl arrives⟩
      · have waiting : Comes (request (.ok msg) wire handler data (fun _ => RET_CODE_SUCCESS)) .stuck := stuck.map
        have := waiting.unique comes (by simp)
        cases this

theorem vendorMsg_refuses (sys : System ν) (ifaceId subcmd : UInt32) (type : Nat) (payload : List UInt8) :
    vendorMsg sys ifaceId subcmd type payload ≠ .error RET_CODE_SUCCESS := by
  simp only [vendorMsg]
  split
  · simp [RET_CODE_FAILURE, RET_CODE_SUCCESS]
  · simp

theorem setTxPowerMsg_refuses (sys : System ν) (ifName : ν) (power : Int32) :
    setTxPowerMsg sys ifName power ≠ .error RET_CODE_SUCCESS := by
  simp only [setTxPowerMsg]
  split
  · simp [RET_CODE_INVALID_PARAM, RET_CODE_SUCCESS]
  · split
    · simp [RET_CODE_NOMEM, RET_CODE_SUCCESS]
    · simp

theorem wifiSetCountryCodeMsg_refuses (sys : System ν) (ifName : ν) (code : List UInt8) :
    wifiSetCountryCodeMsg sys ifName code ≠ .error RET_CODE_SUCCESS := by
  simp only [wifiSetCountryCodeMsg]
  split
  · simp [RET_CODE_FAILURE, RET_CODE_SUCCESS]
  · split
    · simp [RET_CODE_NOMEM, RET_CODE_SUCCESS]
    · exact vendorMsg_refuses sys _ _ _ _

theorem setScanMacAddrMsg_refuses (sys : System ν) (ifName : ν) (scanMac : List UInt8) :
    setScanMacAddrMsg sys ifName scanMac ≠ .error RET_CODE_SUCCESS := by
  simp only [setScanMacAddrMsg]
  split
  · simp [RET_CODE_NOMEM, RET_CODE_SUCCESS]
  · split
    · simp [RET_CODE_FAILURE, RET_CODE_SUCCESS]
    · exact vendorMsg_refuses sys _ _ _ _

theorem putEach_refuses (lib : Libnl) {msg : Msg} {type : AttrType} {count : Nat} {v : Nat → Value} {code : Int32}
    (refused : lib.putEach msg type count v = .error code) : code = RET_CODE_FAILURE := by
  simp only [Libnl.putEach] at refused
  split at refused
  · cases refused
    rfl
  · cases refused

theorem cmdScanPutMsg_refuses (lib : Libnl) {msg : Msg} {scan : WifiScan} {code : Int32}
    (refused : lib.cmdScanPutMsg msg scan = .error code) : code = RET_CODE_FAILURE := by
  have ssids : ∀ code, lib.putSsids scan msg = .error code → code = RET_CODE_FAILURE := by
    intro code is
    simp only [Libnl.putSsids] at is
    split at is
    · cases is
    · exact putEach_refuses lib is
  have freqs : ∀ msg code, lib.putFreqs scan msg = .error code → code = RET_CODE_FAILURE := by
    intro msg code is
    simp only [Libnl.putFreqs] at is
    split at is
    · cases is
    · exact putEach_refuses lib is
  simp only [Libnl.cmdScanPutMsg] at refused
  cases put : lib.putSsids scan msg with
  | error code' =>
    rw [put] at refused
    cases refused
    exact ssids _ put
  | ok msg' =>
    rw [put] at refused
    cases put' : lib.putFreqs scan msg' with
    | error code' =>
      simp only [bind, Except.bind, put'] at refused
      cases refused
      exact freqs _ _ put'
    | ok msg'' =>
      simp only [bind, Except.bind, put'] at refused
      cases refused

theorem wifiCmdScanMsg_refuses (sys : System ν) (ifName : ν) (scan : WifiScan) :
    wifiCmdScanMsg sys ifName scan ≠ .error RET_CODE_SUCCESS := by
  simp only [wifiCmdScanMsg]
  split
  · simp [RET_CODE_FAILURE, RET_CODE_SUCCESS]
  · split
    · simp [RET_CODE_NOMEM, RET_CODE_SUCCESS]
    · intro refused
      exact absurd (cmdScanPutMsg_refuses sys.lib refused) (by decide)

theorem acquireChipIdMsg_refuses (sys : System ν) (ifName : Option ν) (chipId : Option UInt8) :
    acquireChipIdMsg sys ifName chipId ≠ .error RET_CODE_SUCCESS := by
  simp only [acquireChipIdMsg]
  split
  · split
    · simp [RET_CODE_FAILURE, RET_CODE_SUCCESS]
    · split
      · simp [RET_CODE_NOMEM, RET_CODE_SUCCESS]
      · simp
  · simp [RET_CODE_INVALID_PARAM, RET_CODE_SUCCESS]

theorem orFailure_success (ret : Int32) : orFailure ret = RET_CODE_SUCCESS ↔ ret = RET_CODE_SUCCESS := by
  simp only [orFailure]
  split
  · next fails => exact iff_of_false (by decide) fails
  · next same => exact iff_of_true rfl (not_not.mp same)

/-- The exchange reports what happened as long as the mutex comes free in time and every answer that is waited for
    arrives with an end that is no error. The settings report the truth under the same condition, where an answer that
    never arrives is never reported, and the one that ignores the exchange only when the kernel accepts whatever was sent. -/
theorem settings_accounted (sys : System ν) (wire : Wire δ) (chips : Wire (Except Int (Option UInt8))) :
    (∀ (msg : Msg) (handler : Handler δ σ) (data : σ), Reports wire msg handler data ↔
      ¬wire.TimesOut ∧ (wire.Exchanges msg → wire.Arrives msg handler data ∧ (wire.answer msg).ending.Accepts)) ∧
    (∀ (ifName : ν) (power : Int32), Truthful (setTxPowerMsg sys ifName power) wire (setTxPower sys wire ifName power) ↔
      ∀ msg, setTxPowerMsg sys ifName power = .ok msg → wire.Honest msg none ()) ∧ (∀ (ifName : ν) (code : List UInt8),
      Truthful (wifiSetCountryCodeMsg sys ifName code) wire (wifiSetCountryCode sys wire ifName code) ↔
        ∀ msg, wifiSetCountryCodeMsg sys ifName code = .ok msg → wire.Honest msg none ()) ∧
    (∀ (ifName : ν) (scanMac : List UInt8),
      Truthful (setScanMacAddrMsg sys ifName scanMac) wire (setScanMacAddr sys wire ifName scanMac) ↔
        ∀ msg, setScanMacAddrMsg sys ifName scanMac = .ok msg → wire.Honest msg none ()) ∧
    (∀ (ifName : ν) (scan : WifiScan), Truthful (wifiCmdScanMsg sys ifName scan) wire (wifiCmdScan sys wire ifName scan) ↔
      ∀ msg, wifiCmdScanMsg sys ifName scan = .ok msg → wire.Honest msg none ()) ∧
    ∀ (ifName : Option ν) (chipId : Option UInt8),
      Truthful (acquireChipIdMsg sys ifName chipId) chips (acquireChipId sys chips ifName chipId) ↔
        ∀ msg, acquireChipIdMsg sys ifName chipId = .ok msg →
          (chips.Exchanges msg → chips.Arrives msg (some parserChipId) chipId) → chips.Accepts msg := by
  refine ⟨fun msg handler data => reports_iff wire msg handler data, ?_, ?_, ?_, ?_, ?_⟩
  · intro ifName power
    exact truthful_iff (setTxPowerMsg_refuses sys ifName power) orFailure_success
  · intro ifName code
    exact truthful_iff (wifiSetCountryCodeMsg_refuses sys ifName code) (fun _ => Iff.rfl)
  · intro ifName scanMac
    exact truthful_iff (setScanMacAddrMsg_refuses sys ifName scanMac) (fun _ => Iff.rfl)
  · intro ifName scan
    exact truthful_iff (wifiCmdScanMsg_refuses sys ifName scan) orFailure_success
  · intro ifName chipId
    exact ignoring_iff (acquireChipIdMsg_refuses sys ifName chipId)

def plain (δ : Type) : Wire δ := ⟨true, fun _ => 0, fun _ => 0, true, fun _ => ⟨[], [], .ack⟩, fun _ => none⟩

def busy : Wire Unit := { plain Unit with trylock := fun _ => EBUSY }
def refusing : Wire Unit := { plain Unit with answer := fun _ => ⟨[], [], .error ⟨-1, by decide⟩⟩ }
def deaf : Wire Unit := { plain Unit with receives := fun _ => some ⟨-9, by decide⟩ }
def mute : Wire (Except Int (Option UInt8)) := { plain _ with send := fun _ => -1 }

def roomy : System Unit := ⟨⟨fun _ _ => true, fun _ => true⟩, fun _ => 3, true, 28⟩

/-- A mutex that stays busy and a request that the kernel refuses are reported as success, the call does not come back when
    its receives fail, and the chip is reported as found by a message that did not go out. -/
theorem exchange_misreports : ¬Reports busy (wiphyDump roomy 3) none () ∧ ¬Reports refusing (wiphyDump roomy 3) none () ∧
    ¬Reports deaf (wiphyDump roomy 3) none () ∧
    ¬Truthful (acquireChipIdMsg roomy (some ()) (some 0)) mute (acquireChipId roomy mute (some ()) (some 0)) := by
  have locked : Locked (fun _ => 0) := ⟨0, by decide, rfl, fun m less => absurd less (Nat.not_lt_zero m)⟩
  refine ⟨fun right => ?_, fun right => ?_, fun right => ?_, fun truthful => ?_⟩
  · exact ((reports_iff _ _ _ _).mp right).1 ⟨rfl, fun _ _ => rfl⟩
  · have exchanges : refusing.Exchanges (wiphyDump roomy 3) := ⟨⟨rfl, locked, Int.le_refl 0⟩, rfl⟩
    exact (((reports_iff _ _ _ _).mp right).2 exchanges).2
  · have exchanges : deaf.Exchanges (wiphyDump roomy 3) := ⟨⟨rfl, locked, Int.le_refl 0⟩, rfl⟩
    obtain ⟨⟨⟨more, enough⟩, -⟩, -⟩ := ((reports_iff _ _ _ _).mp right).2 exchanges
    simp [deaf] at enough
  · have fails : ¬(0 : Int) ≤ -1 := by decide
    have accepts := (ignoring_iff (acquireChipIdMsg_refuses _ _ _)).mp truthful (wiphyDump roomy 3) rfl
      (fun exchanges => absurd exchanges.1.2.2 fails)
    exact fails accepts.1.2.2

end
end Peripheral.Netlink
