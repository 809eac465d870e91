import Peripheral.Searches
import Peripheral.UsbdRegistry

/-!
What the functions of the registry do to the list, the memory and the session, and when they keep them in order. A
device that works is in the list with a bus and address of its own, is not freed, and has its session open.
-/
namespace Peripheral.Usbd
open Searches Sessions UsbdService Function List

def InitOutcome.Ok (o : InitOutcome) : Prop := o.sdk ∧ o.ctrIface ∧ o.ctrDevHandle ∧ o.pipeMemory ∧ o.pipeInfo

instance : DecidablePred InitOutcome.Ok := fun o =>
  inferInstanceAs (Decidable (o.sdk ∧ o.ctrIface ∧ o.ctrDevHandle ∧ o.pipeMemory ∧ o.pipeInfo))

namespace UsbdService
variable {s : UsbdService} {port : Nat} {k : Key}

def calls (s : UsbdService) (port : Nat) (made : List Call) : UsbdService :=
  { s with sdk := s.sdk ++ made.map (Prod.mk port) }

variable {o : InitOutcome}

theorem usbdInit_ok (new : (s.device port).initFlag = false) (ok : o.Ok) :
    s.usbdInit port o = (.success, s.calls port [.opens]) := by
  obtain ⟨sdk, claimed, opened, memory, pipe⟩ := ok
  simp [usbdInit, new, sdk, claimed, opened, memory, pipe, usbdClaimInterfaces, usbdOpenInterfaces, usbdGetCtrlPipe]
  rfl

theorem usbdInit_fails (new : (s.device port).initFlag = false) (failed : ¬ o.Ok) :
    ∃ ret, ret ≠ .success ∧ s.usbdInit port o = (ret, s.calls port (if o.sdk then [.opens, .closes] else [])) := by
  unfold InitOutcome.Ok at failed
  rw [usbdInit, new]
  by_cases sdk : o.sdk
  · by_cases claimed : o.ctrIface
    · by_cases opened : o.ctrDevHandle
      · by_cases memory : o.pipeMemory
        · have pipe : o.pipeInfo = false := by simpa [sdk, claimed, opened, memory] using failed
          refine ⟨.failure, nofun, ?_⟩
          simp [sdk, claimed, opened, memory, pipe, usbdClaimInterfaces, usbdOpenInterfaces, usbdGetCtrlPipe, returnGetPipes,
            usbExitHostSdk, usbInitHostSdk, calls]
        · refine ⟨.errMallocFail, nofun, ?_⟩
          simp [sdk, claimed, opened, memory, usbdClaimInterfaces, usbdOpenInterfaces, usbdGetCtrlPipe, returnGetPipes,
            usbExitHostSdk, usbInitHostSdk, calls]
      · refine ⟨.failure, nofun, ?_⟩
        simp [sdk, claimed, opened, usbdClaimInterfaces, usbdOpenInterfaces, returnOpenInterfaces, usbExitHostSdk,
          usbInitHostSdk, calls]
    · refine ⟨.failure, nofun, ?_⟩
      simp [sdk, claimed, usbdClaimInterfaces, returnClainInterfaces, usbExitHostSdk, usbInitHostSdk, calls]
  · refine ⟨.errIo, nofun, ?_⟩
    simp [sdk, calls]

def lost (s : UsbdService) (made : List Call) : UsbdService :=
  { s with
    device := update s.device s.next ⟨0, 0, false⟩
    next := s.next + 1
    freed := s.next :: s.freed
    sdk := s.sdk ++ made.map (Prod.mk s.next) }

def gained (s : UsbdService) (k : Key) : UsbdService :=
  { s with
    devList := s.next :: s.devList
    device := update s.device s.next ⟨k.1, k.2, true⟩
    next := s.next + 1
    sdk := s.sdk ++ [(s.next, .opens)] }

theorem attach_cases (s : UsbdService) (k : Key) (o : AttachOutcome) :
    (o.created ≠ .success ∧ s.usbdDeviceCreateAndAttach k.1 k.2 o = (o.created, s)) ∨
    (o.created = .success ∧ ¬ o.init.Ok ∧ ∃ ret, ret ≠ .success ∧ s.usbdDeviceCreateAndAttach k.1 k.2 o =
      (ret, s.lost (if o.init.sdk then [.opens, .closes, .closes] else [.closes]))) ∨
    (o.created = .success ∧ o.init.Ok ∧ o.fifo = false ∧
      s.usbdDeviceCreateAndAttach k.1 k.2 o = (.errInvalidParam, s.lost [.opens, .closes])) ∨
    (o.created = .success ∧ o.init.Ok ∧ o.fifo = true ∧ s.usbdDeviceCreateAndAttach k.1 k.2 o = (.success, s.gained k)) := by
  by_cases created : o.created = .success
  · -- The device is in front of the list when its initialisation begins.
    have start : s.usbdDeviceCreateAndAttach k.1 k.2 o =
        funAttachDevice ⟨s.next :: s.devList, update s.device s.next ⟨k.1, k.2, false⟩, s.next + 1, s.freed, s.sdk⟩
          s.next o := by
      simp [usbdDeviceCreateAndAttach, created, hostDeviceCreate, setDevice]
    rw [start, funAttachDevice]
    by_cases ok : o.init.Ok
    · rw [usbdInit_ok (by simp) ok]
      cases fifo : o.fifo with
      | false =>
        refine .inr (.inr (.inl ⟨created, ok, rfl, ?_⟩))
        simp [giveUp, usbdRelease, removeDevFromService, osalMemFree, setDevice, usbExitHostSdk, calls, lost]
      | true =>
        refine .inr (.inr (.inr ⟨created, ok, rfl, ?_⟩))
        simp [setInitFlag, setDevice, calls, gained]
    · obtain ⟨ret, failed, is⟩ := @usbdInit_fails
        ⟨s.next :: s.devList, update s.device s.next ⟨k.1, k.2, false⟩, s.next + 1, s.freed, s.sdk⟩ s.next o.init
        (by simp) ok
      refine .inr (.inl ⟨created, ok, ret, failed, ?_⟩)
      rw [is]
      cases o.init.sdk <;>
        simp [failed, giveUp, usbdRelease, removeDevFromService, osalMemFree, setDevice, usbExitHostSdk, calls, lost]
  · exact .inl ⟨created, by simp [usbdDeviceCreateAndAttach, created]⟩

def drop (s : UsbdService) (port : Nat) : UsbdService :=
  { s with
    devList := s.devList.erase port
    device := update s.device port ⟨0, 0, false⟩
    freed := port :: s.freed
    sdk := s.sdk ++ [(port, .closes)] }

theorem usbdDeviceDettach_found (found : s.findDevFromService k.1 k.2 = some port) :
    (s.usbdDeviceDettach k.1 k.2).2 = s.drop port := by
  have is : s.key port = k := by simpa using find?_some found
  have taken : (s.devList.eraseP fun tempPort => s.key tempPort = s.key port) = s.devList.erase port := by
    rw [is]
    exact eraseP_of_find? found
  rw [usbdDeviceDettach, found]
  simp only [funDetachDevice, removeDevFromService, taken]
  rfl

theorem removeBusDevs_turn (busNum : UInt8) (turns : Nat) :
    removeBusDevs busNum (turns + 1) s =
      match s.devList.find? fun tempPort => (s.device tempPort).busNum = busNum with
      | none => s
      | some port => removeBusDevs busNum turns (s.drop port) := by
  rw [removeBusDevs, usbdFindDevForBusNum]
  cases found : s.devList.find? fun tempPort => (s.device tempPort).busNum = busNum with
  | none => rfl
  | some port =>
    simp only [eraseP_of_find? found]
    rfl

/-- What holds of the list, the memory and the session, whatever devices are there. -/
structure Kept (s : UsbdService) : Prop where
  listed : ∀ port ∈ s.devList, port < s.next
  called : ∀ entry ∈ s.sdk, entry.1 < s.next
  dead : ∀ port ∈ s.freed, port < s.next
  ready : ∀ port ∈ s.devList, (s.device port).initFlag = true
  distinct : s.keys.Nodup
  live : ∀ port ∈ s.devList, port ∉ s.freed
  balanced : ∀ port, opened s.sdk port = some (decide (port ∈ s.devList))

theorem key_update_of_ne (device : HostDevice) {other : Nat} (differs : other ≠ port) :
    ((update s.device port device) other).key = s.key other := by
  rw [update_of_ne differs]
  rfl

section
variable (listed : ∀ port ∈ s.devList, port < s.next)
include listed

theorem map_key_update (device : HostDevice) :
    s.devList.map (fun port => ((update s.device s.next device) port).key) = s.keys :=
  map_congr_left fun port member => key_update_of_ne device (Nat.ne_of_lt (listed port member))

theorem keys_lost (made : List Call) : (s.lost made).keys = s.keys :=
  map_key_update listed _

theorem keys_gained (k : Key) : (s.gained k).keys = k :: s.keys := by
  have behind := map_key_update listed ⟨k.1, k.2, true⟩
  have front : (s.gained k).key s.next = k := by simp [key, gained, HostDevice.key]
  rw [keys, gained, map_cons]
  exact congr (congrArg cons front) behind

end

namespace Kept
variable (kept : s.Kept)
include kept

theorem next_closed : opened s.sdk s.next = some false :=
  opened_of_absent fun entry member => Nat.ne_of_lt (kept.called entry member)

theorem next_not_listed : s.next ∉ s.devList := fun member => absurd (kept.listed _ member) (Nat.lt_irrefl _)

theorem once : s.devList.Nodup := List.Nodup.of_map _ kept.distinct

theorem lost {made : List Call} (closed : made.foldl Call.turn (some false) = some false) : (s.lost made).Kept := by
  constructor
  · exact fun port member => Nat.lt_succ_of_lt (kept.listed port member)
  · intro entry member
    rcases mem_append.mp member with old | new
    · exact Nat.lt_succ_of_lt (kept.called entry old)
    · obtain ⟨call, -, rfl⟩ := mem_map.mp new
      exact Nat.lt_succ_self _
  · intro port member
    rcases mem_cons.mp member with rfl | old
    · exact Nat.lt_succ_self _
    · exact Nat.lt_succ_of_lt (kept.dead port old)
  · intro port member
    have old := Nat.ne_of_lt (kept.listed port member)
    simp only [UsbdService.lost, Function.update_of_ne old]
    exact kept.ready port member
  · rw [keys_lost kept.listed]
    exact kept.distinct
  · intro port member freed
    rcases mem_cons.mp freed with rfl | old
    · exact kept.next_not_listed member
    · exact kept.live port member old
  · intro port
    by_cases new : s.next = port
    · rw [← new, UsbdService.lost, opened_append_self, kept.next_closed, closed, decide_eq_false kept.next_not_listed]
    · rw [UsbdService.lost, opened_append_other _ _ new, kept.balanced]

theorem gained (absent : k ∉ s.keys) : (s.gained k).Kept := by
  constructor
  · intro port member
    rcases mem_cons.mp member with rfl | old
    · exact Nat.lt_succ_self _
    · exact Nat.lt_succ_of_lt (kept.listed port old)
  · intro entry member
    rcases mem_append.mp member with old | new
    · exact Nat.lt_succ_of_lt (kept.called entry old)
    · rw [mem_singleton.mp new]
      exact Nat.lt_succ_self _
  · exact fun port member => Nat.lt_succ_of_lt (kept.dead port member)
  · intro port member
    rcases mem_cons.mp member with rfl | old
    · simp [UsbdService.gained]
    · simp only [UsbdService.gained, Function.update_of_ne (Nat.ne_of_lt (kept.listed port old))]
      exact kept.ready port old
  · rw [keys_gained kept.listed]
    exact nodup_cons.mpr ⟨absent, kept.distinct⟩
  · intro port member
    rcases mem_cons.mp member with rfl | old
    · exact fun freed => absurd (kept.dead _ freed) (Nat.lt_irrefl _)
    · exact kept.live port old
  · intro port
    have call : [(s.next, Call.opens)] = [Call.opens].map (Prod.mk s.next) := rfl
    by_cases new : s.next = port
    · rw [← new, UsbdService.gained, call, opened_append_self, kept.next_closed, decide_eq_true mem_cons_self]
      rfl
    · rw [UsbdService.gained, call, opened_append_other _ _ new, kept.balanced]
      simp [Ne.symm new]

section
variable (listed : port ∈ s.devList)
include listed

theorem same_key {other : Nat} (also : other ∈ s.devList) (same : s.key other = s.key port) :
    other = port := inj_on_of_nodup_map kept.distinct also listed same

theorem mem_keys_drop : k ∈ (s.drop port).keys ↔ k ∈ s.keys ∧ k ≠ s.key port := by
  simp only [keys, mem_map]
  constructor
  · rintro ⟨other, member, is⟩
    obtain ⟨differs, there⟩ := kept.once.mem_erase_iff.mp member
    have same : (s.drop port).key other = s.key other := key_update_of_ne _ differs
    rw [same] at is
    exact ⟨⟨other, there, is⟩, fun its => differs (kept.same_key listed there (is.trans its))⟩
  · rintro ⟨⟨other, there, rfl⟩, differs⟩
    have ne : other ≠ port := fun its => differs (its ▸ rfl)
    exact ⟨other, kept.once.mem_erase_iff.mpr ⟨ne, there⟩, key_update_of_ne _ ne⟩

theorem drop : (s.drop port).Kept := by
  have rest {other : Nat} (member : other ∈ s.devList.erase port) : other ≠ port ∧ other ∈ s.devList :=
    kept.once.mem_erase_iff.mp member
  constructor
  · exact fun other member => kept.listed other (rest member).2
  · intro entry member
    rcases mem_append.mp member with old | new
    · exact kept.called entry old
    · rw [mem_singleton.mp new]
      exact kept.listed port listed
  · intro other member
    rcases mem_cons.mp member with rfl | old
    · exact kept.listed _ listed
    · exact kept.dead other old
  · intro other member
    obtain ⟨differs, there⟩ := rest member
    simp only [UsbdService.drop, Function.update_of_ne differs]
    exact kept.ready other there
  · have same : (s.drop port).keys = (s.devList.erase port).map s.key :=
      map_congr_left fun other member => key_update_of_ne _ (rest member).1
    rw [same]
    exact kept.distinct.sublist (erase_sublist.map _)
  · intro other member freed
    obtain ⟨differs, there⟩ := rest member
    rcases mem_cons.mp freed with its | old
    · exact differs its
    · exact kept.live other there old
  · intro other
    have call : [(port, Call.closes)] = [Call.closes].map (Prod.mk port) := rfl
    by_cases its : port = other
    · rw [← its, UsbdService.drop, call, opened_append_self, kept.balanced, decide_eq_true listed,
        decide_eq_false fun member => (rest member).1 rfl]
      rfl
    · rw [UsbdService.drop, call, opened_append_other _ _ its, kept.balanced]
      simp only [kept.once.mem_erase_iff, Ne.symm its, ne_eq, not_false_eq_true, true_and]

theorem again : (s.calls port [.closes, .opens]).Kept := by
  refine ⟨kept.listed, ?_, kept.dead, kept.ready, kept.distinct, kept.live, fun other => ?_⟩
  · intro entry member
    rcases mem_append.mp member with old | new
    · exact kept.called entry old
    · obtain ⟨call, -, rfl⟩ := mem_map.mp new
      exact kept.listed port listed
  · by_cases its : port = other
    · rw [← its, calls, opened_append_self, kept.balanced, decide_eq_true listed]
      rfl
    · rw [calls, opened_append_other _ _ its, kept.balanced]

end

theorem removeBusDevs (busNum : UInt8) {turns : Nat} (enough : s.devList.length ≤ turns) : (removeBusDevs busNum turns s).Kept ∧
      ∀ k, k ∈ (removeBusDevs busNum turns s).keys ↔ k ∈ s.keys ∧ k.1 ≠ busNum := by
  induction turns generalizing s with
  | zero =>
    have empty : s.keys = [] := by rw [keys, length_eq_zero_iff.mp (Nat.le_zero.mp enough), map_nil]
    refine ⟨kept, fun k => ?_⟩
    rw [removeBusDevs, empty]
    simp
  | succ turns ih =>
    rw [removeBusDevs_turn]
    cases found : s.devList.find? fun tempPort => (s.device tempPort).busNum = busNum with
    | none =>
      refine ⟨kept, fun k => (and_iff_left_of_imp fun member => ?_).symm⟩
      obtain ⟨port, listed, rfl⟩ := mem_map.mp member
      exact of_decide_eq_false (Bool.eq_false_iff.mpr (find?_eq_none.mp found port listed))
    | some port =>
      have listed := mem_of_find?_eq_some found
      have its : (s.key port).1 = busNum :=
        of_decide_eq_true (@find?_some _ (fun port => (s.device port).busNum = busNum) _ _ found)
      have fewer : (s.drop port).devList.length ≤ turns := by
        rw [UsbdService.drop, length_erase_of_mem listed]
        omega
      obtain ⟨kept', keys'⟩ := ih (kept.drop listed) fewer
      refine ⟨kept', fun k => ?_⟩
      rw [keys', kept.mem_keys_drop listed, and_assoc]
      refine and_congr_right fun _ => and_iff_right_of_imp fun other same => other (same ▸ its)

end Kept

theorem findDevFromService_some (found : s.findDevFromService k.1 k.2 = some port) : port ∈ s.devList ∧ s.key port = k :=
  ⟨mem_of_find?_eq_some found, by simpa using find?_some found⟩

theorem findDevFromService_none (found : s.findDevFromService k.1 k.2 = none) : k ∉ s.keys := by
  intro member
  obtain ⟨port, listed, rfl⟩ := mem_map.mp member
  simpa [key] using find?_eq_none.mp found port listed

def reopening (s : UsbdService) (port : Nat) : UsbdService :=
  { s with
    device := update s.device port ⟨(s.device port).busNum, (s.device port).devAddr, false⟩
    sdk := s.sdk ++ [(port, .closes)] }

theorem reopening_new : ((s.reopening port).device port).initFlag = false := by simp [reopening]

theorem reOpenDevice_start (s : UsbdService) (port : Nat) (o : InitOutcome) : s.reOpenDevice port o =
      if ((s.reopening port).usbdInit port o).1 ≠ .success then
        (((s.reopening port).usbdInit port o).1, ((s.reopening port).usbdInit port o).2.giveUp port)
      else (.success, ((s.reopening port).usbdInit port o).2.setInitFlag port) := by
  have start : ((s.usbdRelease port).setDevice port { (s.usbdRelease port).device port with
      busNum := (s.device port).busNum, devAddr := (s.device port).devAddr }) = s.reopening port := by
    simp [reopening, usbdRelease, usbExitHostSdk, setDevice]
  rw [reOpenDevice, start]

theorem reOpenDevice_ok (ready : (s.device port).initFlag = true) (ok : o.Ok) :
    s.reOpenDevice port o = (.success, s.calls port [.closes, .opens]) := by
  have same : (⟨(s.device port).busNum, (s.device port).devAddr, true⟩ : HostDevice) = s.device port := by
    rw [← ready]
  rw [reOpenDevice_start, usbdInit_ok reopening_new ok]
  simp [reopening, setInitFlag, setDevice, calls, same]

/-- A failure leaves the session more often than it was entered. -/
theorem reOpenDevice_fails (failed : ¬ o.Ok) : (s.reOpenDevice port o).2.sdk =
      s.sdk ++ (Call.closes :: (if o.sdk then [.opens, .closes] else []) ++ [Call.closes]).map (Prod.mk port) := by
  obtain ⟨ret, wrong, is⟩ := usbdInit_fails (@reopening_new s port) failed
  rw [reOpenDevice_start, is, if_pos wrong]
  simp [reopening, giveUp, usbdRelease, removeDevFromService, osalMemFree, setDevice, usbExitHostSdk, calls]

def Reopens (s : UsbdService) (k : Key) (configId : UInt8) (o : ConfigOutcome) : Prop :=
  k ∈ s.keys ∧ o.old.isSome ∧ o.old ≠ some configId ∧ o.set ∧ o.new = some configId ∧ configId ≠ 0

instance (s : UsbdService) (k : Key) (configId : UInt8) (o : ConfigOutcome) : Decidable (s.Reopens k configId o) :=
  inferInstanceAs (Decidable (_ ∧ _))

theorem Kept.dispatchSetConfig_same (kept : s.Kept) {configId : UInt8} {o : ConfigOutcome} (same : ¬ s.Reopens k configId o) :
    (s.dispatchSetConfig k.1 k.2 configId o).2 = s := by
  rw [dispatchSetConfig]
  cases found : s.findDevFromService k.1 k.2 with
  | none => rfl
  | some port =>
    obtain ⟨listed, its⟩ := findDevFromService_some found
    have member : k ∈ s.keys := mem_map.mpr ⟨port, listed, its⟩
    unfold Reopens at same
    simp only [kept.ready port listed, if_true, funSetActiveConfig]
    cases old : o.old with
    | none => rfl
    | some configIdOld =>
      rw [old] at same
      by_cases equal : configId = configIdOld
      · simp [equal]
      · by_cases set : o.set
        · by_cases new : o.new = some configId
          · have zero : configId = 0 := by simpa [member, Ne.symm equal, set, new] using same
            simp [set, new, zero]
          · simp [equal, set, new]
        · simp [equal, set]

theorem Kept.dispatchSetConfig_reopens (kept : s.Kept) {configId : UInt8} {o : ConfigOutcome}
    (reopens : s.Reopens k configId o) : ∃ port ∈ s.devList, s.key port = k ∧
      (s.dispatchSetConfig k.1 k.2 configId o).2 = (s.reOpenDevice port o.init).2 := by
  obtain ⟨member, some_, differs, set, new, zero⟩ := reopens
  obtain ⟨configIdOld, old⟩ := Option.isSome_iff_exists.mp some_
  cases found : s.findDevFromService k.1 k.2 with
  | none => exact absurd member (findDevFromService_none found)
  | some port =>
    obtain ⟨listed, its⟩ := findDevFromService_some found
    refine ⟨port, listed, its, ?_⟩
    rw [old] at differs
    have other : configId ≠ configIdOld := fun same => differs (same ▸ rfl)
    simp [dispatchSetConfig, found, kept.ready port listed, funSetActiveConfig, old, other, set, new, zero]

structure Broken (s : UsbdService) : Prop where
  listed : ∀ port ∈ s.devList, port < s.next
  wrong : (∃ port, opened s.sdk port = none) ∨ ¬ s.keys.Nodup

theorem Broken.lost (broken : s.Broken) (made : List Call) : (s.lost made).Broken := by
  refine ⟨fun port member => Nat.lt_succ_of_lt (broken.listed port member), ?_⟩
  rcases broken.wrong with ⟨port, wrong⟩ | twice
  · exact .inl ⟨port, opened_append_none wrong⟩
  · rw [keys_lost broken.listed]
    exact .inr twice

theorem Broken.gained (broken : s.Broken) (k : Key) : (s.gained k).Broken := by
  constructor
  · intro port member
    rcases mem_cons.mp member with rfl | old
    · exact Nat.lt_succ_self _
    · exact Nat.lt_succ_of_lt (broken.listed port old)
  · rcases broken.wrong with ⟨port, wrong⟩ | twice
    · exact .inl ⟨port, opened_append_none wrong⟩
    · rw [keys_gained broken.listed]
      exact .inr fun once => twice (nodup_cons.mp once).2

theorem Broken.attach (broken : s.Broken) (k : Key) (o : AttachOutcome) : (s.usbdDeviceCreateAndAttach k.1 k.2 o).2.Broken := by
  rcases s.attach_cases k o with ⟨-, is⟩ | ⟨-, -, _, -, is⟩ | ⟨-, -, -, is⟩ | ⟨-, -, -, is⟩
  · rw [is]
    exact broken
  · rw [is]
    exact broken.lost _
  · rw [is]
    exact broken.lost _
  · rw [is]
    exact broken.gained k

/-- A failed initialisation leaves the session once too often, and a second attachment is in the list twice. -/
theorem Kept.broken_attach (kept : s.Kept) {o : AttachOutcome} (created : o.created = .success)
    (wrong : ¬ o.init.Ok ∨ o.fifo = true ∧ k ∈ s.keys) : (s.usbdDeviceCreateAndAttach k.1 k.2 o).2.Broken := by
  rcases s.attach_cases k o with ⟨uncreated, -⟩ | ⟨-, -, ret, -, is⟩ | ⟨-, ok, noFifo, -⟩ | ⟨-, ok, -, is⟩
  · exact absurd created uncreated
  · rw [is]
    refine ⟨fun port member => Nat.lt_succ_of_lt (kept.listed port member), .inl ⟨s.next, ?_⟩⟩
    rw [UsbdService.lost, opened_append_self, kept.next_closed]
    cases o.init.sdk <;> rfl
  · rcases wrong with failed | ⟨fifo, -⟩
    · exact absurd ok failed
    · cases fifo.symm.trans noFifo
  · have twice : k ∈ s.keys := (wrong.resolve_left (not_not.mpr ok)).2
    rw [is]
    refine ⟨fun port member => ?_, .inr ?_⟩
    · rcases mem_cons.mp member with rfl | old
      · exact Nat.lt_succ_self _
      · exact Nat.lt_succ_of_lt (kept.listed port old)
    · rw [keys_gained kept.listed]
      exact fun once => (nodup_cons.mp once).1 twice

end UsbdService

end Peripheral.Usbd
