import Peripheral.UsbPoolCounts

/-!
Runs of careful calls. Each call changes one pool and what is outstanding in it,
makes a pool or removes one; the balance of the others is not touched.
-/
namespace Peripheral.UsbPool
open Peripheral.Usb Function Host List Option

/-- Every pool is balanced and has a device of its own, and nothing is outstanding in pools that are gone. -/
structure Sound (s : System) : Prop where
  identified : Identified s.host
  listed : ∀ p pool, s.host.pools p = some pool → p ∈ s.host.ifacePoolList
  owned : ∀ d device, s.host.devices d = some device → d < s.host.fresh ∧ ∃ p pool, s.host.pools p = some pool ∧
    pool.device = d ∧ pool.busNum = device.busNum ∧ pool.devAddr = device.devAddr
  balanced : ∀ p pool, s.host.pools p = some pool → ∃ device, s.host.devices pool.device = some device ∧
    Balanced p pool device (s.claims p) (s.selected p) (s.handles p)
  gone : ∀ p, s.host.pools p = none → s.claims p = [] ∧ s.handles p = []
  later : ∀ p, s.host.fresh ≤ p → s.selected p = []

def Busy (s : System) : Prop := ∀ p pool, s.host.pools p = some pool → s.claims p ≠ []

section
variable {s : System} {p : Nat} {pool : InterfacePool} {device : Device}

theorem Sound.start (idNum : Nat) : Sound (System.start idNum) :=
  ⟨Identified.start idNum, by simp [System.start, Host.start], by simp [System.start, Host.start],
    by simp [System.start, Host.start], by simp [System.start], by simp [System.start]⟩

theorem Sound.consistent (sound : Sound s) (busy : Busy s) : Consistent s := by
  refine ⟨?_, ?_⟩
  · intro p member
    obtain ⟨pool, there, _⟩ := sound.identified.live p member
    obtain ⟨device, known, balanced⟩ := sound.balanced p pool there
    exact ⟨pool, device, there, known, balanced.agrees⟩
  · intro p
    constructor
    · intro member
      obtain ⟨pool, there, _⟩ := sound.identified.live p member
      exact .inl (busy p pool there)
    · intro outstanding
      cases there : s.host.pools p with
      | none =>
        obtain ⟨claims, handles⟩ := sound.gone p there
        rcases outstanding with some_ | some_
        · exact absurd claims some_
        · exact absurd handles some_
      | some pool => exact sound.listed p pool there

theorem Sound.below (sound : Sound s) (there : s.host.pools p = some pool) : p < s.host.fresh :=
  sound.identified.below p (sound.listed p pool there)

theorem Sound.fresh_absent (sound : Sound s) : s.host.pools (s.host.fresh + 1) = none := by
  cases there : s.host.pools (s.host.fresh + 1) with
  | none => rfl
  | some pool' => exact absurd (sound.below there) (by omega)

variable {pool' : InterfacePool}

theorem Sound.own_device (sound : Sound s) (there : s.host.pools p = some pool) {q : Nat}
    (there' : s.host.pools q = some pool') (same : pool'.device = pool.device) : q = p := by
  obtain ⟨device, known, balanced⟩ := sound.balanced p pool there
  obtain ⟨device', known', balanced'⟩ := sound.balanced q pool' there'
  rw [same, known] at known'
  cases known'
  have owner := balanced'.owner
  rw [balanced.owner] at owner
  cases owner
  rfl

theorem Sound.owned_other (sound : Sound s) (there : s.host.pools p = some pool) {d : Nat} {other : Device}
    (known : s.host.devices d = some other) (differs : d ≠ pool.device) : d < s.host.fresh ∧ ∃ q pool', q ≠ p ∧
      s.host.pools q = some pool' ∧ pool'.device = d ∧ pool'.busNum = other.busNum ∧ pool'.devAddr = other.devAddr := by
  obtain ⟨small, q, pool', there', rest⟩ := sound.owned d other known
  refine ⟨small, q, pool', ?_, there', rest⟩
  rintro rfl
  rw [there] at there'
  cases there'
  exact differs rest.1.symm

variable {handles : List (InterfaceHandle × Nat)} {claims selected : List Nat}

theorem Sound.change (sound : Sound s) (there : s.host.pools p = some pool)
    (known : s.host.devices pool.device = some device) {device' : Device} (alike : pool.Alike pool')
    (same : device'.busNum = device.busNum ∧ device'.devAddr = device.devAddr)
    (balanced : Balanced p pool' device' claims selected handles) :
    Sound ⟨(s.host.setPool p pool').setDevice pool.device device', update s.claims p claims,
      update s.selected p selected, update s.handles p handles⟩ := by
  have below := sound.below there
  refine ⟨?_, ?_, ?_, ?_, ?_, ?_⟩
  · have identified := sound.identified.setPool there alike
    exact ⟨identified.live, identified.nodup, identified.below, identified.ids⟩
  · intro q pool₁ is
    by_cases here : q = p
    · subst here
      exact sound.listed q pool there
    · simp only [setDevice_pools, setPool_pools, update_of_ne here] at is
      exact sound.listed q pool₁ is
  · intro d device₁ is
    simp only [setDevice_devices, setPool_devices] at is
    by_cases mine : d = pool.device
    · subst mine
      rw [update_self] at is
      cases is
      obtain ⟨small, q, pool₁, there₁, device₁, busNum, devAddr⟩ := sound.owned pool.device device known
      have only := sound.own_device there there₁ device₁
      subst only
      rw [there] at there₁
      cases there₁
      refine ⟨small, q, pool', by simp, alike.device, ?_, ?_⟩
      · rw [alike.busNum, busNum, same.1]
      · rw [alike.devAddr, devAddr, same.2]
    · rw [update_of_ne mine] at is
      obtain ⟨small, q, pool₁, other, there₁, rest⟩ := sound.owned_other there is mine
      exact ⟨small, q, pool₁, by simp [update_of_ne other, there₁], rest⟩
  · intro q pool₁ is
    simp only [setDevice_pools, setPool_pools] at is
    by_cases here : q = p
    · subst here
      rw [update_self] at is
      cases is
      refine ⟨device', ?_, ?_⟩
      · simp [alike.device]
      · simp only [update_self]
        exact balanced
    · rw [update_of_ne here] at is
      obtain ⟨device₁, known₁, balanced₁⟩ := sound.balanced q pool₁ is
      have other : pool₁.device ≠ pool.device := fun equal => here (sound.own_device there is equal)
      refine ⟨device₁, by simp [update_of_ne other, known₁], ?_⟩
      simp only [update_of_ne here]
      exact balanced₁
  · intro q absent
    by_cases here : q = p
    · subst here
      simp at absent
    · simp only [setDevice_pools, setPool_pools, update_of_ne here] at absent ⊢
      exact sound.gone q absent
  · intro q large
    simp only [setDevice_fresh, setPool_fresh] at large
    have other : q ≠ p := by omega
    simp only [update_of_ne other]
    exact sound.later q large

theorem Sound.change_busy (sound : Sound s) (there : s.host.pools p = some pool)
    (known : s.host.devices pool.device = some device) {device' : Device}
    (alike : pool.Alike pool')
    (same : device'.busNum = device.busNum ∧ device'.devAddr = device.devAddr)
    (balanced : Balanced p pool' device' claims selected handles)
    (busy : ∀ q pool', q ≠ p → s.host.pools q = some pool' → s.claims q ≠ []) (some_ : claims ≠ []) :
    let s' : System := ⟨(s.host.setPool p pool').setDevice pool.device device', update s.claims p claims,
      update s.selected p selected, update s.handles p handles⟩
    Sound s' ∧ Busy s' := by
  refine ⟨sound.change there known alike same balanced, ?_⟩
  intro q pool₁ is
  by_cases here : q = p
  · subst here
    simp only [update_self]
    exact some_
  · simp only [setDevice_pools, setPool_pools, update_of_ne here] at is ⊢
    exact busy q pool₁ here is

def Host.remove (h : Host) (p d : Nat) : Host :=
  { h.dropPool p with usbDevs := h.usbDevs.erase d, devices := update h.devices d none }

@[simp] theorem Host.setPool_remove (h : Host) (p d : Nat) (pool : InterfacePool) :
    (h.setPool p pool).remove p d = h.remove p d := by simp [remove, dropPool]

@[simp] theorem Host.setDevice_remove (h : Host) (p d : Nat) (device : Device) :
    (h.setDevice d device).remove p d = h.remove p d := by simp [remove, dropPool]

theorem Sound.remove (sound : Sound s) (there : s.host.pools p = some pool) :
    Sound ⟨s.host.remove p pool.device, update s.claims p [], s.selected, update s.handles p []⟩ := by
  have stays : ∀ q pool₁, (s.host.remove p pool.device).pools q = some pool₁ → q ≠ p ∧ s.host.pools q = some pool₁ := by
    intro q pool₁ is
    simp only [Host.remove, Host.dropPool] at is
    by_cases here : q = p
    · subst here
      simp at is
    · rw [update_of_ne here] at is
      exact ⟨here, is⟩
  refine ⟨?_, ?_, ?_, ?_, ?_, sound.later⟩
  · have identified := sound.identified.drop p
    exact ⟨identified.live, identified.nodup, identified.below, identified.ids⟩
  · intro q pool₁ is
    obtain ⟨other, is⟩ := stays q pool₁ is
    exact (mem_erase_of_ne other).mpr (sound.listed q pool₁ is)
  · intro d device₁ is
    simp only [Host.remove, Host.dropPool] at is
    by_cases mine : d = pool.device
    · subst mine
      simp at is
    · rw [update_of_ne mine] at is
      obtain ⟨small, q, pool₁, other, there₁, rest⟩ := sound.owned_other there is mine
      exact ⟨small, q, pool₁, by simp [Host.remove, Host.dropPool, update_of_ne other, there₁], rest⟩
  · intro q pool₁ is
    obtain ⟨other, is⟩ := stays q pool₁ is
    obtain ⟨device₁, known₁, balanced₁⟩ := sound.balanced q pool₁ is
    have different : pool₁.device ≠ pool.device := fun equal => other (sound.own_device there is equal)
    refine ⟨device₁, by simp [Host.remove, Host.dropPool, update_of_ne different, known₁], ?_⟩
    simp only [update_of_ne other]
    exact balanced₁
  · intro q absent
    by_cases here : q = p
    · subst here
      simp
    · simp only [Host.remove, Host.dropPool, update_of_ne here] at absent ⊢
      exact sound.gone q absent

theorem Busy.remove (busy : ∀ q pool', q ≠ p → s.host.pools q = some pool' → s.claims q ≠ []) (d : Nat) :
    Busy ⟨s.host.remove p d, update s.claims p [], s.selected, update s.handles p []⟩ := by
  intro q pool₁ is
  by_cases here : q = p
  · subst here
    simp [Host.remove, Host.dropPool] at is
  · simp only [Host.remove, Host.dropPool, update_of_ne here] at is ⊢
    exact busy q pool₁ here is

theorem ifDestoryDevice_balanced {h : Host} (identified : Identified h) (member : p ∈ h.ifacePoolList)
    (there : h.pools p = some pool) {d : Nat} (known : h.devices d = some device) (once : device.refcnt = 1) :
    ifDestoryDevice h p (some d) true = some (true, if 0 < pool.refCount - 1 then
      h.setPool p { pool with refCount := pool.refCount - 1 } else h.remove p d) := by
  by_cases shared : 0 < pool.refCount - 1
  · rw [if_pos shared]
    exact ifDestoryDevice_shared there shared
  · rw [if_neg shared]
    have counted := identified.setPool there (show pool.Alike { pool with refCount := pool.refCount - 1 } from
      .of_same rfl rfl rfl rfl rfl)
    obtain ⟨_, resolves⟩ := counted.unambiguous
    obtain ⟨_, _, _, destroys⟩ := resolves p member
    have closes : rawCloseDevice ((h.setPool p { pool with refCount := pool.refCount - 1 }).dropPool p) d =
        some (h.remove p d) := by
      have same : (h.setPool p { pool with refCount := pool.refCount - 1 }).dropPool p = h.dropPool p := by
        simp [dropPool]
      have kept : (h.dropPool p).devices d = some device := known
      simp only [rawCloseDevice, same, kept, bind_eq_bind, bind_some, once, Int.sub_self, gt_iff_lt, Int.lt_irrefl, if_false]
      rfl
    simp only [ifDestoryDevice, there, bind_eq_bind, bind_some, if_true, gt_iff_lt, if_neg shared, destroys,
      Bool.not_true, Bool.false_eq_true, if_false, closes]
    rfl

theorem Sound.undone (sound : Sound s) (there : s.host.pools p = some pool)
    (busy : ∀ q pool', q ≠ p → s.host.pools q = some pool' → s.claims q ≠ []) (made : s.claims p = [] → s.handles p = []) :
    ∃ h', ifDestoryDevice (s.host.setPool p { pool with refCount := pool.refCount + 1 }) p (some pool.device) true =
      some (true, h') ∧ Sound { s with host := h' } ∧ Busy { s with host := h' } := by
  obtain ⟨device, known, balanced⟩ := sound.balanced p pool there
  have member := sound.listed p pool there
  have identified := sound.identified.setPool there (show pool.Alike { pool with refCount := pool.refCount + 1 } from
    .of_same rfl rfl rfl rfl rfl)
  have counted : (s.host.setPool p { pool with refCount := pool.refCount + 1 }).pools p =
    some { pool with refCount := pool.refCount + 1 } := by simp
  refine ⟨_, ifDestoryDevice_balanced identified member counted known balanced.once, ?_⟩
  simp only [setPool_setPool, Int.add_sub_cancel, setPool_remove]
  by_cases some_ : s.claims p = []
  · have last : ¬ 0 < pool.refCount := by
      rw [balanced.refCount, some_]
      simp
    have removed := sound.remove there
    have left : Busy ⟨s.host.remove p pool.device, update s.claims p [], s.selected,
      update s.handles p []⟩ :=
      Busy.remove busy pool.device
    have claims : update s.claims p [] = s.claims := by rw [← some_, update_eq_self]
    have handles : update s.handles p [] = s.handles := by rw [← made some_, update_eq_self]
    rw [claims, handles] at removed left
    rw [if_neg last]
    exact ⟨removed, left⟩
  · have shared : 0 < pool.refCount := by
      rw [balanced.refCount]
      have := length_pos_of_ne_nil some_
      omega
    rw [if_pos shared]
    have same : s.host.setPool p { pool with refCount := pool.refCount } = s.host := s.host.setPool_self there
    rw [same]
    refine ⟨sound, ?_⟩
    intro q pool' is
    by_cases here : q = p
    · rw [here]
      exact some_
    · exact busy q pool' here is

def System.noteClaim (s : System) (returned : Option ObjRef) : System :=
  match returned with
  | none => s
  | some o => s.addClaim o

theorem System.current_some {n : UInt8} {i : Nat} (found : current pool n = some i) :
    ∃ obj, pool.interfaceList[i]? = some obj ∧ obj.interfaceIndex = n := by
  obtain ⟨inside, finds, _⟩ := findIdx?_eq_some_iff_getElem.mp found
  refine ⟨pool.interfaceList[i], getElem?_eq_getElem inside, ?_⟩
  simp only [InterfaceQuery.finds, Bool.and_eq_true, decide_eq_true_eq] at finds
  exact finds.1

theorem Sound.noted (sound : Sound s) (there : s.host.pools p = some pool) (known : s.host.devices pool.device = some device)
    (busy : ∀ q pool', q ≠ p → s.host.pools q = some pool' → s.claims q ≠ []) {i : Nat} {obj : SdkInterface}
    (place : pool.interfaceList[i]? = some obj) (refCount : Int) (device' : Device)
    (counted : refCount = obj.refCount + if obj.interfaceIndex ≠ usbCtrlInterfaceId then 1 else 0)
    (same : device'.privateObject = device.privateObject ∧ device'.refcnt = device.refcnt ∧ device'.busNum = device.busNum ∧
      device'.devAddr = device.devAddr)
    (bits : ∀ n ≠ usbCtrlInterfaceId, device'.claimedInterfaces.getLsbD n.toNat = true ↔
      device.claimedInterfaces.getLsbD n.toNat = true ∨ n = obj.interfaceIndex) :
    let host := (s.host.setPool p ({ pool with refCount := pool.refCount + 1 }.setObj i
      { obj with refCount := refCount, session := true })).setDevice pool.device device'
    Sound ({ s with host := host }.noteClaim (some ⟨p, i⟩)) ∧ Busy ({ s with host := host }.noteClaim (some ⟨p, i⟩)) := by
  obtain ⟨_, known', balanced⟩ := sound.balanced p pool there
  rw [known] at known'
  cases known'
  have alike : pool.Alike ({ pool with refCount := pool.refCount + 1 }.setObj i
      { obj with refCount := refCount, session := true }) := by
    have first : pool.Alike { pool with refCount := pool.refCount + 1 } := .of_same rfl rfl rfl rfl rfl
    exact first.trans (.setObj place rfl)
  have kept : { obj with refCount := refCount, session := true }.interfaceIndex = obj.interfaceIndex ∧
      { obj with refCount := refCount, session := true }.status = obj.status ∧
      { obj with refCount := refCount, session := true }.parentObjectId = obj.parentObjectId := ⟨rfl, rfl, rfl⟩
  have claimed := balanced.claim place kept rfl same.1 same.2.1 counted bits
  have changed := sound.change_busy there known alike same.2.2 claimed busy (cons_ne_nil _ _)
  rw [update_eq_self, update_eq_self] at changed
  exact changed

/-- An interface with a count is claimed already: a claim of it is outstanding, or one stands on the object. -/
theorem Balanced.claimed_already (balanced : Balanced p pool device claims selected handles) {i : Nat} {obj : SdkInterface}
    (place : pool.interfaceList[i]? = some obj) (ordinary : obj.interfaceIndex ≠ usbCtrlInterfaceId) (some_ : obj.refCount ≠ 0)
    (careful : (∃ j ∈ claims, pool.number j = some obj.interfaceIndex) ∨ handles.countP (fun handle => handle.2 = i) = 0) :
    device.claimedInterfaces.getLsbD obj.interfaceIndex.toNat = true := by
  rw [balanced.kernel _ ordinary]
  rcases careful with claimed | free
  · exact claimed
  · refine ⟨i, ?_, pool.number_of_place place⟩
    have count := (balanced.objects i obj place).2.2
    simp only [standing, if_neg ordinary, free, Nat.add_zero] at count
    by_contra absent
    rw [count_eq_zero.mpr absent] at count
    exact some_ count

theorem Sound.claim (sound : Sound s) (there : s.host.pools p = some pool)
    (busy : ∀ q pool', q ≠ p → s.host.pools q = some pool' → s.claims q ≠ []) (made : s.claims p = [] → s.handles p = [])
    (n : UInt8) (devHandle : Option Nat) (handle : System.current pool n = none → devHandle = some pool.device)
    (careful : ∀ i, System.current pool n = some i →
      n = usbCtrlInterfaceId ∨ 0 < s.claimsOf p pool n ∨ s.handlesOn ⟨p, i⟩ = 0)
    (attached : Attached) (accepts : attached.claims = true) :
    ∃ returned h', claimObj (s.host.setPool p { pool with refCount := pool.refCount + 1 }) p devHandle n attached =
      some (returned, h') ∧ Sound ({ s with host := h' }.noteClaim returned) ∧
        Busy ({ s with host := h' }.noteClaim returned) := by
  obtain ⟨device, known, balanced⟩ := sound.balanced p pool there
  obtain ⟨h', destroyed, undone, left⟩ := sound.undone there busy made
  have counted : (s.host.setPool p { pool with refCount := pool.refCount + 1 }).pools p =
    some { pool with refCount := pool.refCount + 1 } := by simp
  cases found : System.current pool n with
  | none =>
    have absent : ifFindInterfaceObj { pool with refCount := pool.refCount + 1 } (.interfaceIndex n) true true =
        (none, { pool with refCount := pool.refCount + 1 }) := by
      unfold ifFindInterfaceObj
      rw [show ({ pool with refCount := pool.refCount + 1 } : InterfacePool).interfaceList.findIdx?
        ((InterfaceQuery.interfaceIndex n).finds ·) = none from found]
    refine ⟨none, h', ?_, undone, left⟩
    simp only [claimObj, counted, absent, bind_eq_bind, bind_some, setPool_setPool, handle found, destroyed]
    rfl
  | some i =>
    obtain ⟨obj, place, number⟩ := System.current_some found
    obtain ⟨status, _, _⟩ := balanced.objects i obj place
    have same : (s.host.setPool p { pool with refCount := pool.refCount + 1 }).devices pool.device = some device := known
    rw [claimObj_eq counted found place status]
    by_cases control : n = usbCtrlInterfaceId
    · have noted := sound.noted there known busy place obj.refCount device (by simp [number, control]) ⟨rfl, rfl, rfl, rfl⟩
        (by intro m ordinary; simp [number, control, ordinary])
      rw [setDevice_self _ (by exact known)] at noted
      rw [if_pos control, setPool_setPool]
      exact ⟨_, _, rfl, noted⟩
    · have one : obj.refCount + 1 = obj.refCount + if obj.interfaceIndex ≠ usbCtrlInterfaceId then 1 else 0 := by
        rw [if_pos (by rw [number]; exact control)]
      simp only [if_neg control, setPool_setPool, same, bind_some, accepts]
      by_cases first : obj.refCount = 0
      · simp only [if_pos first]
        by_cases small : n.toNat < usbMaxInterfaces
        · obtain ⟨device', claimed, owner, once, busNum, devAddr, bits⟩ := rawClaimInterface_accepted small device
          rw [claimed]
          refine ⟨_, _, rfl, ?_⟩
          refine sound.noted there known busy place (obj.refCount + 1) device' one ⟨owner, once, busNum, devAddr⟩ ?_
          intro m _
          rw [bits m, number]
          simp
        · have refused : rawClaimInterface device n true = none := if_pos (by omega)
          rw [refused, destroyed]
          exact ⟨none, h', rfl, undone, left⟩
      · simp only [if_neg first]
        have already : device.claimedInterfaces.getLsbD n.toNat = true := by
          rw [← number] at control careful found ⊢
          apply balanced.claimed_already place control first
          rcases (careful i found).resolve_left control with claimed | free
          · exact .inl (by simpa [System.claimsOf] using claimed)
          · exact .inr free
        have noted := sound.noted there known busy place (obj.refCount + 1) device one ⟨rfl, rfl, rfl, rfl⟩ (by
          intro m _
          rw [number]
          constructor
          · exact .inl
          · rintro (set | rfl)
            · exact set
            · exact already)
        rw [setDevice_self _ (by exact known)] at noted
        exact ⟨_, _, rfl, noted⟩

def newObjects (config : RawConfig) (objectId : Nat) : List SdkInterface :=
  createCtrPipe objectId :: usbProtocalCreatInterfaceObj config objectId

def Host.make (h : Host) (busNum devAddr : UInt8) (config : RawConfig) : Host :=
  ⟨h.nextId, h.fresh + 2, h.ifacePoolList ++ [h.fresh + 1], h.fresh :: h.usbDevs,
    update h.pools (h.fresh + 1) (some (newPool h busNum devAddr h.fresh (newObjects config h.nextId))),
    update h.devices h.fresh (some ⟨busNum, devAddr, 1, 0, some (h.fresh + 1)⟩)⟩

theorem Sound.unopened (sound : Sound s) {busNum usbAddr : UInt8} (absent : findPool s.host (.normal busNum usbAddr) = none)
    (attached : Attached) :
    rawOpenDevice s.host busNum usbAddr attached = if attached.opens then
      (some s.host.fresh, { s.host.setDevice s.host.fresh ⟨busNum, usbAddr, 1, 0, none⟩ with
        fresh := s.host.fresh + 1, usbDevs := s.host.fresh :: s.host.usbDevs }) else (none, s.host) := by
  have unknown : (s.host.usbDevs.findSome? fun d => (s.host.devices d).bind fun device =>
      if device.busNum = busNum && device.devAddr = usbAddr then some (d, device) else none) = none := by
    rw [findSome?_eq_none_iff]
    intro d _
    cases known : s.host.devices d with
    | none => rfl
    | some device =>
      obtain ⟨_, q, pool', there, _, sameBus, sameAddr⟩ := sound.owned d device known
      have other := findPool_none absent (sound.listed q pool' there) there
      simp only [PoolQuery.finds, sameBus, sameAddr] at other
      rw [bind_some, if_neg (by simp [other])]
  unfold rawOpenDevice
  simp only [unknown]

theorem newObjects_fresh (config : RawConfig) (objectId : Nat) : ∀ obj ∈ newObjects config objectId,
    obj.status ≠ .remove ∧ obj.parentObjectId = objectId ∧ obj.refCount = 0 := by
  intro obj member
  rcases mem_cons.mp member with rfl | other
  · exact ⟨by simp [createCtrPipe], rfl, rfl⟩
  · obtain ⟨itface, _, inside⟩ := mem_flatMap.mp other
    obtain ⟨ifDes, _, rfl⟩ := mem_map.mp inside
    exact ⟨by simp, rfl, rfl⟩

theorem newPool_balanced (h : Host) (busNum devAddr : UInt8) (config : RawConfig) (p : Nat) :
    Balanced p (newPool h busNum devAddr h.fresh (newObjects config h.nextId)) ⟨busNum, devAddr, 1, 0, some p⟩ [] [] [] := by
  refine ⟨rfl, rfl, rfl, rfl, ?_, ?_, by simp, by simp⟩
  · intro n _
    simp
  · intro i obj there
    obtain ⟨status, parent, count⟩ := newObjects_fresh config h.nextId obj (mem_of_getElem? there)
    exact ⟨status, parent, by rw [count]; simp [standing]⟩

theorem usbProtocalParseDescriptor_make (h : Host) (busNum usbAddr : UInt8) (config : RawConfig) :
    usbProtocalParseDescriptor { h.setDevice h.fresh ⟨busNum, usbAddr, 1, 0, none⟩ with
        fresh := h.fresh + 1, usbDevs := h.fresh :: h.usbDevs } h.fresh busNum usbAddr (some config) =
      some (true, h.make busNum usbAddr config) := by
  simp [usbProtocalParseDescriptor, usbIfCreatInterfacePool, make, newPool, newObjects, nextId, setPool, setDevice]

theorem Host.make_made (h : Host) (busNum usbAddr : UInt8) (config : RawConfig) :
    Made { h.setDevice h.fresh ⟨busNum, usbAddr, 1, 0, none⟩ with fresh := h.fresh + 1, usbDevs := h.fresh :: h.usbDevs }
      (h.make busNum usbAddr config) busNum usbAddr h.fresh (newObjects config h.nextId) := by
  refine ⟨rfl, rfl, rfl, ?_⟩
  intro e
  by_cases here : e = h.fresh
  · subst here
    simp [make]
  · simp [make, update_of_ne here]

theorem Sound.make (sound : Sound s) {busNum usbAddr : UInt8} (config : RawConfig) (unused : s.host.Unused) :
    Sound { s with host := s.host.make busNum usbAddr config } := by
  have identified : Identified (s.host.make busNum usbAddr config) := by
    have opened := sound.identified.touch (.opened s.host busNum usbAddr)
    exact opened.touches (usbProtocalParseDescriptor_touches (show Host.Unused _ from unused)
      (usbProtocalParseDescriptor_make s.host busNum usbAddr config))
  have old : ∀ q pool', s.host.pools q = some pool' → q ≠ s.host.fresh + 1 := by
    intro q pool' there
    have := sound.below there
    omega
  have oldDevice : ∀ d device', s.host.devices d = some device' → d ≠ s.host.fresh := fun d device' known =>
    Nat.ne_of_lt (sound.owned d device' known).1
  refine ⟨identified, ?_, ?_, ?_, ?_, ?_⟩
  · intro q pool' is
    by_cases here : q = s.host.fresh + 1
    · simp [Host.make, here]
    · simp only [Host.make, update_of_ne here] at is
      simp [Host.make, sound.listed q pool' is]
  · intro d device' is
    by_cases here : d = s.host.fresh
    · subst here
      simp only [Host.make, update_self] at is
      cases is
      refine ⟨by simp [Host.make], s.host.fresh + 1, _, by simp only [Host.make, update_self]; rfl, rfl, rfl, rfl⟩
    · simp only [Host.make, update_of_ne here] at is
      obtain ⟨small, q, pool', there, rest⟩ := sound.owned d device' is
      refine ⟨by simp only [Host.make]; omega, q, pool', ?_, rest⟩
      simp only [Host.make, update_of_ne (old q pool' there)]
      exact there
  · intro q pool' is
    by_cases here : q = s.host.fresh + 1
    · subst here
      simp only [Host.make, update_self] at is
      cases is
      obtain ⟨claims, handles⟩ := sound.gone _ sound.fresh_absent
      refine ⟨⟨busNum, usbAddr, 1, 0, some (s.host.fresh + 1)⟩, by simp [Host.make, newPool], ?_⟩
      simp only [claims, handles, sound.later (s.host.fresh + 1) (by omega)]
      exact newPool_balanced s.host busNum usbAddr config (s.host.fresh + 1)
    · simp only [Host.make, update_of_ne here] at is
      obtain ⟨device', known, balanced⟩ := sound.balanced q pool' is
      refine ⟨device', ?_, balanced⟩
      simp only [Host.make, update_of_ne (oldDevice _ device' known)]
      exact known
  · intro q absent
    by_cases here : q = s.host.fresh + 1
    · simp [Host.make, here] at absent
    · simp only [Host.make, update_of_ne here] at absent
      exact sound.gone q absent
  · intro q large
    simp only [Host.make] at large
    exact sound.later q (by omega)

end

def Keeps (s : System) (c : Call) : Prop := ∃ s', s.call c = some s' ∧ Sound s' ∧ Busy s'

section
variable {s : System}

theorem keeps_claim (sound : Sound s) (busy : Busy s) {busNum usbAddr n : UInt8} {opens : Bool} {config : Option RawConfig}
    (careful : s.Careful (.claim busNum usbAddr n opens config)) : Keeps s (.claim busNum usbAddr n opens config) := by
  have noting : ∀ {returned : Option ObjRef} {h' : Host},
      usbClaimInterface s.host busNum usbAddr n ⟨opens, config, true⟩ = some (returned, h') →
      Sound ({ s with host := h' }.noteClaim returned) ∧ Busy ({ s with host := h' }.noteClaim returned) →
      Keeps s (.claim busNum usbAddr n opens config) := by
    intro returned h' claimed kept
    refine ⟨_, ?_, kept⟩
    simp only [System.call, claimed, bind_eq_bind, bind_some]
    cases returned with
    | none => rfl
    | some o => rfl
  unfold System.Careful at careful
  cases found : findPool s.host (.normal busNum usbAddr) with
  | some result =>
    obtain ⟨p, pool⟩ := result
    obtain ⟨_, there, _⟩ := findPool_some found
    simp only [found] at careful
    obtain ⟨i, current, free⟩ := careful
    obtain ⟨returned, h', claimed, kept⟩ := sound.claim there (fun q pool' _ is => busy q pool' is)
      (fun none => absurd none (busy p pool there)) n none (by simp [current])
      (by intro j is; rw [current] at is; cases is; exact free) ⟨opens, config, true⟩ rfl
    refine noting ?_ kept
    simp only [usbClaimInterface, ifFindInterfacePool, found, if_true]
    exact claimed
  | none =>
    simp only [found] at careful
    have opening := sound.unopened found ⟨opens, config, true⟩
    cases opens with
    | false =>
      simp only [Bool.false_eq_true, if_false] at opening
      have failed : usbClaimInterface s.host busNum usbAddr n ⟨false, config, true⟩ = some (none, s.host) := by
        simp only [usbClaimInterface, ifFindInterfacePool, found, ifGetInterfacePool, opening]
        rfl
      exact noting failed ⟨sound, busy⟩
    | true =>
      obtain ⟨readable, unused⟩ := careful.resolve_left (by simp)
      obtain ⟨config, rfl⟩ := isSome_iff_exists.mp readable
      simp only [if_true] at opening
      have made := s.host.make_made busNum usbAddr config
      have below : ∀ q ∈ s.host.ifacePoolList, q < s.host.fresh + 1 := fun q member =>
        Nat.lt_succ_of_lt (sound.identified.below q member)
      have search := made.findPool_eq below found
      have sound₁ : Sound { s with host := s.host.make busNum usbAddr config } := sound.make config unused
      obtain ⟨_, there, _⟩ := findPool_some search
      obtain ⟨_, handles⟩ := sound.gone _ sound.fresh_absent
      have others : ∀ q pool', q ≠ s.host.fresh + 1 → (s.host.make busNum usbAddr config).pools q = some pool' →
          s.claims q ≠ [] := by
        intro q pool' other is
        simp only [make, update_of_ne other] at is
        exact busy q pool' is
      obtain ⟨returned, h', claimed, kept⟩ :=
        sound₁.claim there others (fun _ => handles) n (some s.host.fresh) (fun _ => rfl)
        (fun i _ => .inr (.inr (by simp [System.handlesOn, handles]))) ⟨true, some config, true⟩ rfl
      refine noting ?_ kept
      simp only [usbClaimInterface, ifFindInterfacePool, found, ifGetInterfacePool, opening, usbProtocalParseDescriptor_make,
        bind_eq_bind, bind_some, Bool.not_true, Bool.false_eq_true, if_false, search, if_true]
      exact claimed

variable {p i : Nat} {pool : InterfacePool} {device : Device} {obj : SdkInterface}

theorem Sound.held (sound : Sound s) (some_ : s.claims p ≠ []) (mine : i ∈ s.claims p ∨ i ∈ s.selected p) :
    ∃ pool device obj, s.host.pools p = some pool ∧ s.host.devices pool.device = some device ∧
      Balanced p pool device (s.claims p) (s.selected p) (s.handles p) ∧ pool.interfaceList[i]? = some obj ∧
      obj.session = true ∧ findPool s.host (.objectId obj.parentObjectId) = some (p, pool) := by
  cases there : s.host.pools p with
  | none => exact absurd (sound.gone p there).1 some_
  | some pool =>
    obtain ⟨device, known, balanced⟩ := sound.balanced p pool there
    obtain ⟨obj, place, session⟩ := balanced.held i mine
    refine ⟨pool, device, obj, rfl, known, balanced, place, session, ?_⟩
    rw [(balanced.objects i obj place).2.1]
    exact sound.identified.findPool_eq (sound.listed p pool there) there

theorem Sound.giveBack (sound : Sound s) (busy : Busy s) (there : s.host.pools p = some pool)
    (known : s.host.devices pool.device = some device) (mine : i ∈ s.claims p)
    (last : (s.claims p).length = 1 → s.handles p = []) (place : pool.interfaceList[i]? = some obj) (refCount : Int)
    (device' : Device) (counted : refCount = obj.refCount - if obj.interfaceIndex ≠ usbCtrlInterfaceId then 1 else 0)
    (same : device'.privateObject = device.privateObject ∧ device'.refcnt = device.refcnt ∧ device'.busNum = device.busNum ∧
      device'.devAddr = device.devAddr)
    (bits : ∀ n ≠ usbCtrlInterfaceId, device'.claimedInterfaces.getLsbD n.toNat = true ↔
      device.claimedInterfaces.getLsbD n.toNat = true ∧ (n = obj.interfaceIndex → 1 < s.claimsOf p pool n)) :
    ∃ h', ifDestoryDevice ((s.host.setPool p (pool.setObj i { obj with refCount := refCount })).setDevice pool.device device') p
      (some pool.device) true = some (true, h') ∧ Sound ({ s with host := h' }.giveBack ⟨p, i⟩) ∧
        Busy ({ s with host := h' }.giveBack ⟨p, i⟩) := by
  obtain ⟨_, known', balanced⟩ := sound.balanced p pool there
  rw [known] at known'
  cases known'
  have alike : pool.Alike (pool.setObj i { obj with refCount := refCount }) := .setObj place rfl
  have identified : Identified ((s.host.setPool p (pool.setObj i { obj with refCount := refCount })).setDevice pool.device
      device') := by
    have changed := sound.identified.setPool there alike
    exact ⟨changed.live, changed.nodup, changed.below, changed.ids⟩
  have length := balanced.refCount
  have positive := length_pos_of_mem mine
  have shorter := length_erase_of_mem mine
  have here : ((s.host.setPool p (pool.setObj i { obj with refCount := refCount })).setDevice pool.device device').pools p =
    some (pool.setObj i { obj with refCount := refCount }) := by simp
  have its : ((s.host.setPool p (pool.setObj i { obj with refCount := refCount })).setDevice pool.device
    device').devices pool.device = some device' := by simp
  have destroyed := ifDestoryDevice_balanced identified (sound.listed p pool there) here its (same.2.1.trans balanced.once)
  rw [InterfacePool.setObj_refCount] at destroyed
  unfold System.giveBack
  simp only [mine, if_true]
  by_cases shared : 0 < pool.refCount - 1
  · rw [if_pos shared, setDevice_setPool, setPool_setPool] at destroyed
    refine ⟨_, destroyed, ?_⟩
    have kept : { obj with refCount := refCount }.interfaceIndex = obj.interfaceIndex ∧
        { obj with refCount := refCount }.status = obj.status ∧
        { obj with refCount := refCount }.parentObjectId = obj.parentObjectId := ⟨rfl, rfl, rfl⟩
    have released := balanced.release mine place kept rfl same.1 same.2.1 counted bits
    have some_ : (s.claims p).erase i ≠ [] := by
      apply ne_nil_of_length_pos
      omega
    have alike' : pool.Alike { pool.setObj i { obj with refCount := refCount } with refCount := pool.refCount - 1 } :=
      alike.trans (.of_same rfl rfl rfl rfl rfl)
    have changed := sound.change_busy there known alike' same.2.2 released (fun q pool' _ is => busy q pool' is) some_
    rw [update_eq_self, update_eq_self] at changed
    exact changed
  · rw [if_neg shared, setDevice_remove, setPool_remove] at destroyed
    refine ⟨_, destroyed, ?_⟩
    have one : (s.claims p).length = 1 := by omega
    have none : (s.claims p).erase i = [] := length_eq_zero_iff.mp (by omega)
    have removed := sound.remove there
    have left : Busy ⟨s.host.remove p pool.device, update s.claims p [], s.selected,
      update s.handles p []⟩ :=
      Busy.remove (fun q pool' _ is => busy q pool' is) pool.device
    have handles : update s.handles p [] = s.handles := by rw [← last one, update_eq_self]
    rw [handles] at removed left
    rw [none]
    exact ⟨removed, left⟩

variable {o : ObjRef}

theorem keeps_release (sound : Sound s) (busy : Busy s) (careful : s.Careful (.release o)) : Keeps s (.release o) := by
  obtain ⟨mine, last, only⟩ := careful
  obtain ⟨pool, device, obj, there, known, balanced, place, session, search⟩ :=
    sound.held (ne_nil_of_mem mine) (.inl mine)
  have number := pool.number_of_place place
  have noting : ∀ {h' : Host}, usbReleaseInterface s.host o .success = some (true, h') →
      Sound ({ s with host := h' }.giveBack o) ∧ Busy ({ s with host := h' }.giveBack o) → Keeps s (.release o) := by
    intro h' released kept
    refine ⟨_, ?_, kept⟩
    simp only [System.call, released, bind_eq_bind, bind_some, if_true]
    rfl
  have settle := fun refCount device' counted same bits =>
    sound.giveBack busy there known mine last place refCount device' counted same bits
  have known_session : (!obj.session) = false := by simp [session]
  by_cases control : obj.interfaceIndex = usbCtrlInterfaceId
  · obtain ⟨h', destroyed, kept⟩ := settle obj.refCount device (by simp [control]) ⟨rfl, rfl, rfl, rfl⟩ (by
      intro n ordinary
      simp [control, ordinary])
    refine noting ?_ kept
    have same : (s.host.setPool o.pool (pool.setObj o.index { obj with refCount := obj.refCount })).setDevice pool.device device =
        s.host := by
      rw [pool.setObj_self place, s.host.setPool_self there, s.host.setDevice_self known]
    rw [same] at destroyed
    simp only [usbReleaseInterface, there, place, known_session, search, known, control, bind_eq_bind, bind_some,
      Bool.false_eq_true, if_false, if_true, destroyed]
  · have one : obj.refCount - 1 = obj.refCount - if obj.interfaceIndex ≠ usbCtrlInterfaceId then 1 else 0 := by
      rw [if_pos control]
    have stands : obj.refCount = ((s.claims o.pool).count o.index + s.handlesOn o : Nat) := by
      rw [(balanced.objects _ _ place).2.2, standing, if_neg control, System.handlesOn]
    have claimed : 0 < s.claimsOf o.pool pool obj.interfaceIndex := by
      rw [System.claimsOf, countP_pos_iff]
      exact ⟨o.index, mine, by simpa using number⟩
    have counted : 0 < (s.claims o.pool).count o.index := count_pos_iff.mpr mine
    have single := only pool obj.interfaceIndex there number control
    by_cases least : obj.refCount - 1 ≤ 0
    · have final : s.claimsOf o.pool pool obj.interfaceIndex = 1 := single.mpr (by omega)
      have set : device.claimedInterfaces.getLsbD obj.interfaceIndex.toNat = true :=
        (balanced.kernel _ control).mpr ⟨o.index, mine, number⟩
      obtain ⟨device', released, owner, once, busNum, devAddr, bits⟩ := rawReleaseInterface_accepted set
      obtain ⟨h', destroyed, kept⟩ := settle (obj.refCount - 1) device' one ⟨owner, once, busNum, devAddr⟩ (by
        intro n _
        rw [bits n]
        by_cases here : n = obj.interfaceIndex
        · subst here
          simp [final]
        · simp [here])
      refine noting ?_ kept
      simp only [usbReleaseInterface, there, place, known_session, search, known, control, bind_eq_bind, bind_some,
        Bool.false_eq_true, if_false, if_pos least, released, destroyed]
    · have more : 1 < s.claimsOf o.pool pool obj.interfaceIndex := by
        by_contra few
        have := single.mp (by omega)
        omega
      obtain ⟨h', destroyed, kept⟩ := settle (obj.refCount - 1) device one ⟨rfl, rfl, rfl, rfl⟩ (by
        intro n _
        constructor
        · exact fun set => ⟨set, by rintro rfl; exact more⟩
        · exact fun both => both.1)
      refine noting ?_ kept
      rw [setDevice_self _ (by exact known)] at destroyed
      simp only [usbReleaseInterface, there, place, known_session, search, known, control, bind_eq_bind, bind_some,
        Bool.false_eq_true, if_false, if_neg least, destroyed]

theorem keeps_open (sound : Sound s) (busy : Busy s) {starts : Bool} (legal : s.Legal (.openObj o starts))
    (careful : s.Careful (.openObj o starts)) : Keeps s (.openObj o starts) := by
  obtain ⟨pool, device, obj, there, known, balanced, place, session, search⟩ := sound.held careful legal
  obtain ⟨status, _, _⟩ := balanced.objects o.index obj place
  have known_session : (!obj.session) = false := by simp [session]
  by_cases refused : pool.ioRefCount = 0 ∧ starts = false
  · refine ⟨s, ?_, sound, busy⟩
    simp [System.call, usbOpenInterface, there, place, session, search, known, status, refused]
  · have alike : pool.Alike { pool.setObj o.index { obj with refCount := obj.refCount + 1 } with
        ioRefCount := pool.ioRefCount + 1 } := by
      have first : pool.Alike (pool.setObj o.index { obj with refCount := obj.refCount + 1 }) := .setObj place rfl
      exact first.trans (.of_same rfl rfl rfl rfl rfl)
    have changed := sound.change_busy there known alike ⟨rfl, rfl⟩ (balanced.opens place)
      (fun q pool' _ is => busy q pool' is) careful
    rw [update_eq_self, update_eq_self, setDevice_self _ (by exact known)] at changed
    refine ⟨_, ?_, changed⟩
    have started : ¬ (decide (pool.ioRefCount = 0) && !starts) = true := by simpa using refused
    simp only [System.call, usbOpenInterface, there, place, known_session, search, known, status, decide_false, Bool.or_false,
      Bool.false_eq_true, if_false, if_neg started, bind_eq_bind, bind_some, setPool_pools, update_self, setPool_setPool]
    rfl

variable {handle : InterfaceHandle}

theorem Sound.reached (sound : Sound s) (mine : (handle, i) ∈ s.handles p) :
    ∃ pool device obj, s.host.pools p = some pool ∧ handle.devHandle = pool.device ∧
      s.host.devices pool.device = some device ∧ device.privateObject = some p ∧
      Balanced p pool device (s.claims p) (s.selected p) (s.handles p) ∧ pool.interfaceList[i]? = some obj ∧
      obj.interfaceIndex = handle.interfaceIndex := by
  cases there : s.host.pools p with
  | none =>
    rw [(sound.gone p there).2] at mine
    cases mine
  | some pool =>
    obtain ⟨device, known, balanced⟩ := sound.balanced p pool there
    obtain ⟨its, number⟩ := balanced.opened _ mine
    obtain ⟨obj, place, index⟩ := map_eq_some_iff.mp number
    exact ⟨pool, device, obj, rfl, its, known, balanced.owner, balanced, place, index⟩

theorem ifFindInterfaceObj_current {n : UInt8} {statusFlag : Bool} (found : System.current pool n = some i)
    (place : pool.interfaceList[i]? = some obj) (status : obj.status ≠ .remove) :
    ifFindInterfaceObj pool (.interfaceIndex n) false statusFlag = (some (i, false), pool) := by
  unfold System.current at found
  simp [ifFindInterfaceObj, found, place, ifInterfaceRefCount, status, pool.setObj_self place]

theorem keeps_close (sound : Sound s) (busy : Busy s) {stops : Bool}
    (legal : s.Legal (.close handle o stops)) (careful : s.Careful (.close handle o stops)) :
    Keeps s (.close handle o stops) := by
  obtain ⟨pool, device, obj, there, its, known, owner, balanced, place, _⟩ := sound.reached legal
  obtain ⟨status, _, _⟩ := balanced.objects o.index obj place
  have found : ifFindInterfaceObj pool (.interfaceIndex handle.interfaceIndex) false false = (some (o.index, false), pool) :=
    ifFindInterfaceObj_current (careful pool there) place status
  rw [← its] at known
  by_cases refused : pool.ioRefCount - 1 = 0 ∧ stops = false
  · refine ⟨s, ?_, sound, busy⟩
    simp [System.call, usbCloseInterface, known, owner, there, found, place, refused]
  · have alike : pool.Alike { pool.setObj o.index { obj with refCount := obj.refCount - 1 } with
        ioRefCount := pool.ioRefCount - 1 } := by
      have first : pool.Alike (pool.setObj o.index { obj with refCount := obj.refCount - 1 }) := .setObj place rfl
      exact first.trans (.of_same rfl rfl rfl rfl rfl)
    have changed := sound.change_busy there (its ▸ known) alike ⟨rfl, rfl⟩ (balanced.closes legal place)
      (fun q pool' _ is => busy q pool' is) (busy o.pool pool there)
    rw [update_eq_self, update_eq_self, setDevice_self _ (by rw [its] at known; exact known)] at changed
    refine ⟨_, ?_, changed⟩
    have stopped : ¬ (decide (pool.ioRefCount - 1 = 0) && !stops) = true := by simpa using refused
    simp only [System.call, usbCloseInterface, known, owner, there, found, place, if_neg stopped, bind_eq_bind, bind_some]
    rfl

theorem Balanced.select {claims selected : List Nat} {handles : List (InterfaceHandle × Nat)}
    (balanced : Balanced p pool device claims selected handles) (place : pool.interfaceList[i]? = some obj) :
    Balanced p (pool.setObj i { obj with session := true }) device claims (i :: selected) handles := by
  have same : { obj with session := true }.interfaceIndex = obj.interfaceIndex ∧
      { obj with session := true }.status = obj.status ∧
      { obj with session := true }.parentObjectId = obj.parentObjectId := ⟨rfl, rfl, rfl⟩
  refine balanced.update place same (fun _ => rfl) rfl rfl (fun _ _ _ => rfl) (balanced.objects i obj place).2.2 ?_
    (fun e member => .inl member) balanced.kernel ⟨rfl, rfl⟩ rfl balanced.refCount balanced.ioRefCount
  intro j mine
  rcases mine with claimed | chosen
  · exact .inl (.inl claimed)
  · rcases mem_cons.mp chosen with rfl | before
    · exact .inr ⟨rfl, rfl⟩
    · exact .inl (.inr before)

theorem keeps_select (sound : Sound s) (busy : Busy s) {settingIndex : UInt8}
    (legal : s.Legal (.select handle o settingIndex)) : Keeps s (.select handle o settingIndex) := by
  obtain ⟨pool, device, _, there, its, known, owner, balanced, _, _⟩ := sound.reached legal
  obtain ⟨chosen, is⟩ : ∃ chosen : InterfacePool, chosen = { pool with interfaceList := pool.interfaceList.map fun obj =>
    if obj.interfaceIndex = handle.interfaceIndex then { obj with curAltSetting := settingIndex } else obj } := ⟨_, rfl⟩
  have alike : pool.Alike chosen := by
    subst is
    exact .mapSetting pool handle.interfaceIndex settingIndex
  have balanced' : Balanced o.pool chosen device (s.claims o.pool) (s.selected o.pool) (s.handles o.pool) := by
    subst is
    exact balanced.mapSetting handle.interfaceIndex settingIndex
  have known' : s.host.devices handle.devHandle = some device := by rw [its, known]
  cases found : System.current chosen handle.interfaceIndex with
  | none =>
    have absent : ifFindInterfaceObj chosen (.interfaceIndex handle.interfaceIndex) false true = (none, chosen) := by
      unfold System.current at found
      simp [ifFindInterfaceObj, found]
    have changed := sound.change_busy there known alike ⟨rfl, rfl⟩ balanced' (fun q pool' _ is => busy q pool' is)
      (busy o.pool pool there)
    rw [update_eq_self, update_eq_self, update_eq_self,
      setDevice_self _ (by exact known)] at changed
    refine ⟨_, ?_, changed⟩
    simp only [System.call, usbSelectInterfaceSetting, known', owner, there, ← is, absent, bind_eq_bind, bind_some]
    rfl
  | some i =>
    obtain ⟨obj, place, _⟩ := System.current_some found
    obtain ⟨status, _, _⟩ := balanced'.objects i obj place
    have present : ifFindInterfaceObj chosen (.interfaceIndex handle.interfaceIndex) false true = (some (i, false),
      chosen) :=
      ifFindInterfaceObj_current found place status
    have alike' : pool.Alike (chosen.setObj i { obj with session := true }) := alike.trans (.setObj place rfl)
    have changed := sound.change_busy there known alike' ⟨rfl, rfl⟩ (balanced'.select place)
      (fun q pool' _ is => busy q pool' is) (busy o.pool pool there)
    rw [update_eq_self, update_eq_self, setDevice_self _ (by exact known)] at changed
    refine ⟨_, ?_, changed⟩
    simp only [System.call, usbSelectInterfaceSetting, known', owner, there, ← is, present, place, bind_eq_bind, bind_some]
    rfl

theorem keeps_elsewhere (sound : Sound s) (busy : Busy s) : Keeps s .elsewhere := by
  refine ⟨_, rfl, ⟨?_, sound.listed, sound.owned, sound.balanced, sound.gone, sound.later⟩, busy⟩
  exact ⟨sound.identified.live, sound.identified.nodup, sound.identified.below, sound.identified.ids⟩

theorem keeps_call (sound : Sound s) (busy : Busy s) {c : Call} (legal : s.Legal c) (careful : s.Careful c) : Keeps s c := by
  cases c with
  | claim busNum usbAddr n opens config => exact keeps_claim sound busy careful
  | release o => exact keeps_release sound busy careful
  | openObj o starts => exact keeps_open sound busy legal careful
  | close handle o stops => exact keeps_close sound busy legal careful
  | select handle o settingIndex => exact keeps_select sound busy legal
  | elsewhere => exact keeps_elsewhere sound busy

/-- A careful run uses no freed memory, and every pool stays balanced. -/
theorem sound_run (calls : List Call) (sound : Sound s) (busy : Busy s) (careful : s.CarefulRun calls) :
    ∃ s', s.run calls = some s' ∧ Sound s' ∧ Busy s' := by
  induction calls generalizing s with
  | nil => exact ⟨s, rfl, sound, busy⟩
  | cons c calls ih =>
    obtain ⟨legal, first, rest⟩ := careful
    obtain ⟨s₁, called, sound₁, busy₁⟩ := keeps_call sound busy legal first
    obtain ⟨s', ran, kept⟩ := ih sound₁ busy₁ (rest s₁ called)
    refine ⟨s', ?_, kept⟩
    rw [System.run, foldlM_cons, called]
    exact ran

end

/-- After every careful run the counts of the pools agree with what is outstanding. -/
theorem consistent_of_careful (idNum : Nat) (calls : List Call) (careful : (System.start idNum).CarefulRun calls) :
    ∃ s, (System.start idNum).run calls = some s ∧ Consistent s := by
  obtain ⟨s, ran, sound, busy⟩ := sound_run calls (Sound.start idNum) (by intro p pool there; cases there) careful
  exact ⟨s, ran, sound.consistent busy⟩

def twoSettings : Option RawConfig :=
  some ⟨[9, 2, 27, 0, 1, 1, 0, 0x80, 50], [⟨2, [⟨[9, 4, 0, 0, 0, 0xff, 0, 0, 0], [], []⟩,
    ⟨[9, 4, 0, 1, 0, 0xff, 0, 0, 0], [], []⟩]⟩], []⟩

def openedOnce : List Call :=
  [.claim 1 1 0 true twoSettings, .openObj ⟨1, 1⟩ true, .close ⟨0, 0⟩ ⟨1, 1⟩ true, .release ⟨1, 1⟩]

def closedElsewhere : List Call :=
  [.claim 1 1 0 true twoSettings, .openObj ⟨1, 1⟩ true, .select ⟨0, 0⟩ ⟨1, 1⟩ 1, .close ⟨0, 0⟩ ⟨1, 1⟩ true]

theorem carefulRun_cons {s s' : System} {c : Call} {calls : List Call} (called : s.call c = some s') (legal : s.Legal c)
    (careful : s.Careful c) (rest : s'.CarefulRun calls) : s.CarefulRun (c :: calls) := by
  refine ⟨legal, careful, ?_⟩
  intro s₁ is
  rw [called] at is
  cases is
  exact rest

theorem legalRun_cons {s s' : System} {c : Call} {calls : List Call} (called : s.call c = some s') (legal : s.Legal c)
    (rest : s'.LegalRun calls) : s.LegalRun (c :: calls) := by
  refine ⟨legal, ?_⟩
  intro s₁ is
  rw [called] at is
  cases is
  exact rest

theorem openedOnce_consistent : (System.start 0).CarefulRun openedOnce ∧
    ∃ s, (System.start 0).run openedOnce = some s ∧ Consistent s := by
  have careful : (System.start 0).CarefulRun openedOnce := by
    refine carefulRun_cons rfl trivial ?_ (carefulRun_cons rfl ?_ ?_ (carefulRun_cons rfl ?_ ?_ (carefulRun_cons rfl ?_ ?_ trivial)))
    · exact .inr ⟨rfl, by intro q member; cases member⟩
    · exact .inl (mem_of_getElem? (i := 0) rfl)
    · exact cons_ne_nil _ _
    · exact mem_of_getElem? (i := 0) rfl
    · rintro pool ⟨⟩
      rfl
    · exact .inl (mem_of_getElem? (i := 0) rfl)
    · refine ⟨mem_of_getElem? (i := 0) rfl, fun _ => rfl, ?_⟩
      rintro pool n ⟨⟩ ⟨⟩ _
      exact ⟨fun _ => rfl, fun _ => rfl⟩
  exact ⟨careful, consistent_of_careful 0 openedOnce careful⟩

/-- The handle is closed on the object of the other setting, whose count gets negative. -/
theorem closedElsewhere_not_consistent : (System.start 0).LegalRun closedElsewhere ∧
    ¬ ∃ s, (System.start 0).run closedElsewhere = some s ∧ Consistent s := by
  refine ⟨?_, ?_⟩
  · refine legalRun_cons rfl trivial (legalRun_cons rfl ?_ (legalRun_cons rfl ?_ (legalRun_cons rfl ?_ trivial)))
    · exact .inl (mem_of_getElem? (i := 0) rfl)
    · exact mem_of_getElem? (i := 0) rfl
    · exact mem_of_getElem? (i := 0) rfl
  · rintro ⟨s, ran, consistent⟩
    cases ran
    obtain ⟨pool, device, there, _, agrees⟩ := consistent.pools 1 (mem_of_getElem? (i := 0) rfl)
    cases there
    exact absurd (agrees.objects _ (mem_of_getElem? (i := 2) rfl)) (by decide)

end Peripheral.UsbPool
