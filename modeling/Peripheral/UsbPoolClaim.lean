import Peripheral.UsbPoolIds

/-!
Claims that fail. The references a claim takes on its way have to be given back
when it fails. They are when the kernel refuses the interface of a pool that others
use, and when the pool was made for the claim and has an identifier of its own; they
are not when the interface is not found in a pool that was there before.
-/
namespace Peripheral.UsbPool
open Peripheral.Usb Function Host Option

def counts (pool : Option InterfacePool) : Option (Int × List Int) :=
  pool.map fun pool => (pool.refCount, pool.interfaceList.map SdkInterface.refCount)

structure Unchanged (h h' : Host) : Prop where
  ifacePoolList : h'.ifacePoolList = h.ifacePoolList
  usbDevs : h'.usbDevs = h.usbDevs
  pools : ∀ p ∈ h.ifacePoolList, counts (h'.pools p) = counts (h.pools p)
  devices : ∀ d ∈ h.usbDevs, (h'.devices d).map Device.refcnt = (h.devices d).map Device.refcnt

/-- The current setting of an interface is in the pool and was not removed. -/
def InterfacePool.Has (pool : InterfacePool) (n : UInt8) : Prop :=
  ∃ i obj, pool.interfaceList.findIdx? ((InterfaceQuery.interfaceIndex n).finds ·) = some i ∧
    pool.interfaceList[i]? = some obj ∧ obj.status ≠ .remove

/-- When a failed claim is undone: the interface is found in a pool in use and was not removed, or there is no device to
    open, or the pool that is made for the claim has its configuration and an unused identifier. -/
def Undone (h : Host) (busNum usbAddr n : UInt8) (attached : Attached) : Prop :=
  match findPool h (.normal busNum usbAddr) with
  | some (_, pool) => 0 < pool.refCount ∧ pool.Has n
  | none => (rawOpenDevice h busNum usbAddr attached).1 = none ∨ (attached.config.isSome ∧ h.Unused)

structure Ordered (h : Host) : Prop where
  pools : ∀ p ∈ h.ifacePoolList, p < h.fresh
  devices : ∀ d ∈ h.usbDevs, d < h.fresh
  counted : ∀ d device, h.devices d = some device → 0 < device.refcnt

section
variable {h h' : Host}

theorem Ordered.start (idNum : Nat) : Ordered (start idNum) :=
  ⟨by simp [Host.start], by simp [Host.start], by simp [Host.start]⟩

theorem Ordered.touch (ordered : Ordered h) (touch : Touch (fun _ => True) h h') : Ordered h' := by
  cases touch with
  | pool there alike => exact ⟨ordered.pools, ordered.devices, ordered.counted⟩
  | device there same counted =>
    rename_i d device device'
    refine ⟨ordered.pools, ordered.devices, ?_⟩
    intro e found is
    by_cases here : e = d
    · subst here
      simp only [setDevice_devices, update_self] at is
      cases is
      exact counted (ordered.counted e device there)
    · rw [setDevice_devices, update_of_ne here] at is
      exact ordered.counted e found is
  | opened busNum usbAddr =>
    refine ⟨fun p member => Nat.lt_succ_of_lt (ordered.pools p member), ?_, ?_⟩
    · intro d member
      rcases List.mem_cons.mp member with rfl | before
      · exact Nat.lt_succ_self _
      · exact Nat.lt_succ_of_lt (ordered.devices d before)
    · intro e found is
      simp only [setDevice_devices] at is
      by_cases here : e = h.fresh
      · subst here
        rw [update_self] at is
        cases is
        exact Int.one_pos
      · rw [update_of_ne here] at is
        exact ordered.counted e found is
  | created busNum devAddr d allowed =>
    refine ⟨?_, fun e member => Nat.lt_succ_of_lt (ordered.devices e member), ordered.counted⟩
    intro p member
    rcases List.mem_append.mp member with before | last
    · exact Nat.lt_succ_of_lt (ordered.pools p before)
    · rw [List.mem_singleton.mp last]
      exact Nat.lt_succ_self _
  | destroyed p =>
    exact ⟨fun q member => ordered.pools q (List.mem_of_mem_erase member), ordered.devices, ordered.counted⟩
  | closed d =>
    refine ⟨ordered.pools, fun e member => ordered.devices e (List.mem_of_mem_erase member), ?_⟩
    intro e found is
    by_cases here : e = d
    · subst here
      simp at is
    · simp only [update_of_ne here] at is
      exact ordered.counted e found is
  | elsewhere => exact ⟨ordered.pools, ordered.devices, ordered.counted⟩

theorem Ordered.run {calls : List HostCall} (ordered : Ordered h) (ran : h.run calls = some h') : Ordered h' := by
  induction calls generalizing h with
  | nil =>
    cases ran
    exact ordered
  | cons c calls ih =>
    obtain ⟨h₁, called, rest⟩ := bind_eq_some_iff.mp ran
    refine ih ?_ rest
    have touches : Touches (fun _ => True) h h₁ := call_touches (fun _ _ _ => trivial) called
    clear called rest ih
    induction touches with
    | refl => exact ordered
    | tail _ touch before => exact before.touch touch

variable {p d : Nat} {pool : InterfacePool} {n busNum usbAddr : UInt8} {attached : Attached}

theorem ifFindInterfaceObj_absent (absent : ¬ pool.Has n) :
    ∃ pool', ifFindInterfaceObj pool (.interfaceIndex n) true true = (none, pool') ∧ pool'.refCount = pool.refCount ∧
      pool'.objectId = pool.objectId ∧ pool'.device = pool.device := by
  unfold ifFindInterfaceObj
  split
  · exact ⟨pool, rfl, rfl, rfl, rfl⟩
  · rename_i i found
    split
    · exact ⟨pool, rfl, rfl, rfl, rfl⟩
    · rename_i obj there
      have removed : obj.status = .remove := by
        by_contra stays
        exact absent ⟨i, obj, found, there, stays⟩
      simp only [removed, decide_true, Bool.and_self, if_true]
      exact ⟨_, rfl, rfl, rfl, rfl⟩

section
variable (there : h.pools p = some pool)
include there

theorem claimObj_eq {devHandle : Option Nat} {i : Nat} {obj : SdkInterface}
    (found : pool.interfaceList.findIdx? ((InterfaceQuery.interfaceIndex n).finds ·) = some i)
    (place : pool.interfaceList[i]? = some obj) (stays : obj.status ≠ .remove) :
    claimObj h p devHandle n attached =
      if n = usbCtrlInterfaceId then some (some ⟨p, i⟩, h.setPool p (pool.setObj i { obj with session := true }))
      else
        let claimed := h.setPool p (pool.setObj i { obj with refCount := obj.refCount + 1, session := true })
        if obj.refCount = 0 then
          (h.devices pool.device).bind fun device =>
            match rawClaimInterface device n attached.claims with
            | none => (ifDestoryDevice h p (some pool.device) true).map fun r => (none, r.2)
            | some device => some (some ⟨p, i⟩, claimed.setDevice pool.device device)
        else some (some ⟨p, i⟩, claimed) := by
  have inside := (List.getElem?_eq_some_iff.mp place).1
  have finds : ifFindInterfaceObj pool (.interfaceIndex n) true true =
      (some (i, (ifInterfaceRefCount obj n true).2), pool.setObj i (ifInterfaceRefCount obj n true).1) := by
    simp only [ifFindInterfaceObj, found, place, stays, decide_false, Bool.and_false, Bool.false_eq_true, if_false,
      InterfaceQuery.number]
  unfold claimObj
  simp only [there, finds, InterfacePool.setObj_interfaceList, List.getElem?_set_self inside, bind_eq_bind,
    bind_some, pure_def, InterfacePool.setObj_setObj]
  by_cases control : n = usbCtrlInterfaceId
  · simp [control, ifInterfaceRefCount]
  · simp only [ifInterfaceRefCount, control, ne_eq, not_false_eq_true, decide_true, Bool.and_self, if_true, Bool.true_and,
    if_false, decide_eq_true_eq, InterfacePool.setObj_device]
    by_cases first : obj.refCount = 0
    · have undone : pool.setObj i { obj with refCount := obj.refCount + 1 - 1 } = pool := by
        rw [Int.add_sub_cancel]
        exact pool.setObj_self place
      simp only [if_pos first, undone, h.setPool_self there]
      congr 1
      funext device
      cases rawClaimInterface device n attached.claims with
      | none => cases ifDestoryDevice h p (some pool.device) true <;> rfl
      | some device => rfl
    · simp only [if_neg first]

theorem claimObj_failed {devHandle : Option Nat} (failed : claimObj h p devHandle n attached = some (none, h')) :
    (¬ pool.Has n ∧ ∃ pool' b, pool'.refCount = pool.refCount ∧ pool'.objectId = pool.objectId ∧ pool'.device = pool.device ∧
      ifDestoryDevice (h.setPool p pool') p devHandle true = some (b, h')) ∨
    (pool.Has n ∧ ∃ b, ifDestoryDevice h p (some pool.device) true = some (b, h')) := by
  by_cases has : pool.Has n
  · refine .inr ⟨has, ?_⟩
    obtain ⟨i, obj, found, place, stays⟩ := has
    rw [claimObj_eq there found place stays] at failed
    by_cases control : n = usbCtrlInterfaceId
    · rw [if_pos control] at failed
      cases failed
    · simp only [if_neg control] at failed
      by_cases first : obj.refCount = 0
      · rw [if_pos first, bind_eq_some_iff] at failed
        obtain ⟨device, _, failed⟩ := failed
        split at failed
        · obtain ⟨⟨b, h₁⟩, destroyed, is⟩ := map_eq_some_iff.mp failed
          cases is
          exact ⟨b, destroyed⟩
        · cases failed
      · rw [if_neg first] at failed
        cases failed
  · refine .inl ⟨has, ?_⟩
    obtain ⟨pool', finds, refCount, objectId, device⟩ := ifFindInterfaceObj_absent has
    simp only [claimObj, there, finds, bind_eq_bind, bind_some, bind_eq_some_iff] at failed
    obtain ⟨⟨b, h₁⟩, destroyed, failed⟩ := failed
    cases failed
    exact ⟨pool', b, refCount, objectId, device, destroyed⟩

theorem ifDestoryDevice_shared (shared : 0 < pool.refCount - 1) :
    ifDestoryDevice h p (some d) true = some (true, h.setPool p { pool with refCount := pool.refCount - 1 }) := by
  simp only [ifDestoryDevice, there, bind_eq_bind, bind_some, if_true, gt_iff_lt, if_pos shared]
  rfl

theorem ifDestoryDevice_last {b : Bool} (member : p ∈ h.ifacePoolList)
    (last : ¬ 0 < pool.refCount - 1) (destroyed : ifDestoryDevice h p (some d) true = some (b, h')) :
    ∃ q pool', findPool (h.setPool p { pool with refCount := pool.refCount - 1 }) (.objectId pool.objectId) = some (q, pool') ∧
      rawCloseDevice ((h.setPool p { pool with refCount := pool.refCount - 1 }).dropPool q) d = some h' := by
  simp only [ifDestoryDevice, there, bind_eq_bind, bind_some, if_true, gt_iff_lt, if_neg last] at destroyed
  generalize counted : h.setPool p { pool with refCount := pool.refCount - 1 } = h₀ at destroyed
  have found : h₀.pools p = some { pool with refCount := pool.refCount - 1 } := by
    rw [← counted, setPool_pools, update_self]
  have member₀ : p ∈ h₀.ifacePoolList := by
    rw [← counted]
    exact member
  simp only [ifDestroyInterfacePool, found, bind_eq_bind, bind_some, if_neg (List.ne_nil_of_mem member₀)] at destroyed
  cases search : findPool h₀ (.objectId pool.objectId) with
  | none =>
    have absent := findPool_none search member₀ found
    simp [PoolQuery.finds] at absent
  | some result =>
    obtain ⟨q, pool'⟩ := result
    refine ⟨q, pool', rfl, ?_⟩
    simp only [search, pure_def, bind_some, Bool.not_true, Bool.false_eq_true, if_false, bind_eq_some_iff] at destroyed
    obtain ⟨h₁, closed, returned⟩ := destroyed
    cases returned
    exact closed

end

theorem rawCloseDevice_pools (closed : rawCloseDevice h d = some h') :
    h'.ifacePoolList = h.ifacePoolList ∧ h'.pools = h.pools := by
  simp only [rawCloseDevice, bind_eq_bind, bind_eq_some_iff] at closed
  obtain ⟨device, _, closed⟩ := closed
  split at closed
  · cases closed
    exact ⟨rfl, rfl⟩
  · cases closed
    exact ⟨rfl, rfl⟩

variable {h₁ : Host}

/-- A device that is opened is one of the session with a reference more, or a new one. -/
theorem rawOpenDevice_some (opened : rawOpenDevice h busNum usbAddr attached = (some d, h₁)) :
    (∃ device, d ∈ h.usbDevs ∧ h.devices d = some device ∧ h₁ = h.setDevice d { device with refcnt := device.refcnt + 1 }) ∨
    (d = h.fresh ∧ h₁ = { h.setDevice h.fresh ⟨busNum, usbAddr, 1, 0, none⟩ with
      fresh := h.fresh + 1, usbDevs := h.fresh :: h.usbDevs }) := by
  unfold rawOpenDevice at opened
  simp only at opened
  split at opened
  · rename_i e device found
    cases opened
    obtain ⟨e', member, is⟩ := List.exists_of_findSome?_eq_some found
    obtain ⟨device', there, is⟩ := bind_eq_some_iff.mp is
    split at is
    · cases is
      exact .inl ⟨device, member, there, rfl⟩
    · cases is
  · split at opened
    · cases opened
      exact .inr ⟨rfl, rfl⟩
    · cases opened

theorem rawOpenDevice_close (ordered : Ordered h) {h₁ h₂ : Host}
    (opened : rawOpenDevice h busNum usbAddr attached = (some d, h₁)) (usbDevs : h₂.usbDevs = h₁.usbDevs)
    (same : ∀ e, (h₂.devices e).map Device.refcnt = (h₁.devices e).map Device.refcnt) (closed : rawCloseDevice h₂ d = some h') :
    h'.usbDevs = h.usbDevs ∧ ∀ e ∈ h.usbDevs, (h'.devices e).map Device.refcnt = (h.devices e).map Device.refcnt := by
  simp only [rawCloseDevice, bind_eq_bind, bind_eq_some_iff] at closed
  obtain ⟨device₂, there₂, closed⟩ := closed
  have before := same d
  rw [there₂] at before
  rcases rawOpenDevice_some opened with ⟨device, member, there, rfl⟩ | ⟨rfl, rfl⟩
  · have positive := ordered.counted d device there
    simp only [setDevice_devices, update_self, map_some, some.injEq] at before
    rw [if_pos (by omega)] at closed
    cases closed
    refine ⟨usbDevs, ?_⟩
    intro e _
    by_cases here : e = d
    · subst here
      simp [there, before]
    · have kept := same e
      simp only [setDevice_devices, update_of_ne here] at kept ⊢
      exact kept
  · simp only [setDevice_devices, update_self, map_some, some.injEq] at before
    rw [if_neg (by omega)] at closed
    cases closed
    simp only at usbDevs
    refine ⟨by simp [usbDevs], ?_⟩
    intro e member
    have old : e ≠ h.fresh := Nat.ne_of_lt (ordered.devices e member)
    have kept := same e
    simp only [setDevice_devices, update_of_ne old] at kept ⊢
    exact kept

theorem rawOpenDevice_none (opened : rawOpenDevice h busNum usbAddr attached = (none, h₁)) : h₁ = h := by
  unfold rawOpenDevice at opened
  simp only at opened
  split at opened
  · cases opened
  · split at opened
    · cases opened
    · cases opened
      rfl

theorem claim_shared (found : findPool h (.normal busNum usbAddr) = some (p, pool))
    (failed : claimObj (h.setPool p { pool with refCount := pool.refCount + 1 }) p none n attached = some (none, h')) :
    Unchanged h h' ↔ 0 < pool.refCount ∧ pool.Has n := by
  obtain ⟨member, there, _⟩ := findPool_some found
  have counted : (h.setPool p { pool with refCount := pool.refCount + 1 }).pools p =
      some { pool with refCount := pool.refCount + 1 } := by simp
  rcases claimObj_failed counted failed with ⟨absent, pool', b, refCount, _, _, destroyed⟩ | ⟨has, b, destroyed⟩
  · cases destroyed
    constructor
    · intro unchanged
      have kept := unchanged.pools p member
      simp only [setPool_setPool, setPool_pools, update_self, there, counts, map_some, some.injEq, Prod.mk.injEq] at kept
      simp only at refCount
      omega
    · rintro ⟨_, has⟩
      exact absurd has absent
  · by_cases shared : 0 < pool.refCount
    · rw [ifDestoryDevice_shared counted (by simp only; omega)] at destroyed
      cases destroyed
      have same : (h.setPool p { pool with refCount := pool.refCount + 1 }).setPool p
          { pool with refCount := pool.refCount + 1 - 1 } = h := by
        rw [setPool_setPool, Int.add_sub_cancel]
        exact h.setPool_self there
      rw [same]
      exact ⟨fun _ => ⟨shared, has⟩, fun _ => ⟨rfl, rfl, fun _ _ => rfl, fun _ _ => rfl⟩⟩
    · obtain ⟨q, pool', search, closed⟩ := ifDestoryDevice_last counted member (by simp only; omega) destroyed
      have listed := (findPool_some search).1
      constructor
      · intro unchanged
        have same := unchanged.ifacePoolList
        rw [(rawCloseDevice_pools closed).1] at same
        have shorter := congrArg List.length same
        simp only [setPool_ifacePoolList] at listed
        simp only [dropPool, setPool_ifacePoolList, List.length_erase_of_mem listed] at shorter
        have := List.length_pos_of_mem listed
        omega
      · rintro ⟨positive, _⟩
        exact absurd positive shared

def newPool (h : Host) (busNum devAddr : UInt8) (d : Nat) (interfaceList : List SdkInterface) : InterfacePool :=
  ⟨h.nextId, busNum, devAddr, 0, 0, d, interfaceList⟩

structure Made (h h' : Host) (busNum devAddr : UInt8) (d : Nat) (interfaceList : List SdkInterface) : Prop where
  ifacePoolList : h'.ifacePoolList = h.ifacePoolList ++ [h.fresh]
  usbDevs : h'.usbDevs = h.usbDevs
  pools : h'.pools = update h.pools h.fresh (some (newPool h busNum devAddr d interfaceList))
  devices : ∀ e, (h'.devices e).map Device.refcnt = (h.devices e).map Device.refcnt

theorem usbProtocalParseDescriptor_made {device : Device} (there : h.devices d = some device) (config : Option RawConfig) :
    ∃ h₂ interfaceList, usbProtocalParseDescriptor h d busNum usbAddr config = some (config.isSome, h₂) ∧
      Made h h₂ busNum usbAddr d interfaceList := by
  have devices : ∀ e, (update h.devices d (some { device with privateObject := some h.fresh }) e).map Device.refcnt =
      (h.devices e).map Device.refcnt := by
    intro e
    by_cases here : e = d
    · subst here
      simp [there]
    · rw [update_of_ne here]
  have made : (usbIfCreatInterfacePool h busNum usbAddr d).2.pools h.fresh = some (newPool h busNum usbAddr d []) := by
    simp [usbIfCreatInterfacePool, newPool, nextId]
  have known : (usbIfCreatInterfacePool h busNum usbAddr d).2.devices d = some device := there
  cases config with
  | none =>
    refine ⟨(usbIfCreatInterfacePool h busNum usbAddr d).2.setDevice d { device with privateObject := some h.fresh }, [], ?_,
      rfl, rfl, rfl, devices⟩
    simp only [usbProtocalParseDescriptor, known, bind_eq_bind, bind_some]
    exact congrArg (bind · _) made
  | some config =>
    refine ⟨((usbIfCreatInterfacePool h busNum usbAddr d).2.setDevice d { device with privateObject := some h.fresh }).setPool
        h.fresh (newPool h busNum usbAddr d (createCtrPipe h.nextId :: usbProtocalCreatInterfaceObj config h.nextId)),
      createCtrPipe h.nextId :: usbProtocalCreatInterfaceObj config h.nextId, ?_, rfl, rfl, ?_, devices⟩
    · simp only [usbProtocalParseDescriptor, known, bind_eq_bind, bind_some]
      exact congrArg (bind · _) made
    · simp [usbIfCreatInterfacePool]

theorem Made.findPool_eq {interfaceList : List SdkInterface} (made : Made h h₁ busNum usbAddr d interfaceList)
    (below : ∀ q ∈ h.ifacePoolList, q < h.fresh) (absent : findPool h (.normal busNum usbAddr) = none) :
    findPool h₁ (.normal busNum usbAddr) = some (h.fresh, newPool h busNum usbAddr d interfaceList) := by
  refine findPool_unique (by simp [made.ifacePoolList]) (by simp [made.pools]) (by simp [PoolQuery.finds, newPool]) ?_
  intro q member pool' there finds
  rw [made.ifacePoolList] at member
  rcases List.mem_append.mp member with before | last
  · rw [made.pools, update_of_ne (Nat.ne_of_lt (below q before))] at there
    rw [findPool_none absent before there] at finds
    cases finds
  · exact List.mem_singleton.mp last

theorem Made.destroy {interfaceList : List SdkInterface} (made : Made h h₁ busNum usbAddr d interfaceList)
    (below : ∀ q ∈ h.ifacePoolList, q < h.fresh) {pool' : InterfacePool} (refCount : pool'.refCount = 1)
    (objectId : pool'.objectId = h.nextId) {b : Bool}
    (destroyed : ifDestoryDevice (h₁.setPool h.fresh pool') h.fresh (some d) true = some (b, h')) :
    ∃ h₂, rawCloseDevice h₂ d = some h' ∧ h₂.usbDevs = h.usbDevs ∧
      (∀ e, (h₂.devices e).map Device.refcnt = (h.devices e).map Device.refcnt) ∧
      (h.Unused → h₂.ifacePoolList = h.ifacePoolList ∧ ∀ q ∈ h.ifacePoolList, h₂.pools q = h.pools q) ∧
      (¬ h.Unused → h.fresh ∈ h₂.ifacePoolList) := by
  have there : (h₁.setPool h.fresh pool').pools h.fresh = some pool' := by simp
  have member : h.fresh ∈ (h₁.setPool h.fresh pool').ifacePoolList := by simp [made.ifacePoolList]
  obtain ⟨q, found, search, closed⟩ := ifDestoryDevice_last there member (by omega) destroyed
  rw [setPool_setPool] at search closed
  generalize { pool' with refCount := pool'.refCount - 1 } = counted at search closed
  rw [objectId] at search
  have old : ∀ r ∈ h.ifacePoolList, (h₁.setPool h.fresh counted).pools r = h.pools r := by
    intro r listed
    have other := Nat.ne_of_lt (below r listed)
    rw [setPool_pools, update_of_ne other, made.pools, update_of_ne other]
  refine ⟨_, closed, made.usbDevs, made.devices, ?_, ?_⟩
  · intro unused
    have same : q = h.fresh := by
      obtain ⟨listed, is, finds⟩ := findPool_some search
      rw [setPool_ifacePoolList, made.ifacePoolList] at listed
      rcases List.mem_append.mp listed with before | last
      · rw [old q before] at is
        simp only [PoolQuery.finds, decide_eq_true_eq] at finds
        exact absurd finds (unused q before found is)
      · exact List.mem_singleton.mp last
    subst same
    constructor
    · simp only [dropPool, setPool_ifacePoolList, made.ifacePoolList]
      rw [List.erase_append_right _ (fun listed => Nat.lt_irrefl _ (below _ listed))]
      simp
    · intro r listed
      simp only [dropPool]
      rw [update_of_ne (Nat.ne_of_lt (below r listed))]
      exact old r listed
  · intro used
    have before : q ∈ h.ifacePoolList := by
      unfold Host.Unused at used
      push Not at used
      obtain ⟨r, listed, pool₀, is, same⟩ := used
      unfold findPool at search
      rw [setPool_ifacePoolList, made.ifacePoolList, List.findSome?_append] at search
      cases first : h.ifacePoolList.findSome? (fun p => ((h₁.setPool h.fresh counted).pools p).bind fun pool =>
          if (PoolQuery.objectId h.nextId).finds pool then some (p, pool) else none) with
      | none =>
        have nothing := List.findSome?_eq_none_iff.mp first r listed
        rw [old r listed, is] at nothing
        simp [PoolQuery.finds, same] at nothing
      | some result =>
        rw [first, some_or] at search
        cases search
        obtain ⟨r', listed', is'⟩ := List.exists_of_findSome?_eq_some first
        obtain ⟨_, _, is'⟩ := bind_eq_some_iff.mp is'
        split at is'
        · cases is'
          exact listed'
        · cases is'
    simp only [dropPool, setPool_ifacePoolList, made.ifacePoolList]
    exact (List.mem_erase_of_ne (Nat.ne_of_gt (below q before))).mpr (by simp)

theorem claim_made (ordered : Ordered h) (absent : findPool h (.normal busNum usbAddr) = none)
    (opened : rawOpenDevice h busNum usbAddr attached = (some d, h₁)) {result : Option Nat × Option Nat × Host}
    (got : ifGetInterfacePool h busNum usbAddr attached = some result)
    (failed : (match result with
      | (none, _, h₂) => some (none, h₂)
      | (some p, devHandle, h₂) => claimObj h₂ p devHandle n attached) = some (none, h')) :
    Unchanged h h' ↔ attached.config.isSome ∧ h.Unused := by
  obtain ⟨device, there⟩ : ∃ device, h₁.devices d = some device := by
    rcases rawOpenDevice_some opened with ⟨device, _, there, rfl⟩ | ⟨rfl, rfl⟩
    · exact ⟨_, update_self _ _ _⟩
    · exact ⟨_, update_self _ _ _⟩
  have kept : h₁.ifacePoolList = h.ifacePoolList ∧ h₁.pools = h.pools ∧ h₁.nextId = h.nextId ∧ h.fresh ≤ h₁.fresh := by
    rcases rawOpenDevice_some opened with ⟨device, _, there, rfl⟩ | ⟨rfl, rfl⟩
    · exact ⟨rfl, rfl, rfl, Nat.le_refl _⟩
    · exact ⟨rfl, rfl, rfl, Nat.le_succ _⟩
  obtain ⟨listed, pools, nextId, fresh⟩ := kept
  have below : ∀ q ∈ h₁.ifacePoolList, q < h₁.fresh := by
    intro q member
    rw [listed] at member
    exact Nat.lt_of_lt_of_le (ordered.pools q member) fresh
  have unlisted : h₁.fresh ∉ h.ifacePoolList := by
    rw [← listed]
    exact fun member => Nat.lt_irrefl _ (below _ member)
  have unused : h₁.Unused ↔ h.Unused := by simp only [Host.Unused, listed, pools, nextId]
  have absent₁ : findPool h₁ (.normal busNum usbAddr) = none := by
    unfold findPool
    rw [listed, pools]
    exact absent
  obtain ⟨h₂, interfaceList, parsed, made⟩ : ∃ h₂ interfaceList, usbProtocalParseDescriptor h₁ d busNum usbAddr
      attached.config = some (attached.config.isSome, h₂) ∧ Made h₁ h₂ busNum usbAddr d interfaceList :=
    usbProtocalParseDescriptor_made there attached.config
  simp only [ifGetInterfacePool, opened, parsed, bind_eq_bind, bind_some] at got
  cases readable : attached.config.isSome with
  | false =>
    simp only [readable, Bool.not_false, if_true, bind_eq_some_iff] at got
    obtain ⟨h₃, closed, got⟩ := got
    cases got
    cases failed
    refine ⟨fun unchanged => ?_, fun both => absurd both.1 (by simp)⟩
    have same := unchanged.ifacePoolList
    rw [(rawCloseDevice_pools closed).1, made.ifacePoolList, listed] at same
    simp at same
  | true =>
    have search : ifFindInterfacePool h₂ (.normal busNum usbAddr) true = (some h₁.fresh, h₂.setPool h₁.fresh
        { newPool h₁ busNum usbAddr d interfaceList with refCount := 1 }) := by
      simp only [ifFindInterfacePool, made.findPool_eq below absent₁, if_true]
      rfl
    simp only [readable, Bool.not_true, Bool.false_eq_true, if_false, search] at got
    cases got
    have destroys : ∃ pool' b, pool'.refCount = 1 ∧ pool'.objectId = h₁.nextId ∧
        ifDestoryDevice (h₂.setPool h₁.fresh pool') h₁.fresh (some d) true = some (b, h') := by
      have counted : (h₂.setPool h₁.fresh { newPool h₁ busNum usbAddr d interfaceList with refCount := 1 }).pools h₁.fresh =
          some { newPool h₁ busNum usbAddr d interfaceList with refCount := 1 } := by simp
      rcases claimObj_failed counted failed with ⟨_, pool', b, refCount, objectId, _, destroyed⟩ | ⟨_, b, destroyed⟩
      · rw [setPool_setPool] at destroyed
        exact ⟨pool', b, refCount, objectId, destroyed⟩
      · exact ⟨_, b, rfl, rfl, destroyed⟩
    obtain ⟨pool', b, refCount, objectId, destroyed⟩ := destroys
    obtain ⟨h₃, closed, usbDevs, devices, own, shared⟩ := made.destroy below refCount objectId destroyed
    have closes := rawOpenDevice_close ordered opened usbDevs devices closed
    obtain ⟨listed', pools'⟩ := rawCloseDevice_pools closed
    by_cases free : h.Unused
    · obtain ⟨restored, kept⟩ := own (unused.mpr free)
      refine ⟨fun _ => ⟨rfl, free⟩, fun _ => ⟨?_, closes.1, ?_, closes.2⟩⟩
      · rw [listed', restored, listed]
      · intro q member
        rw [pools', kept q (by rw [listed]; exact member), pools]
    · refine ⟨fun unchanged => ?_, fun both => absurd both.2 free⟩
      have stays := shared (fun other => free (unused.mp other))
      rw [← listed', unchanged.ifacePoolList] at stays
      exact absurd stays unlisted

end

def Host.Reachable (h : Host) : Prop := ∃ idNum calls, (start idNum).run calls = some h

/-- A failed claim leaves the counts as they were exactly when it is undone. -/
theorem claim_unchanged_iff_undone {h h' : Host} (reachable : h.Reachable) {busNum usbAddr n : UInt8} {attached : Attached}
    (failed : usbClaimInterface h busNum usbAddr n attached = some (none, h')) :
    Unchanged h h' ↔ Undone h busNum usbAddr n attached := by
  obtain ⟨idNum, calls, ran⟩ := reachable
  have ordered := (Ordered.start idNum).run ran
  unfold usbClaimInterface ifFindInterfacePool at failed
  unfold Undone
  cases found : findPool h (.normal busNum usbAddr) with
  | some result =>
    obtain ⟨p, pool⟩ := result
    simp only [found, if_true] at failed
    exact claim_shared found failed
  | none =>
    simp only [found, bind_eq_bind, bind_eq_some_iff] at failed
    obtain ⟨result, got, failed⟩ := failed
    cases opened : rawOpenDevice h busNum usbAddr attached with
    | mk devHandle h₁ =>
      cases devHandle with
      | none =>
        simp only [ifGetInterfacePool, opened] at got
        cases got
        cases failed
        rw [rawOpenDevice_none opened]
        exact ⟨fun _ => .inl rfl, fun _ => ⟨rfl, rfl, fun _ _ => rfl, fun _ _ => rfl⟩⟩
      | some d =>
        have made : Unchanged h h' ↔ attached.config.isSome ∧ h.Unused := by
          refine claim_made (n := n) ordered found opened got ?_
          obtain ⟨p, devHandle, h₂⟩ := result
          cases p with
          | none => exact failed
          | some p => exact failed
        rw [made]
        simp

def oneInterface (claims : Bool) : Attached :=
  ⟨true, some ⟨[9, 2, 18, 0, 1, 1, 0, 0x80, 50], [⟨1, [⟨[9, 4, 0, 0, 0, 0xff, 0, 0, 0], [], []⟩]⟩], []⟩, claims⟩

def controlClaimed : Host := ((start 0).run [.claim 1 1 usbCtrlInterfaceId (oneInterface true)]).getD (start 0)

theorem controlClaimed_reachable : controlClaimed.Reachable := ⟨0, [.claim 1 1 usbCtrlInterfaceId (oneInterface true)], rfl⟩

/-- A claim that the kernel refuses is undone. -/
theorem claim_refused_unchanged : controlClaimed.Reachable ∧
    ∃ h', usbClaimInterface controlClaimed 1 1 0 (oneInterface false) = some (none, h') ∧ Unchanged controlClaimed h' := by
  obtain ⟨h', failed⟩ : ∃ h', usbClaimInterface controlClaimed 1 1 0 (oneInterface false) = some (none, h') := ⟨_, rfl⟩
  have undone : Undone controlClaimed 1 1 0 (oneInterface false) := ⟨by decide, 1, _, rfl, rfl, by decide⟩
  exact ⟨controlClaimed_reachable, h', failed, (claim_unchanged_iff_undone controlClaimed_reachable failed).mpr undone⟩

/-- A claim of an interface the device does not have leaves a reference behind. -/
theorem claim_unknown_changed : controlClaimed.Reachable ∧
    ∃ h', usbClaimInterface controlClaimed 1 1 7 (oneInterface true) = some (none, h') ∧ ¬ Unchanged controlClaimed h' := by
  refine ⟨controlClaimed_reachable, _, rfl, ?_⟩
  intro unchanged
  exact absurd (unchanged.pools 1 (by decide)) (by decide)

end Peripheral.UsbPool
