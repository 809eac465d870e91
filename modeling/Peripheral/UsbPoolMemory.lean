import Peripheral.UsbPool

/-!
What the calls do to the memory of a session. Pools are found by the address of
their device or by their identifier, which is a counter that comes round again. A
call is a sequence of single changes, and makes a pool only as what stands before
it says.
-/
namespace Peripheral.UsbPool
open Peripheral.Usb Option
open Function (update update_eq_self)

namespace Host
variable (h : Host) {p q d e : Nat} (pool pool' : InterfacePool) (device device' : Device)

@[simp] theorem setPool_pools : (h.setPool p pool).pools = update h.pools p (some pool) := rfl
@[simp] theorem setPool_devices : (h.setPool p pool).devices = h.devices := rfl
@[simp] theorem setPool_ifacePoolList : (h.setPool p pool).ifacePoolList = h.ifacePoolList := rfl
@[simp] theorem setPool_usbDevs : (h.setPool p pool).usbDevs = h.usbDevs := rfl
@[simp] theorem setPool_fresh : (h.setPool p pool).fresh = h.fresh := rfl
@[simp] theorem setPool_idNum : (h.setPool p pool).idNum = h.idNum := rfl
@[simp] theorem setDevice_devices : (h.setDevice d device).devices = update h.devices d (some device) := rfl
@[simp] theorem setDevice_pools : (h.setDevice d device).pools = h.pools := rfl
@[simp] theorem setDevice_ifacePoolList : (h.setDevice d device).ifacePoolList = h.ifacePoolList := rfl
@[simp] theorem setDevice_usbDevs : (h.setDevice d device).usbDevs = h.usbDevs := rfl
@[simp] theorem setDevice_fresh : (h.setDevice d device).fresh = h.fresh := rfl
@[simp] theorem setDevice_idNum : (h.setDevice d device).idNum = h.idNum := rfl

@[simp] theorem setPool_setPool : (h.setPool p pool).setPool p pool' = h.setPool p pool' := by simp [setPool]
@[simp] theorem setDevice_setPool : (h.setDevice d device).setPool p pool = (h.setPool p pool).setDevice d device := rfl

variable {pool device}

theorem setPool_self (there : h.pools p = some pool) : h.setPool p pool = h := by
  have same : update h.pools p (some pool) = h.pools := by rw [← there, update_eq_self]
  simp only [setPool, same]

theorem setDevice_self (there : h.devices d = some device) : h.setDevice d device = h := by
  have same : update h.devices d (some device) = h.devices := by rw [← there, update_eq_self]
  simp only [setDevice, same]

end Host

namespace InterfacePool
variable (pool : InterfacePool) {i : Nat} (obj obj' : SdkInterface)

@[simp] theorem setObj_objectId : (pool.setObj i obj).objectId = pool.objectId := rfl
@[simp] theorem setObj_busNum : (pool.setObj i obj).busNum = pool.busNum := rfl
@[simp] theorem setObj_devAddr : (pool.setObj i obj).devAddr = pool.devAddr := rfl
@[simp] theorem setObj_refCount : (pool.setObj i obj).refCount = pool.refCount := rfl
@[simp] theorem setObj_ioRefCount : (pool.setObj i obj).ioRefCount = pool.ioRefCount := rfl
@[simp] theorem setObj_device : (pool.setObj i obj).device = pool.device := rfl
@[simp] theorem setObj_interfaceList : (pool.setObj i obj).interfaceList = pool.interfaceList.set i obj := rfl
@[simp] theorem setObj_setObj : (pool.setObj i obj).setObj i obj' = pool.setObj i obj' := by simp [setObj]

variable {obj}

theorem setObj_self (there : pool.interfaceList[i]? = some obj) : pool.setObj i obj = pool := by
  obtain ⟨inside, is⟩ := List.getElem?_eq_some_iff.mp there
  have same : pool.interfaceList.set i obj = pool.interfaceList := by
    rw [← is]
    exact List.set_getElem_self inside
  simp only [setObj, same]

end InterfacePool

section
variable {h : Host} {query : PoolQuery} {p : Nat} {pool : InterfacePool}

theorem findPool_some (found : findPool h query = some (p, pool)) :
    p ∈ h.ifacePoolList ∧ h.pools p = some pool ∧ query.finds pool = true := by
  obtain ⟨q, member, is⟩ := List.exists_of_findSome?_eq_some found
  obtain ⟨pool', there, is⟩ := bind_eq_some_iff.mp is
  split at is
  · cases is
    exact ⟨member, there, by assumption⟩
  · cases is

theorem findPool_none (absent : findPool h query = none) (member : p ∈ h.ifacePoolList) (there : h.pools p = some pool) :
    query.finds pool = false := by
  have nothing := List.findSome?_eq_none_iff.mp absent p member
  rw [there, bind_some] at nothing
  by_contra finds
  rw [if_pos (by simpa using finds)] at nothing
  cases nothing

theorem findPool_unique (member : p ∈ h.ifacePoolList) (there : h.pools p = some pool) (finds : query.finds pool = true)
    (unique : ∀ q ∈ h.ifacePoolList, ∀ pool', h.pools q = some pool' → query.finds pool' = true → q = p) :
    findPool h query = some (p, pool) := by
  cases found : findPool h query with
  | none =>
    have none := findPool_none found member there
    rw [finds] at none
    cases none
  | some result =>
    obtain ⟨member', there', finds'⟩ := findPool_some found
    have same := unique result.1 member' result.2 there' finds'
    obtain ⟨q, pool'⟩ := result
    simp only at same there'
    subst same
    rw [there] at there'
    cases there'
    rfl

end

/-- A call of the library with the answers it gets, or a pool that is made in another session. -/
inductive HostCall
  | claim (busNum usbAddr n : UInt8) (attached : Attached)
  | release (interfaceObj : ObjRef) (answer : Answer)
  | addOrRemove (busNum usbAddr n : UInt8) (status : InterfaceStatus) (accepted : Bool)
  | openObj (interfaceObj : ObjRef) (starts : Bool)
  | close (handle : InterfaceHandle) (stops : Bool)
  | select (handle : InterfaceHandle) (settingIndex : UInt8) (sets : Bool)
  | elsewhere

def Host.nextId (h : Host) : Nat := (h.idNum + 1) % interfacePoolIdMax

def Host.call (h : Host) : HostCall → Option Host
  | .claim busNum usbAddr n attached => (usbClaimInterface h busNum usbAddr n attached).map Prod.snd
  | .release interfaceObj answer => (usbReleaseInterface h interfaceObj answer).map Prod.snd
  | .addOrRemove busNum usbAddr n status accepted => (usbAddOrRemoveInterface h busNum usbAddr n status accepted).map Prod.snd
  | .openObj interfaceObj starts => (usbOpenInterface h interfaceObj starts).map Prod.snd
  | .close handle stops => (usbCloseInterface h handle stops).map Prod.snd
  | .select handle settingIndex sets => (usbSelectInterfaceSetting h handle settingIndex sets).map Prod.snd
  | .elsewhere => some { h with idNum := h.nextId }

/-- No pool of the session has the identifier that the next one gets. -/
def Host.Unused (h : Host) : Prop := ∀ p ∈ h.ifacePoolList, ∀ pool, h.pools p = some pool → pool.objectId ≠ h.nextId

structure InterfacePool.Alike (pool pool' : InterfacePool) : Prop where
  objectId : pool'.objectId = pool.objectId
  busNum : pool'.busNum = pool.busNum
  devAddr : pool'.devAddr = pool.devAddr
  device : pool'.device = pool.device
  parents : ∀ obj' ∈ pool'.interfaceList, obj'.parentObjectId = pool.objectId ∨
    ∃ obj ∈ pool.interfaceList, obj'.parentObjectId = obj.parentObjectId

/-- The call makes a pool in the process. -/
def Host.makes (h : Host) : HostCall → Bool
  | .claim busNum usbAddr _ attached =>
    (findPool h (.normal busNum usbAddr)).isNone && (rawOpenDevice h busNum usbAddr attached).1.isSome
  | .elsewhere => true
  | _ => false

structure Host.SamePools (h g : Host) : Prop where
  listed : g.ifacePoolList = h.ifacePoolList
  pools : g.pools = h.pools
  idNum : g.idNum = h.idNum

/-- The single changes that calls make. A pool is made only where it may be. -/
inductive Touch (may : Host → Prop) : Host → Host → Prop
  | pool {h : Host} {p : Nat} {pool pool' : InterfacePool} (there : h.pools p = some pool) (alike : pool.Alike pool') :
      Touch may h (h.setPool p pool')
  | device {h : Host} {d : Nat} {device device' : Device} (there : h.devices d = some device)
      (same : device'.busNum = device.busNum ∧ device'.devAddr = device.devAddr)
      (counted : 0 < device.refcnt → 0 < device'.refcnt) : Touch may h (h.setDevice d device')
  | opened (h : Host) (busNum usbAddr : UInt8) : Touch may h
      { h.setDevice h.fresh ⟨busNum, usbAddr, 1, 0, none⟩ with fresh := h.fresh + 1, usbDevs := h.fresh :: h.usbDevs }
  | created {h : Host} (busNum devAddr : UInt8) (d : Nat) (allowed : may h) :
      Touch may h (usbIfCreatInterfacePool h busNum devAddr d).2
  | destroyed (h : Host) (p : Nat) : Touch may h
      { h with ifacePoolList := h.ifacePoolList.erase p, pools := update h.pools p none }
  | closed (h : Host) (d : Nat) : Touch may h
      { h with usbDevs := h.usbDevs.erase d, devices := update h.devices d none }
  | elsewhere {h : Host} (allowed : may h) : Touch may h { h with idNum := h.nextId }

abbrev Touches (may : Host → Prop) : Host → Host → Prop := Relation.ReflTransGen (Touch may)

namespace InterfacePool.Alike

theorem of_same {pool pool' : InterfacePool} (objectId : pool'.objectId = pool.objectId) (busNum : pool'.busNum = pool.busNum)
    (devAddr : pool'.devAddr = pool.devAddr) (device : pool'.device = pool.device)
    (same : pool'.interfaceList = pool.interfaceList) : pool.Alike pool' :=
  ⟨objectId, busNum, devAddr, device, fun obj' member => .inr ⟨obj', by rw [← same]; exact member, rfl⟩⟩

theorem refl (pool : InterfacePool) : pool.Alike pool := of_same rfl rfl rfl rfl rfl

theorem trans {pool pool' pool'' : InterfacePool} (first : pool.Alike pool') (second : pool'.Alike pool'') :
    pool.Alike pool'' := by
  refine ⟨second.objectId.trans first.objectId, second.busNum.trans first.busNum, second.devAddr.trans first.devAddr,
    second.device.trans first.device, ?_⟩
  intro obj'' member
  rcases second.parents obj'' member with own | ⟨obj', member', same⟩
  · exact .inl (own.trans first.objectId)
  · rw [same]
    exact first.parents obj' member'

theorem setObj {pool : InterfacePool} {i : Nat} {obj obj' : SdkInterface} (there : pool.interfaceList[i]? = some obj)
    (same : obj'.parentObjectId = obj.parentObjectId) : pool.Alike (pool.setObj i obj') := by
  refine ⟨rfl, rfl, rfl, rfl, ?_⟩
  intro x member
  rcases List.mem_or_eq_of_mem_set member with before | rfl
  · exact .inr ⟨x, before, rfl⟩
  · exact .inr ⟨obj, List.mem_of_getElem? there, same⟩

theorem mapSetting (pool : InterfacePool) (n settingIndex : UInt8) :
    pool.Alike { pool with interfaceList := pool.interfaceList.map fun obj =>
      if obj.interfaceIndex = n then { obj with curAltSetting := settingIndex } else obj } := by
  refine ⟨rfl, rfl, rfl, rfl, ?_⟩
  intro obj' member
  obtain ⟨obj, before, rfl⟩ := List.mem_map.mp member
  refine .inr ⟨obj, before, ?_⟩
  split <;> rfl

end InterfacePool.Alike

theorem ifInterfaceRefCount_parent (obj : SdkInterface) (n : UInt8) (refCountFlag : Bool) :
    (ifInterfaceRefCount obj n refCountFlag).1.parentObjectId = obj.parentObjectId := by
  unfold ifInterfaceRefCount
  split <;> rfl

theorem ifFindInterfaceObj_alike (pool : InterfacePool) (query : InterfaceQuery) (refCountFlag statusFlag : Bool) :
    pool.Alike (ifFindInterfaceObj pool query refCountFlag statusFlag).2 := by
  unfold ifFindInterfaceObj
  split
  · exact .refl pool
  · split
    · exact .refl pool
    · rename_i obj there
      have counted := InterfacePool.Alike.setObj there (ifInterfaceRefCount_parent obj query.number refCountFlag)
      simp only
      split
      · exact counted
      · exact counted

section
variable {may : Host → Prop} {h h' : Host} {p d : Nat}

theorem Touches.single (touch : Touch may h h') : Touches may h h' := Relation.ReflTransGen.single touch

theorem rawCloseDevice_touches (closed : rawCloseDevice h d = some h') : Touches may h h' := by
  simp only [rawCloseDevice, bind_eq_bind, bind_eq_some_iff] at closed
  obtain ⟨device, there, closed⟩ := closed
  split at closed
  · cases closed
    exact .single (.device there ⟨rfl, rfl⟩ (fun _ => by simp only; omega))
  · cases closed
    exact .single (.closed h d)

theorem ifDestroyInterfacePool_touches {b : Bool} (destroyed : ifDestroyInterfacePool h p = some (b, h')) :
    Touches may h h' := by
  simp only [ifDestroyInterfacePool, bind_eq_bind, bind_eq_some_iff] at destroyed
  obtain ⟨pool, _, destroyed⟩ := destroyed
  split at destroyed
  · cases destroyed
    exact .refl
  · split at destroyed
    · cases destroyed
      exact .refl
    · cases destroyed
      exact .single (.destroyed h _)

theorem ifDestoryDevice_touches {devHandle : Option Nat} {refCountFlag b : Bool}
    (destroyed : ifDestoryDevice h p devHandle refCountFlag = some (b, h')) : Touches may h h' := by
  cases devHandle with
  | none =>
    cases destroyed
    exact .refl
  | some d =>
    simp only [ifDestoryDevice, bind_eq_bind, bind_eq_some_iff] at destroyed
    obtain ⟨pool, there, destroyed⟩ := destroyed
    generalize (if refCountFlag then pool.refCount - 1 else pool.refCount) = refCount at destroyed
    have counted : Touch may h (h.setPool p { pool with refCount := refCount }) :=
      .pool there (.of_same rfl rfl rfl rfl rfl)
    refine .trans (.single counted) ?_
    split at destroyed
    · cases destroyed
      exact .refl
    · simp only [bind_eq_some_iff] at destroyed
      obtain ⟨⟨done, h₁⟩, removed, destroyed⟩ := destroyed
      refine .trans (ifDestroyInterfacePool_touches removed) ?_
      split at destroyed
      · cases destroyed
        exact .refl
      · simp only [bind_eq_some_iff] at destroyed
        obtain ⟨h₂, closed, destroyed⟩ := destroyed
        cases destroyed
        exact rawCloseDevice_touches closed

theorem ifFindInterfacePool_touches (query : PoolQuery) (refCountFlag : Bool) :
    Touches may h (ifFindInterfacePool h query refCountFlag).2 := by
  unfold ifFindInterfacePool
  split
  · exact .refl
  · rename_i found
    split
    · exact .single (.pool (findPool_some found).2.1 (.of_same rfl rfl rfl rfl rfl))
    · exact .refl

theorem rawOpenDevice_touches (busNum usbAddr : UInt8) (attached : Attached) :
    Touches may h (rawOpenDevice h busNum usbAddr attached).2 := by
  unfold rawOpenDevice
  simp only
  split
  · rename_i found
    obtain ⟨e, _, is⟩ := List.exists_of_findSome?_eq_some found
    obtain ⟨device', there, is⟩ := bind_eq_some_iff.mp is
    split at is
    · cases is
      exact .single (.device there ⟨rfl, rfl⟩ (fun _ => by simp only; omega))
    · cases is
  · split
    · exact .single (.opened h busNum usbAddr)
    · exact .refl

variable {attached : Attached}

theorem rawOpenDevice_samePools (busNum usbAddr : UInt8) : h.SamePools (rawOpenDevice h busNum usbAddr attached).2 := by
  unfold rawOpenDevice
  simp only
  split
  · exact ⟨rfl, rfl, rfl⟩
  · split
    · exact ⟨rfl, rfl, rfl⟩
    · exact ⟨rfl, rfl, rfl⟩

theorem usbProtocalParseDescriptor_touches {busNum devAddr : UInt8} {config : Option RawConfig} {b : Bool}
    (allowed : may h) (parsed : usbProtocalParseDescriptor h d busNum devAddr config = some (b, h')) : Touches may h h' := by
  have created : Touch may h (usbIfCreatInterfacePool h busNum devAddr d).2 := .created busNum devAddr d allowed
  unfold usbProtocalParseDescriptor at parsed
  generalize usbIfCreatInterfacePool h busNum devAddr d = made at created parsed
  obtain ⟨p, h₁⟩ := made
  simp only [bind_eq_bind, bind_eq_some_iff] at created parsed
  obtain ⟨device, there, pool, found, parsed⟩ := parsed
  have linked : Touch may h₁ (h₁.setDevice d { device with privateObject := some p }) := .device there ⟨rfl, rfl⟩ id
  refine .trans (.single created) (.trans (.single linked) ?_)
  split at parsed
  · cases parsed
    exact .refl
  · cases parsed
    refine .single (.pool (show (h₁.setDevice d _).pools p = some pool from found) ⟨rfl, rfl, rfl, rfl, ?_⟩)
    intro obj member
    refine .inl ?_
    rcases List.mem_cons.mp member with rfl | other
    · rfl
    · obtain ⟨itface, _, inside⟩ := List.mem_flatMap.mp other
      obtain ⟨ifDes, _, rfl⟩ := List.mem_map.mp inside
      rfl

theorem ifGetInterfacePool_touches {busNum usbAddr : UInt8} {pool devHandle : Option Nat}
    (allowed : (rawOpenDevice h busNum usbAddr attached).1.isSome → ∀ g, h.SamePools g → may g)
    (got : ifGetInterfacePool h busNum usbAddr attached = some (pool, devHandle, h')) : Touches may h h' := by
  unfold ifGetInterfacePool at got
  have opens : Touches may h _ := rawOpenDevice_touches busNum usbAddr attached
  split at got
  · rename_i is
    rw [is] at opens
    cases got
    exact opens
  · rename_i d h₁ is
    have allowed₁ : may h₁ := by
      have same : h.SamePools (rawOpenDevice h busNum usbAddr attached).2 := rawOpenDevice_samePools busNum usbAddr
      rw [is] at same
      exact allowed (by rw [is]; rfl) h₁ same
    rw [is] at opens
    refine .trans opens ?_
    simp only [bind_eq_bind, bind_eq_some_iff] at got
    obtain ⟨⟨done, h₂⟩, parsed, got⟩ := got
    refine .trans (usbProtocalParseDescriptor_touches allowed₁ parsed) ?_
    split at got
    · simp only [bind_eq_some_iff] at got
      obtain ⟨h₃, closed, got⟩ := got
      cases got
      exact rawCloseDevice_touches closed
    · have finds : Touches may h₂ _ := ifFindInterfacePool_touches (.normal busNum usbAddr) true
      split at got
      · rename_i is
        rw [is] at finds
        cases got
        exact finds
      · rename_i is
        rw [is] at finds
        refine .trans finds ?_
        simp only [bind_eq_some_iff] at got
        obtain ⟨device, _, q, _, ⟨done, h₄⟩, destroyed, got⟩ := got
        cases got
        exact ifDestoryDevice_touches destroyed

theorem rawClaimInterface_same {device device' : Device} {n : UInt8} {answer : Bool}
    (accepted : rawClaimInterface device n answer = some device') :
    (device'.busNum = device.busNum ∧ device'.devAddr = device.devAddr) ∧ device'.refcnt = device.refcnt := by
  unfold rawClaimInterface at accepted
  split at accepted
  · cases accepted
  · split at accepted
    · cases accepted
      exact ⟨⟨rfl, rfl⟩, rfl⟩
    · split at accepted
      · cases accepted
        exact ⟨⟨rfl, rfl⟩, rfl⟩
      · cases accepted

theorem rawReleaseInterface_same {device device' : Device} {n : UInt8} {answer : Answer}
    (accepted : rawReleaseInterface device n answer = some device') :
    (device'.busNum = device.busNum ∧ device'.devAddr = device.devAddr) ∧ device'.refcnt = device.refcnt := by
  unfold rawReleaseInterface at accepted
  split at accepted
  · cases accepted
  · split at accepted
    · cases accepted
    · split at accepted
      · cases accepted
        exact ⟨⟨rfl, rfl⟩, rfl⟩
      · cases accepted
        exact ⟨⟨rfl, rfl⟩, rfl⟩
      · cases accepted

variable {o : Option ObjRef}

theorem claimObj_touches {devHandle : Option Nat} {n : UInt8}
    (claimed : claimObj h p devHandle n attached = some (o, h')) : Touches may h h' := by
  simp only [claimObj, bind_eq_bind, bind_eq_some_iff] at claimed
  obtain ⟨pool, there, claimed⟩ := claimed
  have alike := ifFindInterfaceObj_alike pool (.interfaceIndex n) true true
  split at claimed
  · rename_i is
    rw [is] at alike
    simp only [bind_eq_some_iff] at claimed
    obtain ⟨⟨done, h₁⟩, destroyed, claimed⟩ := claimed
    cases claimed
    exact .trans (.single (.pool there alike)) (ifDestoryDevice_touches destroyed)
  · rename_i i claimFlag pool₁ is
    rw [is] at alike
    simp only [bind_eq_some_iff] at claimed
    obtain ⟨obj, found, claimed⟩ := claimed
    have returned : pool.Alike (pool₁.setObj i { obj with session := true }) := alike.trans (.setObj found rfl)
    split at claimed
    · simp only [bind_eq_some_iff] at claimed
      obtain ⟨device, known, claimed⟩ := claimed
      split at claimed
      · simp only [bind_eq_some_iff] at claimed
        obtain ⟨⟨done, h₁⟩, destroyed, claimed⟩ := claimed
        cases claimed
        have undone : pool.Alike (pool₁.setObj i { obj with refCount := obj.refCount - 1 }) :=
          alike.trans (.setObj found rfl)
        exact .trans (.single (.pool there undone)) (ifDestoryDevice_touches destroyed)
      · rename_i device' accepted
        have same := rawClaimInterface_same accepted
        cases claimed
        exact .trans (.single (.pool there returned)) (.single (.device known same.1 (fun positive => by rw [same.2]; exact positive)))
    · cases claimed
      exact .single (.pool there returned)

theorem usbClaimInterface_touches {busNum usbAddr n : UInt8}
    (allowed : h.makes (.claim busNum usbAddr n attached) → ∀ g, h.SamePools g → may g)
    (claimed : usbClaimInterface h busNum usbAddr n attached = some (o, h')) : Touches may h h' := by
  unfold usbClaimInterface at claimed
  have finds : Touches may h _ := ifFindInterfacePool_touches (.normal busNum usbAddr) true
  split at claimed
  · rename_i is
    rw [is] at finds
    exact finds.trans (claimObj_touches claimed)
  · rename_i h₁ is
    have absent : findPool h (.normal busNum usbAddr) = none ∧ h₁ = h := by
      unfold ifFindInterfacePool at is
      split at is
      · cases is
        exact ⟨by assumption, rfl⟩
      · cases is
    obtain ⟨absent, rfl⟩ := absent
    simp only [bind_eq_bind, bind_eq_some_iff] at claimed
    obtain ⟨⟨pool, devHandle, h₂⟩, got, claimed⟩ := claimed
    refine .trans (ifGetInterfacePool_touches (fun opens => allowed (by simp [Host.makes, absent, opens])) got) ?_
    cases pool with
    | none =>
      cases claimed
      exact .refl
    | some p => exact claimObj_touches claimed

theorem usbReleaseInterface_touches {o : ObjRef} {answer : Answer} {b : Bool}
    (released : usbReleaseInterface h o answer = some (b, h')) : Touches may h h' := by
  simp only [usbReleaseInterface, bind_eq_bind, bind_eq_some_iff] at released
  obtain ⟨owner, there, obj, found, released⟩ := released
  split at released
  · cases released
    exact .refl
  · split at released
    · cases released
      exact .refl
    · simp only [bind_eq_some_iff] at released
      obtain ⟨device, known, released⟩ := released
      split at released
      · exact ifDestoryDevice_touches released
      · have taken : Touch may h (h.setPool o.pool (owner.setObj o.index { obj with refCount := obj.refCount - 1 })) :=
          .pool there (.setObj found rfl)
        split at released
        · split at released
          · cases released
            exact .refl
          · rename_i device' accepted
            have same := rawReleaseInterface_same accepted
            refine .trans (.single taken) (.trans (.single (.device known same.1 ?_)) (ifDestoryDevice_touches released))
            intro positive
            rw [same.2]
            exact positive
        · exact .trans (.single taken) (ifDestoryDevice_touches released)

theorem usbAddOrRemoveInterface_touches {busNum usbAddr n : UInt8} {status : InterfaceStatus} {accepted b : Bool}
    (changed : usbAddOrRemoveInterface h busNum usbAddr n status accepted = some (b, h')) : Touches may h h' := by
  unfold usbAddOrRemoveInterface at changed
  split at changed
  · cases changed
    exact .refl
  · rename_i p pool found
    have alike := ifFindInterfaceObj_alike pool (.interfaceIndex n) false false
    split at changed
    · cases changed
      exact .refl
    · rename_i is
      rw [is] at alike
      simp only [bind_eq_bind, bind_eq_some_iff] at changed
      obtain ⟨obj, there, changed⟩ := changed
      split at changed
      · cases changed
        exact .refl
      · cases changed
        exact .single (.pool (findPool_some found).2.1 (alike.trans (.setObj there rfl)))

theorem usbOpenInterface_touches {o : ObjRef} {starts : Bool} {handle : Option InterfaceHandle}
    (opened : usbOpenInterface h o starts = some (handle, h')) : Touches may h h' := by
  simp only [usbOpenInterface, bind_eq_bind, bind_eq_some_iff] at opened
  obtain ⟨owner, there, obj, found, opened⟩ := opened
  split at opened
  · cases opened
    exact .refl
  · split at opened
    · cases opened
      exact .refl
    · simp only [bind_eq_some_iff] at opened
      obtain ⟨device, _, opened⟩ := opened
      split at opened
      · cases opened
        exact .refl
      · simp only [bind_eq_some_iff] at opened
        obtain ⟨pool, there', opened⟩ := opened
        cases opened
        have referred : Touch may h (h.setPool o.pool (owner.setObj o.index { obj with refCount := obj.refCount + 1 })) :=
          .pool there (.setObj found rfl)
        refine .trans (.single referred) (.single ?_)
        exact .pool there' (.of_same rfl rfl rfl rfl rfl)

theorem usbCloseInterface_touches {handle : InterfaceHandle} {stops b : Bool}
    (closed : usbCloseInterface h handle stops = some (b, h')) : Touches may h h' := by
  simp only [usbCloseInterface, bind_eq_bind, bind_eq_some_iff] at closed
  obtain ⟨device, _, closed⟩ := closed
  split at closed
  · cases closed
    exact .refl
  · simp only [bind_eq_some_iff] at closed
    obtain ⟨pool, there, closed⟩ := closed
    have alike := ifFindInterfaceObj_alike pool (.interfaceIndex handle.interfaceIndex) false false
    split at closed
    · cases closed
      exact .refl
    · rename_i i claimFlag pool₁ is
      rw [is] at alike
      simp only [bind_eq_some_iff] at closed
      obtain ⟨obj, found, closed⟩ := closed
      split at closed
      · cases closed
        exact .refl
      · cases closed
        have given : pool.Alike (pool₁.setObj i { obj with refCount := obj.refCount - 1 }) :=
          alike.trans (.setObj found rfl)
        exact .single (.pool there (given.trans (.of_same rfl rfl rfl rfl rfl)))

theorem usbSelectInterfaceSetting_touches {handle : InterfaceHandle} {settingIndex : UInt8} {sets : Bool}
    (selected : usbSelectInterfaceSetting h handle settingIndex sets = some (o, h')) : Touches may h h' := by
  simp only [usbSelectInterfaceSetting, bind_eq_bind, bind_eq_some_iff] at selected
  obtain ⟨device, _, selected⟩ := selected
  split at selected
  · cases selected
    exact .refl
  · split at selected
    · cases selected
      exact .refl
    · simp only [bind_eq_some_iff] at selected
      obtain ⟨pool, there, selected⟩ := selected
      have set := InterfacePool.Alike.mapSetting pool handle.interfaceIndex settingIndex
      have alike := set.trans (ifFindInterfaceObj_alike _ (.interfaceIndex handle.interfaceIndex) false true)
      split at selected
      · rename_i is
        rw [is] at alike
        cases selected
        exact .single (.pool there alike)
      · rename_i is
        rw [is] at alike
        simp only [bind_eq_some_iff] at selected
        obtain ⟨obj, found, selected⟩ := selected
        cases selected
        exact .single (.pool there (alike.trans (.setObj found rfl)))

theorem call_touches {c : HostCall} (allowed : h.makes c → ∀ g, h.SamePools g → may g) (called : h.call c = some h') :
    Touches may h h' := by
  cases c with
  | claim busNum usbAddr n attached =>
    obtain ⟨⟨o, h₁⟩, claimed, rfl⟩ := map_eq_some_iff.mp called
    exact usbClaimInterface_touches allowed claimed
  | release o answer =>
    obtain ⟨⟨b, h₁⟩, released, rfl⟩ := map_eq_some_iff.mp called
    exact usbReleaseInterface_touches released
  | addOrRemove busNum usbAddr n status accepted =>
    obtain ⟨⟨b, h₁⟩, changed, rfl⟩ := map_eq_some_iff.mp called
    exact usbAddOrRemoveInterface_touches changed
  | openObj o starts =>
    obtain ⟨⟨handle, h₁⟩, opened, rfl⟩ := map_eq_some_iff.mp called
    exact usbOpenInterface_touches opened
  | close handle stops =>
    obtain ⟨⟨b, h₁⟩, closed, rfl⟩ := map_eq_some_iff.mp called
    exact usbCloseInterface_touches closed
  | select handle settingIndex sets =>
    obtain ⟨⟨o, h₁⟩, selected, rfl⟩ := map_eq_some_iff.mp called
    exact usbSelectInterfaceSetting_touches selected
  | elsewhere =>
    cases called
    exact .single (.elsewhere (allowed rfl h ⟨rfl, rfl, rfl⟩))

end

end Peripheral.UsbPool
