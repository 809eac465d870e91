import Peripheral.UsbPoolClaim

/-!
Reference counts of pools, objects and claimed interfaces. The caller's side is kept
beside the session: which objects were claimed and not released, and which handles
are open and on which object they were opened; the source keeps none of this. The
counts agree with it as long as handles are closed at the alternate setting they
were opened at, the last claim of an interface or a pool is not given back under an
open handle, and claims do not fail in a pool that was there before.
-/
namespace Peripheral.UsbPool
open Peripheral.Usb List
open Function (update)

/-- The session with what its caller holds in each pool: claimed objects, objects that were selected, and open handles
    with the object they were opened on. -/
structure System where
  host : Host
  claims : Nat → List Nat
  selected : Nat → List Nat
  handles : Nat → List (InterfaceHandle × Nat)

inductive Call
  | claim (busNum usbAddr n : UInt8) (opens : Bool) (config : Option RawConfig)
  | release (interfaceObj : ObjRef)
  | openObj (interfaceObj : ObjRef) (starts : Bool)
  | close (handle : InterfaceHandle) (opened : ObjRef) (stops : Bool)
  | select (handle : InterfaceHandle) (opened : ObjRef) (settingIndex : UInt8)
  | elsewhere

namespace System

def start (idNum : Nat) : System := ⟨Host.start idNum, fun _ => [], fun _ => [], fun _ => []⟩

def addClaim (s : System) (o : ObjRef) : System :=
  { s with claims := update s.claims o.pool (o.index :: s.claims o.pool) }

/-- An object that was claimed is given back as a claim, another one as a selected object. -/
def giveBack (s : System) (o : ObjRef) : System :=
  if o.index ∈ s.claims o.pool then { s with claims := update s.claims o.pool ((s.claims o.pool).erase o.index) }
  else { s with selected := update s.selected o.pool ((s.selected o.pool).erase o.index) }

def addHandle (s : System) (handle : InterfaceHandle) (o : ObjRef) : System :=
  { s with handles := update s.handles o.pool ((handle, o.index) :: s.handles o.pool) }

def dropHandle (s : System) (handle : InterfaceHandle) (o : ObjRef) : System :=
  { s with handles := update s.handles o.pool ((s.handles o.pool).erase (handle, o.index)) }

def addSelected (s : System) (o : ObjRef) : System :=
  { s with selected := update s.selected o.pool (o.index :: s.selected o.pool) }

/-- The session and the caller's side after a call; nothing when freed memory is used. -/
def call (s : System) : Call → Option System
  | .claim busNum usbAddr n opens config => do
    let (returned, host) ← usbClaimInterface s.host busNum usbAddr n ⟨opens, config, true⟩
    match returned with
    | none => return { s with host := host }
    | some o => return { s with host := host }.addClaim o
  | .release o => do
    let (released, host) ← usbReleaseInterface s.host o .success
    if released then return { s with host := host }.giveBack o else return { s with host := host }
  | .openObj o starts => do
    let (returned, host) ← usbOpenInterface s.host o starts
    match returned with
    | none => return { s with host := host }
    | some handle => return { s with host := host }.addHandle handle o
  | .close handle o stops => do
    let (closed, host) ← usbCloseInterface s.host handle stops
    if closed then return { s with host := host }.dropHandle handle o else return { s with host := host }
  | .select handle _ settingIndex => do
    let (returned, host) ← usbSelectInterfaceSetting s.host handle settingIndex true
    match returned with
    | none => return { s with host := host }
    | some o => return { s with host := host }.addSelected o
  | .elsewhere => some { s with host := { s.host with idNum := s.host.nextId } }

def run (s : System) (calls : List Call) : Option System := calls.foldlM call s

/-- The call is made with something the library returned and that was not released or closed. -/
def Legal (s : System) : Call → Prop
  | .release o | .openObj o _ => o.index ∈ s.claims o.pool ∨ o.index ∈ s.selected o.pool
  | .close handle o _ | .select handle o _ => (handle, o.index) ∈ s.handles o.pool
  | .claim .. | .elsewhere => True

def LegalRun : System → List Call → Prop
  | _, [] => True
  | s, c :: calls => s.Legal c ∧ ∀ s', s.call c = some s' → s'.LegalRun calls

end System

def InterfacePool.number (pool : InterfacePool) (i : Nat) :
    Option UInt8 := pool.interfaceList[i]?.map SdkInterface.interfaceIndex

structure Agrees (pool : InterfacePool) (device : Device) (claims : List Nat) (handles : List (InterfaceHandle × Nat)) : Prop where
  refCount : pool.refCount = claims.length
  ioRefCount : pool.ioRefCount = handles.length
  objects : ∀ obj ∈ pool.interfaceList, 0 ≤ obj.refCount
  kernel : ∀ n ≠ usbCtrlInterfaceId, device.claimedInterfaces.getLsbD n.toNat = true ↔ ∃ i ∈ claims, pool.number i = some n

/-- The pools of the session are those with something outstanding, and their counts agree with it. -/
structure Consistent (s : System) : Prop where
  pools : ∀ p ∈ s.host.ifacePoolList, ∃ pool device, s.host.pools p = some pool ∧ s.host.devices pool.device = some device ∧
    Agrees pool device (s.claims p) (s.handles p)
  listed : ∀ p, p ∈ s.host.ifacePoolList ↔ s.claims p ≠ [] ∨ s.handles p ≠ []

namespace System

def claimsOf (s : System) (p : Nat) (pool : InterfacePool) (n : UInt8) : Nat :=
  (s.claims p).countP fun i => pool.number i = some n

def handlesOn (s : System) (o : ObjRef) : Nat := (s.handles o.pool).countP fun e => e.2 = o.index

def current (pool : InterfacePool) (n : UInt8) : Option Nat :=
  pool.interfaceList.findIdx? ((InterfaceQuery.interfaceIndex n).finds ·)

def Careful (s : System) : Call → Prop
  | .claim busNum usbAddr n opens config =>
    match findPool s.host (.normal busNum usbAddr) with
    -- The interface is there, and is not open and unclaimed at its current setting.
    | some (p, pool) => ∃ i, current pool n = some i ∧
        (n = usbCtrlInterfaceId ∨ 0 < s.claimsOf p pool n ∨ s.handlesOn ⟨p, i⟩ = 0)
    | none => opens = false ∨ (config.isSome ∧ s.host.Unused)
  | .release o =>
    -- The object was claimed; no handle is open when it is the last claim of the pool.
    o.index ∈ s.claims o.pool ∧ ((s.claims o.pool).length = 1 → s.handles o.pool = []) ∧
    -- Nothing else uses the object exactly when it is the last claim of its interface.
    ∀ pool n, s.host.pools o.pool = some pool → pool.number o.index = some n → n ≠ usbCtrlInterfaceId →
      (s.claimsOf o.pool pool n = 1 ↔ (s.claims o.pool).count o.index + s.handlesOn o = 1)
  | .openObj o _ => s.claims o.pool ≠ []
  -- The interface is at the setting that the handle was opened at.
  | .close handle o _ => ∀ pool, s.host.pools o.pool = some pool → current pool handle.interfaceIndex = some o.index
  | .select .. | .elsewhere => True

def CarefulRun : System → List Call → Prop
  | _, [] => True
  | s, c :: calls => s.Legal c ∧ s.Careful c ∧ ∀ s', s.call c = some s' → s'.CarefulRun calls

end System

/-- The references an object has: the claims on it, except on the control interface, and the handles opened on it. -/
def standing (claims : List Nat) (handles : List (InterfaceHandle × Nat)) (i : Nat) (n : UInt8) : Nat :=
  (if n = usbCtrlInterfaceId then 0 else claims.count i) + handles.countP fun e => e.2 = i

/-- Each object of a pool has the references that stand on it, and the device belongs to the pool. -/
structure Balanced (p : Nat) (pool : InterfacePool) (device : Device) (claims selected : List Nat)
    (handles : List (InterfaceHandle × Nat)) : Prop where
  owner : device.privateObject = some p
  once : device.refcnt = 1
  refCount : pool.refCount = claims.length
  ioRefCount : pool.ioRefCount = handles.length
  kernel : ∀ n ≠ usbCtrlInterfaceId, device.claimedInterfaces.getLsbD n.toNat = true ↔ ∃ i ∈ claims, pool.number i = some n
  objects : ∀ (i : Nat) (obj : SdkInterface), pool.interfaceList[i]? = some obj → obj.status ≠ .remove ∧
    obj.parentObjectId = pool.objectId ∧ obj.refCount = standing claims handles i obj.interfaceIndex
  held : ∀ i, i ∈ claims ∨ i ∈ selected → ∃ obj, pool.interfaceList[i]? = some obj ∧ obj.session = true
  opened : ∀ e ∈ handles, e.1.devHandle = pool.device ∧ pool.number e.2 = some e.1.interfaceIndex

section
variable {p : Nat} {pool : InterfacePool} {device device' : Device} {claims claims' selected selected' : List Nat}
  {handles handles' : List (InterfaceHandle × Nat)} {i : Nat} {obj obj' : SdkInterface}

theorem Balanced.agrees (balanced : Balanced p pool device claims selected handles) : Agrees pool device claims handles := by
  refine ⟨balanced.refCount, balanced.ioRefCount, ?_, balanced.kernel⟩
  intro obj member
  obtain ⟨i, is⟩ := mem_iff_getElem?.mp member
  rw [(balanced.objects i obj is).2.2]
  exact Int.natCast_nonneg _

theorem InterfacePool.number_setObj (place : pool.interfaceList[i]? = some obj)
    (same : obj'.interfaceIndex = obj.interfaceIndex) (j : Nat) :
    (pool.interfaceList.set i obj')[j]?.map SdkInterface.interfaceIndex = pool.number j := by
  by_cases here : j = i
  · subst here
    rw [List.getElem?_set_self (List.getElem?_eq_some_iff.mp place).1, number, place]
    simp [same]
  · rw [getElem?_set_ne (Ne.symm here), number]

theorem Balanced.update (balanced : Balanced p pool device claims selected handles) (place : pool.interfaceList[i]? = some obj)
    (same : obj'.interfaceIndex = obj.interfaceIndex ∧ obj'.status = obj.status ∧ obj'.parentObjectId = obj.parentObjectId)
    (session : obj.session = true → obj'.session = true)
    (owner : device'.privateObject = device.privateObject) (once : device'.refcnt = device.refcnt)
    (others : ∀ j ≠ i, ∀ n, standing claims' handles' j n = standing claims handles j n)
    (counted : obj'.refCount = standing claims' handles' i obj.interfaceIndex)
    (held : ∀ j, j ∈ claims' ∨ j ∈ selected' → (j ∈ claims ∨ j ∈ selected) ∨ (j = i ∧ obj'.session = true))
    (opened : ∀ e ∈ handles', e ∈ handles ∨ (e.1.devHandle = pool.device ∧ e.2 = i ∧ e.1.interfaceIndex = obj.interfaceIndex))
    (kernel : ∀ n ≠ usbCtrlInterfaceId,
      device'.claimedInterfaces.getLsbD n.toNat = true ↔ ∃ j ∈ claims', pool.number j = some n)
    {pool' : InterfacePool} (keys : pool'.objectId = pool.objectId ∧ pool'.device = pool.device)
    (interfaceList : pool'.interfaceList = pool.interfaceList.set i obj') (refCount : pool'.refCount = claims'.length)
    (ioRefCount : pool'.ioRefCount = handles'.length) : Balanced p pool' device' claims' selected' handles' := by
  have inside := (List.getElem?_eq_some_iff.mp place).1
  have numbers : ∀ j, pool'.number j = pool.number j := by
    intro j
    rw [InterfacePool.number, interfaceList]
    exact InterfacePool.number_setObj place same.1 j
  refine ⟨owner.trans balanced.owner, once.trans balanced.once, refCount, ioRefCount, ?_, ?_, ?_, ?_⟩
  · intro n ordinary
    rw [kernel n ordinary]
    simp only [numbers]
  · intro j x there
    rw [interfaceList] at there
    rw [keys.1]
    by_cases here : j = i
    · subst here
      rw [getElem?_set_self inside] at there
      cases there
      obtain ⟨status, parent, _⟩ := balanced.objects j obj place
      rw [same.1, same.2.1, same.2.2]
      exact ⟨status, parent, counted⟩
    · rw [getElem?_set_ne (Ne.symm here)] at there
      obtain ⟨status, parent, count⟩ := balanced.objects j x there
      exact ⟨status, parent, by rw [count, others j here]⟩
  · intro j mine
    rw [interfaceList]
    by_cases here : j = i
    · subst here
      refine ⟨obj', by rw [getElem?_set_self inside], ?_⟩
      rcases held j mine with before | now
      · obtain ⟨x, there, set⟩ := balanced.held j before
        rw [place] at there
        cases there
        exact session set
      · exact now.2
    · rw [getElem?_set_ne (Ne.symm here)]
      rcases held j mine with before | now
      · exact balanced.held j before
      · exact absurd now.1 here
  · intro e member
    rw [keys.2, numbers]
    rcases opened e member with before | ⟨device, here, number⟩
    · exact balanced.opened e before
    · refine ⟨device, ?_⟩
      rw [here, InterfacePool.number, place, number]
      rfl

theorem getLsbD_interfaceBit (n m : UInt8) :
    (interfaceBit n).getLsbD m.toNat = (decide (n.toNat < usbMaxInterfaces) && decide (m = n)) := by
  unfold interfaceBit usbMaxInterfaces
  rw [BitVec.getLsbD_shiftLeft]
  by_cases same : m = n
  · subst same
    simp
  · have other : m.toNat ≠ n.toNat := fun equal => same (UInt8.toNat_inj.mp equal)
    simp [same]
    omega

theorem and_interfaceBit_eq_zero (claimed : BitVec 32) {n : UInt8} (small : n.toNat < usbMaxInterfaces) :
    claimed &&& interfaceBit n = 0 ↔ claimed.getLsbD n.toNat = false := by
  have bit := getLsbD_interfaceBit n n
  simp only [small, decide_true, Bool.and_self] at bit
  constructor
  · intro zero
    have at_n := congrArg (BitVec.getLsbD · n.toNat) zero
    simpa [bit] using at_n
  · intro clear
    apply BitVec.eq_of_getLsbD_eq
    intro j inside
    unfold usbMaxInterfaces at small
    by_cases here : j = n.toNat
    · subst here
      simp [clear]
    · have other := getLsbD_interfaceBit n (UInt8.ofNat j)
      have whole : (UInt8.ofNat j).toNat = j := by simp; omega
      rw [whole] at other
      have differ : UInt8.ofNat j ≠ n := by
        intro equal
        rw [← equal, whole] at here
        exact here rfl
      simp [other, differ]

theorem rawClaimInterface_accepted {n : UInt8} (small : n.toNat < usbMaxInterfaces) (device : Device) :
    ∃ device', rawClaimInterface device n true = some device' ∧ device'.privateObject = device.privateObject ∧
      device'.refcnt = device.refcnt ∧ device'.busNum = device.busNum ∧ device'.devAddr = device.devAddr ∧
      ∀ m : UInt8, device'.claimedInterfaces.getLsbD m.toNat = (device.claimedInterfaces.getLsbD m.toNat || decide (m = n)) := by
  unfold rawClaimInterface
  rw [if_neg (by omega)]
  by_cases already : device.claimedInterfaces &&& interfaceBit n ≠ 0
  · refine ⟨device, by rw [if_pos already], rfl, rfl, rfl, rfl, ?_⟩
    intro m
    rw [ne_eq, and_interfaceBit_eq_zero _ small, Bool.not_eq_false] at already
    by_cases same : m = n
    · subst same
      simp [already]
    · simp [same]
  · refine ⟨{ device with claimedInterfaces := device.claimedInterfaces ||| interfaceBit n }, ?_, rfl, rfl, rfl, rfl, ?_⟩
    · rw [if_neg already]
      rfl
    · intro m
      simp only [BitVec.getLsbD_or, getLsbD_interfaceBit, small, decide_true, Bool.true_and]

theorem rawReleaseInterface_accepted {n : UInt8} {device : Device} (claimed : device.claimedInterfaces.getLsbD n.toNat = true) :
    ∃ device', rawReleaseInterface device n .success = some device' ∧ device'.privateObject = device.privateObject ∧
      device'.refcnt = device.refcnt ∧ device'.busNum = device.busNum ∧ device'.devAddr = device.devAddr ∧
      ∀ m : UInt8, device'.claimedInterfaces.getLsbD m.toNat = (device.claimedInterfaces.getLsbD m.toNat && !decide (m = n)) := by
  have small : n.toNat < usbMaxInterfaces := by
    by_contra large
    rw [BitVec.getLsbD_of_ge _ _ (by unfold usbMaxInterfaces at large; omega)] at claimed
    cases claimed
  have set : ¬ device.claimedInterfaces &&& interfaceBit n = 0 := by
    rw [and_interfaceBit_eq_zero _ small, claimed]
    simp
  refine ⟨{ device with claimedInterfaces := device.claimedInterfaces &&& ~~~ interfaceBit n }, ?_, rfl, rfl, rfl, rfl, ?_⟩
  · unfold rawReleaseInterface
    rw [if_neg (by omega), if_neg set]
  · intro m
    simp only [BitVec.getLsbD_and, BitVec.getLsbD_not, getLsbD_interfaceBit, small, decide_true, Bool.true_and]
    by_cases inside : m.toNat < 32
    · simp [inside]
    · rw [BitVec.getLsbD_of_ge _ _ (by omega)]
      rfl

theorem standing_claim (j : Nat) (n : UInt8) : standing (i :: claims) handles j n =
    standing claims handles j n + if j = i ∧ n ≠ usbCtrlInterfaceId then 1 else 0 := by
  unfold standing
  by_cases control : n = usbCtrlInterfaceId
  · simp [control]
  · by_cases here : j = i
    · subst here
      simp [control]
      omega
    · simp [control, here, Ne.symm here]

theorem standing_release (mine : i ∈ claims) (j : Nat) (n : UInt8) : standing claims handles j n =
    standing (claims.erase i) handles j n + if j = i ∧ n ≠ usbCtrlInterfaceId then 1 else 0 := by
  rw [← standing_claim]
  unfold standing
  rw [(perm_cons_erase mine).count_eq]

theorem standing_open (handle : InterfaceHandle) (j : Nat) (n : UInt8) : standing claims ((handle, i) :: handles) j n =
    standing claims handles j n + if j = i then 1 else 0 := by
  unfold standing
  by_cases here : j = i
  · subst here
    simp
    omega
  · simp [here, Ne.symm here]

theorem standing_close {handle : InterfaceHandle} (mine : (handle, i) ∈ handles) (j : Nat) (n : UInt8) :
    standing claims handles j n = standing claims (handles.erase (handle, i)) j n + if j = i then 1 else 0 := by
  rw [← standing_open handle]
  unfold standing
  rw [(perm_cons_erase mine).countP_eq]

theorem InterfacePool.number_of_place (place : pool.interfaceList[i]? = some obj) :
    pool.number i = some obj.interfaceIndex := by
  rw [number, place]
  rfl

section
variable (balanced : Balanced p pool device claims selected handles)
include balanced

theorem Balanced.claim
    (place : pool.interfaceList[i]? = some obj)
    (same : obj'.interfaceIndex = obj.interfaceIndex ∧ obj'.status = obj.status ∧ obj'.parentObjectId = obj.parentObjectId)
    (session : obj'.session = true)
    (owner : device'.privateObject = device.privateObject) (once : device'.refcnt = device.refcnt)
    (counted : obj'.refCount = obj.refCount + if obj.interfaceIndex ≠ usbCtrlInterfaceId then 1 else 0)
    (bits : ∀ n ≠ usbCtrlInterfaceId, device'.claimedInterfaces.getLsbD n.toNat = true ↔
      device.claimedInterfaces.getLsbD n.toNat = true ∨ n = obj.interfaceIndex) :
    Balanced p ({ pool with refCount := pool.refCount + 1 }.setObj i obj') device' (i :: claims) selected handles := by
  have number := pool.number_of_place place
  refine balanced.update place same (fun _ => session) owner once ?_ ?_ ?_ ?_ ?_ ⟨rfl, rfl⟩ rfl ?_ balanced.ioRefCount
  · intro j other n
    rw [standing_claim, if_neg (fun both => other both.1), Nat.add_zero]
  · rw [counted, (balanced.objects i obj place).2.2, standing_claim]
    by_cases control : obj.interfaceIndex = usbCtrlInterfaceId
    · simp [control]
    · simp [control]
  · intro j mine
    rcases mine with claimed | chosen
    · rcases mem_cons.mp claimed with rfl | before
      · exact .inr ⟨rfl, session⟩
      · exact .inl (.inl before)
    · exact .inl (.inr chosen)
  · exact fun e member => .inl member
  · intro n ordinary
    rw [bits n ordinary, balanced.kernel n ordinary]
    simp only [exists_mem_cons_iff, number, Option.some.injEq]
    rw [or_comm, eq_comm]
  · simp [balanced.refCount]

theorem Balanced.release (mine : i ∈ claims)
    (place : pool.interfaceList[i]? = some obj)
    (same : obj'.interfaceIndex = obj.interfaceIndex ∧ obj'.status = obj.status ∧ obj'.parentObjectId = obj.parentObjectId)
    (session : obj'.session = obj.session)
    (owner : device'.privateObject = device.privateObject) (once : device'.refcnt = device.refcnt)
    (counted : obj'.refCount = obj.refCount - if obj.interfaceIndex ≠ usbCtrlInterfaceId then 1 else 0)
    (bits : ∀ n ≠ usbCtrlInterfaceId, device'.claimedInterfaces.getLsbD n.toNat = true ↔
      device.claimedInterfaces.getLsbD n.toNat = true ∧
        (n = obj.interfaceIndex → 1 < claims.countP fun j => pool.number j = some n)) :
    Balanced p { pool.setObj i obj' with refCount := pool.refCount - 1 } device' (claims.erase i) selected handles := by
  have number := pool.number_of_place place
  have length := length_erase_of_mem mine
  have positive := length_pos_of_mem mine
  refine balanced.update place same (fun set => session.trans set) owner once ?_ ?_ ?_ ?_ ?_ ⟨rfl, rfl⟩ rfl ?_
    balanced.ioRefCount
  · intro j other n
    rw [standing_release mine j n, if_neg (fun both => other both.1), Nat.add_zero]
  · rw [counted, (balanced.objects i obj place).2.2, standing_release mine]
    by_cases control : obj.interfaceIndex = usbCtrlInterfaceId
    · simp [control]
    · simp [control]
  · intro j held
    rcases held with claimed | chosen
    · exact .inl (.inl (mem_of_mem_erase claimed))
    · exact .inl (.inr chosen)
  · exact fun e member => .inl member
  · intro n ordinary
    have total := (perm_cons_erase mine).countP_eq (fun j => decide (pool.number j = some n))
    have left : (∃ j ∈ claims.erase i, pool.number j = some n) ↔
        0 < (claims.erase i).countP fun j => pool.number j = some n := by simp
    have all : (∃ j ∈ claims, pool.number j = some n) ↔ 0 < claims.countP fun j => pool.number j = some n := by simp
    rw [bits n ordinary, balanced.kernel n ordinary, left, all]
    rw [countP_cons] at total
    by_cases here : n = obj.interfaceIndex
    · subst here
      simp only [number, decide_true, if_true] at total
      simp only [forall_const]
      omega
    · have other : ¬ pool.number i = some n := by
        rw [number]
        simp [Ne.symm here]
      simp only [other, decide_false, Bool.false_eq_true, if_false, Nat.add_zero] at total
      simp only [here, false_implies, and_true]
      omega
  · simp only [balanced.refCount]
    omega

theorem Balanced.opens
    (place : pool.interfaceList[i]? = some obj) :
    Balanced p { pool.setObj i { obj with refCount := obj.refCount + 1 } with ioRefCount := pool.ioRefCount + 1 } device claims
      selected ((⟨pool.device, obj.interfaceIndex⟩, i) :: handles) := by
  have same : { obj with refCount := obj.refCount + 1 }.interfaceIndex = obj.interfaceIndex ∧
      { obj with refCount := obj.refCount + 1 }.status = obj.status ∧
      { obj with refCount := obj.refCount + 1 }.parentObjectId = obj.parentObjectId := ⟨rfl, rfl, rfl⟩
  refine balanced.update place same id rfl rfl ?_ ?_ ?_ ?_ balanced.kernel ⟨rfl, rfl⟩ rfl balanced.refCount ?_
  · intro j other n
    rw [standing_open, if_neg other, Nat.add_zero]
  · rw [standing_open, if_pos rfl]
    simp [(balanced.objects i obj place).2.2]
  · exact fun j held => .inl held
  · intro e member
    rcases mem_cons.mp member with rfl | before
    · exact .inr ⟨rfl, rfl, rfl⟩
    · exact .inl before
  · simp [balanced.ioRefCount]

theorem Balanced.closes {handle : InterfaceHandle}
    (mine : (handle, i) ∈ handles) (place : pool.interfaceList[i]? = some obj) :
    Balanced p { pool.setObj i { obj with refCount := obj.refCount - 1 } with ioRefCount := pool.ioRefCount - 1 } device claims
      selected (handles.erase (handle, i)) := by
  have length := length_erase_of_mem mine
  have positive := length_pos_of_mem mine
  have same : { obj with refCount := obj.refCount - 1 }.interfaceIndex = obj.interfaceIndex ∧
      { obj with refCount := obj.refCount - 1 }.status = obj.status ∧
      { obj with refCount := obj.refCount - 1 }.parentObjectId = obj.parentObjectId := ⟨rfl, rfl, rfl⟩
  refine balanced.update place same id rfl rfl ?_ ?_ ?_ ?_ balanced.kernel ⟨rfl, rfl⟩ rfl balanced.refCount ?_
  · intro j other n
    rw [standing_close mine j n, if_neg other, Nat.add_zero]
  · simp only [(balanced.objects i obj place).2.2, standing_close mine]
    simp
  · exact fun j held => .inl held
  · exact fun e member => .inl (mem_of_mem_erase member)
  · simp only [balanced.ioRefCount]
    omega

theorem Balanced.mapSetting (n settingIndex : UInt8) :
    Balanced p { pool with interfaceList := pool.interfaceList.map fun obj =>
      if obj.interfaceIndex = n then { obj with curAltSetting := settingIndex } else obj } device claims selected handles := by
  have back : ∀ (j : Nat) (x : SdkInterface), (pool.interfaceList.map fun obj =>
      if obj.interfaceIndex = n then { obj with curAltSetting := settingIndex } else obj)[j]? = some x →
      ∃ obj, pool.interfaceList[j]? = some obj ∧ x.interfaceIndex = obj.interfaceIndex ∧ x.status = obj.status ∧
        x.parentObjectId = obj.parentObjectId ∧ x.refCount = obj.refCount ∧ x.session = obj.session := by
    intro j x there
    rw [getElem?_map] at there
    obtain ⟨obj, before, is⟩ := Option.map_eq_some_iff.mp there
    refine ⟨obj, before, ?_⟩
    subst is
    split <;> exact ⟨rfl, rfl, rfl, rfl, rfl⟩
  have numbers : ∀ j, (pool.interfaceList.map fun obj =>
      if obj.interfaceIndex = n then { obj with curAltSetting := settingIndex } else obj)[j]?.map SdkInterface.interfaceIndex =
      pool.number j := by
    intro j
    rw [getElem?_map, Option.map_map, InterfacePool.number]
    congr 1
    funext obj
    simp only [Function.comp_apply]
    split <;> rfl
  refine ⟨balanced.owner, balanced.once, balanced.refCount, balanced.ioRefCount, ?_, ?_, ?_, ?_⟩
  · intro m ordinary
    rw [balanced.kernel m ordinary]
    unfold InterfacePool.number at numbers ⊢
    simp only [numbers]
  · intro j x there
    obtain ⟨obj, before, index, status, parent, count, _⟩ := back j x there
    rw [index, status, parent, count]
    exact balanced.objects j obj before
  · intro j held
    obtain ⟨obj, before, set⟩ := balanced.held j held
    refine ⟨_, by rw [getElem?_map, before]; rfl, ?_⟩
    simp only
    split <;> exact set
  · intro e member
    obtain ⟨device, number⟩ := balanced.opened e member
    exact ⟨device, (numbers e.2).trans number⟩

end

end

end Peripheral.UsbPool
