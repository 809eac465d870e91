import Mathlib.Algebra.GroupWithZero.Nat
import Mathlib.Data.List.Nodup
import Mathlib.Data.List.Pairwise
import Peripheral.Faults
import Peripheral.HdfSBuf
import Peripheral.Transitions

/-!
The devices of the USB gadget, from `usbfn_dev_mgr.c`: how they are created and removed.
A device is in a list by its address, it has a number that no other device of the list
has, there is a gadget of this number at the adapter, and a thread takes its events. A
creation or removal that fails on its way should leave all of these as they were.
-/
namespace Peripheral.UsbFn
open Faults Transitions Hdf Function List

def MAX_NAMELEN := 64
def MAX_LIST := 32
def SLEEP_TIMES := 20
def FUNCTION_GENERIC := "f_generic"
def USB_DDK_DT_INTERFACE : UInt8 := 4

structure UsbDescriptorHeader where
  bDescriptorType : UInt8
  bNumEndpoints : UInt8

structure UsbFnFunction where
  enable : Bool
  funcName : String
  fsDescriptors : List UsbDescriptorHeader

structure UsbFnConfiguration where
  functions : List UsbFnFunction

structure UsbFnDeviceDesc where
  configs : List UsbFnConfiguration

/-- The thread of a device: it is told to stop, it ends, and it is destroyed. -/
inductive OsalThread
  | running
  | leaving
  | ended
  | destroyed
  deriving DecidableEq

structure UsbFnDeviceMgr where
  objectId : Nat
  name : String
  udcName : String
  numInterfaces : UInt8
  numFunc : UInt8
  running : Bool
  thread : OsalThread
  deriving DecidableEq

structure Registry where
  g_devEntry : List Nat
  mem : Nat → Option UsbFnDeviceMgr
  gadgets : String → Bool
  made : Nat

inductive Fault
  | freed
  | funcMgr

inductive Result
  | created (fnDevMgr : Option Nat)
  | removed (ret : Int32)
  deriving DecidableEq

abbrev Handle := Prog Fault Result Registry

structure Answer where
  ret : Int32
  there : Bool

/-- What is decided elsewhere during a creation: whether there is memory, the adapter, and the thread. -/
structure Creation where
  fnDevMgr : Bool
  createDevice : Answer
  interfaceMgr : Bool
  funcMgr : Bool
  threadCreate : Int32
  threadStart : Int32

/-- What is decided elsewhere during a removal: in which round the thread has ended, its destruction, and the adapter. -/
structure Removal where
  exits : Nat
  threadDestroy : Int32
  delDevice : Answer

section

variable {α : Type}

def device (fnDevMgr : Nat) : Handle UsbFnDeviceMgr := do
  match (← get).mem fnDevMgr with
  | some found => pure found
  | none => goWrong .freed

def isUse (i : Nat) : List Nat → Handle Bool
  | [] => pure false
  | obj :: rest => do
    if (← device obj).objectId = i then pure true else isUse i rest

/-- The first number from `i` on that is free, out of so many. -/
def findEmptyFrom (entries : List Nat) : (left : Nat) → (i : Nat) → Handle (Option Nat)
  | 0, _ => pure none
  | left + 1, i => do
    if ← isUse i entries then findEmptyFrom entries left (i + 1) else pure (some i)

def findEmptyId : Handle (Option Nat) := do
  let entries := (← get).g_devEntry
  if entries = [] then pure (some 1) else findEmptyFrom entries (MAX_LIST - 1) 1

def gadget (objectId : Nat) : String := "g" ++ toString objectId

def Registry.adapt (s : Registry) (name : String) (there : Bool) : Registry :=
  { s with gadgets := update s.gadgets name there }

def creatDev (udcName : String) (o : Creation) : Handle Nat := do
  match ← findEmptyId with
  | none => fail (.created none)
  | some devCnt =>
    if MAX_NAMELEN ≤ udcName.utf8ByteSize then fail (.created none)
    modify (·.adapt (gadget devCnt) o.createDevice.there)
    if o.createDevice.ret ≠ 0 then fail (.created none)
    pure devCnt

namespace UsbFnFunction

def generic (f : UsbFnFunction) : Bool := FUNCTION_GENERIC.toList.isPrefixOf f.funcName.toList && f.enable

def getInterfaceNum (f : UsbFnFunction) : Nat :=
  (f.fsDescriptors.filter fun intf => intf.bDescriptorType = USB_DDK_DT_INTERFACE ∧ 0 < intf.bNumEndpoints).length

end UsbFnFunction

namespace UsbFnDeviceDesc

variable (des : UsbFnDeviceDesc)

def functions : List UsbFnFunction := (des.configs.flatMap (·.functions)).filter (·.generic)

/-- Both numbers are kept in a byte. -/
def numFunc : UInt8 := .ofNat des.functions.length
def numInterfaces : UInt8 := .ofNat (des.functions.map (·.getInterfaceNum)).sum

end UsbFnDeviceDesc

/-- Memory of no size is refused. -/
def allocInterfaceAndFuncMgr (des : UsbFnDeviceDesc) (o : Creation) : Bool :=
  des.numInterfaces ≠ 0 ∧ o.interfaceMgr ∧ des.numFunc ≠ 0 ∧ o.funcMgr

/-- A name that is too long ends it. -/
def createInterface (numFunc : UInt8) : (fnCnt : Nat) → List UsbFnFunction → Handle Unit
  | _, [] => pure ()
  | fnCnt, f :: rest =>
    if numFunc.toNat ≤ fnCnt then goWrong .funcMgr
    else if MAX_NAMELEN ≤ f.funcName.utf8ByteSize then pure ()
    else createInterface numFunc (fnCnt + 1) rest

def startThreadIo (o : Creation) : Bool := o.threadCreate = HDF_SUCCESS ∧ o.threadStart = HDF_SUCCESS

def Registry.insertTail (s : Registry) (device : Option UsbFnDeviceMgr) : Registry :=
  { s with g_devEntry := s.g_devEntry ++ [s.made], mem := update s.mem s.made device, made := s.made + 1 }

def usbFnMgrDeviceCreate (udcName : Option String) (des : Option UsbFnDeviceDesc) (o : Creation) : Handle Result := do
  match udcName, des with
  | some udcName, some des =>
    if !o.fnDevMgr then fail (.created none)
    let devCnt ← creatDev udcName o
    if !allocInterfaceAndFuncMgr des o then fail (.created none)
    createInterface des.numFunc 0 des.functions
    let fnDevMgr := (← get).made
    -- The entry stays in the list where the thread is not started, and what it is part of is freed.
    if !startThreadIo o then
      modify (·.insertTail none)
      fail (.created none)
    modify (·.insertTail (some ⟨devCnt, gadget devCnt, udcName, des.numInterfaces, des.numFunc, true, .running⟩))
    pure (.created (some fnDevMgr))
  | _, _ => fail (.created none)

/-- The thread sets `running` again when it ends, which is waited for in so many rounds and one. -/
def Removal.inTime (o : Removal) : Bool := o.exits ≤ SLEEP_TIMES + 1

def Registry.put (s : Registry) (fnDevMgr : Nat) (device : Option UsbFnDeviceMgr) : Registry :=
  { s with mem := update s.mem fnDevMgr device }

def usbFnMgrDeviceRemove (fnDevice : Option Nat) (o : Removal) : Handle Result := do
  match fnDevice with
  | none => fail (.removed HDF_ERR_INVALID_PARAM)
  | some fnDevMgr =>
    let found ← device fnDevMgr
    let stopped := { found with running := o.inTime, thread := if o.inTime then .ended else .leaving }
    modify (·.put fnDevMgr (some stopped))
    if o.threadDestroy ≠ HDF_SUCCESS then fail (.removed o.threadDestroy)
    modify (·.put fnDevMgr (some { stopped with thread := .destroyed }))
    modify (·.adapt found.name o.delDevice.there)
    if o.delDevice.ret ≠ 0 then fail (.removed o.delDevice.ret)
    modify fun s => { s.put fnDevMgr none with g_devEntry := s.g_devEntry.erase fnDevMgr }
    pure (.removed HDF_SUCCESS)

end

/-- Two devices have numbers of their own. -/
def Registry.Differ (t : Registry) (a b : Nat) : Prop :=
  ∀ device other, t.mem a = some device → t.mem b = some other → device.objectId ≠ other.objectId

instance {t : Registry} : Std.Symm t.Differ := ⟨fun _ _ differ device other there there' => (differ other device there' there).symm⟩

inductive Call
  | create (udcName : Option String) (des : Option UsbFnDeviceDesc) (o : Creation)
  | remove (fnDevice : Option Nat) (o : Removal)

def perform : Call → Handle Result
  | .create udcName des o => usbFnMgrDeviceCreate udcName des o
  | .remove fnDevice o => usbFnMgrDeviceRemove fnDevice o

structure System where
  registry : Registry
  owned : List Nat

def Call.owned (owned : List Nat) : Call → Result → List Nat
  | _, .created (some fnDevMgr) => owned ++ [fnDevMgr]
  | .remove (some fnDevMgr) _, .removed ret => if ret = HDF_SUCCESS then owned.erase fnDevMgr else owned
  | _, _ => owned

def Result.failed : Result → Prop
  | .created fnDevMgr => fnDevMgr = none
  | .removed ret => ret ≠ HDF_SUCCESS

namespace System

variable (s : System)

def start : System := ⟨⟨[], fun _ => none, fun _ => false, 0⟩, []⟩

def next (call : Call) (result : Result) (registry : Registry) : System := ⟨registry, call.owned s.owned result⟩

/-- Nothing is said of what follows where the code has gone wrong. -/
def after (call : Call) : System :=
  match (perform call).run s.registry with
  | .ok result t => s.next call result t
  | .error (.returned result) t => s.next call result t
  | .error (.wrong _) _ => s

/-- The list is that of the devices which are owned, their numbers are their own, and the gadgets are theirs. -/
structure Listed : Prop where
  owned : s.registry.g_devEntry = s.owned
  live : ∀ fnDevMgr ∈ s.owned, (s.registry.mem fnDevMgr).isSome
  range : ∀ fnDevMgr ∈ s.owned, ∀ device, s.registry.mem fnDevMgr = some device → 1 ≤ device.objectId ∧
    device.objectId < MAX_LIST
  distinct : s.owned.Pairwise s.registry.Differ
  gadgets : ∀ id, s.registry.gadgets (gadget id) ↔
    ∃ fnDevMgr ∈ s.owned, ∃ device, s.registry.mem fnDevMgr = some device ∧ device.objectId = id

end System

structure Registry.Unchanged (before later : Registry) : Prop where
  list : later.g_devEntry = before.g_devEntry
  devices : ∀ fnDevMgr ∈ before.g_devEntry, later.mem fnDevMgr = before.mem fnDevMgr
  gadgets : later.gadgets = before.gadgets

def writes : List UsbFnFunction → Nat
  | [] => 0
  | f :: rest => if MAX_NAMELEN ≤ f.funcName.utf8ByteSize then 1 else writes rest + 1

namespace System

variable (s : System)

def Settled (call : Call) (result : Result) (t : Registry) : Prop :=
  (s.next call result t).Listed ∧ (result.failed → s.registry.Unchanged t)

def Right (call : Call) : Prop := Needs (perform call) ⟨fun _ _ => False, s.Settled call, s.Settled call⟩ s.registry

def ids : List Nat := s.owned.filterMap fun fnDevMgr => (s.registry.mem fnDevMgr).map (·.objectId)

def Careful : Call → Prop
  | .create (some udcName) (some des) o =>
    o.fnDevMgr → (∃ id, 1 ≤ id ∧ id < MAX_LIST ∧ id ∉ s.ids) → udcName.utf8ByteSize < MAX_NAMELEN →
      if o.createDevice.ret = 0 ∧ allocInterfaceAndFuncMgr des o then
        o.createDevice.there ∧ writes des.functions ≤ des.numFunc.toNat ∧ startThreadIo o
      else ¬ o.createDevice.there
  | .remove (some fnDevMgr) o =>
    fnDevMgr ∈ s.owned ∧ o.threadDestroy = HDF_SUCCESS ∧ o.delDevice.ret = 0 ∧ ¬ o.delDevice.there
  | _ => True

structure Good : Prop extends s.Listed where
  running : ∀ fnDevMgr ∈ s.owned, ∃ device, s.registry.mem fnDevMgr = some device ∧ device.thread = .running ∧
    device.name = gadget device.objectId
  fresh : ∀ fnDevMgr ∈ s.owned, fnDevMgr < s.registry.made
  gone : ∀ fnDevMgr, fnDevMgr ∉ s.owned → s.registry.mem fnDevMgr = none

end System

section

variable {α : Type} {t : Registry} {fnDevMgr : Nat}

@[simp] theorem needs_device {ends : Ends Fault Result Registry UsbFnDeviceMgr} : Needs (device fnDevMgr) ends t ↔
    match t.mem fnDevMgr with
    | some found => ends.last found t
    | none => ends.wrong .freed t := by
  rw [device, needs_bind, needs_get, before_last]
  cases t.mem fnDevMgr <;> rfl

def Registry.idsOf (t : Registry) (entries : List Nat) : List Nat :=
  entries.filterMap fun fnDevMgr => (t.mem fnDevMgr).map (·.objectId)

theorem needs_isUse {i : Nat} {entries : List Nat} {ends : Ends Fault Result Registry Bool}
    (live : ∀ a ∈ entries, (t.mem a).isSome) : Needs (isUse i entries) ends t ↔ ends.last (decide (i ∈ t.idsOf entries)) t := by
  induction entries with
  | nil => simp [isUse, Registry.idsOf]
  | cons obj rest later =>
    obtain ⟨found, there⟩ := Option.isSome_iff_exists.mp (live obj (by simp))
    have later := later fun a within => live a (mem_cons_of_mem _ within)
    rw [isUse, needs_bind, needs_device, there]
    dsimp only [before_last]
    rw [needs_ite]
    by_cases same : found.objectId = i
    · simp [same, Registry.idsOf, there]
    · rw [if_neg same, later]
      simp [Registry.idsOf, there, Ne.symm same]

theorem needs_findEmptyFrom {entries : List Nat} {left i : Nat} {ends : Ends Fault Result Registry (Option Nat)}
    (live : ∀ a ∈ entries, (t.mem a).isSome) : Needs (findEmptyFrom entries left i) ends t ↔
      ends.last ((range' i left).find? (· ∉ t.idsOf entries)) t := by
  induction left generalizing i with
  | zero => rfl
  | succ left later =>
    rw [findEmptyFrom, needs_bind, needs_isUse live, before_last, range'_succ]
    by_cases used : i ∈ t.idsOf entries
    · simp only [used, decide_true, if_true]
      rw [later, find?_cons_of_neg (by simpa using used)]
    · simp only [used, decide_false, Bool.false_eq_true, if_false]
      rw [needs_pure, find?_cons_of_pos (by simpa using used)]

def emptyId (ids : List Nat) : Option Nat := (range' 1 (MAX_LIST - 1)).find? (· ∉ ids)

theorem needs_findEmptyId {ends : Ends Fault Result Registry (Option Nat)} (live : ∀ a ∈ t.g_devEntry, (t.mem a).isSome) :
    Needs findEmptyId ends t ↔ ends.last (emptyId (t.idsOf t.g_devEntry)) t := by
  rw [findEmptyId, needs_bind, needs_get, before_last]
  dsimp only
  split
  · next empty => rw [empty]; rfl
  · exact needs_findEmptyFrom live

theorem emptyId_some {ids : List Nat} {id : Nat} (found : emptyId ids = some id) : 1 ≤ id ∧ id < MAX_LIST ∧ id ∉ ids := by
  have free := find?_some found
  have within := mem_range'_1.mp (mem_of_find?_eq_some found)
  have last : MAX_LIST = 32 := rfl
  exact ⟨within.1, by omega, by simpa using free⟩

theorem emptyId_none {ids : List Nat} : emptyId ids = none ↔ ¬ ∃ id, 1 ≤ id ∧ id < MAX_LIST ∧ id ∉ ids := by
  have last : MAX_LIST = 32 := rfl
  rw [emptyId, find?_eq_none]
  constructor
  · rintro used ⟨id, low, high, free⟩
    exact used id (mem_range'_1.mpr ⟨low, by omega⟩) (by simpa using free)
  · intro used id within
    have within := mem_range'_1.mp within
    exact fun free => used ⟨id, within.1, by omega, by simpa using free⟩

theorem needs_createInterface {numFunc : UInt8} {fnCnt : Nat} {functions : List UsbFnFunction}
    {ends : Ends Fault Result Registry Unit}
    (within : fnCnt ≤ numFunc.toNat) : Needs (createInterface numFunc fnCnt functions) ends t ↔
      if fnCnt + writes functions ≤ numFunc.toNat then ends.last () t else ends.wrong .funcMgr t := by
  induction functions generalizing fnCnt with
  | nil => simp [createInterface, writes, within]
  | cons f rest later =>
    rw [createInterface, writes]
    by_cases full : numFunc.toNat ≤ fnCnt
    · rw [if_pos full, needs_goWrong, if_neg]
      split <;> omega
    · rw [if_neg full]
      by_cases long : MAX_NAMELEN ≤ f.funcName.utf8ByteSize
      · rw [if_pos long, if_pos long, needs_pure, if_pos (by omega)]
      · rw [if_neg long, if_neg long, later (by omega), Nat.add_right_comm, Nat.add_assoc]

end

theorem gadget_inj {id other : Nat} (same : gadget id = gadget other) : id = other := by
  have digits : (toString id).toList = (toString other).toList := by
    simpa [gadget] using congrArg String.toList same
  rw [Nat.toString_eq_repr, Nat.toString_eq_repr, Nat.toList_repr, Nat.toList_repr] at digits
  rw [← @Nat.ofDigitChars_ten_toDigits id, digits, Nat.ofDigitChars_ten_toDigits]

namespace System

variable {s : System} {t : Registry}

theorem mem_ids {id : Nat} :
    id ∈ s.ids ↔ ∃ fnDevMgr ∈ s.owned, ∃ device, s.registry.mem fnDevMgr = some device ∧ device.objectId = id := by
  simp only [ids, mem_filterMap, Option.map_eq_some_iff]

theorem Listed.unique (listed : s.Listed) {a b : Nat} {device other : UsbFnDeviceMgr} (within : a ∈ s.owned)
    (within' : b ∈ s.owned) (there : s.registry.mem a = some device) (there' : s.registry.mem b = some other)
    (same : device.objectId = other.objectId) : a = b := by
  refine Decidable.byContradiction fun differs => ?_
  exact listed.distinct.forall within within' differs device other there there' same

theorem Listed.ids_eq (listed : s.Listed) : s.registry.idsOf s.registry.g_devEntry = s.ids := by
  rw [Registry.idsOf, listed.owned, ids]

theorem Listed.live_entries (listed : s.Listed) : ∀ a ∈ s.registry.g_devEntry, (s.registry.mem a).isSome := by
  rw [listed.owned]
  exact listed.live

variable {call : Call}

theorem Listed.refused (listed : s.Listed) {result : Result}
    (same : call.owned s.owned result = s.owned) : s.Settled call result s.registry := by
  rw [Settled, next, same]
  exact ⟨listed, fun _ => ⟨rfl, fun _ _ => rfl, rfl⟩⟩

theorem Listed.adapt_free (listed : s.Listed) {id : Nat} (free : id ∉ s.ids) :
    s.registry.adapt (gadget id) false = s.registry := by
  have none : s.registry.gadgets (gadget id) = false := by
    rw [← Bool.not_eq_true, listed.gadgets id, ← mem_ids]
    exact free
  rw [Registry.adapt, ← none, update_eq_self]

theorem Listed.left (listed : s.Listed) {id : Nat} {there : Bool} (free : id ∉ s.ids)
    (same : call.owned s.owned (.created none) = s.owned) :
    s.Settled call (.created none) (s.registry.adapt (gadget id) there) ↔ ¬ there := by
  constructor
  · rintro ⟨-, unchanged⟩ left
    have kept := congrArg (·.gadgets (gadget id)) (listed.adapt_free free)
    have changed := congrFun (unchanged rfl).gadgets (gadget id)
    subst left
    exact Bool.false_ne_true ((update_self ..).symm.trans (kept.trans (changed.symm.trans (update_self ..))))
  · intro gone
    rw [Bool.not_eq_true] at gone
    rw [gone, listed.adapt_free free]
    exact listed.refused same

theorem Listed.needs_create (listed : s.Listed) {udcName : String} {des : UsbFnDeviceDesc} {o : Creation}
    {ends : Ends Fault Result Registry Result} : Needs (usbFnMgrDeviceCreate (some udcName) (some des) o) ends s.registry ↔
      if o.fnDevMgr then
        match emptyId s.ids with
        | none => ends.early (.created none) s.registry
        | some id =>
          let t := s.registry.adapt (gadget id) o.createDevice.there
          if MAX_NAMELEN ≤ udcName.utf8ByteSize then ends.early (.created none) s.registry
          else if o.createDevice.ret = 0 ∧ allocInterfaceAndFuncMgr des o then
            if writes des.functions ≤ des.numFunc.toNat then
              if startThreadIo o then
                ends.last (.created (some s.registry.made))
                  (t.insertTail (some ⟨id, gadget id, udcName, des.numInterfaces, des.numFunc, true, .running⟩))
              else ends.early (.created none) (t.insertTail none)
            else ends.wrong .funcMgr t
          else ends.early (.created none) t
      else ends.early (.created none) s.registry := by
  rw [usbFnMgrDeviceCreate]
  cases o.fnDevMgr with
  | false => simp
  | true =>
    simp only [Bool.not_true, Bool.false_eq_true, if_false, if_true]
    rw [creatDev]
    rw [needs_bind, needs_bind, needs_findEmptyId listed.live_entries, before_last, listed.ids_eq]
    cases emptyId s.ids with
    | none => simp
    | some id =>
      by_cases long : MAX_NAMELEN ≤ udcName.utf8ByteSize
      · simp [long]
      · by_cases created : o.createDevice.ret = 0
        · cases alloc : allocInterfaceAndFuncMgr des o with
          | false => simp [long, created]
          | true =>
            simp only [long, created, ne_eq, not_true_eq_false, if_false, if_true, Bool.not_true, Bool.false_eq_true, and_self]
            rw [needs_bind, needs_modify, before_last, needs_pure, before_last, needs_bind,
              needs_createInterface (Nat.zero_le _), Nat.zero_add]
            split
            · rw [before_last, needs_bind, needs_get, before_last]
              cases startThreadIo o <;> simp [Registry.adapt]
            · rfl
        · simp [long, created]

theorem Good.insert (good : s.Good) (device : UsbFnDeviceMgr) (free : device.objectId ∉ s.ids)
    (low : 1 ≤ device.objectId) (high : device.objectId < MAX_LIST) (name : device.name = gadget device.objectId)
    (runs : device.thread = .running) : (s.next call (.created (some s.registry.made))
      ((s.registry.adapt (gadget device.objectId) true).insertTail (some device))).Good := by
  have other {a : Nat} (within : a ∈ s.owned) :
      update s.registry.mem s.registry.made (some device) a = s.registry.mem a :=
    update_of_ne (Nat.ne_of_lt (good.fresh a within)) _ _
  have new : update s.registry.mem s.registry.made (some device) s.registry.made = some device :=
    update_self ..
  have unused (a : Nat) (within : a ∈ s.owned) (found : UsbFnDeviceMgr) (there : s.registry.mem a = some found) :
      found.objectId ≠ device.objectId :=
    fun same => free (mem_ids.mpr ⟨a, within, found, there, same⟩)
  constructor
  · constructor
    · exact congrArg (· ++ [s.registry.made]) good.owned
    · intro a within
      rcases mem_append.mp within with old | last
      · exact (congrArg Option.isSome (other old)).trans (good.live a old)
      · rw [mem_singleton.mp last]
        exact congrArg Option.isSome new
    · intro a within found there
      rcases mem_append.mp within with old | last
      · exact good.range a old found ((other old).symm.trans there)
      · rw [mem_singleton.mp last] at there
        obtain rfl := Option.some.inj (new.symm.trans there)
        exact ⟨low, high⟩
    · refine pairwise_append.mpr ⟨?_, pairwise_singleton _ _, ?_⟩
      · refine good.distinct.imp_of_mem fun within within' distinct found found' there there' => ?_
        exact distinct found found' ((other within).symm.trans there) ((other within').symm.trans there')
      · intro a old b last found found' there there'
        rw [mem_singleton.mp last] at there'
        obtain rfl := Option.some.inj (new.symm.trans there')
        exact unused a old found ((other old).symm.trans there)
    · intro id
      by_cases same : id = device.objectId
      · subst same
        refine iff_of_true ?_ ⟨s.registry.made, by simp [next, Call.owned], device, new, rfl⟩
        exact update_self ..
      · have kept : update s.registry.gadgets (gadget device.objectId) true (gadget id) = s.registry.gadgets (gadget id) :=
          update_of_ne (fun names => same (gadget_inj names)) _ _
        refine (iff_of_eq (congrArg (· = true) kept)).trans ((good.gadgets id).trans ⟨?_, ?_⟩)
        · rintro ⟨a, old, found, there, its⟩
          exact ⟨a, mem_append_left _ old, found, (other old).trans there, its⟩
        · rintro ⟨a, within, found, there, its⟩
          rcases mem_append.mp within with old | last
          · exact ⟨a, old, found, (other old).symm.trans there, its⟩
          · rw [mem_singleton.mp last] at there
            obtain rfl := Option.some.inj (new.symm.trans there)
            exact absurd its.symm same
  · intro a within
    rcases mem_append.mp within with old | last
    · obtain ⟨found, there, its⟩ := good.running a old
      exact ⟨found, (other old).trans there, its⟩
    · rw [mem_singleton.mp last]
      exact ⟨device, new, runs, name⟩
  · intro a within
    rcases mem_append.mp within with old | last
    · exact Nat.lt_succ_of_lt (good.fresh a old)
    · exact Nat.lt_succ_of_le (Nat.le_of_eq (mem_singleton.mp last))
  · intro a without
    obtain ⟨old, differs⟩ := not_or.mp (mt mem_append.mpr without)
    exact (update_of_ne (mt mem_singleton.mpr differs) _ _).trans (good.gone a old)

theorem Good.added_iff (good : s.Good) (device : UsbFnDeviceMgr) {there : Bool} {fits starts : Prop} [Decidable fits]
    [Decidable starts] (free : device.objectId ∉ s.ids) (low : 1 ≤ device.objectId) (high : device.objectId < MAX_LIST)
    (name : device.name = gadget device.objectId) (runs : device.thread = .running)
    (refused : call.owned s.owned (.created none) = s.owned) : (if fits then
      if starts then s.Settled call (.created (some s.registry.made))
        ((s.registry.adapt (gadget device.objectId) there).insertTail (some device))
      else s.Settled call (.created none) ((s.registry.adapt (gadget device.objectId) there).insertTail none)
    else False) ↔ there ∧ fits ∧ starts := by
  by_cases fitting : fits
  · rw [if_pos fitting]
    by_cases started : starts
    · rw [if_pos started]
      simp only [fitting, started, and_true]
      constructor
      · rintro ⟨listed, -⟩
        have its :=
          (listed.gadgets device.objectId).mpr ⟨s.registry.made, by simp [next, Call.owned], device,
            update_self .., rfl⟩
        exact (congrArg (· = true) (update_self ..)).mp its
      · rintro rfl
        exact ⟨(good.insert device free low high name runs).toListed, fun failed => nomatch failed⟩
    · rw [if_neg started]
      refine iff_of_false ?_ fun ⟨_, _, starts⟩ => started starts
      rintro ⟨listed, -⟩
      have longer : s.registry.g_devEntry ++ [s.registry.made] = call.owned s.owned (.created none) := listed.owned
      rw [refused, good.owned] at longer
      simp at longer
  · rw [if_neg fitting]
    exact iff_of_false id fun ⟨_, fits, _⟩ => fitting fits

theorem needs_remove {fnDevMgr : Nat} {o : Removal} {ends : Ends Fault Result Registry Result} :
    Needs (usbFnMgrDeviceRemove (some fnDevMgr) o) ends t ↔
      match t.mem fnDevMgr with
      | none => ends.wrong .freed t
      | some found =>
        let stopped := { found with running := o.inTime, thread := if o.inTime then .ended else .leaving }
        if o.threadDestroy = HDF_SUCCESS then
          let destroyed := (t.put fnDevMgr (some { stopped with thread := .destroyed })).adapt found.name o.delDevice.there
          if o.delDevice.ret = 0 then
            ends.last (.removed HDF_SUCCESS) { destroyed.put fnDevMgr none with g_devEntry := t.g_devEntry.erase fnDevMgr }
          else ends.early (.removed o.delDevice.ret) destroyed
        else ends.early (.removed o.threadDestroy) (t.put fnDevMgr (some stopped)) := by
  rw [usbFnMgrDeviceRemove, needs_bind, needs_device]
  cases t.mem fnDevMgr with
  | none => rfl
  | some found =>
    dsimp only [before_last]
    rw [needs_bind, needs_modify, before_last]
    by_cases destroyed : o.threadDestroy = HDF_SUCCESS
    · by_cases deleted : o.delDevice.ret = 0
      · simp [destroyed, deleted, Registry.put, Registry.adapt]
      · simp [destroyed, deleted, Registry.put, Registry.adapt]
    · simp [destroyed]

theorem Listed.nodup (listed : s.Listed) : s.owned.Nodup :=
  listed.distinct.imp_of_mem fun {a b} within _ distinct same => by
    obtain ⟨found, there⟩ := Option.isSome_iff_exists.mp (listed.live a within)
    exact distinct found found there (same ▸ there) rfl

variable {device : UsbFnDeviceMgr} {destroyed : Option UsbFnDeviceMgr}

theorem Listed.free_erased (listed : s.Listed) {fnDevMgr : Nat}
    (within : fnDevMgr ∈ s.owned) (there : s.registry.mem fnDevMgr = some device) : ¬ ∃ a ∈ s.owned.erase fnDevMgr, ∃ found,
      update (update s.registry.mem fnDevMgr destroyed) fnDevMgr none a = some found ∧ found.objectId = device.objectId := by
  rintro ⟨a, left, found, there', its⟩
  obtain ⟨differs, old⟩ := (List.Nodup.mem_erase_iff listed.nodup).mp left
  rw [update_of_ne differs, update_of_ne differs] at there'
  exact differs (listed.unique old within there' there its)

section
variable (good : s.Good)
include good

theorem Good.erase {fnDevMgr : Nat}
    (within : fnDevMgr ∈ s.owned) (there : s.registry.mem fnDevMgr = some device) :
    Good ⟨{ ((s.registry.put fnDevMgr destroyed).adapt (gadget device.objectId) false).put fnDevMgr none with
      g_devEntry := s.registry.g_devEntry.erase fnDevMgr }, s.owned.erase fnDevMgr⟩ := by
  have stays {a : Nat} (left : a ∈ s.owned.erase fnDevMgr) : a ∈ s.owned := mem_of_mem_erase left
  have other {a : Nat} (differs : a ≠ fnDevMgr) :
      update (update s.registry.mem fnDevMgr destroyed) fnDevMgr none a = s.registry.mem a := by
    rw [update_of_ne differs, update_of_ne differs]
  have same {a : Nat} (left : a ∈ s.owned.erase fnDevMgr) :
      update (update s.registry.mem fnDevMgr destroyed) fnDevMgr none a = s.registry.mem a :=
    other ((List.Nodup.mem_erase_iff good.nodup).mp left).1
  constructor
  · constructor
    · exact congrArg (·.erase fnDevMgr) good.owned
    · intro a left
      exact (congrArg Option.isSome (same left)).trans (good.live a (stays left))
    · intro a left found there
      exact good.range a (stays left) found ((same left).symm.trans there)
    · refine (good.distinct.sublist erase_sublist).imp_of_mem fun left left' distinct found found' there there' => ?_
      exact distinct found found' ((same left).symm.trans there) ((same left').symm.trans there')
    · intro id
      by_cases its : id = device.objectId
      · subst its
        exact iff_of_false (by simp [Registry.put, Registry.adapt]) (good.free_erased within there)
      · have kept : update s.registry.gadgets (gadget device.objectId) false (gadget id) = s.registry.gadgets (gadget id) :=
          update_of_ne (fun names => its (gadget_inj names)) _ _
        refine (iff_of_eq (congrArg (· = true) kept)).trans ((good.gadgets id).trans ⟨?_, ?_⟩)
        · rintro ⟨a, old, found, there', its'⟩
          have differs : a ≠ fnDevMgr := fun same => its (by
            rw [same, there] at there'
            rw [← its', Option.some.inj there'])
          exact ⟨a, (List.Nodup.mem_erase_iff good.nodup).mpr ⟨differs, old⟩, found, (other differs).trans there', its'⟩
        · rintro ⟨a, left, found, there', its'⟩
          exact ⟨a, stays left, found, (same left).symm.trans there', its'⟩
  · intro a left
    obtain ⟨found, there, its⟩ := good.running a (stays left)
    exact ⟨found, (same left).trans there, its⟩
  · exact fun a left => good.fresh a (stays left)
  · intro a without
    by_cases its : a = fnDevMgr
    · exact its ▸ update_self ..
    · exact (other its).trans (good.gone a fun old => without ((List.Nodup.mem_erase_iff good.nodup).mpr ⟨its, old⟩))

theorem Good.erased_iff {o : Removal} {fnDevMgr : Nat}
    {left : Bool} (within : fnDevMgr ∈ s.owned) (there : s.registry.mem fnDevMgr = some device) :
    s.Settled (.remove (some fnDevMgr) o) (.removed HDF_SUCCESS)
      { ((s.registry.put fnDevMgr destroyed).adapt (gadget device.objectId) left).put fnDevMgr none with
        g_devEntry := s.registry.g_devEntry.erase fnDevMgr } ↔ ¬ left := by
  have owned : (Call.remove (some fnDevMgr) o).owned s.owned (.removed HDF_SUCCESS) = s.owned.erase fnDevMgr := by
    simp [Call.owned]
  rw [Settled, next, owned]
  constructor
  · rintro ⟨listed, -⟩ left
    subst left
    exact good.free_erased within there ((listed.gadgets device.objectId).mp (update_self ..))
  · intro gone
    rw [Bool.not_eq_true] at gone
    subst gone
    exact ⟨(good.erase within there).toListed, fun failed => absurd rfl failed⟩

theorem Good.stopped {result : Result} {fnDevMgr : Nat}
    (within : fnDevMgr ∈ s.owned) (there : t.mem fnDevMgr = some device) (stopped : device.thread ≠ .running)
    (failed : result.failed) : ¬ s.Settled call result t := by
  rintro ⟨-, unchanged⟩
  obtain ⟨found, before, runs, -⟩ := good.running fnDevMgr within
  have same := (unchanged failed).devices fnDevMgr (good.owned ▸ within)
  rw [there, before] at same
  exact stopped (Option.some.inj same ▸ runs)

theorem right_iff (call : Call) : s.Right call ↔ s.Careful call := by
  cases call with
  | create udcName des o =>
    match udcName, des with
    | none, _ => exact iff_of_true (good.refused rfl) trivial
    | some _, none => exact iff_of_true (good.refused rfl) trivial
    | some udcName, some des =>
      refine good.needs_create.trans ?_
      rw [Careful]
      cases o.fnDevMgr with
      | false => exact iff_of_true (good.refused rfl) fun none => absurd none Bool.false_ne_true
      | true =>
        rw [if_pos rfl]
        cases empty : emptyId s.ids with
        | none => exact iff_of_true (good.refused rfl) fun _ free => absurd free (emptyId_none.mp empty)
        | some id =>
          obtain ⟨low, high, free⟩ := emptyId_some empty
          dsimp only
          by_cases long : MAX_NAMELEN ≤ udcName.utf8ByteSize
          · rw [if_pos long]
            exact iff_of_true (good.refused rfl) fun _ _ short => absurd long (Nat.not_le.mpr short)
          · rw [if_neg long]
            have reached {P : Prop} :
                P ↔ (true = true → (∃ id, 1 ≤ id ∧ id < MAX_LIST ∧ id ∉ s.ids) → udcName.utf8ByteSize < MAX_NAMELEN → P) :=
              ⟨fun holds _ _ _ => holds, fun holds => holds rfl ⟨id, low, high, free⟩ (Nat.not_le.mp long)⟩
            refine Iff.trans ?_ reached
            split
            · exact good.added_iff ⟨id, gadget id, udcName, des.numInterfaces, des.numFunc, true,
              .running⟩ free low high rfl rfl rfl
            · exact good.left free rfl
  | remove fnDevice o =>
    match fnDevice with
    | none => exact iff_of_true (good.refused rfl) trivial
    | some fnDevMgr =>
      refine needs_remove.trans ?_
      rw [Careful]
      by_cases within : fnDevMgr ∈ s.owned
      · obtain ⟨found, there, runs, name⟩ := good.running fnDevMgr within
        rw [there]
        dsimp only
        by_cases destroyed : o.threadDestroy = HDF_SUCCESS
        · by_cases deleted : o.delDevice.ret = 0
          · rw [if_pos destroyed, if_pos deleted, name]
            refine (good.erased_iff within there).trans ?_
            exact ⟨fun gone => ⟨within, destroyed, deleted, gone⟩, fun careful => careful.2.2.2⟩
          · rw [if_pos destroyed, if_neg deleted]
            refine iff_of_false (good.stopped within (update_self ..) ?_ deleted) fun careful => deleted careful.2.2.1
            exact fun still => nomatch still
        · rw [if_neg destroyed]
          refine iff_of_false (good.stopped within (update_self ..) ?_ destroyed) fun careful => destroyed careful.2.1
          cases o.inTime <;> exact fun still => nomatch still
      · rw [good.gone fnDevMgr within]
        exact iff_of_false id fun careful => within careful.1

theorem Good.step (careful : s.Careful call) :
    Needs (perform call) ⟨fun _ _ => False, fun result t => (s.next call result t).Good, fun result t => (s.next call result t).Good⟩
      s.registry := by
  cases call with
  | create udcName des o =>
    match udcName, des with
    | none, _ => exact good
    | some _, none => exact good
    | some udcName, some des =>
      refine good.needs_create.mpr ?_
      rw [Careful] at careful
      cases memory : o.fnDevMgr with
      | false => exact good
      | true =>
        rw [if_pos rfl]
        cases empty : emptyId s.ids with
        | none => exact good
        | some id =>
          obtain ⟨low, high, free⟩ := emptyId_some empty
          dsimp only
          by_cases long : MAX_NAMELEN ≤ udcName.utf8ByteSize
          · rw [if_pos long]
            exact good
          · rw [if_neg long]
            have careful := careful memory ⟨id, low, high, free⟩ (Nat.not_le.mp long)
            split at careful
            · next goesOn =>
              obtain ⟨there, fits, starts⟩ := careful
              rw [if_pos goesOn, if_pos fits, if_pos starts, there]
              exact good.insert ⟨id, gadget id, udcName, des.numInterfaces, des.numFunc, true, .running⟩ free low high rfl rfl
            · next stops =>
              rw [if_neg stops, Bool.eq_false_iff.mpr careful, good.adapt_free free]
              exact good
  | remove fnDevice o =>
    match fnDevice with
    | none => exact good
    | some fnDevMgr =>
      obtain ⟨within, destroyed, deleted, gone⟩ := careful
      obtain ⟨found, there, -, name⟩ := good.running fnDevMgr within
      refine needs_remove.mpr ?_
      rw [there]
      dsimp only
      rw [if_pos destroyed, if_pos deleted, name, Bool.eq_false_iff.mpr gone]
      have owned : (Call.remove (some fnDevMgr) o).owned s.owned (.removed HDF_SUCCESS) = s.owned.erase fnDevMgr := by
        simp [Call.owned]
      rw [next, owned]
      exact good.erase within there

theorem Good.after (careful : s.Careful call) : (s.after call).Good := by
  have step := good.step careful
  rw [Needs] at step
  rw [System.after]
  cases result : (perform call).run s.registry with
  | ok _ _ =>
    rw [result] at step
    exact step
  | error stop _ =>
    rw [result] at step
    cases stop with
    | returned _ => exact step
    | wrong _ => exact step.elim

end

theorem start_good : start.Good where
  owned := rfl
  live _ owned := nomatch owned
  range _ owned := nomatch owned
  distinct := .nil
  gadgets _ := iff_of_false Bool.false_ne_true fun ⟨_, owned, _⟩ => nomatch owned
  running _ owned := nomatch owned
  fresh _ owned := nomatch owned
  gone _ _ := rfl

theorem takes_right (good : s.Good) (run : List Call) : Takes after Right s run ↔ Takes after Careful s run := by
  induction run generalizing s with
  | nil => exact Iff.rfl
  | cons call rest later =>
    exact (and_congr_left' (right_iff good call)).trans (and_congr_right fun careful => later (good.after careful))

/-- In a run all calls do what they should exactly if each is a careful one. -/
theorem run_right (run : List Call) : Takes after Right start run ↔ Takes after Careful start run := takes_right start_good run

def acm : UsbFnDeviceDesc := ⟨[⟨[⟨true, "f_generic.a", [⟨USB_DDK_DT_INTERFACE, 2⟩]⟩]⟩]⟩
def ready : Creation := ⟨true, ⟨0, true⟩, true, true, HDF_SUCCESS, HDF_SUCCESS⟩

def unstarted : Call := .create (some "100e0000.hidwc3_0") (some acm) { ready with threadStart := HDF_FAILURE }

/-- Its freed entry stays in the list and its gadget at the adapter, and the next creation reads the entry. -/
theorem unstarted_not_right : let s := start.after unstarted
    s.registry.g_devEntry = [0] ∧ s.owned = [] ∧ s.registry.mem 0 = none ∧ s.registry.gadgets "g1" ∧
      (∃ t, (perform (.create (some "100e0000.hidwc3_1") (some acm) ready)).run s.registry = .error (.wrong .freed) t) ∧
      ¬ Takes after Right start [unstarted] := by
  refine ⟨rfl, rfl, rfl, by decide, ⟨_, rfl⟩, fun right => ?_⟩
  have careful := (right_iff start_good unstarted).mp right.1
  have stays := careful rfl ⟨1, by decide, by decide, by decide⟩ (by decide)
  exact Bool.false_ne_true stays.2.2

end System

end Peripheral.UsbFn
