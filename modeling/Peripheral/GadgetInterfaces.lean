import Peripheral.GadgetRegistry

/-!
The table of interfaces of a USB gadget, from `usbfn_dev_mgr.c`: one pass over the description counts its entries and
another fills them, and the endpoints of a function are numbered on from entry to entry by counters of the file.
-/
namespace Peripheral.UsbFnTable
open UsbFn (MAX_NAMELEN FUNCTION_GENERIC USB_DDK_DT_INTERFACE)

structure UsbInterfaceDescriptor where
  bDescriptorType : UInt8
  bInterfaceNumber : UInt8
  bNumEndpoints : UInt8
  bInterfaceClass : UInt8
  bInterfaceSubClass : UInt8
  bInterfaceProtocol : UInt8

structure UsbFnFunction where
  enable : Bool
  funcName : String
  fsDescriptors : List UsbInterfaceDescriptor

structure UsbFnConfiguration where
  configurationValue : UInt8
  functions : List UsbFnFunction

structure UsbFnDeviceDesc where
  configs : List UsbFnConfiguration

structure UsbFnInterfaceInfo where
  index : UInt8
  numPipes : UInt8
  interfaceClass : UInt8
  subclass : UInt8
  protocol : UInt8
  configIndex : UInt8
  deriving DecidableEq

/-- An entry of the table; `object` and `funcMgr` are null until it is filled. -/
structure UsbFnInterfaceMgr where
  info : UsbFnInterfaceInfo
  object : Bool
  funcMgr : Option Nat
  startEpId : UInt8
  deriving DecidableEq

structure UsbFnFuncMgr where
  reqEntry : Bool
  object : Bool
  name : String
  deriving DecidableEq

structure UsbFnDeviceMgr where
  numInterfaces : UInt8
  numFunc : UInt8
  interfaceMgr : Vector UsbFnInterfaceMgr numInterfaces.toNat
  funcMgr : Vector UsbFnFuncMgr numFunc.toNat

structure Filling where
  g_intfCnt : Nat
  g_epCnt : Nat
  g_fnCntOld : Nat
  devMgr : UsbFnDeviceMgr
  stored : List Nat

inductive Fault
  | funcMgr
  deriving DecidableEq

def UsbInterfaceDescriptor.counts (intf : UsbInterfaceDescriptor) : Bool :=
  intf.bDescriptorType = USB_DDK_DT_INTERFACE ∧ 0 < intf.bNumEndpoints

def getInterfaceNum (intf : List UsbInterfaceDescriptor) : Nat :=
  intf.foldl (fun num intf => if intf.counts then num + 1 else num) 0

def UsbFnFunction.isGeneric (f : UsbFnFunction) : Bool := FUNCTION_GENERIC.toList.isPrefixOf f.funcName.toList

def UsbFnDeviceDesc.functions (des : UsbFnDeviceDesc) : List (UsbFnConfiguration × UsbFnFunction) :=
  des.configs.flatMap fun config => config.functions.map (config, ·)

/-- `numFunc` and `numInterfaces`, each in a byte. -/
def countFunctions : List (UsbFnConfiguration × UsbFnFunction) → UInt8 × UInt8 → UInt8 × UInt8
  | [], nums => nums
  | (_, f) :: rest, nums =>
    if ¬f.isGeneric then countFunctions rest nums
    else if f.enable = false then countFunctions rest nums
    else countFunctions rest (nums.1 + 1, nums.2 + .ofNat (getInterfaceNum f.fsDescriptors))

/-- Cleared memory, none of no size. -/
def usbFnMemCalloc {α : Type} (there : Bool) (n : Nat) (zero : α) : Option (Vector α n) :=
  if n = 0 ∨ ¬there then none else some (Vector.replicate n zero)

def zeroInterface : UsbFnInterfaceMgr := ⟨⟨0, 0, 0, 0, 0, 0⟩, false, none, 0⟩
def zeroFunc : UsbFnFuncMgr := ⟨false, false, ""⟩

/-- Whether there is memory for either table. -/
structure Memory where
  interfaceMgr : Bool
  funcMgr : Bool

def allocTables (numFunc numInterfaces : UInt8) (memory : Memory) : Option UsbFnDeviceMgr := do
  if numInterfaces = 0 then none
  let interfaceMgr ← usbFnMemCalloc memory.interfaceMgr numInterfaces.toNat zeroInterface
  let funcMgr ← usbFnMemCalloc memory.funcMgr numFunc.toNat zeroFunc
  return ⟨numInterfaces, numFunc, interfaceMgr, funcMgr⟩

def allocInterfaceAndFuncMgr (des : UsbFnDeviceDesc) (memory : Memory) : Option UsbFnDeviceMgr :=
  let nums := countFunctions des.functions (0, 0)
  allocTables nums.1 nums.2 memory

def infoOf (config : UsbFnConfiguration) (intf : UsbInterfaceDescriptor) : UsbFnInterfaceInfo where
  index := intf.bInterfaceNumber
  interfaceClass := intf.bInterfaceClass
  subclass := intf.bInterfaceSubClass
  protocol := intf.bInterfaceProtocol
  numPipes := intf.bNumEndpoints
  configIndex := config.configurationValue

def Filling.ofFunction (s : Filling) (fnCnt : Nat) : Filling :=
  if s.g_fnCntOld ≠ fnCnt then { s with g_fnCntOld := fnCnt, g_epCnt := 1 } else s

def Filling.store (s : Filling) (intf : UsbInterfaceDescriptor) (fnCnt : Nat) (config : UsbFnConfiguration) : Filling :=
  if inside : s.g_intfCnt < s.devMgr.numInterfaces.toNat then
    let entry : UsbFnInterfaceMgr := ⟨infoOf config intf, true, some fnCnt, .ofNat s.g_epCnt⟩
    { s with
      devMgr := { s.devMgr with interfaceMgr := s.devMgr.interfaceMgr.set s.g_intfCnt entry inside }
      g_epCnt := s.g_epCnt + intf.bNumEndpoints.toNat
      g_intfCnt := s.g_intfCnt + 1
      stored := s.stored ++ [s.g_intfCnt] }
  else s

def getInterfaceInfo (intf : UsbInterfaceDescriptor) (fnCnt : Nat) (config : UsbFnConfiguration) (s : Filling) : Filling :=
  let s := s.ofFunction fnCnt
  if intf.counts then s.store intf fnCnt config else s

def Filling.putFunc (s : Filling) (fnCnt : Nat) (f : UsbFnFunction) (inside : fnCnt < s.devMgr.numFunc.toNat) : Filling :=
  let funcMgr : UsbFnFuncMgr := ⟨true, true, if f.funcName.utf8ByteSize < MAX_NAMELEN then f.funcName else ""⟩
  { s with devMgr := { s.devMgr with funcMgr := s.devMgr.funcMgr.set fnCnt funcMgr inside } }

/-- The loops from some function on. A name that is too long ends them. -/
def createFrom : (fnCnt : Nat) → List (UsbFnConfiguration × UsbFnFunction) → Filling → Except Fault Filling
  | _, [], s => .ok s
  | fnCnt, (config, f) :: rest, s =>
    if ¬f.isGeneric then createFrom fnCnt rest s
    else if f.enable = false then createFrom fnCnt rest s
    else if inside : fnCnt < s.devMgr.numFunc.toNat then
      let s := s.putFunc fnCnt f inside
      if MAX_NAMELEN ≤ f.funcName.utf8ByteSize then .ok s
      else createFrom (fnCnt + 1) rest (f.fsDescriptors.foldl (fun s intf => getInterfaceInfo intf fnCnt config s) s)
    else .error .funcMgr

def createInterface (des : UsbFnDeviceDesc) (devMgr : UsbFnDeviceMgr) : Except Fault Filling :=
  createFrom 0 des.functions ⟨0, 1, 0, devMgr, []⟩

def UsbFnDeviceDesc.handled (des : UsbFnDeviceDesc) : List (UsbFnConfiguration × UsbFnFunction) :=
  des.functions.filter fun entry => entry.2.isGeneric && entry.2.enable

def UsbFnFunction.interfaces (f : UsbFnFunction) : List UsbInterfaceDescriptor := f.fsDescriptors.filter UsbInterfaceDescriptor.counts

def UsbFnFunction.endpoints (f : UsbFnFunction) : Nat := (f.interfaces.map (·.bNumEndpoints.toNat)).sum

def UsbFnDeviceDesc.table (des : UsbFnDeviceDesc) : List (UsbFnInterfaceInfo × Option Nat) :=
  des.handled.zipIdx.flatMap fun entry => entry.1.2.interfaces.map fun intf => (infoOf entry.1.1 intf, some entry.2)

def UsbFnInterfaceMgr.range (intf : UsbFnInterfaceMgr) : List Nat := List.range' intf.startEpId.toNat intf.info.numPipes.toNat

/-- Every entry is stored to once, in order, and the endpoints of each function are numbered on from one. -/
structure Filled (des : UsbFnDeviceDesc) (s : Filling) : Prop where
  once : s.stored = List.range s.devMgr.numInterfaces.toNat
  entries : s.devMgr.interfaceMgr.toList.map (fun intf => (intf.info, intf.funcMgr)) = des.table
  numbered : ∀ (n : Nat) entry, des.handled[n]? = some entry →
    (s.devMgr.interfaceMgr.toList.filter (·.funcMgr = some n)).flatMap (·.range) = List.range' 1 entry.2.endpoints

/-- A device whose tables are there gets its interfaces. -/
def Right (des : UsbFnDeviceDesc) (memory : Memory) : Prop := ∀ devMgr, allocInterfaceAndFuncMgr des memory = some devMgr →
  ∃ s, createInterface des devMgr = .ok s ∧ Filled des s

theorem getInterfaceNum_eq (intf : List UsbInterfaceDescriptor) : getInterfaceNum intf = (intf.filter UsbInterfaceDescriptor.counts).length := by
  have each : ∀ num : Nat, intf.foldl (fun num intf => if intf.counts then num + 1 else num) num =
      num + (intf.filter UsbInterfaceDescriptor.counts).length := by
    induction intf with
    | nil => intro num; rfl
    | cons first rest ih =>
      intro num
      rw [List.foldl_cons, ih, List.filter_cons]
      split
      · rw [List.length_cons]
        rw [Nat.add_assoc, Nat.add_comm 1]
      · rfl
  exact (each 0).trans (Nat.zero_add _)

/-- A function that the passes do not leave out. -/
def Kept (entry : UsbFnConfiguration × UsbFnFunction) : Bool := entry.2.isGeneric && entry.2.enable

theorem countFunctions_eq (l : List (UsbFnConfiguration × UsbFnFunction)) (nums : UInt8 × UInt8) : countFunctions l nums =
    (nums.1 + .ofNat (l.filter Kept).length, nums.2 + .ofNat ((l.filter Kept).map (·.2.interfaces.length)).sum) := by
  induction l generalizing nums with
  | nil => simp [countFunctions]
  | cons first rest ih =>
    obtain ⟨config, f⟩ := first
    rw [countFunctions]
    by_cases generic : f.isGeneric
    · by_cases enabled : f.enable
      · rw [if_neg (not_not.mpr generic), if_neg (by simp [enabled]), ih, List.filter_cons_of_pos (by simp [Kept, generic, enabled])]
        have one : UInt8.ofNat ((rest.filter Kept).length + 1) = 1 + UInt8.ofNat (rest.filter Kept).length := by
          rw [Nat.add_comm]
          exact UInt8.ofNat_add _ _
        rw [List.length_cons, List.map_cons, List.sum_cons, one, UInt8.ofNat_add, getInterfaceNum_eq, UsbFnFunction.interfaces,
          UInt8.add_assoc, UInt8.add_assoc]
      · rw [if_neg (not_not.mpr generic), if_pos (by simpa using enabled), ih,
          List.filter_cons_of_neg (by simp [Kept, generic, enabled])]
    · rw [if_pos generic, ih, List.filter_cons_of_neg (by simp [Kept, generic])]

variable {des : UsbFnDeviceDesc} {memory : Memory} {devMgr : UsbFnDeviceMgr} {s : Filling}

theorem table_length (des : UsbFnDeviceDesc) : des.table.length = (des.handled.map (·.2.interfaces.length)).sum := by
  rw [UsbFnDeviceDesc.table, List.length_flatMap]
  have each : des.handled.zipIdx.map (fun entry => (entry.1.2.interfaces.map fun intf => (infoOf entry.1.1 intf, some entry.2)).length) =
      (des.handled.zipIdx.map Prod.fst).map (·.2.interfaces.length) := by
    simp only [List.length_map, List.map_map]
    rfl
  rw [each, List.zipIdx_map_fst]

theorem allocInterfaceAndFuncMgr_eq (des : UsbFnDeviceDesc) (memory : Memory) : allocInterfaceAndFuncMgr des memory =
    allocTables (.ofNat des.handled.length) (.ofNat des.table.length) memory := by
  have nums := countFunctions_eq des.functions (0, 0)
  rw [UInt8.zero_add, UInt8.zero_add] at nums
  rw [allocInterfaceAndFuncMgr, nums, table_length]
  rfl

theorem allocTables_sizes {numFunc numInterfaces : UInt8} (allocated : allocTables numFunc numInterfaces memory = some devMgr) :
    devMgr.numFunc = numFunc ∧ devMgr.numInterfaces = numInterfaces := by
  rw [allocTables] at allocated
  split at allocated
  · cases allocated
  · obtain ⟨interfaceMgr, -, allocated⟩ := Option.bind_eq_some_iff.mp allocated
    obtain ⟨funcMgr, -, allocated⟩ := Option.bind_eq_some_iff.mp allocated
    cases allocated
    exact ⟨rfl, rfl⟩

theorem allocTables_isSome (numFunc numInterfaces : UInt8) (memory : Memory) : (allocTables numFunc numInterfaces memory).isSome ↔
    numInterfaces ≠ 0 ∧ memory.interfaceMgr ∧ numFunc ≠ 0 ∧ memory.funcMgr := by
  have zero : ∀ n : UInt8, n.toNat = 0 ↔ n = 0 := fun n => UInt8.toNat_inj (b := 0)
  obtain ⟨interfaces, functions⟩ := memory
  simp only [allocTables, usbFnMemCalloc, zero]
  by_cases none : numInterfaces = 0
  · simp [none]
  · by_cases none' : numFunc = 0
    · cases interfaces <;> simp [none, none']
    · cases interfaces <;> cases functions <;> simp [none, none']

theorem createFrom_kept (fnCnt : Nat) (l : List (UsbFnConfiguration × UsbFnFunction)) (s : Filling) :
    createFrom fnCnt l s = createFrom fnCnt (l.filter Kept) s := by
  induction l generalizing fnCnt s with
  | nil => rfl
  | cons first rest ih =>
    obtain ⟨config, f⟩ := first
    by_cases generic : f.isGeneric
    · by_cases enabled : f.enable
      · rw [List.filter_cons_of_pos (by simp [Kept, generic, enabled]), createFrom, createFrom]
        simp only [ih]
      · rw [List.filter_cons_of_neg (by simp [Kept, generic, enabled]), createFrom, if_neg (not_not.mpr generic),
          if_pos (by simpa using enabled), ih]
    · rw [List.filter_cons_of_neg (by simp [Kept, generic]), createFrom, if_pos generic, ih]

/-! ### The interfaces of one function -/

/-- The entries of a function, with its endpoints from `ep` on. -/
def entriesOf (config : UsbFnConfiguration) (n : Nat) : (ep : Nat) → List UsbInterfaceDescriptor → List UsbFnInterfaceMgr
  | _, [] => []
  | ep, intf :: rest => ⟨infoOf config intf, true, some n, .ofNat ep⟩ :: entriesOf config n (ep + intf.bNumEndpoints.toNat) rest

theorem entriesOf_length (config : UsbFnConfiguration) (n ep : Nat) (l : List UsbInterfaceDescriptor) :
    (entriesOf config n ep l).length = l.length := by
  induction l generalizing ep with
  | nil => rfl
  | cons intf rest ih => rw [entriesOf, List.length_cons, List.length_cons, ih]

namespace Filling

def ep (s : Filling) (n : Nat) : Nat := if s.g_fnCntOld ≠ n then 1 else s.g_epCnt

/-- The table is filled up to some point. -/
structure Holds (s : Filling) (done : List UsbFnInterfaceMgr) : Prop where
  count : s.g_intfCnt = done.length
  entries : s.devMgr.interfaceMgr.toList.take done.length = done
  once : s.stored = List.range done.length

structure SameSize (s t : Filling) : Prop where
  interfaces : t.devMgr.numInterfaces = s.devMgr.numInterfaces
  functions : t.devMgr.numFunc = s.devMgr.numFunc

theorem SameSize.trans {s t u : Filling} (first : s.SameSize t) (second : t.SameSize u) : s.SameSize u :=
  ⟨second.interfaces.trans first.interfaces, second.functions.trans first.functions⟩

end Filling

variable {k : Nat}

theorem take_set {α : Type} (l : List α) (x : α) (inside : k < l.length) : (l.set k x).take (k + 1) = l.take k ++ [x] := by
  rw [List.take_add_one, List.take_set_of_le (Nat.le_refl k), List.getElem?_set_self inside]
  rfl

variable {done : List UsbFnInterfaceMgr} {config : UsbFnConfiguration} {n : Nat}

theorem ofFunction_size (s : Filling) (n : Nat) : s.SameSize (s.ofFunction n) := by
  rw [Filling.ofFunction]
  split <;> exact ⟨rfl, rfl⟩

theorem store_size (s : Filling) (intf : UsbInterfaceDescriptor) (n : Nat) (config : UsbFnConfiguration) :
    s.SameSize (s.store intf n config) := by
  rw [Filling.store]
  split <;> exact ⟨rfl, rfl⟩

theorem getInterfaceInfo_size (intf : UsbInterfaceDescriptor) (n : Nat) (config : UsbFnConfiguration) (s : Filling) :
    s.SameSize (getInterfaceInfo intf n config s) := by
  rw [getInterfaceInfo]
  split
  · exact (ofFunction_size s n).trans (store_size _ _ _ _)
  · exact ofFunction_size s n

theorem fold_size (l : List UsbInterfaceDescriptor) (n : Nat) (config : UsbFnConfiguration) (s : Filling) :
    s.SameSize (l.foldl (fun s intf => getInterfaceInfo intf n config s) s) := by
  induction l generalizing s with
  | nil => exact ⟨rfl, rfl⟩
  | cons intf rest ih => exact (getInterfaceInfo_size intf n config s).trans (ih _)

theorem ofFunction_holds (holds : s.Holds done) (n : Nat) : (s.ofFunction n).Holds done ∧ (s.ofFunction n).g_fnCntOld = n ∧
    (s.ofFunction n).g_epCnt = s.ep n := by
  rw [Filling.ofFunction, Filling.ep]
  by_cases changed : s.g_fnCntOld ≠ n
  · rw [if_pos changed, if_pos changed]
    exact ⟨⟨holds.count, holds.entries, holds.once⟩, rfl, rfl⟩
  · rw [if_neg changed, if_neg changed]
    exact ⟨holds, not_not.mp changed, rfl⟩

theorem store_holds (config : UsbFnConfiguration) (intf : UsbInterfaceDescriptor) (holds : s.Holds done) (room : done.length < s.devMgr.numInterfaces.toNat) :
    (s.store intf n config).Holds (done ++ [⟨infoOf config intf, true, some n, .ofNat s.g_epCnt⟩]) ∧
      (s.store intf n config).g_fnCntOld = s.g_fnCntOld ∧
      (s.store intf n config).g_epCnt = s.g_epCnt + intf.bNumEndpoints.toNat := by
  rw [← holds.count] at room
  rw [Filling.store, dif_pos room]
  refine ⟨⟨?_, ?_, ?_⟩, rfl, rfl⟩
  · rw [List.length_append, List.length_singleton, ← holds.count]
  · rw [List.length_append, List.length_singleton]
    simp only [Vector.toList_set]
    rw [holds.count, take_set _ _ (by rwa [Vector.length_toList, ← holds.count]), holds.entries]
  · rw [List.length_append, List.length_singleton, List.range_succ, ← holds.once, ← holds.count]

theorem fold_holds (l : List UsbInterfaceDescriptor) (holds : s.Holds done)
    (room : done.length + (l.filter UsbInterfaceDescriptor.counts).length ≤ s.devMgr.numInterfaces.toNat) (old : s.g_fnCntOld ≤ n) :
    (l.foldl (fun s intf => getInterfaceInfo intf n config s) s).Holds (done ++ entriesOf config n (s.ep n) (l.filter UsbInterfaceDescriptor.counts)) ∧
      (l.foldl (fun s intf => getInterfaceInfo intf n config s) s).g_fnCntOld ≤ n := by
  induction l generalizing s done with
  | nil => exact ⟨by simpa [entriesOf] using holds, old⟩
  | cons intf rest ih =>
    obtain ⟨holds', is, next⟩ := ofFunction_holds holds n
    rw [List.foldl_cons, getInterfaceInfo]
    by_cases counts : intf.counts
    · rw [List.filter_cons_of_pos counts, List.length_cons] at room
      have size := ofFunction_size s n
      obtain ⟨stored, is', next'⟩ := store_holds (n := n) config intf holds' (by rw [size.interfaces]; omega)
      have more := ih stored (by
        rw [(store_size _ _ _ _).interfaces, size.interfaces, List.length_append, List.length_singleton]
        omega) (Nat.le_of_eq (is'.trans is))
      rw [if_pos counts, List.filter_cons_of_pos counts, entriesOf]
      have ep : ((s.ofFunction n).store intf n config).ep n = s.ep n + intf.bNumEndpoints.toNat := by
        rw [Filling.ep, if_neg (not_not.mpr (is'.trans is)), next', next]
      rw [ep, next, List.append_assoc] at more
      exact more
    · rw [List.filter_cons_of_neg counts] at room
      have more := ih holds' (by rwa [(ofFunction_size s n).interfaces]) (Nat.le_of_eq is)
      have ep : (s.ofFunction n).ep n = s.ep n := by
        rw [Filling.ep, if_neg (not_not.mpr is), next]
      rw [if_neg counts, List.filter_cons_of_neg counts]
      rwa [ep] at more

/-- The entries of functions that are numbered from `k` on. -/
def entriesFrom (k : Nat) (l : List (UsbFnConfiguration × UsbFnFunction)) : List UsbFnInterfaceMgr :=
  (l.zipIdx k).flatMap fun entry => entriesOf entry.1.1 entry.2 1 entry.1.2.interfaces

theorem entriesFrom_cons (k : Nat) (first : UsbFnConfiguration × UsbFnFunction) (rest : List (UsbFnConfiguration × UsbFnFunction)) :
    entriesFrom k (first :: rest) = entriesOf first.1 k 1 first.2.interfaces ++ entriesFrom (k + 1) rest := by
  rw [entriesFrom, List.zipIdx_cons, List.flatMap_cons, entriesFrom]

theorem entriesFrom_length (k : Nat) (l : List (UsbFnConfiguration × UsbFnFunction)) :
    (entriesFrom k l).length = (l.map (·.2.interfaces.length)).sum := by
  induction l generalizing k with
  | nil => rfl
  | cons first rest ih => rw [entriesFrom_cons, List.length_append, entriesOf_length, ih, List.map_cons, List.sum_cons]

def Short (entry : UsbFnConfiguration × UsbFnFunction) : Prop := entry.2.funcName.utf8ByteSize < MAX_NAMELEN

theorem createFrom_cons {f : UsbFnFunction} {rest : List (UsbFnConfiguration × UsbFnFunction)} (kept : Kept (config, f))
    (short : Short (config, f)) (s : Filling) : createFrom k ((config, f) :: rest) s =
      if inside : k < s.devMgr.numFunc.toNat then
        createFrom (k + 1) rest (f.fsDescriptors.foldl (fun s intf => getInterfaceInfo intf k config s) (s.putFunc k f inside))
      else .error .funcMgr := by
  obtain ⟨generic, enabled⟩ := Bool.and_eq_true_iff.mp kept
  rw [createFrom, if_neg (not_not.mpr generic), if_neg (by simpa using enabled)]
  split
  · simp only
    rw [if_neg (Nat.not_le.mpr short)]
  · rfl

variable {l : List (UsbFnConfiguration × UsbFnFunction)}

theorem createFrom_size {t : Filling} (ends : createFrom k l s = .ok t) : s.SameSize t := by
  induction l generalizing k s with
  | nil =>
    cases ends
    exact ⟨rfl, rfl⟩
  | cons first rest ih =>
    rw [createFrom] at ends
    split at ends
    · exact ih ends
    · split at ends
      · exact ih ends
      · split at ends
        · next inside =>
          have put : s.SameSize (s.putFunc k first.2 inside) := ⟨rfl, rfl⟩
          simp only at ends
          split at ends
          · cases ends
            exact put
          · exact (put.trans (fold_size _ _ _ _)).trans (ih ends)
        · cases ends

theorem createFrom_past (kept : ∀ entry ∈ l, Kept entry)
    (short : ∀ entry ∈ l, Short entry) (past : s.devMgr.numFunc.toNat < k + l.length) (start : k ≤ s.devMgr.numFunc.toNat) :
    createFrom k l s = .error .funcMgr := by
  induction l generalizing k s with
  | nil => exact absurd start (Nat.not_le.mpr past)
  | cons first rest ih =>
    rw [createFrom_cons (kept first List.mem_cons_self) (short first List.mem_cons_self)]
    split
    · next inside =>
      rw [List.length_cons] at past
      have size := fold_size first.2.fsDescriptors k first.1 (s.putFunc k first.2 inside)
      have same : (s.putFunc k first.2 inside).devMgr.numFunc = s.devMgr.numFunc := rfl
      refine ih (fun entry member => kept entry (List.mem_cons_of_mem _ member))
        (fun entry member => short entry (List.mem_cons_of_mem _ member)) ?_ ?_
      · rw [size.functions, same]
        omega
      · rw [size.functions, same]
        exact inside
    · rfl

theorem createFrom_holds (kept : ∀ entry ∈ l, Kept entry)
    (short : ∀ entry ∈ l, Short entry) (holds : s.Holds done) (functions : k + l.length ≤ s.devMgr.numFunc.toNat)
    (interfaces : done.length + (entriesFrom k l).length ≤ s.devMgr.numInterfaces.toNat) (old : s.g_fnCntOld ≤ k) (ep : s.ep k = 1) :
    ∃ t, createFrom k l s = .ok t ∧ t.Holds (done ++ entriesFrom k l) ∧ s.SameSize t := by
  induction l generalizing k s done with
  | nil => exact ⟨s, rfl, by simpa [entriesFrom] using holds, rfl, rfl⟩
  | cons first rest ih =>
    obtain ⟨config, f⟩ := first
    rw [List.length_cons] at functions
    rw [entriesFrom_cons, List.length_append, entriesOf_length] at interfaces
    change done.length + (f.interfaces.length + (entriesFrom (k + 1) rest).length) ≤ _ at interfaces
    have inside : k < s.devMgr.numFunc.toNat := by omega
    have put : (s.putFunc k f inside).Holds done := ⟨holds.count, holds.entries, holds.once⟩
    have size : s.SameSize (s.putFunc k f inside) := ⟨rfl, rfl⟩
    have ep' : (s.putFunc k f inside).ep k = 1 := ep
    obtain ⟨next, old'⟩ := fold_holds (n := k) f.fsDescriptors put
      (show done.length + f.interfaces.length ≤ s.devMgr.numInterfaces.toNat by omega) old
    rw [ep'] at next
    have size' := size.trans (fold_size f.fsDescriptors k config (s.putFunc k f inside))
    obtain ⟨t, is, last, size''⟩ := ih (fun entry member => kept entry (List.mem_cons_of_mem _ member))
      (fun entry member => short entry (List.mem_cons_of_mem _ member)) next (by rw [size'.functions]; omega)
      (by rw [size'.interfaces, List.length_append, entriesOf_length, Nat.add_assoc]; exact interfaces)
      (Nat.le_succ_of_le old') (by rw [Filling.ep, if_pos (by omega)])
    refine ⟨t, ?_, ?_, size'.trans size''⟩
    · rw [createFrom_cons (kept _ List.mem_cons_self) (short _ List.mem_cons_self), dif_pos inside]
      exact is
    · rw [entriesFrom_cons, ← List.append_assoc]
      exact last

theorem entriesOf_infos (config : UsbFnConfiguration) (n ep : Nat) (l : List UsbInterfaceDescriptor) :
    (entriesOf config n ep l).map (fun intf => (intf.info, intf.funcMgr)) = l.map fun intf => (infoOf config intf, some n) := by
  induction l generalizing ep with
  | nil => rfl
  | cons intf rest ih => rw [entriesOf, List.map_cons, List.map_cons, ih]

theorem entriesOf_func {intf : UsbFnInterfaceMgr} {ep : Nat} {l : List UsbInterfaceDescriptor} (member : intf ∈ entriesOf config n ep l) :
    intf.funcMgr = some n := by
  induction l generalizing ep with
  | nil => simp [entriesOf] at member
  | cons first rest ih =>
    rcases List.mem_cons.mp member with rfl | later
    · rfl
    · exact ih later

/-- The numbers of the endpoints go on from entry to entry as long as they fit into a byte. -/
theorem entriesOf_ranges (config : UsbFnConfiguration) (n ep : Nat) (l : List UsbInterfaceDescriptor) (some_ : ∀ intf ∈ l, intf.counts)
    (fits : ep + (l.map (·.bNumEndpoints.toNat)).sum ≤ 256) :
    (entriesOf config n ep l).flatMap (·.range) = List.range' ep (l.map (·.bNumEndpoints.toNat)).sum := by
  induction l generalizing ep with
  | nil => rfl
  | cons intf rest ih =>
    rw [List.map_cons, List.sum_cons] at fits
    have counts := of_decide_eq_true (some_ intf List.mem_cons_self)
    have pos : 0 < intf.bNumEndpoints.toNat := UInt8.lt_iff_toNat_lt.mp counts.2
    have start : (UInt8.ofNat ep).toNat = ep := UInt8.toNat_ofNat_of_lt' (by rw [UInt8.size]; omega)
    rw [entriesOf, List.flatMap_cons, ih _ (fun intf member => some_ intf (List.mem_cons_of_mem _ member)) (by omega), List.map_cons,
      List.sum_cons, ← List.range'_append_1]
    rw [UsbFnInterfaceMgr.range, start]
    rfl

theorem entriesFrom_other (k : Nat) (l : List (UsbFnConfiguration × UsbFnFunction)) {n : Nat} (before : n < k) :
    (entriesFrom k l).filter (·.funcMgr = some n) = [] := by
  induction l generalizing k with
  | nil => rfl
  | cons first rest ih =>
    rw [entriesFrom_cons, List.filter_append, ih _ (Nat.lt_succ_of_lt before), List.append_nil, List.filter_eq_nil_iff]
    intro intf member
    simp only [entriesOf_func member, Option.some.injEq, decide_eq_true_eq]
    exact Nat.ne_of_gt before

theorem entriesFrom_filter (k : Nat) (l : List (UsbFnConfiguration × UsbFnFunction)) {i : Nat}
    {entry : UsbFnConfiguration × UsbFnFunction} (found : l[i]? = some entry) :
    (entriesFrom k l).filter (·.funcMgr = some (k + i)) = entriesOf entry.1 (k + i) 1 entry.2.interfaces := by
  induction l generalizing k i with
  | nil => cases found
  | cons first rest ih =>
    rw [entriesFrom_cons, List.filter_append]
    cases i with
    | zero =>
      cases found
      rw [Nat.add_zero, entriesFrom_other _ _ (Nat.lt_succ_self k), List.append_nil, List.filter_eq_self]
      intro intf member
      simp [entriesOf_func member]
    | succ i =>
      have none : (entriesOf first.1 k 1 first.2.interfaces).filter (·.funcMgr = some (k + (i + 1))) = [] := by
        rw [List.filter_eq_nil_iff]
        intro intf member
        simp only [entriesOf_func member, Option.some.injEq, decide_eq_true_eq]
        omega
      rw [none, List.nil_append, ← Nat.succ_add_eq_add_succ]
      exact ih (k + 1) found

theorem entriesFrom_infos (k : Nat) (l : List (UsbFnConfiguration × UsbFnFunction)) :
    (entriesFrom k l).map (fun intf => (intf.info, intf.funcMgr)) =
      (l.zipIdx k).flatMap fun entry => entry.1.2.interfaces.map fun intf => (infoOf entry.1.1 intf, some entry.2) := by
  rw [entriesFrom, List.map_flatMap]
  simp only [entriesOf_infos]

structure Described (des : UsbFnDeviceDesc) : Prop where
  short : ∀ entry ∈ des.functions, Short entry
  few : ∀ entry ∈ des.functions, entry.2.endpoints ≤ 255

theorem toNat_ofNat_iff {n : Nat} : (UInt8.ofNat n).toNat = n ↔ n ≤ 255 := by
  rw [UInt8.toNat_ofNat']
  omega

theorem createInterface_iff (described : Described des) (allocated : allocInterfaceAndFuncMgr des memory = some devMgr) :
    (∃ s, createInterface des devMgr = .ok s ∧ Filled des s) ↔ des.handled.length ≤ 255 ∧ des.table.length ≤ 255 := by
  rw [allocInterfaceAndFuncMgr_eq] at allocated
  obtain ⟨numFunc, numInterfaces⟩ := allocTables_sizes allocated
  have kept : ∀ entry ∈ des.handled, Kept entry := fun entry member => (List.mem_filter.mp member).2
  have short : ∀ entry ∈ des.handled, Short entry := fun entry member => described.short entry (List.mem_filter.mp member).1
  have is : createInterface des devMgr = createFrom 0 des.handled ⟨0, 1, 0, devMgr, []⟩ := createFrom_kept _ _ _
  rw [is]
  constructor
  · rintro ⟨s, ends, filled⟩
    constructor
    · by_contra many
      have past : devMgr.numFunc.toNat < 0 + des.handled.length := by
        rw [numFunc, UInt8.toNat_ofNat']
        omega
      rw [createFrom_past kept short past (Nat.zero_le _)] at ends
      cases ends
    · have same := congrArg List.length filled.entries
      rw [List.length_map, Vector.length_toList, (createFrom_size ends).interfaces, numInterfaces] at same
      exact toNat_ofNat_iff.mp same
  · rintro ⟨functions, interfaces⟩
    have total : (entriesFrom 0 des.handled).length = des.table.length := by rw [entriesFrom_length, table_length]
    rw [← toNat_ofNat_iff, ← numFunc] at functions
    rw [← toNat_ofNat_iff, ← numInterfaces, ← total] at interfaces
    obtain ⟨t, ends, holds, size⟩ := createFrom_holds (s := ⟨0, 1, 0, devMgr, []⟩) kept short ⟨rfl, rfl, rfl⟩
      (by rw [Nat.zero_add]; exact Nat.le_of_eq functions.symm)
      (by rw [List.length_nil, Nat.zero_add]; exact Nat.le_of_eq interfaces.symm) (Nat.le_refl 0) rfl
    rw [List.nil_append] at holds
    have whole : t.devMgr.interfaceMgr.toList = entriesFrom 0 des.handled := by
      have all := holds.entries
      rwa [← interfaces, ← size.interfaces, List.take_of_length_le (Nat.le_of_eq Vector.length_toList)] at all
    refine ⟨t, ends, ?_, ?_, fun n entry found => ?_⟩
    · rw [size.interfaces, interfaces]
      exact holds.once
    · rw [whole, entriesFrom_infos]
      rfl
    · have own := entriesFrom_filter 0 des.handled found
      rw [Nat.zero_add] at own
      have member := (List.mem_filter.mp (List.mem_of_getElem? found)).1
      rw [whole, own, entriesOf_ranges]
      · rfl
      · exact fun intf member => (List.mem_filter.mp member).2
      · exact Nat.add_le_add_left (described.few entry member) 1

/-- The table of a gadget whose functions have names that fit and endpoints that can be numbered is right when not more than 255
    functions are handled, with not more than 255 interfaces together. -/
theorem interfaces_right (described : Described des) (memory : Memory) : Right des memory ↔
    ((allocInterfaceAndFuncMgr des memory).isSome → des.handled.length ≤ 255 ∧ des.table.length ≤ 255) := by
  rw [Right]
  cases allocated : allocInterfaceAndFuncMgr des memory with
  | none => simp
  | some devMgr => simpa using createInterface_iff described allocated

def pair (n : UInt8) : UsbInterfaceDescriptor := ⟨USB_DDK_DT_INTERFACE, n, 2, 10, 0, 0⟩

def serial : UsbFnFunction := ⟨true, "f_generic.a", [pair 0, pair 1]⟩

def repeated (n : Nat) : UsbFnDeviceDesc := ⟨[⟨1, List.replicate n serial⟩]⟩

theorem repeated_described (n : Nat) : Described (repeated n) := by
  have is : ∀ entry ∈ (repeated n).functions, entry.2 = serial := by
    intro entry member
    simp only [repeated, UsbFnDeviceDesc.functions, List.flatMap_cons, List.flatMap_nil, List.append_nil, List.mem_map] at member
    obtain ⟨f, member, rfl⟩ := member
    exact List.eq_of_mem_replicate member
  constructor
  · intro entry member
    rw [Short, is entry member]
    decide
  · intro entry member
    rw [is entry member]
    decide

theorem repeated_handled (n : Nat) : (repeated n).handled = List.replicate n (⟨1, List.replicate n serial⟩, serial) := by
  rw [UsbFnDeviceDesc.handled, UsbFnDeviceDesc.functions, repeated]
  simp only [List.flatMap_cons, List.flatMap_nil, List.append_nil, List.map_replicate]
  have kept : (serial.isGeneric && serial.enable) = true := by decide
  exact List.filter_replicate_of_pos kept

theorem repeated_table (n : Nat) : (repeated n).table.length = n * 2 := by
  rw [table_length, repeated_handled, List.map_replicate, List.sum_replicate_nat]
  rfl

theorem interfaces_right_most : Described (repeated 127) ∧ Right (repeated 127) ⟨true, true⟩ := by
  refine ⟨repeated_described 127, (interfaces_right (repeated_described 127) _).mpr fun _ => ⟨?_, ?_⟩⟩
  · rw [repeated_handled, List.length_replicate]
    decide
  · rw [repeated_table]
    decide

theorem repeated_past {n : Nat} (past : devMgr.numFunc.toNat < n) : createInterface (repeated n) devMgr = .error .funcMgr := by
  refine (createFrom_kept 0 (repeated n).functions _).trans ?_
  have many : devMgr.numFunc.toNat < 0 + (repeated n).handled.length := by
    rwa [repeated_handled, List.length_replicate, Nat.zero_add]
  exact createFrom_past (fun entry member => (List.mem_filter.mp member).2)
    (fun entry member => (repeated_described n).short entry (List.mem_filter.mp member).1) many (Nat.zero_le _)

/-- With 258 interfaces two have a place in the table, and with 257 functions the table of functions has one entry. -/
theorem interfaces_wrong : ¬Right (repeated 129) ⟨true, true⟩ ∧ ∃ devMgr, allocInterfaceAndFuncMgr (repeated 257) ⟨true, true⟩ = some devMgr ∧
    createInterface (repeated 257) devMgr = .error .funcMgr := by
  have there : ∀ n, UInt8.ofNat (n * 2) ≠ 0 → UInt8.ofNat n ≠ 0 →
      ∃ devMgr, allocInterfaceAndFuncMgr (repeated n) ⟨true, true⟩ = some devMgr ∧ devMgr.numFunc = .ofNat n := by
    intro n interfaces functions
    rw [allocInterfaceAndFuncMgr_eq, repeated_handled, repeated_table, List.length_replicate]
    obtain ⟨devMgr, allocated⟩ := Option.isSome_iff_exists.mp ((allocTables_isSome (.ofNat n) (.ofNat (n * 2)) ⟨true, true⟩).mpr
      ⟨interfaces, rfl, functions, rfl⟩)
    exact ⟨devMgr, allocated, (allocTables_sizes allocated).1⟩
  constructor
  · intro right
    obtain ⟨devMgr, allocated, -⟩ := there 129 (by decide) (by decide)
    have fits := ((createInterface_iff (repeated_described 129) allocated).mp (right devMgr allocated)).2
    rw [repeated_table] at fits
    exact absurd fits (by decide)
  · obtain ⟨devMgr, allocated, one⟩ := there 257 (by decide) (by decide)
    refine ⟨devMgr, allocated, repeated_past ?_⟩
    rw [one]
    decide

end Peripheral.UsbFnTable
