import Mathlib.Algebra.Group.Int.Defs
import Mathlib.Algebra.Group.Nat.Defs
import Peripheral.Searches
import Peripheral.Transitions

/-!
The buffers of an OMX component, `component_node.cpp`. A buffer has a header, which the
component allocates, and an id, which clients name it by; two maps hold what belongs
together. What OMX and the shared memory return is given with the step. Reading through
a header that is null crashes the process, and an id is searched without end when all
are taken; both leave the node where it is.
-/
namespace Peripheral.Codec
open Searches Transitions List

inductive BufferType
  | invalid
  | virtualAddr
  | avshareMemFd
  | handle
  | dynamicHandle
  | other (value : Int)
  deriving DecidableEq

def OMX_ErrorNone : Nat := 0
def OMX_ErrorUndefined : Nat := 0x80001001
def OMX_ErrorInvalidComponent : Nat := 0x80001004

/-- `sizeof(int)`. -/
def FD_SIZE : Nat := 4

/-- `buffer` is an address or a descriptor. -/
structure OmxCodecBuffer where
  bufferId : Nat
  size : Nat
  version : Nat
  bufferType : BufferType
  buffer : Nat
  bufferLen : Nat
  allocLen : Nat
  filledLen : Nat
  offset : Nat
  fenceFd : Int
  type : Nat
  pts : Int
  flag : Nat
  deriving DecidableEq

/-- What `SaveBufferInfo` reads of `OMX_BUFFERHEADERTYPE`. -/
structure BufferHeader where
  nVersion : Nat
  nAllocLen : Nat
  nFilledLen : Nat
  nOffset : Nat
  nTimeStamp : Int
  nFlags : Nat
  deriving DecidableEq

/-- What `OMX_AllocateBuffer` or `OMX_UseBuffer` gives: the error, the address that stands in the pointer then, and what is there. -/
structure HeaderOutcome where
  err : Nat
  address : Nat
  header : BufferHeader
  deriving DecidableEq

/-- `sharedMem` says whether there is one. -/
structure BufferInfo where
  omxCodecBuffer : OmxCodecBuffer
  sharedMem : Bool
  deriving DecidableEq

/-- Why a call does not return. -/
inductive Halt
  | nullHeader
  | endless
  deriving DecidableEq

structure ComponentNode where
  comp : Bool
  bufferInfoMap : List (Nat × BufferInfo)
  bufferHeaderMap : List (Nat × Nat)
  bufferIdCount : Nat
  allocated : List Nat
  halted : Option Halt
  deriving DecidableEq

/-- What a call leaves: the node, the error it returns and the caller's buffer. -/
structure NodeResult where
  node : ComponentNode
  err : Nat
  buffer : OmxCodecBuffer
  deriving DecidableEq

/-- `mapped` says whether the shared memory could be mapped, `sharedFD` is what `AshmemCreate` returns, as an address. -/
inductive NodeStep
  | useBuffer (buffer : OmxCodecBuffer) (mapped : Bool) (outcome : HeaderOutcome)
  | allocateBuffer (buffer : OmxCodecBuffer) (outcome : HeaderOutcome) (sharedFD : Nat)
  | freeBuffer (buffer : OmxCodecBuffer) (err : Nat)
  deriving DecidableEq

/-- The ids that there are, from `1` on. -/
def idCount : Nat := 2 ^ 32 - 1

/-- `++bufferIdCount_`, once more when it comes to `0`. -/
def nextId (count : Nat) : Nat :=
  if (count + 1) % 2 ^ 32 = 0 then 1 else (count + 1) % 2 ^ 32

/-- The loop of `GenerateBufferId`, round all ids once. -/
def searchId (taken : Nat → Bool) : Nat → Nat → Option Nat
  | 0, _ => none
  | fuel + 1, count => if taken (nextId count) then searchId taken fuel (nextId count) else some (nextId count)

/-- The `int` that a pointer holds. -/
def toFd (buffer : Nat) : Int := if buffer % 2 ^ 32 < 2 ^ 31 then buffer % 2 ^ 32 else (buffer % 2 ^ 32 : Nat) - 2 ^ 32

namespace ComponentNode

def new (comp : Bool) : ComponentNode := ⟨comp, [], [], 0, [], none⟩

/-- `none` when the loop does not end; the counter is left at the id. -/
def generateBufferId (n : ComponentNode) : Option Nat :=
  searchId (fun id => n.bufferInfoMap.any (·.1 = id)) idCount n.bufferIdCount

/-- `insert` of a map keeps what is there. -/
def insertNew {α : Type} (map : List (Nat × α)) (key : Nat) (value : α) : List (Nat × α) :=
  if ∃ entry ∈ map, entry.1 = key then map else map ++ [(key, value)]

def saved (buffer : OmxCodecBuffer) (bufferId : Nat) (header : BufferHeader) : OmxCodecBuffer :=
  { buffer with
    bufferId := bufferId
    version := header.nVersion
    allocLen := header.nAllocLen
    filledLen := header.nFilledLen
    offset := header.nOffset
    pts := header.nTimeStamp
    flag := header.nFlags }

/-- The id is found before the header is read. The copy in the map has no descriptor. -/
def saveBufferInfo (n : ComponentNode) (buffer : OmxCodecBuffer) (outcome : HeaderOutcome) (sharedMem : Bool) :
    ComponentNode × OmxCodecBuffer :=
  match n.generateBufferId with
  | none => ({ n with halted := some .endless }, buffer)
  | some bufferId =>
    if outcome.address = 0 then ({ n with halted := some .nullHeader }, buffer)
    else
      let buffer := saved buffer bufferId outcome.header
      ({ n with
        bufferIdCount := bufferId
        bufferInfoMap := insertNew n.bufferInfoMap bufferId ⟨{ buffer with buffer := 0, bufferLen := 0 }, sharedMem⟩
        bufferHeaderMap := insertNew n.bufferHeaderMap outcome.address bufferId }, buffer)

def omxAllocate (n : ComponentNode) (outcome : HeaderOutcome) : ComponentNode :=
  if outcome.err = OMX_ErrorNone then { n with allocated := n.allocated ++ [outcome.address] } else n

def save (n : ComponentNode) (buffer : OmxCodecBuffer) (outcome : HeaderOutcome) (sharedMem : Bool) : NodeResult :=
  let (node, buffer) := (n.omxAllocate outcome).saveBufferInfo buffer outcome sharedMem
  ⟨node, outcome.err, buffer⟩

def useSharedBuffer (n : ComponentNode) (buffer : OmxCodecBuffer) (mapped : Bool) (outcome : HeaderOutcome) : NodeResult :=
  if buffer.bufferLen ≠ FD_SIZE then ⟨n, OMX_ErrorUndefined, buffer⟩
  else if toFd buffer.buffer < 0 then ⟨n, OMX_ErrorUndefined, buffer⟩
  else if !mapped then ⟨n, OMX_ErrorUndefined, buffer⟩
  else if outcome.err ≠ OMX_ErrorNone then ⟨n, outcome.err, buffer⟩
  else n.save buffer outcome true

/-- An error of `OMX_UseBuffer` is logged, and the header is saved all the same. `handleSize` is `sizeof(BufferHandle)`. -/
def useHandleBuffer (handleSize : Nat) (n : ComponentNode) (buffer : OmxCodecBuffer) (outcome : HeaderOutcome) :
    NodeResult :=
  if handleSize ≠ buffer.bufferLen then ⟨n, OMX_ErrorUndefined, buffer⟩ else n.save buffer outcome false

/-- Here too the header is saved after an error. -/
def useDynaHandleBuffer (n : ComponentNode) (buffer : OmxCodecBuffer) (outcome : HeaderOutcome) : NodeResult :=
  n.save buffer outcome false

def useBuffer (handleSize : Nat) (n : ComponentNode) (buffer : OmxCodecBuffer) (mapped : Bool) (outcome : HeaderOutcome) :
    NodeResult :=
  if !n.comp then ⟨n, OMX_ErrorInvalidComponent, buffer⟩
  else
    match buffer.bufferType with
    | .avshareMemFd => n.useSharedBuffer buffer mapped outcome
    | .handle => useHandleBuffer handleSize n buffer outcome
    | .dynamicHandle => n.useDynaHandleBuffer buffer outcome
    | .invalid | .virtualAddr | .other _ => ⟨n, OMX_ErrorUndefined, buffer⟩

/-- The length of the shared memory is read from the header. That it was not created shows only in the buffer's descriptor. -/
def allocateBuffer (n : ComponentNode) (buffer : OmxCodecBuffer) (outcome : HeaderOutcome) (sharedFD : Nat) : NodeResult :=
  if !n.comp then ⟨n, OMX_ErrorInvalidComponent, buffer⟩
  else if outcome.err ≠ OMX_ErrorNone then ⟨n, outcome.err, buffer⟩
  else if outcome.address = 0 then ⟨{ n.omxAllocate outcome with halted := some .nullHeader }, outcome.err, buffer⟩
  else
    let result := n.save buffer outcome true
    { result with buffer := { result.buffer with buffer := sharedFD, bufferLen := FD_SIZE } }

/-- A descriptor that came with the buffer is closed. -/
def checkBuffer (buffer : OmxCodecBuffer) : OmxCodecBuffer :=
  if buffer.buffer ≠ 0 ∧ buffer.bufferType = .avshareMemFd ∧ buffer.bufferLen = FD_SIZE then
    { buffer with buffer := 0, bufferLen := 0 }
  else buffer

def getBufferById (n : ComponentNode) (bufferId : Nat) : Option (BufferInfo × Nat) :=
  match n.bufferInfoMap.find? (·.1 = bufferId), n.bufferHeaderMap.find? (·.2 = bufferId) with
  | some info, some header => if header.1 = 0 then none else some (info.2, header.1)
  | _, _ => none

def releaseBufferById (n : ComponentNode) (bufferId : Nat) : ComponentNode :=
  match n.getBufferById bufferId with
  | none => n
  | some _ =>
    { n with
      bufferInfoMap := n.bufferInfoMap.eraseP (·.1 = bufferId)
      bufferHeaderMap := n.bufferHeaderMap.eraseP (·.2 = bufferId) }

/-- Only buffers of shared memory are given back to OMX. -/
def freeBuffer (n : ComponentNode) (buffer : OmxCodecBuffer) (err : Nat) : NodeResult :=
  if !n.comp then ⟨n, OMX_ErrorInvalidComponent, buffer⟩
  else
    let buffer := checkBuffer buffer
    match n.getBufferById buffer.bufferId with
    | none => ⟨n, OMX_ErrorUndefined, buffer⟩
    | some (info, address) =>
      match info.omxCodecBuffer.bufferType with
      | .avshareMemFd =>
        if err = OMX_ErrorNone then
          ⟨{ n with allocated := n.allocated.erase address }.releaseBufferById buffer.bufferId, err, buffer⟩
        else ⟨n, err, buffer⟩
      | .handle | .dynamicHandle | .invalid | .virtualAddr | .other _ => ⟨n, OMX_ErrorUndefined, buffer⟩

def perform (handleSize : Nat) (n : ComponentNode) : NodeStep → NodeResult
  | .useBuffer buffer mapped outcome => useBuffer handleSize n buffer mapped outcome
  | .allocateBuffer buffer outcome sharedFD => n.allocateBuffer buffer outcome sharedFD
  | .freeBuffer buffer err => n.freeBuffer buffer err

def step (handleSize : Nat) (n : ComponentNode) (step : NodeStep) : ComponentNode :=
  if n.halted = none then (n.perform handleSize step).node else n

/-- What OMX returns without error is a header that was not allocated. -/
def Possible (n : ComponentNode) : NodeStep → Prop
  | .useBuffer _ _ outcome | .allocateBuffer _ outcome _ =>
    outcome.err = OMX_ErrorNone → outcome.address ≠ 0 ∧ outcome.address ∉ n.allocated
  | .freeBuffer .. => True

/-! ### What the maps are to keep -/

/-- Headers and ids are in bijection, ids are distinct and not `0`, and the headers are those that are allocated. -/
structure Registered (n : ComponentNode) : Prop where
  count : n.bufferIdCount < 2 ^ 32
  ids : (n.bufferInfoMap.map (·.1)).Nodup
  range : ∀ entry ∈ n.bufferInfoMap, entry.1 ≠ 0 ∧ entry.1 < 2 ^ 32
  headers : (n.bufferHeaderMap.map (·.1)).Nodup
  notNull : ∀ entry ∈ n.bufferHeaderMap, entry.1 ≠ 0
  bijection : (n.bufferHeaderMap.map (·.2)).Perm (n.bufferInfoMap.map (·.1))
  allocated : (n.bufferHeaderMap.map (·.1)).Perm n.allocated

structure Sound (handleSize : Nat) (n : ComponentNode) (step : NodeStep) : Prop where
  returns : (n.step handleSize step).halted = none
  registered : (n.step handleSize step).Registered
  unchanged : (n.perform handleSize step).err ≠ OMX_ErrorNone →
    (n.step handleSize step).bufferInfoMap = n.bufferInfoMap ∧ (n.step handleSize step).bufferHeaderMap = n.bufferHeaderMap

def Room (n : ComponentNode) : Prop := ∃ id, id ≠ 0 ∧ id < 2 ^ 32 ∧ ∀ entry ∈ n.bufferInfoMap, entry.1 ≠ id

/-- `OMX_UseBuffer` succeeds, and there is room whenever a header is saved. -/
def Supplied (handleSize : Nat) (n : ComponentNode) : NodeStep → Prop
  | .useBuffer buffer mapped outcome =>
    n.comp = true →
      match buffer.bufferType with
      | .avshareMemFd =>
        buffer.bufferLen = FD_SIZE → 0 ≤ toFd buffer.buffer → mapped = true → outcome.err = OMX_ErrorNone → n.Room
      | .handle => handleSize = buffer.bufferLen → outcome.err = OMX_ErrorNone ∧ n.Room
      | .dynamicHandle => outcome.err = OMX_ErrorNone ∧ n.Room
      | .invalid | .virtualAddr | .other _ => True
  | .allocateBuffer _ outcome _ => n.comp = true → outcome.err = OMX_ErrorNone → n.Room
  | .freeBuffer .. => True

end ComponentNode

theorem nextId_eq {count : Nat} (bound : count < 2 ^ 32) : nextId count = count % idCount + 1 := by
  simp only [nextId, idCount]
  split <;> omega

theorem nextId_range (count : Nat) : nextId count ≠ 0 ∧ nextId count < 2 ^ 32 := by
  simp only [nextId]
  split <;> omega

theorem searchId_some {taken : Nat → Bool} {fuel count id : Nat} (found : searchId taken fuel count = some id) :
    taken id = false ∧ id ≠ 0 ∧ id < 2 ^ 32 := by
  induction fuel generalizing count with
  | zero => cases found
  | succ fuel more =>
    rw [searchId] at found
    split at found
    · exact more found
    · rename_i free
      cases found
      exact ⟨by simpa using free, nextId_range count⟩

theorem searchId_none {taken : Nat → Bool} {fuel count : Nat} (bound : count < 2 ^ 32)
    (none : searchId taken fuel count = none) : ∀ k < fuel, taken ((count + k) % idCount + 1) = true := by
  induction fuel generalizing count with
  | zero => exact fun k less => absurd less (Nat.not_lt_zero k)
  | succ fuel more =>
    rw [searchId] at none
    split at none
    · rename_i here
      have later := more (nextId_range count).2 none
      intro k less
      cases k with
      | zero => rwa [nextId_eq bound] at here
      | succ k =>
        have same : (nextId count + k) % idCount = (count + (k + 1)) % idCount := by
          rw [nextId_eq bound]
          simp only [idCount]
          omega
        have seen := later k (by omega)
        rwa [same] at seen
    · cases none

theorem idCount_covers {count id : Nat} (notZero : id ≠ 0) (bound : id < 2 ^ 32) :
    ∃ k < idCount, (count + k) % idCount + 1 = id := by
  refine ⟨(id - 1 + idCount - count % idCount) % idCount, ?_, ?_⟩
  · simp only [idCount]
    omega
  · simp only [idCount]
    omega

namespace ComponentNode
variable {handleSize : Nat} {n : ComponentNode}

theorem generateBufferId_some {id : Nat} (found : n.generateBufferId = some id) :
    (∀ entry ∈ n.bufferInfoMap, entry.1 ≠ id) ∧ id ≠ 0 ∧ id < 2 ^ 32 := by
  obtain ⟨free, range⟩ := searchId_some found
  exact ⟨by simpa using free, range⟩

/-- The search ends exactly when there is an id that is not taken. -/
theorem generateBufferId_isSome (bound : n.bufferIdCount < 2 ^ 32) : (∃ id, n.generateBufferId = some id) ↔ n.Room := by
  constructor
  · rintro ⟨id, found⟩
    obtain ⟨free, notZero, less⟩ := generateBufferId_some found
    exact ⟨id, notZero, less, free⟩
  · rintro ⟨id, notZero, less, free⟩
    rw [← Option.ne_none_iff_exists']
    intro none
    obtain ⟨k, fewer, is⟩ := @idCount_covers n.bufferIdCount id notZero less
    have taken := searchId_none bound none k fewer
    rw [is] at taken
    obtain ⟨info, member⟩ : ∃ info, (id, info) ∈ n.bufferInfoMap := by
      simpa using taken
    exact free _ member rfl

theorem insertNew_new {α : Type} {map : List (Nat × α)} {key : Nat} {value : α} (new : ∀ entry ∈ map, entry.1 ≠ key) :
    insertNew map key value = map ++ [(key, value)] := by
  rw [insertNew, if_neg]
  rintro ⟨entry, member, same⟩
  exact new entry member same

namespace Registered

theorem new (comp : Bool) : Registered (.new comp) := by
  constructor <;> simp [ComponentNode.new]

theorem unknown (registered : n.Registered) {address : Nat} (free : address ∉ n.allocated) :
    ∀ entry ∈ n.bufferHeaderMap, entry.1 ≠ address := by
  intro entry member same
  rw [← registered.allocated.mem_iff, mem_map] at free
  exact free ⟨entry, member, same⟩

theorem save (registered : n.Registered) {buffer : OmxCodecBuffer} {outcome : HeaderOutcome} {sharedMem : Bool}
    (ok : outcome.err = OMX_ErrorNone) (notNull : outcome.address ≠ 0) (free : outcome.address ∉ n.allocated) (room : n.Room) :
    (n.save buffer outcome sharedMem).node.halted = n.halted ∧ (n.save buffer outcome sharedMem).node.Registered := by
  obtain ⟨id, found⟩ := (generateBufferId_isSome registered.count).mpr room
  obtain ⟨untaken, notZero, less⟩ := generateBufferId_some found
  have found' : (n.omxAllocate outcome).generateBufferId = some id := by
    rw [omxAllocate, if_pos ok]
    exact found
  have node : (n.save buffer outcome sharedMem).node = { n with
      bufferIdCount := id
      bufferInfoMap := n.bufferInfoMap ++
        [(id, ⟨{ saved buffer id outcome.header with buffer := 0, bufferLen := 0 }, sharedMem⟩)]
      bufferHeaderMap := n.bufferHeaderMap ++ [(outcome.address, id)]
      allocated := n.allocated ++ [outcome.address] } := by
    simp only [ComponentNode.save, saveBufferInfo, found', if_neg notNull]
    simp only [omxAllocate, if_pos ok, insertNew_new untaken, insertNew_new (registered.unknown free)]
  rw [node]
  refine ⟨rfl, less, ?_, ?_, ?_, ?_, ?_, ?_⟩
  · rw [map_append]
    refine registered.ids.append (nodup_singleton _) (disjoint_singleton.mpr ?_)
    rw [mem_map]
    rintro ⟨entry, member, same⟩
    exact untaken entry member same
  · exact forall_mem_append.mpr ⟨registered.range, forall_mem_singleton.mpr ⟨notZero, less⟩⟩
  · rw [map_append]
    refine registered.headers.append (nodup_singleton _) (disjoint_singleton.mpr ?_)
    rw [mem_map]
    rintro ⟨entry, member, same⟩
    exact registered.unknown free entry member same
  · exact forall_mem_append.mpr ⟨registered.notNull, forall_mem_singleton.mpr notNull⟩
  · rw [map_append, map_append]
    exact registered.bijection.append_right _
  · rw [map_append]
    exact registered.allocated.append_right _

end Registered

theorem save_fails {buffer : OmxCodecBuffer} {outcome : HeaderOutcome} {sharedMem : Bool} (bound : n.bufferIdCount < 2 ^ 32)
    (returns : (n.save buffer outcome sharedMem).node.halted = none) :
    n.Room ∧ (n.save buffer outcome sharedMem).node.bufferInfoMap ≠ n.bufferInfoMap := by
  have infos : (n.omxAllocate outcome).bufferInfoMap = n.bufferInfoMap := by
    rw [omxAllocate]
    split <;> rfl
  have same : (n.omxAllocate outcome).generateBufferId = n.generateBufferId := by
    rw [omxAllocate]
    split <;> rfl
  cases found : n.generateBufferId with
  | none => simp [save, saveBufferInfo, same, found] at returns
  | some id =>
    refine ⟨(generateBufferId_isSome bound).mp ⟨id, found⟩, ?_⟩
    by_cases null : outcome.address = 0
    · simp [save, saveBufferInfo, same, found, null] at returns
    · simp only [save, saveBufferInfo, same, found, if_neg null, infos, insertNew_new (generateBufferId_some found).1]
      simp

theorem Registered.release (registered : n.Registered) {id address : Nat} {info : BufferInfo}
    (found : n.getBufferById id = some (info, address)) :
    ({ n with allocated := n.allocated.erase address }.releaseBufferById id).Registered := by
  have node : { n with allocated := n.allocated.erase address }.releaseBufferById id = { n with
      allocated := n.allocated.erase address
      bufferInfoMap := n.bufferInfoMap.eraseP (·.1 = id)
      bufferHeaderMap := n.bufferHeaderMap.eraseP (·.2 = id) } := by
    have same : { n with allocated := n.allocated.erase address }.getBufferById id = some (info, address) := found
    rw [releaseBufferById, same]
  rw [getBufferById] at found
  split at found
  · rename_i entry header infoFound headerFound
    split at found
    · cases found
    · cases found
      have id_eq : entry.1 = id := by simpa using find?_some infoFound
      have header_eq : header.2 = id := by simpa using find?_some headerFound
      have infos := perm_eraseP infoFound
      have headers := perm_eraseP headerFound
      rw [node]
      refine ⟨registered.count, ?_, ?_, ?_, ?_, ?_, ?_⟩
      · exact registered.ids.sublist (eraseP_sublist.map _)
      · exact fun other member => registered.range other (mem_of_mem_eraseP member)
      · exact registered.headers.sublist (eraseP_sublist.map _)
      · exact fun other member => registered.notNull other (mem_of_mem_eraseP member)
      · have both := ((headers.map Prod.snd).symm.trans registered.bijection).trans (infos.map Prod.fst)
        rw [map_cons, map_cons, id_eq, header_eq] at both
        exact both.cons_inv
      · exact (cons_perm_iff_perm_erase.mp ((headers.map Prod.fst).symm.trans registered.allocated)).2
  · cases found

section
variable (registered : n.Registered) (returned : n.halted = none) {step : NodeStep}
include registered returned

theorem sound_of_same (same : (n.perform handleSize step).node = n) : n.Sound handleSize step := by
  have stays : n.step handleSize step = n := by
    rw [ComponentNode.step, if_pos returned, same]
  constructor
  · rw [stays]
    exact returned
  · rw [stays]
    exact registered
  · rw [stays]
    exact fun _ => ⟨rfl, rfl⟩

/-- A call that saves what OMX returned is as it must be exactly when OMX succeeded and there is room. -/
theorem sound_of_save {buffer : OmxCodecBuffer} {outcome : HeaderOutcome} {sharedMem : Bool}
    (node : (n.perform handleSize step).node = (n.save buffer outcome sharedMem).node)
    (err : (n.perform handleSize step).err = outcome.err)
    (fresh : outcome.err = OMX_ErrorNone → outcome.address ≠ 0 ∧ outcome.address ∉ n.allocated) :
    n.Sound handleSize step ↔ outcome.err = OMX_ErrorNone ∧ n.Room := by
  have steps : n.step handleSize step = (n.save buffer outcome sharedMem).node := by
    rw [ComponentNode.step, if_pos returned, node]
  constructor
  · rintro ⟨returns, -, unchanged⟩
    rw [steps] at returns unchanged
    obtain ⟨room, changed⟩ := save_fails registered.count returns
    refine ⟨?_, room⟩
    by_contra failed
    rw [err] at unchanged
    exact changed (unchanged failed).1
  · rintro ⟨ok, room⟩
    obtain ⟨notNull, free⟩ := fresh ok
    obtain ⟨halted, saved⟩ := @Registered.save n registered buffer outcome sharedMem ok notNull free room
    refine ⟨?_, ?_, ?_⟩
    · rw [steps, halted]
      exact returned
    · rw [steps]
      exact saved
    · rw [err]
      exact fun failed => absurd ok failed

theorem freeBuffer_sound (buffer : OmxCodecBuffer) (err : Nat) : n.Sound handleSize (.freeBuffer buffer err) := by
  by_cases released : ∃ info address, n.comp = true ∧ n.getBufferById (checkBuffer buffer).bufferId = some (info, address) ∧
      info.omxCodecBuffer.bufferType = .avshareMemFd ∧ err = OMX_ErrorNone
  · obtain ⟨info, address, comp, found, type, ok⟩ := released
    have result : n.perform handleSize (.freeBuffer buffer err) =
        ⟨{ n with allocated := n.allocated.erase address }.releaseBufferById (checkBuffer buffer).bufferId, err,
          checkBuffer buffer⟩ := by
      simp [perform, freeBuffer, comp, found, type, ok]
    have steps : n.step handleSize (.freeBuffer buffer err) =
        { n with allocated := n.allocated.erase address }.releaseBufferById (checkBuffer buffer).bufferId := by
      rw [ComponentNode.step, if_pos returned, result]
    refine ⟨?_, ?_, ?_⟩
    · rw [steps, releaseBufferById]
      split <;> exact returned
    · rw [steps]
      exact registered.release found
    · rw [result]
      exact fun failed => absurd ok failed
  · refine sound_of_same registered returned ?_
    simp only [perform, freeBuffer]
    repeat' split
    all_goals grind

theorem useBuffer_sound_iff {buffer : OmxCodecBuffer} {mapped : Bool} {outcome : HeaderOutcome}
    (fresh : outcome.err = OMX_ErrorNone → outcome.address ≠ 0 ∧ outcome.address ∉ n.allocated) :
    n.Sound handleSize (.useBuffer buffer mapped outcome) ↔ n.Supplied handleSize (.useBuffer buffer mapped outcome) := by
  cases comp : n.comp with
  | false =>
    have same : (n.perform handleSize (.useBuffer buffer mapped outcome)).node = n := by
      simp [perform, useBuffer, comp]
    simp [Supplied, comp, sound_of_same registered returned same]
  | true =>
    cases type : buffer.bufferType with
    | invalid | virtualAddr | other =>
      have same : (n.perform handleSize (.useBuffer buffer mapped outcome)).node = n := by
        simp [perform, useBuffer, comp, type]
      simp [Supplied, comp, type, sound_of_same registered returned same]
    | dynamicHandle =>
      have result : n.perform handleSize (.useBuffer buffer mapped outcome) = n.save buffer outcome false := by
        simp [perform, useBuffer, comp, type, useDynaHandleBuffer]
      rw [sound_of_save registered returned (congrArg NodeResult.node result) (congrArg NodeResult.err result) fresh]
      simp [Supplied, comp, type]
    | handle =>
      by_cases size : handleSize = buffer.bufferLen
      · have result : n.perform handleSize (.useBuffer buffer mapped outcome) = n.save buffer outcome false := by
          simp [perform, useBuffer, comp, type, useHandleBuffer, size]
        rw [sound_of_save registered returned (congrArg NodeResult.node result) (congrArg NodeResult.err result) fresh]
        simp [Supplied, comp, type, size]
      · have same : (n.perform handleSize (.useBuffer buffer mapped outcome)).node = n := by
          simp [perform, useBuffer, comp, type, useHandleBuffer, size]
        simp [Supplied, comp, type, size, sound_of_same registered returned same]
    | avshareMemFd =>
      by_cases saves : buffer.bufferLen = FD_SIZE ∧ 0 ≤ toFd buffer.buffer ∧ mapped = true ∧ outcome.err = OMX_ErrorNone
      · obtain ⟨length, fd, map, ok⟩ := saves
        have result : n.perform handleSize (.useBuffer buffer mapped outcome) = n.save buffer outcome true := by
          simp [perform, useBuffer, comp, type, useSharedBuffer, length, Int.not_lt.mpr fd, map, ok]
        rw [sound_of_save registered returned (congrArg NodeResult.node result) (congrArg NodeResult.err result) fresh]
        simp [Supplied, comp, type, length, fd, map, ok]
      · have same : (n.perform handleSize (.useBuffer buffer mapped outcome)).node = n := by
          simp only [perform, useBuffer, comp, type, useSharedBuffer]
          grind
        refine ⟨fun _ => ?_, fun _ => sound_of_same registered returned same⟩
        simp only [Supplied, type]
        exact fun _ length fd map ok => absurd ⟨length, fd, map, ok⟩ saves

theorem step_sound_iff (possible : n.Possible step) : n.Sound handleSize step ↔ n.Supplied handleSize step := by
  cases step with
  | useBuffer buffer mapped outcome => exact useBuffer_sound_iff registered returned possible
  | freeBuffer buffer err => simp [Supplied, freeBuffer_sound registered returned]
  | allocateBuffer buffer outcome sharedFD =>
    by_cases saves : n.comp = true ∧ outcome.err = OMX_ErrorNone
    · obtain ⟨comp, ok⟩ := saves
      obtain ⟨notNull, -⟩ := possible ok
      have node : (n.perform handleSize (.allocateBuffer buffer outcome sharedFD)).node = (n.save buffer outcome true).node := by
        simp [perform, allocateBuffer, comp, ok, notNull]
      have err : (n.perform handleSize (.allocateBuffer buffer outcome sharedFD)).err = outcome.err := by
        simp [perform, allocateBuffer, comp, ok, notNull, save]
      rw [sound_of_save registered returned node err possible]
      simp [Supplied, comp, ok]
    · have same : (n.perform handleSize (.allocateBuffer buffer outcome sharedFD)).node = n := by
        simp only [perform, allocateBuffer]
        grind
      refine ⟨fun _ comp ok => absurd ⟨comp, ok⟩ saves, fun _ => sound_of_same registered returned same⟩

end

/-- In a run every call is as it must be exactly when every call finds what it needs. -/
theorem run_sound_iff {run : List NodeStep} {n : ComponentNode} (registered : n.Registered) (returned : n.halted = none)
    (taken : Takes (step handleSize) Possible n run) :
    Takes (step handleSize) (Sound handleSize) n run ↔ Takes (step handleSize) (Supplied handleSize) n run := by
  induction run generalizing n with
  | nil => rfl
  | cons first rest more =>
    obtain ⟨possible, later⟩ := taken
    rw [Takes, Takes, ← step_sound_iff registered returned possible]
    exact and_congr_right fun sound => more sound.registered sound.returns later

end ComponentNode

/-- In every run of `UseBuffer`, `AllocateBuffer` and `FreeBuffer`, with whatever OMX and the shared memory return, every call
    returns with the maps as they must be, and as they were when it fails, exactly when `OMX_UseBuffer` never fails for a handle
    and there is an id left whenever a header is saved. -/
theorem buffers_registered_iff {handleSize : Nat} {comp : Bool} {run : List NodeStep}
    (taken : Takes (ComponentNode.step handleSize) ComponentNode.Possible (.new comp) run) :
    Takes (ComponentNode.step handleSize) (ComponentNode.Sound handleSize) (.new comp) run ↔
      Takes (ComponentNode.step handleSize) (ComponentNode.Supplied handleSize) (.new comp) run :=
  ComponentNode.run_sound_iff (.new comp) rfl taken

instance ComponentNode.decidePossible (n : ComponentNode) : (step : NodeStep) → Decidable (n.Possible step)
  | .useBuffer .. | .allocateBuffer .. => inferInstanceAs (Decidable (_ → _ ≠ _ ∧ _ ∉ _))
  | .freeBuffer .. => inferInstanceAs (Decidable True)

def bufferOf (bufferType : BufferType) (bufferId : Nat) : OmxCodecBuffer :=
  ⟨bufferId, 0, 0, bufferType, 5, FD_SIZE, 4096, 0, 0, -1, 1, 0, 0⟩

def useAndFree : List NodeStep :=
  [.useBuffer (bufferOf .avshareMemFd 0) true ⟨OMX_ErrorNone, 64, ⟨1, 4096, 0, 0, 0, 0⟩⟩, .freeBuffer (bufferOf .avshareMemFd 1) 0]

theorem useAndFree_registered : Takes (ComponentNode.step 56) (ComponentNode.Sound 56) (.new true) useAndFree :=
  (buffers_registered_iff (by decide)).mpr ⟨fun _ _ _ _ _ => ⟨1, by decide, by decide, nofun⟩, trivial, trivial⟩

/-- A dynamic handle is refused by OMX, and the header that is null is read. -/
theorem refused_handle_crashes : ∃ run, Takes (ComponentNode.step 56) ComponentNode.Possible (.new true) run ∧
      ¬ Takes (ComponentNode.step 56) (ComponentNode.Sound 56) (.new true) run :=
  ⟨[.useBuffer (bufferOf .dynamicHandle 0) false ⟨0x80001000, 0, ⟨0, 0, 0, 0, 0, 0⟩⟩], by decide,
    fun sound => absurd sound.1.returns (by decide)⟩

end Peripheral.Codec
