import Peripheral.OmxBuffers

/-!
Input for an OMX component, `EmptyThisBuffer` of `component_node.cpp`. The bytes are
copied from the shared memory of the client to where its offset points in the buffer
that the component allocated. What shared memory, the copy and OMX do is given.
-/
namespace Peripheral.Codec

def OMX_ErrorBadParameter : Nat := 0x80001005

/-- A header in the memory of the component, with the bytes from `pBuffer` on: only `nAllocLen` of them were allocated for it. -/
structure InputHeader where
  header : BufferHeader
  pBuffer : Nat → UInt8

/-- What `memcpy_s` does: it copies, or it refuses and clears that many bytes. -/
inductive CopyOutcome
  | copied
  | refused (cleared : Nat)
  deriving DecidableEq

/-- `ReadFromAshmem` by size and offset, `memcpy_s` by the size of the destination and the count, and the result of
    `OMX_EmptyThisBuffer`. -/
structure InputLibraries where
  readFromAshmem : Nat → Nat → Option (Nat → UInt8)
  memcpyS : Nat → Nat → CopyOutcome
  omxEmptyThisBuffer : BufferHeader → Nat

structure InputLibraries.Keep (lib : InputLibraries) (sharedLen : Nat) : Prop where
  inside : ∀ size offset, (lib.readFromAshmem size offset).isSome = true → offset + size ≤ sharedLen
  fits : ∀ destMax count, lib.memcpyS destMax count = .copied → count ≤ destMax ∧ destMax < 2 ^ 31
  clears : ∀ destMax count cleared, lib.memcpyS destMax count = .refused cleared → cleared ≤ count

/-- What a call leaves. `written` has the first position and the number of the bytes that were written behind `pBuffer`, `emptied`
    the header that was handed to OMX. -/
structure EmptyResult where
  err : Nat
  buffer : OmxCodecBuffer
  memory : Nat → InputHeader
  written : Nat × Nat
  emptied : Option BufferHeader

/-- What `EmptySharedBuffer` leaves. -/
structure SharedCopy where
  err : Nat
  pBuffer : Nat → UInt8
  written : Nat × Nat

def writeBytes (pBuffer : Nat → UInt8) (first count : Nat) (source : Nat → UInt8) : Nat → UInt8 :=
  fun position => if first ≤ position ∧ position < first + count then source (position - first) else pBuffer position

/-- The difference of two `uint32_t`, as a size. -/
def destMax (buffer : OmxCodecBuffer) : Nat := (UInt32.ofNat buffer.allocLen - UInt32.ofNat buffer.offset).toNat

/-- The bound for the copy is computed from what the client says. -/
def emptySharedBuffer (lib : InputLibraries) (memory : InputHeader) (buffer : OmxCodecBuffer) : SharedCopy :=
  match lib.readFromAshmem buffer.filledLen buffer.offset with
  | none => ⟨OMX_ErrorUndefined, memory.pBuffer, (buffer.offset, 0)⟩
  | some sharedPtr =>
    match lib.memcpyS (destMax buffer) buffer.filledLen with
    | .refused cleared =>
      ⟨OMX_ErrorUndefined, writeBytes memory.pBuffer buffer.offset cleared fun _ => 0, (buffer.offset, cleared)⟩
    | .copied =>
      ⟨OMX_ErrorNone, writeBytes memory.pBuffer buffer.offset buffer.filledLen sharedPtr, (buffer.offset, buffer.filledLen)⟩

namespace ComponentNode

def emptyThisBuffer (n : ComponentNode) (lib : InputLibraries) (memory : Nat → InputHeader) (buffer : OmxCodecBuffer) :
    EmptyResult :=
  if !n.comp then ⟨OMX_ErrorInvalidComponent, buffer, memory, (0, 0), none⟩
  else
    let buffer := checkBuffer buffer
    match n.getBufferById buffer.bufferId with
    | none => ⟨OMX_ErrorUndefined, buffer, memory, (0, 0), none⟩
    | some (info, address) =>
      let bytes := (memory address).pBuffer
      let copy : SharedCopy :=
        match info.omxCodecBuffer.bufferType with
        | .avshareMemFd => emptySharedBuffer lib (memory address) buffer
        | .handle => ⟨OMX_ErrorBadParameter, bytes, (0, 0)⟩
        | .dynamicHandle => ⟨OMX_ErrorNone, bytes, (0, 0)⟩
        | .invalid | .virtualAddr | .other _ => ⟨OMX_ErrorUndefined, bytes, (0, 0)⟩
      if copy.err = OMX_ErrorNone then
        let header :=
          { (memory address).header with nOffset := buffer.offset, nFilledLen := buffer.filledLen, nFlags := buffer.flag }
        ⟨lib.omxEmptyThisBuffer header, buffer, Function.update memory address ⟨header, copy.pBuffer⟩, copy.written, some header⟩
      else ⟨copy.err, buffer, Function.update memory address ⟨(memory address).header, copy.pBuffer⟩, copy.written, none⟩

end ComponentNode

/-- What is written is part of what the client names and of what was allocated, and so is what OMX is told. -/
structure EmptyResult.InBounds (r : EmptyResult) (buffer : OmxCodecBuffer) (nAllocLen : Nat) : Prop where
  written : ∀ position, r.written.1 ≤ position → position < r.written.1 + r.written.2 →
    buffer.offset ≤ position ∧ position < buffer.offset + buffer.filledLen ∧ position < nAllocLen
  lengths : ∀ header ∈ r.emptied, header.nOffset + header.nFilledLen ≤ nAllocLen

/-- What is copied lies in the buffer, or what is cleared instead. -/
def CopyOutcome.Lies (buffer : OmxCodecBuffer) (nAllocLen : Nat) : CopyOutcome → Prop
  | .copied => buffer.offset + buffer.filledLen ≤ nAllocLen
  | .refused cleared => cleared = 0 ∨ buffer.offset + cleared ≤ nAllocLen

instance (buffer : OmxCodecBuffer) (nAllocLen : Nat) : (outcome : CopyOutcome) → Decidable (outcome.Lies buffer nAllocLen)
  | .copied => inferInstanceAs (Decidable (buffer.offset + buffer.filledLen ≤ nAllocLen))
  | .refused cleared => inferInstanceAs (Decidable (cleared = 0 ∨ buffer.offset + cleared ≤ nAllocLen))

/-- If there is something to read, it is copied within the buffer. -/
def InputFits (lib : InputLibraries) (buffer : OmxCodecBuffer) (nAllocLen : Nat) : Prop :=
  (lib.readFromAshmem buffer.filledLen buffer.offset).isSome = true →
    (lib.memcpyS (destMax buffer) buffer.filledLen).Lies buffer nAllocLen

section
variable {lib : InputLibraries} {memory : Nat → InputHeader} {buffer : OmxCodecBuffer} {n : ComponentNode} {info : BufferInfo}
  {address sharedLen : Nat}

theorem checkBuffer_eq (buffer : OmxCodecBuffer) :
    ∃ fd length, ComponentNode.checkBuffer buffer = { buffer with buffer := fd, bufferLen := length } := by
  rw [ComponentNode.checkBuffer]
  split
  · exact ⟨0, 0, rfl⟩
  · exact ⟨buffer.buffer, buffer.bufferLen, rfl⟩

theorem emptyThisBuffer_shared (comp : n.comp = true) (found : n.getBufferById buffer.bufferId = some (info, address))
    (shared : info.omxCodecBuffer.bufferType = .avshareMemFd) :
    (n.emptyThisBuffer lib memory buffer).written = (emptySharedBuffer lib (memory address) buffer).written ∧
      (n.emptyThisBuffer lib memory buffer).emptied =
        if (emptySharedBuffer lib (memory address) buffer).err = OMX_ErrorNone then
          some { (memory address).header with nOffset := buffer.offset, nFilledLen := buffer.filledLen, nFlags := buffer.flag }
        else none := by
  obtain ⟨fd, length, checked⟩ := checkBuffer_eq buffer
  have same : emptySharedBuffer lib (memory address) { buffer with buffer := fd, bufferLen := length } =
      emptySharedBuffer lib (memory address) buffer := rfl
  simp only [ComponentNode.emptyThisBuffer, comp, Bool.not_true, checked, found, shared, same, Bool.false_eq_true, if_false]
  split <;> exact ⟨rfl, rfl⟩

/-- Input is copied within the buffer exactly if it fits there. -/
theorem emptied_inBounds_iff (keep : lib.Keep sharedLen) (comp : n.comp = true)
    (found : n.getBufferById buffer.bufferId = some (info, address)) (shared : info.omxCodecBuffer.bufferType = .avshareMemFd) :
    (n.emptyThisBuffer lib memory buffer).InBounds buffer (memory address).header.nAllocLen ↔
      InputFits lib buffer (memory address).header.nAllocLen := by
  obtain ⟨written, emptied⟩ := @emptyThisBuffer_shared lib memory buffer n info address comp found shared
  constructor
  · rintro ⟨within, lengths⟩ reads
    rw [written] at within
    rw [emptied] at lengths
    obtain ⟨sharedPtr, read⟩ := Option.isSome_iff_exists.mp reads
    cases copy : lib.memcpyS (destMax buffer) buffer.filledLen with
    | copied =>
      simp only [emptySharedBuffer, read, copy, if_true] at lengths
      exact lengths _ rfl
    | refused cleared =>
      simp only [emptySharedBuffer, read, copy] at within
      show cleared = 0 ∨ buffer.offset + cleared ≤ (memory address).header.nAllocLen
      by_cases none : cleared = 0
      · exact .inl none
      · have last := (within (buffer.offset + (cleared - 1)) (by omega) (by omega)).2.2
        exact .inr (by omega)
  · intro fits
    constructor
    · rw [written]
      intro position behind before
      cases read : lib.readFromAshmem buffer.filledLen buffer.offset with
      | none =>
        simp only [emptySharedBuffer, read] at behind before
        omega
      | some sharedPtr =>
        have fits := fits (by simp [read])
        cases copy : lib.memcpyS (destMax buffer) buffer.filledLen with
        | copied =>
          simp only [emptySharedBuffer, read, copy, CopyOutcome.Lies] at behind before fits
          omega
        | refused cleared =>
          have few := keep.clears _ _ _ copy
          simp only [emptySharedBuffer, read, copy, CopyOutcome.Lies] at behind before fits
          omega
    · rw [emptied]
      intro header handed
      cases read : lib.readFromAshmem buffer.filledLen buffer.offset with
      | none => simp [emptySharedBuffer, read, OMX_ErrorUndefined, OMX_ErrorNone] at handed
      | some sharedPtr =>
        have fits := fits (by simp [read])
        cases copy : lib.memcpyS (destMax buffer) buffer.filledLen with
        | copied =>
          simp only [emptySharedBuffer, read, copy, if_true, Option.mem_def, Option.some.injEq] at handed
          rw [copy] at fits
          rw [← handed]
          exact fits
        | refused cleared => simp [emptySharedBuffer, read, copy, OMX_ErrorUndefined, OMX_ErrorNone] at handed

end

/-- Shared memory of 100 bytes, and a copy that clears the destination where the count is larger. -/
def ashmem100 : InputLibraries where
  readFromAshmem size offset := if offset + size ≤ 100 then some fun position => UInt8.ofNat (offset + position) else none
  memcpyS destMax count :=
    if destMax = 0 ∨ 2 ^ 31 ≤ destMax then .refused 0 else if destMax < count then .refused destMax else .copied
  omxEmptyThisBuffer _ := OMX_ErrorNone

theorem ashmem100_keep : ashmem100.Keep 100 := by
  constructor
  · intro size offset reads
    simp only [ashmem100] at reads
    split at reads
    · assumption
    · cases reads
  · intro destMax count copied
    simp only [ashmem100] at copied
    split at copied
    · cases copied
    split at copied
    · cases copied
    · omega
  · intro destMax count cleared refused
    simp only [ashmem100] at refused
    split at refused
    · cases refused
      omega
    split at refused
    · cases refused
      omega
    · cases refused

def sharedNode : ComponentNode :=
  ((ComponentNode.new true).useBuffer 56 (bufferOf .avshareMemFd 0) true ⟨OMX_ErrorNone, 64, ⟨1, 16, 0, 0, 0, 0⟩⟩).node

def sharedMemory : Nat → InputHeader := fun _ => ⟨⟨1, 16, 0, 0, 0, 0⟩, fun _ => 0⟩

def inputOf (allocLen filledLen offset : Nat) : OmxCodecBuffer :=
  { bufferOf .avshareMemFd 1 with buffer := 0, bufferLen := 0, allocLen := allocLen, filledLen := filledLen, offset := offset }

theorem half_inBounds : (sharedNode.emptyThisBuffer ashmem100 sharedMemory (inputOf 16 8 8)).InBounds (inputOf 16 8 8) 16 :=
  (emptied_inBounds_iff ashmem100_keep rfl rfl rfl).mpr (fun _ => by decide)

/-- The client says that 100 bytes were allocated. -/
theorem inflated_not_inBounds :
    ¬ (sharedNode.emptyThisBuffer ashmem100 sharedMemory (inputOf 100 100 0)).InBounds (inputOf 100 100 0) 16 := by
  intro inBounds
  exact absurd (inBounds.written 99 (by decide) (by decide)).2.2 (by decide)

end Peripheral.Codec
