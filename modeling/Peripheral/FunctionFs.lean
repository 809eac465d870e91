import Peripheral.Faults
import Peripheral.Formats

/-!
What is written to endpoint zero of a FunctionFS gadget, from `adapter_if.c`: the descriptors and the strings of a function,
each as one block of memory. A first pass counts and sums lengths, and a second one copies. The machine has its lowest byte
first, as the format has.
-/
namespace Peripheral.FunctionFs
open Faults Formats

def FUNCTIONFS_DESCRIPTORS_MAGIC_V2 : UInt32 := 3
def FUNCTIONFS_STRINGS_MAGIC : UInt32 := 2
def FUNCTIONFS_HAS_FS_DESC : UInt32 := 1
def FUNCTIONFS_HAS_HS_DESC : UInt32 := 2
def FUNCTIONFS_HAS_SS_DESC : UInt32 := 4

/-- No function of the bounds-checked library takes more. -/
def SECUREC_MEM_MAX_LEN : Nat := 0x7fffffff

/-- The values of `size_t`. -/
def SIZE_COUNT : Nat := 0x10000000000000000

structure UsbDescriptorHeader where
  bLength : UInt8
  rest : List UInt8
  holds : bLength.toNat ≤ rest.length + 1

def UsbDescriptorHeader.bytes (d : UsbDescriptorHeader) : List UInt8 := (d.bLength :: d.rest).take d.bLength.toNat

structure CString where
  bytes : List UInt8
  visible : ∀ c ∈ bytes, c ≠ 0

structure UsbFnStrings where
  language : UInt16
  strings : List CString

structure UsbFnFunction where
  fsDescriptors : List UsbDescriptorHeader
  hsDescriptors : List UsbDescriptorHeader
  ssDescriptors : List UsbDescriptorHeader
  strings : List UsbFnStrings

structure UsbFunctionfsDescsHeadV2 where
  magic : UInt32
  length : UInt32
  flags : UInt32

structure UsbFunctionfsStringsHead where
  magic : UInt32
  length : UInt32
  strCount : UInt32
  langCount : UInt32

def UsbFunctionfsDescsHeadV2.bytes (header : UsbFunctionfsDescsHeadV2) : List UInt8 :=
  word 4 header.magic.toNat ++ word 4 header.length.toNat ++ word 4 header.flags.toNat

def UsbFunctionfsStringsHead.bytes (header : UsbFunctionfsStringsHead) : List UInt8 :=
  word 4 header.magic.toNat ++ word 4 header.length.toNat ++ word 4 header.strCount.toNat ++ word 4 header.langCount.toNat

/-- How many blocks are not freed, the block that is being filled, and what was written to the endpoint. Of the block, the
    bytes before `whereDec` are kept; those behind it are still zero. -/
structure State where
  blocks : Nat
  size : Nat
  passed : List UInt8
  written : List (List UInt8)

def State.block (s : State) : List UInt8 := (s.passed ++ List.replicate (s.size - s.passed.length) 0).take s.size

inductive Fault
  | outside
  | null
  /-- A loop does not end. -/
  | endless
  deriving DecidableEq

inductive Ret
  | success
  | failure
  | mallocFail
  | io
  deriving DecidableEq

abbrev Io := Prog Fault Ret State

namespace State

variable (s : State)

def take (size : Nat) : State := { s with blocks := s.blocks + 1, size := size, passed := [] }
def free : State := { s with blocks := s.blocks - 1 }
def pass (src : List UInt8) : State := { s with passed := s.passed ++ src }
def send : State := { s with written := s.written ++ [s.block] }

end State

/-- The block that it takes is all zero. -/
def usbFnMemCalloc (size : UInt32) (there : Bool) : Io Bool := do
  if !there || size == 0 || SECUREC_MEM_MAX_LEN < size.toNat then pure false
  else
    modify (·.take size.toNat)
    pure true

def usbFnMemFree : Io Unit := modify (·.free)

/-- Copies to `whereDec`, and moves it on. -/
def memcpyS (destMax : Nat) (src : List UInt8) : Io Bool := do
  let s ← get
  if destMax = 0 ∨ SECUREC_MEM_MAX_LEN < destMax ∨ destMax < src.length then pure false
  else if s.size < s.passed.length + src.length then goWrong .outside
  else
    set (s.pass src)
    pure true

def writeEp0 (succeeds : Bool) : Io Bool := do
  if succeeds then
    modify (·.send)
    pure true
  else pure false

/-- What `GetHeaderStr` has counted. -/
structure Counts where
  langCount : UInt32
  strCount : UInt32
  len : UInt32

def countLanguage (c : Counts) (l : UsbFnStrings) : Counts :=
  ⟨c.langCount + 1, UInt32.ofNat l.strings.length, l.strings.foldl (fun len s => len + (UInt32.ofNat s.bytes.length + 1)) c.len⟩

def Counts.header (c : Counts) : UsbFunctionfsStringsHead :=
  ⟨FUNCTIONFS_STRINGS_MAGIC, 16 + c.langCount * 2 + c.len, c.strCount, c.langCount⟩

/-- The count of strings has no value before the first language. -/
def headerOf (noValue : UInt32) (strings : List UsbFnStrings) : UsbFunctionfsStringsHead :=
  (strings.foldl countLanguage ⟨0, noValue, 0⟩).header

/-- The counters are too narrow to get past an array of 2³² entries. -/
def getHeaderStr (noValue : UInt32) (strings : List UsbFnStrings) : Io UsbFunctionfsStringsHead := do
  if UInt32.size ≤ strings.length ∨ ∃ l ∈ strings, UInt32.size ≤ l.strings.length then goWrong .endless
  else pure (headerOf noValue strings)

/-- What is left of the block behind `whereDec`, as a `size_t`. -/
def State.left (s : State) : Nat := (s.size + SIZE_COUNT - s.passed.length) % SIZE_COUNT

/-- The strings of one language. After the last one comes a null pointer. -/
def writeLanguage : (strCount : Nat) → List CString → Io Bool
  | 0, _ => pure true
  | _ + 1, [] => goWrong .null
  | j + 1, s :: strings => do
    if s.bytes = [] then pure true
    else if !(← memcpyS (← get).left s.bytes) then pure false
    else
      modify (·.pass [0])
      writeLanguage j strings

def writeLanguages (strCount : Nat) : List UsbFnStrings → Io Bool
  | [] => pure true
  | l :: strings => do
    if !(← memcpyS (← get).left (word 2 l.language.toNat)) then pure false
    else if !(← writeLanguage strCount l.strings) then pure false
    else writeLanguages strCount strings

/-- Whether there is memory, and whether `write` succeeds. -/
structure Answers where
  block : Bool
  write : Bool

def usbFnWriteStrings (noValue : UInt32) (o : Answers) (strings : List UsbFnStrings) : Io Ret := do
  let headerStr ← getHeaderStr noValue strings
  if !(← usbFnMemCalloc headerStr.length o.block) then pure .mallocFail
  else if !(← memcpyS headerStr.length.toNat headerStr.bytes) then
    usbFnMemFree
    pure .failure
  else if !(← writeLanguages headerStr.strCount.toNat strings) then
    usbFnMemFree
    pure .failure
  else if !(← writeEp0 o.write) then
    usbFnMemFree
    pure .failure
  else
    usbFnMemFree
    pure .success

def copyCountOf (count : UInt32) : Io Bool :=
  if count = 0 then pure true else memcpyS 4 (word 4 count.toNat)

def copyCount (fsCount hsCount ssCount : UInt32) : Io Bool := do
  if !(← copyCountOf fsCount) then pure false
  else if !(← copyCountOf hsCount) then pure false
  else copyCountOf ssCount

def writeFuncDescriptors : List UsbDescriptorHeader → Io Bool
  | [] => pure true
  | d :: headDes => do
    if !(← memcpyS d.bLength.toNat d.bytes) then pure false
    else writeFuncDescriptors headDes

def count (descriptors : List UsbDescriptorHeader) : UInt32 := descriptors.foldl (fun n _ => n + 1) 0

def sumLengths (lenDes : UInt32) (descriptors : List UsbDescriptorHeader) : UInt32 :=
  descriptors.foldl (fun len d => len + d.bLength.toUInt32) lenDes

/-- What the descriptors of one speed add to the length of the counts and to the flags. -/
def speedFlag (count flag : UInt32) : UInt32 × UInt32 := if count = 0 then (0, 0) else (4, flag)

/-- The header, from the counts and lengths of the descriptors. -/
def getCountAndHead (func : UsbFnFunction) : UsbFunctionfsDescsHeadV2 :=
  let lenDes := sumLengths (sumLengths (sumLengths 0 func.fsDescriptors) func.hsDescriptors) func.ssDescriptors
  let fs := speedFlag (count func.fsDescriptors) FUNCTIONFS_HAS_FS_DESC
  let hs := speedFlag (count func.hsDescriptors) FUNCTIONFS_HAS_HS_DESC
  let ss := speedFlag (count func.ssDescriptors) FUNCTIONFS_HAS_SS_DESC
  ⟨FUNCTIONFS_DESCRIPTORS_MAGIC_V2, 12 + (fs.1 + hs.1 + ss.1) + lenDes, fs.2 ||| hs.2 ||| ss.2⟩

/-- The block is not freed where a copy fails. -/
def usbFnAdapterCreatPipes (noValue : UInt32) (o : Answers) (more : Answers) (func : UsbFnFunction) : Io Ret := do
  let header := getCountAndHead func
  if !(← usbFnMemCalloc header.length o.block) then pure .mallocFail
  else if !(← memcpyS header.length.toNat header.bytes) then pure .failure
  else if !(← copyCount (count func.fsDescriptors) (count func.hsDescriptors) (count func.ssDescriptors)) then pure .failure
  else if !(← writeFuncDescriptors func.fsDescriptors) then pure .failure
  else if !(← writeFuncDescriptors func.hsDescriptors) then pure .failure
  else if !(← writeFuncDescriptors func.ssDescriptors) then pure .failure
  else if !(← writeEp0 o.write) then
    usbFnMemFree
    pure .io
  else
    usbFnMemFree
    usbFnWriteStrings noValue more func.strings

section
variable {ends : Ends Fault Ret State Bool} {s : State} {destMax : Nat} {src : List UInt8}

theorem needs_memcpyS : Needs (memcpyS destMax src) ends s ↔
    if destMax = 0 ∨ SECUREC_MEM_MAX_LEN < destMax ∨ destMax < src.length then ends.last false s
    else if s.size < s.passed.length + src.length then ends.wrong .outside s else ends.last true (s.pass src) := by
  simp only [memcpyS, needs_bind, needs_get, before_last, needs_ite, needs_pure, needs_goWrong, needs_set]

theorem needs_usbFnMemCalloc {size : UInt32} {there : Bool} : Needs (usbFnMemCalloc size there) ends s ↔
    if !there || size == 0 || SECUREC_MEM_MAX_LEN < size.toNat then ends.last false s else ends.last true (s.take size.toNat) := by
  simp only [usbFnMemCalloc, needs_bind, needs_modify, before_last, needs_ite, needs_pure]

theorem needs_writeEp0 {succeeds : Bool} : Needs (writeEp0 succeeds) ends s ↔
    if succeeds then ends.last true s.send else ends.last false s := by
  simp only [writeEp0, needs_bind, needs_modify, before_last, needs_ite, needs_pure]

end

theorem block_full {s : State} (full : s.passed.length = s.size) : s.block = s.passed := by
  rw [State.block, full, Nat.sub_self, List.replicate_zero, List.append_nil, ← full, List.take_length]

theorem length_block (s : State) : s.block.length = s.size := by
  rw [State.block, List.length_take, List.length_append, List.length_replicate]
  omega

@[simp] theorem pass_pass (s : State) (a b : List UInt8) : (s.pass a).pass b = s.pass (a ++ b) := by
  simp [State.pass]

@[simp] theorem pass_size (s : State) (a : List UInt8) : (s.pass a).size = s.size := rfl

@[simp] theorem pass_passed (s : State) (a : List UInt8) : (s.pass a).passed = s.passed ++ a := rfl

end Peripheral.FunctionFs
