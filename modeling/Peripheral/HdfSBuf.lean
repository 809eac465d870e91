import Peripheral.RemoteCalls

/-!
`HdfSBuf`, the message buffer of the driver framework, as a queue of typed values: a read
gives the value in front if it has the type asked for and fails otherwise. The codec
services return the same code for every value that they cannot read.
-/
namespace Peripheral.Hdf

open RemoteCalls

def HDF_SUCCESS : Int32 := 0
def HDF_FAILURE : Int32 := -1
def HDF_ERR_INVALID_PARAM : Int32 := -3
def HDF_ERR_MALLOC_FAIL : Int32 := -6

/-- An object that calls can be sent to. -/
abbrev Remote := Nat

/-- One value of an `HdfSBuf`. -/
inductive Value
  | interfaceToken (desc : String)
  | int8 (v : Int8)
  | uint8 (v : UInt8)
  | int32 (v : Int32)
  | uint32 (v : UInt32)
  | int64 (v : Int64)
  | uint64 (v : UInt64)
  | string (v : String)
  | buffer (bytes : List UInt8)
  | unpadBuffer (bytes : List UInt8)
  | fileDescriptor (fd : Int32)
  | remoteService (remote : Remote)
  deriving DecidableEq

abbrev HdfSBuf := List Value

structure SizedArray (α : Type) where
  len : UInt32
  elems : Vector α len.toNat
  deriving DecidableEq

variable {α : Type}

def take (asked : Value → Option α) : Reader Value Int32 α
  | [] => .error HDF_ERR_INVALID_PARAM []
  | value :: behind =>
    match asked value with
    | some a => .ok a behind
    | none => .error HDF_ERR_INVALID_PARAM (value :: behind)

def readInt8 : Reader Value Int32 Int8 := take fun
  | .int8 v => some v
  | _ => none

def readUint8 : Reader Value Int32 UInt8 := take fun
  | .uint8 v => some v
  | _ => none

def readInt32 : Reader Value Int32 Int32 := take fun
  | .int32 v => some v
  | _ => none

def readUint32 : Reader Value Int32 UInt32 := take fun
  | .uint32 v => some v
  | _ => none

def readInt64 : Reader Value Int32 Int64 := take fun
  | .int64 v => some v
  | _ => none

def readUint64 : Reader Value Int32 UInt64 := take fun
  | .uint64 v => some v
  | _ => none

def readString : Reader Value Int32 String := take fun
  | .string v => some v
  | _ => none

/-- `HdfSbufReadBuffer`. -/
def readBuffer : Reader Value Int32 (List UInt8) := take fun
  | .buffer bytes => some bytes
  | _ => none

/-- `HdfSbufReadUnpadBuffer`: the memory of an object of `size` bytes. -/
def readUnpadBuffer (size : Nat) : Reader Value Int32 (Vector UInt8 size) := take fun
  | .unpadBuffer bytes => if sized : bytes.length = size then some ⟨bytes.toArray, sized⟩ else none
  | _ => none

/-- `HdfSbufReadFileDescriptor`, after which every caller looks for a negative number. -/
def readFileDescriptor : Reader Value Int32 { fd : Int32 // 0 ≤ fd } := take fun
  | .fileDescriptor fd => if descriptor : 0 ≤ fd then some ⟨fd, descriptor⟩ else none
  | _ => none

def readRemoteService : Reader Value Int32 Remote := take fun
  | .remoteService remote => some remote
  | _ => none

/-- `HdfDeviceObjectCheckInterfaceDesc` and `HdfRemoteServiceCheckInterfaceToken`. -/
def checkInterfaceToken (desc : String) : Reader Value Int32 Unit := take fun
  | .interfaceToken sent => if sent = desc then some () else none
  | _ => none

/-- Memory for `size` elements, or the code to return without it. -/
def allocate (osalMemCalloc : UInt32 → Bool) (code : Int32) (size : UInt32) : Reader Value Int32 Unit :=
  if osalMemCalloc size then pure () else throw code

theorem delivers_take {asked : Value → Option α} {value : Value} {a : α} (given : asked value = some a) :
    Delivers [value] (take asked) a := by
  intro behind
  simp only [EStateM.run, List.cons_append, List.nil_append, take, given]

theorem fails_take {asked : Value → Option α} {value : Value} {rest : HdfSBuf} (refused : asked value = none) :
    Fails (value :: rest) (take asked) HDF_ERR_INVALID_PARAM := by
  intro behind
  refine ⟨value :: (rest ++ behind), ?_⟩
  simp only [EStateM.run, List.cons_append, take, refused]

theorem delivers_unpadBuffer {size : Nat} (object : Vector UInt8 size) :
    Delivers [.unpadBuffer object.toList] (readUnpadBuffer size) object :=
  delivers_take (by simp [Vector.toList])

theorem delivers_fileDescriptor (fd : { fd : Int32 // 0 ≤ fd }) : Delivers [.fileDescriptor fd] readFileDescriptor fd :=
  delivers_take (by simp [fd.property])

theorem delivers_token (desc : String) : Delivers [.interfaceToken desc] (checkInterfaceToken desc) () :=
  delivers_take (by simp)

theorem allocate_of {osalMemCalloc : UInt32 → Bool} {code : Int32} {size : UInt32} (given : osalMemCalloc size = true) :
    allocate osalMemCalloc code size = pure () :=
  if_pos given

end Peripheral.Hdf
