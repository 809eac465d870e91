import Peripheral.Bytes

/-!
The camera metadata operations of `camera_metadata_operator.cpp` and the
`CameraMetadata` object of `camera_metadata_info.cpp`, on the bytes of the
buffer itself. A buffer is one block: the header of eight 32-bit fields, the
array of 16-byte entries at `items_start`, the data area at `data_start`. An
operation has no result when it reads or writes outside its block.

Pointers into the buffer are offsets from its header. 32-bit fields are numbers
below 2^32 by the way they are stored; `size_t` is 64 bits wide.
-/
namespace Peripheral.Metadata
open Peripheral.Bytes

/-! ### The C types and the secure copies -/

/-- Subtraction of `uint32_t` values. -/
def sub32 (x y : Nat) : Nat := (2^32 - y % 2^32 + x) % 2^32
/-- Subtraction of `size_t` values. -/
def sub64 (x y : Nat) : Nat := (2^64 - y % 2^64 + x) % 2^64

def securecMemMaxLen : Nat := 0x7fffffff
/-- Whether `memcpy_s` and `memmove_s` return `EOK`; otherwise they write nothing. -/
def securecOk (destMax count : Nat) : Bool := 0 < destMax && destMax ≤ securecMemMaxLen && count ≤ destMax

/-- The `CAM_META_*` return codes. -/
inductive Ret
  | success | failure | invalidParam | itemNotFound | itemCapExceed | dataCapExceed
  deriving DecidableEq

/-- `sizeof(common_metadata_header_t)`. -/
def headerLength : Nat := 32
/-- `sizeof(camera_metadata_item_entry_t)`. -/
def itemLen : Nat := 16
/-- `offsetof(camera_metadata_item_entry_t, data)`. -/
def itemFixedLen : Nat := 12

def versionAt : Nat := 0
def sizeAt : Nat := 4
def itemCountAt : Nat := 8
def itemCapacityAt : Nat := 12
def itemsStartAt : Nat := 16
def dataCountAt : Nat := 20
def dataCapacityAt : Nat := 24
def dataStartAt : Nat := 28

def itemAlignment : Nat := 4
def dataAlignment : Nat := 8
def metadataAlignment : Nat := 4
def indexCounter : Nat := 2

def alignTo (val alignment : Nat) : Nat :=
  ((val % 2^32 + (alignment - 1)) &&& (2^32 - 1 - (alignment - 1))) % 2^32

def maxAlignment (dataAlignment metadataAlignment : Nat) : Nat :=
  if dataAlignment > metadataAlignment then dataAlignment else metadataAlignment

def metadataPacketAlignment : Nat := maxAlignment (maxAlignment dataAlignment metadataAlignment) itemAlignment

def calculateCameraMetadataMemoryRequired (itemCount dataCount : Nat) : Nat :=
  let memoryRequired := alignTo headerLength itemAlignment
  let memoryRequired := alignTo (memoryRequired + itemLen * itemCount) dataAlignment
  alignTo (memoryRequired + dataCount) metadataPacketAlignment

def fillCameraMetadata (buffer : Block) (memoryRequired itemCapacity dataCapacity : Nat) : Option Block := do
  let buffer ← buffer.write32 versionAt 1
  let buffer ← buffer.write32 sizeAt memoryRequired
  let buffer ← buffer.write32 itemCountAt 0
  let buffer ← buffer.write32 itemCapacityAt itemCapacity
  let buffer ← buffer.write32 itemsStartAt (alignTo headerLength itemAlignment)
  let buffer ← buffer.write32 dataCountAt 0
  let buffer ← buffer.write32 dataCapacityAt dataCapacity
  let itemsStart ← buffer.read32 itemsStartAt
  let capacity ← buffer.read32 itemCapacityAt
  buffer.write32 dataStartAt (alignTo (itemsStart + itemLen * capacity) dataAlignment)

/-- `calloc` is taken to succeed. -/
def allocateCameraMetadataBuffer (itemCapacity dataCapacity : Nat) : Option Block :=
  let memoryRequired := calculateCameraMetadataMemoryRequired itemCapacity dataCapacity
  fillCameraMetadata (Block.zeroed memoryRequired) memoryRequired itemCapacity dataCapacity

/-- The data types of `camera_metadata_operator.h`. -/
inductive MetaType
  | byte | int32 | uint32 | float | int64 | double | rational
  deriving DecidableEq

/-- The number a data type is stored as. -/
def MetaType.code : MetaType → Nat
  | .byte => 0 | .int32 => 1 | .uint32 => 2 | .float => 3 | .int64 => 4 | .double => 5 | .rational => 6

/-- `OHOS_CAMERA_METADATA_TYPE_SIZE`; an index past its end has no element. -/
def ohosCameraMetadataTypeSize (dataType : Nat) : Option Nat := [1, 4, 4, 4, 8, 8, 8][dataType]?

/-- The sections with item tables, `camera_metadata_sec`. -/
inductive MetadataSection
  | cameraProperties | cameraSensor | cameraSensorInfo | cameraStatistics | cameraControl | deviceExposure
  | deviceFocus | deviceFlash | deviceZoom | streamAbility | streamJpeg
  deriving DecidableEq

def ohosAbilitySectionEnd : Nat := 0x3008

def getMetadataSection (itemSection : Nat) : Option MetadataSection :=
  if itemSection ≥ ohosAbilitySectionEnd then none
  else if itemSection = 0 then some .cameraProperties
  else if itemSection = 2 then some .cameraSensor
  else if itemSection = 3 then some .cameraSensorInfo
  else if itemSection = 4 then some .cameraStatistics
  else if itemSection = 0x1000 then some .cameraControl
  else if itemSection = 0x1001 then some .deviceExposure
  else if itemSection = 0x1002 then some .deviceFocus
  else if itemSection = 0x1004 then some .deviceFlash
  else if itemSection = 0x1005 then some .deviceZoom
  else if itemSection = 0x3000 then some .streamAbility
  else if itemSection = 0x3002 then some .streamJpeg
  else none

/-- The types of the items of a section, in the order of their tags: `g_ohosItemInfo`. -/
def ohosItemInfo : MetadataSection → List MetaType
  | .cameraProperties => [.byte, .byte, .byte]
  | .cameraSensor => [.int64, .float, .int32]
  | .cameraSensorInfo => [.int32, .int32, .int64, .float, .int32]
  | .cameraStatistics => [.byte, .byte, .int32, .int32, .int32, .byte]
  | .cameraControl => [.byte, .int32, .byte, .byte, .int32, .int32, .byte, .int32, .byte, .int32, .byte, .byte, .byte,
      .int32, .byte, .byte, .int32, .int32, .rational, .byte, .byte, .byte, .byte]
  | .deviceExposure => [.byte, .byte]
  | .deviceFocus => [.byte, .byte]
  | .deviceFlash => [.byte, .byte, .byte]
  | .deviceZoom => [.float, .float, .int32, .int32, .int32]
  | .streamAbility => [.int32, .int32]
  | .streamJpeg => [.double, .byte, .int64, .int32, .byte, .byte, .int32, .int32, .int32, .int32]

/-- The tag that starts a section: `g_ohosCameraSectionBounds[section][0]`. -/
def sectionStart : MetadataSection → Nat
  | .cameraProperties => 0 <<< 16
  | .cameraSensor => 2 <<< 16
  | .cameraSensorInfo => 3 <<< 16
  | .cameraStatistics => 4 <<< 16
  | .cameraControl => 0x1000 <<< 16
  | .deviceExposure => 0x1001 <<< 16
  | .deviceFocus => 0x1002 <<< 16
  | .deviceFlash => 0x1004 <<< 16
  | .deviceZoom => 0x1005 <<< 16
  | .streamAbility => 0x3000 <<< 16
  | .streamJpeg => 0x3002 <<< 16

/-- `g_ohosCameraSectionBounds[section][1]`. -/
def sectionEnd (sec : MetadataSection) : Nat := sectionStart sec + (ohosItemInfo sec).length

/-- The type the tables give a tag, stored as its number; `none` is any other return code. -/
def getCameraMetadataItemType (item : Nat) : Option Nat :=
  match getMetadataSection (item >>> 16) with
  | none => none
  | some sec =>
    if item ≥ sectionEnd sec then none
    else ((ohosItemInfo sec)[item &&& 0xFFFF]?).map MetaType.code

def calculateCameraMetadataItemDataSize (type dataCount : Nat) : Nat :=
  match ohosCameraMetadataTypeSize type with
  | none => 0
  | some size =>
    let dataBytes := dataCount * size % 2^64
    if dataBytes ≤ 4 then 0 else alignTo dataBytes dataAlignment

/-- `GetMetadataItems(dst) + index`. -/
def getMetadataItems (dst : Block) (index : Nat) : Option Nat := do
  let itemsStart ← dst.read32 itemsStartAt
  return itemsStart + itemLen * index

/-- `GetMetadataData(dst)`. -/
def getMetadataData (dst : Block) : Option Nat := dst.read32 dataStartAt

/-- `dst->item_count++`. -/
def incItemCount (dst : Block) : Option Block := do
  let itemCount ← dst.read32 itemCountAt
  dst.write32 itemCountAt (itemCount + 1)

/-- `dst->data_count += dataBytes`. -/
def addDataCount (dst : Block) (dataBytes : Nat) : Option Block := do
  let dataCount ← dst.read32 dataCountAt
  dst.write32 dataCountAt (dataCount + dataBytes)

/-- `item->data.offset = dst->data_count`. -/
def placeAtEnd (dst : Block) (item : Nat) : Option Block := do
  let dataCount ← dst.read32 dataCountAt
  dst.write32 (item + itemFixedLen) dataCount

/-- `memcpy_s(item->data.value, n, data, n)`. -/
def copyToValue (dst : Block) (item n : Nat) (data : Mem) : Option (Ret × Block) :=
  if securecOk n n then do
    let dst ← dst.write (item + itemFixedLen) n data
    return (.success, dst)
  else some (.failure, dst)

/-- `memcpy_s(GetMetadataData(dst) + item->data.offset, n, data, n)`. -/
def copyToData (dst : Block) (item n : Nat) (data : Mem) : Option (Ret × Block) :=
  if securecOk n n then do
    let start ← getMetadataData dst
    let offset ← dst.read32 (item + itemFixedLen)
    let dst ← dst.write (start + offset) n data
    return (.success, dst)
  else some (.failure, dst)

/-- The rest of a function after a call whose return code other than success is returned at once. -/
def onSuccess (call : Option (Ret × Block)) (rest : Block → Option (Ret × Block)) : Option (Ret × Block) :=
  call.bind fun (ret, dst) => if ret = .success then rest dst else some (ret, dst)

def writeEntry (dst : Block) (metadataItem item dataType dataCount : Nat) : Option Block := do
  let dst ← dst.write metadataItem itemLen (fun _ => 0)
  let dst ← dst.write32 metadataItem item
  let dst ← dst.write32 (metadataItem + 4) dataType
  dst.write32 (metadataItem + 8) dataCount

/-- `data` is the memory the pointer points to, `none` for a null pointer. -/
def addCameraMetadataItem (dst : Block) (item : Nat) (data : Option Mem) (dataCount : Nat) :
    Option (Ret × Block) := do
  if dataCount = 0 then return (.invalidParam, dst)
  let some data := data | return (.invalidParam, dst)
  let itemCount ← dst.read32 itemCountAt
  let itemCapacity ← dst.read32 itemCapacityAt
  if itemCount = itemCapacity then return (.itemCapExceed, dst)
  let some dataType := getCameraMetadataItemType item | return (.invalidParam, dst)
  let dataBytes := calculateCameraMetadataItemDataSize dataType dataCount
  let dataUsed ← dst.read32 dataCountAt
  let dataCapacity ← dst.read32 dataCapacityAt
  if dataBytes + dataUsed > dataCapacity then return (.dataCapExceed, dst)
  let typeSize ← ohosCameraMetadataTypeSize dataType
  let dataPayloadBytes := dataCount * typeSize % 2^64
  let metadataItem ← getMetadataItems dst itemCount
  let dst ← writeEntry dst metadataItem item dataType dataCount
  if dataBytes = 0 then
    onSuccess (copyToValue dst metadataItem dataPayloadBytes data) fun dst => do
      let dst ← incItemCount dst
      return (.success, dst)
  else
    let dst ← placeAtEnd dst metadataItem
    onSuccess (copyToData dst metadataItem dataPayloadBytes data) fun dst => do
      let dst ← addDataCount dst dataBytes
      let dst ← incItemCount dst
      return (.success, dst)

/-- `camera_metadata_item_t`; `data` is the offset its pointer has in the buffer. -/
structure CameraMetadataItem where
  index : Nat
  item : Nat
  dataType : Nat
  count : Nat
  data : Nat
  deriving DecidableEq

/-- `none` as the item for `CAM_META_INVALID_PARAM`. -/
def getCameraMetadataItem (src : Block) (index : Nat) : Option (Option CameraMetadataItem) := do
  let itemCount ← src.read32 itemCountAt
  if index ≥ itemCount then return none
  let localItem ← getMetadataItems src index
  let item ← src.read32 localItem
  let dataType ← src.read32 (localItem + 4)
  let count ← src.read32 (localItem + 8)
  if calculateCameraMetadataItemDataSize dataType count = 0 then
    return some ⟨index, item, dataType, count, localItem + itemFixedLen⟩
  else
    let start ← getMetadataData src
    let offset ← src.read32 (localItem + itemFixedLen)
    return some ⟨index, item, dataType, count, start + offset⟩

/-- The search of `FindCameraMetadataItemIndex` with `remaining` entries from `index` on. -/
def findFrom (src : Block) (item index : Nat) : Nat → Option (Option Nat)
  | 0 => some none
  | remaining+1 => do
    let searchItem ← getMetadataItems src index
    let found ← src.read32 searchItem
    if found = item then return some index
    findFrom src item (index + 1) remaining

/-- `none` as the index for `CAM_META_ITEM_NOT_FOUND`. -/
def findCameraMetadataItemIndex (src : Block) (item : Nat) : Option (Option Nat) := do
  let itemCount ← src.read32 itemCountAt
  findFrom src item 0 itemCount

def findCameraMetadataItem (src : Block) (item : Nat) : Option (Option CameraMetadataItem) := do
  let some index ← findCameraMetadataItemIndex src item | return none
  getCameraMetadataItem src index

/-- One entry's offset is lowered when it lies behind the one of `item`. -/
def setOffset (dst : Block) (metadataItems item oldItemSize : Nat) : Option Block := do
  let dataType ← dst.read32 (metadataItems + 4)
  let count ← dst.read32 (metadataItems + 8)
  let offset ← dst.read32 (metadataItems + itemFixedLen)
  let itemOffset ← dst.read32 (item + itemFixedLen)
  if calculateCameraMetadataItemDataSize dataType count > 0 ∧ offset > itemOffset then
    dst.write32 (metadataItems + itemFixedLen) (sub32 offset oldItemSize)
  else return dst

/-- The loop over the entries from `i` on, `remaining` of them. -/
def setOffsets (dst : Block) (item oldItemSize i : Nat) : Nat → Option Block
  | 0 => some dst
  | remaining+1 => do
    let metadataItems ← getMetadataItems dst i
    let dst ← setOffset dst metadataItems item oldItemSize
    setOffsets dst item oldItemSize (i + 1) remaining

/-- `memmove_s(dest, length, src, length)`, when there is something to move. -/
def moveDown (dst : Block) (dest src length : Nat) : Option (Ret × Block) :=
  if length = 0 then some (.success, dst)
  else if securecOk length length then (dst.move dest src length).map fun dst => (.success, dst)
  else some (.failure, dst)

/-- Removes the data of the entry at `item` from the data area; the same statements stand in
    `DeleteCameraMetadataItemByIndex`. -/
def metadataExpandItemMem (dst : Block) (item oldItemSize : Nat) : Option (Ret × Block) := do
  let data ← getMetadataData dst
  let offset ← dst.read32 (item + itemFixedLen)
  let start := data + offset
  let dataUsed ← dst.read32 dataCountAt
  let length := sub64 (sub32 dataUsed offset) oldItemSize
  onSuccess (moveDown dst start (start + oldItemSize) length) fun dst => do
    let dataUsed ← dst.read32 dataCountAt
    let dst ← dst.write32 dataCountAt (sub32 dataUsed oldItemSize)
    let itemCount ← dst.read32 itemCountAt
    let dst ← setOffsets dst item oldItemSize 0 itemCount
    return (.success, dst)

/-- The data of an updated entry when its size in the data area changes. -/
def resizeItem (dst : Block) (item dataSize oldItemSize dataPayloadSize : Nat) (data : Mem) :
    Option (Ret × Block) := do
  let dataCapacity ← dst.read32 dataCapacityAt
  let dataUsed ← dst.read32 dataCountAt
  if dataCapacity < sub64 (dataUsed + dataSize) oldItemSize then return (.dataCapExceed, dst)
  onSuccess (if oldItemSize ≠ 0 then metadataExpandItemMem dst item oldItemSize else some (.success, dst))
    fun dst =>
      if dataSize ≠ 0 then do
        let dst ← placeAtEnd dst item
        onSuccess (copyToData dst item dataPayloadSize data) fun dst => do
          let dst ← addDataCount dst dataSize
          return (.success, dst)
      else some (.success, dst)

def updateCameraMetadataItemByIndex (dst : Block) (index : Nat) (data : Option Mem) (dataCount : Nat) :
    Option (Ret × Block) := do
  let itemCount ← dst.read32 itemCountAt
  if index ≥ itemCount then return (.invalidParam, dst)
  if dataCount = 0 then return (.invalidParam, dst)
  let some data := data | return (.invalidParam, dst)
  let item ← getMetadataItems dst index
  let dataType ← dst.read32 (item + 4)
  let dataSize := calculateCameraMetadataItemDataSize dataType dataCount
  let typeSize ← ohosCameraMetadataTypeSize dataType
  let dataPayloadSize := dataCount * typeSize
  let count ← dst.read32 (item + 8)
  let oldItemSize := calculateCameraMetadataItemDataSize dataType count
  let placed :=
    if dataSize ≠ oldItemSize then resizeItem dst item dataSize oldItemSize dataPayloadSize data
    else if dataSize ≠ 0 then copyToData dst item dataPayloadSize data
    else some (.success, dst)
  onSuccess placed fun dst =>
    onSuccess (if dataSize = 0 then copyToValue dst item dataPayloadSize data else some (.success, dst))
      fun dst => do
        let dst ← dst.write32 (item + 8) dataCount
        return (.success, dst)

def updateCameraMetadataItem (dst : Block) (item : Nat) (data : Option Mem) (dataCount : Nat) :
    Option (Ret × Block) := do
  if dataCount = 0 then return (.invalidParam, dst)
  if data.isNone then return (.invalidParam, dst)
  let some index ← findCameraMetadataItemIndex dst item | return (.itemNotFound, dst)
  updateCameraMetadataItemByIndex dst index data dataCount

/-- The entry at `itemToDelete` leaves the array and the ones behind it move up. -/
def eraseItem (dst : Block) (itemToDelete index : Nat) : Option (Ret × Block) := do
  let itemCount ← dst.read32 itemCountAt
  let length := itemLen * sub32 (sub32 itemCount index) 1
  onSuccess (moveDown dst itemToDelete (itemToDelete + itemLen) length) fun dst => do
    let itemCount ← dst.read32 itemCountAt
    let dst ← dst.write32 itemCountAt (sub32 itemCount 1)
    return (.success, dst)

def deleteCameraMetadataItemByIndex (dst : Block) (index : Nat) : Option (Ret × Block) := do
  let itemCount ← dst.read32 itemCountAt
  if index ≥ itemCount then return (.invalidParam, dst)
  let itemToDelete ← getMetadataItems dst index
  let dataType ← dst.read32 (itemToDelete + 4)
  let count ← dst.read32 (itemToDelete + 8)
  let dataBytes := calculateCameraMetadataItemDataSize dataType count
  onSuccess (if dataBytes > 0 then metadataExpandItemMem dst itemToDelete dataBytes else some (.success, dst))
    fun dst => eraseItem dst itemToDelete index

def deleteCameraMetadataItem (dst : Block) (item : Nat) : Option (Ret × Block) := do
  let some index ← findCameraMetadataItemIndex dst item | return (.itemNotFound, dst)
  deleteCameraMetadataItemByIndex dst index

/-- `memcpy_s(dst + dest, length, src + source, length)`, when there is something to copy. -/
def copyBlock (dst src : Block) (dest source length : Nat) : Option (Ret × Block) :=
  if length = 0 then some (.success, dst)
  else if securecOk length length then do
    let copied ← src.read source length
    let dst ← dst.write dest length (fun i => copied.getD i 0)
    return (.success, dst)
  else some (.failure, dst)

def copyCameraMetadataItems (newMetadata oldMetadata : Block) : Option (Ret × Block) := do
  let itemCount ← oldMetadata.read32 itemCountAt
  let newItems ← getMetadataItems newMetadata 0
  let oldItems ← getMetadataItems oldMetadata 0
  onSuccess (copyBlock newMetadata oldMetadata newItems oldItems (itemLen * itemCount)) fun newMetadata => do
    let dataUsed ← oldMetadata.read32 dataCountAt
    let newData ← getMetadataData newMetadata
    let oldData ← getMetadataData oldMetadata
    onSuccess (copyBlock newMetadata oldMetadata newData oldData dataUsed) fun newMetadata => do
      let newMetadata ← newMetadata.write32 itemCountAt itemCount
      let newMetadata ← newMetadata.write32 dataCountAt dataUsed
      return (.success, newMetadata)

/-- The constructor of `CameraMetadata`; its capacities are `size_t`. -/
def cameraMetadata (itemCapacity dataCapacity : Nat) : Option Block :=
  allocateCameraMetadataBuffer (itemCapacity % 2^32) (alignTo dataCapacity dataAlignment)

def resizeAddMetadata (metadata : Block) (item : Nat) (data : Option Mem) (dataCount : Nat) :
    Option (Bool × Block) := do
  let itemCapacity ← metadata.read32 itemCapacityAt
  let dataCapacity ← metadata.read32 dataCapacityAt
  let some dataType := getCameraMetadataItemType item | return (false, metadata)
  let size := calculateCameraMetadataItemDataSize dataType dataCount
  let newMetadata ← allocateCameraMetadataBuffer ((itemCapacity + 1) * indexCounter % 2^32)
    (alignTo ((dataCapacity + size) * indexCounter) dataAlignment)
  let (ret, newMetadata) ← copyCameraMetadataItems newMetadata metadata
  if ret ≠ .success then return (false, metadata)
  let (ret, newMetadata) ← addCameraMetadataItem newMetadata item data dataCount
  if ret ≠ .success then return (false, metadata)
  return (true, newMetadata)

def addEntry (metadata : Block) (item : Nat) (data : Option Mem) (dataCount : Nat) : Option (Bool × Block) := do
  let (ret, after) ← addCameraMetadataItem metadata item data dataCount
  if ret = .success then return (true, after)
  if ret ≠ .itemCapExceed ∧ ret ≠ .dataCapExceed then return (false, after)
  resizeAddMetadata after item data dataCount

def updateEntry (metadata : Block) (tag : Nat) (data : Option Mem) (dataCount : Nat) : Option (Bool × Block) := do
  let some item ← findCameraMetadataItem metadata tag | return (false, metadata)
  let (ret, after) ← updateCameraMetadataItemByIndex metadata item.index data (dataCount % 2^32)
  return (ret = .success, after)

end Peripheral.Metadata
