import Peripheral.Cuts
import Peripheral.MetadataOps
import Peripheral.UsbConfig

/-!
The descriptors of a USB device in `linux_adapter.c`: how they are read from the device
file, how the configurations are found in them, and how one of them is copied out for its
value. Memory is taken to be there, and a read of the file to give all that is left up to
the length that is asked for.
-/
namespace Peripheral.Usb
open Peripheral.Loops Peripheral.Tiling List

def usbDdkDtDeviceSize : Nat := 18
def descReadLen : Nat := 256

inductive AdapterError
  | errInvalidParam | errBadFd | errIo
  deriving DecidableEq

/-- `UsbDeviceConfigDescriptor`; the pointer is where it points in the descriptors. -/
structure DeviceConfig where
  desc : Nat
  actualLen : Nat
  deriving DecidableEq

/-- What `UsbDevice` has of the descriptors. -/
structure UsbDevice where
  descriptors : List UInt8
  descriptorsLength : Nat
  configDescriptors : List DeviceConfig
  deviceDescriptor : List UInt8
  deriving DecidableEq

def peek (memory : List UInt8) (i : Nat) : Outcome AdapterError Nat :=
  match memory[i]? with
  | some b => .ret b.toNat
  | none => .fault

/-- One round of `OsReadDescriptors`: the memory, all of which is read, grows, and what is new of it is zero before the
    read. -/
def readRound (file : List UInt8) : List UInt8 × Nat →
    Outcome AdapterError ((List UInt8 × Nat) ⊕ (List UInt8 × Nat))
  | (descriptors, descriptorsLength) =>
    let data := (file.drop descriptorsLength).take descReadLen
    let descriptors := descriptors ++ (data ++ replicate (descReadLen - data.length) 0)
    let descriptorsLength := descriptorsLength + data.length
    if descriptorsLength = descriptors.length then .ret (.inl (descriptors, descriptorsLength))
    else .ret (.inr (descriptors, descriptorsLength))

def osReadDescriptors (file : List UInt8) (fuel : Nat) : Outcome AdapterError (List UInt8 × Nat) :=
  iterate (fun _ => readRound file) fuel ([], 0)

/-- The loop of `OsParseConfigDescriptors`, with the pointer and the length that are left. -/
def parseConfigs (descriptors : List UInt8) : Nat → Nat → Nat → List DeviceConfig →
    Outcome AdapterError (List DeviceConfig)
  | 0, _, _, configs => .ret configs
  | rounds + 1, buffer, descLen, configs => do
    if descLen < usbDdkDtConfigSize then Outcome.error .errIo
    else
      let bDescriptorType ← peek descriptors (buffer + 1)
      let bLength ← peek descriptors buffer
      if bDescriptorType ≠ usbDdkDtConfig ∨ bLength < usbDdkDtConfigSize then Outcome.error .errIo
      else
        let low ← peek descriptors (buffer + 2)
        let high ← peek descriptors (buffer + 3)
        let configLen := low + 256 * high
        if configLen < usbDdkDtConfigSize then Outcome.error .errIo
        else
          let configLen := if configLen > descLen then descLen % 2^16 else configLen
          parseConfigs descriptors rounds (buffer + configLen) (descLen - configLen) (configs ++ [⟨buffer, configLen⟩])

def osParseConfigDescriptors (descriptors : List UInt8) (descriptorsLength : Nat) :
    Outcome AdapterError (List DeviceConfig) := do
  let numConfigs ← peek descriptors (usbDdkDtDeviceSize - 1)
  parseConfigs descriptors numConfigs usbDdkDtDeviceSize (subSize descriptorsLength usbDdkDtDeviceSize) []

/-- `OsInitDevice` from where the descriptors are read. -/
def osInitDevice (file : List UInt8) (fuel : Nat) : Outcome AdapterError UsbDevice := do
  let (descriptors, descriptorsLength) ← osReadDescriptors file fuel
  let configs ← osParseConfigDescriptors descriptors descriptorsLength
  return ⟨descriptors, descriptorsLength, configs, descriptors.take usbDdkDtDeviceSize⟩

/-- The loop of `AdapterGetConfigDescriptor` over the configurations that were found. -/
def findConfig (descriptors : List UInt8) (configIndex : Nat) : List DeviceConfig →
    Outcome AdapterError (Option DeviceConfig)
  | [] => .ret none
  | config :: configs => do
    let bConfigurationValue ← peek descriptors (config.desc + 5)
    if configIndex = bConfigurationValue then return some config
    else findConfig descriptors configIndex configs

/-- A `size_t` as an `int32_t`, and the other way around. -/
def asInt32 (n : Nat) : Int := if n % 2^32 < 2^31 then n % 2^32 else n % 2^32 - 2^32

def asSize (i : Int) : Nat := (i % 2^64).toNat

/-- `MIN`, which is a function on `int32_t`. -/
def minInt32 (a b : Int) : Int := if a < b then a else b

/-- The bytes that are copied into the buffer; their number is returned. There are as many configurations found as the device
    says it has. -/
def adapterGetConfigDescriptor (dev : UsbDevice) (configIndex : UInt8) (len : UInt64) :
    Outcome AdapterError (List UInt8) := do
  let bNumConfigurations ← peek dev.deviceDescriptor (usbDdkDtDeviceSize - 1)
  if configIndex.toNat > bNumConfigurations then Outcome.error .errInvalidParam
  else
    match ← findConfig dev.descriptors configIndex.toNat dev.configDescriptors with
    | none => Outcome.error .errBadFd
    | some config =>
      let len := asSize (minInt32 (asInt32 len.toNat) (asInt32 config.actualLen))
      if Metadata.securecOk len len then
        if config.desc + len ≤ dev.descriptors.length then return (dev.descriptors.drop config.desc).take len
        else Outcome.fault
      else Outcome.error .errIo

structure ConfigBlock where
  bytes : List UInt8
  size : usbDdkDtConfigSize ≤ bytes.length
  bLength : usbDdkDtConfigSize ≤ field bytes 0
  bDescriptorType : field bytes 1 = usbDdkDtConfig
  wTotalLength : field bytes 2 + 256 * field bytes 3 = bytes.length

def ConfigBlock.value (block : ConfigBlock) : UInt8 := block.bytes.getD 5 0

/-- The device descriptor and the configurations that it says there are. -/
structure DeviceBlob where
  device : List UInt8
  blocks : List ConfigBlock
  size : device.length = usbDdkDtDeviceSize
  bNumConfigurations : field device (usbDdkDtDeviceSize - 1) = blocks.length
  distinct : (blocks.map ConfigBlock.value).Nodup
  nonzero : ∀ block ∈ blocks, block.value ≠ 0

def DeviceBlob.bytes (blob : DeviceBlob) : List UInt8 := blob.device ++ blob.blocks.flatMap ConfigBlock.bytes

def DeviceConfig.interval (config : DeviceConfig) : Interval := ⟨config.desc, config.actualLen⟩

def DeviceConfig.of (v : Interval) : DeviceConfig := ⟨v.start, v.len⟩

/-- The file is read whole, and what is left of the last part of the memory is zero. -/
theorem comes_readRound {file : List UInt8} {n : Nat} (inside : n ≤ file.length) :
    ∃ pad, Comes (fun fuel => iterate (fun _ => readRound file) fuel (file.take n, n))
      (.ret (file ++ replicate pad 0, file.length)) := by
  induction left : file.length - n using Nat.strong_induction_on generalizing n with
  | _ left ih =>
    have length : ((file.drop n).take descReadLen).length = min descReadLen (file.length - n) := by
      rw [length_take, length_drop]
    by_cases full : descReadLen ≤ file.length - n
    · have all : ((file.drop n).take descReadLen).length = descReadLen := by omega
      have positive : 0 < descReadLen := by decide
      have grown : file.take n ++ ((file.drop n).take descReadLen ++ replicate (descReadLen - descReadLen) 0) =
          file.take (n + descReadLen) := by
        rw [Nat.sub_self, replicate_zero, append_nil, take_add]
      have round : readRound file (file.take n, n) = .ret (.inl (file.take (n + descReadLen), n + descReadLen)) := by
        simp only [readRound, all, grown, length_take]
        rw [if_pos (by omega)]
      obtain ⟨pad, rest⟩ := ih (file.length - (n + descReadLen)) (by omega) (by omega) rfl
      refine ⟨pad, comes_iterate_next ?_ rest⟩
      rw [round]
      exact Comes.const _
    · have short : (file.drop n).take descReadLen = file.drop n := take_of_length_le (by rw [length_drop]; omega)
      have round : readRound file (file.take n, n) =
          .ret (.inr (file ++ replicate (descReadLen - (file.length - n)) 0, file.length)) := by
        simp only [readRound, short, length_drop, length_append, length_take, length_replicate]
        rw [if_neg (by omega), ← append_assoc, take_append_drop, Nat.add_sub_cancel' inside]
      refine ⟨descReadLen - (file.length - n), comes_iterate_break ?_⟩
      rw [round]
      exact Comes.const _

theorem comes_osReadDescriptors (file : List UInt8) :
    ∃ pad, Comes (osReadDescriptors file) (.ret (file ++ replicate pad 0, file.length)) :=
  comes_readRound (Nat.zero_le _)

theorem peek_at (before : List UInt8) {bytes : List UInt8} (behind : List UInt8) {i : Nat} (inside : i < bytes.length) :
    peek (before ++ (bytes ++ behind)) (before.length + i) = .ret (field bytes i) := by
  have there : (before ++ (bytes ++ behind))[before.length + i]? = some bytes[i] := by
    rw [getElem?_append_right (by omega), Nat.add_sub_cancel_left, getElem?_append_left inside,
      getElem?_eq_getElem inside]
  simp [peek, there, field, inside]

section
variable (before behind : List UInt8)

theorem parseConfigs_blocks (blocks : List ConfigBlock) (configs : List DeviceConfig) :
    parseConfigs (before ++ (blocks.flatMap ConfigBlock.bytes ++ behind)) blocks.length before.length
        (blocks.flatMap ConfigBlock.bytes).length configs =
      .ret (configs ++ (cuts before.length (blocks.map fun block => block.bytes.length)).map DeviceConfig.of) := by
  induction blocks generalizing before configs with
  | nil => simp [parseConfigs, cuts]
  | cons block blocks ih =>
    have size := block.size
    have nine : usbDdkDtConfigSize = 9 := rfl
    have peeked (i : Nat) (inside : i < 9) :
        peek (before ++ (block.bytes ++ (blocks.flatMap ConfigBlock.bytes ++ behind))) (before.length + i) =
          .ret (field block.bytes i) := peek_at _ _ (by omega)
    have bLength := peeked 0 (by decide)
    have rest := ih (before ++ block.bytes) (configs ++ [⟨before.length, block.bytes.length⟩])
    rw [Nat.add_zero] at bLength
    simp only [length_append, append_assoc] at rest
    simp only [flatMap_cons, length_cons, length_append, append_assoc, parseConfigs, peeked 1 (by decide),
      peeked 2 (by decide), peeked 3 (by decide), bLength, Outcome.ret_bind, block.bDescriptorType, block.wTotalLength]
    rw [if_neg (by omega), if_neg (by simpa using block.bLength), if_neg (by omega), if_neg (by omega),
      Nat.add_sub_cancel_left, rest]
    simp [cuts, DeviceConfig.of]

theorem value_toNat (block : ConfigBlock) : block.value.toNat = field block.bytes 5 := rfl

theorem findConfig_blocks {blocks : List ConfigBlock} (distinct : (blocks.map ConfigBlock.value).Nodup) {block : ConfigBlock} (there : block ∈ blocks) :
    ∃ front back, blocks.flatMap ConfigBlock.bytes = front ++ (block.bytes ++ back) ∧
      findConfig (before ++ (blocks.flatMap ConfigBlock.bytes ++ behind)) block.value.toNat
          ((cuts before.length (blocks.map fun block => block.bytes.length)).map DeviceConfig.of) =
        .ret (some ⟨before.length + front.length, block.bytes.length⟩) := by
  induction blocks generalizing before with
  | nil => cases there
  | cons head blocks ih =>
    have five : 5 < head.bytes.length := by
      have size := head.size
      have nine : usbDdkDtConfigSize = 9 := rfl
      omega
    have peeked : peek (before ++ (head.bytes ++ (blocks.flatMap ConfigBlock.bytes ++ behind))) (before.length + 5) =
        .ret (field head.bytes 5) := peek_at _ _ five
    rw [map_cons, nodup_cons] at distinct
    rcases mem_cons.mp there with rfl | later
    · refine ⟨[], blocks.flatMap ConfigBlock.bytes, by simp, ?_⟩
      simp [cuts, findConfig, DeviceConfig.of, peeked, value_toNat]
    · obtain ⟨front, back, split, found⟩ := ih (before ++ head.bytes) distinct.2 later
      have other : ¬ block.value.toNat = field head.bytes 5 := by
        intro same
        rw [← value_toNat] at same
        have equal : block.value = head.value := UInt8.toNat_inj.mp same
        exact distinct.1 (equal ▸ mem_map_of_mem later)
      refine ⟨head.bytes ++ front, back, by simp [split], ?_⟩
      simp only [append_assoc, length_append] at found
      simp [cuts, findConfig, DeviceConfig.of, peeked, other, found, Nat.add_assoc]

end

theorem ConfigBlock.short (block : ConfigBlock) : block.bytes.length < 2^16 := by
  have total := block.wTotalLength
  have low : field block.bytes 2 < 2^8 := UInt8.toNat_lt _
  have high : field block.bytes 3 < 2^8 := UInt8.toNat_lt _
  omega

theorem asSize_minInt32 {len n : Nat} (small : n < 2^16) :
    asSize (minInt32 (asInt32 len) (asInt32 n)) = if len % 2^32 < 2^31 then min (len % 2^32) n else 2^64 - 2^32 + len % 2^32 := by
  have same : asInt32 n = n := by
    rw [asInt32, if_pos (by omega)]
    omega
  rw [same, asInt32]
  split
  · rw [minInt32, asSize]
    split <;> omega
  · rw [minInt32, asSize]
    split <;> omega

/-- The table has every configuration of the device: the parts follow each other behind the device descriptor, are apart from
    each other and inside of what was read, and have the bytes of the configurations. -/
structure Recorded (dev : UsbDevice) (blob : DeviceBlob) : Prop where
  consecutive : dev.configDescriptors.map DeviceConfig.interval =
    cuts usbDdkDtDeviceSize (blob.blocks.map fun block => block.bytes.length)
  tiled : Tiles 1 (⟨0, usbDdkDtDeviceSize⟩ :: dev.configDescriptors.map DeviceConfig.interval) dev.descriptorsLength
  same : dev.configDescriptors.map (fun config => config.interval.part dev.descriptors) = blob.blocks.map ConfigBlock.bytes

/-- The device is read and its configurations are recorded, and the first bytes of this one are returned for its value. -/
def Retrieves (blob : DeviceBlob) (block : ConfigBlock) (len : UInt64) : Prop :=
  ∃ dev, Comes (osInitDevice blob.bytes) (.ret dev) ∧ Recorded dev blob ∧
    adapterGetConfigDescriptor dev block.value len = .ret (block.bytes.take (min len.toNat block.bytes.length))

section
variable (blob : DeviceBlob)

/-- The device as it is read, with so many zero bytes behind its descriptors. -/
def DeviceBlob.opened (pad : Nat) : UsbDevice where
  descriptors := blob.bytes ++ replicate pad 0
  descriptorsLength := blob.bytes.length
  configDescriptors := (cuts usbDdkDtDeviceSize (blob.blocks.map fun block => block.bytes.length)).map DeviceConfig.of
  deviceDescriptor := blob.device

theorem DeviceBlob.length_bytes : blob.bytes.length = usbDdkDtDeviceSize + (blob.blocks.flatMap ConfigBlock.bytes).length := by
  rw [DeviceBlob.bytes, length_append, blob.size]

theorem DeviceBlob.sum_lengths :
    (blob.blocks.map fun block => block.bytes.length).sum = (blob.blocks.flatMap ConfigBlock.bytes).length := by
  rw [length_flatMap]

theorem comes_osInitDevice : ∃ pad, Comes (osInitDevice blob.bytes) (.ret (blob.opened pad)) := by
  obtain ⟨pad, read⟩ := comes_osReadDescriptors blob.bytes
  refine ⟨pad, read.bind ?_⟩
  have memory : blob.bytes ++ replicate pad 0 =
      blob.device ++ (blob.blocks.flatMap ConfigBlock.bytes ++ replicate pad 0) := by
    rw [DeviceBlob.bytes, append_assoc]
  have size : usbDdkDtDeviceSize = 18 := rfl
  have counted : peek (blob.bytes ++ replicate pad 0) (usbDdkDtDeviceSize - 1) = .ret blob.blocks.length := by
    have last : usbDdkDtDeviceSize - 1 < blob.device.length := by
      rw [blob.size]
      decide
    have peeked := peek_at [] (blob.blocks.flatMap ConfigBlock.bytes ++ replicate pad 0) last
    rw [nil_append, length_nil, Nat.zero_add, ← memory, blob.bNumConfigurations] at peeked
    exact peeked
  have left : subSize blob.bytes.length usbDdkDtDeviceSize = (blob.blocks.flatMap ConfigBlock.bytes).length := by
    rw [blob.length_bytes, subSize, if_pos (Nat.le_add_right ..), Nat.add_sub_cancel_left]
  have parsed := parseConfigs_blocks blob.device (replicate pad 0) blob.blocks []
  rw [blob.size, ← memory, nil_append] at parsed
  have device : (blob.bytes ++ replicate pad 0).take usbDdkDtDeviceSize = blob.device := by
    rw [memory, ← blob.size, take_left]
  have whole : osParseConfigDescriptors (blob.bytes ++ replicate pad 0) blob.bytes.length =
      .ret (blob.opened pad).configDescriptors := by
    rw [osParseConfigDescriptors, counted, Outcome.ret_bind, left, parsed]
    rfl
  simp only [whole, device, Outcome.ret_bind]
  exact Comes.const _

theorem opened_recorded (pad : Nat) : Recorded (blob.opened pad) blob := by
  have intervals : (blob.opened pad).configDescriptors.map DeviceConfig.interval =
      cuts usbDdkDtDeviceSize (blob.blocks.map fun block => block.bytes.length) := by
    rw [DeviceBlob.opened, map_map]
    exact map_id _
  refine ⟨intervals, ?_, ?_⟩
  · have first : Tiles 1 [⟨0, usbDdkDtDeviceSize⟩] usbDdkDtDeviceSize := by
      simpa using (Tiles.nil 1).snoc (Nat.one_dvd usbDdkDtDeviceSize)
    have tiled := first.cuts (blob.blocks.map fun block => block.bytes.length)
    rw [blob.sum_lengths, ← blob.length_bytes] at tiled
    rw [intervals]
    exact tiled
  · have parts := part_cuts blob.device (blob.blocks.map ConfigBlock.bytes) (replicate pad 0)
    rw [blob.size, map_map] at parts
    rw [← parts, DeviceBlob.opened, map_map]
    rfl

variable {blob}

theorem adapterGetConfigDescriptor_opened (pad : Nat) {block : ConfigBlock} (there : block ∈ blob.blocks) (len : UInt64) :
    adapterGetConfigDescriptor (blob.opened pad) block.value len =
      if block.value.toNat > blob.blocks.length then .error .errInvalidParam
      else if 0 < len.toNat % 2^32 ∧ len.toNat % 2^32 < 2^31 then
        .ret (block.bytes.take (min (len.toNat % 2^32) block.bytes.length)) else .error .errIo := by
  obtain ⟨front, back, split, found⟩ := findConfig_blocks blob.device (replicate pad 0) blob.distinct there
  have memory : (blob.opened pad).descriptors =
      (blob.device ++ front) ++ (block.bytes ++ (back ++ replicate pad 0)) := by
    simp [DeviceBlob.opened, DeviceBlob.bytes, split]
  have counted : peek (blob.opened pad).deviceDescriptor (usbDdkDtDeviceSize - 1) = .ret blob.blocks.length := by
    have last : usbDdkDtDeviceSize - 1 < blob.device.length := by
      rw [blob.size]
      decide
    have peeked := peek_at [] [] last
    rw [nil_append, append_nil, length_nil, Nat.zero_add, blob.bNumConfigurations] at peeked
    exact peeked
  have config : findConfig (blob.opened pad).descriptors block.value.toNat (blob.opened pad).configDescriptors =
      .ret (some ⟨(blob.device ++ front).length, block.bytes.length⟩) := by
    have same : (blob.opened pad).descriptors =
        blob.device ++ (blob.blocks.flatMap ConfigBlock.bytes ++ replicate pad 0) := by
      simp [DeviceBlob.opened, DeviceBlob.bytes]
    rw [same, length_append, DeviceBlob.opened, ← blob.size]
    exact found
  have short := block.short
  have size : 9 ≤ block.bytes.length := block.size
  rw [adapterGetConfigDescriptor, counted, Outcome.ret_bind]
  by_cases above : block.value.toNat > blob.blocks.length
  · rw [if_pos above, if_pos above]
  · rw [if_neg above, if_neg above, config, Outcome.ret_bind]
    simp only [asSize_minInt32 short]
    by_cases signed : len.toNat % 2^32 < 2^31
    · by_cases some_ : 0 < len.toNat % 2^32
      · have ok : Metadata.securecOk (min (len.toNat % 2^32) block.bytes.length)
            (min (len.toNat % 2^32) block.bytes.length) = true := by
          have limit : Metadata.securecMemMaxLen = 0x7fffffff := rfl
          simp only [Metadata.securecOk, Bool.and_eq_true, decide_eq_true_eq]
          omega
        have inside : (blob.device ++ front).length + min (len.toNat % 2^32) block.bytes.length ≤
            (blob.opened pad).descriptors.length := by
          rw [memory]
          simp only [length_append]
          omega
        have copied : ((blob.opened pad).descriptors.drop (blob.device ++ front).length).take
            (min (len.toNat % 2^32) block.bytes.length) = block.bytes.take (min (len.toNat % 2^32) block.bytes.length) := by
          rw [memory, drop_left, take_append_of_le_length (Nat.min_le_right ..)]
        rw [if_pos signed, if_pos ok, if_pos inside, if_pos ⟨some_, signed⟩, copied]
        rfl
      · have refused : Metadata.securecOk (min (len.toNat % 2^32) block.bytes.length)
            (min (len.toNat % 2^32) block.bytes.length) = false := by
          have zero : min (len.toNat % 2^32) block.bytes.length = 0 := by omega
          rw [zero]
          rfl
        rw [if_pos signed, refused, if_neg (by simp), if_neg (fun both => some_ both.1)]
    · have refused : Metadata.securecOk (2^64 - 2^32 + len.toNat % 2^32) (2^64 - 2^32 + len.toNat % 2^32) = false := by
        have limit : Metadata.securecMemMaxLen = 0x7fffffff := rfl
        simp only [Metadata.securecOk, Bool.and_eq_false_iff, decide_eq_false_iff_not]
        omega
      rw [if_neg signed, refused, if_neg (by simp), if_neg (fun both => signed both.2)]

end

/-- A configuration is retrieved if what is returned for it is what was asked for. -/
theorem retrieves_returned {blob : DeviceBlob} {block : ConfigBlock} (there : block ∈ blob.blocks) (len : UInt64) :
    Retrieves blob block len ↔ (if block.value.toNat > blob.blocks.length then .error .errInvalidParam
        else if 0 < len.toNat % 2^32 ∧ len.toNat % 2^32 < 2^31 then
          .ret (block.bytes.take (min (len.toNat % 2^32) block.bytes.length))
        else .error .errIo : Outcome AdapterError (List UInt8)) =
          .ret (block.bytes.take (min len.toNat block.bytes.length)) := by
  obtain ⟨pad, opened⟩ := comes_osInitDevice blob
  have returned := adapterGetConfigDescriptor_opened pad there len
  constructor
  · rintro ⟨dev, comes, -, retrieved⟩
    have same : dev = blob.opened pad := by
      have equal := comes.unique opened (by simp)
      simpa using equal
    rw [← returned, ← same]
    exact retrieved
  · intro retrieved
    exact ⟨blob.opened pad, opened, opened_recorded blob pad, returned.trans retrieved⟩

/-- A configuration is retrieved exactly when its value is not above the number of configurations and the length is, as an
    `int32_t`, positive and either itself or no less than the configuration. -/
theorem retrieves_iff {blob : DeviceBlob} {block : ConfigBlock} (there : block ∈ blob.blocks) (len : UInt64) :
    Retrieves blob block len ↔ block.value.toNat ≤ blob.blocks.length ∧ 0 < len.toNat % 2^32 ∧ len.toNat % 2^32 < 2^31 ∧
        (len.toNat = len.toNat % 2^32 ∨ block.bytes.length ≤ len.toNat % 2^32) := by
  rw [retrieves_returned there]
  constructor
  · intro retrieved
    split at retrieved
    · cases retrieved
    · next below =>
      split at retrieved
      · next signed =>
        have bytes : block.bytes.take (min (len.toNat % 2^32) block.bytes.length) =
            block.bytes.take (min len.toNat block.bytes.length) := by
          injection retrieved
        have lengths := congrArg length bytes
        rw [length_take, length_take] at lengths
        exact ⟨by omega, signed.1, signed.2, by omega⟩
      · cases retrieved
  · rintro ⟨below, some_, signed, enough⟩
    have same : min (len.toNat % 2^32) block.bytes.length = min len.toNat block.bytes.length := by omega
    rw [if_neg (by omega), if_pos ⟨some_, signed⟩, same]

/-! ### Devices with one configuration and with two -/

def bareConfig (value : UInt8) : ConfigBlock where
  bytes := [9, 2, 9, 0, 0, value, 0, 0x80, 50]
  size := by simp [usbDdkDtConfigSize]
  bLength := by simp [field, usbDdkDtConfigSize]
  bDescriptorType := by simp [field, usbDdkDtConfig]
  wTotalLength := by simp [field]

def oneConfig (value : UInt8) (nonzero : value ≠ 0) : DeviceBlob where
  device := [18, 1, 0, 2, 0, 0, 0, 64, 0x34, 0x12, 0x78, 0x56, 0, 1, 0, 0, 0, 1]
  blocks := [bareConfig value]
  size := rfl
  bNumConfigurations := by simp [field, usbDdkDtDeviceSize]
  distinct := nodup_singleton _
  nonzero := by
    intro block there
    rw [mem_singleton.mp there]
    exact nonzero

/-- The only configuration of a device may have the value 2. -/
theorem second_value_not_retrieved : ¬ Retrieves (oneConfig 2 (by decide)) (bareConfig 2) 9 := by
  have there : bareConfig 2 ∈ (oneConfig 2 (by decide)).blocks := mem_singleton_self _
  rw [retrieves_returned there]
  decide

def twoConfigs : DeviceBlob where
  device := [18, 1, 0, 2, 0, 0, 0, 64, 0x34, 0x12, 0x78, 0x56, 0, 1, 0, 0, 0, 2]
  blocks := [bareConfig 2, bareConfig 1]
  size := rfl
  bNumConfigurations := by simp [field, usbDdkDtDeviceSize]
  distinct := by decide
  nonzero := by decide

theorem both_values_retrieved : Retrieves twoConfigs (bareConfig 2) 9 ∧ Retrieves twoConfigs (bareConfig 1) 5 := by
  have second : bareConfig 2 ∈ twoConfigs.blocks := mem_cons_self
  have first : bareConfig 1 ∈ twoConfigs.blocks := mem_cons_of_mem _ mem_cons_self
  exact ⟨(retrieves_iff second 9).mpr (by decide), (retrieves_iff first 5).mpr (by decide)⟩

end Peripheral.Usb
