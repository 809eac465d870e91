import Peripheral.Bytes
import Peripheral.CodecCapabilityLoad
import Peripheral.HdfSBuf

/-!
The capabilities on their way to a client: `codec_component_capability_config.c`, the
marshalling of `codec_types.c` and the calls of `codec_component_manager_proxy.c`. The
groups are sent in another order than they are loaded. What a client gets is what the
configuration says, after every number of times that it was loaded and cleared.
-/
namespace Peripheral.CodecCapability
open Bytes Hdf RemoteCalls CodecCapablites

def rangeValueBlockMarshalling (dataBlock : RangeValue) : HdfSBuf :=
  [.int32 dataBlock.min.toInt32, .int32 dataBlock.max.toInt32]

def rangeValueBlockUnmarshalling : Reader Value Int32 RangeValue := do
  let min ← readInt32
  let max ← readInt32
  pure { min := min.toUInt32, max := max.toUInt32 }

def portBytes (port : Vector UInt32 PORT_WORDS) : Vector UInt8 (4 * PORT_WORDS) :=
  .ofFn fun i => digits (port.get ⟨i.val / 4, by omega⟩).toNat (i.val % 4)

def portOf (bytes : Vector UInt8 (4 * PORT_WORDS)) : Vector UInt32 PORT_WORDS :=
  .ofFn fun i => UInt32.ofNat (load (fun k => bytes[k]?.getD 0) (4 * i.val) 4)

def codecCompCapabilityBlockMarshalling (dataBlock : CodecCompCapability) : HdfSBuf :=
  .int32 dataBlock.role.toInt32 :: .int32 dataBlock.type.toInt32 ::
    (dataBlock.compName.toList.flatMap (fun c => [.uint8 c]) ++
      (dataBlock.supportProfiles.toList.flatMap (fun profile => [.int32 profile.toInt32]) ++
        .int32 dataBlock.maxInst.toInt32 :: .int8 (if dataBlock.isSoftwareCodec then 1 else 0) ::
          .int32 dataBlock.processModeMask.toInt32 :: .uint32 dataBlock.capsMask ::
            (rangeValueBlockMarshalling dataBlock.bitRate ++ [.unpadBuffer (portBytes dataBlock.port).toList])))

def codecCompCapabilityBlockUnmarshalling : Reader Value Int32 CodecCompCapability := do
  let role ← readInt32
  let type ← readInt32
  let compName ← many readUint8 NAME_LENGTH
  let supportProfiles ← many (do let profile ← readInt32; pure profile.toUInt32) PROFILE_NUM
  let maxInst ← readInt32
  let isSoftwareCodec ← readInt8
  let processModeMask ← readInt32
  let capsMask ← readUint32
  let bitRate ← rangeValueBlockUnmarshalling
  let port ← readUnpadBuffer (4 * PORT_WORDS)
  pure
    { role := role.toUInt32, type := type.toUInt32, compName, supportProfiles, maxInst := maxInst.toUInt32
      isSoftwareCodec := isSoftwareCodec != 0, processModeMask := processModeMask.toUInt32, capsMask, bitRate
      port := portOf port }

def marshalOrder : List CodecGroup :=
  [.videoHwEncoder, .videoHwDecoder, .audioHwEncoder, .audioHwDecoder, .videoSwEncoder, .videoSwDecoder, .audioSwEncoder,
    .audioSwDecoder]

def allCapabilityMarshalling (caps : CodecCapablites) : HdfSBuf :=
  marshalOrder.flatMap fun g =>
    (((caps.group g).capablitis.getD []).take (caps.group g).num.toInt.toNat).flatMap codecCompCapabilityBlockMarshalling

def handleGetNumCmd (caps : CodecCapablites) : Int32 × HdfSBuf :=
  if !caps.inited then (HDF_FAILURE, []) else (HDF_SUCCESS, [.int32 caps.total])

def handleGetAllCapablityListCmd (caps : CodecCapablites) : Int32 × HdfSBuf :=
  if !caps.inited then (HDF_FAILURE, []) else (HDF_SUCCESS, allCapabilityMarshalling caps)

def getComponentNum (caps : CodecCapablites) : Int32 :=
  let (ret, reply) := handleGetNumCmd caps
  if ret ≠ HDF_SUCCESS then HDF_FAILURE
  else
    match readInt32.run reply with
    | .ok num _ => num
    | .error _ _ => HDF_FAILURE

/-- The loop that reads `capList`. -/
def readCapabilities (reply : HdfSBuf) (count : Nat) : Int32 × List CodecCompCapability :=
  match (many codecCompCapabilityBlockUnmarshalling count).run reply with
  | .ok capList _ => (HDF_SUCCESS, capList.toList)
  | .error _ _ => (HDF_FAILURE, [])

/-- The code, and with success what `capList` has. -/
def getComponentCapabilityList (caps : CodecCapablites) (count : Int32) : Int32 × List CodecCompCapability :=
  let (ret, reply) := handleGetAllCapablityListCmd caps
  if ret ≠ HDF_SUCCESS then (HDF_FAILURE, [])
  else if count ≤ 0 then (HDF_FAILURE, [])
  else readCapabilities reply count.toInt.toNat

def ConfigTree.sent (tree : ConfigTree) : List (CodecGroup × CodecNode) :=
  marshalOrder.flatMap fun g => (tree.entries g).map (g, ·)

/-- The list has each codec once, in order, as it is configured. -/
def Lists (tree : ConfigTree) (caps : CodecCapablites) : Prop :=
  ∃ capList, getComponentCapabilityList caps (getComponentNum caps) = (HDF_SUCCESS, capList) ∧
    List.Forall₂ (fun entry cap => Shows entry.1.isVideo entry.2 cap) tree.sent capList

/-- Loaded and cleared `n` times. -/
def cycles (memory : CodecMemory) (tree : ConfigTree) : Nat → Option CodecCapablites
  | 0 => some .new
  | n + 1 =>
    (cycles memory tree n).bind fun caps =>
      (caps.loadCodecCapabilityFromHcs memory tree).map fun loaded => loaded.1.clearCapabilityGroup

/-- Loaded once more, the server has capabilities for which this holds. -/
def AfterCycles (memory : CodecMemory) (tree : ConfigTree) (n : Nat) (holds : CodecCapablites → Prop) : Prop :=
  ∃ caps loaded, cycles memory tree n = some caps ∧ caps.loadCodecCapabilityFromHcs memory tree = some loaded ∧ holds loaded.1

def ClientSees (tree : ConfigTree) (caps : CodecCapablites) : Prop :=
  (getComponentNum caps).toInt = tree.count ∧ Lists tree caps

theorem delivers_rangeValue (v : RangeValue) : Delivers (rangeValueBlockMarshalling v) rangeValueBlockUnmarshalling v := by
  show Delivers _ _ { min := v.min.toInt32.toUInt32, max := v.max.toInt32.toUInt32 : RangeValue }
  exact .value (delivers_take rfl) (.last (delivers_take rfl))

theorem portOf_portBytes (port : Vector UInt32 PORT_WORDS) : portOf (portBytes port) = port := by
  apply Vector.ext
  intro i inside
  have word : load (fun k => (portBytes port)[k]?.getD 0) (4 * i) 4 = load (digits port[i].toNat) 0 4 := by
    refine load_congr fun k few => ?_
    have place : 4 * i + k < 4 * PORT_WORDS := by omega
    have index : (4 * i + k) / 4 = i := by omega
    have rest : (4 * i + k) % 4 = k := by omega
    have own : port.get ⟨i, inside⟩ = port[i] := rfl
    simp [portBytes, place, index, rest, own]
  have bound := port[i].toNat_lt
  simp only [portOf, Vector.getElem_ofFn, word, load_digits]
  rw [Nat.mod_eq_of_lt (by omega)]
  exact UInt32.ofNat_toNat

theorem delivers_capability (cap : CodecCompCapability) :
    Delivers (codecCompCapabilityBlockMarshalling cap) codecCompCapabilityBlockUnmarshalling cap := by
  have eachByte (c : UInt8) : Delivers [.uint8 c] readUint8 c := delivers_take rfl
  have eachProfile (profile : UInt32) :
      Delivers [.int32 profile.toInt32] (do let profile ← readInt32; pure profile.toUInt32) profile := .last (delivers_take rfl)
  have software : ((if cap.isSoftwareCodec then 1 else 0 : Int8) != 0) = cap.isSoftwareCodec := by
    cases cap.isSoftwareCodec <;> rfl
  have same : cap = { cap with
      isSoftwareCodec := (if cap.isSoftwareCodec then 1 else 0 : Int8) != 0
      port := portOf (portBytes cap.port) } := by
    rw [software, portOf_portBytes]
  nth_rewrite 2 [same]
  refine .value (delivers_take rfl) (.value (delivers_take rfl) ?_)
  refine .block (.many eachByte cap.compName) (.block (.many eachProfile cap.supportProfiles) ?_)
  refine .value (delivers_take rfl) (.value (delivers_take rfl) (.value (delivers_take rfl) (.value (delivers_take rfl) ?_)))
  exact .block (delivers_rangeValue cap.bitRate) (.last (delivers_unpadBuffer (portBytes cap.port)))

section
variable {memory : CodecMemory} {tree : ConfigTree} {caps : CodecCapablites}

theorem getComponentNum_loaded (loaded : Loaded tree caps) : getComponentNum caps = .ofNat tree.count := by
  simp only [getComponentNum, handleGetNumCmd, loaded.inited, loaded.total]
  rfl

def sentBy (caps : CodecCapablites) : List CodecCompCapability := marshalOrder.flatMap fun g => (caps.group g).capablitis.getD []

theorem num_loaded (loaded : Loaded tree caps) (few : tree.count < 2 ^ 31) (g : CodecGroup) :
    (caps.group g).num.toInt.toNat = ((caps.group g).capablitis.getD []).length := by
  have its : (tree.entries g).length ≤ tree.count := List.le_sum_of_mem (List.mem_map_of_mem (mem_loadOrder g))
  rw [loaded.num g, Int32.toInt_ofNat_of_lt (by omega), ← (loaded.shows g).length_eq]
  exact Int.toNat_natCast _

theorem allCapabilityMarshalling_loaded (loaded : Loaded tree caps) (few : tree.count < 2 ^ 31) :
    allCapabilityMarshalling caps = (sentBy caps).flatMap codecCompCapabilityBlockMarshalling := by
  simp only [allCapabilityMarshalling, sentBy, List.flatMap_assoc, num_loaded loaded few, List.take_length]

theorem shows_sentBy (loaded : Loaded tree caps) :
    List.Forall₂ (fun entry cap => Shows entry.1.isVideo entry.2 cap) tree.sent (sentBy caps) := by
  simp only [ConfigTree.sent, sentBy]
  induction marshalOrder with
  | nil => exact .nil
  | cons g rest ih =>
    rw [List.flatMap_cons, List.flatMap_cons]
    have group : List.Forall₂ (fun (entry : CodecGroup × CodecNode) cap => Shows entry.1.isVideo entry.2 cap)
        ((tree.entries g).map (g, ·)) ((caps.group g).capablitis.getD []) := List.forall₂_map_left_iff.mpr (loaded.shows g)
    exact List.rel_append group ih

theorem sent_length (tree : ConfigTree) : tree.sent.length = tree.count := by
  simp only [ConfigTree.sent, ConfigTree.count, marshalOrder, loadOrder, List.length_flatMap, List.length_map, List.map_cons,
    List.map_nil, List.sum_cons, List.sum_nil]
  omega

theorem readCapabilities_sent (list : List CodecCompCapability) :
    readCapabilities (list.flatMap codecCompCapabilityBlockMarshalling) list.length = (HDF_SUCCESS, list) := by
  have read : (many codecCompCapabilityBlockUnmarshalling list.length).run (list.flatMap codecCompCapabilityBlockMarshalling) =
      .ok (⟨list.toArray, rfl⟩ : Vector CodecCompCapability list.length) [] := by
    have all := Delivers.many delivers_capability (⟨list.toArray, rfl⟩ : Vector CodecCompCapability list.length) []
    rw [List.append_nil] at all
    exact all
  simp only [readCapabilities, read]
  rfl

theorem getComponentCapabilityList_sent (inited : caps.inited = true) {list : List CodecCompCapability} {count : Int32}
    (sent : allCapabilityMarshalling caps = list.flatMap codecCompCapabilityBlockMarshalling) (positive : ¬ count ≤ 0)
    (number : count.toInt.toNat = list.length) : getComponentCapabilityList caps count = (HDF_SUCCESS, list) := by
  simp only [getComponentCapabilityList, handleGetAllCapablityListCmd, inited, sent, if_neg positive, Bool.not_true,
    Bool.false_eq_true, if_false, ne_eq, not_true_eq_false, number, readCapabilities_sent]

theorem lists_loaded (loaded : Loaded tree caps) (few : tree.count < 2 ^ 31) (codecs : tree.count ≠ 0) : Lists tree caps := by
  have shows := shows_sentBy loaded
  have length : (sentBy caps).length = tree.count := by rw [← shows.length_eq, sent_length]
  refine ⟨sentBy caps, getComponentCapabilityList_sent loaded.inited (allCapabilityMarshalling_loaded loaded few) ?_ ?_, shows⟩
  · rw [getComponentNum_loaded loaded, Int32.le_iff_toInt_le, Int32.toInt_ofNat_of_lt few, Int32.toInt_zero]
    omega
  · rw [getComponentNum_loaded loaded, Int32.toInt_ofNat_of_lt few, length]
    exact Int.toNat_natCast _

theorem cycles_eq (supplied : ∀ size, memory.osalMemAlloc size = true) (configured : Configured memory.maskNumLimit tree)
    (few : tree.count < 2 ^ 31) (n : Nat) : cycles memory tree n = some .new := by
  induction n with
  | zero => rfl
  | succ n ih =>
    obtain ⟨caps, load, loaded⟩ := load_loaded supplied configured few
    simp [cycles, ih, load, clear_loaded loaded]

end

/-- Clients get the number of codecs, and if there are any, all of them. -/
theorem client_sees (memory : CodecMemory) (tree : ConfigTree) (n : Nat) (supplied : ∀ size, memory.osalMemAlloc size = true)
    (configured : Configured memory.maskNumLimit tree) (few : tree.count < 2 ^ 31) : AfterCycles memory tree n fun caps =>
      (getComponentNum caps).toInt = tree.count ∧ (tree.count ≠ 0 → Lists tree caps) := by
  obtain ⟨caps, load, loaded⟩ := load_loaded supplied configured few
  refine ⟨.new, (caps, true), cycles_eq supplied configured few n, load, ?_, lists_loaded loaded few⟩
  rw [getComponentNum_loaded loaded, Int32.toInt_ofNat_of_lt few]

def audioNode (name : { bytes : List UInt8 // 0 ∉ bytes }) : CodecNode where
  attr attrName :=
    match attrName with
    | "role" => some (.uint 0x10000)
    | "type" => some (.uint 2)
    | "name" => some (.text name)
    | "supportProfiles" => some (.uints [0x1000, 0x1001])
    | "maxInst" => some (.uint 8)
    | "isSoftwareCodec" => some (.bool true)
    | "processModeMask" => some (.uints [1, 2])
    | "capsMask" => some (.uints [])
    | "minBitRate" => some (.uint 8000)
    | "maxBitRate" => some (.uint 320000)
    | "sampleFormats" => some (.uints [1])
    | "sampleRate" => some (.uints [44100, 48000])
    | "channelLayouts" => some (.uints [3])
    | "channelCount" => some (.uints [1, 2])
    | _ => none

def aacNode : CodecNode := audioNode ⟨[97, 97, 99], by decide⟩
def mp3Node : CodecNode := audioNode ⟨[109, 112, 51], by decide⟩

theorem audioNode_formed {name : { bytes : List UInt8 // 0 ∉ bytes }} (some : name.val ≠ [])
    (short : name.val.length < NAME_LENGTH) : WellFormed 32 false (audioNode name) where
  numbers := by
    simp only [numberNames, List.forall_mem_cons, List.not_mem_nil, false_implies, implies_true, and_true]
    exact ⟨⟨_, rfl⟩, ⟨_, rfl⟩, ⟨_, rfl⟩, ⟨_, rfl⟩, ⟨_, rfl⟩⟩
  name := ⟨_, rfl, some, short⟩
  profiles := ⟨_, rfl, by decide⟩
  masks := ⟨⟨_, rfl, by decide⟩, ⟨_, rfl, by decide⟩⟩
  fields := by simp [portAttrs]
  tables := by
    simp only [portTables, audioPortTables, Bool.false_eq_true, if_false, List.forall_mem_cons, List.not_mem_nil, false_implies,
      implies_true, and_true]
    exact ⟨⟨_, rfl, by decide⟩, ⟨_, rfl, by decide⟩, ⟨_, rfl, by decide⟩, ⟨_, rfl, by decide⟩⟩

/-- The eight groups, with these audio software decoders only. -/
def aacTree (nodes : List CodecNode) : ConfigTree where
  getChildNode nodeName :=
    if nodeName = "AudioSwDecoders" then some nodes else if nodeName ∈ loadOrder.map CodecGroup.nodeName then some [] else none

def freshMemory : CodecMemory where
  osalMemAlloc _ := true
  fresh _ _ := ⟨0, 0, .replicate _ 0, .replicate _ 0, 0, false, 0, 0, ⟨0, 0⟩, .replicate _ 0⟩
  maskNumLimit := 32

theorem entries_aacTree (nodes : List CodecNode) (g : CodecGroup) :
    (aacTree nodes).getChildNode g.nodeName = some (if g = .audioSwDecoder then nodes else []) := by
  cases g <;> rfl

theorem CodecGroup.isVideo_iff (g : CodecGroup) :
    g.isVideo = true ↔ g ∈ [.videoHwEncoder, .videoHwDecoder, .videoSwEncoder, .videoSwDecoder] := by
  cases g <;> decide +kernel

variable {nodes : List CodecNode}

theorem aacTree_configured (all : ∀ node ∈ nodes, node = aacNode ∨ node = mp3Node) :
    Configured freshMemory.maskNumLimit (aacTree nodes) where
  groups g := by rw [entries_aacTree]; rfl
  formed g node member := by
    simp only [ConfigTree.entries, entries_aacTree, Option.getD_some] at member
    split at member
    · rename_i own
      have audio : ¬ CodecGroup.isVideo .audioSwDecoder = true := by rw [CodecGroup.isVideo_iff]; decide
      rw [own, Bool.eq_false_iff.mpr audio]
      rcases all node member with rfl | rfl
      · exact audioNode_formed (by decide) (by decide)
      · exact audioNode_formed (by decide) (by decide)
    · cases member

theorem count_aacTree (nodes : List CodecNode) : (aacTree nodes).count = nodes.length := by
  simp [ConfigTree.count, ConfigTree.entries, entries_aacTree, loadOrder]

def twoCodecs : ConfigTree := aacTree [aacNode, mp3Node]

theorem client_sees_two : AfterCycles freshMemory twoCodecs 2 fun caps =>
    (getComponentNum caps).toInt = twoCodecs.count ∧ (twoCodecs.count ≠ 0 → Lists twoCodecs caps) :=
  client_sees freshMemory twoCodecs 2 (fun _ => rfl) (aacTree_configured (by simp))
    (by rw [twoCodecs, count_aacTree]; decide)

theorem fillPlaces_none {memory : CodecMemory} {isVideoGroup : Bool} (some : nodes ≠ []) :
    fillPlaces memory isVideoGroup nodes [] = none := by
  cases nodes with
  | nil => exact absurd rfl some
  | cons node rest => rfl

/-- A group of so many codecs counts as empty. -/
theorem load_many (some : nodes ≠ []) (many : ¬ 0 < Int32.ofNat nodes.length) :
    new.loadCodecCapabilityFromHcs freshMemory (aacTree nodes) = none := by
  simp [loadCodecCapabilityFromHcs, countGroups, fillGroups, loadOrder,
    entries_aacTree, many, setGroup, new, fillPlaces_none some, fillPlaces]

theorem load_none {loaded : CodecCapablites × Bool}
    (load : new.loadCodecCapabilityFromHcs freshMemory (aacTree []) = some loaded) : ¬ Lists (aacTree []) loaded.1 := by
  rintro ⟨list, lists, _⟩
  obtain ⟨caps, loads, full⟩ := @load_loaded freshMemory (aacTree []) (fun _ => rfl)
    (aacTree_configured (by simp)) (by rw [count_aacTree]; decide)
  rw [load, Option.some.injEq] at loads
  rw [loads, getComponentNum_loaded full, count_aacTree] at lists
  simp [getComponentCapabilityList, handleGetAllCapablityListCmd, full.inited, HDF_SUCCESS, HDF_FAILURE] at lists

/-- Without codecs the list is refused, and 2^31 codecs are more than are counted. -/
theorem none_or_many_not_seen :
    (Configured freshMemory.maskNumLimit (aacTree []) ∧ ¬ AfterCycles freshMemory (aacTree []) 0 (ClientSees (aacTree []))) ∧
      Configured freshMemory.maskNumLimit (aacTree (List.replicate (2 ^ 31) aacNode)) ∧
      ¬ AfterCycles freshMemory (aacTree (List.replicate (2 ^ 31) aacNode)) 0
        (ClientSees (aacTree (List.replicate (2 ^ 31) aacNode))) := by
  have many : ∀ nodes : List CodecNode, nodes.length = 2 ^ 31 →
      ¬ AfterCycles freshMemory (aacTree nodes) 0 (ClientSees (aacTree nodes)) := by
    rintro nodes length ⟨caps, loaded, begins, load, _⟩
    have some : nodes ≠ [] := List.ne_nil_of_length_pos (by omega)
    cases begins
    rw [load_many some (by rw [length]; decide)] at load
    cases load
  refine ⟨⟨aacTree_configured (by simp), ?_⟩, aacTree_configured fun _ member => .inl (List.eq_of_mem_replicate member),
    many _ List.length_replicate⟩
  rintro ⟨caps, loaded, begins, load, _, lists⟩
  cases begins
  exact load_none load lists

end Peripheral.CodecCapability
