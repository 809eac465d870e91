import Mathlib.Algebra.GroupWithZero.Nat
import Mathlib.Data.List.Infix
import Mathlib.Data.List.Nodup

/-!
The capabilities of the codecs as they stand in the configuration, `codec_config_parser.c`.
The configuration has a node for each of eight groups, and below it one for each codec.
They are counted first, and then read one after the other into memory that nobody has
cleared.
-/
namespace Peripheral.CodecCapability

/-- The value of an attribute. A string ends at its first zero byte, so that there is none in it. -/
inductive ConfigValue
  | uint (value : UInt32)
  | uints (values : List UInt32)
  | text (bytes : { bytes : List UInt8 // 0 ∉ bytes })
  | bool (value : Bool)
  deriving DecidableEq

/-- The node of a codec, by the names of its attributes. -/
structure CodecNode where
  attr : String → Option ConfigValue

inductive CodecGroup
  | videoHwEncoder
  | videoHwDecoder
  | videoSwEncoder
  | videoSwDecoder
  | audioHwEncoder
  | audioHwDecoder
  | audioSwEncoder
  | audioSwDecoder
  deriving DecidableEq

def CodecGroup.nodeName : CodecGroup → String
  | .videoHwEncoder => "VideoHwEncoders"
  | .videoHwDecoder => "VideoHwDecoders"
  | .videoSwEncoder => "VideoSwEncoders"
  | .videoSwDecoder => "VideoSwDecoders"
  | .audioHwEncoder => "AudioHwEncoders"
  | .audioHwDecoder => "AudioHwDecoders"
  | .audioSwEncoder => "AudioSwEncoders"
  | .audioSwDecoder => "AudioSwDecoders"

/-- `strstr(nodeName, "Video")`. -/
def CodecGroup.isVideo (g : CodecGroup) : Bool := decide ("Video".toList <:+: g.nodeName.toList)

structure ConfigTree where
  getChildNode : String → Option (List CodecNode)

namespace CodecNode

/-- `GetUint32`: the default comes with a failure. -/
def getUint32 (node : CodecNode) (attrName : String) (default : UInt32) : UInt32 × Bool :=
  match node.attr attrName with
  | some (.uint value) => (value, true)
  | _ => (default, false)

def getUint32Array (node : CodecNode) (attrName : String) : Option (List UInt32) :=
  match node.attr attrName with
  | some (.uints values) => some values
  | _ => none

def getString (node : CodecNode) (attrName : String) : Option (List UInt8) :=
  match node.attr attrName with
  | some (.text bytes) => some bytes.val
  | _ => none

def getBool (node : CodecNode) (attrName : String) : Bool :=
  match node.attr attrName with
  | some (.bool value) => value
  | _ => false

end CodecNode

def NAME_LENGTH : Nat := 32
def PROFILE_NUM : Nat := 256
def PIX_FORMAT_NUM : Nat := 16
def SAMPLE_FMT_NUM : Nat := 32
def SAMPLE_RATE_NUM : Nat := 16
def CHANNEL_NUM : Nat := 16
def MEDIA_ROLETYPE_INVALID : UInt32 := 0x10006
def INVALID_TYPE : UInt32 := 4
def INVALID_PROFILE : UInt32 := 0
def OMX_COLOR_FormatUnused : UInt32 := 0
def AUDIO_SAMPLE_FMT_INVALID : UInt32 := 10
def AUD_SAMPLE_RATE_INVALID : UInt32 := 96001

/-- The words of a `PortCap`, which is as large as an `AudioPortCap`. -/
def PORT_WORDS : Nat := SAMPLE_FMT_NUM + SAMPLE_RATE_NUM + CHANNEL_NUM + CHANNEL_NUM

structure RangeValue where
  min : UInt32
  max : UInt32
  deriving DecidableEq

structure CodecCompCapability where
  role : UInt32
  type : UInt32
  compName : Vector UInt8 NAME_LENGTH
  supportProfiles : Vector UInt32 PROFILE_NUM
  maxInst : UInt32
  isSoftwareCodec : Bool
  processModeMask : UInt32
  capsMask : UInt32
  bitRate : RangeValue
  port : Vector UInt32 PORT_WORDS
  deriving DecidableEq

def capabilitySize : Nat := 1408

/-- `ConfigUintArrayNodeAttr`, with the place in its array where the table begins. -/
structure TableAttr where
  attrName : String
  base : Nat
  length : Nat
  endValue : UInt32
  deriving DecidableEq

/-- The fields of `VideoPortCap` before its table, by their place in the union. -/
def videoPortAttrs : List (String × Nat) :=
  [("minWidth", 0), ("minHeight", 1), ("maxWidth", 2), ("maxHeight", 3), ("widthAlignment", 4), ("heightAlignment", 5),
    ("minBlockCount", 6), ("maxBlockCount", 7), ("minBlocksPerSecond", 8), ("maxBlocksPerSecond", 9), ("blockSizeWidth", 10),
    ("blockSizeHeight", 11)]

def videoPortTables : List TableAttr := [⟨"supportPixelFmts", 12, PIX_FORMAT_NUM, OMX_COLOR_FormatUnused⟩]

/-- The tables of `AudioPortCap`. -/
def audioPortTables : List TableAttr :=
  [⟨"sampleFormats", 0, SAMPLE_FMT_NUM, AUDIO_SAMPLE_FMT_INVALID⟩, ⟨"sampleRate", 32, SAMPLE_RATE_NUM, AUD_SAMPLE_RATE_INVALID⟩,
    ⟨"channelLayouts", 48, CHANNEL_NUM, -1⟩, ⟨"channelCount", 64, CHANNEL_NUM, -1⟩]

def profileTable : TableAttr := ⟨"supportProfiles", 0, PROFILE_NUM, INVALID_PROFILE⟩

/-- What the memory is asked for, and what is in it when a capability is put there. `maskNumLimit` is 64 on ARM64, else 32. -/
structure CodecMemory where
  osalMemAlloc : Nat → Bool
  fresh : CodecGroup → Nat → CodecCompCapability
  maskNumLimit : Nat

def writeAt {α : Type} {n : Nat} (array : Vector α n) (base : Nat) (values : List α) : Vector α n :=
  .ofFn fun i => if base ≤ i.val then values.getD (i.val - base) array[i] else array[i]

/-- Steps that fill in a capability. What a failing step has written stays. -/
abbrev Fill (σ : Type) := EStateM Unit σ

/-- The default of all attributes that are read this way is 0. -/
def getUints {n : Nat} (node : CodecNode) : List (String × Nat) → Fill (Vector UInt32 n) Unit
  | [] => pure ()
  | (attrName, index) :: rest => do
    let (value, ok) := node.getUint32 attrName 0
    modify fun words => words.setIfInBounds index value
    if ok then getUints node rest else throw ()

def getUintTableConfig {n : Nat} (node : CodecNode) (attr : TableAttr) : Fill (Vector UInt32 n) Unit :=
  match node.getUint32Array attr.attrName with
  | none => throw ()
  | some values =>
    if attr.length ≤ values.length then throw () else modify fun words => writeAt words attr.base (values ++ [attr.endValue])

def getTables {n : Nat} (node : CodecNode) : List TableAttr → Fill (Vector UInt32 n) Unit
  | [] => pure ()
  | attr :: rest => do
    getUintTableConfig node attr
    getTables node rest

def getVideoPortCapability (node : CodecNode) : Fill (Vector UInt32 PORT_WORDS) Unit := do
  getUints node videoPortAttrs
  getTables node videoPortTables

def getAudioPortCapability (node : CodecNode) : Fill (Vector UInt32 PORT_WORDS) Unit := getTables node audioPortTables

/-- The mask is cleared first. -/
def getMaskedConfig (memory : CodecMemory) (node : CodecNode) (attrName : String) : Fill UInt32 Unit := do
  set (0 : UInt32)
  match node.getUint32Array attrName with
  | none => throw ()
  | some values =>
    if memory.maskNumLimit < values.length then throw ()
    else if values ≠ [] ∧ !memory.osalMemAlloc (4 * values.length) then throw ()
    else set (values.foldl (· ||| ·) 0)

def getWord (node : CodecNode) (attrName : String) (default : UInt32) : Fill UInt32 Unit := do
  let (value, ok) := node.getUint32 attrName default
  set value
  if ok then pure () else throw ()

def zoom {σ τ : Type} (get : σ → τ) (put : τ → σ → σ) (part : Fill τ Unit) : Fill σ Unit := fun s =>
  match part.run (get s) with
  | .ok () t => .ok () (put t s)
  | .error () t => .error () (put t s)

def getMiscOfCapability (memory : CodecMemory) (node : CodecNode) : Fill CodecCompCapability Unit := do
  zoom (·.supportProfiles) (fun v c => { c with supportProfiles := v }) (getUintTableConfig node profileTable)
  zoom (·.maxInst) (fun v c => { c with maxInst := v }) (getWord node "maxInst" 0)
  zoom (·.processModeMask) (fun v c => { c with processModeMask := v }) (getMaskedConfig memory node "processModeMask")
  zoom (·.capsMask) (fun v c => { c with capsMask := v }) (getMaskedConfig memory node "capsMask")
  zoom (·.bitRate.min) (fun v c => { c with bitRate.min := v }) (getWord node "minBitRate" 0)
  zoom (·.bitRate.max) (fun v c => { c with bitRate.max := v }) (getWord node "maxBitRate" 0)

/-- The name, as `strcpy_s` copies it. -/
def getName (node : CodecNode) : Fill CodecCompCapability Unit :=
  match node.getString "name" with
  | none => throw ()
  | some name =>
    if NAME_LENGTH ≤ name.length ∨ name.length = 0 then throw ()
    else modify fun c => { c with compName := writeAt c.compName 0 (name ++ [0]) }

/-- A failing step leaves a capability of no role. -/
def orDiscard (part : Fill CodecCompCapability Unit) (discard : CodecCompCapability → CodecCompCapability) :
    Fill CodecCompCapability Unit := fun c =>
  match part.run c with
  | .ok () c => .ok () c
  | .error () c => .error () (discard c)

def noRole (c : CodecCompCapability) : CodecCompCapability := { c with role := MEDIA_ROLETYPE_INVALID }

def getOneCapability (memory : CodecMemory) (node : CodecNode) (isVideoGroup : Bool) : Fill CodecCompCapability Unit := do
  orDiscard (zoom (·.role) (fun v c => { c with role := v }) (getWord node "role" MEDIA_ROLETYPE_INVALID)) noRole
  orDiscard (zoom (·.type) (fun v c => { c with type := v }) (getWord node "type" INVALID_TYPE))
    fun c => { noRole c with type := INVALID_TYPE }
  orDiscard (getName node) noRole
  modify fun c => { c with isSoftwareCodec := node.getBool "isSoftwareCodec" }
  orDiscard (getMiscOfCapability memory node) noRole
  orDiscard (zoom (·.port) (fun v c => { c with port := v })
    (if isVideoGroup then getVideoPortCapability node else getAudioPortCapability node)) noRole

/-- `capablitis` is null or points to so many capabilities. -/
structure CodecCapablityGroup where
  num : Int32
  capablitis : Option (List CodecCompCapability)
  deriving DecidableEq

structure CodecCapablites where
  group : CodecGroup → CodecCapablityGroup
  total : Int32
  inited : Bool

def loadOrder : List CodecGroup :=
  [.videoHwEncoder, .videoHwDecoder, .videoSwEncoder, .videoSwDecoder, .audioHwEncoder, .audioHwDecoder, .audioSwEncoder,
    .audioSwDecoder]

namespace CodecCapablites

def new : CodecCapablites := ⟨fun _ => ⟨0, none⟩, 0, false⟩

def setGroup (caps : CodecCapablites) (g : CodecGroup) (group : CodecCapablityGroup) : CodecCapablites :=
  { caps with group := Function.update caps.group g group }

/-- The first loop of `LoadCodecCapabilityFromHcs`. A group without a node is left as it is. -/
def countGroups (memory : CodecMemory) (tree : ConfigTree) : List CodecGroup → CodecCapablites → CodecCapablites × Bool
  | [], caps => (caps, true)
  | g :: rest, caps =>
    match tree.getChildNode g.nodeName with
    | none => countGroups memory tree rest caps
    | some nodes =>
      let codecNum := Int32.ofNat nodes.length
      if 0 < codecNum then
        let num := codecNum.toInt.toNat
        if memory.osalMemAlloc (capabilitySize * num) then
          let group := ⟨codecNum, some ((List.range num).map (memory.fresh g))⟩
          countGroups memory tree rest { caps.setGroup g group with total := caps.total + codecNum }
        else (caps.setGroup g ⟨0, none⟩, false)
      else countGroups memory tree rest (caps.setGroup g ⟨0, none⟩)

def leaves {σ : Type} (fill : Fill σ Unit) (s : σ) : σ :=
  match fill.run s with
  | .ok () s => s
  | .error () s => s

/-- Each codec goes to the next place: `none` when there is none left. -/
def fillPlaces (memory : CodecMemory) (isVideoGroup : Bool) :
    List CodecNode → List CodecCompCapability → Option (List CodecCompCapability)
  | [], places => some places
  | _ :: _, [] => none
  | node :: nodes, cap :: places =>
    (fillPlaces memory isVideoGroup nodes places).map (leaves (getOneCapability memory node isVideoGroup) cap :: ·)

/-- The second loop, with `GetGroupCapabilities`. -/
def fillGroups (memory : CodecMemory) (tree : ConfigTree) : List CodecGroup → CodecCapablites → Option (CodecCapablites × Bool)
  | [], caps => some (caps, true)
  | g :: rest, caps =>
    match tree.getChildNode g.nodeName with
    | none => some (caps, false)
    | some nodes =>
      match fillPlaces memory g.isVideo nodes ((caps.group g).capablitis.getD []) with
      | none => none
      | some filled =>
        fillGroups memory tree rest (caps.setGroup g { caps.group g with capablitis := (caps.group g).capablitis.map fun _ => filled })

/-- `none` when something is written beside the memory that was allocated. -/
def loadCodecCapabilityFromHcs (memory : CodecMemory) (tree : ConfigTree) (caps : CodecCapablites) :
    Option (CodecCapablites × Bool) :=
  match caps.countGroups memory tree loadOrder with
  | (caps, false) => some (caps, false)
  | (caps, true) =>
    match fillGroups memory tree loadOrder caps with
    | some (caps, true) => some ({ caps with inited := true }, true)
    | other => other

def clearCapabilityGroup (caps : CodecCapablites) : CodecCapablites where
  group g := if (caps.group g).capablitis.isSome then ⟨0, none⟩ else caps.group g
  total := 0
  inited := false

end CodecCapablites

end Peripheral.CodecCapability
