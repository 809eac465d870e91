import Mathlib.Algebra.Order.BigOperators.Group.List
import Mathlib.Algebra.Order.Group.Nat
import Mathlib.Data.Vector.Defs
import Peripheral.CodecCapability

/-!
What is loaded is what the configuration says. A codec that is well formed fills in
every field, each step leaving alone what the others write; and what is cleared is as it
was before the first load.
-/
namespace Peripheral.CodecCapability
open List hiding Vector

/-! ### What the configuration says -/

namespace CodecNode

def uint (node : CodecNode) (attrName : String) : UInt32 := (node.getUint32 attrName 0).1
def uints (node : CodecNode) (attrName : String) : List UInt32 := (node.getUint32Array attrName).getD []
def text (node : CodecNode) (attrName : String) : List UInt8 := (node.getString attrName).getD []

def HasUint (node : CodecNode) (attrName : String) : Prop := ∃ value, node.attr attrName = some (.uint value)
def HasUints (node : CodecNode) (attrName : String) (limit : Nat) : Prop :=
  ∃ values, node.attr attrName = some (.uints values) ∧ values.length < limit

end CodecNode

def numberNames : List String := ["role", "type", "maxInst", "minBitRate", "maxBitRate"]

def portAttrs (isVideoGroup : Bool) : List (String × Nat) := if isVideoGroup then videoPortAttrs else []
def portTables (isVideoGroup : Bool) : List TableAttr := if isVideoGroup then videoPortTables else audioPortTables

/-- A codec has all attributes, with a name and tables that fit. -/
structure WellFormed (maskNumLimit : Nat) (isVideoGroup : Bool) (node : CodecNode) : Prop where
  numbers : ∀ attrName ∈ numberNames, node.HasUint attrName
  name : ∃ name, node.attr "name" = some (.text name) ∧ name.val ≠ [] ∧ name.val.length < NAME_LENGTH
  profiles : node.HasUints "supportProfiles" PROFILE_NUM
  masks : node.HasUints "processModeMask" (maskNumLimit + 1) ∧ node.HasUints "capsMask" (maskNumLimit + 1)
  fields : ∀ attr ∈ portAttrs isVideoGroup, node.HasUint attr.1
  tables : ∀ attr ∈ portTables isVideoGroup, node.HasUints attr.attrName attr.length

def Stands {n : Nat} (array : Vector UInt32 n) (node : CodecNode) (attr : TableAttr) : Prop :=
  ∀ k ≤ (node.uints attr.attrName).length, array[attr.base + k]? = (node.uints attr.attrName ++ [attr.endValue])[k]?

structure Shows (isVideoGroup : Bool) (node : CodecNode) (cap : CodecCompCapability) : Prop where
  role : cap.role = node.uint "role"
  type : cap.type = node.uint "type"
  name : node.text "name" ++ [0] <+: cap.compName.toList
  profiles : Stands cap.supportProfiles node profileTable
  maxInst : cap.maxInst = node.uint "maxInst"
  software : cap.isSoftwareCodec = node.getBool "isSoftwareCodec"
  processModeMask : cap.processModeMask = (node.uints "processModeMask").foldl (· ||| ·) 0
  capsMask : cap.capsMask = (node.uints "capsMask").foldl (· ||| ·) 0
  bitRate : cap.bitRate = ⟨node.uint "minBitRate", node.uint "maxBitRate"⟩
  fields : ∀ attr ∈ portAttrs isVideoGroup, cap.port[attr.2]? = some (node.uint attr.1)
  tables : ∀ attr ∈ portTables isVideoGroup, Stands cap.port node attr

section
variable {σ τ : Type} {s t u : σ} {node : CodecNode} {memory : CodecMemory} {attrName : String} {limit n : Nat}

/-- The step succeeds and leaves `t`. -/
def Fills (part : Fill σ Unit) (s t : σ) : Prop := part.run s = .ok () t

theorem Fills.then {part next : Fill σ Unit} (first : Fills part s t) (later : Fills next t u) :
    Fills (do part; next) s u := by
  rw [Fills, EStateM.run_bind, first]
  exact later

theorem fills_modify (f : σ → σ) : Fills (modify f) s (f s) := rfl

theorem Fills.zoom {get : σ → τ} {put : τ → σ → σ} {part : Fill τ Unit} {v : τ} (only : Fills part (get s) v) :
    Fills (zoom get put part) s (put v s) := by
  rw [Fills] at only
  simp only [Fills, EStateM.run, CodecCapability.zoom] at only ⊢
  rw [only]

theorem Fills.orDiscard {part : Fill CodecCompCapability Unit} {discard : CodecCompCapability → CodecCompCapability}
    {c d : CodecCompCapability} (only : Fills part c d) : Fills (orDiscard part discard) c d := by
  rw [Fills] at only
  simp only [Fills, EStateM.run, CodecCapability.orDiscard] at only ⊢
  rw [only]

theorem CodecNode.HasUint.get (has : node.HasUint attrName) (default : UInt32) :
    node.getUint32 attrName default = (node.uint attrName, true) := by
  obtain ⟨value, attr⟩ := has
  simp [uint, getUint32, attr]

theorem CodecNode.HasUints.get (has : node.HasUints attrName limit) :
    node.getUint32Array attrName = some (node.uints attrName) ∧ (node.uints attrName).length < limit := by
  obtain ⟨values, attr, short⟩ := has
  simp [uints, getUint32Array, attr, short]

theorem fills_getWord (has : node.HasUint attrName) (default old : UInt32) :
    Fills (getWord node attrName default) old (node.uint attrName) := by
  simp only [getWord, has.get]
  rfl

theorem fills_getMaskedConfig (supplied : ∀ size, memory.osalMemAlloc size = true)
    (has : node.HasUints attrName (memory.maskNumLimit + 1)) (old : UInt32) :
    Fills (getMaskedConfig memory node attrName) old ((node.uints attrName).foldl (· ||| ·) 0) := by
  obtain ⟨values, short⟩ := has.get
  refine Fills.then (t := 0) rfl ?_
  simp only [values, supplied, Bool.not_true, Bool.false_eq_true, and_false, if_false]
  rw [if_neg (by omega)]
  rfl

theorem getElem?_writeAt {α : Type} (array : Vector α n) (base : Nat) (values : List α) {k : Nat} (inside : k < values.length)
    (room : base + k < n) : (writeAt array base values)[base + k]? = values[k]? := by
  rw [Vector.getElem?_eq_getElem room, getElem?_eq_getElem inside]
  simp [writeAt, getD_eq_getElem?_getD, inside]

theorem getElem?_writeAt_outside {α : Type} (array : Vector α n) {base i : Nat} (values : List α)
    (outside : i < base ∨ base + values.length ≤ i) : (writeAt array base values)[i]? = array[i]? := by
  by_cases inside : i < n
  · rw [Vector.getElem?_eq_getElem inside, Vector.getElem?_eq_getElem inside]
    simp only [writeAt, Vector.getElem_ofFn, Option.some.injEq]
    split
    · rw [getD_eq_getElem?_getD, getElem?_eq_none (by omega)]
      rfl
    · rfl
  · rw [Vector.getElem?_eq_none (by omega), Vector.getElem?_eq_none (by omega)]

theorem fills_getUints {attrs : List (String × Nat)} (has : ∀ attr ∈ attrs, node.HasUint attr.1)
    (distinct : (attrs.map (·.2)).Nodup) (inside : ∀ attr ∈ attrs, attr.2 < n) (words : Vector UInt32 n) :
    ∃ after, Fills (getUints node attrs) words after ∧ (∀ attr ∈ attrs, after[attr.2]? = some (node.uint attr.1)) ∧
      ∀ i, i ∉ attrs.map (·.2) → after[i]? = words[i]? := by
  induction attrs generalizing words with
  | nil => exact ⟨words, rfl, by simp, fun _ _ => rfl⟩
  | cons attr rest ih =>
    obtain ⟨attrName, index⟩ := attr
    rw [forall_mem_cons] at has inside
    rw [map_cons, nodup_cons] at distinct
    obtain ⟨after, fills, set_, same⟩ := ih has.2 distinct.2 inside.2 (words.setIfInBounds index (node.uint attrName))
    refine ⟨after, ?_, ?_, ?_⟩
    · simp only [getUints, has.1.get]
      exact Fills.then (fills_modify _) fills
    · rw [forall_mem_cons]
      refine ⟨?_, set_⟩
      rw [same index distinct.1]
      simp [inside.1]
    · intro i outside
      rw [map_cons, mem_cons, not_or] at outside
      rw [same i outside.2]
      simp [Ne.symm outside.1]

def TableAttr.Has (attr : TableAttr) (i : Nat) : Prop := attr.base ≤ i ∧ i < attr.base + attr.length

theorem fills_getUintTableConfig {attr : TableAttr} (has : node.HasUints attr.attrName attr.length)
    (inside : attr.base + attr.length ≤ n) (words : Vector UInt32 n) :
    ∃ after, Fills (getUintTableConfig node attr) words after ∧ Stands after node attr ∧
      ∀ i, ¬ attr.Has i → after[i]? = words[i]? := by
  obtain ⟨values, short⟩ := has.get
  refine ⟨writeAt words attr.base (node.uints attr.attrName ++ [attr.endValue]), ?_, ?_, ?_⟩
  · simp only [getUintTableConfig, values]
    rw [if_neg (by omega)]
    exact fills_modify _
  · intro k least
    exact getElem?_writeAt _ _ _ (by simp; omega) (by omega)
  · intro i outside
    refine getElem?_writeAt_outside _ _ ?_
    simp only [TableAttr.Has] at outside
    simp
    omega

theorem Stands.same {attr : TableAttr} {words after : Vector UInt32 n} (stands : Stands words node attr)
    (has : node.HasUints attr.attrName attr.length) (same : ∀ i, attr.Has i → after[i]? = words[i]?) :
    Stands after node attr := by
  intro k least
  have short := has.get.2
  rw [same _ ⟨by omega, by omega⟩]
  exact stands k least

theorem fills_getTables {attrs : List TableAttr} (has : ∀ attr ∈ attrs, node.HasUints attr.attrName attr.length)
    (apart : attrs.Pairwise fun a b => ∀ i, a.Has i → ¬ b.Has i) (inside : ∀ attr ∈ attrs, attr.base + attr.length ≤ n)
    (words : Vector UInt32 n) : ∃ after, Fills (getTables node attrs) words after ∧ (∀ attr ∈ attrs, Stands after node attr) ∧
      ∀ i, (∀ attr ∈ attrs, ¬ attr.Has i) → after[i]? = words[i]? := by
  induction attrs generalizing words with
  | nil => exact ⟨words, rfl, by simp, fun _ _ => rfl⟩
  | cons attr rest ih =>
    rw [forall_mem_cons] at has inside
    rw [pairwise_cons] at apart
    obtain ⟨between, first, stands, kept⟩ := fills_getUintTableConfig has.1 inside.1 words
    obtain ⟨after, fills, stand, same⟩ := ih has.2 apart.2 inside.2 between
    refine ⟨after, first.then fills, ?_, ?_⟩
    · rw [forall_mem_cons]
      exact ⟨stands.same has.1 fun i own => same i fun other member => apart.1 other member i own, stand⟩
    · intro i outside
      rw [forall_mem_cons] at outside
      rw [same i outside.2, kept i outside.1]

variable {isVideoGroup : Bool}

theorem fills_port (formed : WellFormed memory.maskNumLimit isVideoGroup node) (words : Vector UInt32 PORT_WORDS) :
    ∃ after, Fills (if isVideoGroup then getVideoPortCapability node else getAudioPortCapability node) words after ∧
      (∀ attr ∈ portAttrs isVideoGroup, after[attr.2]? = some (node.uint attr.1)) ∧
      ∀ attr ∈ portTables isVideoGroup, Stands after node attr := by
  cases isVideoGroup with
  | true =>
    obtain ⟨between, first, set_, _⟩ := fills_getUints formed.fields (by decide) (by decide) words
    obtain ⟨after, fills, stand, same⟩ := fills_getTables formed.tables (by simp [portTables, videoPortTables]) (by decide) between
    refine ⟨after, first.then fills, fun attr member => ?_, stand⟩
    rw [same _ ?_, set_ attr member]
    intro table listed has
    have before : ∀ attr ∈ portAttrs true, attr.2 < 12 := by decide
    obtain rfl : table = ⟨"supportPixelFmts", 12, PIX_FORMAT_NUM, OMX_COLOR_FormatUnused⟩ := by
      simpa [portTables, videoPortTables] using listed
    exact absurd has.1 (Nat.not_le.mpr (before attr member))
  | false =>
    have apart : (portTables false).Pairwise fun a b => ∀ i, a.Has i → ¬ b.Has i := by
      simp only [portTables, audioPortTables, TableAttr.Has, SAMPLE_FMT_NUM, SAMPLE_RATE_NUM, CHANNEL_NUM, Bool.false_eq_true,
        if_false, pairwise_cons, forall_mem_cons, not_mem_nil, List.Pairwise.nil]
      refine ⟨⟨?_, ?_, ?_, nofun⟩, ⟨?_, ?_, nofun⟩, ⟨?_, nofun⟩, nofun, trivial⟩ <;> intro i own other <;> omega
    obtain ⟨after, fills, stand, _⟩ := fills_getTables formed.tables apart (by decide) words
    exact ⟨after, fills, by simp [portAttrs], stand⟩

theorem fills_getName (formed : WellFormed memory.maskNumLimit isVideoGroup node)
    (cap : CodecCompCapability) :
    Fills (getName node) cap { cap with compName := writeAt cap.compName 0 (node.text "name" ++ [0]) } ∧
      node.text "name" ++ [0] <+: (writeAt cap.compName 0 (node.text "name" ++ [0])).toList := by
  obtain ⟨name, attr, notEmpty, short⟩ := formed.name
  have string : node.getString "name" = some name.val := by simp [CodecNode.getString, attr]
  have text : node.text "name" = name.val := by simp [CodecNode.text, string]
  constructor
  · simp only [getName, string, text]
    rw [if_neg (by simpa [notEmpty] using short)]
    exact fills_modify _
  · rw [text, prefix_iff_getElem?]
    intro i inside
    have room : i < NAME_LENGTH := by simp at inside; omega
    have written := getElem?_writeAt cap.compName 0 (name.val ++ [0]) inside (by omega)
    rw [Nat.zero_add, getElem?_eq_getElem inside] at written
    rw [Vector.getElem?_toList, written]

theorem fills_getMiscOfCapability (supplied : ∀ size, memory.osalMemAlloc size = true)
    (formed : WellFormed memory.maskNumLimit isVideoGroup node) (cap : CodecCompCapability) :
    ∃ profiles after, Stands profiles node profileTable ∧ Fills (getMiscOfCapability memory node) cap after ∧ after = { cap with
      supportProfiles := profiles
      maxInst := node.uint "maxInst"
      processModeMask := (node.uints "processModeMask").foldl (· ||| ·) 0
      capsMask := (node.uints "capsMask").foldl (· ||| ·) 0
      bitRate := ⟨node.uint "minBitRate", node.uint "maxBitRate"⟩ } := by
  have number := formed.numbers
  obtain ⟨profiles, fills, stand, _⟩ := @fills_getUintTableConfig node _ profileTable formed.profiles (by decide) cap.supportProfiles
  refine ⟨profiles, _, stand, ?_, rfl⟩
  refine Fills.then (.zoom fills) ?_
  refine Fills.then (.zoom (fills_getWord (number _ (by decide)) _ _)) ?_
  refine Fills.then (.zoom (fills_getMaskedConfig supplied formed.masks.1 _)) ?_
  refine Fills.then (.zoom (fills_getMaskedConfig supplied formed.masks.2 _)) ?_
  refine Fills.then (.zoom (fills_getWord (number _ (by decide)) _ _)) ?_
  exact .zoom (fills_getWord (number _ (by decide)) _ _)

theorem fills_getOneCapability (supplied : ∀ size, memory.osalMemAlloc size = true)
    (formed : WellFormed memory.maskNumLimit isVideoGroup node) (cap : CodecCompCapability) :
    ∃ after, Fills (getOneCapability memory node isVideoGroup) cap after ∧ Shows isVideoGroup node after := by
  have role : Fills (orDiscard (zoom (·.role) (fun v c => { c with role := v }) (getWord node "role" MEDIA_ROLETYPE_INVALID)) noRole)
      cap { cap with role := node.uint "role" } := .orDiscard (.zoom (fills_getWord (formed.numbers "role" (by decide)) _ _))
  have type : Fills (orDiscard (zoom (·.type) (fun v c => { c with type := v }) (getWord node "type" INVALID_TYPE))
      fun c => { noRole c with type := INVALID_TYPE }) { cap with role := node.uint "role" }
      { cap with role := node.uint "role", type := node.uint "type" } :=
    .orDiscard (.zoom (fills_getWord (formed.numbers "type" (by decide)) _ _))
  obtain ⟨name, named⟩ := fills_getName formed { cap with role := node.uint "role", type := node.uint "type" }
  obtain ⟨profiles, between, stand, misc, is⟩ := fills_getMiscOfCapability supplied formed
    { cap with
      role := node.uint "role"
      type := node.uint "type"
      compName := writeAt cap.compName 0 (node.text "name" ++ [0])
      isSoftwareCodec := node.getBool "isSoftwareCodec" }
  obtain ⟨port, fillsPort, fields, tables⟩ := fills_port formed between.port
  refine ⟨{ between with port := port }, ?_, ?_⟩
  · refine role.then (type.then (name.orDiscard.then (Fills.then (fills_modify _) (misc.orDiscard.then ?_))))
    exact .orDiscard (.zoom fillsPort)
  · rw [is]
    exact ⟨rfl, rfl, named, stand, rfl, rfl, rfl, rfl, rfl, fields, tables⟩

end

def ConfigTree.entries (tree : ConfigTree) (g : CodecGroup) : List CodecNode := (tree.getChildNode g.nodeName).getD []

def ConfigTree.count (tree : ConfigTree) : Nat := (loadOrder.map fun g => (tree.entries g).length).sum

/-- The eight groups are there, with codecs that are well formed. -/
structure Configured (maskNumLimit : Nat) (tree : ConfigTree) : Prop where
  groups : ∀ g : CodecGroup, (tree.getChildNode g.nodeName).isSome = true
  formed : ∀ g, ∀ node ∈ tree.entries g, WellFormed maskNumLimit g.isVideo node

/-- What is loaded shows the configuration, and no group has memory that is not counted. -/
structure Loaded (tree : ConfigTree) (caps : CodecCapablites) : Prop where
  num : ∀ g, (caps.group g).num = .ofNat (tree.entries g).length
  shows : ∀ g, List.Forall₂ (Shows g.isVideo) (tree.entries g) ((caps.group g).capablitis.getD [])
  empty : ∀ g, (caps.group g).capablitis = none → tree.entries g = []
  total : caps.total = .ofNat tree.count
  inited : caps.inited = true

namespace CodecCapablites

variable {memory : CodecMemory} {tree : ConfigTree} {caps : CodecCapablites} {gs : List CodecGroup}

def counted (memory : CodecMemory) (tree : ConfigTree) (g : CodecGroup) : CodecCapablityGroup :=
  if tree.entries g = [] then ⟨0, none⟩
  else ⟨.ofNat (tree.entries g).length, some ((range (tree.entries g).length).map (memory.fresh g))⟩

theorem int32_positive {n : Nat} (few : n < 2 ^ 31) : 0 < Int32.ofNat n ↔ n ≠ 0 := by
  rw [Int32.lt_iff_toInt_lt, Int32.toInt_ofNat_of_lt few, Int32.toInt_zero]
  omega

section
variable (supplied : ∀ size, memory.osalMemAlloc size = true)
include supplied

theorem countGroups_eq (groups : ∀ g : CodecGroup, (tree.getChildNode g.nodeName).isSome = true)
    (few : ∀ g ∈ gs, (tree.entries g).length < 2 ^ 31) (distinct : gs.Nodup) (caps : CodecCapablites) :
    ∃ after, caps.countGroups memory tree gs = (after, true) ∧
      (∀ g, after.group g = if g ∈ gs then counted memory tree g else caps.group g) ∧
      after.total = caps.total + .ofNat (gs.map fun g => (tree.entries g).length).sum ∧ after.inited = caps.inited := by
  induction gs generalizing caps with
  | nil => exact ⟨caps, rfl, fun g => by simp, by simp, rfl⟩
  | cons g rest ih =>
    rw [forall_mem_cons] at few
    rw [nodup_cons] at distinct
    obtain ⟨nodes, child⟩ := Option.isSome_iff_exists.mp (groups g)
    have entries : nodes = tree.entries g := by simp [ConfigTree.entries, child]
    have first : caps.countGroups memory tree (g :: rest) =
        { caps.setGroup g (counted memory tree g) with
          total := caps.total + Int32.ofNat (tree.entries g).length }.countGroups memory tree rest := by
      rw [entries] at child
      by_cases empty : tree.entries g = []
      · simp [countGroups, child, empty, counted, setGroup]
      · have positive : 0 < Int32.ofNat (tree.entries g).length := (int32_positive few.1).mpr (by simpa using empty)
        have num : (Int32.ofNat (tree.entries g).length).toInt.toNat = (tree.entries g).length := by
          rw [Int32.toInt_ofNat_of_lt few.1]
          exact Int.toNat_natCast _
        simp only [countGroups, child, positive, if_true, supplied, num, counted, empty, if_false]
    obtain ⟨after, counts, group, total, inited⟩ := ih few.2 distinct.2
      { caps.setGroup g (counted memory tree g) with total := caps.total + Int32.ofNat (tree.entries g).length }
    refine ⟨after, first.trans counts, fun other => ?_, ?_, inited⟩
    · rw [group other]
      by_cases own : other = g
      · subst own
        simp [distinct.1, setGroup]
      · simp [own, setGroup]
    · rw [total, map_cons, sum_cons, Int32.ofNat_add, Int32.add_assoc]

theorem fillPlaces_shows {isVideoGroup : Bool} {nodes : List CodecNode}
    (formed : ∀ node ∈ nodes, WellFormed memory.maskNumLimit isVideoGroup node) {places : List CodecCompCapability}
    (length : places.length = nodes.length) :
    ∃ filled, fillPlaces memory isVideoGroup nodes places = some filled ∧ List.Forall₂ (Shows isVideoGroup) nodes filled := by
  induction nodes generalizing places with
  | nil =>
    rw [length_nil, length_eq_zero_iff] at length
    exact ⟨[], by rw [length]; rfl, .nil⟩
  | cons node rest ih =>
    cases places with
    | nil => simp at length
    | cons cap others =>
      rw [forall_mem_cons] at formed
      obtain ⟨after, fills, shows⟩ := fills_getOneCapability supplied formed.1 cap
      obtain ⟨filled, rest_filled, all⟩ := ih formed.2 (by simpa using length)
      refine ⟨after :: filled, ?_, .cons shows all⟩
      rw [Fills] at fills
      simp [fillPlaces, leaves, fills, rest_filled]

theorem fillGroups_shows (configured : Configured memory.maskNumLimit tree)
    (distinct : gs.Nodup) (caps : CodecCapablites) (group : ∀ g ∈ gs, caps.group g = counted memory tree g) :
    ∃ after, fillGroups memory tree gs caps = some (after, true) ∧ (∀ g, (after.group g).num = (caps.group g).num) ∧
      (∀ g ∈ gs, List.Forall₂ (Shows g.isVideo) (tree.entries g) ((after.group g).capablitis.getD [])) ∧
      (∀ g, (after.group g).capablitis = none ↔ (caps.group g).capablitis = none) ∧
      (∀ g, g ∉ gs → after.group g = caps.group g) ∧ after.total = caps.total ∧ after.inited = caps.inited := by
  induction gs generalizing caps with
  | nil => exact ⟨caps, rfl, fun _ => rfl, by simp, fun _ => .rfl, fun _ _ => rfl, rfl, rfl⟩
  | cons g rest ih =>
    rw [forall_mem_cons] at group
    rw [nodup_cons] at distinct
    obtain ⟨nodes, child⟩ := Option.isSome_iff_exists.mp (configured.groups g)
    have entries : nodes = tree.entries g := by simp [ConfigTree.entries, child]
    have length : ((caps.group g).capablitis.getD []).length = (tree.entries g).length := by
      rw [group.1, counted]
      split
      · rename_i empty
        simp [empty]
      · simp
    obtain ⟨filled, fills, shows⟩ := fillPlaces_shows supplied (configured.formed g) length
    obtain ⟨after, rest_fills, num, all, null, others, total, inited⟩ := ih distinct.2
      (caps.setGroup g { caps.group g with capablitis := (caps.group g).capablitis.map fun _ => filled }) (by
        intro other member
        have differs : other ≠ g := fun same => distinct.1 (same ▸ member)
        simpa [setGroup, differs] using group.2 other member)
    refine ⟨after, ?_, fun other => ?_, ?_, fun other => ?_, fun other outside => ?_, total, inited⟩
    · rw [← rest_fills]
      simp [fillGroups, child, entries, fills]
    · rw [num other]
      by_cases own : other = g
      · subst own
        simp [setGroup]
      · simp [setGroup, own]
    · rw [forall_mem_cons]
      refine ⟨?_, all⟩
      rw [others g distinct.1]
      simp only [setGroup, Function.update_self]
      cases null : (caps.group g).capablitis with
      | some places => exact shows
      | none =>
        rw [null, Option.getD_none, length_nil] at length
        rw [length_eq_zero_iff.mp length.symm]
        exact .nil
    · rw [null other]
      by_cases own : other = g
      · subst own
        simp [setGroup]
      · simp [setGroup, own]
    · rw [mem_cons, not_or] at outside
      rw [others other outside.2]
      simp [setGroup, outside.1]

end

theorem mem_loadOrder (g : CodecGroup) : g ∈ loadOrder := by cases g <;> decide

theorem load_loaded (supplied : ∀ size, memory.osalMemAlloc size = true) (configured : Configured memory.maskNumLimit tree)
    (few : tree.count < 2 ^ 31) :
    ∃ caps, loadCodecCapabilityFromHcs memory tree new = some (caps, true) ∧ Loaded tree caps := by
  have each : ∀ g ∈ loadOrder, (tree.entries g).length < 2 ^ 31 := by
    intro g member
    have its : (tree.entries g).length ≤ tree.count := le_sum_of_mem (mem_map_of_mem member)
    exact Nat.lt_of_le_of_lt its few
  obtain ⟨between, counts, group, total, inited⟩ := countGroups_eq supplied configured.groups each (by decide) new
  have group : ∀ g ∈ loadOrder, between.group g = counted memory tree g := fun g member => by rw [group g, if_pos member]
  obtain ⟨after, fills, num, shows, null, _, total_after, _⟩ := fillGroups_shows supplied configured (by decide) between group
  refine ⟨{ after with inited := true }, ?_, ?_, fun g => shows g (mem_loadOrder g), ?_, ?_, rfl⟩
  · simp only [loadCodecCapabilityFromHcs, counts, fills]
  · intro g
    show (after.group g).num = _
    rw [num g, group g (mem_loadOrder g), counted]
    split
    · rename_i empty
      simp [empty]
    · rfl
  · intro g none
    have none := (null g).mp none
    rw [group g (mem_loadOrder g), counted] at none
    split at none
    · assumption
    · cases none
  · show after.total = _
    rw [total_after, total]
    exact Int32.zero_add _

theorem clear_loaded (loaded : Loaded tree caps) : caps.clearCapabilityGroup = new := by
  have group : ∀ g, (caps.clearCapabilityGroup).group g = ⟨0, none⟩ := by
    intro g
    simp only [clearCapabilityGroup]
    split
    · rfl
    · rename_i null
      have null : (caps.group g).capablitis = none := by simpa using null
      have num := loaded.num g
      rw [loaded.empty g null] at num
      exact congrArg₂ CodecCapablityGroup.mk num null
  have groups : (caps.clearCapabilityGroup).group = new.group := funext group
  simp only [clearCapabilityGroup, new] at groups ⊢
  rw [groups]

end CodecCapablites

end Peripheral.CodecCapability
