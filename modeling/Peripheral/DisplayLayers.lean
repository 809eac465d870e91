import Mathlib.Algebra.Group.Nat.Defs
import Peripheral.Simulations
import Peripheral.Stacking

/-!
The layers of the displays, `hdi_session.cpp`, `hdi_display.cpp`, `hdi_layer.cpp` and
`hdi_gfx_composition.cpp`. A display has its layers in a map by their ids, and again in a set
by their z-orders; what was visible when the layers were prepared is drawn when they are
committed, through pointers that nobody clears. Against it stands what a client may think of:
the layers of each display by value, in the order in which they got their places.
-/
namespace Peripheral.Display
open Simulations Stacking
open Function (update)

inductive CompositionType
  | client
  | device
  | cursor
  | video
  | butt
  deriving DecidableEq

structure IRect where
  x : Int
  y : Int
  w : Int
  h : Int
  deriving DecidableEq

/-- What is passed on to the blitter; the alpha is `gAlpha` if it is enabled. -/
structure Picture where
  mDisplayRect : IRect
  mCrop : IRect
  mAlpha : Option Nat
  mTransformType : Nat
  mBlendType : Nat
  deriving DecidableEq

structure HdiLayer where
  mId : Nat
  mZorder : Nat
  mVisible : Bool
  mCompositionType : CompositionType
  mDeviceSelect : CompositionType
  mHdiBuffer : Option Nat
  picture : Picture
  deriving DecidableEq

/-- The setters of a layer that its drawing depends on. -/
inductive LayerSetting
  | visible (visible : Bool)
  | compositionType (type : CompositionType)
  | buffer (buffer : Nat)
  | picture (picture : Picture)
  deriving DecidableEq

/-- What the driver is asked to draw, and into which buffer. -/
inductive GfxOp
  | blit (src : Nat) (picture : Picture) (dst : Nat)
  | fillRect (rect : IRect) (dst : Nat)
  deriving DecidableEq

/-- A layer that was freed is read, or an id is looked for without end. -/
inductive Halt
  | freed
  | endless
  deriving DecidableEq

/-- `picture` is what the memory of a new layer holds, `gfx` what the blitter accepts, `outFence` the fence of the
commit if that succeeds. -/
inductive Call
  | createLayer (picture : Picture)
  | closeLayer (id : Nat)
  | setLayerZorder (id zorder : Nat)
  | setLayer (id : Nat) (setting : LayerSetting)
  | setDisplayClientBuffer (buffer : Nat)
  | prepareDisplayLayers
  | getDisplayCompChange
  | getDisplayReleaseFence
  | commit (gfx : GfxOp → Bool) (outFence : Option Int)

inductive Answer
  | done (success : Bool)
  | created (layerId : Nat)
  | compChange (layers : List (Nat × CompositionType))
  | releaseFence (layers : List Nat)
  | committed (drawn : List GfxOp) (fence : Int)
  deriving DecidableEq

def INVALIDE_LAYER_ID : Nat := 0xffffffff
def INVALIDE_DISPLAY_ID : Nat := 0xffffffff

namespace HdiLayer

/-- `mZorder` is `-1` as a `uint32_t`. -/
def new (id : Nat) (picture : Picture) : HdiLayer := ⟨id, 0xffffffff, true, .client, .client, none, picture⟩

def set (layer : HdiLayer) : LayerSetting → HdiLayer
  | .visible visible => { layer with mVisible := visible }
  | .compositionType type => { layer with mCompositionType := type }
  | .buffer buffer => { layer with mHdiBuffer := some buffer }
  | .picture picture => { layer with picture := picture }

/-- `HdiGfxComposition::SetLayers` for one layer. -/
def select (layer : HdiLayer) : HdiLayer :=
  if layer.mCompositionType ≠ .video ∧ layer.mCompositionType ≠ .cursor then { layer with mDeviceSelect := .device }
  else { layer with mDeviceSelect := layer.mCompositionType }

/-- What `PrepareDisplayLayers` makes of a layer after that. -/
def follow (layer : HdiLayer) : HdiLayer :=
  if layer.mDeviceSelect ≠ layer.mCompositionType then { layer with mCompositionType := layer.mDeviceSelect } else layer

/-- What `Apply` asks for: nothing for a type that it does not know, and it fails without the buffers. -/
def draw (layer : HdiLayer) (client : Option Nat) : Option (List GfxOp) :=
  match layer.mCompositionType with
  | .video => client.map fun dst => [.fillRect layer.picture.mDisplayRect dst]
  | .device => do return [.blit (← layer.mHdiBuffer) layer.picture (← client)]
  | _ => some []

end HdiLayer

def deref (look : Nat → Option HdiLayer) (p : Nat) : Except Halt HdiLayer := (look p).elim (.error .freed) .ok

/-- `HdiGfxComposition::Apply`: what was drawn, and whether all of it was. -/
def apply (look : Nat → Option HdiLayer) (client : Option Nat) (gfx : GfxOp → Bool) :
    List Nat → Except Halt (List GfxOp × Bool)
  | [] => .ok ([], true)
  | p :: rest => do
    let layer ← deref look p
    match layer.draw client with
    | none => return ([], false)
    | some ops =>
      if ops.all gfx then
        let (more, all) ← apply look client gfx rest
        return (ops ++ more, all)
      else return (ops, false)

def compChange (look : Nat → Option HdiLayer) (layers : List Nat) : Except Halt (List (Nat × CompositionType)) :=
  layers.mapM fun p => (deref look p).map fun layer => (layer.mId, layer.mCompositionType)

theorem apply_congr {look look' : Nat → Option HdiLayer} {layers : List Nat} (same : ∀ p ∈ layers, look p = look' p)
    (client : Option Nat) (gfx : GfxOp → Bool) : apply look client gfx layers = apply look' client gfx layers := by
  induction layers with
  | nil => rfl
  | cons p rest ih =>
    rw [apply, apply, deref, deref, same p (by simp), ih fun q member => same q (by simp [member])]

theorem compChange_congr {look look' : Nat → Option HdiLayer} {layers : List Nat} (same : ∀ p ∈ layers, look p = look' p) :
    compChange look layers = compChange look' layers := by
  induction layers with
  | nil => rfl
  | cons p rest ih =>
    simp only [compChange, List.mapM_cons] at ih ⊢
    rw [deref, deref, same p (by simp), ih fun q member => same q (by simp [member])]

theorem mapM_deref {look : Nat → Option HdiLayer} {layers : List HdiLayer} (there : ∀ layer ∈ layers, look layer.mId = some layer) :
    ((layers.map (·.mId)).mapM fun p => (deref look p).map (·.mId)) = .ok (layers.map (·.mId)) := by
  induction layers with
  | nil => rfl
  | cons layer rest ih =>
    rw [List.map_cons, List.mapM_cons, deref, there layer (by simp), ih fun other member => there other (by simp [member])]
    rfl

/-- The loop of `GetIdleId`: the id that is not used, with the place to begin the next time. -/
def searchId (mIdSets : List Nat) (oldIdleId : Nat) : Nat → Nat → Option (Nat × Nat)
  | 0, _ => none
  | rounds + 1, mIdleId =>
    if mIdleId ∈ mIdSets then
      if oldIdleId = (mIdleId + 1) % INVALIDE_LAYER_ID then some (INVALIDE_LAYER_ID, oldIdleId)
      else searchId mIdSets oldIdleId rounds ((mIdleId + 1) % INVALIDE_LAYER_ID)
    else some (mIdleId, mIdleId)

/-- The layers of all displays; objects are numbered as they are made, and `mIdSets` and `mIdleId` are static. -/
structure Pool where
  heap : Nat → Option HdiLayer
  made : Nat
  mIdSets : List Nat
  mIdleId : Nat

/-- A loop that did not end after so many rounds was everywhere, and does not end. -/
def Pool.getIdleId (pool : Pool) : Option (Nat × Pool) :=
  (searchId pool.mIdSets pool.mIdleId (2 ^ 32) (pool.mIdleId % INVALIDE_LAYER_ID)).map fun (id, mIdleId) =>
    (id, { pool with mIdSets := pool.mIdSets.insert id, mIdleId := (mIdleId + 1) % 2 ^ 32 })

/-- `mCompLayers` are those of the gfx composition. Of the client layer only the buffer and the release fence matter. -/
structure HdiDisplay where
  mLayersMap : Nat → Option Nat
  mLayers : List Nat
  mChangeLayers : List Nat
  mCompLayers : List Nat
  clientBuffer : Option Nat
  clientFence : Int

/-- What the comparisons of `mLayers` read. -/
def zorder (heap : Nat → Option HdiLayer) (p : Nat) : Nat := ((heap p).map (·.mZorder)).getD 0

namespace HdiDisplay

/-- The layers of the set are read when it is searched, at most all of them. -/
def readable (d : HdiDisplay) (pool : Pool) : Except Halt Unit :=
  if ∀ p ∈ d.mLayers, (pool.heap p).isSome then .ok () else .error .freed

def createLayer (d : HdiDisplay) (pool : Pool) (picture : Picture) : Except Halt ((Pool × HdiDisplay) × Answer) := do
  let (id, pool) ← pool.getIdleId.elim (.error .endless) .ok
  if id = INVALIDE_LAYER_ID then return (({ pool with made := pool.made + 1 }, d), .done false)
  d.readable pool
  let p := pool.made
  let heap := update pool.heap p (some (.new id picture))
  let mLayers := put (zorder heap) p d.mLayers
  -- `emplace` frees the layer if the id is in the map.
  if (d.mLayersMap id).isSome then
    return (({ pool with heap := update heap p none, made := p + 1 }, { d with mLayers }), .created id)
  return (({ pool with heap, made := p + 1 },
    { d with mLayers, mLayersMap := update d.mLayersMap id (some p) }), .created id)

def closeLayer (d : HdiDisplay) (pool : Pool) (id : Nat) : Except Halt ((Pool × HdiDisplay) × Answer) :=
  match d.mLayersMap id with
  | none => .ok ((pool, d), .done false)
  | some p => do
    d.readable pool
    return (({ pool with heap := update pool.heap p none },
      { d with mLayers := remove (zorder pool.heap) p d.mLayers
               mLayersMap := update d.mLayersMap id none }), .done true)

def setLayerZorder (d : HdiDisplay) (pool : Pool) (id z : Nat) : Except Halt ((Pool × HdiDisplay) × Answer) :=
  match d.mLayersMap id with
  | none => .ok ((pool, d), .done false)
  | some p => do
    let layer ← deref pool.heap p
    if layer.mZorder = z then return ((pool, d), .done true)
    d.readable pool
    let heap := update pool.heap p (some { layer with mZorder := z })
    return (({ pool with heap }, { d with mLayers := put (zorder heap) p (remove (zorder pool.heap) p d.mLayers) }), .done true)

/-- `CallLayerFunction`. -/
def setLayer (d : HdiDisplay) (pool : Pool) (id : Nat) (setting : LayerSetting) :
    Except Halt ((Pool × HdiDisplay) × Answer) :=
  match d.mLayersMap id with
  | none => .ok ((pool, d), .done false)
  | some p => do
    let layer ← deref pool.heap p
    return (({ pool with heap := update pool.heap p (some (layer.set setting)) }, d), .done true)

def prepareDisplayLayers (d : HdiDisplay) (pool : Pool) : Except Halt ((Pool × HdiDisplay) × Answer) := do
  d.readable pool
  let layers := d.mLayers.filter fun p => (pool.heap p).any (·.mVisible)
  return (({ pool with heap := fun p => if p ∈ layers then (pool.heap p).map fun layer => layer.select.follow else pool.heap p },
    { d with mCompLayers := layers, mChangeLayers := layers }), .done true)

def getDisplayReleaseFence (d : HdiDisplay) (pool : Pool) : Except Halt ((Pool × HdiDisplay) × Answer) := do
  return ((pool, d), .releaseFence (← d.mLayers.mapM fun p => (deref pool.heap p).map (·.mId)))

/-- The result of the composer is not looked at. -/
def commit (d : HdiDisplay) (pool : Pool) (gfx : GfxOp → Bool) (outFence : Option Int) :
    Except Halt ((Pool × HdiDisplay) × Answer) := do
  let (drawn, all) ← apply pool.heap d.clientBuffer gfx d.mCompLayers
  let d := if all then { d with clientFence := outFence.getD d.clientFence } else d
  return ((pool, d), .committed drawn d.clientFence)

def call (d : HdiDisplay) (pool : Pool) : Call → Except Halt ((Pool × HdiDisplay) × Answer)
  | .createLayer picture => d.createLayer pool picture
  | .closeLayer id => d.closeLayer pool id
  | .setLayerZorder id z => d.setLayerZorder pool id z
  | .setLayer id setting => d.setLayer pool id setting
  | .setDisplayClientBuffer buffer => .ok ((pool, { d with clientBuffer := some buffer }), .done true)
  | .prepareDisplayLayers => d.prepareDisplayLayers pool
  | .getDisplayCompChange => do return ((pool, d), .compChange (← compChange pool.heap d.mChangeLayers))
  | .getDisplayReleaseFence => d.getDisplayReleaseFence pool
  | .commit gfx outFence => d.commit pool gfx outFence

end HdiDisplay

/-- The layers of a display in the order in which they got their z-orders, and the ids of those that are to be drawn. -/
structure Scene where
  placed : List HdiLayer
  prepared : List Nat
  clientBuffer : Option Nat
  clientFence : Int

namespace Scene

def look (s : Scene) (id : Nat) : Option HdiLayer := s.placed.find? (·.mId = id)

/-- From the lowest layer to the highest; layers with one z-order as they were placed. -/
def stack (s : Scene) : List HdiLayer := Stacking.stack (·.mZorder) s.placed

def close (s : Scene) (id : Nat) : Scene := { s with placed := s.placed.filter (·.mId ≠ id) }

/-- The layer with the z-order gets a new place. -/
def move (s : Scene) (layer : HdiLayer) (z : Nat) : Scene :=
  { s with placed := (s.close layer.mId).placed ++ [{ layer with mZorder := z }] }

def change (s : Scene) (which : HdiLayer → Bool) (f : HdiLayer → HdiLayer) : Scene :=
  { s with placed := s.placed.map fun layer => if which layer then f layer else layer }

def prepare (s : Scene) : Scene :=
  { s.change (·.mVisible) (fun layer => layer.select.follow) with
    prepared := (s.stack.filter (·.mVisible)).map (·.mId) }

/-- `created` is how many layers were created, on all displays. -/
def call (s : Scene) (created : Nat) : Call → Except Halt ((Nat × Scene) × Answer)
  | .createLayer picture =>
    if created = INVALIDE_LAYER_ID then .error .endless
    else .ok ((created + 1, { s with placed := s.placed ++ [.new created picture] }), .created created)
  | .closeLayer id =>
    match s.look id with
    | none => .ok ((created, s), .done false)
    | some _ => .ok ((created, s.close id), .done true)
  | .setLayerZorder id z =>
    match s.look id with
    | none => .ok ((created, s), .done false)
    | some layer => .ok ((created, if layer.mZorder = z then s else s.move layer z), .done true)
  | .setLayer id setting =>
    match s.look id with
    | none => .ok ((created, s), .done false)
    | some _ => .ok ((created, s.change (·.mId = id) (·.set setting)), .done true)
  | .setDisplayClientBuffer buffer => .ok ((created, { s with clientBuffer := some buffer }), .done true)
  | .prepareDisplayLayers => .ok ((created, s.prepare), .done true)
  | .getDisplayCompChange => do return ((created, s), .compChange (← compChange s.look s.prepared))
  | .getDisplayReleaseFence => .ok ((created, s), .releaseFence (s.stack.map (·.mId)))
  | .commit gfx outFence => do
    let (drawn, all) ← apply s.look s.clientBuffer gfx s.prepared
    let s := if all then { s with clientFence := outFence.getD s.clientFence } else s
    return ((created, s), .committed drawn s.clientFence)

end Scene

/-- What the displays share, and the displays by their ids. -/
structure Session (π δ : Type) where
  shared : π
  mHdiDisplays : Nat → Option δ

/-- `CallDisplayFunction`, with what a call does at a display. -/
def Session.callDisplayFunction {π δ : Type} (call : δ → π → Call → Except Halt ((π × δ) × Answer)) (s : Session π δ)
    (step : Nat × Call) : Except Halt (Session π δ × Answer) :=
  if step.1 = INVALIDE_DISPLAY_ID then .ok (s, .done false)
  else match s.mHdiDisplays step.1 with
    | none => .ok (s, .done false)
    | some d => (call d s.shared step.2).map fun x => (⟨x.1.1, update s.mHdiDisplays step.1 (some x.1.2)⟩, x.2)

/-- After the displays were discovered; the buffers of their client layers and their fences are given. -/
def Session.start (displays : Nat → Option (Option Nat × Int)) : Session Pool HdiDisplay :=
  ⟨⟨fun _ => none, 0, [], 0⟩, fun devId => (displays devId).map fun client => ⟨fun _ => none, [], [], [], client.1, client.2⟩⟩

def Session.scenes (displays : Nat → Option (Option Nat × Int)) : Session Nat Scene :=
  ⟨0, fun devId => (displays devId).map fun client => ⟨[], [], client.1, client.2⟩⟩

end Peripheral.Display
