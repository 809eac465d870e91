import Peripheral.DisplayLayers

/-!
The pointers of the displays show the layers by value: whatever a client calls on whatever
displays, it gets the answers that the layers by value give.
-/
namespace Peripheral.Display
open Simulations Stacking Function Scene HdiDisplay List

variable {s : Scene} {d : HdiDisplay} {pool : Pool} {owner : Nat → Nat} {devId created : Nat}

namespace Scene

theorem look_iff (distinct : (s.placed.map (·.mId)).Nodup) {id : Nat} {layer : HdiLayer} :
    s.look id = some layer ↔ layer ∈ s.placed ∧ layer.mId = id := by
  constructor
  · intro found
    exact ⟨mem_of_find?_eq_some found, by simpa using find?_some found⟩
  · rintro ⟨member, rfl⟩
    cases found : s.look layer.mId with
    | none => simpa using find?_eq_none.mp found layer member
    | some other =>
      have same : other.mId = layer.mId := by simpa using find?_some found
      rw [inj_on_of_nodup_map distinct (mem_of_find?_eq_some found) member same]

theorem look_close (id p : Nat) : (s.close id).look p = if p = id then none else s.look p := by
  rw [look, close, find?_filter]
  split
  · rename_i same
    refine find?_eq_none.mpr fun layer _ => ?_
    simp [same]
  · rename_i other
    refine congrArg (find? · s.placed) (funext fun layer => ?_)
    by_cases its : layer.mId = p
    · simp [its, other]
    · simp [its]

theorem look_append (layer : HdiLayer) (new : s.look layer.mId = none) (p : Nat) :
    ({ s with placed := s.placed ++ [layer] } : Scene).look p = if p = layer.mId then some layer else s.look p := by
  rw [look, find?_append]
  split
  · rename_i same
    subst same
    rw [look] at new
    simp [new]
  · rename_i other
    have not : ¬ layer.mId = p := fun same => other same.symm
    simp [look, not]

theorem look_change (which : HdiLayer → Bool) (f : HdiLayer → HdiLayer) (ids : ∀ layer, (f layer).mId = layer.mId) (p : Nat) :
    (s.change which f).look p = (s.look p).map fun layer => if which layer then f layer else layer := by
  rw [look, look, change, find?_map]
  refine congrArg (fun q => Option.map _ (find? q s.placed)) (funext fun layer => ?_)
  simp only [comp_apply]
  split
  · rw [ids]
  · rfl

theorem stack_change (which : HdiLayer → Bool) (f : HdiLayer → HdiLayer) (zs : ∀ layer, (f layer).mZorder = layer.mZorder) :
    (s.change which f).stack = s.stack.map fun layer => if which layer then f layer else layer := by
  refine stack_map _ fun layer _ => ?_
  split
  · exact zs layer
  · rfl

theorem mem_stack {layer : HdiLayer} : layer ∈ s.stack ↔ layer ∈ s.placed := Stacking.mem_stack

end Scene

theorem follow_select (layer : HdiLayer) :
    layer.select.follow.mId = layer.mId ∧ layer.select.follow.mZorder = layer.mZorder := by
  constructor <;>
  · rw [HdiLayer.follow]
    split <;>
    · simp only [HdiLayer.select]
      split <;> rfl

theorem HdiLayer.set_kept (layer : HdiLayer) (setting : LayerSetting) :
    (layer.set setting).mId = layer.mId ∧ (layer.set setting).mZorder = layer.mZorder := by
  cases setting <;> exact ⟨rfl, rfl⟩

/-- The layers were numbered as they were created, and the ids go on from there. -/
structure Counts (pool : Pool) (created : Nat) : Prop where
  made : pool.made = created
  idle : pool.mIdleId = created
  used : ∀ id, id ∈ pool.mIdSets ↔ id < created
  bound : created ≤ INVALIDE_LAYER_ID
  fresh : ∀ p, created ≤ p → pool.heap p = none

/-- A display has its layers, among those of all displays, of which `owner` says whose each is. -/
structure Shows (owner : Nat → Nat) (created : Nat) (heap : Nat → Option HdiLayer) (devId : Nat) (d : HdiDisplay) (s : Scene) :
    Prop where
  look : ∀ p, owner p = devId → heap p = s.look p
  own : ∀ layer ∈ s.placed, layer.mId < created ∧ owner layer.mId = devId
  distinct : (s.placed.map (·.mId)).Nodup
  map : ∀ id, d.mLayersMap id = (s.look id).map fun _ => id
  layers : d.mLayers = s.stack.map (·.mId)
  lists : d.mChangeLayers = s.prepared ∧ d.mCompLayers = s.prepared
  prepared : ∀ p ∈ s.prepared, p < created ∧ owner p = devId
  client : d.clientBuffer = s.clientBuffer ∧ d.clientFence = s.clientFence

/-- What one display does leaves the layers of the others. -/
structure Beside (owner owner' : Nat → Nat) (created devId : Nat) (heap heap' : Nat → Option HdiLayer) : Prop where
  old : ∀ p < created, owner' p = owner p
  others : ∀ p, owner' p ≠ devId → owner' p = owner p ∧ heap' p = heap p

/-- The display and its layers after a call. -/
def Next (owner : Nat → Nat) (created devId : Nat) (heap : Nat → Option HdiLayer) (x : Pool × HdiDisplay) (y : Nat × Scene) :
    Prop :=
  ∃ owner', Counts x.1 y.1 ∧ created ≤ y.1 ∧ Shows owner' y.1 x.1.heap devId x.2 y.2 ∧
    Beside owner owner' created devId heap x.1.heap

theorem Next.update (counts : Counts pool created) {d' : HdiDisplay} {s' : Scene} {p : Nat} (old : p < created)
    (its : owner p = devId) (value : Option HdiLayer)
    (shows' : Shows owner created (update pool.heap p value) devId d' s') : Next owner created devId pool.heap
      ({ pool with heap := update pool.heap p value }, d') (created, s') := by
  refine ⟨owner, { counts with fresh := fun q new => ?_ }, le_rfl, shows', fun _ _ => rfl, fun q other => ⟨rfl, ?_⟩⟩
  · exact (update_of_ne (show q ≠ p by omega) _ _).trans (counts.fresh q new)
  · exact update_of_ne (by rintro rfl; exact other its) _ _

namespace Shows

variable {heap : Nat → Option HdiLayer}

section
variable (shows' : Shows owner created heap devId d s)
include shows'

theorem there {layer : HdiLayer} (member : layer ∈ s.placed) : heap layer.mId = some layer :=
  (shows'.look _ (shows'.own layer member).2).trans ((look_iff shows'.distinct).mpr ⟨member, rfl⟩)

theorem zorder_eq {layer : HdiLayer} (member : layer ∈ s.placed) : zorder heap layer.mId = layer.mZorder := by
  rw [zorder, shows'.there member]
  rfl

theorem readable (pool : Pool) (same : pool.heap = heap) : d.readable pool = .ok () := by
  refine if_pos fun p member => ?_
  rw [shows'.layers] at member
  obtain ⟨layer, placed, rfl⟩ := mem_map.mp member
  rw [same, shows'.there (Scene.mem_stack.mp placed)]
  rfl

/-- The layer is found in its range and taken out. -/
theorem remove_layer (id : Nat) : remove (zorder heap) id d.mLayers = (s.close id).stack.map (·.mId) := by
  have sorted : d.mLayers.Pairwise fun p q => zorder heap p ≤ zorder heap q := by
    rw [shows'.layers, pairwise_map]
    refine (stacked_stack (·.mZorder) s.placed).sorted.imp_of_mem fun first second le => ?_
    rw [shows'.zorder_eq (Scene.mem_stack.mp first), shows'.zorder_eq (Scene.mem_stack.mp second)]
    exact le
  have distinct : d.mLayers.Nodup := by
    rw [shows'.layers]
    exact ((stacked_stack (fun layer : HdiLayer => layer.mZorder) s.placed).perm.map _).nodup_iff.mpr shows'.distinct
  rw [remove_eq id sorted distinct, shows'.layers, filter_map]
  exact congrArg (List.map _) (stack_filter _).symm

/-- A layer of the display is new, or gets a new place. -/
theorem place (layer : HdiLayer) (absent : s.look layer.mId = none)
    (old : layer.mId < created) (its : owner layer.mId = devId) :
    Shows owner created (update heap layer.mId (some layer)) devId
      { d with mLayers := put (zorder (update heap layer.mId (some layer))) layer.mId d.mLayers
               mLayersMap := update d.mLayersMap layer.mId (some layer.mId) }
      { s with placed := s.placed ++ [layer] } := by
  have other : ∀ own ∈ s.placed, own.mId ≠ layer.mId := by
    intro own member same
    have found := (look_iff shows'.distinct).mpr ⟨member, same⟩
    rw [absent] at found
    cases found
  refine ⟨fun p its => ?_, fun own member => ?_, ?_, fun id => ?_, ?_, shows'.lists, shows'.prepared, shows'.client⟩
  · rw [look_append _ absent, update_apply, shows'.look p its]
  · rcases mem_append.mp member with member | member
    · exact shows'.own own member
    · rw [mem_singleton.mp member]
      exact ⟨old, its⟩
  · rw [map_append, nodup_append]
    refine ⟨shows'.distinct, by simp, fun id member id' its same => ?_⟩
    obtain ⟨own, placed, rfl⟩ := mem_map.mp member
    exact other own placed (same.trans (by simpa using its))
  · refine (update_apply _ _ _ _).trans ?_
    rw [look_append _ absent, shows'.map]
    split
    · rename_i same
      rw [same]
      rfl
    · rfl
  · rw [Scene.stack, stack_append]
    refine (congrArg _ shows'.layers).trans (put_map (fun own : HdiLayer => own.mId) ?_ fun own member => ?_)
    · rw [zorder, update_self]
      rfl
    · have placed := Scene.mem_stack.mp member
      rw [zorder, update_of_ne (other own placed), shows'.there placed]
      rfl

theorem close (id : Nat) :
    Shows owner created (update heap id none) devId
      { d with mLayers := remove (zorder heap) id d.mLayers, mLayersMap := update d.mLayersMap id none } (s.close id) where
  look p its := by rw [look_close, update_apply, shows'.look p its]
  own layer member := shows'.own layer (mem_of_mem_filter member)
  distinct := shows'.distinct.sublist (filter_sublist.map _)
  map other := by
    refine (update_apply _ _ _ _).trans ?_
    rw [look_close, shows'.map]
    split <;> rfl
  layers := shows'.remove_layer id
  lists := shows'.lists
  prepared := shows'.prepared
  client := shows'.client

/-- Some layers change, but for their ids and z-orders. -/
theorem change (which : HdiLayer → Bool) {f : HdiLayer → HdiLayer}
    (kept : ∀ layer, (f layer).mId = layer.mId ∧ (f layer).mZorder = layer.mZorder) {heap' : Nat → Option HdiLayer}
    (changed : ∀ p, owner p = devId → heap' p = (s.look p).map fun layer => if which layer then f layer else layer) :
    Shows owner created heap' devId d (s.change which f) := by
  have ids : ∀ layer, (if which layer then f layer else layer).mId = layer.mId := fun layer => by
    split
    · exact (kept layer).1
    · rfl
  refine ⟨fun p its => ?_, fun own member => ?_, ?_, fun id => ?_, ?_, shows'.lists, shows'.prepared, shows'.client⟩
  · rw [changed p its, look_change which f (kept · |>.1)]
  · obtain ⟨layer, placed, rfl⟩ := mem_map.mp member
    rw [ids]
    exact shows'.own layer placed
  · rw [Scene.change, map_map, show (·.mId) ∘ (fun layer => if which layer then f layer else layer) = (·.mId) from funext ids]
    exact shows'.distinct
  · rw [shows'.map, look_change which f (kept · |>.1), Option.map_map]
    rfl
  · rw [shows'.layers, stack_change which f (kept · |>.2), map_map]
    exact map_congr_left fun layer _ => (ids layer).symm

theorem client_changed {buffer buffer' : Option Nat} {fence fence' : Int}
    (buffers : buffer = buffer') (fences : fence = fence') :
    Shows owner created heap devId { d with clientBuffer := buffer, clientFence := fence }
      { s with clientBuffer := buffer', clientFence := fence' } :=
  ⟨shows'.look, shows'.own, shows'.distinct, shows'.map, shows'.layers, shows'.lists, shows'.prepared, ⟨buffers, fences⟩⟩

end

end Shows

theorem searchId_endless {used : List Nat} (all : ∀ id < INVALIDE_LAYER_ID, id ∈ used) (rounds : Nat) :
    ∀ id < INVALIDE_LAYER_ID, searchId used INVALIDE_LAYER_ID rounds id = none := by
  induction rounds with
  | zero => intro id _; rfl
  | succ rounds ih =>
    intro id inside
    have next : (id + 1) % INVALIDE_LAYER_ID < INVALIDE_LAYER_ID := Nat.mod_lt _ (by decide)
    rw [searchId, if_pos (all id inside), if_neg next.ne']
    exact ih _ next

theorem getIdleId_endless (counts : Counts pool INVALIDE_LAYER_ID) : pool.getIdleId = none := by
  rw [Pool.getIdleId, counts.idle, Nat.mod_self, searchId_endless (fun id inside => (counts.used id).mpr inside) _ 0 (by decide)]
  rfl

section
variable (counts : Counts pool created)
include counts

theorem getIdleId_free (free : created < INVALIDE_LAYER_ID) : pool.getIdleId =
    some (created, { pool with mIdSets := pool.mIdSets.insert created, mIdleId := created + 1 }) := by
  have unused : created ∉ pool.mIdSets := fun member => (counts.used _).mp member |>.false
  have once : searchId pool.mIdSets created (2 ^ 32) created = some (created, created) := by
    rw [show 2 ^ 32 = 2 ^ 32 - 1 + 1 from rfl, searchId, if_neg unused]
  have small : (created + 1) % 2 ^ 32 = created + 1 := Nat.mod_eq_of_lt (by rw [INVALIDE_LAYER_ID] at free; omega)
  rw [Pool.getIdleId, counts.idle, Nat.mod_eq_of_lt free, once, Option.map_some]
  simp only [small]

section
variable (shows' : Shows owner created pool.heap devId d s)
include shows'

theorem createLayer_alike (picture : Picture) :
    Alike (Next owner created devId pool.heap) (d.createLayer pool picture) (s.call created (.createLayer picture)) := by
  rcases counts.bound.eq_or_lt with rfl | free
  · rw [HdiDisplay.createLayer, getIdleId_endless counts, Scene.call, if_pos rfl]
    exact .halts _
  have old : ∀ layer ∈ s.placed, layer.mId < created := fun layer member => (shows'.own layer member).1
  have absent : s.look created = none := find?_eq_none.mpr fun layer member => by simpa using (old layer member).ne
  have unmapped : d.mLayersMap created = none := by rw [shows'.map, absent]; rfl
  rw [HdiDisplay.createLayer, getIdleId_free counts free, Scene.call, if_neg free.ne]
  simp only [Option.elim_some, bind, Except.bind, if_neg free.ne, shows'.readable, counts.made, unmapped, Option.isSome_none,
    Bool.false_eq_true, if_false, pure, Except.pure]
  -- The layer of the next number gets this display for its owner.
  have owned : ∀ p < created, Function.update owner created devId p = owner p := fun p before =>
    update_of_ne before.ne _ _
  have grown : Shows (update owner created devId) (created + 1) pool.heap devId d s := by
    refine { shows' with look := fun p its => ?_, own := fun layer member => ?_, prepared := fun p member => ?_ }
    · by_cases same : p = created
      · rw [same, absent, counts.fresh created le_rfl]
      · exact shows'.look p ((update_of_ne same _ _).symm.trans its)
    · exact ⟨(old layer member).trans (Nat.lt_succ_self _), (owned _ (old layer member)).trans (shows'.own layer member).2⟩
    · have before := shows'.prepared p member
      exact ⟨before.1.trans (Nat.lt_succ_self _), (owned p before.1).trans before.2⟩
  have placed := grown.place (.new created picture) absent (Nat.lt_succ_self _) (update_self _ _ _)
  refine .answers ⟨update owner created devId, ?_, Nat.le_succ _, placed, owned, fun p other => ?_⟩ _
  · refine ⟨rfl, rfl, fun id => ?_, free, fun p later => ?_⟩
    · rw [mem_insert_iff, counts.used]
      omega
    · exact (update_of_ne (show p ≠ created by omega) _ _).trans (counts.fresh p (by omega))
  · have differs : p ≠ created := by
      rintro rfl
      exact other (update_self _ _ _)
    exact ⟨update_of_ne differs _ _, update_of_ne differs _ _⟩

theorem closeLayer_alike (id : Nat) :
    Alike (Next owner created devId pool.heap) (d.closeLayer pool id) (s.call created (.closeLayer id)) := by
  have map := shows'.map id
  rw [HdiDisplay.closeLayer, Scene.call]
  cases found : s.look id with
  | none =>
    rw [found] at map
    rw [map]
    exact .answers ⟨owner, counts, le_rfl, shows', fun _ _ => rfl, fun _ _ => ⟨rfl, rfl⟩⟩ _
  | some layer =>
    obtain ⟨member, rfl⟩ := (look_iff shows'.distinct).mp found
    rw [found] at map
    rw [map]
    simp only [Option.map_some, shows'.readable, bind, Except.bind, pure, Except.pure]
    exact .answers (.update counts (shows'.own layer member).1 (shows'.own layer member).2 _ (shows'.close _)) _

theorem setLayerZorder_alike (id z : Nat) :
    Alike (Next owner created devId pool.heap) (d.setLayerZorder pool id z) (s.call created (.setLayerZorder id z)) := by
  have map := shows'.map id
  have same : Next owner created devId pool.heap (pool, d) (created, s) :=
    ⟨owner, counts, le_rfl, shows', fun _ _ => rfl, fun _ _ => ⟨rfl, rfl⟩⟩
  rw [HdiDisplay.setLayerZorder, Scene.call]
  cases found : s.look id with
  | none =>
    rw [found] at map
    rw [map]
    exact .answers same _
  | some layer =>
    obtain ⟨member, rfl⟩ := (look_iff shows'.distinct).mp found
    have own := shows'.own layer member
    rw [found] at map
    simp only [map, Option.map_some, deref, shows'.there member, Option.elim_some, bind, Except.bind, shows'.readable, pure,
      Except.pure]
    split
    · exact .answers same _
    · have moved := (shows'.close layer.mId).place { layer with mZorder := z }
        (by rw [look_close, if_pos rfl]) own.1 own.2
      have back : update d.mLayersMap layer.mId (some layer.mId) = d.mLayersMap := update_eq_self_iff.mpr map.symm
      simp only [update_idem, back] at moved
      exact .answers (.update counts own.1 own.2 _ moved) _

theorem setLayer_alike (id : Nat) (setting : LayerSetting) :
    Alike (Next owner created devId pool.heap) (d.setLayer pool id setting) (s.call created (.setLayer id setting)) := by
  have map := shows'.map id
  rw [HdiDisplay.setLayer, Scene.call]
  cases found : s.look id with
  | none =>
    rw [found] at map
    rw [map]
    exact .answers ⟨owner, counts, le_rfl, shows', fun _ _ => rfl, fun _ _ => ⟨rfl, rfl⟩⟩ _
  | some layer =>
    obtain ⟨member, rfl⟩ := (look_iff shows'.distinct).mp found
    have own := shows'.own layer member
    rw [found] at map
    simp only [map, Option.map_some, deref, shows'.there member, Option.elim_some, bind, Except.bind, pure, Except.pure]
    refine .answers (.update counts own.1 own.2 _ (shows'.change _ (·.set_kept setting) fun p its => ?_)) _
    by_cases same : p = layer.mId
    · subst same
      rw [update_self, found, Option.map_some, if_pos (by simp)]
    · rw [update_of_ne same, shows'.look p its]
      cases there : s.look p with
      | none => rfl
      | some other =>
        have differs : ¬ other.mId = layer.mId := ((look_iff shows'.distinct).mp there).2 ▸ same
        simp [differs]

theorem prepare_alike :
    Alike (Next owner created devId pool.heap) (d.prepareDisplayLayers pool) (s.call created .prepareDisplayLayers) := by
  have visible : (d.mLayers.filter fun p => (pool.heap p).any (·.mVisible)) = s.prepare.prepared := by
    rw [shows'.layers, filter_map]
    refine congrArg (map _) (filter_congr fun layer member => ?_)
    rw [Function.comp_apply, shows'.there (Scene.mem_stack.mp member)]
    rfl
  have chosen : ∀ p, p ∈ s.prepare.prepared ↔ ∃ layer ∈ s.placed, layer.mVisible = true ∧ layer.mId = p := fun p => by
    simp [Scene.prepare, Scene.mem_stack, and_assoc]
  have prepared : ∀ p ∈ s.prepare.prepared, p < created ∧ owner p = devId := by
    intro p member
    obtain ⟨layer, placed, -, rfl⟩ := (chosen p).mp member
    exact shows'.own layer placed
  simp only [HdiDisplay.prepareDisplayLayers, shows'.readable, bind, Except.bind, pure, Except.pure, visible]
  refine .answers ⟨owner, { counts with fresh := fun p later => ?_ }, le_rfl, ?_, fun _ _ => rfl, fun p other => ⟨rfl, ?_⟩⟩ _
  · refine (if_neg fun member => ?_).trans (counts.fresh p later)
    have before := (prepared p member).1
    omega
  · refine { shows'.change (·.mVisible) follow_select fun p its => ?_ with lists := ⟨rfl, rfl⟩, prepared }
    dsimp only
    rw [shows'.look p its]
    cases there : s.look p with
    | none => simp
    | some layer =>
      obtain ⟨member, rfl⟩ := (look_iff shows'.distinct).mp there
      have alone : layer.mId ∈ s.prepare.prepared ↔ layer.mVisible = true := by
        refine (chosen _).trans ⟨?_, fun shown => ⟨layer, member, shown, rfl⟩⟩
        rintro ⟨other, member', shown, same⟩
        exact inj_on_of_nodup_map shows'.distinct member' member same ▸ shown
      rw [Option.map_some, Option.map_some]
      by_cases shown : layer.mVisible = true
      · rw [if_pos (alone.mpr shown), if_pos shown]
      · rw [if_neg (mt alone.mp shown), if_neg shown]
  · exact if_neg fun member => other (prepared p member).2

/-- Every call on a display answers as it does on the layers by value. -/
theorem call_alike (call : Call) : Alike (Next owner created devId pool.heap) (d.call pool call) (s.call created call) := by
  have stays {d' : HdiDisplay} {s' : Scene} (again : Shows owner created pool.heap devId d' s') :
      Next owner created devId pool.heap (pool, d') (created, s') :=
    ⟨owner, counts, le_rfl, again, fun _ _ => rfl, fun _ _ => ⟨rfl, rfl⟩⟩
  cases call with
  | createLayer picture => exact createLayer_alike counts shows' picture
  | closeLayer id => exact closeLayer_alike counts shows' id
  | setLayerZorder id z => exact setLayerZorder_alike counts shows' id z
  | setLayer id setting => exact setLayer_alike counts shows' id setting
  | setDisplayClientBuffer buffer => exact .answers (stays (shows'.client_changed rfl shows'.client.2)) _
  | prepareDisplayLayers => exact prepare_alike counts shows'
  | getDisplayCompChange =>
    rw [HdiDisplay.call, Scene.call, shows'.lists.1, compChange_congr fun p member => shows'.look p (shows'.prepared p member).2]
    cases compChange s.look s.prepared with
    | error why => exact .halts _
    | ok layers => exact .answers (stays shows') _
  | getDisplayReleaseFence =>
    have ids : (d.mLayers.mapM fun p => (deref pool.heap p).map (·.mId)) = .ok (s.stack.map (·.mId)) := by
      rw [shows'.layers]
      exact mapM_deref fun layer member => shows'.there (Scene.mem_stack.mp member)
    rw [HdiDisplay.call, HdiDisplay.getDisplayReleaseFence, ids]
    exact .answers (stays shows') _
  | commit gfx outFence =>
    have drawn : apply pool.heap d.clientBuffer gfx d.mCompLayers = apply s.look s.clientBuffer gfx s.prepared := by
      rw [shows'.lists.2, shows'.client.1, apply_congr fun p member => shows'.look p (shows'.prepared p member).2]
    rw [HdiDisplay.call, HdiDisplay.commit, drawn, Scene.call]
    cases apply s.look s.clientBuffer gfx s.prepared with
    | error why => exact .halts _
    | ok drawn =>
      obtain ⟨drawn, all⟩ := drawn
      cases all with
      | false =>
        simp only [bind, Except.bind, pure, Except.pure, Bool.false_eq_true, if_false, shows'.client.2]
        exact .answers (stays shows') _
      | true =>
        simp only [bind, Except.bind, pure, Except.pure, if_true, shows'.client.2]
        exact .answers (stays (shows'.client_changed shows'.client.1 rfl)) _

end

end

/-- Every display shows its layers by value. -/
def Refines (s : Session Pool HdiDisplay) (t : Session Nat Scene) : Prop :=
  Counts s.shared t.shared ∧ ∃ owner, ∀ devId,
    Option.Rel (Shows owner t.shared s.shared.heap devId) (s.mHdiDisplays devId) (t.mHdiDisplays devId)

theorem start_refines (displays : Nat → Option (Option Nat × Int)) : Refines (.start displays) (.scenes displays) := by
  refine ⟨⟨rfl, rfl, fun id => ?_, Nat.zero_le _, fun _ _ => rfl⟩, fun _ => 0, fun devId => ?_⟩
  · show id ∈ ([] : List Nat) ↔ id < 0
    simp
  · show Option.Rel _ ((displays devId).map _) ((displays devId).map _)
    cases displays devId with
    | none => exact .none
    | some client => exact .some ⟨fun _ _ => rfl, by simp, .nil, fun _ => rfl, rfl, ⟨rfl, rfl⟩, by simp, ⟨rfl, rfl⟩⟩

theorem step_alike (s : Session Pool HdiDisplay) (t : Session Nat Scene) (step : Nat × Call) (now : Refines s t) :
    Alike Refines (s.callDisplayFunction call step) (t.callDisplayFunction call step) := by
  obtain ⟨counts, owner, each⟩ := now
  rw [Session.callDisplayFunction, Session.callDisplayFunction]
  split
  · exact .answers ⟨counts, owner, each⟩ _
  have its := each step.1
  cases display : s.mHdiDisplays step.1 with
  | none =>
    cases scene : t.mHdiDisplays step.1 with
    | none => exact .answers ⟨counts, owner, each⟩ _
    | some scene' => rw [display, scene] at its; cases its
  | some d =>
    cases scene : t.mHdiDisplays step.1 with
    | none => rw [display, scene] at its; cases its
    | some scene' =>
      rw [display, scene] at its
      cases its with
      | some shows' =>
        refine (call_alike counts shows' step.2).mono
          (fun x : Pool × HdiDisplay => (⟨x.1, update s.mHdiDisplays step.1 (some x.2)⟩ : Session Pool HdiDisplay))
          (fun y : Nat × Scene => (⟨y.1, update t.mHdiDisplays step.1 (some y.2)⟩ : Session Nat Scene)) fun x y => ?_
        rintro ⟨owner', counts', more, shows'', beside⟩
        refine ⟨counts', owner', fun devId => ?_⟩
        by_cases same : devId = step.1
        · subst same
          simpa using Option.Rel.some shows''
        · dsimp only
          rw [update_of_ne same, update_of_ne same]
          have before := each devId
          generalize s.mHdiDisplays devId = here, t.mHdiDisplays devId = there at before ⊢
          cases before with
          | none => exact .none
          | some before =>
          refine .some { before with look := fun p own => ?_, own := fun layer member => ?_, prepared := fun p member => ?_ }
          · obtain ⟨kept, there⟩ := beside.others p fun here => same (own.symm.trans here)
            exact there.trans (before.look p (kept ▸ own))
          · have old := before.own layer member
            exact ⟨old.1.trans_le more, (beside.old _ old.1).trans old.2⟩
          · have old := before.prepared p member
            exact ⟨old.1.trans_le more, (beside.old p old.1).trans old.2⟩

/-- Whatever is called on the displays is answered as if the layers were there by value. -/
theorem displays_by_value (displays : Nat → Option (Option Nat × Int)) (calls : List (Nat × Call)) :
    trace (Session.callDisplayFunction HdiDisplay.call) (.start displays) calls =
      trace (Session.callDisplayFunction Scene.call) (.scenes displays) calls :=
  trace_eq step_alike calls (start_refines displays)

end Peripheral.Display
