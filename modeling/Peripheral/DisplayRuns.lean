import Mathlib.Data.List.Range
import Peripheral.DisplayScenes

/-!
What a client may rely on: ids are never given twice, and a client that prepares the layers
again once it has closed one never makes a display read a layer that was freed.
-/
namespace Peripheral.Display
open Simulations Stacking List

variable {s : Scene} {created : Nat} {call : Call}

def Answer.createdId : Answer → Option Nat
  | .created id => some id
  | _ => none

def Call.creates : Call → Bool
  | .createLayer _ => true
  | _ => false

theorem call_counts {n : Nat} {after : Scene} {answer : Answer} (did : s.call created call = .ok ((n, after), answer)) :
    answer.createdId = some created ∧ n = created + 1 ∧ call.creates = true ∨ answer.createdId = none ∧ n = created := by
  cases call with
  | createLayer picture =>
    rw [Scene.call] at did
    split at did
    · cases did
    · cases did
      exact .inl ⟨rfl, rfl, rfl⟩
  | closeLayer id => rw [Scene.call] at did; split at did <;> cases did <;> exact .inr ⟨rfl, rfl⟩
  | setLayerZorder id z => rw [Scene.call] at did; split at did <;> cases did <;> exact .inr ⟨rfl, rfl⟩
  | setLayer id setting => rw [Scene.call] at did; split at did <;> cases did <;> exact .inr ⟨rfl, rfl⟩
  | setDisplayClientBuffer buffer => cases did; exact .inr ⟨rfl, rfl⟩
  | prepareDisplayLayers => cases did; exact .inr ⟨rfl, rfl⟩
  | getDisplayCompChange =>
    rw [Scene.call] at did
    cases changed : compChange s.look s.prepared with
    | error why => rw [changed] at did; cases did
    | ok layers => rw [changed] at did; cases did; exact .inr ⟨rfl, rfl⟩
  | getDisplayReleaseFence => cases did; exact .inr ⟨rfl, rfl⟩
  | commit gfx outFence =>
    rw [Scene.call] at did
    cases drawn : apply s.look s.clientBuffer gfx s.prepared with
    | error why => rw [drawn] at did; cases did
    | ok drawn' => rw [drawn] at did; cases did; exact .inr ⟨rfl, rfl⟩

theorem step_counts {t after : Session Nat Scene} {step : Nat × Call} {answer : Answer}
    (did : t.callDisplayFunction Scene.call step = .ok (after, answer)) :
    answer.createdId = some t.shared ∧ after.shared = t.shared + 1 ∧ step.2.creates = true ∨
      answer.createdId = none ∧ after.shared = t.shared := by
  rw [Session.callDisplayFunction] at did
  split at did
  · cases did
    exact .inr ⟨rfl, rfl⟩
  split at did
  · cases did
    exact .inr ⟨rfl, rfl⟩
  · rename_i scene _
    cases called : scene.call t.shared step.2 with
    | error why => rw [called] at did; cases did
    | ok result =>
      obtain ⟨⟨n, scene'⟩, answer'⟩ := result
      rw [called] at did
      cases did
      exact call_counts called

theorem scenes_count (calls : List (Nat × Call)) (t : Session Nat Scene) :
    ∃ k, (trace (Session.callDisplayFunction Scene.call) t calls).1.filterMap Answer.createdId = range' t.shared k := by
  induction calls generalizing t with
  | nil => exact ⟨0, rfl⟩
  | cons step rest ih =>
    rw [trace]
    cases did : t.callDisplayFunction Scene.call step with
    | error why => exact ⟨0, rfl⟩
    | ok result =>
      obtain ⟨after, answer⟩ := result
      obtain ⟨k, later⟩ := ih after
      rcases step_counts did with ⟨new, count, -⟩ | ⟨none, count⟩
      · refine ⟨k + 1, ?_⟩
        rw [filterMap_cons_some new, later, count, range'_succ]
      · exact ⟨k, by rw [filterMap_cons_none none, later, count]⟩

/-- The ids of all displays are given in turn, and none is given again when its layer is closed. -/
theorem ids_in_turn (displays : Nat → Option (Option Nat × Int)) (calls : List (Nat × Call)) :
    ∃ k, (trace (Session.callDisplayFunction HdiDisplay.call) (.start displays) calls).1.filterMap Answer.createdId =
      range k := by
  obtain ⟨k, ids⟩ := scenes_count calls (.scenes displays)
  rw [trace_eq step_alike calls (start_refines displays), ids]
  exact ⟨k, range_eq_range'.symm⟩

/-- All that is prepared is there. -/
def Scene.Ready (s : Scene) : Prop := ∀ p ∈ s.prepared, ∃ layer ∈ s.placed, layer.mId = p

/-- Whether there may be a layer that was prepared and is closed. -/
def Call.stale : Call → Bool → Bool
  | .closeLayer _, _ => true
  | .prepareDisplayLayers, _ => false
  | _, stale => stale

/-- Nothing that is prepared is used after a layer was closed. -/
def Call.MayFollow : Call → Bool → Prop
  | .getDisplayCompChange, stale => stale = false
  | .commit _ _, stale => stale = false
  | _, _ => True

def Careful (stale : Nat → Bool) : List (Nat × Call) → Prop
  | [] => True
  | (devId, call) :: rest => call.MayFollow (stale devId) ∧ Careful (Function.update stale devId (call.stale (stale devId))) rest

theorem apply_ok {look : Nat → Option HdiLayer} {layers : List Nat} (there : ∀ p ∈ layers, (look p).isSome)
    (client : Option Nat) (gfx : GfxOp → Bool) : ∃ drawn, apply look client gfx layers = .ok drawn := by
  induction layers with
  | nil => exact ⟨_, rfl⟩
  | cons p rest ih =>
    obtain ⟨layer, its⟩ := Option.isSome_iff_exists.mp (there p (by simp))
    obtain ⟨later, drawn⟩ := ih fun q member => there q (by simp [member])
    simp only [apply, deref, its, Option.elim_some, drawn, bind, Except.bind, pure, Except.pure]
    cases layer.draw client with
    | none => exact ⟨_, rfl⟩
    | some ops =>
      dsimp only
      split <;> exact ⟨_, rfl⟩

theorem compChange_ok {look : Nat → Option HdiLayer} {layers : List Nat} (there : ∀ p ∈ layers, (look p).isSome) :
    ∃ changed, compChange look layers = .ok changed := by
  induction layers with
  | nil => exact ⟨_, rfl⟩
  | cons p rest ih =>
    obtain ⟨layer, its⟩ := Option.isSome_iff_exists.mp (there p (by simp))
    obtain ⟨later, changed⟩ := ih fun q member => there q (by simp [member])
    rw [compChange] at changed
    exact ⟨_, by rw [compChange, mapM_cons, deref, its, changed]; rfl⟩

theorem Scene.Ready.there (ready : s.Ready) : ∀ p ∈ s.prepared, (s.look p).isSome := by
  intro p member
  obtain ⟨layer, placed, its⟩ := ready p member
  exact find?_isSome.mpr ⟨layer, placed, by simpa using its⟩

theorem Scene.Ready.change (ready : s.Ready) {which : HdiLayer → Bool} {f : HdiLayer → HdiLayer}
    (ids : ∀ layer, (f layer).mId = layer.mId) : (s.change which f).Ready := by
  intro p member
  obtain ⟨layer, placed, rfl⟩ := ready p member
  refine ⟨_, mem_map_of_mem placed, ?_⟩
  split
  · exact ids layer
  · rfl

theorem Scene.prepare_ready (s : Scene) : s.prepare.Ready := by
  intro p member
  obtain ⟨layer, shown, rfl⟩ := mem_map.mp member
  refine ⟨_, mem_map_of_mem (Scene.mem_stack.mp (mem_of_mem_filter shown)), ?_⟩
  split
  · exact (follow_select layer).1
  · rfl

theorem call_careful {stale : Bool} (ready : stale = false → s.Ready) (may : call.MayFollow stale)
    (room : call.creates = true → created < INVALIDE_LAYER_ID) :
    ∃ n after answer, s.call created call = .ok ((n, after), answer) ∧ (call.stale stale = false → after.Ready) := by
  cases call with
  | createLayer picture =>
    refine ⟨_, _, _, if_neg (room rfl).ne, fun fine p member => ?_⟩
    obtain ⟨layer, placed, its⟩ := ready fine p member
    exact ⟨layer, mem_append_left _ placed, its⟩
  | closeLayer id =>
    rw [Scene.call]
    cases s.look id with
    | none => exact ⟨_, _, _, rfl, fun fine => by cases fine⟩
    | some layer => exact ⟨_, _, _, rfl, fun fine => by cases fine⟩
  | setLayerZorder id z =>
    rw [Scene.call]
    cases s.look id with
    | none => exact ⟨_, _, _, rfl, ready⟩
    | some layer =>
      refine ⟨_, _, _, rfl, fun fine => ?_⟩
      split
      · exact ready fine
      · intro p member
        obtain ⟨other, placed, its⟩ := ready fine p member
        by_cases same : other.mId = layer.mId
        · exact ⟨{ layer with mZorder := z }, mem_append_right _ (by simp), same.symm.trans its⟩
        · exact ⟨other, mem_append_left _ (mem_filter.mpr ⟨placed, by simpa using same⟩), its⟩
  | setLayer id setting =>
    rw [Scene.call]
    cases s.look id with
    | none => exact ⟨_, _, _, rfl, ready⟩
    | some layer => exact ⟨_, _, _, rfl, fun fine => (ready fine).change (·.set_kept setting |>.1)⟩
  | setDisplayClientBuffer buffer => exact ⟨_, _, _, rfl, ready⟩
  | prepareDisplayLayers => exact ⟨_, _, _, rfl, fun _ => s.prepare_ready⟩
  | getDisplayCompChange =>
    obtain ⟨changed, did⟩ := compChange_ok (ready may).there
    exact ⟨_, _, _, by rw [Scene.call, did]; rfl, ready⟩
  | getDisplayReleaseFence => exact ⟨_, _, _, rfl, ready⟩
  | commit gfx outFence =>
    -- Only the fence of the client layer changes.
    obtain ⟨drawn, did⟩ := apply_ok (ready may).there s.clientBuffer gfx
    refine ⟨_, _, _, by rw [Scene.call, did]; rfl, fun fine => ?_⟩
    split
    · exact ready fine
    · exact ready fine

/-- The calls that a careful client has yet to make, and room for the layers of these. -/
def CarefulFrom (t : Session Nat Scene) (calls : List (Nat × Call)) : Prop :=
  ∃ stale, Careful stale calls ∧
    (∀ devId, devId ≠ INVALIDE_DISPLAY_ID → ∀ scene, t.mHdiDisplays devId = some scene → stale devId = false → scene.Ready) ∧
    t.shared + calls.countP (·.2.creates) ≤ INVALIDE_LAYER_ID

theorem step_careful (t : Session Nat Scene) (step : Nat × Call) (rest : List (Nat × Call)) (now : CarefulFrom t (step :: rest)) :
    ∃ next answer, t.callDisplayFunction Scene.call step = .ok (next, answer) ∧ CarefulFrom next rest := by
  obtain ⟨stale, ⟨may, careful⟩, ready, few⟩ := now
  rw [countP_cons] at few
  have others : ∀ devId, devId ≠ INVALIDE_DISPLAY_ID → devId ≠ step.1 → ∀ scene, t.mHdiDisplays devId = some scene →
      Function.update stale step.1 (step.2.stale (stale step.1)) devId = false → scene.Ready := by
    intro devId valid other scene its fine
    rw [Function.update_of_ne other] at fine
    exact ready devId valid scene its fine
  rw [Session.callDisplayFunction]
  split
  · rename_i invalid
    exact ⟨_, _, rfl, _, careful, fun devId valid => others devId valid (invalid ▸ valid), by omega⟩
  rename_i valid
  cases display : t.mHdiDisplays step.1 with
  | none =>
    refine ⟨_, _, rfl, _, careful, fun devId valid scene its => others devId valid ?_ scene its, by omega⟩
    rintro rfl
    rw [display] at its
    cases its
  | some scene =>
    have room : step.2.creates = true → t.shared < INVALIDE_LAYER_ID := fun creates => by
      rw [if_pos creates] at few
      omega
    obtain ⟨n, after, answer, did, stays⟩ := call_careful (ready step.1 valid scene display) may room
    simp only [did, Except.map]
    refine ⟨_, _, rfl, _, careful, fun devId valid scene' its fine => ?_, ?_⟩
    · dsimp only at its
      by_cases same : devId = step.1
      · subst same
        rw [Function.update_self] at its fine
        cases its
        exact stays fine
      · rw [Function.update_of_ne same] at its
        exact others devId valid same scene' its fine
    · dsimp only
      rcases call_counts did with ⟨-, count, creates⟩ | ⟨-, count⟩
      · rw [if_pos creates] at few
        omega
      · omega

/-- A client that prepares again behind each layer that it closes has every call answered. -/
theorem careful_answered (displays : Nat → Option (Option Nat × Int)) (calls : List (Nat × Call))
    (careful : Careful (fun _ => false) calls) (few : calls.countP (·.2.creates) ≤ INVALIDE_LAYER_ID) :
    (trace (Session.callDisplayFunction HdiDisplay.call) (.start displays) calls).2 = none := by
  rw [trace_eq step_alike calls (start_refines displays)]
  refine trace_goesOn step_careful calls ⟨_, careful, fun devId _ scene its _ => ?_, by simpa [Session.scenes] using few⟩
  obtain ⟨client, -, rfl⟩ := Option.map_eq_some_iff.mp its
  intro p member
  cases member

/-- Two layers are drawn, one of them is closed, and the other is drawn again. -/
theorem careful_answered_closed : (trace (Session.callDisplayFunction HdiDisplay.call) (.start fun _ => some (some 7, -1))
      [(0, .createLayer ⟨⟨0, 0, 8, 8⟩, ⟨0, 0, 8, 8⟩, none, 0, 0⟩), (0, .createLayer ⟨⟨0, 0, 4, 4⟩, ⟨0, 0, 4, 4⟩, none, 0, 0⟩),
        (0, .setLayerZorder 0 2), (0, .prepareDisplayLayers), (0, .commit (fun _ => true) (some 3)), (0, .closeLayer 1),
        (0, .prepareDisplayLayers), (0, .getDisplayCompChange), (0, .commit (fun _ => true) none)]).2 = none :=
  careful_answered _ _ ⟨trivial, trivial, trivial, trivial, rfl, trivial, trivial, rfl, rfl, trivial⟩ (by decide)

end Peripheral.Display
