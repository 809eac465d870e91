import Mathlib.Data.List.Basic
import Peripheral.Transitions

/-!
Components of the OMX codec service: `codec_component_manager_proxy.c`,
`codec_component_type_stub.c`, `codec_component_type_service.c` and
`component_node_mgr.cpp`. Every client asks one service, whose stub has room for one
handle, and no request says which component it is for. A create has two parts, as other
requests are served between the manager's making a handle and the stub's storing it.
-/
namespace Peripheral.Codec
open Peripheral.Transitions

/-- `OMX_HANDLETYPE`, an address. -/
abbrev Handle := Nat

/-- The requests that `HandleComponentCmd` serves. -/
inductive ComponentCmd
  | getComponentVersion
  | sendCommand
  | getParameter
  | setParameter
  | getConfig
  | setConfig
  | getExtensionIndex
  | getState
  | componentTunnelRequest
  | useBuffer
  | allocateBuffer
  | freeBuffer
  | emptyThisBuffer
  | fillThisBuffer
  | setCallbacks
  | componentDeInit
  | useEglImage
  | componentRoleEnum
  deriving DecidableEq

inductive Asked
  | method (cmd : ComponentCmd)
  | destroy
  deriving DecidableEq

/-- A request on a component, with the handle that it was executed on; none was found when it is missing. -/
structure Executed where
  component : Nat
  asked : Asked
  handle : Option Handle
  deriving DecidableEq

/-- The service and its clients. `nodeMaps` has the keys of `nodeMaps_`, `creating` the handles that are made and not yet stored.
    The handles that `CreateComponent` made for the components, in the order in which they were stored, the components that were
    released, and what was executed are only recorded. -/
structure CodecService where
  loadLibSuc : Bool
  nodeMaps : List Handle
  componentHandle : Handle
  creating : List Handle
  components : List Handle
  released : List Nat
  executed : List Executed
  deriving DecidableEq

/-- `createComponent` has the handle that the plugin makes, if it makes one; `storeHandle` says which create goes on and whether
    the client could make its object. `deleted` says whether the plugin deleted the component. -/
inductive ComponentStep
  | createComponent (made : Option Handle)
  | storeHandle (creating : Nat) (proxy : Bool)
  | call (component : Nat) (cmd : ComponentCmd)
  | destoryComponent (component : Nat) (deleted : Bool)
  deriving DecidableEq

namespace CodecService

/-- The stub as it is allocated, with nothing in its handle. -/
def new (loadLibSuc : Bool) (componentHandle : Handle) : CodecService :=
  ⟨loadLibSuc, [], componentHandle, [], [], [], []⟩

/-- `CreateComponent` of the manager; a failure leaves the stub before it stores anything. -/
def createComponent (s : CodecService) (made : Option Handle) : CodecService :=
  if !s.loadLibSuc then s
  else
    match made with
    | none => s
    | some handle =>
      { s with
        nodeMaps := if handle ∈ s.nodeMaps then s.nodeMaps else s.nodeMaps ++ [handle]
        creating := s.creating ++ [handle] }

/-- The rest of `SerStubCreateComponent`, and of `CreateComponent` at the client. -/
def storeHandle (s : CodecService) (creating : Nat) (proxy : Bool) : CodecService :=
  match s.creating[creating]? with
  | none => s
  | some handle =>
    { s with
      componentHandle := handle
      creating := s.creating.eraseIdx creating
      components := s.components ++ [handle]
      released := if proxy then s.released else s.released ++ [s.components.length] }

/-- The node that a handle is looked up for, which every request of the manager begins with. -/
def findNode (s : CodecService) (handle : Handle) : Option Handle :=
  if s.loadLibSuc ∧ handle ∈ s.nodeMaps then some handle else none

def execute (s : CodecService) (component : Nat) (asked : Asked) : CodecService :=
  { s with executed := s.executed ++ [⟨component, asked, s.findNode s.componentHandle⟩] }

/-- `SerStubDestroyComponent`, and the release at the client when it succeeds. -/
def destoryComponent (s : CodecService) (component : Nat) (deleted : Bool) : CodecService :=
  match s.findNode s.componentHandle with
  | none => s.execute component .destroy
  | some handle =>
    if deleted then
      { s.execute component .destroy with
        nodeMaps := s.nodeMaps.erase handle
        released := s.released ++ [component] }
    else s.execute component .destroy

def step (s : CodecService) : ComponentStep → CodecService
  | .createComponent made => s.createComponent made
  | .storeHandle creating proxy => s.storeHandle creating proxy
  | .call component cmd => s.execute component (.method cmd)
  | .destoryComponent component deleted => s.destoryComponent component deleted

def Held (s : CodecService) (component : Nat) : Prop := component < s.components.length ∧ component ∉ s.released

/-- Clients ask for components they have. -/
def Possible (s : CodecService) : ComponentStep → Prop
  | .createComponent _ => True
  | .storeHandle creating _ => creating < s.creating.length
  | .call component _ | .destoryComponent component _ => s.Held component

/-- Every request was executed on the handle that was made for its component. -/
def Isolated (s : CodecService) : Prop :=
  ∀ request ∈ s.executed, request.handle ≠ none ∧ request.handle = s.components[request.component]?

/-- The component has the handle that was stored last, by whatever client, and it was not destroyed. -/
def Latest (s : CodecService) (component : Nat) : Prop :=
  s.components[component]? = s.components.getLast? ∧ ∀ handle ∈ s.components.getLast?, handle ∈ s.nodeMaps

/-- Requests are for the component that was created last. -/
def OnLatest (s : CodecService) : ComponentStep → Prop
  | .createComponent _ | .storeHandle .. => True
  | .call component _ | .destoryComponent component _ => s.Latest component

/-- The stub has the handle of the last create that stored one. -/
structure Stores (s : CodecService) : Prop where
  last : ∀ handle ∈ s.components.getLast?, handle = s.componentHandle
  loaded : s.components ≠ [] ∨ s.creating ≠ [] → s.loadLibSuc = true
  known : ∀ request ∈ s.executed, request.component < s.components.length

theorem createComponent_cases (s : CodecService) (made : Option Handle) :
    s.createComponent made = s ∨ (s.loadLibSuc = true ∧ ∃ nodeMaps creating,
      s.createComponent made = { s with nodeMaps := nodeMaps, creating := creating }) := by
  cases loaded : s.loadLibSuc with
  | false => exact .inl (by simp [createComponent, loaded])
  | true =>
    cases made with
    | none => exact .inl (by simp [createComponent])
    | some handle => exact .inr ⟨rfl, _, _, by simp only [createComponent, loaded]; rfl⟩

namespace Stores
variable {s : CodecService}

theorem new (loadLibSuc : Bool) (componentHandle : Handle) : Stores (.new loadLibSuc componentHandle) := by
  constructor <;> simp [CodecService.new]

section
variable (stores : Stores s)
include stores

theorem createComponent (made : Option Handle) : Stores (s.createComponent made) := by
  obtain same | ⟨loaded, nodeMaps, creating, made⟩ := s.createComponent_cases made
  · rw [same]
    exact stores
  · rw [made]
    exact ⟨stores.last, fun _ => loaded, stores.known⟩

theorem storeHandle (creating : Nat) (proxy : Bool) : Stores (s.storeHandle creating proxy) := by
  rw [CodecService.storeHandle]
  split
  · exact stores
  · rename_i handle found
    refine ⟨by simp, fun _ => stores.loaded (.inr ?_), ?_⟩
    · exact List.ne_nil_of_mem (List.mem_of_getElem? found)
    · intro request member
      have known := stores.known request member
      simp only [List.length_append, List.length_cons, List.length_nil]
      omega

variable {component : Nat}

theorem execute (held : s.Held component) (asked : Asked) : Stores (s.execute component asked) := by
  refine ⟨stores.last, stores.loaded, ?_⟩
  intro request member
  obtain member | rfl := by simpa [CodecService.execute] using member
  · exact stores.known request member
  · exact held.1

theorem destoryComponent (held : s.Held component) (deleted : Bool) : Stores (s.destoryComponent component deleted) := by
  have executes := stores.execute held .destroy
  rw [CodecService.destoryComponent]
  split
  · exact executes
  · split
    · exact ⟨executes.last, executes.loaded, executes.known⟩
    · exact executes

theorem step {step : ComponentStep} (possible : s.Possible step) : Stores (s.step step) := by
  cases step with
  | createComponent made => exact stores.createComponent made
  | storeHandle creating proxy => exact stores.storeHandle creating proxy
  | call component cmd => exact stores.execute possible _
  | destoryComponent component deleted => exact stores.destoryComponent possible deleted

/-- A request is executed on the handle of its component exactly when that was stored last and is not destroyed. -/
theorem findNode_iff (held : s.Held component) :
    (s.findNode s.componentHandle ≠ none ∧ s.findNode s.componentHandle = s.components[component]?) ↔ s.Latest component := by
  have nonempty : s.components ≠ [] := List.ne_nil_of_length_pos (Nat.zero_lt_of_lt held.1)
  have loaded := stores.loaded (.inl nonempty)
  have last : s.components.getLast? = some s.componentHandle := by
    rw [List.getLast?_eq_some_getLast nonempty]
    exact congrArg some (stores.last _ (List.getLast?_eq_some_getLast nonempty))
  rw [Latest, last, findNode]
  by_cases live : s.componentHandle ∈ s.nodeMaps
  · simp [loaded, live, eq_comm]
  · simp [live]

end

end Stores

theorem execute_isolated {s : CodecService} (stores : Stores s) {component : Nat} (held : s.Held component) (asked : Asked) :
    (s.execute component asked).Isolated ↔ s.Isolated ∧ s.Latest component := by
  rw [← stores.findNode_iff held]
  simp only [Isolated, execute, List.forall_mem_append, List.forall_mem_singleton]

theorem step_isolated {s : CodecService} (stores : Stores s) {step : ComponentStep} (possible : s.Possible step) :
    (s.step step).Isolated ↔ s.Isolated ∧ s.OnLatest step := by
  cases step with
  | createComponent made =>
    obtain same | ⟨-, nodeMaps, creating, made⟩ := s.createComponent_cases made
    · simp [CodecService.step, same, OnLatest]
    · simp [CodecService.step, made, OnLatest, Isolated]
  | storeHandle creating proxy =>
    simp only [CodecService.step, CodecService.storeHandle, OnLatest, and_true]
    split
    · rfl
    · rename_i handle _
      refine forall₂_congr fun request member => ?_
      dsimp only
      rw [List.getElem?_append_left (stores.known request member)]
  | call component cmd => exact execute_isolated stores possible _
  | destoryComponent component deleted =>
    have executes := execute_isolated stores possible .destroy
    simp only [CodecService.step, CodecService.destoryComponent]
    split
    · exact executes
    · split
      · exact executes
      · exact executes

/-- In a run every request reaches its handle exactly when every request is for the component that was created last. -/
theorem run_isolated {run : List ComponentStep} {s : CodecService} (stores : Stores s) (taken : Takes step Possible s run) :
    (run.foldl step s).Isolated ↔ s.Isolated ∧ Takes step OnLatest s run := by
  induction run generalizing s with
  | nil => simp [Takes]
  | cons step rest more =>
    obtain ⟨possible, later⟩ := taken
    rw [List.foldl_cons, more (stores.step possible) later, step_isolated stores possible, Takes, and_assoc]

end CodecService

/-- In every run of the service and its clients, every request is executed on the handle that `CreateComponent` made for its
    component exactly when each is made for the component that was created last, by any client, and is not destroyed. A create
    that fails changes nothing. -/
theorem components_isolated_iff {loadLibSuc : Bool} {componentHandle : Handle} {run : List ComponentStep}
    (taken : Takes CodecService.step CodecService.Possible (.new loadLibSuc componentHandle) run) :
    ((run.foldl CodecService.step (.new loadLibSuc componentHandle)).Isolated ↔
      Takes CodecService.step CodecService.OnLatest (.new loadLibSuc componentHandle) run) ∧
    (run.foldl CodecService.step (.new loadLibSuc componentHandle)).step (.createComponent none) =
      run.foldl CodecService.step (.new loadLibSuc componentHandle) := by
  constructor
  · rw [CodecService.run_isolated (.new _ _) taken]
    simp [CodecService.Isolated, CodecService.new]
  · simp [CodecService.step, CodecService.createComponent]

instance CodecService.decidePossible (s : CodecService) : (step : ComponentStep) → Decidable (s.Possible step)
  | .createComponent _ => inferInstanceAs (Decidable True)
  | .storeHandle .. => inferInstanceAs (Decidable (_ < _))
  | .call .. | .destoryComponent .. => inferInstanceAs (Decidable (_ ∧ _ ∉ _))

instance CodecService.decideOnLatest (s : CodecService) : (step : ComponentStep) → Decidable (s.OnLatest step)
  | .createComponent _ | .storeHandle .. => inferInstanceAs (Decidable True)
  | .call .. | .destoryComponent .. => inferInstanceAs (Decidable (_ ∧ ∀ handle ∈ _, _))

def oneByOne : List ComponentStep :=
  [.createComponent (some 16), .storeHandle 0 true, .call 0 .getState, .destoryComponent 0 true, .createComponent (some 32),
    .storeHandle 0 true, .call 1 .sendCommand]

theorem oneByOne_isolated : (oneByOne.foldl CodecService.step (.new true 0)).Isolated :=
  (@components_isolated_iff true 0 oneByOne (by decide)).1.mpr (by decide)

/-- Two components at the same time; a request for the first is executed on the handle of the second. -/
theorem second_create_takes_over : ∃ run, Takes CodecService.step CodecService.Possible (.new true 0) run ∧
      ¬ (run.foldl CodecService.step (.new true 0)).Isolated :=
  ⟨[.createComponent (some 16), .storeHandle 0 true, .createComponent (some 32), .storeHandle 0 true, .call 0 .getState],
    by decide, fun isolated => absurd (isolated ⟨0, .method .getState, some 32⟩ (by decide)) (by decide)⟩

end Peripheral.Codec
