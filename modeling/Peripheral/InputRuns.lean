import Mathlib.Data.List.Perm.Subperm
import Peripheral.InputRegistry

/-!
The runs of the input devices. In a sound state a service has at most one listener, which its device or
the host knows, and an event on its way comes to its device once, for as long as the nodes where its
loop stands and goes next are not freed.
-/
namespace Peripheral.Input
open Cursors Transitions List

variable {devIndex : Nat}

theorem seek_some {devList before behind : List DeviceInfoNode} {pos : DeviceInfoNode}
    (found : seek devIndex devList = some (before, pos, behind)) :
    devList = before ++ pos :: behind ∧ pos.devIndex = devIndex := by
  induction devList generalizing before with
  | nil => cases found
  | cons head rest later =>
    rw [seek] at found
    by_cases here : head.devIndex = devIndex
    · rw [if_neg (not_not.mpr here)] at found
      cases found
      exact ⟨rfl, here⟩
    · rw [if_pos here, Option.map_eq_some_iff] at found
      obtain ⟨⟨first, its, last⟩, there, same⟩ := found
      cases same
      obtain ⟨split, index⟩ := later there
      exact ⟨by rw [split, cons_append], index⟩

variable {devList : List DeviceInfoNode}

theorem seek_none : seek devIndex devList = none ↔ devIndex ∉ devList.map DeviceInfoNode.devIndex := by
  induction devList with
  | nil => simp [seek]
  | cons head rest later =>
    rw [seek, map_cons, mem_cons, not_or]
    by_cases here : head.devIndex = devIndex
    · rw [if_neg (not_not.mpr here)]
      exact ⟨nofun, fun apart => absurd here.symm apart.1⟩
    · rw [if_pos here, Option.map_eq_none_iff, later]
      exact ⟨fun apart => ⟨Ne.symm here, apart⟩, And.right⟩

theorem serviceName_some (range : devIndex < MAX_INPUT_DEV_NUM) : serviceName devIndex ≠ none := by
  have each : ∀ devIndex < 32, serviceName devIndex ≠ none := by decide +kernel
  exact each devIndex range

theorem readPkgs_eq (room : Nat) (data : List (Option Buffer)) : readPkgs room data = (allPkgs data).take room := by
  induction data generalizing room with
  | nil => cases room <;> rfl
  | cons buffer rest later =>
    cases room with
    | zero => rfl
    | succ room =>
      cases buffer with
      | none => rfl
      | some pkg => rw [readPkgs, allPkgs, later, take_succ_cons]

theorem filter_key {α : Type} {key : α → Nat} {items : List α} (distinct : (items.map key).Nodup) {item : α}
    (listed : item ∈ items) : items.filter (fun other => key other = key item) = [item] := by
  induction items with
  | nil => cases listed
  | cons head rest later =>
    rw [map_cons, nodup_cons] at distinct
    obtain ⟨apart, others⟩ := distinct
    rcases mem_cons.mp listed with rfl | behind
    · rw [filter_cons_of_pos (by simp)]
      refine congrArg _ (filter_eq_nil_iff.mpr fun other there same => apart ?_)
      exact mem_map.mpr ⟨other, there, by simpa using same⟩
    · have differs : key head ≠ key item := fun same => apart (same ▸ mem_map_of_mem behind)
      rw [filter_cons_of_neg (by simpa using differs), later others behind]

theorem view_cons (pos : DeviceInfoNode) (behind : List DeviceInfoNode) :
    view (pos :: behind) = (pos.node, pos.service) :: view behind := rfl

theorem view_append (before behind : List DeviceInfoNode) : view (before ++ behind) = view before ++ view behind := map_append

theorem mem_keys_view {node : Nat} : node ∈ keys (view devList) ↔ ∃ pos ∈ devList, pos.node = node := by
  simp [Cursors.keys, view]

theorem length_le (once : (devList.map DeviceInfoNode.devIndex).Nodup)
    (range : ∀ pos ∈ devList, pos.devIndex < MAX_INPUT_DEV_NUM) : devList.length ≤ MAX_INPUT_DEV_NUM := by
  have within : devList.map DeviceInfoNode.devIndex ⊆ List.range MAX_INPUT_DEV_NUM := by
    intro index listed
    obtain ⟨pos, there, rfl⟩ := mem_map.mp listed
    exact mem_range.mpr (range pos there)
  have fits := (subperm_of_subset once within).length_le
  rwa [length_map, length_range] at fits

/-- An event on its way comes to its device once, where the loop's two nodes are there. -/
structure Waits (made : Nat) (devices : List (Nat × Nat)) (d : Dispatch) : Prop where
  service_old : d.service < made
  pos_old : ∀ pos, d.pos = some pos → pos < made
  next_old : ∀ next, d.next = some next → next < made
  ends : d.pos = none → d.next = none
  due : (∀ pos, d.pos = some pos → pos ∈ keys devices) → (∀ next, d.next = some next → next ∈ keys devices) →
    Due devices d.pos d.next d.service d.told.length

variable {d : Dispatch}

theorem Waits.grow {made more : Nat} {devices : List (Nat × Nat)} (waits : Waits made devices d) (grows : made ≤ more) :
    Waits more devices d :=
  { waits with
    service_old := Nat.lt_of_lt_of_le waits.service_old grows
    pos_old := fun pos its => Nat.lt_of_lt_of_le (waits.pos_old pos its) grows
    next_old := fun next its => Nat.lt_of_lt_of_le (waits.next_old next its) grows }

theorem Waits.append {made : Nat} {devices : List (Nat × Nat)} (waits : Waits made devices d) :
    Waits (made + 1) (devices ++ [(made, made)]) d := by
  have known {key : Nat} (there : key ∈ keys (devices ++ [(made, made)])) (old : key < made) : key ∈ keys devices := by
    rw [Cursors.keys, map_append, mem_append] at there
    rcases there with before | new
    · exact before
    · exact absurd (mem_singleton.mp new) (Nat.ne_of_lt old)
  refine { waits.grow (Nat.le_succ made) with due := fun pos next => ?_ }
  refine (waits.due (fun node its => known (pos node its) (waits.pos_old node its))
    (fun node its => known (next node its) (waits.next_old node its))).append ?_
  exact (Nat.ne_of_lt waits.service_old).symm

theorem Waits.filter {made gone : Nat} {devices : List (Nat × Nat)} (waits : Waits made devices d) :
    Waits made (devices.filter (·.1 ≠ gone)) d := by
  have known {key : Nat} (there : key ∈ keys (devices.filter (·.1 ≠ gone))) : key ∈ keys devices ∧ key ≠ gone := by
    obtain ⟨item, listed, rfl⟩ := mem_map.mp there
    obtain ⟨was, stays⟩ := mem_filter.mp listed
    exact ⟨mem_map_of_mem was, by simpa using stays⟩
  refine { waits with due := fun pos next => ?_ }
  refine (waits.due (fun node its => (known (pos node its)).1) (fun node its => (known (next node its)).1)).filter ?_ ?_
  · exact fun stands => (known (pos gone stands)).2 rfl
  · exact fun goes => (known (next gone goes)).2 rfl

namespace State

structure Formed (s : State) : Prop extends s.Sound where
  nodes : (keys (view s.devList)).Nodup
  services : ((view s.devList).map Prod.snd).Nodup
  old : ∀ pos ∈ s.devList, pos.node < s.made ∧ pos.service < s.made
  range : ∀ pos ∈ s.devList, pos.devIndex < MAX_INPUT_DEV_NUM
  opening_range : ∀ devIndex ∈ s.opening, devIndex < MAX_INPUT_DEV_NUM
  host_old : ∀ service, s.hostDev.service = some service → service < s.made
  host_apart : ∀ pos ∈ s.devList, s.hostDev.service ≠ some pos.service
  host_paired : s.hostDev.hostCb = none ↔ s.hostDev.listener = none
  host_bound : s.hostDev.service = none → s.hostDev.hostCb = none
  own : ∀ its ∈ s.listeners, its.hotPlug = false → ∃ pos ∈ s.devList, pos.service = its.service ∧
    pos.listener = some its.listener
  host_own : ∀ its ∈ s.listeners, its.hotPlug = true → s.hostDev.service = some its.service ∧
    s.hostDev.listener = some its.listener
  distinct : (s.listeners.map Listener.listener).Nodup
  listeners_old : ∀ its ∈ s.listeners, its.listener < s.made
  freed_old : ∀ listener ∈ s.freed, listener < s.made
  waits : ∀ d ∈ s.dispatches, Waits s.made (view s.devList) d

variable {s : State} {before behind : List DeviceInfoNode} {pos : DeviceInfoNode}

theorem Formed.apart (formed : s.Formed) (split : s.devList = before ++ pos :: behind) :
    ∀ other ∈ before ++ behind, other.node ≠ pos.node ∧ other.service ≠ pos.service := by
  intro other listed
  have nodes := formed.nodes
  have services := formed.services
  rw [split, Cursors.keys, view, map_map, map_append, map_cons, nodup_middle, nodup_cons, ← map_append] at nodes
  rw [split, view, map_map, map_append, map_cons, nodup_middle, nodup_cons, ← map_append] at services
  exact ⟨fun same => nodes.1 (mem_map.mpr ⟨other, listed, same⟩), fun same => services.1 (mem_map.mpr ⟨other,
    listed, same⟩)⟩

theorem mem_others {other : DeviceInfoNode} (listed : other ∈ before ++ behind) : other ∈ before ++ pos :: behind :=
  (perm_middle.mem_iff).mpr (mem_cons_of_mem _ listed)

theorem mem_split {other : DeviceInfoNode} : other ∈ before ++ pos :: behind ↔ other = pos ∨ other ∈ before ++ behind :=
  perm_middle.mem_iff.trans mem_cons

section
variable (formed : s.Formed)
include formed

theorem Formed.silence (split : s.devList = before ++ pos :: behind) (others : ∀ other ∈ before ++ behind, other ∈ devList)
    (called : ∀ other ∈ devList, other.eventCb ≠ none → other ∈ before ++ behind) :
    (∀ service, (∃ its ∈ s.listeners.filter (·.service ≠ pos.service), its.service = service) ↔
      (∃ other ∈ devList, other.service = service ∧ other.eventCb ≠ none) ∨
        (s.hostDev.service = some service ∧ s.hostDev.hostCb ≠ none)) ∧
    (∀ its ∈ s.listeners.filter (·.service ≠ pos.service), its.hotPlug = false →
      ∃ other ∈ devList, other.service = its.service ∧ other.listener = some its.listener) := by
  have listed : pos ∈ s.devList := split ▸ mem_append_right _ mem_cons_self
  have apart := formed.apart split
  constructor
  · intro service
    have these : (∃ its ∈ s.listeners.filter (·.service ≠ pos.service), its.service = service) ↔
        service ≠ pos.service ∧ ∃ its ∈ s.listeners, its.service = service := by
      constructor
      · rintro ⟨its, there, rfl⟩
        obtain ⟨was, stays⟩ := mem_filter.mp there
        exact ⟨by simpa using stays, its, was, rfl⟩
      · rintro ⟨differs, its, was, rfl⟩
        exact ⟨its, mem_filter.mpr ⟨was, by simpa using differs⟩, rfl⟩
    rw [these, formed.listens, Called]
    constructor
    · rintro ⟨differs, ⟨other, there, its, callback⟩ | host⟩
      · rw [split, mem_split] at there
        rcases there with rfl | elsewhere
        · exact absurd its.symm differs
        · exact .inl ⟨other, others other elsewhere, its, callback⟩
      · exact .inr host
    · rintro (⟨other, there, rfl, callback⟩ | host)
      · have elsewhere := called other there callback
        exact ⟨(apart other elsewhere).2, .inl ⟨other, split ▸ mem_others elsewhere, rfl, callback⟩⟩
      · exact ⟨fun same => formed.host_apart pos listed (same ▸ host.1), .inr host⟩
  · intro its there plain
    obtain ⟨was, stays⟩ := mem_filter.mp there
    obtain ⟨other, known, service, listener⟩ := formed.own its was plain
    rw [split, mem_split] at known
    rcases known with rfl | elsewhere
    · exact absurd service.symm (by simpa using stays)
    · exact ⟨other, others other elsewhere, service, listener⟩

theorem close_formed (bare : s.Bare devIndex) : (s.closeInputDevice devIndex).2.Formed := by
  rw [closeInputDevice]
  cases found : seek devIndex s.devList with
  | none => exact formed
  | some its =>
    obtain ⟨before, pos, behind⟩ := its
    obtain ⟨split, -⟩ := seek_some found
    have bare := bare before pos behind found
    have others {other : DeviceInfoNode} (listed : other ∈ before ++ behind) : other ∈ s.devList := split ▸ mem_others listed
    have sublist : (before ++ behind).Sublist s.devList :=
      split ▸ (List.Sublist.refl before).append (sublist_cons_self pos behind)
    have fewer : (s.listeners.filter (·.service ≠ pos.service)).Sublist s.listeners := filter_sublist
    have removed : view (before ++ behind) = (view s.devList).filter (·.1 ≠ pos.node) := by
      have stay : (view (before ++ behind)).filter (·.1 ≠ pos.node) = view (before ++ behind) := by
        refine filter_eq_self.mpr fun item there => ?_
        obtain ⟨other, listed, rfl⟩ := mem_map.mp there
        simpa using (formed.apart split other listed).1
      rw [split, view_append before (pos :: behind), view_cons, filter_append, filter_cons_of_neg (by simp),
        ← filter_append, ← view_append, stay]
    have length : s.devList.length = (before ++ behind).length + 1 := by rw [split]; simp; omega
    have bound := length_le formed.once formed.range
    obtain ⟨listens, own⟩ := formed.silence split (fun _ => id) fun _ there _ => there
    exact { formed with
      once := (sublist.map _).nodup formed.once
      attached := by
        change (s.attachedDevNum + 2 ^ 32 - 1) % 2 ^ 32 = (before ++ behind).length
        rw [formed.attached, length]
        rw [MAX_INPUT_DEV_NUM] at bound
        omega
      counted := by
        have counted := formed.counted
        rw [split, countP_append, countP_cons_of_neg (by simp [bare]), ← countP_append] at counted
        exact counted
      listens := listens
      single := (fewer.map _).nodup formed.single
      live := fun its there => formed.live its (fewer.subset there)
      nodes := ((sublist.map _).map _).nodup formed.nodes
      services := ((sublist.map _).map _).nodup formed.services
      old := fun other there => formed.old other (others there)
      range := fun other there => formed.range other (others there)
      host_apart := fun other there => formed.host_apart other (others there)
      own := own
      host_own := fun its there => formed.host_own its (fewer.subset there)
      distinct := (fewer.map _).nodup formed.distinct
      listeners_old := fun its there => formed.listeners_old its (fewer.subset there)
      waits := fun d there => removed ▸ (formed.waits d there).filter }

theorem insert_formed (range : devIndex < MAX_INPUT_DEV_NUM) (new : seek devIndex s.devList = none) :
    (s.addService devIndex s.made true).2.Formed := by
  rw [addService, if_neg (by decide)]
  have older : s.made ≤ s.made + 1 := Nat.le_succ _
  have either {other : DeviceInfoNode} (there : other ∈ s.devList ++ [s.newNode devIndex s.made]) :
      other ∈ s.devList ∨ other = s.newNode devIndex s.made :=
    (mem_append.mp there).imp_right mem_singleton.mp
  have once : ((s.devList ++ [s.newNode devIndex s.made]).map DeviceInfoNode.devIndex).Nodup := by
    rw [map_append, map_singleton, ← concat_eq_append]
    exact formed.once.concat (seek_none.mp new)
  have ranges : ∀ other ∈ s.devList ++ [s.newNode devIndex s.made], other.devIndex < MAX_INPUT_DEV_NUM := by
    intro other there
    rcases either there with was | rfl
    · exact formed.range other was
    · exact range
  have devices : view (s.devList ++ [s.newNode devIndex s.made]) = view s.devList ++ [(s.made, s.made)] := view_append _ _
  have fits := length_le once ranges
  rw [length_append, length_singleton, MAX_INPUT_DEV_NUM] at fits
  exact { formed with
    once := once
    attached := by
      change (s.attachedDevNum + 1) % 2 ^ 32 = (s.devList ++ [_]).length
      rw [formed.attached, length_append, length_singleton]
      omega
    counted := by
      change s.evtCallbackNum = ((s.devList ++ [_]).countP _ : Nat)
      rw [countP_append, countP_singleton, if_neg (by simp [newNode]), formed.counted, Nat.add_zero]
    listens := fun service => by
      refine (formed.listens service).trans (or_congr_left ⟨?_, ?_⟩)
      · exact fun ⟨other, there, its⟩ => ⟨other, mem_append_left _ there, its⟩
      · rintro ⟨other, there, its, callback⟩
        rcases either there with was | rfl
        · exact ⟨other, was, its, callback⟩
        · exact absurd rfl callback
    nodes := by
      change (keys (view (s.devList ++ [_]))).Nodup
      rw [devices, Cursors.keys, map_append, map_singleton, ← concat_eq_append]
      refine formed.nodes.concat fun there => ?_
      obtain ⟨other, was, its⟩ := mem_keys_view.mp there
      exact absurd its (Nat.ne_of_lt (formed.old other was).1)
    services := by
      change ((view (s.devList ++ [_])).map Prod.snd).Nodup
      rw [devices, map_append, map_singleton, ← concat_eq_append]
      refine formed.services.concat fun there => ?_
      rw [view, map_map] at there
      obtain ⟨other, was, its⟩ := mem_map.mp there
      exact absurd its (Nat.ne_of_lt (formed.old other was).2)
    old := fun other there => by
      rcases either there with was | rfl
      · exact ⟨Nat.lt_of_lt_of_le (formed.old other was).1 older, Nat.lt_of_lt_of_le (formed.old other was).2 older⟩
      · exact ⟨Nat.lt_succ_self _, Nat.lt_succ_self _⟩
    range := ranges
    host_old := fun service its => Nat.lt_of_lt_of_le (formed.host_old service its) older
    host_apart := fun other there => by
      rcases either there with was | rfl
      · exact formed.host_apart other was
      · exact fun its => absurd rfl (Nat.ne_of_lt (formed.host_old _ its))
    own := fun its there plain => by
      obtain ⟨other, was, known⟩ := formed.own its there plain
      exact ⟨other, mem_append_left _ was, known⟩
    listeners_old := fun its there => Nat.lt_of_lt_of_le (formed.listeners_old its there) older
    freed_old := fun listener there => Nat.lt_of_lt_of_le (formed.freed_old listener there) older
    waits := fun d there => devices ▸ (formed.waits d there).append }

theorem Formed.opening {opening : List Nat}
    (range : ∀ devIndex ∈ opening, devIndex < MAX_INPUT_DEV_NUM) :
    State.Formed { s with opening := opening } :=
  { formed with opening_range := range }

theorem startOpen_formed (devIndex : Nat) : (s.startOpen devIndex).2.Formed := by
  rw [startOpen]
  by_cases checked : s.checkIndex devIndex = INPUT_SUCCESS
  · rw [if_neg (not_not.mpr checked)]
    refine formed.opening fun other there => ?_
    rcases mem_cons.mp there with rfl | before
    · by_contra outside
      rw [checkIndex, if_pos (Nat.not_lt.mp outside)] at checked
      exact absurd checked (by decide)
    · exact formed.opening_range other before
  · rw [if_pos checked]
    exact formed

/-- What the rest of `OpenInputDevice` does: nothing beside its own end, or an insertion. -/
theorem endOpen_cases (devIndex : Nat) (bound allocated : Bool) :
    ((s.endOpen devIndex bound allocated).2 = s ∧ devIndex ∉ s.opening) ∨
    ((s.endOpen devIndex bound allocated).2 = { s with opening := s.opening.erase devIndex } ∧ ¬ (bound ∧ allocated)) ∨
    ((s.endOpen devIndex bound allocated).2 =
        (State.addService { s with opening := s.opening.erase devIndex } devIndex s.made true).2 ∧
      devIndex ∈ s.opening ∧ bound ∧ allocated) := by
  rw [endOpen]
  by_cases going : devIndex ∈ s.opening
  · rw [if_neg (not_not.mpr going)]
    obtain ⟨name, named⟩ := Option.ne_none_iff_exists'.mp (serviceName_some (formed.opening_range devIndex going))
    rw [named]
    cases bound with
    | false => exact .inr (.inl ⟨rfl, nofun⟩)
    | true =>
      cases allocated with
      | false => exact .inr (.inl ⟨rfl, nofun⟩)
      | true => exact .inr (.inr ⟨rfl, going, rfl, rfl⟩)
  · rw [if_pos going]
    exact .inl ⟨rfl, going⟩

theorem Formed.ended (devIndex : Nat) : State.Formed { s with opening := s.opening.erase devIndex } :=
  formed.opening fun other there => formed.opening_range other (mem_of_mem_erase there)

section
variable (split : s.devList = before ++ pos :: behind)
include split

theorem Formed.device_listener {its : Listener} (there : its ∈ s.listeners) (service : its.service = pos.service) :
    its.hotPlug = false ∧ pos.listener = some its.listener := by
  have listed : pos ∈ s.devList := split ▸ mem_append_right _ mem_cons_self
  cases plug : its.hotPlug with
  | true => exact absurd ((formed.host_own its there plug).1.trans (congrArg some service)) (formed.host_apart pos listed)
  | false =>
    obtain ⟨other, known, same, listener⟩ := formed.own its there plug
    rw [split, mem_split] at known
    rcases known with rfl | elsewhere
    · exact ⟨rfl, listener⟩
    · exact absurd (same.trans service) (formed.apart split other elsewhere).2

theorem Formed.device_called : s.Called pos.service ↔ pos.eventCb ≠ none := by
  have listed : pos ∈ s.devList := split ▸ mem_append_right _ mem_cons_self
  constructor
  · rintro (⟨other, known, same, callback⟩ | host)
    · rw [split, mem_split] at known
      rcases known with rfl | elsewhere
      · exact callback
      · exact absurd same (formed.apart split other elsewhere).2
    · exact absurd host.1 (formed.host_apart pos listed)
  · exact fun callback => .inl ⟨pos, listed, rfl, callback⟩

theorem Formed.devices {now : DeviceInfoNode}
    (node : now.node = pos.node) (index : now.devIndex = pos.devIndex) (service : now.service = pos.service) :
    view (before ++ now :: behind) = view s.devList ∧
    (before ++ now :: behind).map DeviceInfoNode.devIndex = s.devList.map DeviceInfoNode.devIndex ∧
    (before ++ now :: behind).length = s.devList.length ∧
    (∀ other ∈ before ++ now :: behind, other.node < s.made ∧ other.service < s.made) ∧
    (∀ other ∈ before ++ now :: behind, other.devIndex < MAX_INPUT_DEV_NUM) ∧
    (∀ other ∈ before ++ now :: behind, s.hostDev.service ≠ some other.service) := by
  have listed : pos ∈ s.devList := split ▸ mem_append_right _ mem_cons_self
  have known {other : DeviceInfoNode} (there : other ∈ before ++ now :: behind) : other = now ∨ other ∈ s.devList :=
    (mem_split.mp there).imp_right fun elsewhere => split ▸ mem_others elsewhere
  refine ⟨?_, ?_, ?_, fun other there => ?_, fun other there => ?_, fun other there => ?_⟩
  · rw [split, view_append, view_append, view_cons, view_cons, node, service]
  · rw [split, map_append, map_append, map_cons, map_cons, index]
  · rw [split, length_append, length_append, length_cons, length_cons]
  · rcases known there with rfl | was
    · exact ⟨node ▸ (formed.old pos listed).1, service ▸ (formed.old pos listed).2⟩
    · exact formed.old other was
  · rcases known there with rfl | was
    · exact index ▸ formed.range pos listed
    · exact formed.range other was
  · rcases known there with rfl | was
    · exact service ▸ formed.host_apart pos listed
    · exact formed.host_apart other was

end

theorem Formed.listen {service : Nat} (silent : ¬ s.Called service) (hotPlug : Bool) :
    (∀ other, (∃ its ∈ s.listeners ++ [Listener.mk service s.made hotPlug],
      its.service = other) ↔ s.Called other ∨ service = other) ∧
    ((s.listeners ++ [Listener.mk service s.made hotPlug]).map Listener.service).Nodup ∧
    (∀ its ∈ s.listeners ++ [Listener.mk service s.made hotPlug], its.listener ∉ s.freed) ∧
    ((s.listeners ++ [Listener.mk service s.made hotPlug]).map Listener.listener).Nodup ∧
    (∀ its ∈ s.listeners ++ [Listener.mk service s.made hotPlug], its.listener < s.made + 1) := by
  have either {its : Listener} (there : its ∈ s.listeners ++ [Listener.mk service s.made hotPlug]) :
      its ∈ s.listeners ∨ its = Listener.mk service s.made hotPlug :=
    (mem_append.mp there).imp_right mem_singleton.mp
  refine ⟨fun other => ?_, ?_, fun its there => ?_, ?_, fun its there => ?_⟩
  · rw [← formed.listens]
    constructor
    · rintro ⟨its, there, same⟩
      rcases either there with was | rfl
      · exact .inl ⟨its, was, same⟩
      · exact .inr same
    · rintro (⟨its, was, same⟩ | same)
      · exact ⟨its, mem_append_left _ was, same⟩
      · exact ⟨_, mem_append_right _ (mem_singleton_self _), same⟩
  · rw [map_append, map_singleton, ← concat_eq_append]
    refine formed.single.concat fun there => silent ?_
    obtain ⟨its, was, same⟩ := mem_map.mp there
    exact (formed.listens service).mp ⟨its, was, same⟩
  · rcases either there with was | rfl
    · exact formed.live its was
    · exact fun freed => absurd rfl (Nat.ne_of_lt (formed.freed_old _ freed))
  · rw [map_append, map_singleton, ← concat_eq_append]
    refine formed.distinct.concat fun there => ?_
    obtain ⟨its, was, same⟩ := mem_map.mp there
    exact absurd same (Nat.ne_of_lt (formed.listeners_old its was))
  · rcases either there with was | rfl
    · exact Nat.lt_succ_of_lt (formed.listeners_old its was)
    · exact Nat.lt_succ_self _

theorem set_formed (split : s.devList = before ++ pos :: behind) (bare : pos.eventCb = none)
    (callback : Nat) :
    State.Formed { s with
      devList := before ++ { pos with eventCb := some callback, listener := some s.made } :: behind
      evtCallbackNum := s.evtCallbackNum + 1
      listeners := s.listeners ++ [⟨pos.service, s.made, false⟩]
      made := s.made + 1 } := by
  have older : s.made ≤ s.made + 1 := Nat.le_succ _
  have either {its : Listener} (there : its ∈ s.listeners ++ [⟨pos.service, s.made, false⟩]) :
      its ∈ s.listeners ∨ its = ⟨pos.service, s.made, false⟩ :=
    (mem_append.mp there).imp_right mem_singleton.mp
  have silent : ¬ s.Called pos.service := fun called => (formed.device_called split).mp called bare
  obtain ⟨listens, single, live, distinct, listeners_old⟩ := formed.listen silent false
  obtain ⟨devices, indices, length, old, range, host_apart⟩ := @Formed.devices s before behind pos formed split
    { pos with eventCb := some callback, listener := some s.made } rfl rfl rfl
  exact { formed with
    once := indices ▸ formed.once
    attached := formed.attached.trans length.symm
    counted := by
      have counted := formed.counted
      rw [split, countP_append, countP_cons_of_neg (by simp [bare])] at counted
      change s.evtCallbackNum + 1 = ((before ++ _ :: behind).countP _ : Nat)
      rw [countP_append, countP_cons_of_pos (by simp), counted]
      push_cast
      omega
    listens := fun service => by
      refine (listens service).trans ⟨?_, ?_⟩
      · rintro ((⟨other, there, same, callback⟩ | host) | same)
        · rw [split, mem_split] at there
          rcases there with rfl | elsewhere
          · exact absurd bare callback
          · exact .inl ⟨other, mem_others elsewhere, same, callback⟩
        · exact .inr host
        · exact .inl ⟨_, mem_append_right _ mem_cons_self, same, nofun⟩
      · rintro (⟨other, there, same, callback⟩ | host)
        · rcases mem_split.mp there with rfl | elsewhere
          · exact .inr same
          · exact .inl (.inl ⟨other, split ▸ mem_others elsewhere, same, callback⟩)
        · exact .inl (.inr host)
    single := single
    live := live
    nodes := devices ▸ formed.nodes
    services := devices ▸ formed.services
    old := fun other there => ⟨Nat.lt_of_lt_of_le (old other there).1 older, Nat.lt_of_lt_of_le (old other there).2 older⟩
    range := range
    host_old := fun service its => Nat.lt_of_lt_of_le (formed.host_old service its) older
    host_apart := host_apart
    own := fun its there plain => by
      rcases either there with was | rfl
      · obtain ⟨other, known, service, listener⟩ := formed.own its was plain
        rw [split, mem_split] at known
        rcases known with rfl | elsewhere
        · exact absurd ((formed.listens _).mp ⟨its, was, service.symm⟩) silent
        · exact ⟨other, mem_others elsewhere, service, listener⟩
      · exact ⟨_, mem_append_right _ mem_cons_self, rfl, rfl⟩
    host_own := fun its there plug => by
      rcases either there with was | rfl
      · exact formed.host_own its was plug
      · cases plug
    distinct := distinct
    listeners_old := listeners_old
    freed_old := fun listener there => Nat.lt_of_lt_of_le (formed.freed_old listener there) older
    waits := fun d there => devices ▸ (formed.waits d there).grow older }

end

variable {callback : Option Nat}

section
variable (formed : s.Formed)
include formed

theorem register_formed {allocated registered : Bool} (bare : callback ≠ none → allocated → registered → s.Bare devIndex) :
    (s.registerReportCallback devIndex callback allocated registered).2.Formed := by
  rw [registerReportCallback.eq_def]
  cases callback with
  | none => exact formed
  | some callback =>
    dsimp only
    by_cases outside : devIndex ≥ MAX_INPUT_DEV_NUM
    · rw [if_pos outside]
      exact formed
    rw [if_neg outside]
    cases found : seek devIndex s.devList with
    | none => exact formed
    | some its =>
      obtain ⟨before, pos, behind⟩ := its
      cases allocated with
      | false => exact formed
      | true =>
        cases registered with
        | false => exact formed
        | true => exact set_formed formed (seek_some found).1 (bare nofun rfl rfl before pos behind found) callback

theorem unset_formed (split : s.devList = before ++ pos :: behind) (bare : pos.eventCb ≠ none) :
    State.Formed { s with
      devList := before ++ { pos with eventCb := none, listener := none } :: behind
      evtCallbackNum := s.evtCallbackNum - 1
      listeners := s.listeners.filter fun its => ¬ (its.service = pos.service ∧ pos.listener = some its.listener)
      freed := pos.listener.toList ++ s.freed } := by
  have fewer : (s.listeners.filter (·.service ≠ pos.service)).Sublist s.listeners := filter_sublist
  have same : s.listeners.filter (fun its => ¬ (its.service = pos.service ∧ pos.listener = some its.listener)) =
      s.listeners.filter (·.service ≠ pos.service) := by
    refine filter_congr fun its there => ?_
    have owns := fun service => (formed.device_listener split there service).2
    simp only [decide_eq_decide]
    exact not_congr ⟨And.left, fun service => ⟨service, owns service⟩⟩
  obtain ⟨its, known, service⟩ := (formed.listens _).mpr ((formed.device_called split).mpr bare)
  have listener := (formed.device_listener split known service).2
  obtain ⟨devices, indices, length, old, range, host_apart⟩ := @Formed.devices s before behind pos formed split
    { pos with eventCb := none, listener := none } rfl rfl rfl
  have called : ∀ other ∈ before ++ { pos with eventCb := none, listener := none } :: behind, other.eventCb ≠ none →
    other ∈ before ++ behind := by
    intro other there callback
    rcases mem_split.mp there with rfl | elsewhere
    · exact absurd rfl callback
    · exact elsewhere
  obtain ⟨listens, own⟩ := formed.silence split (fun _ => mem_others) called
  have has : (fun other : DeviceInfoNode => other.eventCb.isSome) pos = true := Option.isSome_iff_ne_none.mpr bare
  rw [same]
  exact { formed with
    once := indices ▸ formed.once
    attached := formed.attached.trans length.symm
    counted := by
      have counted := formed.counted
      rw [split, countP_append, countP_cons_of_pos (by exact has)] at counted
      change s.evtCallbackNum - 1 = ((before ++ _ :: behind).countP _ : Nat)
      rw [countP_append, countP_cons_of_neg (by simp), counted]
      push_cast
      omega
    listens := listens
    single := (fewer.map _).nodup formed.single
    live := fun other there freed => by
      obtain ⟨was, stays⟩ := mem_filter.mp there
      rcases mem_append.mp freed with now | earlier
      · rw [listener, Option.toList_some, mem_singleton] at now
        have equal := inj_on_of_nodup_map formed.distinct was known now
        exact absurd (equal ▸ service) (by simpa using stays)
      · exact formed.live other was earlier
    nodes := devices ▸ formed.nodes
    services := devices ▸ formed.services
    old := old
    range := range
    host_apart := host_apart
    own := own
    host_own := fun other there => formed.host_own other (fewer.subset there)
    distinct := (fewer.map _).nodup formed.distinct
    listeners_old := fun other there => formed.listeners_old other (fewer.subset there)
    freed_old := fun other freed => by
      rcases mem_append.mp freed with now | earlier
      · rw [listener, Option.toList_some, mem_singleton] at now
        exact now ▸ formed.listeners_old its known
      · exact formed.freed_old other earlier
    waits := devices ▸ formed.waits }

theorem unregister_formed (devIndex : Nat) (unregistered : Bool) :
    (s.unregisterReportCallback devIndex unregistered).2.Formed := by
  rw [unregisterReportCallback]
  by_cases outside : devIndex ≥ MAX_INPUT_DEV_NUM
  · rw [if_pos outside]
    exact formed
  rw [if_neg outside]
  cases found : seek devIndex s.devList with
  | none => exact formed
  | some its =>
    obtain ⟨before, pos, behind⟩ := its
    dsimp only
    by_cases bare : pos.eventCb = none
    · rw [if_pos bare]
      exact formed
    rw [if_neg bare]
    cases unregistered with
    | false => exact formed
    | true =>
      exact unset_formed formed (seek_some found).1 bare

theorem bind_formed :
    State.Formed { s with hostDev.service := some (s.hostDev.service.getD s.made), made := s.made + 1 } := by
  have older : s.made ≤ s.made + 1 := Nat.le_succ _
  have same {service : Nat} (its : s.hostDev.service = some service) : s.hostDev.service.getD s.made = service := by
    rw [its, Option.getD_some]
  exact { formed with
    listens := fun service => by
      refine (formed.listens service).trans (or_congr_right (and_congr_left fun callback => ?_))
      cases host : s.hostDev.service with
      | none => exact absurd (formed.host_bound host) callback
      | some its => rfl
    old := fun other there => (formed.old other there).imp (Nat.lt_of_lt_of_le · older) (Nat.lt_of_lt_of_le · older)
    host_old := by
      rintro _ ⟨⟩
      cases host : s.hostDev.service with
      | none => exact Nat.lt_succ_self _
      | some its => exact Nat.lt_of_lt_of_le (formed.host_old its host) older
    host_apart := fun other there => by
      cases host : s.hostDev.service with
      | none => exact fun its => absurd (Option.some.inj its).symm (Nat.ne_of_lt (formed.old other there).2)
      | some its => exact host ▸ formed.host_apart other there
    host_bound := nofun
    host_own := fun its there plug => by
      obtain ⟨host, listener⟩ := formed.host_own its there plug
      exact ⟨congrArg some (same host), listener⟩
    listeners_old := fun its there => Nat.lt_of_lt_of_le (formed.listeners_old its there) older
    freed_old := fun its there => Nat.lt_of_lt_of_le (formed.freed_old its there) older
    waits := fun d there => (formed.waits d there).grow older }

theorem Formed.host_called {service : Nat} (host : s.hostDev.service = some service) :
    s.Called service ↔ s.hostDev.hostCb ≠ none := by
  constructor
  · rintro (⟨other, there, rfl, -⟩ | ⟨-, callback⟩)
    · exact absurd host (formed.host_apart other there)
    · exact callback
  · exact fun callback => .inr ⟨host, callback⟩

theorem plug_formed {service : Nat} (host : s.hostDev.service = some service)
    (bare : s.hostDev.hostCb = none)
    (callback : Nat) :
    State.Formed { s with
      hostDev.hostCb := some callback
      hostDev.listener := some s.made
      listeners := s.listeners ++ [⟨service, s.made, true⟩]
      made := s.made + 1 } := by
  have older : s.made ≤ s.made + 1 := Nat.le_succ _
  have either {its : Listener} (there : its ∈ s.listeners ++ [⟨service, s.made, true⟩]) :
      its ∈ s.listeners ∨ its = ⟨service, s.made, true⟩ :=
    (mem_append.mp there).imp_right mem_singleton.mp
  have silent : ¬ s.Called service := fun called => (formed.host_called host).mp called bare
  obtain ⟨listens, single, live, distinct, listeners_old⟩ := formed.listen silent true
  exact { formed with
    listens := fun other => by
      refine (listens other).trans ⟨?_, ?_⟩
      · rintro ((device | ⟨-, called⟩) | same)
        · exact .inl device
        · exact absurd bare called
        · exact .inr ⟨host.trans (congrArg some same), nofun⟩
      · rintro (device | ⟨its, -⟩)
        · exact .inl (.inl device)
        · exact .inr (Option.some.inj (host.symm.trans its))
    single := single
    live := live
    old := fun other there => (formed.old other there).imp (Nat.lt_of_lt_of_le · older) (Nat.lt_of_lt_of_le · older)
    host_old := fun service its => Nat.lt_of_lt_of_le (formed.host_old service its) older
    host_paired := ⟨nofun, nofun⟩
    host_bound := fun unbound => absurd (host.symm.trans unbound) nofun
    own := fun its there plain => by
      rcases either there with was | rfl
      · exact formed.own its was plain
      · cases plain
    host_own := fun its there plug => by
      rcases either there with was | rfl
      · exact absurd ((formed.listens service).mp ⟨its, was,
        Option.some.inj ((formed.host_own its was plug).1.symm.trans host)⟩) silent
      · exact ⟨host, rfl⟩
    distinct := distinct
    listeners_old := listeners_old
    freed_old := fun its there => Nat.lt_of_lt_of_le (formed.freed_old its there) older
    waits := fun d there => (formed.waits d there).grow older }

end

theorem registerHotPlug_cases (callback : Option Nat) (bound allocated registered : Bool) :
    (¬ (callback ≠ none ∧ (s.hostDev.service ≠ none ∨ bound) ∧ allocated ∧ registered) ∧
      ((s.registerHotPlugCallback callback bound allocated registered).2 = s ∨
      (s.registerHotPlugCallback callback bound allocated registered).2 =
        { s with hostDev.service := some (s.hostDev.service.getD s.made), made := s.made + 1 })) ∨
    ∃ its, callback = some its ∧ (s.hostDev.service ≠ none ∨ bound) ∧ allocated ∧ registered ∧
      (s.registerHotPlugCallback callback bound allocated registered).2 =
        { s with
          hostDev := ⟨some (s.hostDev.service.getD s.made), some (s.made + 1), some its⟩
          listeners := s.listeners ++ [⟨s.hostDev.service.getD s.made, s.made + 1, true⟩]
          made := s.made + 1 + 1 } := by
  cases callback with
  | none => exact .inl ⟨fun all => all.1 rfl, .inl rfl⟩
  | some its =>
    rw [registerHotPlugCallback.eq_def]
    cases host : s.hostDev.service with
    | none =>
      cases bound
      · exact .inl ⟨fun all => all.2.1.elim (absurd rfl) nofun, .inl rfl⟩
      · cases allocated
        · exact .inl ⟨fun all => absurd all.2.2.1 (by decide), .inr rfl⟩
        · cases registered
          · exact .inl ⟨fun all => absurd all.2.2.2 (by decide), .inr rfl⟩
          · exact .inr ⟨its, rfl, .inr rfl, rfl, rfl, rfl⟩
    | some service =>
      cases allocated
      · exact .inl ⟨fun all => absurd all.2.2.1 (by decide), .inr rfl⟩
      · cases registered
        · exact .inl ⟨fun all => absurd all.2.2.2 (by decide), .inr rfl⟩
        · exact .inr ⟨its, rfl, .inl nofun, rfl, rfl, rfl⟩

theorem registerHotPlug_formed (formed : s.Formed) {bound allocated registered : Bool}
    (careful : s.Careful (.registerHotPlug callback bound allocated registered)) :
    (s.registerHotPlugCallback callback bound allocated registered).2.Formed := by
  obtain ⟨-, same | same⟩ | ⟨its, rfl, here, given, listens, same⟩ :=
    @registerHotPlug_cases s callback bound allocated registered
  · rw [same]
    exact formed
  · rw [same]
    exact bind_formed formed
  · rw [same]
    exact plug_formed (bind_formed formed) rfl (careful nofun here given listens) its

theorem unregisterHotPlug_same (formed : s.Formed) (bare : s.hostDev.hostCb = none) : s.unregisterHotPlugCallback.2 = s := by
  have listener := formed.host_paired.mp bare
  clear formed
  obtain ⟨_, _, _, ⟨_, _, _⟩, _, _, _, _, _, _⟩ := s
  cases bare
  cases listener
  rfl

theorem event_cases (formed : s.Formed) (service : Nat) (data : Option (List (Option Buffer))) :
    (¬ s.Called service ∧ s.event service data = ([], s)) ∨
    (∃ pos ∈ s.devList, pos.service = service ∧ pos.eventCb ≠ none ∧ s.event service data = ([],
      s.eventListenerCallback service data)) ∨ (s.hostDev.service = some service ∧ s.hostDev.hostCb ≠ none ∧
      s.event service data = s.hotPlugEventListenerCallback data) := by
  by_cases called : s.Called service
  · obtain ⟨its, there, rfl⟩ := (formed.listens service).mpr called
    have only := filter_key formed.single there
    have received : s.event its.service data = s.receive its data := by
      rw [event, only, foldl_cons, foldl_nil]
      dsimp only
      rw [nil_append]
    rw [received, receive, if_neg (formed.live its there)]
    rcases called with ⟨pos, listed, same, callback⟩ | ⟨host, callback⟩
    · obtain ⟨before, behind, split⟩ := append_of_mem listed
      have plain := (formed.device_listener split there same.symm).1
      exact .inr (.inl ⟨pos, listed, same, callback, by rw [if_neg (by simp [plain])]⟩)
    · refine .inr (.inr ⟨host, callback, ?_⟩)
      cases plug : its.hotPlug with
      | true => rfl
      | false =>
        obtain ⟨other, known, same, -⟩ := formed.own its there plug
        exact absurd (host.trans (congrArg some same.symm)) (formed.host_apart other known)
  · refine .inl ⟨called, ?_⟩
    have nobody : s.listeners.filter (·.service = service) = [] := by
      refine filter_eq_nil_iff.mpr fun its there same => called ?_
      exact (formed.listens service).mp ⟨its, there, by simpa using same⟩
    rw [event, nobody, foldl_nil]

theorem dispatch_formed (formed : s.Formed) (pos : DeviceInfoNode) (listed : pos ∈ s.devList)
    (data : Option (List (Option Buffer))) : (s.eventListenerCallback pos.service data).Formed := by
  cases data with
  | none => exact formed
  | some data =>
    have old {node : Nat} (there : node ∈ keys (view s.devList)) : node < s.made := by
      obtain ⟨other, known, rfl⟩ := mem_keys_view.mp there
      exact (formed.old other known).1
    refine { formed with waits := fun d there => ?_ }
    rcases mem_append.mp there with was | new
    · exact formed.waits d was
    · cases mem_singleton.mp new
      refine ⟨(formed.old pos listed).2, fun node its => old ?_, fun node its => old ?_, fun ends => ?_,
        fun _ _ => due_first⟩
      · obtain ⟨item, first, rfl⟩ := Option.map_eq_some_iff.mp its
        exact mem_map_of_mem (mem_of_mem_head? first)
      · obtain ⟨item, -, after⟩ := Option.bind_eq_some_iff.mp its
        exact follower_mem after
      · rw [Option.map_eq_none_iff.mp ends]
        rfl

theorem hotPlug_told {callback : Nat} (has : s.hostDev.hostCb = some callback) (data : Option (List (Option Buffer))) :
    s.hotPlugEventListenerCallback data = (((data.bind head?).map fun event => (callback, event)).toList, s) := by
  match data with
  | none => rfl
  | some [] => rfl
  | some (event :: _) => simp [hotPlugEventListenerCallback, has]

theorem event_formed (formed : s.Formed) (service : Nat) (data : Option (List (Option Buffer))) :
    (s.event service data).2.Formed := by
  obtain ⟨-, same⟩ | ⟨pos, listed, rfl, -, same⟩ | ⟨-, callback, same⟩ := event_cases formed service data
  · rw [same]
    exact formed
  · rw [same]
    exact dispatch_formed formed pos listed data
  · obtain ⟨its, there⟩ := Option.ne_none_iff_exists'.mp callback
    rw [same, hotPlug_told there]
    exact formed

theorem visit_some {d later : Dispatch} {node : Nat} (visited : s.visit d node = some later) :
    ∃ pos ∈ s.devList, pos.node = node ∧ (∀ next, d.next = some next → next ∈ keys (view s.devList)) ∧
      later.pos = d.next ∧ later.next = (d.next.bind fun next => follower next (view s.devList)) ∧
      later.service = d.service ∧ later.pkgs = d.pkgs ∧
      ((∃ callback, pos.service = d.service ∧ pos.eventCb = some callback ∧ later.told = d.told ++ [(callback, d.pkgs,
        pos.devIndex)]) ∨ pos.service ≠ d.service ∧ later.told = d.told) := by
  rw [visit] at visited
  cases found : s.devList.find? (·.node = node) with
  | none =>
    rw [found] at visited
    cases visited
  | some pos =>
    rw [found] at visited
    dsimp only at visited
    have listed := mem_of_find?_eq_some found
    have its : pos.node = node := by simpa using find?_some found
    by_cases live : ∀ next, d.next = some next → next ∈ keys (view s.devList)
    · rw [if_pos live] at visited
      by_cases here : pos.service = d.service
      · rw [if_pos here] at visited
        obtain ⟨callback, has, rfl⟩ := Option.map_eq_some_iff.mp visited
        exact ⟨pos, listed, its, live, rfl, rfl, rfl, rfl, .inl ⟨callback, here, has, rfl⟩⟩
      · rw [if_neg here] at visited
        cases visited
        exact ⟨pos, listed, its, live, rfl, rfl, rfl, rfl, .inr ⟨here, rfl⟩⟩
    · rw [if_neg live] at visited
      cases visited

section
variable (formed : s.Formed)
include formed

theorem Formed.find (listed : pos ∈ s.devList) : s.devList.find? (·.node = pos.node) = some pos := by
  cases found : s.devList.find? (·.node = pos.node) with
  | none => exact absurd (by simp) (find?_eq_none.mp found pos listed)
  | some other =>
    have same : other.node = pos.node := by simpa using find?_some found
    have nodes := formed.nodes
    rw [Cursors.keys, view, map_map] at nodes
    exact congrArg some (inj_on_of_nodup_map nodes (mem_of_find?_eq_some found) listed same)

theorem visit_isSome (listed : pos ∈ s.devList) (callback : pos.service = d.service → pos.eventCb ≠ none)
    (live : ∀ next, d.next = some next → next ∈ keys (view s.devList)) : ∃ later, s.visit d pos.node = some later := by
  rw [visit, formed.find listed]
  dsimp only
  rw [if_pos live]
  by_cases here : pos.service = d.service
  · obtain ⟨its, has⟩ := Option.ne_none_iff_exists'.mp (callback here)
    rw [if_pos here, has]
    exact ⟨_, rfl⟩
  · rw [if_neg here]
    exact ⟨_, rfl⟩

theorem visit_waits {d later : Dispatch} {node : Nat} (stands : d.pos = some node) (waits : Waits s.made (view s.devList) d)
    (visited : s.visit d node = some later) : Waits s.made (view s.devList) later := by
  obtain ⟨pos, listed, its, live, goes, after, service, pkgs, told⟩ := visit_some visited
  have known : ∀ key, d.pos = some key → key ∈ keys (view s.devList) := by
    intro key same
    cases stands.symm.trans same
    exact mem_keys_view.mpr ⟨pos, listed, its⟩
  refine ⟨service ▸ waits.service_old, fun key same => waits.next_old key (goes.symm.trans same), fun key same => ?_,
    fun ends => ?_, fun _ _ => ?_⟩
  · obtain ⟨first, -, same⟩ := Option.bind_eq_some_iff.mp (after.symm.trans same)
    obtain ⟨other, there, rfl⟩ := mem_keys_view.mp (follower_mem same)
    exact (formed.old other there).1
  · rw [after, goes.symm.trans ends]
    rfl
  · have due := waits.due known live
    rw [stands] at due
    obtain ⟨item, there, same, due⟩ := due.moves formed.nodes formed.services
    obtain ⟨other, elsewhere, rfl⟩ := mem_map.mp there
    have equal := formed.find elsewhere
    rw [show other.node = pos.node from same.trans its.symm, formed.find listed] at equal
    cases equal
    rw [goes, after, service]
    rcases told with ⟨callback, here, -, told⟩ | ⟨elsewhere, told⟩
    · rw [if_pos here] at due
      rw [told, length_append, length_singleton]
      exact due
    · rw [if_neg elsewhere] at due
      rw [told]
      exact due

theorem go_formed (k : Nat) (careful : s.Careful (.go k)) : (s.go k).Formed := by
  rw [go]
  cases found : s.dispatches[k]? with
  | none => exact formed
  | some d =>
    have there := mem_of_getElem? found
    dsimp only
    cases stands : d.pos with
    | none => exact { formed with waits := fun other listed => formed.waits other (mem_of_mem_eraseIdx listed) }
    | some node =>
      obtain ⟨⟨pos, listed, rfl, callback⟩, live⟩ := careful d node found stands
      dsimp only
      obtain ⟨later, visited⟩ := visit_isSome formed listed callback fun next goes => mem_keys_view.mpr (live next goes)
      rw [visited]
      refine { formed with waits := fun other known => ?_ }
      rcases mem_or_eq_of_mem_set known with was | rfl
      · exact formed.waits other was
      · exact visit_waits formed stands (formed.waits d there) visited

theorem endOpen_formed {bound allocated : Bool} (careful : s.Careful (.endOpen devIndex bound allocated)) :
    (s.endOpen devIndex bound allocated).2.Formed := by
  obtain ⟨same, -⟩ | ⟨same, -⟩ | ⟨same, going, here, given⟩ := endOpen_cases formed devIndex bound allocated
  · rw [same]
    exact formed
  · rw [same]
    exact formed.ended devIndex
  · rw [same]
    exact insert_formed (formed.ended devIndex) (formed.opening_range devIndex going) (careful going here given)

theorem Formed.after {event : Event} (careful : s.Careful event) : (s.after event).Formed := by
  cases event with
  | startOpen devIndex => exact startOpen_formed formed devIndex
  | endOpen devIndex bound allocated => exact endOpen_formed formed careful
  | close devIndex => exact close_formed formed careful
  | register devIndex callback allocated registered => exact register_formed formed careful
  | unregister devIndex unregistered => exact unregister_formed formed devIndex unregistered
  | registerHotPlug callback bound allocated registered => exact registerHotPlug_formed formed careful
  | unregisterHotPlug => exact (unregisterHotPlug_same formed careful).symm ▸ formed
  | event service data => exact event_formed formed service data
  | go k => exact go_formed formed k careful

theorem endOpen_careful {bound allocated : Bool} (sound : (s.after (.endOpen devIndex bound allocated)).Sound) :
    s.Careful (.endOpen devIndex bound allocated) := by
  intro going here given
  obtain ⟨-, apart⟩ | ⟨-, failed⟩ | ⟨same, -⟩ := endOpen_cases formed devIndex bound allocated
  · exact absurd going apart
  · exact absurd ⟨here, given⟩ failed
  · have once := sound.once
    rw [State.after, same, addService, if_neg (by decide), map_append, map_singleton, nodup_append'] at once
    exact seek_none.mpr fun there => once.2.2 there (mem_singleton_self _)

theorem close_careful (sound : (s.after (.close devIndex)).Sound) : s.Careful (.close devIndex) := by
  intro before pos behind found
  have counted := sound.counted
  have counted_before := formed.counted
  rw [State.after, closeInputDevice, found, countP_append] at counted
  rw [(seek_some found).1, countP_append, countP_cons] at counted_before
  by_contra callback
  rw [if_pos (Option.isSome_iff_ne_none.mpr callback)] at counted_before
  have same := counted_before.symm.trans counted
  push_cast at same
  omega

theorem register_careful {allocated registered : Bool}
    (sound : (s.after (.register devIndex callback allocated registered)).Sound) :
    s.Careful (.register devIndex callback allocated registered) := by
  intro given here listens before pos behind found
  obtain ⟨its, rfl⟩ := Option.ne_none_iff_exists'.mp given
  obtain ⟨split, index⟩ := seek_some found
  have listed : pos ∈ s.devList := split ▸ mem_append_right _ mem_cons_self
  have within : ¬ devIndex ≥ MAX_INPUT_DEV_NUM := Nat.not_le.mpr (index ▸ formed.range pos listed)
  have counted := sound.counted
  have counted_before := formed.counted
  rw [State.after, registerReportCallback, if_neg within, found, here, listens] at counted
  change s.evtCallbackNum + 1 = ((before ++ _ :: behind).countP _ : Nat) at counted
  rw [countP_append, countP_cons_of_pos (by simp)] at counted
  rw [split, countP_append, countP_cons] at counted_before
  by_contra callback
  rw [if_pos (Option.isSome_iff_ne_none.mpr callback)] at counted_before
  rw [counted_before] at counted
  push_cast at counted
  omega

theorem registerHotPlug_careful {bound allocated registered : Bool}
    (sound : (s.after (.registerHotPlug callback bound allocated registered)).Sound) :
    s.Careful (.registerHotPlug callback bound allocated registered) := by
  intro given here has listens
  obtain ⟨failed, -⟩ | ⟨its, -, -, -, -, same⟩ := @registerHotPlug_cases s callback bound allocated registered
  · exact absurd ⟨given, here, has, listens⟩ failed
  · have single := sound.single
    rw [State.after, same, map_append, map_singleton, nodup_append'] at single
    by_contra callback
    cases host : s.hostDev.service with
    | none => exact callback (formed.host_bound host)
    | some service =>
      obtain ⟨its, there, rfl⟩ := (formed.listens service).mpr ((formed.host_called host).mpr callback)
      refine single.2.2 (mem_map_of_mem there) ?_
      rw [host, Option.getD_some]
      exact mem_singleton_self _

theorem unregisterHotPlug_careful (sound : (s.after .unregisterHotPlug).Sound) : s.Careful .unregisterHotPlug := by
  by_contra callback
  cases host : s.hostDev.service with
  | none => exact callback (formed.host_bound host)
  | some service =>
    obtain ⟨its, there, rfl⟩ := (formed.listens service).mpr ((formed.host_called host).mpr callback)
    have plug : its.hotPlug = true := by
      cases plain : its.hotPlug with
      | true => rfl
      | false =>
        obtain ⟨other, known, same, -⟩ := formed.own its there plain
        exact absurd (host.trans (congrArg some same.symm)) (formed.host_apart other known)
    have listener := (formed.host_own its there plug).2
    have live := sound.live its there
    rw [State.after, unregisterHotPlugCallback, listener] at live
    exact live mem_cons_self

theorem careful_of_sound {event : Event} (other : ∀ service data, event ≠ .event service data)
    (sound : (s.after event).Sound) : s.Careful event := by
  cases event with
  | startOpen devIndex => trivial
  | endOpen devIndex bound allocated => exact endOpen_careful formed sound
  | close devIndex => exact close_careful formed sound
  | register devIndex callback allocated registered => exact register_careful formed sound
  | unregister devIndex unregistered => trivial
  | registerHotPlug callback bound allocated registered => exact registerHotPlug_careful formed sound
  | unregisterHotPlug => exact unregisterHotPlug_careful formed sound
  | event service data => exact absurd rfl (other service data)
  | go k =>
    intro d node found stands
    have fine := sound.fine
    rw [after, go, found] at fine
    dsimp only at fine
    rw [stands] at fine
    cases visited : s.visit d node with
    | none =>
      simp [visited, faulty] at fine
    | some later =>
      obtain ⟨pos, listed, its, live, -, -, -, -, told⟩ := visit_some visited
      refine ⟨⟨pos, listed, its, fun here => ?_⟩, fun next goes => mem_keys_view.mp (live next goes)⟩
      rcases told with ⟨callback, -, has, -⟩ | ⟨elsewhere, -⟩
      · rw [has]
        nofun
      · exact absurd here elsewhere

theorem event_begun (service : Nat) (data : List (Option Buffer)) :
    s.Begun service data (s.event service (some data)).2 ↔ s.Careful (.event service (some data)) := by
  have device {pos : DeviceInfoNode} (listed : pos ∈ s.devList) (its : pos.service = service) : s.Called service ↔
    pos.eventCb ≠ none := by
    obtain ⟨before, behind, split⟩ := append_of_mem listed
    exact its ▸ formed.device_called split
  obtain ⟨silent, same⟩ | ⟨pos, listed, its, callback, same⟩ | ⟨host, callback, same⟩ :=
    event_cases formed service (some data)
  · rw [same]
    refine ⟨fun _ pos listed its callback => absurd ((device listed its).mpr callback) silent, fun _ => ⟨?_, fun _ => rfl⟩⟩
    rintro ⟨pos, listed, its, callback⟩
    exact absurd ((device listed its).mpr callback) silent
  · rw [same]
    constructor
    · rintro ⟨begun, -⟩ - - - -
      obtain ⟨first, second, began⟩ := begun ⟨pos, listed, its, callback⟩
      rw [eventListenerCallback] at began
      have pkgs := (Dispatch.mk.inj (head_eq_of_cons_eq (append_cancel_left began))).2.1
      have length := congrArg length pkgs
      rw [readPkgs_eq, length_take] at length
      change (allPkgs data).length ≤ MAX_EVENT_PKG_NUM
      omega
    · intro careful
      have fits : (allPkgs data).length ≤ MAX_EVENT_PKG_NUM := careful pos listed its callback
      have whole : readPkgs MAX_EVENT_PKG_NUM data = allPkgs data := by
        rw [readPkgs_eq, take_of_length_le fits]
      refine ⟨fun _ => ?_, fun none_called => absurd (none_called pos listed its) callback⟩
      rw [eventListenerCallback, whole]
      exact ⟨_, _, rfl⟩
  · obtain ⟨its, has⟩ := Option.ne_none_iff_exists'.mp callback
    rw [same, hotPlug_told has]
    have no_device : ∀ pos ∈ s.devList, pos.service ≠ service :=
      fun pos listed its => formed.host_apart pos listed (its ▸ host)
    refine ⟨fun _ pos listed its => absurd its (no_device pos listed), fun _ => ⟨?_, fun _ => rfl⟩⟩
    rintro ⟨pos, listed, its, -⟩
    exact absurd its (no_device pos listed)

theorem event_plugged (service : Nat) (buffer : Option Buffer) (data : List (Option Buffer)) :
    (s.event service (some (buffer :: data))).1 = s.Plugged service buffer := by
  rw [Plugged]
  obtain ⟨silent, same⟩ | ⟨pos, listed, its, callback, same⟩ | ⟨host, callback, same⟩ :=
    event_cases formed service (some (buffer :: data))
  · rw [same]
    by_cases host : s.hostDev.service = some service
    · have bare : s.hostDev.hostCb = none := not_not.mp fun callback => silent ((formed.host_called host).mpr callback)
      rw [if_pos host, bare]
      rfl
    · rw [if_neg host]
  · rw [same, if_neg fun host => formed.host_apart pos listed (its ▸ host)]
  · obtain ⟨its, has⟩ := Option.ne_none_iff_exists'.mp callback
    rw [same, hotPlug_told has, if_pos host, has]
    rfl

end

theorem go_told {k node : Nat} {d later : Dispatch} (found : s.dispatches[k]? = some d) (stands : d.pos = some node)
    (next : (s.go k).dispatches[k]? = some later) : s.Told d later := by
  have within : k < s.dispatches.length := (List.getElem?_eq_some_iff.mp found).1
  rw [go, found] at next
  dsimp only at next
  rw [stands] at next
  dsimp only at next
  cases visited : s.visit d node with
  | none =>
    rw [visited] at next
    cases found.symm.trans next
    exact .inl rfl
  | some its =>
    rw [visited] at next
    rw [getElem?_set_self within] at next
    cases next
    obtain ⟨pos, listed, -, -, -, -, -, -, ⟨callback, here, has, told⟩ | ⟨-, told⟩⟩ := visit_some visited
    · exact .inr ⟨pos, listed, callback, here, has, told⟩
    · exact .inl told

theorem go_done (formed : s.Formed) {k : Nat} (found : s.dispatches[k]? = some d) (stands : d.pos = none) : s.Done d := by
  have waits := formed.waits d (mem_of_getElem? found)
  have due := waits.due (fun node its => absurd (stands.symm.trans its) nofun)
    fun next goes => absurd ((waits.ends stands).symm.trans goes) nofun
  rw [stands] at due
  rcases due.done with once | ⟨never, gone⟩
  · exact .inl once
  · refine .inr ⟨length_eq_zero_iff.mp never, fun pos listed => ?_⟩
    exact gone (pos.node, pos.service) (mem_map_of_mem listed)

theorem right_iff (formed : s.Formed) (event : Event) : s.Right event ↔ s.Careful event := by
  constructor
  · intro right
    by_cases its : ∃ service data, event = .event service data
    · obtain ⟨service, data, rfl⟩ := its
      cases data with
      | none => exact fun _ _ _ _ => Nat.zero_le _
      | some data => exact (event_begun formed service data).mp (right.begun service data rfl)
    · exact careful_of_sound formed (fun service data same => its ⟨service, data, same⟩) right.sound
  · intro careful
    refine ⟨(formed.after careful).toSound, ?_, ?_, ?_, ?_⟩
    · rintro service data rfl
      exact (event_begun formed service data).mpr careful
    · rintro service buffer data rfl
      exact event_plugged formed service buffer data
    · rintro k d later rfl found ⟨node, stands⟩ next
      exact go_told found stands next
    · rintro k d rfl found stands
      exact go_done formed found stands

theorem start_formed : start.Formed := by
  refine ⟨⟨nodup_nil, rfl, rfl, ?_, nodup_nil, nofun, rfl⟩, nodup_nil, nodup_nil, nofun, nofun, nofun,
    nofun, nofun,
    ⟨fun _ => rfl, fun _ => rfl⟩, fun _ => rfl, nofun, nofun, nodup_nil, nofun, nofun, nofun⟩
  intro service
  constructor
  · rintro ⟨_, ⟨⟩, -⟩
  · rintro (⟨_, ⟨⟩, -⟩ | ⟨⟨⟩, -⟩)

/-- In every run of opens, closes, registrations and events, however they are interleaved, all is as
promised exactly while each of them is careful. -/
theorem devices_right (run : List Event) : Takes after Right start run ↔ Takes after Careful start run :=
  Takes.congr (fun (s : State) event (formed : s.Formed) => right_iff formed event)
    (fun _ event formed right => formed.after ((right_iff formed event).mp right)) start_formed

/-- Two opens of one device that both pass the check, and a callback for hot plugs that is dropped. -/
theorem twice_not_right :
    let twice : List Event := [.startOpen 1, .startOpen 1, .endOpen 1 true true, .endOpen 1 true true]
    let dropped : List Event := [.registerHotPlug (some 7) true true true, .unregisterHotPlug]
    ¬ Takes after Right start twice ∧ ¬ Takes after Right start dropped ∧
      (twice.foldl after start).devList.map DeviceInfoNode.devIndex = [1, 1] ∧
      ((dropped.foldl after start).after (.event 0 (some [none]))).fault = true := by
  refine ⟨fun takes => ?_, fun takes => ?_, by decide +kernel, by decide +kernel⟩
  · have once := takes.2.2.2.1.sound.once
    revert once
    decide +kernel
  · have live := takes.2.1.sound.live
    revert live
    decide +kernel

end State

end Peripheral.Input
