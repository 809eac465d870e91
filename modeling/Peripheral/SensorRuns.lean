import Mathlib.Data.List.Count
import Peripheral.SensorClients

/-!
The runs of the sensor service. The groups and the HAL always agree, and a client is at most once in a
group; its recipient is the right one exactly while clients are in one group at a time and no call
below fails half way.
-/
namespace Peripheral.Sensor
open Transitions Function List

namespace State

variable {s later : State} {groupId : Int} {c : Nat} {o : Outcome}

structure Formed (s : State) : Prop where
  accepted : ∀ groupId, s.groupIdCallBackMap groupId ≠ none → s.Accepts groupId
  some_client : ∀ groupId, s.groupIdCallBackMap groupId ≠ some []
  hal : ∀ groupId, s.hal groupId = (s.groupIdCallBackMap groupId).isSome
  once : ∀ groupId, (s.clients groupId).Nodup

theorem clients_some {callbacks : List Nat} (found : s.groupIdCallBackMap groupId = some callbacks) :
    s.clients groupId = callbacks := by
  rw [clients, found, Option.getD_some]

theorem clients_none (found : s.groupIdCallBackMap groupId = none) : s.clients groupId = [] := by
  rw [clients, found, Option.getD_none]

theorem Formed.group (formed : s.Formed) (listed : c ∈ s.clients groupId) :
    s.Accepts groupId ∧ s.groupIdCallBackMap groupId = some (s.clients groupId) := by
  cases found : s.groupIdCallBackMap groupId with
  | none =>
    rw [clients_none found] at listed
    cases listed
  | some callbacks => exact ⟨formed.accepted groupId (by rw [found]; nofun), congrArg some (clients_some found).symm⟩

theorem Formed.put (formed : s.Formed) (clients : Option (List Nat)) (interface : later.sensorInterface = s.sensorInterface)
    (groups : later.groupIdCallBackMap = update s.groupIdCallBackMap groupId clients) (accepts : s.Accepts groupId)
    (some_client : clients ≠ some []) (once : (clients.getD []).Nodup)
    (hal : ∀ other, later.hal other = if other = groupId then clients.isSome else s.hal other) : later.Formed := by
  have self : later.groupIdCallBackMap groupId = clients := by rw [groups, update_self]
  have others (other : Int) (differs : other ≠ groupId) : later.groupIdCallBackMap other = s.groupIdCallBackMap other := by
    rw [groups, update_of_ne differs]
  constructor
  · intro other found
    by_cases its : other = groupId
    · exact ⟨interface.trans accepts.1, its ▸ accepts.2⟩
    · obtain ⟨there, range⟩ := formed.accepted other (others other its ▸ found)
      exact ⟨interface.trans there, range⟩
  · intro other
    by_cases its : other = groupId
    · rw [its, self]
      exact some_client
    · rw [others other its]
      exact formed.some_client other
  · intro other
    rw [hal]
    by_cases its : other = groupId
    · rw [if_pos its, its, self]
    · rw [if_neg its, others other its, formed.hal]
  · intro other
    rw [State.clients]
    by_cases its : other = groupId
    · rw [its, self]
      exact once
    · rw [others other its]
      exact formed.once other

theorem Formed.moves (formed : s.Formed) (interface : later.sensorInterface = s.sensorInterface)
    (groups : later.groupIdCallBackMap = s.groupIdCallBackMap) (hal : later.hal = s.hal) : later.Formed := by
  obtain ⟨accepted, some_client, registered, once⟩ := formed
  simp only [← interface, ← groups, ← hal, Accepts, clients] at accepted some_client registered once
  exact ⟨accepted, some_client, registered, once⟩

variable {removed : Bool}

theorem removeSensorDeathRecipient_groups : (s.removeSensorDeathRecipient c removed).sensorInterface = s.sensorInterface ∧
    (s.removeSensorDeathRecipient c removed).groupIdCallBackMap = s.groupIdCallBackMap ∧
    (s.removeSensorDeathRecipient c removed).hal = s.hal := by
  rw [removeSensorDeathRecipient]
  cases s.callBackDeathRecipientMap c <;> exact ⟨rfl, rfl, rfl⟩

/-- A registration is refused, or the client is there already; or it is the next or the first client
of its group; or the HAL refuses the first one. -/
inductive Registered (s : State) (groupId : Int) (c : Nat) (o : Outcome) : Int × State → Prop
  | kept (ret : Int) (why : s.Accepts groupId → c ∉ s.clients groupId → ¬ o.added) : Registered s groupId c o (ret, s)
  | next (accepts : s.Accepts groupId) (apart : c ∉ s.clients groupId) (added : o.added) (callbacks : List Nat)
      (found : s.groupIdCallBackMap groupId = some callbacks) :
      Registered s groupId c o (SENSOR_SUCCESS, (s.addSensorDeathRecipient c).setGroup groupId (some (callbacks ++ [c])))
  | first (accepts : s.Accepts groupId) (apart : c ∉ s.clients groupId) (added : o.added)
      (found : s.groupIdCallBackMap groupId = none)
      (hal : o.hal = SENSOR_SUCCESS) :
      Registered s groupId c o (o.hal, ((s.addSensorDeathRecipient c).setHal groupId true).setGroup groupId (some [c]))
  | refused (accepts : s.Accepts groupId) (apart : c ∉ s.clients groupId) (added : o.added)
      (found : s.groupIdCallBackMap groupId = none)
      (hal : o.hal ≠ SENSOR_SUCCESS) :
      Registered s groupId c o (o.hal, (s.addSensorDeathRecipient c).removeSensorDeathRecipient c o.removed)

/-- Both calls are refused for a group that is not accepted. -/
theorem checked_cases {holds : Int × State → Prop} {body : Int × State} (refused : ∀ ret, ¬ s.Accepts groupId → holds (ret, s))
    (accepted : s.Accepts groupId → holds body) : holds (if !s.sensorInterface then (HDF_FAILURE, s)
      else if groupId < TRADITIONAL_SENSOR_TYPE ∨ groupId > MEDICAL_SENSOR_TYPE then (SENSOR_INVALID_PARAM, s) else body) := by
  by_cases interface : s.sensorInterface
  · rw [if_neg (by simp [interface])]
    split
    next outside =>
      apply refused
      rintro ⟨-, rfl | rfl⟩ <;> revert outside <;> decide
    next within =>
      refine accepted ⟨interface, ?_⟩
      simp only [TRADITIONAL_SENSOR_TYPE, MEDICAL_SENSOR_TYPE] at within ⊢
      omega
  · rw [if_pos (by simp [interface])]
    exact refused _ fun accepts => interface accepts.1

theorem register_cases : Registered s groupId c o (s.register groupId c o) := by
  rw [register]
  refine checked_cases (fun _ refused => .kept _ fun accepts => absurd accepts refused) fun accepts => ?_
  cases found : s.groupIdCallBackMap groupId with
  | some callbacks =>
    have clients := clients_some found
    dsimp only
    by_cases listed : c ∈ callbacks
    · rw [if_pos listed]
      exact .kept _ fun _ apart => absurd (clients ▸ listed) apart
    rw [if_neg listed]
    by_cases added : o.added
    · rw [if_neg (by simp [added])]
      exact .next accepts (clients ▸ listed) added callbacks found
    · rw [if_pos (by simp [added])]
      exact .kept _ fun _ _ => added
  | none =>
    have apart : c ∉ s.clients groupId := by simp [clients_none found]
    dsimp only
    by_cases added : o.added
    · rw [if_neg (by simp [added])]
      by_cases hal : o.hal = SENSOR_SUCCESS
      · rw [if_neg (not_not.mpr hal)]
        exact .first accepts apart added found hal
      · rw [if_pos hal]
        exact .refused accepts apart added found hal
    · rw [if_pos (by simp [added])]
      exact .kept _ fun _ _ => added

/-- A client stays in its group, or leaves others in it, or is the last. -/
inductive Unregistered (s : State) (groupId : Int) (c : Nat) (o : Outcome) : Int × State → Prop
  | kept (ret : Int) (why : s.Accepts groupId → ¬ s.Leaves groupId c o) : Unregistered s groupId c o (ret, s)
  | others (accepts : s.Accepts groupId) (callbacks : List Nat) (found : s.groupIdCallBackMap groupId = some callbacks)
      (listed : c ∈ callbacks) (more : callbacks.length > 1) :
      Unregistered s groupId c o
        (SENSOR_SUCCESS, (s.removeSensorDeathRecipient c o.removed).setGroup groupId (some (callbacks.erase c)))
  | last (accepts : s.Accepts groupId) (callbacks : List Nat) (found : s.groupIdCallBackMap groupId = some callbacks)
      (listed : c ∈ callbacks) (alone : ¬ callbacks.length > 1) (hal : o.hal = SENSOR_SUCCESS) :
      Unregistered s groupId c o
        (o.hal, ((s.setHal groupId false).removeSensorDeathRecipient c o.removed).setGroup groupId none)

theorem unregisterImpl_cases : Unregistered s groupId c o (s.unregisterImpl groupId c o) := by
  rw [unregisterImpl]
  refine checked_cases (fun _ refused => .kept _ fun accepts => absurd accepts refused) fun accepts => ?_
  cases found : s.groupIdCallBackMap groupId with
  | none =>
    refine .kept _ fun _ leaves => ?_
    have listed := leaves.1
    rw [clients_none found] at listed
    cases listed
  | some callbacks =>
    have clients := clients_some found
    dsimp only
    by_cases listed : c ∈ callbacks
    · rw [if_neg (not_not.mpr listed)]
      by_cases more : callbacks.length > 1
      · rw [if_pos more]
        exact .others accepts callbacks found listed more
      rw [if_neg more]
      by_cases hal : o.hal = SENSOR_SUCCESS
      · rw [if_neg (not_not.mpr hal)]
        exact .last accepts callbacks found listed more hal
      · rw [if_pos hal]
        exact .kept _ fun _ leaves => leaves.2.elim (clients ▸ more) hal
    · rw [if_pos listed]
      exact .kept _ fun _ leaves => listed (clients ▸ leaves.1)

/-! ### The groups, kept by every event -/

theorem clients_setGroup (clients : Option (List Nat)) (other : Int) :
    (s.setGroup groupId clients).clients other = if other = groupId then clients.getD [] else s.clients other := by
  rw [State.clients, setGroup]
  dsimp only
  by_cases its : other = groupId
  · rw [if_pos its, its, update_self]
  · rw [if_neg its, update_of_ne its, State.clients]

theorem Formed.register (formed : s.Formed) : (s.register groupId c o).2.Formed := by
  have shape : Registered s groupId c o (s.register groupId c o) := register_cases
  revert shape
  generalize s.register groupId c o = result
  rintro (⟨-, -⟩ | ⟨accepts, apart, -, callbacks, found⟩ | ⟨accepts, -, -, -, -⟩ | ⟨-, -, -, -, -⟩)
  · exact formed
  · refine formed.put (some (callbacks ++ [c])) rfl rfl accepts (by simp) ?_ fun other => ?_
    · rw [clients_some found] at apart
      have once := formed.once groupId
      rw [clients_some found] at once
      rw [Option.getD_some, ← concat_eq_append]
      exact once.concat apart
    · change s.hal other = _
      by_cases its : other = groupId
      · rw [if_pos its, its, formed.hal, found]
        rfl
      · rw [if_neg its]
  · refine formed.put (some [c]) rfl rfl accepts (by simp) (nodup_singleton c) fun other => ?_
    exact update_apply ..
  · obtain ⟨interface, groups, hal⟩ := @removeSensorDeathRecipient_groups (s.addSensorDeathRecipient c) c o.removed
    exact formed.moves interface groups hal

theorem alone_eq {callbacks : List Nat} (listed : c ∈ callbacks) (alone : ¬ callbacks.length > 1) : callbacks = [c] := by
  cases callbacks with
  | nil => cases listed
  | cons head rest =>
    have empty : rest = [] := by
      cases rest with
      | nil => rfl
      | cons second more => simp at alone
    rw [empty, mem_singleton] at listed
    rw [empty, listed]

/-- One client has left one group, and has no recipient of which the service knows. -/
structure Left (s : State) (groupId : Int) (c : Nat) (removed : Bool) (later : State) : Prop where
  clients : ∀ other, later.clients other = if other = groupId then (s.clients groupId).erase c else s.clients other
  recipients : later.callBackDeathRecipientMap = (s.removeSensorDeathRecipient c removed).callBackDeathRecipientMap
  attached : later.attached = (s.removeSensorDeathRecipient c removed).attached

theorem unregisterImpl_formed (formed : s.Formed) : (s.unregisterImpl groupId c o).2.Formed := by
  have shape : Unregistered s groupId c o (s.unregisterImpl groupId c o) := unregisterImpl_cases
  revert shape
  generalize s.unregisterImpl groupId c o = result
  rintro (⟨-, -⟩ | ⟨accepts, callbacks, found, listed, more⟩ | ⟨accepts, -, -, -, -, -⟩)
  · exact formed
  · obtain ⟨interface, groups, hal⟩ := @removeSensorDeathRecipient_groups s c o.removed
    have once := formed.once groupId
    rw [clients_some found] at once
    refine formed.put (some (callbacks.erase c)) interface (by rw [setGroup,
      groups]) accepts ?_ (once.erase c) fun other => ?_
    · intro empty
      have length := length_erase_of_mem listed
      rw [Option.some.inj empty, length_nil] at length
      omega
    · change (s.removeSensorDeathRecipient c o.removed).hal other = _
      rw [hal]
      by_cases its : other = groupId
      · rw [if_pos its, its, formed.hal, found]
        rfl
      · rw [if_neg its]
  · obtain ⟨interface, groups, hal⟩ := @removeSensorDeathRecipient_groups (s.setHal groupId false) c o.removed
    refine formed.put none interface (by rw [setGroup, groups]; rfl) accepts nofun nodup_nil fun other => ?_
    change ((s.setHal groupId false).removeSensorDeathRecipient c o.removed).hal other = _
    rw [hal]
    exact update_apply ..

theorem unregisterImpl_left : (s.Accepts groupId ∧ s.Leaves groupId c o ∧ (s.unregisterImpl groupId c o).1 = SENSOR_SUCCESS ∧
      s.Left groupId c o.removed (s.unregisterImpl groupId c o).2) ∨
    ((s.Accepts groupId → ¬ s.Leaves groupId c o) ∧ (s.unregisterImpl groupId c o).2 = s) := by
  have shape : Unregistered s groupId c o (s.unregisterImpl groupId c o) := unregisterImpl_cases
  revert shape
  generalize s.unregisterImpl groupId c o = result
  rintro (⟨-, why⟩ | ⟨accepts, callbacks, found, listed, more⟩ | ⟨accepts, callbacks, found, listed, alone, hal⟩)
  · exact .inr ⟨why, rfl⟩
  · have its := clients_some found
    refine .inl ⟨accepts, ⟨its ▸ listed, .inl (its ▸ more)⟩, rfl, fun other => ?_, rfl, rfl⟩
    rw [clients_setGroup, its]
    simp only [clients, removeSensorDeathRecipient_groups.2.1, Option.getD_some]
  · have its := clients_some found
    refine .inl ⟨accepts, ⟨its ▸ listed, .inr hal⟩, hal, fun other => ?_, ?_, ?_⟩
    · rw [clients_setGroup, its, alone_eq listed alone, erase_cons_head, Option.getD_none]
      simp only [clients, removeSensorDeathRecipient_groups.2.1, setHal]
    all_goals
      simp only [setGroup, removeSensorDeathRecipient, setHal]
      cases s.callBackDeathRecipientMap c <;> rfl

theorem leaveGroup_formed (formed : s.Formed) : (s.leaveGroup groupId c o).Formed := by
  rw [leaveGroup]
  split
  · exact unregisterImpl_formed formed
  · exact formed

theorem Formed.after (formed : s.Formed) (event : Event) : (s.after event).Formed := by
  cases event with
  | register groupId c o => exact formed.register
  | unregister groupId c o => exact unregisterImpl_formed formed
  | died c promote traditional medical =>
    rw [State.after, next]
    cases s.attached c with
    | nil => exact formed
    | cons recipient rest =>
      have told : State.Formed { s with attached := update s.attached c rest } := formed.moves rfl rfl rfl
      dsimp only [onRemoteDied]
      split
      · exact leaveGroup_formed (leaveGroup_formed told)
      · exact told
  | data medical event => exact formed

theorem Formed.sound (formed : s.Formed) (recipients : ∀ d, s.Held d) : s.Sound := by
  refine ⟨fun groupId => ?_, formed.once, recipients⟩
  rw [formed.hal]
  cases found : s.groupIdCallBackMap groupId with
  | none => simp [clients_none found]
  | some callbacks =>
    have some_client : callbacks ≠ [] := fun empty => formed.some_client groupId (empty ▸ found)
    simp [clients_some found, some_client]

theorem held_congr {d : Nat} (groups : ∀ other, d ∈ later.clients other ↔ d ∈ s.clients other)
    (attached : later.attached d = s.attached d)
    (recipients : later.callBackDeathRecipientMap d = s.callBackDeathRecipientMap d) : later.Held d ↔ s.Held d := by
  simp only [Held, groups, attached, recipients]

theorem Held.client (held : s.Held c) (listed : c ∈ s.clients groupId) :
    ∃ recipient, s.attached c = [recipient] ∧ s.callBackDeathRecipientMap c = some recipient := by
  rcases held with ⟨-, its⟩ | ⟨apart, -, -⟩
  · exact its
  · exact absurd listed (apart groupId)

theorem Held.apart (held : s.Held c) (apart : ∀ other, c ∉ s.clients other) :
    s.attached c = [] ∧ s.callBackDeathRecipientMap c = none := by
  rcases held with ⟨⟨other, listed⟩, -⟩ | ⟨-, its⟩
  · exact absurd listed (apart other)
  · exact its

theorem joined_held (held : ∀ d, s.Held d)
    (clients : ∀ other, later.clients other = if other = groupId then s.clients groupId ++ [c] else s.clients other)
    (recipients : later.callBackDeathRecipientMap = (s.addSensorDeathRecipient c).callBackDeathRecipientMap)
    (attached : later.attached = (s.addSensorDeathRecipient c).attached) :
    (∀ d, later.Held d) ↔ ∀ other, c ∉ s.clients other := by
  have listed : c ∈ later.clients groupId := by simp [clients]
  have its : later.attached c = s.attached c ++ [s.made] := (congrFun attached c).trans (update_self ..)
  constructor
  · intro now other there
    obtain ⟨recipient, before, -⟩ := (held c).client there
    obtain ⟨added, after, -⟩ := (now c).client listed
    rw [its, before] at after
    cases after
  · intro apart d
    by_cases same : d = c
    · refine .inl ⟨⟨groupId, same ▸ listed⟩, s.made, ?_, ?_⟩
      · rw [same, its, ((held c).apart apart).1, nil_append]
      · rw [same]
        exact (congrFun recipients c).trans (update_self ..)
    · refine (held_congr (fun other => ?_) ?_ ?_).mpr (held d)
      · rw [clients]
        by_cases here : other = groupId
        · rw [if_pos here, here, mem_append, mem_singleton]
          exact or_iff_left same
        · rw [if_neg here]
      · exact (congrFun attached d).trans (update_of_ne same ..)
      · exact (congrFun recipients d).trans (update_of_ne same ..)

theorem removeSensorDeathRecipient_self (removed : Bool) {recipient : Nat}
    (found : s.callBackDeathRecipientMap c = some recipient) :
    (s.removeSensorDeathRecipient c removed).callBackDeathRecipientMap c = none ∧
      (s.removeSensorDeathRecipient c removed).attached c =
        if removed then (s.attached c).erase recipient else s.attached c := by
  rw [removeSensorDeathRecipient, found]
  cases removed
  · exact ⟨update_self .., rfl⟩
  · exact ⟨update_self .., update_self ..⟩

theorem removeSensorDeathRecipient_other (removed : Bool) {d : Nat} (differs : d ≠ c) :
    (s.removeSensorDeathRecipient c removed).callBackDeathRecipientMap d = s.callBackDeathRecipientMap d ∧
      (s.removeSensorDeathRecipient c removed).attached d = s.attached d := by
  rw [removeSensorDeathRecipient]
  cases s.callBackDeathRecipientMap c with
  | none => exact ⟨rfl, rfl⟩
  | some recipient =>
    cases removed
    · exact ⟨update_of_ne differs .., rfl⟩
    · exact ⟨update_of_ne differs .., update_of_ne differs ..⟩

section
variable (left : s.Left groupId c removed later)
include left

theorem Left.others {d : Nat} (differs : d ≠ c) : later.Held d ↔ s.Held d := by
  obtain ⟨recipients, attached⟩ := @removeSensorDeathRecipient_other s c removed d differs
  refine held_congr (fun other => ?_) (by rw [left.attached, attached]) (by rw [left.recipients, recipients])
  rw [left.clients]
  by_cases here : other = groupId
  · rw [if_pos here, here, mem_erase_of_ne differs]
  · rw [if_neg here]

theorem Left.gone (formed : s.Formed) (other : Int) : c ∈ later.clients other ↔ other ≠ groupId ∧ c ∈ s.clients other := by
  rw [left.clients]
  by_cases here : other = groupId
  · rw [if_pos here, (formed.once groupId).mem_erase_iff]
    simp [here]
  · rw [if_neg here]
    simp [here]

/-- Each client has its recipient after one's leaving exactly if that one leaves nothing behind. -/
theorem Left.held (formed : s.Formed) (held : ∀ d, s.Held d) (listed : c ∈ s.clients groupId) :
    (∀ d, later.Held d) ↔ (∀ other, other ≠ groupId → c ∉ s.clients other) ∧ removed := by
  obtain ⟨recipient, attached, found⟩ := (held c).client listed
  obtain ⟨none_left, still⟩ := removeSensorDeathRecipient_self removed found
  rw [← left.recipients] at none_left
  rw [← left.attached, attached] at still
  constructor
  · intro now
    have apart : ∀ other, c ∉ later.clients other := by
      intro other there
      obtain ⟨_, -, its⟩ := (now c).client there
      rw [none_left] at its
      cases its
    refine ⟨fun other differs there => apart other ((left.gone formed other).mpr ⟨differs, there⟩), ?_⟩
    cases removed with
    | true => rfl
    | false => cases still.symm.trans ((now c).apart apart).1
  · rintro ⟨nowhere, rfl⟩ d
    by_cases same : d = c
    · refine .inr ⟨fun other there => ?_, ?_, same ▸ none_left⟩
      · obtain ⟨differs, there⟩ := (left.gone formed other).mp (same ▸ there)
        exact nowhere other differs there
      · rw [same, still, if_pos rfl, erase_cons_head]
    · exact (left.others same).mpr (held d)

end

theorem Same.held (same : s.Same later) (held : ∀ d, s.Held d) (d : Nat) : later.Held d := by
  refine (held_congr (fun other => ?_) (congrFun same.attached d) (congrFun same.recipients d)).mpr (held d)
  rw [clients, same.groups, clients]

theorem Same.rfl : s.Same s := ⟨Eq.refl _, Eq.refl _, Eq.refl _, Eq.refl _⟩

/-- A refused registration leaves nothing behind exactly if the client comes from nowhere and its recipient is taken back. -/
theorem refused_same (held : s.Held c) (removed : Bool) :
    s.Same ((s.addSensorDeathRecipient c).removeSensorDeathRecipient c removed) ↔ (∀ other, c ∉ s.clients other) ∧ removed := by
  have found : (s.addSensorDeathRecipient c).callBackDeathRecipientMap c = some s.made := update_self ..
  have its : (s.addSensorDeathRecipient c).attached c = s.attached c ++ [s.made] := update_self ..
  obtain ⟨forgotten, attached⟩ := removeSensorDeathRecipient_self removed found
  obtain ⟨-, groups, hal⟩ := @removeSensorDeathRecipient_groups (s.addSensorDeathRecipient c) c removed
  rw [its] at attached
  constructor
  · intro same
    constructor
    · intro other there
      obtain ⟨_, -, remembered⟩ := held.client there
      rw [← same.recipients, forgotten] at remembered
      cases remembered
    · cases removed with
      | true => rfl
      | false =>
        rw [same.attached] at attached
        simp at attached
  · rintro ⟨apart, rfl⟩
    obtain ⟨nothing, none_known⟩ := held.apart apart
    refine ⟨groups, funext fun d => ?_, hal, funext fun d => ?_⟩
    all_goals
      by_cases same : d = c
      · rw [same]
        simp [forgotten, none_known, attached, nothing]
      · obtain ⟨recipients, attached⟩ := @removeSensorDeathRecipient_other (s.addSensorDeathRecipient c) c true d same
        first
        | exact recipients.trans (update_of_ne same ..)
        | exact attached.trans (update_of_ne same ..)

theorem register_right (formed : s.Formed) (held : ∀ d, s.Held d) :
    s.Right (.register groupId c o) ↔ s.Careful (.register groupId c o) := by
  have later : (s.register groupId c o).2.Formed := formed.register
  have right_iff (success : (s.register groupId c o).1 ≠ SENSOR_SUCCESS → s.Same (s.register groupId c o).2) :
      s.Right (.register groupId c o) ↔ ∀ d, (s.register groupId c o).2.Held d :=
    ⟨fun right => right.sound.recipients,
      fun now => ⟨later.sound now, fun _ returned => Option.some.inj returned ▸ success, nofun⟩⟩
  have shape : Registered s groupId c o (s.register groupId c o) := register_cases
  have unchanged : s.Right (.register groupId c o) → (s.register groupId c o).1 ≠ SENSOR_SUCCESS →
    s.Same (s.register groupId c o).2 :=
    fun right failed => right.unchanged _ rfl failed
  revert later right_iff unchanged shape
  generalize s.register groupId c o = result
  rintro - right_iff
    (⟨_, why⟩ | ⟨accepts, apart, added, callbacks, found⟩ | ⟨accepts, apart, added, found, hal⟩ | ⟨accepts, apart, added,
      found, hal⟩)
    unchanged
  · exact (right_iff fun _ => Same.rfl).trans ⟨fun _ accepts apart added => absurd added (why accepts apart), fun _ => held⟩
  · have clients (other : Int) :
        ((s.addSensorDeathRecipient c).setGroup groupId (some (callbacks ++ [c]))).clients other =
          if other = groupId then s.clients groupId ++ [c] else s.clients other := by
      rw [clients_setGroup, clients_some found]
      rfl
    rw [right_iff fun failed => absurd rfl failed, joined_held held clients rfl rfl]
    exact ⟨fun nowhere _ _ _ => ⟨nowhere, fun none_there => by rw [found] at none_there; cases none_there⟩,
      fun careful => (careful accepts apart added).1⟩
  · have clients (other : Int) :
        (((s.addSensorDeathRecipient c).setHal groupId true).setGroup groupId (some [c])).clients other =
          if other = groupId then s.clients groupId ++ [c] else s.clients other := by
      rw [clients_setGroup, clients_none found]
      rfl
    rw [right_iff fun failed => absurd hal failed, joined_held held clients rfl rfl]
    exact ⟨fun nowhere _ _ _ => ⟨nowhere, fun _ failed => absurd hal failed⟩, fun careful => (careful accepts apart added).1⟩
  · constructor
    · intro right _ _ _
      obtain ⟨nowhere, removed⟩ := (refused_same (held c) o.removed).mp (unchanged right hal)
      exact ⟨nowhere, fun _ _ => removed⟩
    · intro careful
      obtain ⟨nowhere, removed⟩ := careful accepts apart added
      have same := (refused_same (held c) o.removed).mpr ⟨nowhere, removed found hal⟩
      exact (right_iff fun _ => same).mpr (same.held held)

theorem unregister_right (formed : s.Formed) (held : ∀ d, s.Held d) :
    s.Right (.unregister groupId c o) ↔ s.Careful (.unregister groupId c o) := by
  have later : (s.unregisterImpl groupId c o).2.Formed := unregisterImpl_formed formed
  rcases @unregisterImpl_left s groupId c o with ⟨accepts, leaves, success, left⟩ | ⟨stays, same⟩
  · have iff := left.held formed held leaves.1
    constructor
    · intro right _ _
      exact iff.mp right.sound.recipients
    · intro careful
      exact ⟨later.sound (iff.mpr (careful accepts leaves)),
        fun _ returned failed => absurd success (Option.some.inj returned ▸ failed), nofun⟩
  · have kept : s.Same (s.unregisterImpl groupId c o).2 := same.symm ▸ Same.rfl
    exact ⟨fun _ accepts leaves => absurd leaves (stays accepts), fun _ => ⟨later.sound (kept.held held), fun _ _ _ => kept,
      nofun⟩⟩

/-- What a dead client's leaving one group does. -/
structure Parted (s : State) (groupId : Int) (c : Nat) (o : Outcome) (later : State) : Prop where
  formed : later.Formed
  apart : ∀ other, other ≠ groupId → later.clients other = s.clients other
  others : ∀ d, d ≠ c → (d ∈ later.clients groupId ↔ d ∈ s.clients groupId)
  gone : c ∈ later.clients groupId ↔ c ∈ s.clients groupId ∧ ¬ s.Leaves groupId c o
  their : ∀ d, d ≠ c → later.attached d = s.attached d ∧ later.callBackDeathRecipientMap d = s.callBackDeathRecipientMap d
  bare : s.attached c = [] → later.attached c = []
  forgotten : s.Leaves groupId c o ∨ s.callBackDeathRecipientMap c = none → later.callBackDeathRecipientMap c = none

section
variable (formed : s.Formed)
include formed

theorem leaveGroup_parted : s.Parted groupId c o (s.leaveGroup groupId c o) := by
  have kept (stays : c ∈ s.clients groupId → ¬ s.Leaves groupId c o) : s.Parted groupId c o s :=
    ⟨formed, fun _ _ => rfl, fun _ _ => Iff.rfl, ⟨fun there => ⟨there, stays there⟩, And.left⟩, fun _ _ => ⟨rfl, rfl⟩, id,
      fun why => why.elim (fun leaves => absurd leaves (stays leaves.1)) id⟩
  rw [leaveGroup]
  by_cases listed : c ∈ s.clients groupId
  · rw [if_pos listed]
    rcases @unregisterImpl_left s groupId c o with ⟨-, leaves, -, left⟩ | ⟨stays, same⟩
    · refine ⟨unregisterImpl_formed formed, fun other differs => ?_, fun d differs => ?_, ?_, fun d differs => ?_,
        fun bare => ?_, fun _ => ?_⟩
      · rw [left.clients, if_neg differs]
      · rw [left.clients, if_pos rfl, mem_erase_of_ne differs]
      · rw [left.gone formed]
        exact ⟨fun there => absurd rfl there.1, fun there => absurd leaves there.2⟩
      · obtain ⟨recipients, attached⟩ := @removeSensorDeathRecipient_other s c o.removed d differs
        exact ⟨(congrFun left.attached d).trans attached, (congrFun left.recipients d).trans recipients⟩
      · rw [left.attached]
        cases found : s.callBackDeathRecipientMap c with
        | none => simp [removeSensorDeathRecipient, found, bare]
        | some recipient => simp [(removeSensorDeathRecipient_self o.removed found).2, bare]
      · rw [left.recipients]
        cases found : s.callBackDeathRecipientMap c with
        | none => simp [removeSensorDeathRecipient, found]
        | some recipient => exact (removeSensorDeathRecipient_self o.removed found).1
    · rw [same]
      exact kept fun there => stays (formed.group there).1
  · rw [if_neg listed]
    exact kept fun there => absurd there listed

/-- The dead client's own recipient is gone, and every client has its recipient exactly if the dead one
leaves all its groups. -/
theorem onRemoteDied_held {promote : Bool} {traditional medical : Outcome} (bare : s.attached c = [])
    (listed : c ∈ s.clients groupId) (held : ∀ d, d ≠ c → s.Held d) :
    (∀ d, (s.onRemoteDied c promote traditional medical).Held d) ↔
      promote ∧ (c ∈ s.clients TRADITIONAL_SENSOR_TYPE → s.Leaves TRADITIONAL_SENSOR_TYPE c traditional) ∧
        (c ∈ s.clients MEDICAL_SENSOR_TYPE → s.Leaves MEDICAL_SENSOR_TYPE c medical) := by
  have no_client {later : State} (bare : later.attached c = []) (now : later.Held c) (group : Int) :
      c ∉ later.clients group := by
    intro there
    obtain ⟨_, still, -⟩ := now.client there
    rw [bare] at still
    cases still
  rw [onRemoteDied]
  cases promote with
  | false => exact ⟨fun now => absurd listed (no_client bare (now c) groupId), fun careful => absurd careful.1 (by decide)⟩
  | true =>
    rw [if_pos rfl]
    have first : s.Parted TRADITIONAL_SENSOR_TYPE c traditional (s.leaveGroup TRADITIONAL_SENSOR_TYPE c traditional) :=
      leaveGroup_parted formed
    generalize s.leaveGroup TRADITIONAL_SENSOR_TYPE c traditional = middle at first
    have second : middle.Parted MEDICAL_SENSOR_TYPE c medical (middle.leaveGroup MEDICAL_SENSOR_TYPE c medical) :=
      leaveGroup_parted first.formed
    generalize middle.leaveGroup MEDICAL_SENSOR_TYPE c medical = later at second
    have medical_clients : middle.clients MEDICAL_SENSOR_TYPE = s.clients MEDICAL_SENSOR_TYPE := first.apart _ (by decide)
    have in_traditional : c ∈ later.clients TRADITIONAL_SENSOR_TYPE ↔
        c ∈ s.clients TRADITIONAL_SENSOR_TYPE ∧ ¬ s.Leaves TRADITIONAL_SENSOR_TYPE c traditional := by
      rw [second.apart _ (by decide), first.gone]
    have in_medical : c ∈ later.clients MEDICAL_SENSOR_TYPE ↔ c ∈ s.clients MEDICAL_SENSOR_TYPE ∧
      ¬ s.Leaves MEDICAL_SENSOR_TYPE c medical := by
      rw [second.gone, Leaves, medical_clients, Leaves]
    have bare_now := second.bare (first.bare bare)
    constructor
    · intro now
      refine ⟨rfl, fun there => ?_, fun there => ?_⟩
      · by_contra stays
        exact no_client bare_now (now c) _ (in_traditional.mpr ⟨there, stays⟩)
      · by_contra stays
        exact no_client bare_now (now c) _ (in_medical.mpr ⟨there, stays⟩)
    · rintro ⟨-, leaves_traditional, leaves_medical⟩ d
      by_cases same : d = c
      · rw [same]
        refine .inr ⟨fun other there => ?_, bare_now, second.forgotten ?_⟩
        · obtain ⟨-, rfl | rfl⟩ := (second.formed.group there).1
          · obtain ⟨was, stays⟩ := in_traditional.mp there
            exact stays (leaves_traditional was)
          · obtain ⟨was, stays⟩ := in_medical.mp there
            exact stays (leaves_medical was)
        · obtain ⟨-, rfl | rfl⟩ := (formed.group listed).1
          · exact .inr (first.forgotten (.inl (leaves_traditional listed)))
          · have leaves := leaves_medical listed
            rw [Leaves, ← medical_clients] at leaves
            exact .inl leaves
      · obtain ⟨attached, recipients⟩ := first.their d same
        obtain ⟨attached_too, recipients_too⟩ := second.their d same
        refine (held_congr (fun other => ?_) (attached_too.trans attached) (recipients_too.trans recipients)).mpr
          (held d same)
        by_cases its_medical : other = MEDICAL_SENSOR_TYPE
        · rw [its_medical, second.others d same, medical_clients]
        · rw [second.apart other its_medical]
          by_cases its_traditional : other = TRADITIONAL_SENSOR_TYPE
          · rw [its_traditional, first.others d same]
          · rw [first.apart other its_traditional]

theorem died_right {promote : Bool} {traditional medical : Outcome} (held : ∀ d, s.Held d) :
    s.Right (.died c promote traditional medical) ↔ s.Careful (.died c promote traditional medical) := by
  have later := formed.after (.died c promote traditional medical)
  have right_iff : s.Right (.died c promote traditional medical) ↔
    ∀ d, (s.after (.died c promote traditional medical)).Held d := by
    refine ⟨fun right => right.sound.recipients, fun now => ⟨later.sound now, fun ret returned => ?_, nofun⟩⟩
    rw [next] at returned
    cases its : s.attached c <;> rw [its] at returned <;> cases returned
  rw [right_iff, Careful]
  clear right_iff later
  rcases held c with ⟨⟨groupId, listed⟩, recipient, attached, -⟩ | ⟨-, nothing, -⟩
  · rw [after, next, attached]
    have bare : update s.attached c [] c = [] := update_self ..
    have told : State.Formed { s with attached := update s.attached c [] } := formed.moves rfl rfl rfl
    have others (d : Nat) (differs : d ≠ c) : State.Held { s with attached := update s.attached c [] } d :=
      (@held_congr s { s with attached := update s.attached c [] } d
        (fun _ => Iff.rfl) (update_of_ne differs ..) rfl).mpr (held d)
    exact (onRemoteDied_held told bare listed others).trans ⟨fun careful _ => careful, fun careful => careful nofun⟩
  · rw [after, next, nothing]
    exact ⟨fun _ some_recipient => absurd rfl some_recipient, fun _ => held⟩

theorem Formed.delivered (medical : Bool) (event : SensorEvents) (data : List UInt8) (its : event.data = some data) :
    s.Delivered medical event data := by
  intro c told
  let payload : HdfSensorEvents :=
    ⟨event.sensorId, event.version, event.timestamp, event.option, event.mode, event.dataLen, data.take event.dataLen⟩
  have told_of (groupId : Int)
      (told_eq : s.told medical (some event) = if s.hal groupId then (s.dataCallback groupId (some event)).2 else []) :
      (s.told medical (some event)).count (c, told) = if told = payload ∧ c ∈ s.clients groupId then 1 else 0 := by
    have clients : s.told medical (some event) = (s.clients groupId).map fun client => (client, payload) := by
      rw [told_eq, formed.hal]
      cases found : s.groupIdCallBackMap groupId with
      | none => rw [clients_none found, map_nil, if_neg (by decide)]
      | some callbacks =>
        rw [if_pos Option.isSome_some]
        obtain ⟨sensorId, version, timestamp, option, mode, dataLen, bytes⟩ := event
        cases its
        rfl
    rw [clients]
    by_cases same : told = payload
    · have apart : Function.Injective fun client : Nat => (client, payload) := fun _ _ same => (Prod.mk.inj same).1
      rw [same, count_map_of_injective _ _ apart, (formed.once groupId).count]
      simp
    · rw [if_neg fun both => same both.1, count_eq_zero, mem_map]
      rintro ⟨_, -, made⟩
      exact same (Prod.mk.inj made).2.symm
  cases medical with
  | true => exact told_of MEDICAL_SENSOR_TYPE (if_pos rfl)
  | false => exact told_of TRADITIONAL_SENSOR_TYPE (if_neg (by decide))

theorem right_iff (held : ∀ d, s.Held d) (event : Event) : s.Right event ↔ s.Careful event := by
  cases event with
  | register groupId c o => exact register_right formed held
  | unregister groupId c o => exact unregister_right formed held
  | died c promote traditional medical => exact died_right formed held
  | data medical event =>
    refine ⟨fun _ => trivial, fun _ => ⟨formed.sound held, nofun, ?_⟩⟩
    rintro _ e bytes ⟨⟩ its
    exact formed.delivered medical e bytes its

end

theorem start_formed (sensorInterface : Bool) : (start sensorInterface).Formed :=
  ⟨fun _ found => absurd rfl found, fun _ => nofun, fun _ => rfl, fun _ => nodup_nil⟩

theorem start_held (sensorInterface : Bool) (d : Nat) : (start sensorInterface).Held d := .inr ⟨fun _ => nofun, rfl, rfl⟩

/-- In every run all is as promised exactly while clients are in one group at a time, and their deaths and
recipients are dealt with. -/
theorem clients_right (sensorInterface : Bool) (run : List Event) :
    Takes after Right (start sensorInterface) run ↔ Takes after Careful (start sensorInterface) run :=
  Takes.congr (fun (s : State) event (holds : s.Formed ∧ ∀ d, s.Held d) => right_iff holds.1 holds.2 event)
    (fun _ event holds right => ⟨holds.1.after event, right.sound.recipients⟩) ⟨start_formed sensorInterface,
      start_held sensorInterface⟩

/-- A client of both groups leaves one of them, and its death would not be seen to in the other. -/
theorem both_not_right :
    let fine : Outcome := ⟨true, SENSOR_SUCCESS, true⟩
    let both : List Event := [.register TRADITIONAL_SENSOR_TYPE 7 fine, .register MEDICAL_SENSOR_TYPE 7 fine]
    ¬ Takes after Right (start true) both ∧ (both.foldl after (start true)).attached 7 = [0, 1] ∧
      ((both.foldl after (start true)).after (.unregister MEDICAL_SENSOR_TYPE 7 fine)).attached 7 = [0] ∧
      State.callBackDeathRecipientMap
        ((both.foldl after (start true)).after (.unregister MEDICAL_SENSOR_TYPE 7 fine)) 7 = none := by
  refine ⟨fun takes => ?_, by decide, by decide, by decide⟩
  obtain ⟨-, _, its, -⟩ | ⟨-, its, -⟩ := takes.2.1.sound.recipients 7
  · cases its.symm.trans (by decide : _ = [0, 1])
  · cases its.symm.trans (by decide : _ = [0, 1])

end State

end Peripheral.Sensor
