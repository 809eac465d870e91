import Mathlib.Data.Finset.Erase
import Mathlib.Data.Finset.Filter
import Mathlib.Data.Finset.Insert
import Peripheral.Transitions
import Peripheral.UsbdKeeps

/-!
The runs of the registry of the USB service. The list has exactly the devices that are there and work, as long as
no device is attached while it is in the list, no initialisation fails and no hub goes without all the devices of
its bus; otherwise it is wrong at once.
-/
namespace Peripheral.Usbd
open Sessions Transitions UsbdService

structure State where
  service : UsbdService
  present : Finset Key
  working : Finset Key

/-- A notification, with the addresses on its bus that go with a hub; a subscriber, with what the service reports to
it; or a command. -/
inductive Event
  | notified (id : PnpId) (info : InfoTable) (gone : Finset UInt8) (o : AttachOutcome)
  | bound (reply : List (InfoTable × AttachOutcome))
  | setConfig (busNum devAddr configId : UInt8) (o : ConfigOutcome)

/-- The attachment does not get as far as the list, or it initialises the device, which is not in the list if it is
to stay there. -/
def Clean (s : UsbdService) (k : Key) (o : AttachOutcome) : Prop :=
  o.created ≠ .success ∨ o.init.Ok ∧ (o.fifo = false ∨ k ∉ s.keys)

instance (s : UsbdService) (k : Key) (o : AttachOutcome) : Decidable (Clean s k o) :=
  inferInstanceAs (Decidable (_ ∨ _))

def start : State := ⟨⟨[], fun _ => ⟨0, 0, false⟩, 0, [], []⟩, ∅, ∅⟩

namespace State

def worked (s : State) (info : InfoTable) (o : AttachOutcome) : Finset Key :=
  if (s.service.usbdDeviceCreateAndAttach info.key.1 info.key.2 o).1 = .success then insert info.key s.working
  else s.working

def readDevice (s : State) (d : InfoTable × AttachOutcome) : State :=
  if d.1.isHub then s
  else { s with service := s.service.hdfReadDevice d, working := s.worked d.1 d.2 }

def Stays (busNum : UInt8) (gone : Finset UInt8) (k : Key) : Prop := k.1 = busNum → k.2 ∉ gone

instance (busNum : UInt8) (gone : Finset UInt8) : DecidablePred (Stays busNum gone) := fun k =>
  inferInstanceAs (Decidable (k.1 = busNum → k.2 ∉ gone))

def after (s : State) : Event → State
  | .notified id info gone o =>
    let service := (s.service.usbdPnpLoaderEventReceived id (some info) o).2
    match id with
    | .gadgetAdd | .gadgetRemove => { s with service := service }
    | .addDevice =>
      if info.isHub then { s with service := service }
      else ⟨service, insert info.key s.present, s.worked info o⟩
    | .removeDevice =>
      if info.isHub then
        ⟨service, s.present.filter (Stays info.key.1 gone), s.working.filter (Stays info.key.1 gone)⟩
      else ⟨service, s.present.erase info.key, s.working.erase info.key⟩
  | .bound reply => reply.foldl readDevice s
  | .setConfig busNum devAddr configId o =>
    { s with
      service := (s.service.dispatchSetConfig busNum devAddr configId o).2
      working :=
        if s.service.Reopens (busNum, devAddr) configId o ∧ ¬ o.init.Ok then s.working.erase (busNum, devAddr)
        else s.working }

def May (s : State) : Event → Prop
  | .bound reply => ∀ d ∈ reply, ¬ d.1.isHub → d.1.key ∈ s.present
  | _ => True

/-- The list is as it should be: each bus and address once, exactly those of the devices that are there and work,
none of them freed, and for each of them, and no other, the session entered and not left again. -/
structure Sound (s : State) : Prop where
  distinct : s.service.keys.Nodup
  exact : ∀ k, k ∈ s.service.keys ↔ k ∈ s.present ∧ k ∈ s.working
  live : ∀ port ∈ s.service.devList, port ∉ s.service.freed
  balanced : ∀ port, opened s.service.sdk port = some (decide (port ∈ s.service.devList))

def Careful (s : State) : Event → Prop
  | .notified .addDevice info _ o => info.isHub ∨ Clean s.service info.key o
  | .notified .removeDevice info gone _ => info.isHub → ∀ k ∈ s.service.keys, k.1 = info.key.1 → k.2 ∈ gone
  | .notified .. => True
  | .bound reply =>
    Takes hdfReadDevice (fun service d => d.1.isHub ∨ Clean service d.1.key d.2) s.service reply
  | .setConfig busNum devAddr configId o => s.service.Reopens (busNum, devAddr) configId o → o.init.Ok

structure Holds (s : State) : Prop where
  kept : s.service.Kept
  exact : ∀ k, k ∈ s.service.keys ↔ k ∈ s.working
  known : s.working ⊆ s.present

variable {s : State}

theorem Holds.sound (holds : s.Holds) : s.Sound :=
  ⟨holds.kept.distinct, fun k => (holds.exact k).trans (and_iff_right_of_imp fun member => holds.known member).symm,
    holds.kept.live, holds.kept.balanced⟩

theorem worked_keys {info : InfoTable} {o : AttachOutcome} (holds : s.Holds) (clean : Clean s.service info.key o) :
    (s.service.usbdDeviceCreateAndAttach info.key.1 info.key.2 o).2.Kept ∧
      (∀ k, k ∈ (s.service.usbdDeviceCreateAndAttach info.key.1 info.key.2 o).2.keys ↔ k ∈ s.worked info o) ∧
      s.worked info o ⊆ insert info.key s.working := by
  unfold worked
  rcases s.service.attach_cases info.key o with ⟨failed, is⟩ | ⟨created, failed, -⟩ | ⟨created, ok, fifo, is⟩ |
    ⟨created, ok, fifo, is⟩
  · rw [is, if_neg failed]
    exact ⟨holds.kept, holds.exact, Finset.subset_insert ..⟩
  · rcases clean with uncreated | ⟨ok, -⟩
    · exact absurd created uncreated
    · exact absurd ok failed
  · rw [is, if_neg nofun]
    refine ⟨holds.kept.lost rfl, ?_, Finset.subset_insert ..⟩
    rw [keys_lost holds.kept.listed]
    exact holds.exact
  · have absent : info.key ∉ s.service.keys := by
      rcases clean with uncreated | ⟨-, noFifo | absent⟩
      · exact absurd created uncreated
      · cases fifo.symm.trans noFifo
      · exact absent
    rw [is, if_pos rfl]
    refine ⟨holds.kept.gained absent, fun k => ?_, Finset.Subset.refl _⟩
    rw [keys_gained holds.kept.listed, List.mem_cons, Finset.mem_insert, holds.exact]

theorem Holds.readDevice (holds : s.Holds) {d : InfoTable × AttachOutcome} (there : ¬ d.1.isHub → d.1.key ∈ s.present)
    (clean : d.1.isHub ∨ Clean s.service d.1.key d.2) : (s.readDevice d).Holds := by
  unfold State.readDevice hdfReadDevice
  by_cases hub : d.1.isHub
  · rw [if_pos hub]
    exact holds
  · obtain ⟨kept, exact_, known⟩ := worked_keys holds (clean.resolve_left hub)
    rw [if_neg hub, if_neg hub]
    exact ⟨kept, exact_, known.trans (Finset.insert_subset (there hub) holds.known)⟩

theorem readDevice_service (s : State) (d : InfoTable × AttachOutcome) :
    (s.readDevice d).service = s.service.hdfReadDevice d := by
  unfold State.readDevice hdfReadDevice
  split <;> rfl

theorem readDevice_present (s : State) (d : InfoTable × AttachOutcome) : (s.readDevice d).present = s.present := by
  unfold State.readDevice
  split <;> rfl

theorem bound_service (s : State) (reply : List (InfoTable × AttachOutcome)) :
    (reply.foldl readDevice s).service = s.service.usbdAddDevicesOnStart reply := by
  induction reply generalizing s with
  | nil => rfl
  | cons d rest ih =>
    rw [List.foldl_cons, ih, readDevice_service]
    rfl

theorem Holds.bound (holds : s.Holds) {reply : List (InfoTable × AttachOutcome)}
    (there : ∀ d ∈ reply, ¬ d.1.isHub → d.1.key ∈ s.present)
    (clean : Takes hdfReadDevice (fun service d => d.1.isHub ∨ Clean service d.1.key d.2) s.service reply) :
    (reply.foldl State.readDevice s).Holds := by
  induction reply generalizing s with
  | nil => exact holds
  | cons d rest ih =>
    obtain ⟨first, behind⟩ := List.forall_mem_cons.mp there
    rw [List.foldl_cons]
    refine ih (holds.readDevice first clean.1) ?_ ?_
    · rw [readDevice_present]
      exact behind
    · rw [readDevice_service]
      exact clean.2

theorem not_sound_of_broken (broken : s.service.Broken) : ¬ s.Sound := by
  intro sound
  rcases broken.wrong with ⟨port, wrong⟩ | twice
  · cases wrong.symm.trans (sound.balanced port)
  · exact twice sound.distinct

theorem not_clean {service : UsbdService} {k : Key} {o : AttachOutcome} (unclean : ¬ Clean service k o) :
    o.created = .success ∧ (¬ o.init.Ok ∨ o.fifo = true ∧ k ∈ service.keys) := by
  obtain ⟨created, wrong⟩ := not_or.mp unclean
  refine ⟨not_not.mp created, ?_⟩
  by_cases ok : o.init.Ok
  · obtain ⟨fifo, member⟩ := not_or.mp fun stays => wrong ⟨ok, stays⟩
    exact .inr ⟨Bool.eq_true_of_not_eq_false fifo, not_not.mp member⟩
  · exact .inl ok

theorem bound_broken {service : UsbdService} (broken : service.Broken) (reply : List (InfoTable × AttachOutcome)) :
    (service.usbdAddDevicesOnStart reply).Broken := by
  unfold usbdAddDevicesOnStart
  induction reply generalizing service with
  | nil => exact broken
  | cons d rest ih =>
    apply ih
    unfold hdfReadDevice
    split
    · exact broken
    · exact broken.attach d.1.key d.2

/-- The first device that is not clean breaks the list for good. -/
theorem Holds.bound_broken (holds : s.Holds) {reply : List (InfoTable × AttachOutcome)}
    (there : ∀ d ∈ reply, ¬ d.1.isHub → d.1.key ∈ s.present)
    (unclean : ¬ Takes hdfReadDevice (fun service d => d.1.isHub ∨ Clean service d.1.key d.2) s.service reply) :
    (s.service.usbdAddDevicesOnStart reply).Broken := by
  induction reply generalizing s with
  | nil => exact absurd trivial unclean
  | cons d rest ih =>
    obtain ⟨first, behind⟩ := List.forall_mem_cons.mp there
    by_cases clean : d.1.isHub ∨ Clean s.service d.1.key d.2
    · have holds' := holds.readDevice first clean
      have later := ih holds'
      rw [readDevice_present, readDevice_service] at later
      exact later behind fun rest => unclean ⟨clean, rest⟩
    · obtain ⟨other, wrong⟩ := not_or.mp clean
      obtain ⟨created, wrong⟩ := not_clean wrong
      refine State.bound_broken ?_ rest
      rw [hdfReadDevice, if_neg other]
      exact holds.kept.broken_attach created wrong

variable {info : InfoTable} {gone : Finset UInt8} {o : AttachOutcome}

section
variable (holds : s.Holds)
include holds

theorem Holds.added (careful : info.isHub ∨ Clean s.service info.key o) :
    (s.after (.notified .addDevice info gone o)).Holds := by
  by_cases hub : info.isHub
  · simp only [after, usbdPnpLoaderEventReceived, hub, if_true, reduceCtorEq, or_self, if_false]
    exact holds
  · obtain ⟨kept, exact_, known⟩ := worked_keys holds (careful.resolve_left hub)
    simp only [after, usbdPnpLoaderEventReceived, hub, if_true, reduceCtorEq, or_self, if_false]
    exact ⟨kept, exact_, known.trans (Finset.insert_subset_insert _ holds.known)⟩

theorem Holds.added_broken (wrong : ¬ (info.isHub ∨ Clean s.service info.key o)) :
    (s.after (.notified .addDevice info gone o)).service.Broken := by
  obtain ⟨other, unclean⟩ := not_or.mp wrong
  obtain ⟨created, wrong⟩ := not_clean unclean
  simp only [after, usbdPnpLoaderEventReceived, other, if_true, reduceCtorEq, or_self, if_false]
  exact holds.kept.broken_attach created wrong

theorem Holds.removed_device (other : ¬ info.isHub) : (s.after (.notified .removeDevice info gone o)).Holds := by
  simp only [after, usbdPnpLoaderEventReceived, other, reduceCtorEq, or_self, if_false]
  have known : s.working.erase info.key ⊆ s.present.erase info.key := Finset.erase_subset_erase _ holds.known
  cases found : s.service.findDevFromService info.key.1 info.key.2 with
  | none =>
    have absent := findDevFromService_none found
    have same : (s.service.usbdDeviceDettach info.key.1 info.key.2).2 = s.service := by
      rw [usbdDeviceDettach, found]
      rfl
    rw [same]
    refine ⟨holds.kept, fun k => ?_, known⟩
    rw [Finset.mem_erase, ← holds.exact]
    refine (and_iff_right_of_imp fun member => ?_).symm
    rintro rfl
    exact absent member
  | some port =>
    obtain ⟨listed, its⟩ := findDevFromService_some found
    rw [usbdDeviceDettach_found found]
    refine ⟨holds.kept.drop listed, fun k => ?_, known⟩
    rw [holds.kept.mem_keys_drop listed, its, Finset.mem_erase, ← holds.exact, and_comm]

theorem removed_hub (hub : info.isHub) : (s.after (.notified .removeDevice info gone o)).service.Kept ∧
      ∀ k, k ∈ (s.after (.notified .removeDevice info gone o)).service.keys ↔ k ∈ s.service.keys ∧ k.1 ≠ info.key.1 := by
  simp only [after, usbdPnpLoaderEventReceived, hub, if_true, reduceCtorEq, or_self, if_false]
  exact holds.kept.removeBusDevs info.key.1 (Nat.le_refl _)

theorem Holds.removed_hub (hub : info.isHub) (all : ∀ k ∈ s.service.keys, k.1 = info.key.1 → k.2 ∈ gone) :
    (s.after (.notified .removeDevice info gone o)).Holds := by
  obtain ⟨kept, keys⟩ := @State.removed_hub s info gone o holds hub
  have working : (s.after (.notified .removeDevice info gone o)).working = s.working.filter (Stays info.key.1 gone) := by
    simp only [after, hub, if_true]
  have present : (s.after (.notified .removeDevice info gone o)).present = s.present.filter (Stays info.key.1 gone) := by
    simp only [after, hub, if_true]
  refine ⟨kept, fun k => ?_, ?_⟩
  · rw [keys, working, Finset.mem_filter, ← holds.exact]
    refine and_congr_right fun member => ⟨fun other its => absurd its other, fun stays its => stays its (all k member its)⟩
  · rw [working, present]
    exact Finset.filter_subset_filter _ holds.known

theorem Holds.removed_hub_not_sound (hub : info.isHub) (left : ¬ ∀ k ∈ s.service.keys, k.1 = info.key.1 → k.2 ∈ gone) :
    ¬ (s.after (.notified .removeDevice info gone o)).Sound := by
  intro sound
  obtain ⟨-, keys⟩ := @State.removed_hub s info gone o holds hub
  apply left
  intro k member its
  by_contra stays
  have works := (holds.exact k).mp member
  have there : k ∈ (s.after (.notified .removeDevice info gone o)).service.keys := by
    rw [sound.exact]
    simp only [after, hub, if_true, Finset.mem_filter]
    exact ⟨⟨holds.known works, fun _ => stays⟩, works, fun _ => stays⟩
  exact ((keys k).mp there).2 its

end

variable {busNum devAddr configId : UInt8} {config : ConfigOutcome}

theorem Holds.configured (holds : s.Holds) (careful : s.service.Reopens (busNum, devAddr) configId config → config.init.Ok) :
    (s.after (.setConfig busNum devAddr configId config)).Holds := by
  by_cases reopens : s.service.Reopens (busNum, devAddr) configId config
  · obtain ⟨port, listed, -, is⟩ := holds.kept.dispatchSetConfig_reopens reopens
    rw [reOpenDevice_ok (holds.kept.ready port listed) (careful reopens)] at is
    simp only [after, is, careful reopens, not_true_eq_false, and_false, if_false]
    exact ⟨holds.kept.again listed, holds.exact, holds.known⟩
  · have same := holds.kept.dispatchSetConfig_same reopens
    simp only [after, same, reopens, false_and, if_false]
    exact holds

theorem Holds.configured_not_sound (holds : s.Holds) (reopens : s.service.Reopens (busNum, devAddr) configId config)
    (failed : ¬ config.init.Ok) : ¬ (s.after (.setConfig busNum devAddr configId config)).Sound := by
  intro sound
  obtain ⟨port, listed, -, is⟩ := holds.kept.dispatchSetConfig_reopens reopens
  have balanced := sound.balanced port
  simp only [after, is, reOpenDevice_fails failed, opened_append_self, holds.kept.balanced, decide_eq_true listed] at balanced
  cases sdk : config.init.sdk <;> simp [sdk, Call.turn] at balanced

theorem Holds.step {e : Event} (holds : s.Holds) (may : s.May e) (careful : s.Careful e) : (s.after e).Holds := by
  cases e with
  | notified id info gone o =>
    cases id with
    | gadgetAdd | gadgetRemove => exact holds
    | addDevice => exact holds.added careful
    | removeDevice =>
      by_cases hub : info.isHub
      · exact holds.removed_hub hub (careful hub)
      · exact holds.removed_device hub
  | bound reply => exact holds.bound may careful
  | setConfig => exact holds.configured careful

theorem Holds.not_sound {e : Event} (holds : s.Holds) (may : s.May e) (careless : ¬ s.Careful e) : ¬ (s.after e).Sound := by
  cases e with
  | notified id info gone o =>
    cases id with
    | gadgetAdd | gadgetRemove => exact absurd trivial careless
    | addDevice => exact not_sound_of_broken (holds.added_broken careless)
    | removeDevice =>
      obtain ⟨hub, left⟩ := Classical.not_imp.mp careless
      exact holds.removed_hub_not_sound hub left
  | bound reply =>
    have broken := holds.bound_broken may careless
    rw [← bound_service] at broken
    exact not_sound_of_broken broken
  | setConfig =>
    obtain ⟨reopens, failed⟩ := Classical.not_imp.mp careless
    exact holds.configured_not_sound reopens failed

theorem start_holds : start.Holds := by
  refine ⟨⟨nofun, nofun, nofun, nofun, List.nodup_nil, nofun, fun _ => rfl⟩, fun k => ?_, Finset.Subset.refl _⟩
  simp [start, keys]

/-- In every run the list is in order after each event exactly while every initialisation succeeds, no device is
attached that is in the list, and a hub goes with all devices of its bus. -/
theorem registry_sound (run : List Event) : Takes after (fun s e => s.May e ∧ (s.after e).Sound) start run ↔
      Takes after (fun s e => s.May e ∧ s.Careful e) start run := by
  refine Takes.congr (fun (s : State) e (holds : s.Holds) => and_congr_right fun may => ⟨fun sound => ?_, fun careful => ?_⟩)
    (fun s e holds right => ?_) start_holds
  · by_contra careless
    exact holds.not_sound may careless sound
  · exact (holds.step may careful).sound
  · refine holds.step right.1 ?_
    by_contra careless
    exact holds.not_sound right.1 careless right.2

/-- A device whose control interface is not found: the session is left twice. -/
theorem unclaimed_not_sound : ¬ Takes after (fun s e => s.May e ∧ (s.after e).Sound) start
      [.notified .addDevice ⟨1, 2, 0⟩ ∅ ⟨.success, ⟨true, false, true, true, true⟩, true⟩] := by
  intro takes
  have balanced := takes.1.2.balanced 0
  revert balanced
  decide

end State

end Peripheral.Usbd
