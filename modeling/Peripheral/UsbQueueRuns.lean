import Mathlib.Data.List.Perm.Subperm
import Peripheral.UsbQueueKeeps

/-!
The runs of the request queue. While every step is a careful one, no command uses a slot that was
released, no slot is with two clients or twice in the queue, and every wait reports the client data
and the bytes of the request that was queued first.
-/
namespace Peripheral.UsbQueue
open Transitions List Option
open Function (update_self)

theorem scan_some {mem : Nat → Option UsbdRequestASync} {e : Endpoint} {n : UInt8} {slots : List Nat}
    (live : ∀ a ∈ slots, (mem a).isSome) : ∃ found, scan mem e n slots = some found ∧ ∀ a, found = .free a → a ∈ slots := by
  induction slots generalizing n with
  | nil =>
    refine ⟨_, rfl, fun a its => ?_⟩
    split at its <;> cases its
  | cons b rest ih =>
    obtain ⟨req, there⟩ := isSome_iff_exists.mp (live b (mem_cons_self ..))
    have later (n : UInt8) := @ih n fun a listed => live a (mem_cons_of_mem b listed)
    simp only [scan, there]
    by_cases same : req.pipe = e
    · rw [if_pos same]
      cases used : req.status with
      | true =>
        obtain ⟨found, scanned, listed⟩ := later (n + 1)
        exact ⟨found, scanned, fun a its => mem_cons_of_mem b (listed a its)⟩
      | false =>
        refine ⟨.free b, rfl, fun a its => ?_⟩
        cases its
        exact mem_cons_self ..
    · rw [if_neg same]
      obtain ⟨found, scanned, listed⟩ := later n
      exact ⟨found, scanned, fun a its => mem_cons_of_mem b (listed a its)⟩

namespace State

variable {s : State} {t a ticket place : Nat} {o : Outcome}

theorem Good.own (good : s.Good) (held : (s.threads t).held = some a) :
    (∀ u, u ≠ t → (s.threads u).held ≠ some a) ∧ a ∉ s.requestQueue.map (·.slot) :=
  ⟨fun u differs => good.apart t u a differs.symm held, good.off t a held⟩

theorem PcOk.marked {pc : Pc} (ok : s.PcOk pc) (held : pc.held = some a) :
    s.Marked a true ∨ ∃ ticket place, pc = .reply a ticket place := by
  cases pc with
  | submit b _ | reset b | cancel b _ =>
    cases held
    exact .inl ok
  | append b _ | take b _ _ =>
    cases held
    exact .inl ok.1
  | reply b ticket place =>
    cases held
    exact .inr ⟨ticket, place, rfl⟩
  | _ => cases held

theorem mapped {slot : UsbdRequestASync} {f : UsbdRequestASync → State} (there : s.mem a = some slot) :
    (s.mem a).map f = some (f slot) :=
  congrArg (Option.map f) there

variable {clientData : List UInt8}

section
variable (good : s.Good)
include good

theorem Good.find {e : Endpoint} : ∃ later, s.micro t o (.find e clientData) = some later ∧ later.Good := by
  obtain ⟨found, scanned, listed⟩ := @scan_some s.mem e 0 s.reqASyncList fun a listed => (good.list a).mp listed
  refine ⟨_, congrArg (Option.map _) scanned, ?_⟩
  cases found with
  | free a => exact good.free ((good.list a).mp (listed a rfl)) rfl
  | room | full => exact good.free trivial rfl

theorem Good.insert {e : Endpoint} (room : o.created → s.count e < MAX_REQUESTASYNC_NUM) :
    ∃ later, s.micro t o (.insert e clientData) = some later ∧ later.Good := by
  by_cases created : o.created
  · refine ⟨_, if_pos created, Good.free (good.inserted (room created)) ?_ rfl⟩
    exact congrArg isSome (update_self s.made (some (UsbdRequestASync.mk e false none .zero)) s.mem)
  · exact ⟨_, if_neg created, good.free trivial rfl⟩

theorem Good.mark (at_mark : s.threads t = .mark a clientData) (unused : ∀ slot, s.mem a = some slot → slot.status = false)
    (still : ∀ u ticket place, s.threads u ≠ .reply a ticket place) :
    ∃ later, s.micro t o (.mark a clientData) = some later ∧ later.Good := by
  have ok := good.pcs t
  rw [at_mark] at ok
  obtain ⟨slot, there⟩ := isSome_iff_exists.mp ok
  have unmarked : ¬ s.Marked a true := by
    rintro ⟨req, there', used⟩
    rw [unused req there'] at used
    cases used
  refine ⟨_, mapped there, good.set there rfl (fun u _ held => ?_) (fun listed => ?_) ⟨_, update_self .., rfl⟩
    (fun b held => (some.inj held).symm) nofun⟩
  · obtain marked | ⟨ticket, place, replies⟩ := (good.pcs u).marked held
    · exact unmarked marked
    · exact still u ticket place replies
  · obtain ⟨entry, queued, rfl⟩ := mem_map.mp listed
    exact unmarked (good.queued entry queued).1

theorem Good.submit (at_submit : s.threads t = .submit a clientData)
    (landed : o.fill = 0 → o.submit = 0 → ∀ ticket, (a, ticket) ∉ s.flights) :
    ∃ later, s.micro t o (.submit a clientData) = some later ∧ later.Good := by
  have ok := good.pcs t
  rw [at_submit] at ok
  obtain ⟨slot, there, used⟩ := ok
  obtain ⟨alone, off⟩ := good.own (t := t) (a := a) (by rw [at_submit]; rfl)
  refine ⟨_, mapped there, ?_⟩
  have fails (req : UsbdRequestASync) (pipe : req.pipe = slot.pipe) (status : req.status = true) :
      ((s.put a req).goto t (.reset a)).Good :=
    good.set there pipe alone off ⟨_, update_self .., status⟩ (fun b held => (some.inj held).symm) nofun
  by_cases filled : o.fill = 0
  · by_cases submitted : o.submit = 0
    · have numbered := good.numbered ⟨a, clientData⟩
      rw [if_neg (not_not.mpr filled), if_neg (not_not.mpr submitted)]
      refine numbered.touch there rfl alone off ?_ ?_ ?_ (fun b held => (some.inj held).symm) nofun
      · intro b n differs flies
        obtain flies | last := mem_append.mp flies |>.imp_right mem_singleton.mp
        · exact flies
        · cases last
          exact absurd rfl differs
      · intro b n flies
        obtain flies | last := mem_append.mp flies |>.imp_right mem_singleton.mp
        · exact numbered.flights b n flies
        · cases last
          exact ⟨Nat.lt_succ_self _, by simp, by simp, by simp [there]⟩
      · refine ⟨⟨_, update_self .., used⟩, Nat.lt_succ_self _, by simp [put], ?_, ?_⟩
        · refine ⟨_, update_self .., by simp [put], ?_⟩
          intro bytes rest moved
          simp [put] at moved
        · intro other flies
          obtain flies | last := mem_append.mp flies |>.imp_right mem_singleton.mp
          · exact absurd flies (landed filled submitted other)
          · cases last
            rfl
    · rw [if_neg (not_not.mpr filled), if_pos submitted]
      exact fails _ rfl used
  · rw [if_pos filled]
    exact fails _ rfl used

theorem Good.append (at_append : s.threads t = .append a ticket) :
    ∃ later, s.micro t o (.append a ticket) = some later ∧ later.Good := by
  have ok := good.pcs t
  rw [at_append] at ok
  obtain ⟨alone, off⟩ := good.own (t := t) (a := a) (by rw [at_append]; rfl)
  obtain ⟨slot, there, -⟩ := ok.1
  have left : (s.goto t .idle).Good := good.free trivial rfl
  refine ⟨_, mapped there, left.push (fun u held => ?_) off ok.1 ok.2.moves⟩
  exact alone u (goto_held held).1 (goto_held held).2

theorem Good.reset (at_reset : s.threads t = .reset a) : ∃ later, s.micro t o (.reset a) = some later ∧ later.Good := by
  have ok := good.pcs t
  rw [at_reset] at ok
  obtain ⟨alone, off⟩ := good.own (t := t) (a := a) (by rw [at_reset]; rfl)
  obtain ⟨slot, there, -⟩ := ok
  exact ⟨_, mapped there, good.set there rfl alone off trivial nofun nofun⟩

/-! ### Waiting for the first request -/

theorem Good.first {entry : Entry} {rest : List Entry} (queue : s.requestQueue = entry :: rest) :
    (∀ u, u ≠ t → (s.threads u).held ≠ some entry.slot) ∧ entry.slot ∉ rest.map (·.slot) := by
  have listed : entry ∈ s.requestQueue := by simp [queue]
  have once := good.once
  rw [queue] at once
  exact ⟨fun u _ held => good.off u _ held (mem_map_of_mem listed), (nodup_cons.mp once).1⟩

theorem Good.pop : ∃ later, s.micro t o .pop = some later ∧ later.Good := by
  cases queue : s.requestQueue with
  | nil =>
    refine ⟨s.goto t .idle, ?_, good.free trivial rfl⟩
    simp only [micro, queue]
  | cons entry rest =>
    have listed : entry ∈ s.requestQueue := by simp [queue]
    obtain ⟨marked, carries⟩ := good.queued entry listed
    obtain ⟨slot, there⟩ := isSome_iff_exists.mp marked.live
    obtain ⟨alone, off⟩ := good.first queue
    have sorted := good.sorted
    rw [queue] at sorted
    refine ⟨({ s with requestQueue := rest } : State).goto t (.take entry.slot entry.ticket entry.place), ?_, ?_⟩
    · simp only [micro, queue, there]
      rfl
    · have popped := good.popped queue
      refine popped.goto ⟨marked, carries.moves⟩ (fun b held => ?_) fun b place handed => ?_
      · cases held
        exact ⟨alone, off⟩
      · cases handed
        refine ⟨good.placed entry listed, (pairwise_cons.mp sorted).1, fun r written => ?_⟩
        exact (good.reported r written).2.1 entry listed

theorem Good.take (at_take : s.threads t = .take a ticket place) :
    ∃ later, s.micro t o (.take a ticket place) = some later ∧ later.Good := by
  have ok := good.pcs t
  rw [at_take] at ok
  obtain ⟨alone, off⟩ := good.own (t := t) (a := a) (by rw [at_take]; rfl)
  obtain ⟨slot, there, -⟩ := ok.1
  have carries := ok.2
  have known : slot.compInfo.status.code ≠ -1 := by
    cases slot.compInfo.status <;> decide
  refine ⟨_, mapped there, ?_⟩
  rw [if_neg fun waits => known waits.1]
  refine good.set there rfl alone off ⟨⟨_, update_self .., rfl⟩, carries.known, carries.slot, ?_, carries.flights⟩
    (fun b held => (some.inj held).symm) fun b place' handed => ?_
  · obtain ⟨req, there', data⟩ := carries.data
    obtain rfl := some.inj (there.symm.trans there')
    exact ⟨_, update_self .., data⟩
  · cases handed
    exact good.handed t a place (by rw [at_take]; rfl)

theorem Good.reply (at_reply : s.threads t = .reply a ticket place) (ended : ∃ bytes, s.moved ticket = some (bytes, []))
    (next : ∀ u a' place', u ≠ t → (s.threads u).handed = some (a', place') → place < place') :
    ∃ later, s.micro t o (.reply a ticket place) = some later ∧ later.Good := by
  have ok := good.pcs t
  rw [at_reply] at ok
  obtain ⟨alone, off⟩ := good.own (t := t) (a := a) (by rw [at_reply]; rfl)
  obtain ⟨placed, before, last⟩ := good.handed t a place (by rw [at_reply]; rfl)
  obtain ⟨slot, there, data, buffer⟩ := ok.2.data
  obtain ⟨bytes, moved⟩ := ended
  have written : ((s.put a { slot with clientData := none, status := false }).goto t .idle).Good :=
    good.set there rfl alone off trivial nofun nofun
  refine ⟨_, mapped there, written.reports placed before last (fun u b place' handed => ?_) ok.2.known ?_ ⟨[], ?_⟩⟩
  · by_cases its : u = t
    · subst its
      rw [goto_self] at handed
      cases handed
    · rw [goto_of_ne its] at handed
      exact next u b place' its handed
  · rw [data]
    rfl
  · refine moved.trans ?_
    rw [buffer bytes [] moved, append_nil]

theorem Good.popAll {e : Endpoint} : ∃ later, s.micro t o (.popAll e) = some later ∧ later.Good := by
  cases queue : s.requestQueue with
  | nil =>
    refine ⟨s.goto t .idle, ?_, good.free trivial rfl⟩
    simp only [micro, queue]
  | cons entry rest =>
    have listed : entry ∈ s.requestQueue := by simp [queue]
    obtain ⟨marked, -⟩ := good.queued entry listed
    obtain ⟨slot, there⟩ := isSome_iff_exists.mp marked.live
    obtain ⟨alone, off⟩ := good.first queue
    refine ⟨({ s with requestQueue := rest } : State).goto t (.cancel entry.slot e), ?_, ?_⟩
    · simp only [micro, queue, there]
      rfl
    · have popped := good.popped queue
      refine popped.goto marked (fun b held => ?_) nofun
      cases held
      exact ⟨alone, off⟩

theorem Good.cancel {e : Endpoint} (at_cancel : s.threads t = .cancel a e) :
    ∃ later, s.micro t o (.cancel a e) = some later ∧ later.Good := by
  have ok := good.pcs t
  rw [at_cancel] at ok
  obtain ⟨alone, off⟩ := good.own (t := t) (a := a) (by rw [at_cancel]; rfl)
  obtain ⟨slot, there, -⟩ := ok
  exact ⟨_, mapped there, good.set there rfl alone off trivial nofun nofun⟩

theorem Good.releases {pc : Pc} (queue : s.requestQueue = []) (flights : s.flights = [])
    (alone : ∀ u, u ≠ t → (s.threads u).slot = none) (ok : s.releaseList.PcOk pc) (held : pc.held = none) :
    (s.releaseList.goto t pc).Good := by
  have left : (s.goto t .idle).Good := good.free trivial rfl
  have released : (s.goto t .idle).releaseList.Good := by
    refine left.released queue flights fun u => ?_
    by_cases its : u = t
    · subst its
      rw [goto_self]
      rfl
    · rw [goto_of_ne its]
      exact alone u its
  have gone : ((s.goto t .idle).releaseList.goto t pc).Good := released.free ok.moves held
  have same : (s.goto t .idle).releaseList.goto t pc = s.releaseList.goto t pc :=
    congrArg (fun threads => { s.releaseList with threads }) (Function.update_idem ..)
  exact same ▸ gone

end

/-- While a device is opened again there is nothing in it, and no other client is in a command. -/
def Closing (s : State) : Prop :=
  ∀ t, s.threads t = .renew →
    s.requestQueue = [] ∧ s.reqASyncList = [] ∧ s.flights = [] ∧ s.initFlag = false ∧ ∀ u, u ≠ t → s.threads u = .idle

theorem Good.micro (good : s.Good) (closing : s.Closing) (careful : s.Careful (.step t o)) :
    ∃ later, s.micro t o (s.threads t) = some later ∧ later.Good := by
  simp only [Careful] at careful
  cases pc : s.threads t with
  | idle => exact ⟨s, rfl, good⟩
  | find e clientData => exact good.find
  | insert e clientData =>
    rw [pc] at careful
    exact good.insert careful
  | mark a clientData =>
    rw [pc] at careful
    exact good.mark pc careful.1 careful.2
  | submit a clientData =>
    rw [pc] at careful
    exact good.submit pc careful
  | append a ticket => exact good.append pc
  | reset a => exact good.reset pc
  | pop => exact good.pop
  | take a ticket place => exact good.take pc
  | reply a ticket place =>
    rw [pc] at careful
    exact good.reply pc careful.1 careful.2
  | popAll e => exact good.popAll
  | cancel a e => exact good.cancel pc
  | release =>
    rw [pc] at careful
    exact ⟨_, rfl, good.releases careful.1 careful.2.1 careful.2.2 trivial rfl⟩
  | close =>
    rw [pc] at careful
    have alone (u : Nat) (differs : u ≠ t) : (s.threads u).slot = none := by
      rw [careful.2.2 u differs]
      rfl
    have closed : (s.releaseList.goto t .renew).Good := good.releases careful.1 careful.2.1 alone trivial rfl
    exact ⟨_, rfl, closed.flag false⟩
  | renew =>
    obtain ⟨queue, list, -⟩ := closing t pc
    have left : (s.goto t .idle).Good := good.free trivial rfl
    have renewed := left.flag o.init
    refine ⟨_, rfl, ?_⟩
    rw [← queue, ← list]
    exact renewed

theorem micro_others {pc : Pc} {later : State} (moves : s.micro t o pc = some later) :
    (∀ u, u ≠ t → later.threads u = s.threads u) ∧ (pc ≠ .idle → later.threads t = .renew → pc = .close) := by
  have goes {pc' : Pc} (other : pc' ≠ .renew) :
      (∀ u, u ≠ t → (s.goto t pc').threads u = s.threads u) ∧
        (pc ≠ .idle → (s.goto t pc').threads t = .renew → pc = .close) :=
    ⟨fun _ differs => goto_of_ne differs, fun _ renews => absurd (goto_self.symm.trans renews) other⟩
  cases pc with
  | idle =>
    cases moves
    exact ⟨fun _ _ => rfl, fun busy => absurd rfl busy⟩
  | find e clientData =>
    obtain ⟨found, -, rfl⟩ := map_eq_some_iff.mp moves
    cases found <;> exact goes nofun
  | insert e clientData =>
    simp only [micro] at moves
    split at moves <;> cases moves <;> exact goes nofun
  | mark a _ | append a _ | reset a | reply a _ _ | cancel a _ =>
    obtain ⟨slot, -, rfl⟩ := map_eq_some_iff.mp moves
    exact goes nofun
  | submit a clientData =>
    obtain ⟨slot, -, rfl⟩ := map_eq_some_iff.mp moves
    split
    · exact goes nofun
    · split <;> exact goes nofun
  | take a ticket place =>
    obtain ⟨slot, -, rfl⟩ := map_eq_some_iff.mp moves
    split <;> exact goes nofun
  | pop | popAll e =>
    simp only [micro] at moves
    split at moves
    · cases moves
      exact goes nofun
    · obtain ⟨slot, -, rfl⟩ := map_eq_some_iff.mp moves
      exact goes nofun
  | release | renew =>
    cases moves
    exact goes nofun
  | close =>
    cases moves
    exact ⟨fun _ differs => goto_of_ne differs, fun _ _ => rfl⟩

theorem Closing.micro {later : State} (closing : s.Closing) (careful : s.Careful (.step t o))
    (moves : s.micro t o (s.threads t) = some later) : later.Closing := by
  obtain ⟨others, self⟩ := micro_others moves
  by_cases busy : s.threads t = .idle
  · rw [busy] at moves
    cases moves
    exact closing
  intro u renews
  by_cases its : u = t
  · subst its
    have closes := self busy renews
    rw [closes] at moves
    simp only [Careful, closes] at careful
    cases moves
    exact ⟨careful.1, rfl, careful.2.1, rfl, fun v differs => (others v differs).trans (careful.2.2 v differs)⟩
  · rw [others u its] at renews
    exact absurd ((closing u renews).2.2.2.2 t (Ne.symm its)) busy

structure Held (s : State) : Prop where
  good : s.Good
  closing : s.Closing

theorem Held.begins {c : Command} (held : s.Held) : Held ((s.next (.begin t c)).getD s) := by
  by_cases starts : s.threads t = .idle ∧ s.initFlag
  · have begun : (s.next (.begin t c)).getD s = s.goto t (start c) :=
      congrArg (getD · s) (congrArg some (if_pos starts))
    rw [begun]
    constructor
    · cases c with
      | setInterface selected => cases selected <;> exact held.good.free trivial rfl
      | setActiveConfig reopens => cases reopens <;> exact held.good.free trivial rfl
      | _ => exact held.good.free trivial rfl
    · intro u renews
      by_cases its : u = t
      · subst its
        rw [goto_self] at renews
        cases c with
        | setInterface selected => cases selected <;> cases renews
        | setActiveConfig reopens => cases reopens <;> cases renews
        | _ => cases renews
      · rw [goto_of_ne its] at renews
        have closed := (held.closing u renews).2.2.2.1
        rw [closed] at starts
        exact absurd starts.2 Bool.false_ne_true
  · have begun : (s.next (.begin t c)).getD s = s := congrArg (getD · s) (congrArg some (if_neg starts))
    rw [begun]
    exact held

theorem Held.next {e : Event} (held : s.Held) (careful : s.Careful e) : ∃ later, s.next e = some later ∧ later.Held := by
  cases e with
  | begin t c => exact ⟨_, rfl, held.begins⟩
  | step t o =>
    obtain ⟨later, moves, good⟩ := held.good.micro held.closing careful
    exact ⟨later, moves, good, held.closing.micro careful moves⟩
  | complete a ticket status bytes rest =>
    by_cases flies : (a, ticket) ∈ s.flights
    · obtain ⟨-, -, -, live⟩ := held.good.flights a ticket flies
      obtain ⟨slot, there⟩ := isSome_iff_exists.mp live
      refine ⟨_, (if_pos flies).trans (mapped there), held.good.ended there flies, fun t renews => ?_⟩
      have none := (held.closing t renews).2.2.1
      rw [none] at flies
      cases flies
    · exact ⟨s, if_neg flies, held⟩

theorem Good.sound (good : s.Good) : s.Sound where
  live entry listed := (good.queued entry listed).1.live
  once := good.once
  waiters t u a place place' handed handed' := by
    by_contra differs
    exact good.apart t u a differs (handed_held handed) (handed_held handed')
  bound e slots distinct its := by
    have within : slots ⊆ s.reqASyncList.filter fun a => (s.mem a).map (·.pipe) = some e := fun a listed => by
      have pipe := its a listed
      refine mem_filter.mpr ⟨(good.list a).mpr ?_, decide_eq_true pipe⟩
      cases there : s.mem a with
      | none =>
        rw [there] at pipe
        cases pipe
      | some req => rfl
    exact Nat.le_trans (subperm_of_subset distinct within).length_le (good.bound e)
  order := good.order
  data r written := (good.reported r written).2.2.2

theorem Held.right {e : Event} (held : s.Held) (careful : s.Careful e) : s.Right e := by
  obtain ⟨later, moves, after⟩ := held.next careful
  refine ⟨later, moves, after.good.sound, fun t o endpoint its cancels => ?_⟩
  subst its
  simp only [Careful, cancels] at careful
  have moves : s.micro t o (s.threads t) = some later := moves
  rw [cancels] at moves
  simp only [micro] at moves
  cases queue : s.requestQueue with
  | nil =>
    simp only [queue] at moves
    cases moves
    exact ⟨nofun, fun _ entry listed => by simp [State.goto, queue] at listed⟩
  | cons entry rest =>
    simp only [queue] at moves careful
    obtain ⟨slot, -, rfl⟩ := map_eq_some_iff.mp moves
    refine ⟨fun other listed gone => ?_, fun idle => ?_⟩
    · obtain rfl | kept := mem_cons.mp listed
      · exact careful _ rfl
      · exact absurd kept gone
    · rw [goto_self] at idle
      cases idle

theorem opened_held : opened.Held where
  good :=
    { pcs := fun _ => trivial
      apart := nofun
      queued := nofun
      once := nodup_nil
      off := nofun
      sorted := .nil
      placed := nofun
      handed := nofun
      order := .nil
      reported := nofun
      flights := nofun
      list := fun _ => iff_of_false not_mem_nil Bool.false_ne_true
      listed := nodup_nil
      bound := fun _ => Nat.zero_le _
      fresh := nofun }
  closing := nofun

/-- In every run of careful steps each step is as promised. -/
theorem requests_right (run : List Event) (careful : Takes after Careful opened run) : Takes after Right opened run :=
  careful.mono (fun s e (held : s.Held) careful => by
    obtain ⟨later, moves, after⟩ := held.next careful
    have taken : s.after e = later := congrArg (getD · s) moves
    exact ⟨held.right careful, taken ▸ after⟩) opened_held

theorem after_others {u : Nat} {e : Event} (other : e.client ≠ some u) : (s.after e).threads u = s.threads u := by
  cases e with
  | begin t c =>
    have differs : u ≠ t := fun same => other (congrArg some same.symm)
    by_cases starts : s.threads t = .idle ∧ s.initFlag
    · simp only [after, next, if_pos starts]
      exact goto_of_ne differs
    · simp only [after, next, if_neg starts]
      rfl
  | step t o =>
    have differs : u ≠ t := fun same => other (congrArg some same.symm)
    cases moves : s.micro t o (s.threads t) with
    | none => simp only [after, next, moves, getD_none]
    | some later =>
      simp only [after, next, moves]
      exact (micro_others moves).1 u differs
  | complete a ticket status bytes rest =>
    by_cases flies : (a, ticket) ∈ s.flights
    · simp only [after, next, if_pos flies]
      cases s.mem a <;> rfl
    · simp only [after, next, if_neg flies]
      rfl

theorem run_others {u : Nat} {run : List Event} (others : ∀ e ∈ run, e.client ≠ some u) :
    (run.foldl after s).threads u = s.threads u := by
  induction run generalizing s with
  | nil => rfl
  | cons e rest ih =>
    rw [foldl_cons, ih fun e' later => others e' (mem_cons_of_mem e later)]
    exact after_others (others e (mem_cons_self ..))

def bulkIn : Endpoint := ⟨1, 0x81⟩
def succeeds : Outcome := ⟨true, 0, 0, 0, 0, true, true⟩

def queued : List Event :=
  [.begin 0 (.requestQueue bulkIn [3]), .step 0 succeeds, .step 0 succeeds, .step 0 succeeds, .step 0 succeeds, .step 0 succeeds]

def waits : List Event := [.begin 1 .requestWait, .step 1 succeeds, .step 1 succeeds, .step 1 succeeds]

/-- Two requests, of which the second is completed first, and two that wait. -/
def served : List Event :=
  queued ++ ([.begin 0 (.requestQueue bulkIn [4]), .step 0 succeeds, .step 0 succeeds, .step 0 succeeds, .step 0 succeeds,
    .step 0 succeeds, .complete 1 1 .COMPLETED [9] [], .complete 0 0 .COMPLETED [7] []] ++ (waits ++ waits))

theorem queued_careful : Takes after Careful opened queued := by
  refine ⟨trivial, trivial, fun _ => by decide, ⟨fun slot there => ?_, fun u ticket place replies => ?_⟩, ?_, trivial,
    trivial⟩
  · cases there
    rfl
  · by_cases first : u = 0
    · subst first
      cases replies
    · have stays : ((queued.take 3).foldl after opened).threads u = .idle :=
        run_others (by simp [queued, Event.client, Ne.symm first])
      cases stays.symm.trans replies
  · exact fun _ _ _ => not_mem_nil

theorem served_idle {n u : Nat} (first : u ≠ 0) (second : u ≠ 1) : ((served.take n).foldl after opened).threads u = .idle := by
  apply run_others
  intro e member
  have all : ∀ e ∈ served, e.client ≠ some u := by
    simp [served, queued, waits, Event.client, first.symm, second.symm]
  exact all e (mem_of_mem_take member)

theorem served_careful : Takes after Careful opened served := by
  have marks : Careful ((served.take 9).foldl after opened) (.step 0 succeeds) := by
    refine ⟨fun slot there => ?_, fun u ticket place replies => ?_⟩
    · cases there
      rfl
    · by_cases first : u = 0
      · subst first
        cases replies
      · by_cases second : u = 1
        · subst second
          cases replies
        · cases (served_idle first second).symm.trans replies
  have replies : ∀ n, n = 17 ∨ n = 21 → ∀ u a place, u ≠ 1 →
      (((served.take n).foldl after opened).threads u).handed ≠ some (a, place) := by
    rintro n which u a place differs handed
    by_cases first : u = 0
    · subst first
      rcases which with rfl | rfl
      · cases handed
      · cases handed
    · cases (congrArg Pc.handed (served_idle first differs)).symm.trans handed
  have fresh : Careful ((served.take 10).foldl after opened) (.step 0 succeeds) := by
    intro _ _ ticket flies
    have before : ((served.take 10).foldl after opened).flights = [(0, 0)] := rfl
    rw [before, mem_singleton] at flies
    cases flies
  refine Takes.append.mpr ⟨queued_careful, trivial, trivial, fun _ => by decide, marks, fresh, trivial, trivial, trivial,
    trivial, trivial, trivial, ⟨⟨[7], rfl⟩, ?_⟩, trivial, trivial, trivial, ⟨⟨[9], rfl⟩, ?_⟩, trivial⟩
  · intro u a place differs handed
    exact absurd handed (replies 17 (.inl rfl) u a place differs)
  · intro u a place differs handed
    exact absurd handed (replies 21 (.inr rfl) u a place differs)

theorem served_right : (served.foldl after opened).reports = [⟨0, 0, [3], [7]⟩, ⟨1, 1, [4], [9]⟩] ∧ Takes after Right opened served :=
  ⟨rfl, requests_right served served_careful⟩

def selected : List Event := queued ++ [.begin 1 (.setInterface true), .step 1 succeeds]

/-- The slot is released, and stays in the queue. -/
theorem selected_not_right : (selected.foldl after opened).requestQueue.map (·.slot) = [0] ∧
    ((selected.foldl after opened).mem 0).isNone ∧ ¬ Takes after Right opened selected := by
  refine ⟨rfl, rfl, fun right => ?_⟩
  obtain ⟨-, ⟨later, moves, sound, -⟩, -⟩ := (Takes.append.mp right).2
  cases moves
  exact absurd (sound.live ⟨0, 0, 0⟩ (mem_cons_self ..)) Bool.false_ne_true

end State

end Peripheral.UsbQueue
