import Mathlib.Data.List.Nodup
import Peripheral.UsbQueue

/-!
What holds between the steps of careful runs: every slot is with one client, in the queue, or
free, and a slot that is with a client or in the queue carries the request that it is there for.
-/
namespace Peripheral.UsbQueue
open Transitions Function List

namespace State

structure Carries (s : State) (a ticket : Nat) : Prop where
  known : ticket < s.tickets
  slot : (s.asked ticket).slot = a
  data : ∃ req, s.mem a = some req ∧ req.clientData = some (s.asked ticket).clientData ∧
    ∀ bytes rest, s.moved ticket = some (bytes, rest) → req.compInfo.buffer = bytes ++ rest
  flights : ∀ other, (a, other) ∈ s.flights → other = ticket

def Marked (s : State) (a : Nat) (status : Bool) : Prop := ∃ req, s.mem a = some req ∧ req.status = status

def PcOk (s : State) : Pc → Prop
  | .mark a _ => (s.mem a).isSome
  | .submit a _ | .reset a | .cancel a _ => s.Marked a true
  | .append a ticket | .take a ticket _ => s.Marked a true ∧ s.Carries a ticket
  | .reply a ticket _ => s.Marked a false ∧ s.Carries a ticket
  | _ => True

structure Good (s : State) : Prop where
  pcs : ∀ t, s.PcOk (s.threads t)
  apart : ∀ t u a, t ≠ u → (s.threads t).held = some a → (s.threads u).held ≠ some a
  queued : ∀ entry ∈ s.requestQueue, s.Marked entry.slot true ∧ s.Carries entry.slot entry.ticket
  once : (s.requestQueue.map (·.slot)).Nodup
  off : ∀ t a, (s.threads t).held = some a → a ∉ s.requestQueue.map (·.slot)
  sorted : s.requestQueue.Pairwise fun entry entry' => entry.place < entry'.place
  placed : ∀ entry ∈ s.requestQueue, entry.place < s.places
  handed : ∀ t a place, (s.threads t).handed = some (a, place) →
    place < s.places ∧ (∀ entry ∈ s.requestQueue, place < entry.place) ∧ ∀ r ∈ s.reports, r.place < place
  order : s.reports.Pairwise fun r r' => r.place < r'.place
  reported : ∀ r ∈ s.reports,
    r.place < s.places ∧ (∀ entry ∈ s.requestQueue, r.place < entry.place) ∧ r.ticket < s.tickets ∧
    r.clientData = (s.asked r.ticket).clientData ∧ ∃ rest, s.moved r.ticket = some (r.bytes, rest)
  flights : ∀ a ticket, (a, ticket) ∈ s.flights →
    ticket < s.tickets ∧ (s.asked ticket).slot = a ∧ s.moved ticket = none ∧ (s.mem a).isSome
  list : ∀ a, a ∈ s.reqASyncList ↔ (s.mem a).isSome
  listed : s.reqASyncList.Nodup
  bound : ∀ e, s.count e ≤ MAX_REQUESTASYNC_NUM
  fresh : ∀ a, (s.mem a).isSome → a < s.made

variable {s s' : State} {t a ticket : Nat}

theorem Marked.live {status : Bool} (marked : s.Marked a status) : (s.mem a).isSome := by
  obtain ⟨req, there, -⟩ := marked
  rw [there]
  rfl

variable {pc : Pc}

theorem held_slot (held : pc.held = some a) : pc.slot = some a := by
  cases pc <;> first | exact held | cases held

theorem handed_held {place : Nat} (handed : pc.handed = some (a, place)) : pc.held = some a := by
  cases pc <;> first | cases handed; rfl | cases handed

theorem PcOk.live (ok : s.PcOk pc) (uses : pc.slot = some a) : (s.mem a).isSome := by
  cases pc with
  | mark b _ => cases uses; exact ok
  | submit b _ | reset b | cancel b _ => cases uses; exact Marked.live ok
  | append b _ | take b _ _ | reply b _ _ => cases uses; exact ok.1.live
  | _ => cases uses

/-! ### Steps of one client leave the others alone -/

structure Extends (s s' : State) : Prop where
  tickets : s.tickets ≤ s'.tickets
  asked : ∀ n < s.tickets, s'.asked n = s.asked n
  moved : ∀ n < s.tickets, s'.moved n = s.moved n
  lives : ∀ b, (s.mem b).isSome → (s'.mem b).isSome

structure Same (s s' : State) (b : Nat) : Prop where
  mem : s'.mem b = s.mem b
  flights : ∀ n, (b, n) ∈ s'.flights → (b, n) ∈ s.flights

theorem Carries.same (carries : s.Carries a ticket) (ext : s.Extends s') (same : s.Same s' a) : s'.Carries a ticket := by
  have asked := ext.asked ticket carries.known
  have moved := ext.moved ticket carries.known
  refine ⟨Nat.lt_of_lt_of_le carries.known ext.tickets, asked ▸ carries.slot, ?_, fun other flies => ?_⟩
  · rw [same.mem, asked, moved]
    exact carries.data
  · exact carries.flights other (same.flights other flies)

theorem Marked.same {status : Bool} (marked : s.Marked a status) (same : s.Same s' a) : s'.Marked a status := by
  rw [Marked, same.mem]
  exact marked

theorem PcOk.same (ok : s.PcOk pc) (ext : s.Extends s') (same : ∀ b, pc.held = some b → s.Same s' b) : s'.PcOk pc := by
  cases pc with
  | mark b _ => exact ext.lives b ok
  | submit b _ | reset b | cancel b _ => exact Marked.same ok (same b rfl)
  | append b _ | take b _ _ | reply b _ _ => exact ⟨ok.1.same (same b rfl), ok.2.same ext (same b rfl)⟩
  | _ => trivial

theorem Carries.moves {threads : Nat → Pc} {queue : List Entry} {flag : Bool} {places : Nat} {reports : List Report}
    (carries : s.Carries a ticket) :
    Carries { s with threads, requestQueue := queue, initFlag := flag, places, reports } a ticket :=
  ⟨carries.known, carries.slot, carries.data, carries.flights⟩

theorem PcOk.moves {threads : Nat → Pc} {queue : List Entry} {flag : Bool} {places : Nat} {reports : List Report}
    (ok : s.PcOk pc) : PcOk { s with threads, requestQueue := queue, initFlag := flag, places, reports } pc :=
  ok.same ⟨Nat.le_refl _, fun _ _ => rfl, fun _ _ => rfl, fun _ live => live⟩ fun _ _ => ⟨rfl, fun _ flies => flies⟩

theorem goto_of_ne {u : Nat} (differs : u ≠ t) : (s.goto t pc).threads u = s.threads u :=
  update_of_ne differs _ _

theorem goto_self : (s.goto t pc).threads t = pc := update_self ..

theorem Good.goto (good : s.Good) (ok : s.PcOk pc)
    (own : ∀ b, pc.held = some b → (∀ u, u ≠ t → (s.threads u).held ≠ some b) ∧ b ∉ s.requestQueue.map (·.slot))
    (handed : ∀ b place, pc.handed = some (b, place) →
      place < s.places ∧ (∀ entry ∈ s.requestQueue, place < entry.place) ∧ ∀ r ∈ s.reports, r.place < place) :
    (s.goto t pc).Good where
  pcs u := by
    by_cases its : u = t
    · subst its
      exact (congrArg (PcOk _) goto_self).mpr ok.moves
    · exact (congrArg (PcOk _) (goto_of_ne its)).mpr (good.pcs u).moves
  apart u v b differs held held' := by
    by_cases its : u = t
    · subst its
      rw [goto_self] at held
      rw [goto_of_ne differs.symm] at held'
      exact (own b held).1 v differs.symm held'
    rw [goto_of_ne its] at held
    by_cases its' : v = t
    · subst its'
      rw [goto_self] at held'
      exact (own b held').1 u its held
    rw [goto_of_ne its'] at held'
    exact good.apart u v b differs held held'
  queued entry listed :=
    have ⟨marked, carries⟩ := good.queued entry listed
    ⟨marked, carries.moves⟩
  once := good.once
  off u b held := by
    by_cases its : u = t
    · subst its
      rw [goto_self] at held
      exact (own b held).2
    · rw [goto_of_ne its] at held
      exact good.off u b held
  sorted := good.sorted
  placed := good.placed
  handed u b place hands := by
    by_cases its : u = t
    · subst its
      rw [goto_self] at hands
      exact handed b place hands
    · rw [goto_of_ne its] at hands
      exact good.handed u b place hands
  order := good.order
  reported := good.reported
  flights := good.flights
  list := good.list
  listed := good.listed
  bound := good.bound
  fresh := good.fresh

theorem Good.free (good : s.Good) (ok : s.PcOk pc) (held : pc.held = none) : (s.goto t pc).Good :=
  good.goto ok (fun b holds => by rw [held] at holds; cases holds) fun b place hands => by
    have holds := handed_held hands
    rw [held] at holds
    cases holds

theorem Good.write (good : s.Good) {req req' : UsbdRequestASync} {flights : List (Nat × Nat)}
    (there : s.mem a = some req) (pipe : req'.pipe = req.pipe) (alone : ∀ u, (s.threads u).held ≠ some a)
    (off : a ∉ s.requestQueue.map (·.slot))
    (kept : ∀ b n, b ≠ a → (b, n) ∈ flights → (b, n) ∈ s.flights)
    (known : ∀ b n, (b, n) ∈ flights → n < s.tickets ∧ (s.asked n).slot = b ∧ s.moved n = none ∧ (s.mem b).isSome) :
    Good { s.put a req' with flights } := by
  have pipes (b : Nat) : ((s.put a req').mem b).map (·.pipe) = (s.mem b).map (·.pipe) := by
    by_cases its : b = a
    · subst its
      simp [put, there, pipe]
    · simp [put, its]
  have live (b : Nat) : ((s.put a req').mem b).isSome = (s.mem b).isSome := by
    simpa using congrArg Option.isSome (pipes b)
  have ext : s.Extends { s.put a req' with flights } :=
    ⟨Nat.le_refl _, fun _ _ => rfl, fun _ _ => rfl, fun b lives => (live b).trans lives⟩
  have same (b : Nat) (differs : b ≠ a) : s.Same { s.put a req' with flights } b :=
    ⟨update_of_ne differs _ _, fun n => kept b n differs⟩
  constructor
  case pcs =>
    refine fun u => (good.pcs u).same ext fun b held => same b ?_
    rintro rfl
    exact alone u held
  case queued =>
    intro entry listed
    have differs : entry.slot ≠ a := by
      rintro rfl
      exact off (mem_map_of_mem listed)
    obtain ⟨marked, carries⟩ := good.queued entry listed
    exact ⟨marked.same (same _ differs), carries.same ext (same _ differs)⟩
  case flights =>
    intro b n flies
    obtain ⟨number, its, moved, lives⟩ := known b n flies
    exact ⟨number, its, moved, (live b).trans lives⟩
  case list => exact fun b => (good.list b).trans (by rw [← live b])
  case bound =>
    intro e
    have bound := good.bound e
    simp only [count, ← pipes] at bound
    exact bound
  case fresh => exact fun b lives => good.fresh b ((live b).symm.trans lives)
  case apart => exact good.apart
  case once => exact good.once
  case off => exact good.off
  case sorted => exact good.sorted
  case placed => exact good.placed
  case handed => exact good.handed
  case order => exact good.order
  case reported => exact good.reported
  case listed => exact good.listed

theorem goto_held {u b : Nat} (held : ((s.goto t .idle).threads u).held = some b) : u ≠ t ∧ (s.threads u).held = some b := by
  by_cases its : u = t
  · subst its
    rw [goto_self] at held
    cases held
  · rw [goto_of_ne its] at held
    exact ⟨its, held⟩

section
variable (good : s.Good)
include good

theorem Good.touch {req req' : UsbdRequestASync} {flights : List (Nat × Nat)}
    (there : s.mem a = some req) (pipe : req'.pipe = req.pipe) (alone : ∀ u, u ≠ t → (s.threads u).held ≠ some a)
    (off : a ∉ s.requestQueue.map (·.slot))
    (kept : ∀ b n, b ≠ a → (b, n) ∈ flights → (b, n) ∈ s.flights)
    (known : ∀ b n, (b, n) ∈ flights → n < s.tickets ∧ (s.asked n).slot = b ∧ s.moved n = none ∧ (s.mem b).isSome)
    (ok : PcOk { s.put a req' with flights } pc) (own : ∀ b, pc.held = some b → b = a)
    (handed : ∀ b place, pc.handed = some (b, place) →
      place < s.places ∧ (∀ entry ∈ s.requestQueue, place < entry.place) ∧ ∀ r ∈ s.reports, r.place < place) :
    Good { (s.put a req').goto t pc with flights } := by
  have left : (s.goto t .idle).Good := good.free trivial rfl
  have written : Good { (s.goto t .idle).put a req' with flights } :=
    left.write there pipe (fun u held => alone u (goto_held held).1 (goto_held held).2) off kept known
  have entered : Good (State.goto { (s.goto t .idle).put a req' with flights } t pc) := by
    refine written.goto ok.moves (fun b held => ?_) handed
    obtain rfl := own b held
    exact ⟨fun u _ holds => alone u (goto_held holds).1 (goto_held holds).2, off⟩
  simpa only [State.goto, put, update_idem] using entered

theorem Good.set {req req' : UsbdRequestASync} (there : s.mem a = some req)
    (pipe : req'.pipe = req.pipe) (alone : ∀ u, u ≠ t → (s.threads u).held ≠ some a)
    (off : a ∉ s.requestQueue.map (·.slot)) (ok : (s.put a req').PcOk pc) (own : ∀ b, pc.held = some b → b = a)
    (handed : ∀ b place, pc.handed = some (b, place) →
      place < s.places ∧ (∀ entry ∈ s.requestQueue, place < entry.place) ∧ ∀ r ∈ s.reports, r.place < place) :
    ((s.put a req').goto t pc).Good :=
  good.touch there pipe alone off (fun _ _ _ flies => flies) good.flights ok own handed

theorem Good.push (alone : ∀ u, (s.threads u).held ≠ some a) (off : a ∉ s.requestQueue.map (·.slot))
    (marked : s.Marked a true) (carries : s.Carries a ticket) :
    Good { s with requestQueue := s.requestQueue ++ [⟨a, ticket, s.places⟩], places := s.places + 1 } :=
  { good with
    pcs := fun u => (good.pcs u).moves
    queued := fun entry listed => by
      have queued : s.Marked entry.slot true ∧ s.Carries entry.slot entry.ticket := by
        obtain before | rfl := mem_append.mp listed |>.imp_right mem_singleton.mp
        · exact good.queued entry before
        · exact ⟨marked, carries⟩
      exact ⟨queued.1, queued.2.moves⟩
    once := by
      rw [map_append, nodup_append]
      refine ⟨good.once, nodup_singleton _, fun b listed c new same => off ?_⟩
      obtain rfl := mem_singleton.mp new
      exact same ▸ listed
    off := fun u b held listed => by
      rw [map_append] at listed
      obtain before | rfl := mem_append.mp listed |>.imp_right mem_singleton.mp
      · exact good.off u b held before
      · exact alone u held
    sorted := by
      refine pairwise_append.mpr ⟨good.sorted, pairwise_singleton _ _, fun entry listed last new => ?_⟩
      obtain rfl := mem_singleton.mp new
      exact good.placed entry listed
    placed := fun entry listed => by
      obtain before | rfl := mem_append.mp listed |>.imp_right mem_singleton.mp
      · exact Nat.lt_succ_of_lt (good.placed entry before)
      · exact Nat.lt_succ_self _
    handed := fun u b place hands => by
      obtain ⟨placed, before, reported⟩ := good.handed u b place hands
      refine ⟨Nat.lt_succ_of_lt placed, fun entry listed => ?_, reported⟩
      obtain queued | rfl := mem_append.mp listed |>.imp_right mem_singleton.mp
      · exact before entry queued
      · exact placed
    reported := fun r listed => by
      obtain ⟨placed, before, known⟩ := good.reported r listed
      refine ⟨Nat.lt_succ_of_lt placed, fun entry queued => ?_, known⟩
      obtain queued | rfl := mem_append.mp queued |>.imp_right mem_singleton.mp
      · exact before entry queued
      · exact placed }

theorem Good.popped {entry : Entry} {rest : List Entry} (queue : s.requestQueue = entry :: rest) :
    Good { s with requestQueue := rest } := by
  have within : rest ⊆ s.requestQueue := queue ▸ subset_cons_self entry rest
  have once := good.once
  have sorted := good.sorted
  rw [queue] at once sorted
  exact
  { good with
    pcs := fun u => (good.pcs u).moves
    queued := fun other listed =>
      have ⟨marked, carries⟩ := good.queued other (within listed)
      ⟨marked, carries.moves⟩
    once := (nodup_cons.mp once).2
    off := fun u b held listed => good.off u b held (map_subset _ within listed)
    sorted := (pairwise_cons.mp sorted).2
    placed := fun other listed => good.placed other (within listed)
    handed := fun u b place hands =>
      have ⟨placed, before, reported⟩ := good.handed u b place hands
      ⟨placed, fun other listed => before other (within listed), reported⟩
    reported := fun r listed =>
      have ⟨placed, before, known⟩ := good.reported r listed
      ⟨placed, fun other queued => before other (within queued), known⟩ }

theorem Good.reports {r : Report} (placed : r.place < s.places)
    (before : ∀ entry ∈ s.requestQueue, r.place < entry.place) (last : ∀ r' ∈ s.reports, r'.place < r.place)
    (next : ∀ u b place, (s.threads u).handed = some (b, place) → r.place < place)
    (known : r.ticket < s.tickets) (data : r.clientData = (s.asked r.ticket).clientData)
    (bytes : ∃ rest, s.moved r.ticket = some (r.bytes, rest)) : Good { s with reports := s.reports ++ [r] } :=
  { good with
    pcs := fun u => (good.pcs u).moves
    queued := fun entry listed =>
      have ⟨marked, carries⟩ := good.queued entry listed
      ⟨marked, carries.moves⟩
    handed := fun u b place hands => by
      obtain ⟨placed, before, reported⟩ := good.handed u b place hands
      refine ⟨placed, before, fun r' listed => ?_⟩
      obtain written | rfl := mem_append.mp listed |>.imp_right mem_singleton.mp
      · exact reported r' written
      · exact next u b place hands
    order := by
      refine pairwise_append.mpr ⟨good.order, pairwise_singleton _ _, fun r' listed later new => ?_⟩
      obtain rfl := mem_singleton.mp new
      exact last r' listed
    reported := fun r' listed => by
      obtain written | rfl := mem_append.mp listed |>.imp_right mem_singleton.mp
      · exact good.reported r' written
      · exact ⟨placed, before, known, data, bytes⟩ }

theorem Good.flag (flag : Bool) : Good { s with initFlag := flag } :=
  { good with
    pcs := fun u => (good.pcs u).moves
    queued := fun entry listed =>
      have ⟨marked, carries⟩ := good.queued entry listed
      ⟨marked, carries.moves⟩ }

theorem Good.numbered (asked : Asked) :
    Good { s with
      tickets := s.tickets + 1
      asked := update s.asked s.tickets asked
      moved := update s.moved s.tickets none } := by
  have before (n : Nat) (known : n < s.tickets) : update s.asked s.tickets asked n = s.asked n ∧
      update s.moved s.tickets none n = s.moved n :=
    ⟨update_of_ne (Nat.ne_of_lt known) _ _, update_of_ne (Nat.ne_of_lt known) _ _⟩
  have ext : s.Extends { s with
      tickets := s.tickets + 1
      asked := update s.asked s.tickets asked
      moved := update s.moved s.tickets none } :=
    ⟨Nat.le_succ _, fun n known => (before n known).1, fun n known => (before n known).2, fun _ live => live⟩
  exact
  { good with
    pcs := fun u => (good.pcs u).same ext fun _ _ => ⟨rfl, fun _ flies => flies⟩
    queued := fun entry listed =>
      have ⟨marked, carries⟩ := good.queued entry listed
      ⟨marked, carries.same ext ⟨rfl, fun _ flies => flies⟩⟩
    reported := fun r listed => by
      obtain ⟨placed, queue, known, data⟩ := good.reported r listed
      refine ⟨placed, queue, Nat.lt_succ_of_lt known, ?_⟩
      rw [ext.asked _ known, ext.moved _ known]
      exact data
    flights := fun b n flies => by
      obtain ⟨known, its⟩ := good.flights b n flies
      refine ⟨Nat.lt_succ_of_lt known, ?_⟩
      rw [ext.asked _ known, ext.moved _ known]
      exact its }

theorem Good.inserted {req : UsbdRequestASync} (room : s.count req.pipe < MAX_REQUESTASYNC_NUM) :
    Good { s.put s.made req with reqASyncList := s.reqASyncList ++ [s.made], made := s.made + 1 } := by
  have old (b : Nat) (live : (s.mem b).isSome) : (s.put s.made req).mem b = s.mem b :=
    update_of_ne (Nat.ne_of_lt (good.fresh b live)) _ _
  have new : (s.put s.made req).mem s.made = some req := update_self ..
  have lives (b : Nat) (live : (s.mem b).isSome) : ((s.put s.made req).mem b).isSome := (old b live).symm ▸ live
  have ext : s.Extends { s.put s.made req with reqASyncList := s.reqASyncList ++ [s.made], made := s.made + 1 } :=
    ⟨Nat.le_refl _, fun _ _ => rfl, fun _ _ => rfl, lives⟩
  constructor
  case pcs =>
    refine fun u => (good.pcs u).same ext fun b held => ⟨old b ?_, fun _ flies => flies⟩
    exact (good.pcs u).live (held_slot held)
  case queued =>
    intro entry listed
    obtain ⟨marked, carries⟩ := good.queued entry listed
    have same : s.Same { s.put s.made req with reqASyncList := s.reqASyncList ++ [s.made], made := s.made + 1 } entry.slot :=
      ⟨old _ marked.live, fun _ flies => flies⟩
    exact ⟨marked.same same, carries.same ext same⟩
  case flights =>
    intro b n flies
    obtain ⟨known, its, moved, live⟩ := good.flights b n flies
    exact ⟨known, its, moved, lives b live⟩
  case list =>
    intro b
    rw [mem_append, mem_singleton]
    by_cases its : b = s.made
    · subst its
      simp [new]
    · rw [good.list b]
      simp [put, its]
  case listed =>
    rw [nodup_append]
    refine ⟨good.listed, nodup_singleton _, fun b listed c added same => ?_⟩
    obtain rfl := mem_singleton.mp added
    exact Nat.ne_of_lt (good.fresh b ((good.list b).mp listed)) same
  case bound =>
    intro e
    have before : s.reqASyncList.filter (fun b => ((s.put s.made req).mem b).map (·.pipe) = some e) =
        s.reqASyncList.filter fun b => (s.mem b).map (·.pipe) = some e :=
      filter_congr fun b listed => by rw [old b ((good.list b).mp listed)]
    have bound := good.bound e
    simp only [count, filter_append, length_append, before] at bound room ⊢
    by_cases its : req.pipe = e
    · subst its
      have last : [s.made].filter (fun b => ((s.put s.made req).mem b).map (·.pipe) = some req.pipe) = [s.made] := by
        simp [new]
      rw [last]
      exact room
    · have last : [s.made].filter (fun b => ((s.put s.made req).mem b).map (·.pipe) = some e) = [] := by simp [new, its]
      rw [last]
      exact bound
  case fresh =>
    intro b live
    by_cases its : b = s.made
    · exact its ▸ Nat.lt_succ_self _
    · refine Nat.lt_succ_of_lt (good.fresh b ?_)
      rw [← live]
      exact congrArg Option.isSome (update_of_ne its _ _).symm
  case apart => exact good.apart
  case once => exact good.once
  case off => exact good.off
  case sorted => exact good.sorted
  case placed => exact good.placed
  case handed => exact good.handed
  case order => exact good.order
  case reported => exact good.reported

end

theorem PcOk.without (uses : pc.slot = none) : s.PcOk pc := by
  cases pc <;> trivial

theorem Good.released (good : s.Good) (queue : s.requestQueue = []) (flights : s.flights = [])
    (alone : ∀ u, (s.threads u).slot = none) : s.releaseList.Good := by
  have gone (b : Nat) : s.releaseList.mem b = none := by
    by_cases listed : b ∈ s.reqASyncList
    · exact if_pos listed
    · exact (if_neg listed).trans (Option.not_isSome_iff_eq_none.mp fun live => listed ((good.list b).mpr live))
  exact
  { good with
    pcs := fun u => PcOk.without (alone u)
    queued := fun entry listed => by
      have listed : entry ∈ s.requestQueue := listed
      rw [queue] at listed
      cases listed
    flights := fun b n flies => by
      have flies : (b, n) ∈ s.flights := flies
      rw [flights] at flies
      cases flies
    list := fun b => iff_of_false not_mem_nil (by simp [gone])
    listed := nodup_nil
    bound := fun e => Nat.zero_le _
    fresh := fun b live => by simp [gone] at live }

section Ended

variable {req : UsbdRequestASync} {status : UsbRequestStatus} {bytes rest : List UInt8}

theorem Marked.ended {b : Nat} {flag : Bool} (there : s.mem a = some req) (marked : s.Marked b flag) :
    (s.ended a ticket req status bytes rest).Marked b flag := by
  by_cases its : b = a
  · subst its
    obtain ⟨req', there', flag⟩ := marked
    obtain rfl := Option.some.inj (there.symm.trans there')
    exact ⟨_, update_self .., flag⟩
  · exact marked.same ⟨update_of_ne its _ _, fun n flies => (mem_filter.mp flies).1⟩

theorem Carries.ended {b n : Nat} (good : s.Good) (there : s.mem a = some req) (flies : (a, ticket) ∈ s.flights)
    (carries : s.Carries b n) : (s.ended a ticket req status bytes rest).Carries b n := by
  obtain ⟨known, its, -, -⟩ := good.flights a ticket flies
  refine ⟨carries.known, carries.slot, ?_, fun other flies => carries.flights other (mem_filter.mp flies).1⟩
  obtain ⟨req', there', data, bytes'⟩ := carries.data
  by_cases same : b = a
  · subst same
    obtain rfl := carries.flights ticket flies
    obtain rfl := Option.some.inj (there.symm.trans there')
    refine ⟨_, update_self .., data, fun bytes' rest' moved => ?_⟩
    have moved : update s.moved ticket (some (bytes, rest)) ticket = some (bytes', rest') := moved
    rw [update_self] at moved
    cases moved
    rfl
  · have differs : n ≠ ticket := by
      rintro rfl
      exact same (carries.slot.symm.trans its)
    refine ⟨req', (update_of_ne same _ _).trans there', data, fun bytes'' rest'' moved => bytes' bytes'' rest'' ?_⟩
    exact (update_of_ne differs _ _).symm.trans moved

theorem PcOk.ended (good : s.Good) (there : s.mem a = some req) (flies : (a, ticket) ∈ s.flights) (ok : s.PcOk pc) :
    (s.ended a ticket req status bytes rest).PcOk pc := by
  cases pc with
  | mark b _ =>
    obtain ⟨req', there'⟩ := Option.isSome_iff_exists.mp ok
    have marked : s.Marked b req'.status := ⟨req', there', rfl⟩
    exact (marked.ended there).live
  | submit b _ | reset b | cancel b _ => exact Marked.ended there ok
  | append b _ | take b _ _ | reply b _ _ => exact ⟨ok.1.ended there, ok.2.ended good there flies⟩
  | _ => trivial

theorem Good.ended (good : s.Good) (there : s.mem a = some req) (flies : (a, ticket) ∈ s.flights) :
    (s.ended a ticket req status bytes rest).Good := by
  obtain ⟨known, its, under, live⟩ := good.flights a ticket flies
  have live (b : Nat) : (((s.ended a ticket req status bytes rest)).mem b).isSome = (s.mem b).isSome := by
    by_cases same : b = a
    · subst same
      simp [State.ended, put, there]
    · simp [State.ended, put, same]
  exact
  { good with
    pcs := fun u => (good.pcs u).ended good there flies
    queued := fun entry listed =>
      have ⟨marked, carries⟩ := good.queued entry listed
      ⟨marked.ended there, carries.ended good there flies⟩
    reported := fun r listed => by
      obtain ⟨placed, queue, number, data, rest', moved⟩ := good.reported r listed
      have differs : r.ticket ≠ ticket := by
        rintro rfl
        rw [under] at moved
        cases moved
      exact ⟨placed, queue, number, data, rest', (update_of_ne differs _ _).trans moved⟩
    flights := fun b n flying => by
      obtain ⟨flying, other⟩ := mem_filter.mp flying
      obtain ⟨number, its', under', lives⟩ := good.flights b n flying
      have differs : n ≠ ticket := by
        rintro rfl
        have same : b = a := its'.symm.trans its
        simp [same] at other
      exact ⟨number, its', (update_of_ne differs _ _).trans under', (live b).trans lives⟩
    list := fun b => (good.list b).trans (by rw [live b])
    bound := fun e => by
      have pipes (b : Nat) : (((s.ended a ticket req status bytes rest)).mem b).map (·.pipe) = (s.mem b).map (·.pipe) := by
        by_cases same : b = a
        · subst same
          simp [State.ended, put, there]
        · simp [State.ended, put, same]
      have bound := good.bound e
      simp only [count, ← pipes] at bound
      exact bound
    fresh := fun b lives => good.fresh b ((live b).symm.trans lives) }

end Ended

end State

end Peripheral.UsbQueue
