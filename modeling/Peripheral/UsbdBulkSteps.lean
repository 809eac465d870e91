import Peripheral.UsbdBulkKeeps

/-!
What the rules of a transfer keep: the places of the nodes, the bytes that are stored, and the slices.
-/
namespace Peripheral.UsbdBulk.State
open Bytes Tiling Pending List

variable {t : Transfer} {s s' : State} {p : Pending} {rest : List Pending}

theorem held_same {loop : Loop} {pending : List Pending} (there : p ∈ pending) (same : rest.filterMap node = p.node.toList) :
    (held loop (rest ++ pending.erase p)).Perm (held loop pending) := by
  refine List.Perm.append_left _ (perm_iff_count.mpr fun a => ?_)
  have counts := @count_goesOn p pending rest _ _ there node a
  rw [same] at counts
  omega

namespace Places

section
variable (holds : Places t s)
include holds

theorem same (there : p ∈ s.pending) (same : rest.filterMap node = p.node.toList) :
    (s.eList ++ held s.loop (rest ++ s.pending.erase p)).Perm t.nodes :=
  (List.Perm.append_left _ (held_same there same)).trans holds.places

theorem holder (fewer : s.eList.length < t.nodes.length) : held s.loop s.pending ≠ [] := by
  intro none
  have all := holds.places.length_eq
  rw [none, append_nil] at all
  omega

theorem all_empty (all : t.nodes.length ≤ s.eList.length) : held s.loop s.pending = [] := by
  have places := holds.places.length_eq
  rw [length_append] at places
  exact eq_nil_of_length_eq_zero (by omega)

theorem others (fewer : s.eList.length < t.nodes.length) (ended : s.loop.ended)
    (idle : p.node = none) : s.pending.erase p ≠ [] := by
  have holder := holds.holder fewer
  have free : s.loop.node = none := by
    cases at_ : s.loop <;> simp [Loop.ended, Loop.node, at_] at ended ⊢
  rw [held, free, Option.toList_none, nil_append] at holder
  obtain ⟨node, member⟩ := exists_mem_of_ne_nil _ holder
  obtain ⟨q, there, its⟩ := mem_filterMap.mp member
  have other : q ≠ p := by
    rintro rfl
    cases idle.symm.trans its
  exact ne_nil_of_mem ((mem_erase_of_ne other).mpr there)

theorem given {node : Nat} {told : Option Ret} (there : .giveBack node told ∈ s.pending) :
    ((s.eList ++ [node]) ++ held s.loop (reported told :: s.pending.erase (.giveBack node told))).Perm t.nodes := by
  refine List.Perm.trans (perm_iff_count.mpr fun a => ?_) holds.places
  have counts := @count_goesOn _ s.pending [] _ _ there Pending.node a
  have none : (reported told).node = none := by cases told <;> rfl
  simp only [nil_append, Pending.node, Option.toList_some, filterMap_nil, count_nil] at counts
  simp only [held, filterMap_cons, none, count_append]
  omega

theorem step (step : Steps t s s') : Places t s' := by
  cases step with
  | @takes i node rest at_ first =>
    refine ⟨?_, nofun, holds.flag, nofun⟩
    have places := holds.places
    rw [first, held, at_] at places
    exact perm_middle.trans places
  | slices at_ | stops at_ | fails at_ =>
    have places := holds.places
    rw [held, at_] at places
    exact ⟨places, nofun, holds.flag, nofun⟩
  | @submits i node slice at_ =>
    have places := holds.places
    rw [held, at_] at places
    exact ⟨places, nofun, holds.flag, fun _ => .inr nofun⟩
  | gives at_ others =>
    have places := holds.places
    rw [held, at_] at places
    refine ⟨?_, nofun, holds.flag, fun _ => others⟩
    rw [append_assoc]
    exact places
  | ends at_ =>
    have places := holds.places
    rw [held, at_] at places
    exact ⟨places, nofun, holds.flag, fun _ => holds.alive (by rw [at_]; rfl)⟩
  | again at_ more =>
    have places := holds.places
    rw [held, at_] at places
    exact ⟨places, fun _ _ => more, holds.flag, nofun⟩
  | written there | read there | failed there | stored there | sliced there | stopped there | submitFailed there
  | submitted there | last there =>
    exact ⟨holds.same there rfl, holds.free, holds.flag, fun _ => .inr nofun⟩
  | given there =>
    refine ⟨holds.given there, fun i at_ empty => ?_, holds.flag, fun _ => .inr nofun⟩
    cases (append_eq_nil_iff.mp empty).2
  | notLast there fewer =>
    refine ⟨holds.same there rfl, holds.free, holds.flag, fun ended => ?_⟩
    exact .inr (holds.others fewer ended rfl)
  | silent there told =>
    refine ⟨holds.same there rfl, holds.free, holds.flag, fun _ => ?_⟩
    exact .inl told
  | @reports status there open_ =>
    refine ⟨holds.same there rfl, holds.free, ?_, fun _ => .inl rfl⟩
    have flag := holds.flag
    rw [open_] at flag
    simpa using flag

end

end Places

theorem Places.unreported (places : Places t s) (open_ : s.handle.cbflg = false) : s.reports = [] := by
  have flag := places.flag
  rw [open_] at flag
  exact eq_nil_of_length_eq_zero flag

namespace Stored

theorem puts_goesOn (holds : Stored t s) {node length : Nat} {buffer : List UInt8}
    (member : .put node length buffer ∈ rest ++ s.pending.erase p) (new : .put node length buffer ∉ rest) :
    t.direction = .read ∧ 1 ≤ buffer.length :=
  holds.puts ((mem_goesOn member).resolve_left new)

theorem arriving_goesOn (holds : Stored t s) (there : p ∈ s.pending) (same : (rest.map arrived).sum = p.arrived) :
    s.handle.rcur + ((rest ++ s.pending.erase p).map arrived).sum ≤ (s.done.map Interval.len).sum := by
  have sums := @sum_goesOn p s.pending rest there arrived
  have := holds.arriving
  omega

theorem reported_open (places : Places t s) (open_ : s.handle.cbflg = false) (c : Nat) : ∀ r ∈ s.reports, r.2 = c := by
  rw [places.unreported open_]
  nofun

theorem reported_slice (holds : Stored t s) (places : Places t s) {k : Nat}
    (open_ : t.direction = .write → s.handle.cbflg = false) :
    ∀ r ∈ s.reports, r.2 = match t.direction with
      | .write => (s.handle.advance k).cur
      | .read => (s.handle.advance k).rcur := by
  cases direction : t.direction with
  | write => exact reported_open places (open_ direction) _
  | read =>
    have reported := holds.reported
    simp only [cursor, direction] at reported
    exact reported

theorem step (holds : Stored t s) (places : Places t s) (step : Steps t s s') : Stored t s' := by
  cases step with
  | takes | stops | fails | gives | ends | again =>
    exact ⟨holds.size, holds.fd, holds.puts, holds.stored, holds.untouched, holds.arriving, holds.reported⟩
  | slices at_ pos inside open_ =>
    exact ⟨holds.size, holds.fd, holds.puts, holds.stored, holds.untouched, holds.arriving, holds.reported_slice places open_⟩
  | submits at_ =>
    refine ⟨holds.size, holds.fd, fun member => ?_, holds.stored, holds.untouched, ?_, holds.reported⟩
    · rcases mem_cons.mp member with first | old
      · cases first
      · exact holds.puts old
    · simpa [arrived] using holds.arriving
  | written there =>
    refine ⟨holds.size, holds.fd, fun member => holds.puts_goesOn member (by simp), holds.stored, holds.untouched, ?_,
      holds.reported⟩
    exact (holds.arriving_goesOn there rfl).trans (Nat.le_add_left _ _)
  | @read node slice buffer there direction some_byte asked =>
    refine ⟨holds.size, holds.fd, fun member => ?_, holds.stored, holds.untouched, ?_, holds.reported⟩
    · rcases mem_goesOn member with first | old
      · cases mem_singleton.mp first
        exact ⟨direction, some_byte⟩
      · exact holds.puts old
    · have sums := @sum_goesOn _ s.pending [.put node slice.len buffer] there arrived
      have := holds.arriving
      simp only [arrived, map_cons, map_nil, sum_cons, sum_nil, goesOn] at sums ⊢
      omega
  | failed there | submitFailed there | submitted there | stopped there | last there | notLast there | silent there =>
    exact ⟨holds.size, holds.fd, fun member => holds.puts_goesOn member (by simp), holds.stored, holds.untouched,
      holds.arriving_goesOn there rfl, holds.reported⟩
  | @given node told there =>
    refine ⟨holds.size, holds.fd, fun member => holds.puts_goesOn member ?_, holds.stored, holds.untouched, ?_,
      holds.reported⟩
    · cases told <;> simp [Pending.reported]
    · exact holds.arriving_goesOn there (by cases told <;> rfl)
  | @stored node length buffer there open_ =>
    refine ⟨holds.size, holds.fd, fun member => holds.puts_goesOn member (by simp), ?_, fun i beyond => ?_, ?_,
      reported_open places open_ _⟩
    · rw [UsbdBufferHandle.bytes_store, holds.stored]
    · rw [UsbdBufferHandle.store_beyond beyond]
      exact holds.untouched i (le_trans (Nat.le_add_right _ _) beyond)
    · have sums := @sum_goesOn _ s.pending [.get node length] there arrived
      have := holds.arriving
      simp only [arrived, map_cons, map_nil, sum_cons, sum_nil, goesOn, UsbdBufferHandle.store] at sums ⊢
      omega
  | sliced there pos inside open_ =>
    exact ⟨holds.size, holds.fd, fun member => holds.puts_goesOn member (by simp), holds.stored, holds.untouched,
      holds.arriving_goesOn there rfl, holds.reported_slice places open_⟩
  | @reports status there open_ =>
    refine ⟨holds.size, holds.fd, fun member => holds.puts_goesOn member (by simp), holds.stored, holds.untouched,
      holds.arriving_goesOn there rfl, fun r member => ?_⟩
    rw [places.unreported open_] at member
    rw [mem_singleton.mp member]
    rfl

end Stored

theorem count_underway (there : p ∈ s.pending) (rest : List Pending) (v : Interval) :
    p.slice.toList.count v + (underway s.loop (rest ++ s.pending.erase p)).count v =
      (rest.filterMap slice).count v + (underway s.loop s.pending).count v := by
  have counts := @count_goesOn p s.pending rest _ _ there slice v
  simp only [underway, count_append]
  omega

variable {v : Interval}

theorem underway_carries (there : p ∈ s.pending) (its : p.slice = some v) : underway s.loop s.pending ≠ [] := by
  intro empty
  have none := (append_eq_nil_iff.mp empty).2
  cases its.symm.trans (filterMap_eq_nil_iff.mp none p there)

theorem underway_empty (empty : underway s.loop s.pending = []) (none : rest.filterMap slice = []) :
    underway s.loop (rest ++ s.pending.erase p) = [] := by
  obtain ⟨loop, pending⟩ := append_eq_nil_iff.mp empty
  refine append_eq_nil_iff.mpr ⟨loop, ?_⟩
  rw [filterMap_append, none, nil_append]
  exact filterMap_eq_nil_iff.mpr fun q member =>
    filterMap_eq_nil_iff.mp pending q (mem_of_mem_erase member)

theorem underway_of_held (empty : held s.loop s.pending = []) : underway s.loop s.pending = [] := by
  obtain ⟨loop, pending⟩ := append_eq_nil_iff.mp empty
  refine append_eq_nil_iff.mpr ⟨?_, filterMap_eq_nil_iff.mpr fun q member => ?_⟩
  · cases at_ : s.loop <;> simp [Loop.node, Loop.slice, at_] at loop ⊢
  · have none := filterMap_eq_nil_iff.mp pending q member
    cases q <;> simp [node, slice] at none ⊢

namespace Sliced

section
variable (holds : Sliced t s)
include holds

theorem split_same (there : p ∈ s.pending) (same : rest.filterMap slice = p.slice.toList) :
    (s.done ++ s.lost ++ underway s.loop (rest ++ s.pending.erase p)).Perm s.taken := by
  refine List.Perm.trans (perm_iff_count.mpr fun v => ?_) holds.split
  have counts := count_underway there rest v
  rw [same] at counts
  simp only [count_append]
  omega

theorem split_done (there : p ∈ s.pending) (its : p.slice = some v) (none : rest.filterMap slice = []) :
    (v :: s.done ++ s.lost ++ underway s.loop (rest ++ s.pending.erase p)).Perm s.taken := by
  refine List.Perm.trans (perm_iff_count.mpr fun w => ?_) holds.split
  have counts := count_underway there rest w
  rw [its, none, Option.toList_some, count_nil] at counts
  simp only [cons_append, count_append, count_cons, count_nil] at counts ⊢
  omega

theorem split_lost (there : p ∈ s.pending) (its : p.slice = some v) (none : rest.filterMap slice = []) :
    (s.done ++ v :: s.lost ++ underway s.loop (rest ++ s.pending.erase p)).Perm s.taken := by
  refine List.Perm.trans ?_ (holds.split_done there its none)
  rw [cons_append, cons_append, append_assoc, cons_append, append_assoc]
  exact perm_middle

theorem split_taken (there : p ∈ s.pending) (none : p.slice = none) (its : rest.filterMap slice = [v]) :
    (s.done ++ s.lost ++ underway s.loop (rest ++ s.pending.erase p)).Perm (s.taken ++ [v]) := by
  refine List.Perm.trans (perm_iff_count.mpr fun w => ?_) (List.Perm.append_right [v] holds.split)
  have counts := count_underway there rest w
  rw [its, none, Option.toList_none, count_nil] at counts
  simp only [count_append]
  omega

theorem failing_goesOn {node : Nat} {ret : Ret} (member : .giveBack node (some ret) ∈ rest ++ s.pending.erase p)
    (new : .giveBack node (some ret) ∈ rest → ret ≠ .success) : ret ≠ .success :=
  (mem_goesOn member).elim new holds.failing

section
variable (write : t.direction = .write)
include write

theorem spent_goesOn (ends : ∃ q ∈ rest ++ s.pending.erase p, q.Ends) (calm : ∀ q ∈ rest, ¬ q.Ends) :
    s.lost ≠ [] ∨ t.size ≤ s.handle.cur := by
  obtain ⟨q, member, its⟩ := ends
  exact holds.spent write ⟨q, (mem_goesOn member).resolve_left fun new => calm q new its, its⟩

theorem settled_goesOn (told : .report .success ∈ rest ++ s.pending.erase p) (new : .report .success ∉ rest)
    (none : rest.filterMap slice = []) : s.lost ≠ [] ∨ underway s.loop (rest ++ s.pending.erase p) = [] :=
  (holds.settled write ((mem_goesOn told).resolve_left new)).imp_right fun empty => underway_empty empty none

theorem settled_carries (there : p ∈ s.pending)
    (its : p.slice = some v) (told : .report .success ∈ rest ++ s.pending.erase p) (new : .report .success ∉ rest) :
    s.lost ≠ [] :=
  (holds.settled write ((mem_goesOn told).resolve_left new)).resolve_right (underway_carries there its)

theorem settled_open {k : Nat} (pos : 0 < k)
    (inside : s.handle.cur + k ≤ t.size) (told : .report .success ∈ s.pending) : s.lost ≠ [] := by
  refine (holds.spent write ⟨_, told, .inr (.inl rfl)⟩).resolve_right fun spent => ?_
  omega

theorem whole (told : .report .success ∈ s.pending)
    (kept : s.lost = []) : ∀ x < t.size, ∃ slice ∈ s.done, slice.start ≤ x ∧ x < slice.start + slice.len := by
  intro x below
  have spent := (holds.spent write ⟨_, told, .inr (.inl rfl)⟩).resolve_left fun lost => lost kept
  have settled := (holds.settled write told).resolve_left fun lost => lost kept
  have split := holds.split
  rw [kept, settled, append_nil, append_nil] at split
  obtain ⟨slice, member, inside⟩ := holds.slices.tiles.covered x (Nat.lt_of_lt_of_le below spent)
  exact ⟨slice, split.mem_iff.mpr member, inside⟩

end

theorem covered_done (slice : Interval) (write : t.direction = .write) (told : ∃ r ∈ s.reports, r.1 = .success) :
    ∀ x < t.size, ∃ v ∈ slice :: s.done, v.start ≤ x ∧ x < v.start + v.len := by
  intro x below
  obtain ⟨v, member, inside⟩ := holds.covered write told x below
  exact ⟨v, mem_cons_of_mem _ member, inside⟩

theorem turn {eList : List Nat} {loop : Loop} (same : loop.slice = s.loop.slice) :
    Sliced t { s with eList := eList, loop := loop } := by
  have underway_same : underway loop s.pending = underway s.loop s.pending := by rw [underway, same, underway]
  refine ⟨holds.slices, holds.within, ?_, holds.failing, holds.spent, ?_, holds.covered⟩
  · rw [underway_same]
    exact holds.split
  · rw [underway_same]
    exact holds.settled

theorem loop_slices {i node k : Nat} (at_ : s.loop = .get i node) (pos : 0 < k)
    (inside : s.handle.cur + k ≤ t.size) :
    Sliced t { s with
      handle := s.handle.advance k
      taken := s.taken ++ [⟨s.handle.cur, k⟩]
      loop := .submit i node ⟨s.handle.cur, k⟩ } := by
  have split := holds.split
  rw [underway, at_] at split
  refine ⟨holds.slices.snoc pos, inside, ?_, holds.failing, fun write ends => ?_, fun write told => ?_, holds.covered⟩
  · refine List.Perm.trans ?_ (List.Perm.append_right _ split)
    exact perm_middle.trans (perm_append_singleton _ _).symm
  · exact (holds.spent write ends).imp_right fun spent => spent.trans (Nat.le_add_right _ _)
  · exact .inl (holds.settled_open write pos inside told)

theorem loop_fails {i node : Nat} {slice : Interval} {ret : Ret}
    (at_ : s.loop = .submit i node slice) :
    Sliced t { s with lost := slice :: s.lost, loop := .giveBack node ret } := by
  have split := holds.split
  rw [underway, at_] at split
  refine ⟨holds.slices, holds.within, ?_, holds.failing, fun _ _ => .inl nofun, fun _ _ => .inl nofun, holds.covered⟩
  refine List.Perm.trans ?_ split
  rw [append_assoc, append_assoc]
  exact List.Perm.append_left _ perm_middle.symm

theorem loop_submits {i node : Nat} {slice : Interval} (at_ : s.loop = .submit i node slice) :
    Sliced t { s with pending := .flight node slice :: s.pending, loop := .check i } := by
  have split := holds.split
  have settled := holds.settled
  rw [underway, at_] at split settled
  refine ⟨holds.slices, holds.within, split, fun member => ?_, fun write ends => ?_, fun write told => ?_, holds.covered⟩
  · exact holds.failing ((mem_cons.mp member).resolve_left nofun)
  · obtain ⟨p, member, its⟩ := ends
    rcases mem_cons.mp member with rfl | old
    · rcases its with its | its | ⟨_, its⟩ <;> cases its
    · exact holds.spent write ⟨p, old, its⟩
  · exact settled write ((mem_cons.mp told).resolve_left nofun)

theorem ran_sliced {node length k : Nat} {fills : Bool} (there : .get node length ∈ s.pending)
    (pos : 0 < k) (inside : s.handle.cur + k ≤ t.size) :
    Sliced t { s.goesOn (.get node length) [.submit node ⟨s.handle.cur, k⟩ fills] with
      handle := s.handle.advance k
      taken := s.taken ++ [⟨s.handle.cur, k⟩] } := by
  refine ⟨holds.slices.snoc pos, inside, holds.split_taken there rfl rfl, fun member => ?_, fun write ends => ?_,
    fun write told => ?_, holds.covered⟩
  · exact holds.failing_goesOn member (by simp)
  · have spent := holds.spent_goesOn write ends (by simp [Pending.Ends])
    exact spent.imp_right fun spent => spent.trans (Nat.le_add_right _ _)
  · exact .inl (holds.settled_open write pos inside ((mem_goesOn told).resolve_left (by simp)))

theorem goesOn (there : p ∈ s.pending) (same : rest.filterMap slice = p.slice.toList) (none : rest.filterMap slice = [])
    (failing : ∀ {node : Nat} {ret : Ret}, .giveBack node (some ret) ∈ rest → ret ≠ .success)
    (calm : ∀ q ∈ rest, q.Ends → t.direction = .write → s.lost ≠ [] ∨ t.size ≤ s.handle.cur)
    (new : .report .success ∉ rest) : Sliced t (s.goesOn p rest) := by
  refine ⟨holds.slices, holds.within, holds.split_same there same, fun member => holds.failing_goesOn member failing,
    fun write ends => ?_, fun write told => holds.settled_goesOn write told new none, holds.covered⟩
  obtain ⟨q, member, its⟩ := ends
  rcases mem_goesOn member with first | old
  · exact calm q first its write
  · exact holds.spent write ⟨q, old, its⟩

theorem goesOn_done (there : p ∈ s.pending) (its : p.slice = some v)
    (none : rest.filterMap slice = [])
    (failing : ∀ {node : Nat} {ret : Ret}, .giveBack node (some ret) ∈ rest → ret ≠ .success)
    (calm : ∀ q ∈ rest, ¬ q.Ends) : Sliced t { s.goesOn p rest with done := v :: s.done } := by
  refine ⟨holds.slices, holds.within, holds.split_done there its none, fun member => holds.failing_goesOn member failing,
    fun write ends => holds.spent_goesOn write ends calm, fun write told => .inl ?_, holds.covered_done v⟩
  exact holds.settled_carries write there its told fun member => calm _ member (.inr (.inl rfl))

theorem goesOn_lost (there : p ∈ s.pending) (its : p.slice = some v)
    (none : rest.filterMap slice = [])
    (failing : ∀ {node : Nat} {ret : Ret}, .giveBack node (some ret) ∈ rest → ret ≠ .success) :
    Sliced t { s.goesOn p rest with lost := v :: s.lost } :=
  ⟨holds.slices, holds.within, holds.split_lost there its none, fun member => holds.failing_goesOn member failing,
    fun _ _ => .inl nofun, fun _ _ => .inl nofun, holds.covered⟩

end

theorem told_failing {node other : Nat} {ret bad : Ret} (failed : ret ≠ .success)
    (is : giveBack other (some bad) = .giveBack node (told ret)) : bad ≠ .success := by
  unfold told at is
  split at is
  · cases is
  · cases is
    exact failed

theorem told_ends {node : Nat} {ret : Ret} (ends : (giveBack node (told ret)).Ends) : ret = .noData := by
  rcases ends with is | is | ⟨other, is⟩
  · cases is
  · cases is
  · by_contra data
    rw [told, if_neg data] at is
    cases is

section
variable (holds : Sliced t s)
include holds

/-- A failure that is reported is none that ends the transfer. -/
theorem reported_failing {node : Nat} {told : Option Ret} (there : .giveBack node told ∈ s.pending)
    (is : .report .success = reported told) : False := by
  cases told with
  | none => cases is
  | some ret =>
    cases is
    exact holds.failing there rfl

theorem reported_ends {node : Nat} {told : Option Ret} (there : .giveBack node told ∈ s.pending)
    (ends : (reported told).Ends) : (giveBack node told).Ends := by
  cases told with
  | none => exact .inr (.inr ⟨node, rfl⟩)
  | some ret =>
    rcases ends with is | is | ⟨other, is⟩
    · cases is
    · exact (holds.reported_failing there is.symm).elim
    · cases is

theorem submitted {node : Nat} {slice : Interval} {fills : Bool} (there : .submit node slice fills ∈ s.pending) :
    Sliced t (s.goesOn (.submit node slice fills) [.flight node slice]) := by
  refine ⟨holds.slices, holds.within, holds.split_same there rfl, fun member => ?_, fun write ends => ?_,
    fun write told => .inl ?_, holds.covered⟩
  · exact holds.failing_goesOn member (by simp)
  · exact holds.spent_goesOn write ends (by simp [Pending.Ends])
  · exact holds.settled_carries write there rfl told (by simp)

theorem last (places : Places t s) (there : .count ∈ s.pending)
    (all : t.nodes.length ≤ s.eList.length) : Sliced t (s.goesOn .count [.report .success]) := by
  refine ⟨holds.slices, holds.within, holds.split_same there rfl, fun member => ?_, fun write _ => ?_, fun _ _ => ?_,
    holds.covered⟩
  · exact holds.failing_goesOn member (by simp)
  · exact holds.spent write ⟨_, there, .inl rfl⟩
  · exact .inr (underway_empty (underway_of_held (places.all_empty all)) rfl)

theorem reports {status : Ret} (there : .report status ∈ s.pending)
    (whole : t.direction = .write → status = .success → s.lost = []) :
    Sliced t { s.goesOn (.report status) [] with
      handle := { s.handle with cbflg := true }
      reports := (status, s.cursor t) :: s.reports } := by
  obtain ⟨slices, within, split, failing, spent, settled, -⟩ :=
    @goesOn t s (.report status) [] holds there rfl rfl (by simp) (by simp) (by simp)
  refine ⟨slices, within, split, failing, spent, settled, fun write told => ?_⟩
  obtain ⟨r, member, success⟩ := told
  rcases mem_cons.mp member with rfl | old
  · subst success
    exact holds.whole write there (whole write rfl)
  · exact holds.covered write ⟨r, old, success⟩

theorem step (places : Places t s) (step : Steps t s s') : Sliced t s' := by
  cases step with
  | takes at_ | stops at_ | gives at_ | ends at_ | again at_ => exact holds.turn (by rw [at_]; rfl)
  | slices at_ pos inside => exact holds.loop_slices at_ pos inside
  | fails at_ => exact holds.loop_fails at_
  | submits at_ => exact holds.loop_submits at_
  | written there | read there => exact holds.goesOn_done there rfl rfl (by simp) (by simp [Pending.Ends])
  | failed there bad =>
    refine holds.goesOn_lost there rfl rfl fun member => ?_
    cases mem_singleton.mp member
    exact bad
  | @stored node length buffer there =>
    obtain ⟨slices, within, split, failing, spent, settled, covered⟩ :=
      @goesOn t s _ [.get node length] holds there rfl rfl (by simp) (by simp [Pending.Ends]) (by simp)
    exact ⟨slices, within, split, failing, spent, settled, covered⟩
  | sliced there pos inside => exact holds.ran_sliced there pos inside
  | @stopped node length ret there bad spent =>
    refine holds.goesOn there rfl rfl (fun member => ?_) (fun q member ends write => .inr (spent write ?_)) (by simp)
    · exact told_failing bad (mem_singleton.mp member)
    · rw [mem_singleton.mp member] at ends
      exact told_ends ends
  | @submitFailed node slice fills ret there bad =>
    exact holds.goesOn_lost there rfl rfl fun member => told_failing bad (mem_singleton.mp member)
  | submitted there => exact holds.submitted there
  | @given node told there =>
    have calm : ∀ q ∈ [reported told], q.Ends → (giveBack node told).Ends := by
      intro q member ends
      rw [mem_singleton.mp member] at ends
      exact holds.reported_ends there ends
    obtain ⟨slices, within, split, failing, spent, settled, covered⟩ :=
      @goesOn t s _ [reported told] holds there (by cases told <;> rfl) (by cases told <;> rfl)
        (by cases told <;> simp [reported]) (fun q member ends write => holds.spent write ⟨_, there,
          calm q member ends⟩)
        fun member => holds.reported_failing there (mem_singleton.mp member)
    exact ⟨slices, within, split, failing, spent, settled, covered⟩
  | last there all => exact holds.last places there all
  | notLast there | silent there => exact holds.goesOn there rfl rfl (by simp) (by simp) (by simp)
  | reports there open_ whole => exact holds.reports there whole

end

end Sliced

end Peripheral.UsbdBulk.State
