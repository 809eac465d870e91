import Peripheral.Transitions
import Peripheral.UsbdBulkSteps

/-!
The runs of a transfer. A run of careful steps is right throughout; and a run that comes to its end and was right
throughout took careful steps only.
-/
namespace Peripheral.UsbdBulk.State
open Bytes Tiling Transitions List

variable {t : Transfer} {s : State} {p : Pending} {e : Event} {o : Outcome}

/-- The loop has returned, and no request is in flight or completing. -/
def Quiet (s : State) : Prop := s.loop.returns ∧ s.pending = []

instance (s : State) : Decidable s.Quiet := inferInstanceAs (Decidable (_ ∧ _))

structure Right (t : Transfer) (s : State) : Prop where
  empty : ∀ node ∈ t.nodes, node ∈ s.eList ↔ node ∉ held s.loop s.pending
  once : (s.eList ++ held s.loop s.pending).Nodup
  slices : Consecutive s.taken s.handle.cur
  apart : Tiles 1 s.taken s.handle.cur
  within : s.handle.cur ≤ t.size
  written : ∀ slice ∈ s.done, slice ∈ s.taken
  covered : t.direction = .write → (∃ r ∈ s.reports, r.1 = .success) →
    ∀ x < t.size, ∃ slice ∈ s.done, slice.start ≤ x ∧ x < slice.start + slice.len
  stored : bytes s.handle.starAddr s.handle.rcur = s.received
  inside : s.handle.rcur ≤ t.size
  untouched : ∀ i, s.handle.rcur ≤ i → s.handle.starAddr i = t.starAddr i
  reported : s.reports.length ≤ 1
  ended : s.Quiet → ∃ status, s.reports = [(status, s.cursor t)]

structure Holds (t : Transfer) (s : State) : Prop where
  places : Places t s
  stored : Stored t s
  sliced : Sliced t s

namespace Holds

theorem step (holds : Holds t s) (may : s.May t e) (careful : s.Careful t e) : Holds t (s.after t e) := by
  have step := steps holds.places holds.stored holds.sliced may careful
  exact ⟨holds.places.step step, holds.stored.step holds.places step, holds.sliced.step holds.places step⟩

theorem report (holds : Holds t s) (told : s.handle.cbflg = true) : ∃ status, s.reports = [(status, s.cursor t)] := by
  have flag := holds.places.flag
  rw [told] at flag
  obtain ⟨⟨status, number⟩, only⟩ := length_eq_one_iff.mp flag
  have reported := holds.stored.reported _ (only ▸ mem_singleton_self _)
  exact ⟨status, by rw [only, ← reported]⟩

theorem right (holds : Holds t s) : Right t s := by
  have once := holds.places.places.nodup_iff.mpr t.distinct
  refine ⟨fun node member => ?_, once, holds.sliced.slices, holds.sliced.slices.tiles, holds.sliced.within, ?_,
    holds.sliced.covered, holds.stored.stored, ?_, holds.stored.untouched, ?_, ?_⟩
  · refine ⟨fun empty => disjoint_of_nodup_append once empty, fun free => ?_⟩
    exact (mem_append.mp (holds.places.places.mem_iff.mpr member)).resolve_right free
  · intro slice member
    exact holds.sliced.split.mem_iff.mp (mem_append_left _ (mem_append_left _ member))
  · have := holds.stored.arriving
    have := holds.sliced.done_le
    have := holds.sliced.within
    omega
  · rw [holds.places.flag]
    split <;> decide
  · rintro ⟨returned, idle⟩
    refine holds.report ((holds.places.alive ?_).resolve_right fun busy => busy idle)
    cases at_ : s.loop <;> simp [Loop.returns, Loop.ended, at_] at returned ⊢

end Holds

theorem start_holds (t : Transfer) : Holds t t.start := by
  refine ⟨⟨?_, fun _ _ => t.some_node, rfl, nofun⟩, ⟨rfl, rfl, nofun, rfl, fun _ _ => rfl, Nat.le_refl _, nofun⟩,
    ⟨.nil, Nat.zero_le _, List.Perm.refl _, nofun, fun _ ends => ?_, nofun, fun _ told => ?_⟩⟩
  · simp [Transfer.start, held, Loop.node]
  · simp [Transfer.start] at ends
  · simp [Transfer.start] at told

def Stale (t : Transfer) (s : State) : Prop := ∃ r ∈ s.reports, r.2 < s.cursor t

theorem not_right_of_stale (stale : s.Stale t) (quiet : s.Quiet) : ¬ Right t s := by
  intro right
  obtain ⟨status, only⟩ := right.ended quiet
  obtain ⟨r, member, less⟩ := stale
  rw [only] at member
  rw [mem_singleton.mp member] at less
  exact Nat.lt_irrefl _ less

theorem next_grows (t : Transfer) (handle : UsbdBufferHandle) :
    handle.cur ≤ (t.next handle).2.2.cur ∧ (t.next handle).2.2.rcur = handle.rcur := by
  unfold Transfer.next
  split
  · unfold UsbdBufferHandle.usbdBulkAsyncGetAsmData
    split
    · exact ⟨Nat.le_refl _, rfl⟩
    · split
      · exact ⟨Nat.le_add_right _ _, rfl⟩
      · exact ⟨Nat.le_refl _, rfl⟩
  · have grows : handle.cur ≤ (handle.usbdBulkAsyncGetAsmReqLen t.maxPacketSize).2.2.cur ∧
        (handle.usbdBulkAsyncGetAsmReqLen t.maxPacketSize).2.2.rcur = handle.rcur := by
      unfold UsbdBufferHandle.usbdBulkAsyncGetAsmReqLen
      split
      · exact ⟨Nat.le_refl _, rfl⟩
      · split
        · exact ⟨Nat.le_add_right _ _, rfl⟩
        · exact ⟨Nat.le_refl _, rfl⟩
    generalize handle.usbdBulkAsyncGetAsmReqLen t.maxPacketSize = found at grows ⊢
    obtain ⟨ret, readLen, later⟩ := found
    simp only
    split <;> exact grows

theorem put_grows (handle : UsbdBufferHandle) (buffer : List UInt8) :
    (handle.usbdBulkASyncPutAsmData buffer).2.cur = handle.cur ∧
      handle.rcur ≤ (handle.usbdBulkASyncPutAsmData buffer).2.rcur := by
  unfold UsbdBufferHandle.usbdBulkASyncPutAsmData
  split
  · exact ⟨rfl, Nat.le_refl _⟩
  · split
    · exact ⟨rfl, Nat.le_refl _⟩
    · extract_lets room tlen
      split
      · exact ⟨rfl, Nat.le_add_right _ _⟩
      · exact ⟨rfl, Nat.le_refl _⟩

structure Grows (s s' : State) : Prop where
  cur : s.handle.cur ≤ s'.handle.cur
  rcur : s.handle.rcur ≤ s'.handle.rcur
  reports : s.reports ⊆ s'.reports

variable {s' : State}

theorem Grows.same (handle : s'.handle = s.handle) (reports : s'.reports = s.reports) : Grows s s' :=
  ⟨by rw [handle], by rw [handle], by rw [reports]; exact List.Subset.refl _⟩

theorem after_grows (t : Transfer) (s : State) (e : Event) : Grows s (s.after t e) := by
  have next := next_grows t s.handle
  cases e with
  | loop o =>
    unfold after loopStep
    cases s.loop with
    | take i => cases s.eList <;> exact .same rfl rfl
    | get i node =>
      simp only
      split <;> exact ⟨next.1, next.2.ge, List.Subset.refl _⟩
    | submit i node slice =>
      simp only
      split
      · exact .same rfl rfl
      · split <;> exact .same rfl rfl
    | giveBack node ret => exact .same rfl rfl
    | check i =>
      simp only
      split
      · exact .same rfl rfl
      · split <;> exact .same rfl rfl
    | returned ret => exact .same rfl rfl
  | run p o =>
    unfold after pendingStep
    cases p with
    | flight node slice =>
      simp only
      split
      · split <;> exact .same rfl rfl
      · exact .same rfl rfl
    | put node length buffer =>
      have put := put_grows s.handle buffer
      simp only
      split <;> exact ⟨put.1.ge, put.2, List.Subset.refl _⟩
    | get node length =>
      simp only
      split <;> exact ⟨next.1, next.2.ge, List.Subset.refl _⟩
    | submit node slice fills =>
      simp only
      split
      · exact .same rfl rfl
      · split <;> exact .same rfl rfl
    | giveBack node told => cases told <;> exact .same rfl rfl
    | count =>
      simp only
      split <;> exact .same rfl rfl
    | report status =>
      simp only
      split
      · exact .same rfl rfl
      · exact ⟨Nat.le_refl _, Nat.le_refl _, subset_cons_self _ _⟩

theorem Grows.cursor (grows : Grows s s') : s.cursor t ≤ s'.cursor t := by
  unfold State.cursor
  cases t.direction
  · exact grows.rcur
  · exact grows.cur

theorem Stale.after (stale : s.Stale t) (e : Event) : (s.after t e).Stale t := by
  obtain ⟨r, member, less⟩ := stale
  have grows := after_grows t s e
  exact ⟨r, grows.reports member, Nat.lt_of_lt_of_le less grows.cursor⟩

variable {run : List Event}

/-- A run does not get over a callback that told less. -/
theorem not_right_run (stale : s.Stale t) (right : Right t s) (quiet : (run.foldl (after t) s).Quiet) :
    ¬ Takes (after t) (fun s e => s.May t e ∧ (s.after t e).Right t) s run := by
  induction run generalizing s with
  | nil => exact fun _ => not_right_of_stale stale quiet right
  | cons e rest later => exact fun takes => later (stale.after e) takes.1.2 quiet takes.2

namespace Holds

section
variable (holds : Holds t s)
include holds

theorem stale (told : s.handle.cbflg = true) (same : s'.reports = s.reports)
    (more : s.cursor t < s'.cursor t) : s'.Stale t := by
  obtain ⟨status, only⟩ := holds.report told
  refine ⟨(status, s.cursor t), ?_, more⟩
  rw [same, only]
  exact mem_singleton_self _

theorem stale_slice (write : t.direction = .write) (told : s.handle.cbflg = true)
    (left : t.Left s.handle) (same : s'.reports = s.reports) (is : s'.handle = (t.next s.handle).2.2) : s'.Stale t := by
  refine holds.stale told same ?_
  obtain ⟨k, pos, -, next⟩ := t.next_left holds.stored.size left
  rw [next] at is
  simp only [cursor, write, is, UsbdBufferHandle.advance]
  omega

theorem unreported {node : Nat} {ret : Ret} (at_ : s.loop = .giveBack node ret)
    (alone : ¬ (s.handle.cbflg = true ∨ s.pending ≠ [])) : ¬ Right t (s.loopStep t o) := by
  intro right
  obtain ⟨open_, idle⟩ := not_or.mp alone
  unfold loopStep at right
  rw [at_] at right
  obtain ⟨status, only⟩ := right.ended ⟨rfl, not_not.mp idle⟩
  cases (holds.places.unreported (Bool.eq_false_of_not_eq_true open_)).symm.trans only

theorem not_stored {node length : Nat} {buffer : List UInt8}
    (there : .put node length buffer ∈ s.pending) (closed : ¬ 1 ≤ t.fd) :
    ¬ Right t (s.pendingStep t (.put node length buffer) o) := by
  intro right
  obtain ⟨-, some_byte⟩ := holds.stored.puts there
  have put := UsbdBufferHandle.putAsmData_closed some_byte (by rwa [holds.stored.fd])
  have stored := right.stored
  simp only [pendingStep, put, reduceCtorEq, if_false] at stored
  rw [holds.stored.stored, self_eq_append_right] at stored
  rw [stored] at some_byte
  exact absurd some_byte (by decide)

theorem stale_put {node length : Nat} {buffer : List UInt8}
    (there : .put node length buffer ∈ s.pending) (opened : 1 ≤ t.fd) (told : s.handle.cbflg = true) :
    (s.pendingStep t (.put node length buffer) o).Stale t := by
  obtain ⟨read, some_byte⟩ := holds.stored.puts there
  have put := UsbdBufferHandle.putAsmData_fits some_byte (by rwa [holds.stored.fd])
    (holds.stored.fits holds.sliced there)
  refine holds.stale told ?_ ?_
  · simp only [pendingStep, put, if_true, goesOn]
  · simp only [pendingStep, put, if_true, cursor, read, UsbdBufferHandle.store]
    omega

theorem not_covered (write : t.direction = .write) (open_ : s.handle.cbflg = false)
    (lost : s.lost ≠ []) : ¬ Right t (s.pendingStep t (.report .success) o) := by
  intro right
  obtain ⟨v, missing⟩ := exists_mem_of_ne_nil _ lost
  have covered := right.covered write
  simp only [pendingStep, open_, Bool.false_eq_true, if_false] at covered
  have split := holds.sliced.split
  have once := split.nodup_iff.mpr holds.sliced.slices.nodup
  rw [append_assoc] at once
  have taken : v ∈ s.taken := split.mem_iff.mp (mem_append_left _ (mem_append_right _ missing))
  have pos := holds.sliced.slices.pos v taken
  have bounded := holds.sliced.slices.bounded taken
  have := holds.sliced.within
  obtain ⟨w, done, low, high⟩ := covered ⟨_, mem_cons_self, rfl⟩ v.start (by omega)
  have also : w ∈ s.taken := split.mem_iff.mp (mem_append_left _ (mem_append_left _ done))
  have differ : w ≠ v := by
    rintro rfl
    exact disjoint_of_nodup_append once done (mem_append_left _ missing)
  rcases holds.sliced.slices.apart also taken differ with before | behind
  · omega
  · omega

theorem careless (may : s.May t e) (careless : ¬ s.Careful t e) : ¬ Right t (s.after t e) ∨ (s.after t e).Stale t := by
  cases e with
  | loop o =>
    unfold Careful at careless
    cases at_ : s.loop with
    | take | submit | check | returned =>
      rw [at_] at careless
      exact absurd trivial careless
    | get i node =>
      rw [at_] at careless
      obtain ⟨write, careless⟩ := Classical.not_imp.mp careless
      obtain ⟨told, left⟩ := Classical.not_imp.mp careless
      refine .inr (holds.stale_slice write told (not_not.mp left) ?_ ?_)
      · simp only [after, loopStep, at_]
        split <;> rfl
      · simp only [after, loopStep, at_]
        split <;> rfl
    | giveBack node ret =>
      rw [at_] at careless
      exact .inl (holds.unreported at_ careless)
  | run p o =>
    cases p with
    | flight | submit | giveBack | count => exact absurd trivial careless
    | put node length buffer =>
      by_cases opened : 1 ≤ t.fd
      · exact .inr (@stale_put t s o holds _ _ _ may opened (not_not.mp fun open_ => careless ⟨opened, open_⟩))
      · exact .inl (@not_stored t s o holds _ _ _ may opened)
    | get node length =>
      obtain ⟨write, careless⟩ := Classical.not_imp.mp careless
      obtain ⟨told, left⟩ := Classical.not_imp.mp careless
      refine .inr (holds.stale_slice write told (not_not.mp left) ?_ ?_)
      · simp only [after, pendingStep]
        split <;> rfl
      · simp only [after, pendingStep]
        split <;> rfl
    | report status =>
      cases status with
      | success =>
        obtain ⟨write, careless⟩ := Classical.not_imp.mp careless
        obtain ⟨open_, lost⟩ := Classical.not_imp.mp careless
        exact .inl (@not_covered t s o holds write (Bool.eq_false_of_not_eq_true open_) lost)
      | _ => exact absurd trivial careless

end

end Holds

theorem right_of_careful (holds : Holds t s) (takes : Takes (after t) (fun s e => s.May t e ∧ s.Careful t e) s run) :
    Takes (after t) (fun s e => s.May t e ∧ (s.after t e).Right t) s run := by
  refine Takes.mono (fun s e (holds : Holds t s) ok => ?_) holds takes
  have later := holds.step ok.1 ok.2
  exact ⟨⟨ok.1, later.right⟩, later⟩

theorem careful_of_right (holds : Holds t s) (quiet : (run.foldl (after t) s).Quiet)
    (takes : Takes (after t) (fun s e => s.May t e ∧ (s.after t e).Right t) s run) :
    Takes (after t) (fun s e => s.May t e ∧ s.Careful t e) s run := by
  induction run generalizing s with
  | nil => trivial
  | cons e rest later =>
    obtain ⟨⟨may, right⟩, behind⟩ := takes
    have careful : s.Careful t e := by
      by_contra careless
      rcases holds.careless may careless with wrong | stale
      · exact wrong right
      · exact not_right_run stale right quiet behind
    exact ⟨⟨may, careful⟩, later (holds.step may careful) quiet behind⟩

/-- A run is right after every step if each step is careful; and a run to the end is only then. -/
theorem transfer_right (t : Transfer) (run : List Event) : (Takes (after t) (fun s e => s.May t e ∧ s.Careful t e) t.start run →
      Takes (after t) (fun s e => s.May t e ∧ (s.after t e).Right t) t.start run) ∧ ((run.foldl (after t) t.start).Quiet →
      Takes (after t) (fun s e => s.May t e ∧ (s.after t e).Right t) t.start run →
      Takes (after t) (fun s e => s.May t e ∧ s.Careful t e) t.start run) :=
  ⟨right_of_careful (start_holds t), careful_of_right (start_holds t)⟩

def packet (nodes : List Nat) (distinct : nodes.Nodup) (some_node : nodes ≠ []) : Transfer :=
  ⟨.write, nodes, 512, 3, 512, fun _ => 0, distinct, some_node, by decide, by decide⟩

def fine : Outcome := ⟨.success, [], .success, .success⟩

/-- The first request completes while the loop has the second node: it counts one empty node, and the loop, which
finds nothing to write, gives the other back. -/
theorem two_nodes_not_right :
    let t := packet [0, 1] (by decide) (by decide)
    let run := replicate 5 (.loop fine) ++
      [.run (.flight 0 ⟨0, 512⟩) fine, .run (.get 0 512) fine, .run (.giveBack 0 none) fine, .run .count fine,
        .loop fine, .loop fine]
    Takes (after t) (State.May t) t.start run ∧ ¬ Right t (run.foldl (after t) t.start) := by
  intro t run
  refine ⟨by decide +kernel, fun right => ?_⟩
  have none : (run.foldl (after t) t.start).reports = [] := by decide +kernel
  obtain ⟨status, only⟩ := right.ended (by decide +kernel)
  cases none.symm.trans only

/-- With one node the completion is the last. -/
theorem one_node_right :
    let t := packet [0] (by decide) (by decide)
    let run := replicate 4 (.loop fine) ++
      [.run (.flight 0 ⟨0, 512⟩) fine, .run (.get 0 512) fine, .run (.giveBack 0 none) fine, .run .count fine,
        .run (.report .success) fine]
    Takes (after t) (fun s e => s.May t e ∧ (s.after t e).Right t) t.start run := by
  intro t run
  exact (transfer_right t run).1 (by decide +kernel)

end Peripheral.UsbdBulk.State
