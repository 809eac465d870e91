import Peripheral.UsbdBulk

/-!
What a step of a transfer does, as rules. Where bytes that arrive have room and nothing is taken or stored behind
the callback, every step of the loop and of a completion is one of them.
-/
namespace Peripheral.UsbdBulk
open Bytes Tiling UsbdBufferHandle List

def Transfer.Left (t : Transfer) (handle : UsbdBufferHandle) : Prop := 0 < t.maxPacketSize ∧ handle.cur < t.size

instance (t : Transfer) (handle : UsbdBufferHandle) : Decidable (t.Left handle) := inferInstanceAs (Decidable (_ ∧ _))

namespace UsbdBufferHandle

variable {handle : UsbdBufferHandle} {buffer : List UInt8}

def advance (handle : UsbdBufferHandle) (length : Nat) : UsbdBufferHandle := { handle with cur := handle.cur + length }

def store (handle : UsbdBufferHandle) (buffer : List UInt8) : UsbdBufferHandle :=
  { handle with
    starAddr := patch handle.starAddr handle.rcur buffer.length fun k => buffer.getD k 0
    rcur := handle.rcur + buffer.length }

theorem bytes_store (handle : UsbdBufferHandle) (buffer : List UInt8) :
    bytes (handle.store buffer).starAddr (handle.store buffer).rcur = bytes handle.starAddr handle.rcur ++ buffer := by
  simp only [store]
  rw [bytes_add, bytes_patch, bytes_getD]
  congr 1
  exact bytes_congr fun i below => patch_outside (.inl below)

theorem store_beyond {i : Nat} (beyond : (handle.store buffer).rcur ≤ i) :
    (handle.store buffer).starAddr i = handle.starAddr i := by
  simp only [store] at beyond ⊢
  exact patch_outside (.inr beyond)

theorem putAsmData_fits (some_byte : 1 ≤ buffer.length) (opened : 1 ≤ handle.fd)
    (fits : handle.rcur + buffer.length ≤ handle.size) :
    handle.usbdBulkASyncPutAsmData buffer = (.success, handle.store buffer) := by
  have room : ¬ handle.size - handle.rcur < buffer.length := by omega
  have more : handle.size > handle.rcur := by omega
  simp only [usbdBulkASyncPutAsmData, Nat.not_lt.mpr some_byte, not_lt.mpr opened, if_false, if_pos more, if_neg room,
    memcpy_s, le_refl, if_true, store, gt_iff_lt, Nat.lt_of_lt_of_le Nat.zero_lt_one some_byte]

theorem putAsmData_closed (some_byte : 1 ≤ buffer.length) (closed : ¬ 1 ≤ handle.fd) :
    handle.usbdBulkASyncPutAsmData buffer = (.badFd, handle) := by
  rw [usbdBulkASyncPutAsmData, if_neg (Nat.not_lt.mpr some_byte), if_pos (not_le.mp closed)]

end UsbdBufferHandle

theorem Transfer.next_left {t : Transfer} {handle : UsbdBufferHandle} (size : handle.size = t.size) (left : t.Left handle) :
    ∃ k, 0 < k ∧ handle.cur + k ≤ t.size ∧ t.next handle = (.success, ⟨handle.cur, k⟩, handle.advance k) := by
  obtain ⟨packet, below⟩ := left
  have valid : ¬ (t.size < 1 ∨ t.maxPacketSize < 1) := by omega
  refine ⟨if t.size - handle.cur < t.maxPacketSize then t.size - handle.cur else t.maxPacketSize, ?_, ?_, ?_⟩
  · split <;> omega
  · split <;> omega
  · cases direction : t.direction with
    | write =>
      simp only [next, direction, usbdBulkAsyncGetAsmData, size, if_neg valid, if_pos below, advance]
    | read =>
      have some_byte : ¬ (if t.size - handle.cur < t.maxPacketSize then t.size - handle.cur else t.maxPacketSize) < 1 := by
        split <;> omega
      simp only [next, direction, usbdBulkAsyncGetAsmReqLen, size, if_neg valid, if_pos below, if_neg some_byte, advance]

theorem Transfer.next_not_left {t : Transfer} {handle : UsbdBufferHandle} (size : handle.size = t.size)
    (left : ¬ t.Left handle) : ∃ ret slice, t.next handle = (ret, slice, handle) ∧ ret ≠ .success ∧
      (t.direction = .write → ret = .noData → t.size ≤ handle.cur) := by
  have some_data := t.some_data
  by_cases packet : t.maxPacketSize < 1
  · cases direction : t.direction with
    | write =>
      refine ⟨.errIo, ⟨0, 0⟩, ?_, nofun, nofun⟩
      simp only [next, direction, usbdBulkAsyncGetAsmData, packet, or_true, if_true]
    | read =>
      refine ⟨.noData, ⟨0, 0⟩, ?_, nofun, nofun⟩
      simp only [next, direction, usbdBulkAsyncGetAsmReqLen, packet, or_true, if_true, Nat.zero_lt_one]
  · have valid : ¬ (t.size < 1 ∨ t.maxPacketSize < 1) := by omega
    have ends : ¬ handle.cur < t.size := fun below => left ⟨by omega, below⟩
    refine ⟨.noData, ⟨0, 0⟩, ?_, nofun, fun _ _ => not_lt.mp ends⟩
    cases direction : t.direction with
    | write =>
      simp only [next, direction, usbdBulkAsyncGetAsmData, size, if_neg valid, if_neg ends]
    | read =>
      simp only [next, direction, usbdBulkAsyncGetAsmReqLen, size, if_neg valid, if_neg ends, Nat.zero_lt_one, if_true]

def Loop.node : Loop → Option Nat
  | .get _ node | .submit _ node _ | .giveBack node _ => some node
  | .take _ | .check _ | .returned _ => none

def Loop.slice : Loop → Option Interval
  | .submit _ _ slice => some slice
  | _ => none

def Loop.ended : Loop → Bool
  | .check _ | .returned _ => true
  | _ => false

namespace Pending

def node : Pending → Option Nat
  | .flight node _ | .put node _ _ | .get node _ | .submit node _ _ | .giveBack node _ => some node
  | .count | .report _ => none

def slice : Pending → Option Interval
  | .flight _ slice | .submit _ slice _ => some slice
  | _ => none

def arrived : Pending → Nat
  | .put _ _ buffer => buffer.length
  | _ => 0

def Ends (p : Pending) : Prop := p = .count ∨ p = .report .success ∨ ∃ node, p = .giveBack node none

def reported : Option Ret → Pending
  | none => .count
  | some ret => .report ret

end Pending

def held (loop : Loop) (pending : List Pending) : List Nat := loop.node.toList ++ pending.filterMap Pending.node

def underway (loop : Loop) (pending : List Pending) : List Interval :=
  loop.slice.toList ++ pending.filterMap Pending.slice

variable {t : Transfer} {s : State} {p : Pending} {pending rest : List Pending}

theorem count_goesOn {α : Type} [DecidableEq α] (there : p ∈ pending) (f : Pending → Option α) (a : α) :
    (f p).toList.count a + ((rest ++ pending.erase p).filterMap f).count a =
      (rest.filterMap f).count a + (pending.filterMap f).count a := by
  have same := ((perm_cons_erase there).filterMap f).count_eq a
  rw [filterMap_cons] at same
  rw [filterMap_append, count_append, same]
  cases f p with
  | none => simp only [Option.toList_none, count_nil]; omega
  | some b => simp only [Option.toList_some, count_cons, count_nil]; omega

theorem sum_goesOn (there : p ∈ pending) (f : Pending → Nat) :
    f p + ((rest ++ pending.erase p).map f).sum = (rest.map f).sum + (pending.map f).sum := by
  have same := sum_map_erase f there
  rw [map_append, sum_append]
  omega

theorem mem_goesOn {q : Pending} (member : q ∈ rest ++ pending.erase p) : q ∈ rest ∨ q ∈ pending :=
  (mem_append.mp member).imp_right mem_of_mem_erase

namespace State

/-- The loop takes nothing to be written behind the callback, and does not give a node back as the last one before
anything was reported. -/
def Turns (t : Transfer) (s : State) : Loop → Prop
  | .get .. => t.direction = .write → s.handle.cbflg → ¬ t.Left s.handle
  | .giveBack .. => s.handle.cbflg ∨ s.pending ≠ []
  | _ => True

/-- What a step must be to leave the transfer in order: a turn of the loop as above, and of a completion one that
takes nothing to be written and stores nothing behind the callback, can store what is read, and does not report a
write as a success with a slice that was lost. -/
def Careful (t : Transfer) (s : State) : Event → Prop
  | .loop _ => s.Turns t s.loop
  | .run (.put ..) _ => 1 ≤ t.fd ∧ ¬ s.handle.cbflg
  | .run (.get ..) _ => t.direction = .write → s.handle.cbflg → ¬ t.Left s.handle
  | .run (.report .success) _ => t.direction = .write → ¬ s.handle.cbflg → s.lost = []
  | .run _ _ => True

instance (t : Transfer) (s : State) : (loop : Loop) → Decidable (s.Turns t loop)
  | .get .. => inferInstanceAs (Decidable (_ → _ → ¬ _))
  | .giveBack .. => inferInstanceAs (Decidable (_ ∨ _))
  | .take _ | .submit .. | .check _ | .returned _ => inferInstanceAs (Decidable True)

instance (t : Transfer) (s : State) : (e : Event) → Decidable (s.Careful t e)
  | .loop _ => inferInstanceAs (Decidable (s.Turns t s.loop))
  | .run (.put ..) _ => inferInstanceAs (Decidable (_ ∧ _))
  | .run (.get ..) _ => inferInstanceAs (Decidable (_ → _ → ¬ _))
  | .run (.report .success) _ => inferInstanceAs (Decidable (_ → _ → _))
  | .run (.report .noData) _ | .run (.report .deviceBusy) _ | .run (.report .invalidParam) _ | .run (.report .errIo) _
  | .run (.report .badFd) _ | .run (.report (.other _)) _ | .run (.flight ..) _ | .run (.submit ..) _
  | .run (.giveBack ..) _ | .run .count _ => inferInstanceAs (Decidable True)

inductive Steps (t : Transfer) (s : State) : State → Prop
  | takes {i node : Nat} {rest : List Nat} (at_ : s.loop = .take i) (first : s.eList = node :: rest) :
      Steps t s { s with eList := rest, loop := .get i node }
  | slices {i node k : Nat} (at_ : s.loop = .get i node) (pos : 0 < k) (inside : s.handle.cur + k ≤ t.size)
      (open_ : t.direction = .write → s.handle.cbflg = false) :
      Steps t s { s with
        handle := s.handle.advance k
        taken := s.taken ++ [⟨s.handle.cur, k⟩]
        loop := .submit i node ⟨s.handle.cur, k⟩ }
  | stops {i node : Nat} {ret : Ret} (at_ : s.loop = .get i node) : Steps t s { s with loop := .giveBack node ret }
  | fails {i node : Nat} {slice : Interval} {ret : Ret} (at_ : s.loop = .submit i node slice) :
      Steps t s { s with lost := slice :: s.lost, loop := .giveBack node ret }
  | submits {i node : Nat} {slice : Interval} (at_ : s.loop = .submit i node slice) :
      Steps t s { s with pending := .flight node slice :: s.pending, loop := .check i }
  | gives {node : Nat} {ret : Ret} (at_ : s.loop = .giveBack node ret) (others : s.handle.cbflg ∨ s.pending ≠ []) :
      Steps t s { s with eList := s.eList ++ [node], loop := .returned ret }
  | ends {i : Nat} (at_ : s.loop = .check i) : Steps t s { s with loop := .returned .success }
  | again {i : Nat} (at_ : s.loop = .check i) (more : s.eList ≠ []) : Steps t s { s with loop := .take (i + 1) }
  | written {node : Nat} {slice : Interval} (there : .flight node slice ∈ s.pending) (direction : t.direction = .write) :
      Steps t s { s.goesOn (.flight node slice) [.get node slice.len] with done := slice :: s.done }
  | read {node : Nat} {slice : Interval} {buffer : List UInt8} (there : .flight node slice ∈ s.pending)
      (direction : t.direction = .read) (some_byte : 1 ≤ buffer.length) (asked : buffer.length ≤ slice.len) :
      Steps t s { s.goesOn (.flight node slice) [.put node slice.len buffer] with done := slice :: s.done }
  | failed {node : Nat} {slice : Interval} {ret : Ret} (there : .flight node slice ∈ s.pending) (bad : ret ≠ .success) :
      Steps t s { s.goesOn (.flight node slice) [.giveBack node (some ret)] with lost := slice :: s.lost }
  | stored {node length : Nat} {buffer : List UInt8} (there : .put node length buffer ∈ s.pending)
      (open_ : s.handle.cbflg = false) :
      Steps t s { s.goesOn (.put node length buffer) [.get node length] with
        handle := s.handle.store buffer
        received := s.received ++ buffer }
  | sliced {node length k : Nat} {fills : Bool} (there : .get node length ∈ s.pending) (pos : 0 < k)
      (inside : s.handle.cur + k ≤ t.size) (open_ : t.direction = .write → s.handle.cbflg = false) :
      Steps t s { s.goesOn (.get node length) [.submit node ⟨s.handle.cur, k⟩ fills] with
        handle := s.handle.advance k
        taken := s.taken ++ [⟨s.handle.cur, k⟩] }
  | stopped {node length : Nat} {ret : Ret} (there : .get node length ∈ s.pending) (bad : ret ≠ .success)
      (spent : t.direction = .write → ret = .noData → t.size ≤ s.handle.cur) :
      Steps t s (s.goesOn (.get node length) [.giveBack node (told ret)])
  | submitFailed {node : Nat} {slice : Interval} {fills : Bool} {ret : Ret}
      (there : .submit node slice fills ∈ s.pending) (bad : ret ≠ .success) :
      Steps t s { s.goesOn (.submit node slice fills) [.giveBack node (told ret)] with lost := slice :: s.lost }
  | submitted {node : Nat} {slice : Interval} {fills : Bool} (there : .submit node slice fills ∈ s.pending) :
      Steps t s (s.goesOn (.submit node slice fills) [.flight node slice])
  | given {node : Nat} {told : Option Ret} (there : .giveBack node told ∈ s.pending) :
      Steps t s { s.goesOn (.giveBack node told) [Pending.reported told] with eList := s.eList ++ [node] }
  | last (there : .count ∈ s.pending) (all : t.nodes.length ≤ s.eList.length) :
      Steps t s (s.goesOn .count [.report .success])
  | notLast (there : .count ∈ s.pending) (fewer : s.eList.length < t.nodes.length) : Steps t s (s.goesOn .count [])
  | silent {status : Ret} (there : .report status ∈ s.pending) (told : s.handle.cbflg = true) :
      Steps t s (s.goesOn (.report status) [])
  | reports {status : Ret} (there : .report status ∈ s.pending) (open_ : s.handle.cbflg = false)
      (whole : t.direction = .write → status = .success → s.lost = []) :
      Steps t s { s.goesOn (.report status) [] with
        handle := { s.handle with cbflg := true }
        reports := (status, s.cursor t) :: s.reports }

/-- Each node is in the empty list or held, once; and someone is left to send the callback. -/
structure Places (t : Transfer) (s : State) : Prop where
  places : (s.eList ++ held s.loop s.pending).Perm t.nodes
  free : ∀ i, s.loop = .take i → s.eList ≠ []
  flag : s.reports.length = if s.handle.cbflg then 1 else 0
  alive : s.loop.ended → s.handle.cbflg ∨ s.pending ≠ []

/-- What is stored is what arrived, there is room for what is not stored yet, and what was reported is so. -/
structure Stored (t : Transfer) (s : State) : Prop where
  size : s.handle.size = t.size
  fd : s.handle.fd = t.fd
  puts : ∀ {node length : Nat} {buffer : List UInt8}, .put node length buffer ∈ s.pending →
    t.direction = .read ∧ 1 ≤ buffer.length
  stored : bytes s.handle.starAddr s.handle.rcur = s.received
  untouched : ∀ i, s.handle.rcur ≤ i → s.handle.starAddr i = t.starAddr i
  arriving : s.handle.rcur + (s.pending.map Pending.arrived).sum ≤ (s.done.map Interval.len).sum
  reported : ∀ r ∈ s.reports, r.2 = s.cursor t

/-- The slices follow each other, each is done, lost or on its way, and a write that succeeds is whole. -/
structure Sliced (t : Transfer) (s : State) : Prop where
  slices : Consecutive s.taken s.handle.cur
  within : s.handle.cur ≤ t.size
  split : (s.done ++ s.lost ++ underway s.loop s.pending).Perm s.taken
  failing : ∀ {node : Nat} {ret : Ret}, .giveBack node (some ret) ∈ s.pending → ret ≠ .success
  spent : t.direction = .write → (∃ p ∈ s.pending, p.Ends) → s.lost ≠ [] ∨ t.size ≤ s.handle.cur
  settled : t.direction = .write → .report .success ∈ s.pending → s.lost ≠ [] ∨ underway s.loop s.pending = []
  covered : t.direction = .write → (∃ r ∈ s.reports, r.1 = .success) → ∀ x < t.size, ∃ slice ∈ s.done, slice.start ≤ x ∧
    x < slice.start + slice.len

variable {e : Event}

theorem Sliced.done_le (sliced : Sliced t s) : (s.done.map Interval.len).sum ≤ s.handle.cur := by
  have all := (sliced.split.map Interval.len).sum_eq
  rw [sliced.slices.tiles.sum, map_append, map_append, sum_append, sum_append] at all
  omega

theorem Stored.fits (stored : Stored t s) (sliced : Sliced t s) {node length : Nat} {buffer : List UInt8}
    (there : .put node length buffer ∈ s.pending) : s.handle.rcur + buffer.length ≤ s.handle.size := by
  have its : buffer.length ≤ (s.pending.map Pending.arrived).sum := le_sum_of_mem (mem_map_of_mem there)
  have := stored.arriving
  have := sliced.done_le
  have := sliced.within
  rw [stored.size]
  omega

theorem loop_steps {o : Outcome} (places : Places t s) (stored : Stored t s) (may : s.May t (.loop o))
    (careful : s.Careful t (.loop o)) : Steps t s (s.loopStep t o) := by
  unfold loopStep
  cases at_ : s.loop with
  | take i =>
    cases empty : s.eList with
    | nil => exact absurd empty (places.free i at_)
    | cons node rest => exact .takes at_ empty
  | get i node =>
    by_cases left : t.Left s.handle
    · obtain ⟨k, pos, inside, is⟩ := t.next_left stored.size left
      simp only [is, if_true]
      refine .slices at_ pos inside fun write => Bool.eq_false_of_not_eq_true fun told => ?_
      rw [Careful, at_] at careful
      exact careful write told left
    · obtain ⟨ret, slice, is, bad, -⟩ := t.next_not_left stored.size left
      simp only [is, if_neg bad]
      exact .stops at_
  | submit i node slice =>
    by_cases fill : o.fill = .success
    · by_cases submit : o.submit = .success
      · simp only [fill, submit, ne_eq, not_true_eq_false, if_false]
        exact .submits at_
      · simp only [fill, submit, ne_eq, not_true_eq_false, if_false, not_false_eq_true, if_true]
        exact .fails at_
    · simp only [fill, ne_eq, not_false_eq_true, if_true]
      exact .fails at_
  | giveBack node ret =>
    rw [Careful, at_] at careful
    exact .gives at_ careful
  | check i =>
    by_cases enough : i + 1 > t.nodes.length
    · simp only [if_pos enough]
      exact .ends at_
    · by_cases empty : s.eList = []
      · simp only [if_neg enough, if_pos empty]
        exact .ends at_
      · simp only [if_neg enough, if_neg empty]
        exact .again at_ empty
  | returned ret => exact absurd at_ (may ret)

theorem pending_steps {o : Outcome} (stored : Stored t s) (sliced : Sliced t s) (may : s.May t (.run p o))
    (careful : s.Careful t (.run p o)) : Steps t s (s.pendingStep t p o) := by
  unfold pendingStep
  cases p with
  | flight node slice =>
    obtain ⟨there, asked⟩ := may
    by_cases ok : o.status = .success
    · cases direction : t.direction with
      | write =>
        simp only [ok, if_true]
        exact .written there direction
      | read =>
        simp only [ok, if_true]
        exact .read there direction (asked direction ok).1 (asked direction ok).2
    · simp only [ok, if_false]
      exact .failed there ok
  | put node length buffer =>
    have put := putAsmData_fits (stored.puts may).2 (stored.fd ▸ careful.1) (stored.fits sliced may)
    simp only [put, if_true]
    exact .stored may (Bool.eq_false_of_not_eq_true careful.2)
  | get node length =>
    by_cases left : t.Left s.handle
    · obtain ⟨k, pos, inside, is⟩ := t.next_left stored.size left
      simp only [is, if_true]
      exact .sliced may pos inside fun write => Bool.eq_false_of_not_eq_true fun told => careful write told left
    · obtain ⟨ret, slice, is, bad, spent⟩ := t.next_not_left stored.size left
      simp only [is, if_neg bad]
      exact .stopped may bad spent
  | submit node slice fills =>
    by_cases fill : fills ∧ o.fill ≠ .success
    · simp only [if_pos fill]
      exact .submitFailed may fill.2
    · by_cases submit : o.submit = .success
      · simp only [if_neg fill, submit, ne_eq, not_true_eq_false, if_false]
        exact .submitted may
      · simp only [if_neg fill, submit, ne_eq, not_false_eq_true, if_true]
        exact .submitFailed may submit
  | giveBack node told => cases told <;> exact .given may
  | count =>
    by_cases all : s.eList.length ≥ t.nodes.length
    · simp only [if_pos all]
      exact .last may all
    · simp only [if_neg all]
      exact .notLast may (not_le.mp all)
  | report status =>
    cases told : s.handle.cbflg with
    | true => exact .silent may told
    | false =>
      refine .reports may told fun write success => ?_
      subst success
      exact careful write (by rw [told]; nofun)

theorem steps (places : Places t s) (stored : Stored t s) (sliced : Sliced t s) (may : s.May t e)
    (careful : s.Careful t e) : Steps t s (s.after t e) := by
  cases e with
  | loop o => exact loop_steps places stored may careful
  | run p o => exact pending_steps stored sliced may careful

end State

end Peripheral.UsbdBulk
