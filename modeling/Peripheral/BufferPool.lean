import Mathlib.Data.List.Nodup

/-!
The buffer pool of the camera, `buffer_pool.cpp`. A call of `AcquireBuffer` that waits
gives the lock back and goes on when it is woken or when its time is over; it can be
woken at any time. Beside the pool stands what its clients know: which buffers belong
to it, which are handed out, and in which order buffers became idle and were handed
out.
-/
namespace Peripheral.Camera
open List

variable {B : Type}

/-- `BufferPool`: whether the buffers are from an external source, and the lists. -/
structure BufferPool (B : Type) where
  external : Bool
  stop : Bool
  idleList : List B
  busyList : List B

inductive Outcome (B : Type)
  | returned (buffer : Option B)
  | waits

namespace BufferPool

/-- The loop of `PrepareBuffer` from an index on; nothing when it fails. -/
def prepareBuffer (alloc : Nat → Option B) (maps : B → Bool) (i : Nat) : Nat → BufferPool B → Option (BufferPool B)
  | 0, pool => some pool
  | count + 1, pool =>
    match alloc i with
    | none => none
    | some buffer =>
      if maps buffer then prepareBuffer alloc maps (i + 1) count { pool with idleList := pool.idleList ++ [buffer] } else none

/-- A new pool; nothing when `Init` fails. -/
def init (external : Bool) (count : Nat) (alloc : Nat → Option B) (maps : B → Bool) : Option (BufferPool B) :=
  if external then some ⟨true, false, [], []⟩ else prepareBuffer alloc maps 0 count ⟨false, false, [], []⟩

def addBuffer (pool : BufferPool B) (buffer : B) : BufferPool B := { pool with idleList := pool.idleList ++ [buffer] }

def handOut (pool : BufferPool B) : Option B × BufferPool B :=
  match pool.idleList with
  | [] => (none, pool)
  | buffer :: idle => (some buffer, { pool with idleList := idle, busyList := buffer :: pool.busyList })

def ready (pool : BufferPool B) : Bool := !pool.idleList.isEmpty || pool.stop

def acquireBuffer (pool : BufferPool B) (timeout : Int) : Outcome B × BufferPool B :=
  if !pool.idleList.isEmpty then (.returned pool.handOut.1, pool.handOut.2)
  else if timeout ≠ 0 && !pool.ready then (.waits, pool)
  else (.returned none, pool)

def wake (pool : BufferPool B) : Outcome B × BufferPool B :=
  if pool.ready then (.returned pool.handOut.1, pool.handOut.2) else (.waits, pool)

def expire (pool : BufferPool B) : Outcome B × BufferPool B :=
  if pool.ready then (.returned pool.handOut.1, pool.handOut.2) else (.returned none, pool)

def returnBuffer [DecidableEq B] (pool : BufferPool B) (buffer : B) : Bool × BufferPool B :=
  if buffer ∉ pool.busyList then (false, pool)
  else if pool.external then (true, { pool with busyList := pool.busyList.erase buffer })
  else (true, { pool with busyList := pool.busyList.erase buffer, idleList := pool.idleList ++ [buffer] })

def notifyStop (pool : BufferPool B) : BufferPool B := { pool with stop := true }

def notifyStart (pool : BufferPool B) : BufferPool B := { pool with stop := false }

end BufferPool

structure Ledger (B : Type) where
  /-- The buffers that were prepared or added, in an external pool without those returned. -/
  owned : List B
  out : List B
  became : List B
  handed : List B

structure Clients (B : Type) where
  pool : BufferPool B
  waiting : List Int
  ledger : Ledger B

inductive PoolEvent (B : Type)
  | acquire (timeout : Int)
  | wake (i : Nat)
  | expire (i : Nat)
  | returnBuffer (buffer : B)
  | addBuffer (buffer : B)
  | notifyStop
  | notifyStart

namespace Clients

def start (pool : BufferPool B) : Clients B := ⟨pool, [], ⟨pool.idleList, [], pool.idleList, []⟩⟩

def note (s : Clients B) : Option B → Clients B
  | none => s
  | some buffer => { s with ledger := { s.ledger with
      out := buffer :: s.ledger.out, handed := s.ledger.handed ++ [buffer] } }

def resume (s : Clients B) (i : Nat) (result : Outcome B × BufferPool B) : Clients B :=
  match result with
  | (.waits, pool) => { s with pool := pool }
  | (.returned buffer, pool) => { s with pool := pool, waiting := s.waiting.eraseIdx i }.note buffer

def step [DecidableEq B] (s : Clients B) : PoolEvent B → Clients B
  | .acquire timeout =>
    match s.pool.acquireBuffer timeout with
    | (.waits, pool) => { s with pool := pool, waiting := s.waiting ++ [timeout] }
    | (.returned buffer, pool) => { s with pool := pool }.note buffer
  | .wake i => if i < s.waiting.length then s.resume i s.pool.wake else s
  | .expire i =>
    match s.waiting[i]? with
    | none => s
    | some timeout => if timeout > 0 then s.resume i s.pool.expire else s
  | .returnBuffer buffer =>
    match s.pool.returnBuffer buffer with
    | (false, pool) => { s with pool := pool }
    | (true, pool) =>
      if pool.external then
        { s with pool := pool, ledger := { s.ledger with
          owned := s.ledger.owned.erase buffer, out := s.ledger.out.erase buffer } }
      else
        { s with pool := pool, ledger := { s.ledger with
          out := s.ledger.out.erase buffer, became := s.ledger.became ++ [buffer] } }
  | .addBuffer buffer => { s with pool := s.pool.addBuffer buffer, ledger := { s.ledger with
      owned := buffer :: s.ledger.owned, became := s.ledger.became ++ [buffer] } }
  | .notifyStop => { s with pool := s.pool.notifyStop }
  | .notifyStart => { s with pool := s.pool.notifyStart }

def run [DecidableEq B] (s : Clients B) (events : List (PoolEvent B)) : Clients B := events.foldl step s

def Legal [DecidableEq B] : Clients B → List (PoolEvent B) → Prop
  | _, [] => True
  | s, e :: events => (∀ buffer, e = .addBuffer buffer → buffer ∉ s.ledger.owned) ∧ (s.step e).Legal events

end Clients

structure Conserved [DecidableEq B] (s : Clients B) : Prop where
  exclusive : s.ledger.out.Nodup
  distinct : (s.pool.idleList ++ s.pool.busyList).Nodup
  complete : ∀ buffer, buffer ∈ s.pool.idleList ++ s.pool.busyList ↔ buffer ∈ s.ledger.owned
  returns : ∀ buffer, (s.pool.returnBuffer buffer).1 = true ↔ buffer ∈ s.ledger.out
  refuses : ∀ buffer, (s.pool.returnBuffer buffer).1 = false → (s.pool.returnBuffer buffer).2 = s.pool
  ordered : s.ledger.handed ++ s.pool.idleList = s.ledger.became

structure Kept (s : Clients B) : Prop where
  out : s.ledger.out = s.pool.busyList
  distinct : (s.pool.idleList ++ s.pool.busyList).Nodup
  owned : s.ledger.owned.Nodup
  complete : ∀ buffer, buffer ∈ s.pool.idleList ++ s.pool.busyList ↔ buffer ∈ s.ledger.owned
  ordered : s.ledger.handed ++ s.pool.idleList = s.ledger.became

variable {s : Clients B}

theorem Kept.handOut (kept : Kept s) (waiting : List Int) :
    Kept ({ s with pool := s.pool.handOut.2, waiting := waiting }.note s.pool.handOut.1) := by
  rw [BufferPool.handOut]
  cases idle : s.pool.idleList with
  | nil => exact ⟨kept.out, kept.distinct, kept.owned, kept.complete, kept.ordered⟩
  | cons buffer rest =>
    have moved : (rest ++ buffer :: s.pool.busyList).Perm (s.pool.idleList ++ s.pool.busyList) := by
      rw [idle]
      exact perm_middle
    refine ⟨?_, moved.nodup_iff.mpr kept.distinct, kept.owned, ?_, ?_⟩
    · simp only [Clients.note, kept.out]
    · intro b
      exact moved.mem_iff.trans (kept.complete b)
    · have ordered := kept.ordered
      rw [idle] at ordered
      simp only [Clients.note, append_assoc, singleton_append]
      exact ordered

theorem Kept.resume (kept : Kept s) (i : Nat) {result : Outcome B × BufferPool B}
    (cases_ : result = (.waits, s.pool) ∨ result = (.returned none, s.pool) ∨ result = (.returned s.pool.handOut.1,
      s.pool.handOut.2)) : Kept (s.resume i result) := by
  rcases cases_ with rfl | rfl | rfl
  · exact kept
  · exact ⟨kept.out, kept.distinct, kept.owned, kept.complete, kept.ordered⟩
  · exact kept.handOut _

theorem Kept.wake (kept : Kept s) (i : Nat) : Kept (s.resume i s.pool.wake) := by
  apply kept.resume
  rw [BufferPool.wake]
  split
  · exact .inr (.inr rfl)
  · exact .inl rfl

theorem Kept.expire (kept : Kept s) (i : Nat) : Kept (s.resume i s.pool.expire) := by
  apply kept.resume
  rw [BufferPool.expire]
  split
  · exact .inr (.inr rfl)
  · exact .inr (.inl rfl)

theorem BufferPool.prepareBuffer_spec {alloc : Nat → Option B} (new : ∀ i j b, alloc i = some b → alloc j = some b → i = j)
    {maps : B → Bool} {i count : Nat} {pool pool' : BufferPool B}
    (prepared : prepareBuffer alloc maps i count pool = some pool') (before : ∀ b ∈ pool.idleList, ∃ j < i, alloc j = some b)
    (distinct : pool.idleList.Nodup) : pool'.idleList.Nodup ∧ pool'.busyList = pool.busyList := by
  induction count generalizing i pool with
  | zero =>
    cases prepared
    exact ⟨distinct, rfl⟩
  | succ count ih =>
    rw [prepareBuffer] at prepared
    split at prepared
    · cases prepared
    · rename_i buffer allocated
      split at prepared
      · have rest := fun old distinct => ih prepared old distinct
        refine rest ?_ ?_
        · intro b member
          rcases mem_append.mp member with old | now
          · obtain ⟨j, earlier, is⟩ := before b old
            exact ⟨j, Nat.lt_succ_of_lt earlier, is⟩
          · rw [mem_singleton.mp now]
            exact ⟨i, Nat.lt_succ_self i, allocated⟩
        · rw [nodup_append]
          refine ⟨distinct, by simp, ?_⟩
          rintro b old c now rfl
          obtain ⟨j, earlier, is⟩ := before b old
          rw [mem_singleton.mp now] at is
          have := new i j buffer allocated is
          omega
      · cases prepared

theorem Kept.start {external : Bool} {count : Nat} {alloc : Nat → Option B}
    (new : ∀ i j b, alloc i = some b → alloc j = some b → i = j) {maps : B → Bool} {pool : BufferPool B}
    (made : BufferPool.init external count alloc maps = some pool) : Kept (Clients.start pool) := by
  have lists : pool.idleList.Nodup ∧ pool.busyList = [] := by
    rw [BufferPool.init] at made
    split at made
    · cases made
      exact ⟨nodup_nil, rfl⟩
    · exact BufferPool.prepareBuffer_spec new made (by simp) nodup_nil
  refine ⟨lists.2.symm, ?_, lists.1, ?_, rfl⟩
  · simp only [Clients.start, lists.2, append_nil]
    exact lists.1
  · intro buffer
    simp only [Clients.start, lists.2, append_nil]

section
variable [DecidableEq B]

theorem BufferPool.returnBuffer_fst (pool : BufferPool B) (buffer : B) :
    (pool.returnBuffer buffer).1 = true ↔ buffer ∈ pool.busyList := by
  rw [returnBuffer]
  by_cases busy : buffer ∈ pool.busyList
  · rw [if_neg (not_not.mpr busy)]
    split <;> simp [busy]
  · rw [if_pos busy]
    simp [busy]

section
variable (kept : Kept s)
include kept

theorem Kept.conserved : Conserved s := by
  refine ⟨?_, kept.distinct, kept.complete, ?_, ?_, kept.ordered⟩
  · rw [kept.out]
    exact kept.distinct.of_append_right
  · intro buffer
    rw [kept.out]
    exact s.pool.returnBuffer_fst buffer
  · intro buffer refused
    have absent : buffer ∉ s.pool.busyList := by
      intro busy
      rw [(s.pool.returnBuffer_fst buffer).mpr busy] at refused
      cases refused
    rw [BufferPool.returnBuffer, if_pos absent]

theorem Kept.acquire (timeout : Int) : Kept (s.step (.acquire timeout)) := by
  unfold Clients.step BufferPool.acquireBuffer
  by_cases idle : !s.pool.idleList.isEmpty
  · simp only [if_pos idle]
    exact kept.handOut s.waiting
  · simp only [if_neg idle]
    by_cases waits : (timeout ≠ 0 && !s.pool.ready) = true
    · simp only [if_pos waits]
      exact ⟨kept.out, kept.distinct, kept.owned, kept.complete, kept.ordered⟩
    · simp only [if_neg waits]
      exact kept

theorem Kept.returnBuffer (buffer : B) : Kept (s.step (.returnBuffer buffer)) := by
  simp only [Clients.step, BufferPool.returnBuffer]
  by_cases busy : buffer ∈ s.pool.busyList
  · simp only [if_neg (not_not.mpr busy)]
    have back := perm_cons_erase busy
    have split : (s.pool.idleList ++ s.pool.busyList).Perm (buffer :: (s.pool.idleList ++ s.pool.busyList.erase buffer)) :=
      (back.append_left _).trans perm_middle
    have distinct := split.nodup_iff.mp kept.distinct
    cases external : s.pool.external with
    | true =>
      simp only [if_true]
      refine ⟨?_, (nodup_cons.mp distinct).2, kept.owned.erase _, ?_, kept.ordered⟩
      · simp only [kept.out]
      · intro b
        have known := kept.complete b
        rw [split.mem_iff, mem_cons] at known
        rw [kept.owned.mem_erase_iff, ← known]
        constructor
        · intro member
          refine ⟨?_, .inr member⟩
          rintro rfl
          exact (nodup_cons.mp distinct).1 member
        · rintro ⟨other, same | member⟩
          · exact absurd same other
          · exact member
    | false =>
      simp only [Bool.false_eq_true, if_false]
      have last : (s.pool.idleList ++ [buffer] ++ s.pool.busyList.erase buffer).Perm
          (buffer :: (s.pool.idleList ++ s.pool.busyList.erase buffer)) := by
        rw [append_assoc]
        exact perm_middle
      refine ⟨?_, last.nodup_iff.mpr distinct, kept.owned, ?_, ?_⟩
      · simp only [kept.out]
      · intro b
        exact (last.trans split.symm).mem_iff.trans (kept.complete b)
      · simp only [← append_assoc, kept.ordered]
  · simp only [if_pos busy]
    exact kept

theorem Kept.addBuffer {buffer : B} (absent : buffer ∉ s.ledger.owned) : Kept (s.step (.addBuffer buffer)) := by
  have last : (s.pool.idleList ++ [buffer] ++ s.pool.busyList).Perm (buffer :: (s.pool.idleList ++ s.pool.busyList)) := by
    rw [append_assoc]
    exact perm_middle
  have outside : buffer ∉ s.pool.idleList ++ s.pool.busyList := fun member => absent ((kept.complete buffer).mp member)
  refine ⟨kept.out, last.nodup_iff.mpr (nodup_cons.mpr ⟨outside, kept.distinct⟩),
    nodup_cons.mpr ⟨absent, kept.owned⟩, ?_, ?_⟩
  · intro b
    refine last.mem_iff.trans ?_
    rw [mem_cons, kept.complete b]
    exact mem_cons.symm
  · simp only [Clients.step, BufferPool.addBuffer, ← append_assoc, kept.ordered]

theorem Kept.step {e : PoolEvent B} (legal : ∀ buffer, e = .addBuffer buffer → buffer ∉ s.ledger.owned) : Kept (s.step e) := by
  cases e with
  | acquire timeout => exact kept.acquire timeout
  | wake i =>
    simp only [Clients.step]
    split
    · exact kept.wake i
    · exact kept
  | expire i =>
    simp only [Clients.step]
    split
    · exact kept
    · split
      · exact kept.expire i
      · exact kept
  | returnBuffer buffer => exact kept.returnBuffer buffer
  | addBuffer buffer => exact kept.addBuffer (legal buffer rfl)
  | notifyStop => exact ⟨kept.out, kept.distinct, kept.owned, kept.complete, kept.ordered⟩
  | notifyStart => exact ⟨kept.out, kept.distinct, kept.owned, kept.complete, kept.ordered⟩

theorem Kept.run (events : List (PoolEvent B)) (legal : s.Legal events) : Kept (s.run events) := by
  induction events generalizing s with
  | nil => exact kept
  | cons e events ih => exact ih (kept.step legal.1) legal.2

end

/-- However the calls of the clients follow on each other, buffers are neither lost nor handed out twice. -/
theorem run_conserved {external : Bool} {count : Nat} {alloc : Nat → Option B}
    (new : ∀ i j b, alloc i = some b → alloc j = some b → i = j) {maps : B → Bool} {pool : BufferPool B}
    (made : BufferPool.init external count alloc maps = some pool) (events : List (PoolEvent B))
    (legal : (Clients.start pool).Legal events) : Conserved ((Clients.start pool).run events) :=
  ((Kept.start new made).run events legal).conserved

end

def thirdWaits : List (PoolEvent Nat) :=
  [.acquire 0, .acquire 0, .acquire (-1), .returnBuffer 1, .wake 0, .addBuffer 7, .acquire 0]

theorem thirdWaits_conserved : ∃ pool, BufferPool.init false 2 some (fun _ => true) = some pool ∧
    (Clients.start pool).Legal thirdWaits ∧ ((Clients.start pool).run thirdWaits).ledger.handed = [0, 1, 1, 7] ∧
    Conserved ((Clients.start pool).run thirdWaits) := by
  have new : ∀ i j b, (some i : Option Nat) = some b → (some j : Option Nat) = some b → i = j := by
    rintro i j b ⟨⟩ ⟨⟩
    rfl
  have legal : (Clients.start ⟨false, false, [0, 1], []⟩).Legal thirdWaits := by
    simp [thirdWaits, Clients.Legal, Clients.start, Clients.step, BufferPool.acquireBuffer, BufferPool.handOut,
      BufferPool.ready, BufferPool.returnBuffer, BufferPool.wake, BufferPool.addBuffer, Clients.note, Clients.resume]
  have made : BufferPool.init false 2 some (fun _ => true) = some ⟨false, false, [0, 1], []⟩ := rfl
  exact ⟨_, made, legal, rfl, run_conserved new made thirdWaits legal⟩

end Peripheral.Camera
