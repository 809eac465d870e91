import Mathlib.Data.List.Perm.Basic
import Peripheral.UsbSerial

/-!
Where the requests of the serial port are. Each move of a request between its pool,
the queue and the controller goes with a change of the counters, and only what is in
a pool is freed.
-/
namespace Peripheral.UsbSerial
open UsbSerial Controller List

def within (a : Nat) (requests : List Request) : Nat := (requests.map Request.address).count a

def places (port : Port) (c : Controller) (a : Nat) : Nat :=
  within a port.readPool + within a port.readQueue + within a port.writePool + within a c.reading + within a c.writing

/-- The counters agree with the pools, and every request that is allocated is in one place. -/
structure Accounted (port : Port) (c : Controller) : Prop where
  reads : port.readStarted + port.readPool.length = port.readAllocated
  writes : port.writeStarted + port.writePool.length = port.writeAllocated
  readStarted : 0 ≤ port.readStarted ∧ port.readStarted ≤ queueSize
  writeStarted : 0 ≤ port.writeStarted ∧ port.writeStarted ≤ queueSize
  placed : ∀ a, places port c a = if a ∈ c.live then 1 else 0

structure Lane (pool flight : List Request) (started allocated : Int) : Prop where
  away : started = flight.length
  total : started + pool.length = allocated
  bound : started ≤ queueSize

structure Held (port : Port) (c : Controller) : Prop where
  reads : Lane port.readPool (port.readQueue ++ c.reading) port.readStarted port.readAllocated
  writes : Lane port.writePool c.writing port.writeStarted port.writeAllocated
  placed : ∀ a, places port c a = c.live.count a
  nodup : c.live.Nodup
  below : ∀ a ∈ c.live, a < c.fresh

theorem Held.accounted {port : Port} {c : Controller} (held : Held port c) : Accounted port c := by
  refine ⟨held.reads.total, held.writes.total, ⟨?_, held.reads.bound⟩, ⟨?_, held.writes.bound⟩, ?_⟩
  · rw [held.reads.away]
    exact Int.natCast_nonneg _
  · rw [held.writes.away]
    exact Int.natCast_nonneg _
  · intro a
    rw [held.placed]
    exact held.nodup.count

@[simp] theorem within_nil (a : Nat) : within a [] = 0 := rfl

@[simp] theorem within_append (a : Nat) (before after : List Request) :
    within a (before ++ after) = within a before + within a after := by simp [within]

@[simp] theorem within_cons (a : Nat) (req : Request) (requests : List Request) :
    within a (req :: requests) = within a requests + if req.address = a then 1 else 0 := by
  simp [within, count_cons]

namespace Lane
variable {pool flight : List Request} {started allocated : Int} {req req' : Request}

theorem submit (lane : Lane (req :: pool) flight started allocated) (room : ¬ started ≥ queueSize) {flight' : List Request}
    (longer : flight'.length = flight.length + 1) : Lane pool flight' (started + 1) allocated := by
  obtain ⟨starts, total, bound⟩ := lane
  rw [length_cons] at total
  exact ⟨by omega, by omega, by omega⟩

theorem complete (lane : Lane pool flight started allocated) {flight' : List Request}
    (shorter : flight.length = flight'.length + 1) : Lane (pool ++ [req]) flight' (started - 1) allocated := by
  obtain ⟨starts, total, bound⟩ := lane
  refine ⟨by omega, ?_, by omega⟩
  rw [length_append, length_singleton]
  omega

theorem rotate (lane : Lane (req :: pool) flight started allocated) : Lane (pool ++ [req']) flight started allocated := by
  refine ⟨lane.away, ?_, lane.bound⟩
  have total := lane.total
  simp only [length_append, length_cons, length_nil] at total ⊢
  omega

theorem alloc (lane : Lane pool flight started allocated) : Lane (pool ++ [req]) flight started (allocated + 1) := by
  refine ⟨lane.away, ?_, lane.bound⟩
  have total := lane.total
  simp only [length_append, length_cons, length_nil] at total ⊢
  omega

theorem free (lane : Lane (req :: pool) flight started allocated) : Lane pool flight started (allocated - 1) := by
  refine ⟨lane.away, ?_, lane.bound⟩
  have total := lane.total
  rw [length_cons] at total
  omega

end Lane

section
variable {port : Port} {c : Controller}

theorem Held.beside (held : Held port c) {acm locked writeBusy suspended startDelayed : Bool} {readFifo writeFifo : DataFifo}
    {asked : Nat} : Held { port with
      acm := acm, locked := locked, writeBusy := writeBusy, suspended := suspended, startDelayed := startDelayed,
      readFifo := readFifo, writeFifo := writeFifo } { c with asked := asked } :=
  ⟨held.reads, held.writes, held.placed, held.nodup, held.below⟩

/-- What a round of `UsbSerialStartTx` does: the fifo is empty, or its next bytes are refused or accepted. -/
inductive TxRound (maxIn : UInt16) (port : Port) (c : Controller) : Port → Controller → Prop
  | idle (empty : (port.writeFifo.read maxIn.toUInt32).1 = []) :
      TxRound maxIn port c { port with writeFifo := (port.writeFifo.read maxIn.toUInt32).2 } c
  | refused {req : Request} {pool : List Request} {bytes : List UInt8} (pooled : port.writePool = req :: pool)
      (next : bytes = (port.writeFifo.read maxIn.toUInt32).1) (some_ : bytes ≠ []) :
      TxRound maxIn port c
        { port with
          writeFifo := (port.writeFifo.read maxIn.toUInt32).2, writePool := pool ++ [{ req with buf := bytes }],
          writeBusy := false }
        { c with asked := c.asked + 1, writes := c.writes ++ [⟨bytes, false⟩] }
  | accepted {req : Request} {pool : List Request} {bytes : List UInt8} (pooled : port.writePool = req :: pool)
      (next : bytes = (port.writeFifo.read maxIn.toUInt32).1) (some_ : bytes ≠ [])
      (room : ¬ port.writeStarted ≥ queueSize) :
      TxRound maxIn port c
        { port with
          writeFifo := (port.writeFifo.read maxIn.toUInt32).2, writePool := pool, writeBusy := false,
          writeStarted := port.writeStarted + 1 }
        { c with asked := c.asked + 1, writes := c.writes ++ [⟨bytes, true⟩], writing := c.writing ++ [{ req with buf := bytes }] }

theorem startTx_rounds {maxIn : UInt16} {P : Port → Controller → Prop}
    (kept : ∀ {port c port' c'}, TxRound maxIn port c port' c' → P port c → P port' c') (rounds : Nat) (before : P port c) :
    P (startTx maxIn rounds port c).1 (startTx maxIn rounds port c).2 := by
  induction rounds generalizing port c with
  | zero => exact before
  | succ rounds ih =>
    unfold startTx
    cases pooled : port.writePool with
    | nil => exact before
    | cons req pool =>
      simp only
      split
      · exact before
      · rename_i free
        have room : ¬ port.writeStarted ≥ queueSize := by
          intro full
          simp [full] at free
        split
        · rename_i empty
          have after := kept (.idle empty) before
          rw [pooled] at after
          exact after
        · rename_i some_
          cases answer : c.answers c.asked with
          | false =>
            simp only [submitWrite, ask, answer, Bool.false_eq_true, if_false]
            exact kept (.refused pooled rfl some_) before
          | true =>
            simp only [submitWrite, ask, answer, if_true]
            exact ih (kept (.accepted pooled rfl some_ room) before)

theorem usbSerialStartTx_rounds {maxIn : UInt16} {P : Port → Controller → Prop}
    (kept : ∀ {port c port' c'}, TxRound maxIn port c port' c' → P port c → P port' c') (before : P port c) :
    P (usbSerialStartTx maxIn port c).1 (usbSerialStartTx maxIn port c).2 := by
  unfold usbSerialStartTx
  split
  · exact startTx_rounds kept _ before
  · exact before

variable {c' : Controller}

theorem Held.round {maxIn : UInt16} {port' : Port} (round : TxRound maxIn port c port' c')
    (held : Held port c) : Held port' c' := by
  cases round with
  | idle _ => exact held.beside
  | @refused req pool bytes pooled _ _ =>
    have lane := held.writes
    rw [pooled] at lane
    refine ⟨held.reads, lane.rotate, ?_, held.nodup, held.below⟩
    intro a
    have placed := held.placed a
    simp only [places, pooled, within_cons, within_append, within_nil] at placed ⊢
    omega
  | @accepted req pool bytes pooled _ _ room =>
    have lane := held.writes
    rw [pooled] at lane
    refine ⟨held.reads, lane.submit room (by simp), ?_, held.nodup, held.below⟩
    intro a
    have placed := held.placed a
    simp only [places, pooled, within_cons, within_append, within_nil] at placed ⊢
    omega

theorem Held.startTx (maxIn : UInt16) (held : Held port c) :
    Held (usbSerialStartTx maxIn port c).1 (usbSerialStartTx maxIn port c).2 := usbSerialStartTx_rounds Held.round held

theorem Held.startRx (rounds : Nat) (held : Held port c) : Held (startRx rounds port c).1 (startRx rounds port c).2 := by
  induction rounds generalizing port c with
  | zero => exact held
  | succ rounds ih =>
    unfold startRx
    cases pooled : port.readPool with
    | nil => exact held
    | cons req pool =>
      have lane := held.reads
      rw [pooled] at lane
      simp only
      split
      · exact held
      · rename_i room
        cases answer : c.answers c.asked with
        | false =>
          simp only [submitRead, ask, answer, Bool.false_eq_true, if_false]
          refine ⟨lane.rotate, held.writes, ?_, held.nodup, held.below⟩
          intro a
          have placed := held.placed a
          simp only [places, pooled, within_cons, within_append, within_nil] at placed ⊢
          omega
        | true =>
          simp only [submitRead, ask, answer, if_true]
          apply ih
          refine ⟨lane.submit room (by simp; omega), held.writes, ?_, held.nodup, held.below⟩
          intro a
          have placed := held.placed a
          simp only [places, pooled, within_cons, within_append, within_nil] at placed ⊢
          omega

theorem Held.usbSerialStartRx (held : Held port c) :
    Held (usbSerialStartRx port c).1 (usbSerialStartRx port c).2 := held.startRx _

theorem Held.rxPush (inFifo : Bool) {queue : List Request} (queued : port.readQueue = queue) (held : Held port c) :
    Held (rxPush inFifo queue port) c := by
  induction queue generalizing port with
  | nil => exact held
  | cons req queue ih =>
    refine ih rfl ?_
    have lane := held.reads
    rw [queued] at lane
    refine ⟨lane.complete rfl, held.writes, ?_, held.nodup, held.below⟩
    intro a
    have placed := held.placed a
    simp only [places, queued, within_cons, within_append, within_nil] at placed ⊢
    omega

theorem Held.usbSerialRxPush (inFifo : Bool) (held : Held port c) :
    Held (usbSerialRxPush inFifo port c).1 (usbSerialRxPush inFifo port c).2 := by
  have pushed := held.rxPush inFifo rfl
  unfold UsbSerial.usbSerialRxPush
  simp only
  split
  · exact pushed.usbSerialStartRx
  · exact pushed

structure Owned (pool : List Request) (others : Nat → Nat) (c : Controller) : Prop where
  placed : ∀ a, within a pool + others a = c.live.count a
  nodup : c.live.Nodup
  below : ∀ a ∈ c.live, a < c.fresh

variable {others : Nat → Nat}

theorem Owned.free {req : Request} {pool : List Request} (owned : Owned (req :: pool) others c) :
    Owned pool others (c.freeRequest req) := by
  refine ⟨?_, owned.nodup.erase _, fun a member => owned.below a (mem_of_mem_erase member)⟩
  intro a
  have placed := owned.placed a
  simp only [freeRequest, count_erase, ← placed, within_cons, beq_iff_eq]
  omega

theorem Owned.alloc {pool : List Request} (owned : Owned pool others c) :
    Owned (pool ++ [⟨c.fresh, [], .completed⟩]) others
      { c with asked := c.asked + 1, fresh := c.fresh + 1, live := c.fresh :: c.live } := by
  have absent : c.fresh ∉ c.live := fun member => Nat.lt_irrefl _ (owned.below _ member)
  refine ⟨?_, nodup_cons.mpr ⟨absent, owned.nodup⟩, ?_⟩
  · intro a
    have placed := owned.placed a
    simp only [within_append, within_cons, within_nil, count_cons, beq_iff_eq]
    omega
  · intro a member
    rcases mem_cons.mp member with rfl | before
    · exact Nat.lt_succ_self _
    · exact Nat.lt_succ_of_lt (owned.below a before)

theorem usbSerialFreeRequests_spec {pool flight : List Request} {started allocated : Int}
    (lane : Lane pool flight started allocated) (owned : Owned pool others c) :
    ∃ allocated' c', usbSerialFreeRequests pool allocated c = (allocated', c') ∧ Lane [] flight started allocated' ∧
      Owned [] others c' ∧ c'.reading = c.reading ∧ c'.writing = c.writing ∧ c'.writes = c.writes := by
  induction pool generalizing allocated c with
  | nil => exact ⟨allocated, c, rfl, lane, owned, rfl, rfl, rfl⟩
  | cons req pool ih => exact ih lane.free owned.free

theorem allocRequests_spec {pool flight : List Request} {started allocated : Int} (num : Nat)
    (lane : Lane pool flight started allocated) (owned : Owned pool others c) :
    ∃ there pool' allocated' c', allocRequests num pool allocated c = (there, pool', allocated', c') ∧
      Lane pool' flight started allocated' ∧ Owned pool' others c' ∧ c'.reading = c.reading ∧ c'.writing = c.writing ∧
      c'.writes = c.writes := by
  induction num generalizing pool allocated c with
  | zero => exact ⟨true, pool, allocated, c, rfl, lane, owned, rfl, rfl, rfl⟩
  | succ num ih =>
    unfold allocRequests
    cases answer : c.answers c.asked with
    | false =>
      simp only [allocRequest, ask, answer, Bool.false_eq_true, if_false]
      exact ⟨_, _, _, _, rfl, lane, ⟨owned.placed, owned.nodup, owned.below⟩, rfl, rfl, rfl⟩
    | true =>
      simp only [allocRequest, ask, answer, if_true]
      exact ih lane.alloc owned.alloc

section
variable (held : Held port c)
include held

theorem Held.readOwned : Owned port.readPool (fun a =>
    within a port.readQueue + within a port.writePool + within a c.reading + within a c.writing) c := by
  refine ⟨?_, held.nodup, held.below⟩
  intro a
  rw [← held.placed a, places]
  omega

theorem Held.writeOwned : Owned port.writePool (fun a =>
    within a port.readPool + within a port.readQueue + within a c.reading + within a c.writing) c := by
  refine ⟨?_, held.nodup, held.below⟩
  intro a
  rw [← held.placed a, places]
  omega

theorem Held.readPool {pool : List Request} {allocated : Int}
    (lane : Lane pool (port.readQueue ++ c.reading) port.readStarted allocated)
    (owned : Owned pool (fun a => within a port.readQueue + within a port.writePool + within a c.reading + within a c.writing) c')
    (reading : c'.reading = c.reading) (writing : c'.writing = c.writing) :
    Held { port with readPool := pool, readAllocated := allocated } c' := by
  refine ⟨by rw [reading]; exact lane, by rw [writing]; exact held.writes, ?_, owned.nodup, owned.below⟩
  intro a
  rw [← owned.placed a]
  simp only [places, reading, writing]
  omega

theorem Held.writePool {pool : List Request} {allocated : Int}
    (lane : Lane pool c.writing port.writeStarted allocated)
    (owned : Owned pool (fun a => within a port.readPool + within a port.readQueue + within a c.reading + within a c.writing) c')
    (reading : c'.reading = c.reading) (writing : c'.writing = c.writing) :
    Held { port with writePool := pool, writeAllocated := allocated } c' := by
  refine ⟨by rw [reading]; exact held.reads, by rw [writing]; exact lane, ?_, owned.nodup, owned.below⟩
  intro a
  rw [← owned.placed a]
  simp only [places, reading, writing]
  omega

theorem Held.freeRead : Held (freeReadRequests port c).1 (freeReadRequests port c).2 := by
  obtain ⟨allocated, c', freed, lane, owned, reading, writing, _⟩ := usbSerialFreeRequests_spec held.reads held.readOwned
  rw [freeReadRequests, freed]
  exact held.readPool lane owned reading writing

theorem Held.freeWrite : Held (freeWriteRequests port c).1 (freeWriteRequests port c).2 := by
  obtain ⟨allocated, c', freed, lane, owned, reading, writing, _⟩ := usbSerialFreeRequests_spec held.writes held.writeOwned
  rw [freeWriteRequests, freed]
  exact held.writePool lane owned reading writing

end

theorem Held.allocRead (num : Nat) (held : Held port c) :
    Held (usbSerialAllocReadRequests port num c).2.1 (usbSerialAllocReadRequests port num c).2.2 := by
  obtain ⟨there, pool, allocated, c', made, lane, owned, reading, writing, _⟩ :=
    allocRequests_spec num held.reads held.readOwned
  rw [usbSerialAllocReadRequests, made]
  exact held.readPool lane owned reading writing

theorem Held.allocWrite (num : Nat) (held : Held port c) :
    Held (usbSerialAllocWriteRequests port num c).2.1 (usbSerialAllocWriteRequests port num c).2.2 := by
  obtain ⟨there, pool, allocated, c', made, lane, owned, reading, writing, _⟩ :=
    allocRequests_spec num held.writes held.writeOwned
  rw [usbSerialAllocWriteRequests, made]
  exact held.writePool lane owned reading writing

theorem Held.ensureReads (held : Held port c) : Held (ensureReads port c).2.1 (ensureReads port c).2.2 := by
  unfold UsbSerial.ensureReads
  split
  · exact held.allocRead _
  · exact held

theorem Held.ensureWrites (held : Held port c) : Held (ensureWrites port c).2.1 (ensureWrites port c).2.2 := by
  unfold UsbSerial.ensureWrites
  split
  · exact held.allocWrite _
  · exact held

theorem Held.fifo (held : Held port c) (fifo : DataFifo) (size : UInt32) : Held port (usbSerialAllocFifo fifo size c).2.2 := by
  unfold usbSerialAllocFifo
  split
  · exact held
  · cases answer : c.answers c.asked with
    | false =>
      simp only [ask, answer]
      exact held.beside
    | true =>
      simp only [ask, answer]
      exact held.beside

theorem Held.allocFifos (held : Held port c) : Held (allocFifos port c).2.1 (allocFifos port c).2.2 := by
  have first := held.fifo port.writeFifo writeBufSize
  unfold UsbSerial.allocFifos
  split
  · rename_i failed
    rw [failed] at first
    exact first.beside
  · rename_i there
    rw [there] at first
    have second := first.fifo port.readFifo readBufSize
    exact second.beside

end

/-! ### What the handlers are made of -/

/-- A property that the parts keep from which `UsbSerialStartIo` and the handlers that call it are put together. -/
structure Keeps (maxIn : UInt16) (P : Port → Controller → Prop) : Prop where
  flags : ∀ {port c}, P port c → ∀ acm suspended startDelayed locked, P { port with
    acm := acm, suspended := suspended, startDelayed := startDelayed, locked := locked } c
  fifos : ∀ {port c}, P port c → P (allocFifos port c).2.1 (allocFifos port c).2.2
  reads : ∀ {port c}, P port c → P (ensureReads port c).2.1 (ensureReads port c).2.2
  writes : ∀ {port c}, P port c → P (ensureWrites port c).2.1 (ensureWrites port c).2.2
  rx : ∀ {port c}, P port c → P (usbSerialStartRx port c).1 (usbSerialStartRx port c).2
  tx : ∀ {port c}, P port c → P (usbSerialStartTx maxIn port c).1 (usbSerialStartTx maxIn port c).2
  freeRead : ∀ {port c}, P port c → P (freeReadRequests port c).1 (freeReadRequests port c).2
  freeWrite : ∀ {port c}, P port c → P (freeWriteRequests port c).1 (freeWriteRequests port c).2

namespace Keeps
variable {maxIn : UInt16} {P : Port → Controller → Prop} {port : Port} {c : Controller}

theorem startAllocated (keeps : Keeps maxIn P) (before : P port c) :
    P (startAllocated maxIn port c).2.1 (startAllocated maxIn port c).2.2 := by
  unfold UsbSerial.startAllocated
  simp only
  split
  · exact keeps.tx (keeps.rx before)
  · exact keeps.freeWrite (keeps.freeRead (keeps.rx before))

theorem startIo (keeps : Keeps maxIn P) (before : P port c) :
    P (usbSerialStartIo maxIn port c).2.1 (usbSerialStartIo maxIn port c).2.2 := by
  have reads := keeps.reads before
  unfold usbSerialStartIo
  split
  · rename_i failed
    rw [failed] at reads
    exact reads
  · rename_i there
    rw [there] at reads
    have writes := keeps.writes reads
    split
    · rename_i failed
      rw [failed] at writes
      exact keeps.freeRead writes
    · rename_i both
      rw [both] at writes
      exact keeps.startAllocated writes

variable {g : Gadget}

theorem acmEnable (keeps : Keeps g.maxIn P) (before : P g.port g.controller) :
    P (acmEnable g).port (acmEnable g).controller := by
  have fifos := keeps.fifos (keeps.flags before true g.port.suspended g.port.startDelayed g.port.locked)
  unfold UsbSerial.acmEnable
  split
  · rename_i failed
    rw [failed] at fifos
    exact keeps.flags fifos _ _ _ true
  · rename_i there
    rw [there] at fifos
    exact keeps.startIo fifos

theorem acmResume (keeps : Keeps g.maxIn P) (before : P g.port g.controller) :
    P (acmResume g).port (acmResume g).controller := by
  have resumed := keeps.flags before g.port.acm false g.port.startDelayed g.port.locked
  unfold UsbSerial.acmResume
  simp only
  split
  · exact resumed
  · exact keeps.flags (keeps.startIo resumed) _ _ false _

theorem usbSerialOpen (keeps : Keeps g.maxIn P) (before : P g.port g.controller) :
    P (usbSerialOpen g).port (usbSerialOpen g).controller := by
  have fifos := keeps.fifos before
  unfold UsbSerial.usbSerialOpen
  simp only
  split
  · rename_i failed
    rw [failed] at fifos
    exact fifos
  · rename_i there
    rw [there] at fifos
    split
    · exact fifos
    · split
      · exact keeps.flags fifos _ _ true _
      · exact keeps.startIo fifos

end Keeps

abbrev Gadget.Held (g : Gadget) : Prop := UsbSerial.Held g.port g.controller

section
variable {g : Gadget}

section
variable (held : g.Held)
include held

end

end

theorem start_held (maxIn : UInt16) (inFifo : Bool) (answers : Nat → Bool) : (Gadget.start maxIn inFifo answers).Held :=
  ⟨⟨rfl, rfl, by simp [Gadget.start, queueSize]⟩, ⟨rfl, rfl, by simp [Gadget.start, queueSize]⟩, fun _ => rfl, nodup_nil,
    by simp [Gadget.start]⟩

end Peripheral.UsbSerial
