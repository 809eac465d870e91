import Peripheral.DataFifoRuns
import Peripheral.UsbEcm
import Peripheral.UsbSerialRequests

/-!
The life of the network port. The opens that are not closed yet are counted beside it, and whether the function is enabled.
A read that reports that the device is gone is not followed by another one, and the function stays enabled.
-/
namespace Peripheral.UsbEcm
open Transitions UsbEcm DataFifo
open UsbSerial (Request RequestStatus Lane)

/-- The port, whether its function is enabled, and the successful opens that are not closed. -/
structure Watch where
  port : Port
  enabled : Bool
  opened : Nat

def Watch.start (maxIn : UInt16) : Watch := ⟨.start maxIn, false, 0⟩

def step (w : Watch) (e : Event) : Watch where
  port := w.port.handle e
  enabled :=
    match e with
    | .enable _ => true
    | .disable => false
    | _ => w.enabled
  opened :=
    match e with
    | .openPort a => if (usbEcmOpen a w.port).1 = .success then w.opened + 1 else w.opened
    | .closePort => w.opened - 1
    | _ => w.opened

/-- Without memory nothing is moved. -/
def Touch.Right (touch : Touch) : Prop := touch.memory ∨ touch.bytes = 0

structure Right (w : Watch) (e : Event) : Prop where
  count : (step w e).port.refCount.toInt = (step w e).opened
  opens : ∀ a, e = .openPort a → (usbEcmOpen a w.port).1 = .success →
    hasMemory (step w e).port.writeFifo ∧ hasMemory (step w e).port.readFifo ∧
      if w.enabled then (step w e).port.reading ≠ [] else 0 < (step w e).port.refCount.toInt
  touches : ∀ touch ∈ (step w e).port.touches, touch.Right
  reads : (step w e).enabled → 0 < (step w e).port.refCount.toInt → (step w e).port.reading ≠ [] ∨ (step w e).port.failed

/-- Enough is answered for the reads to be started. -/
def Starts (a : Answers) (port : Port) : Prop :=
  (port.readAllocated ≠ 0 ∨ a.allocRead 0) ∧ (port.writeAllocated ≠ 0 ∨ a.allocWrite 0) ∧ (port.reading ≠ [] ∨ a.submitRead 0)

/-- There is memory for the fifos of an open; where the function is enabled, the first open starts the reads, and a further one
    finds them started. Only what is open is closed. The last read in flight of an open port does not report that the device is gone
    while the function is enabled, unless the last start failed. -/
def Fine (w : Watch) : Event → Prop
  | .openPort a =>
    (w.port.writeFifo.isInitialized ∨ a.writeFifo) ∧ (w.port.readFifo.isInitialized ∨ a.readFifo) ∧ w.opened + 1 < 2 ^ 31 ∧
      (w.enabled → if w.opened = 0 then Starts a w.port else w.port.reading ≠ [])
  | .closePort => w.opened ≠ 0
  | .readComplete address .noDevice _ _ =>
    w.enabled → w.opened ≠ 0 → w.port.reading.map (·.address) ≠ [address] ∨ w.port.failed
  | _ => True

/-- A fifo has memory exactly if it has a size, and without it holds nothing. -/
structure Kept (fifo : DataFifo) : Prop where
  memory : fifo.data = [] ↔ fifo.size = 0
  empty : fifo.size = 0 → fifo.len = 0

section
variable {fifo : DataFifo}

theorem Kept.hasMemory_iff (kept : Kept fifo) : hasMemory fifo ↔ fifo.size ≠ 0 := by simp [hasMemory, kept.memory]

theorem kept_init_zero : Kept (.init 0 []) := ⟨by simp [init], fun _ => rfl⟩

theorem kept_init {size : UInt32} (some_ : size ≠ 0) : Kept (.init size (List.replicate size.toNat 0)) := by
  refine ⟨?_, fun zero => absurd zero some_⟩
  simp [init, ← UInt32.toNat_inj]

theorem Kept.reset (kept : Kept fifo) : Kept fifo.reset := ⟨kept.memory, fun _ => by simp [DataFifo.reset, DataFifo.len]⟩

theorem foldl_put (bytes : List UInt8) (fifo : DataFifo) : (bytes.foldl put fifo).size = fifo.size ∧
    ((bytes.foldl put fifo).data = [] ↔ fifo.data = []) := by
  induction bytes generalizing fifo with
  | nil => exact ⟨rfl, Iff.rfl⟩
  | cons byte rest ih =>
    obtain ⟨size, data⟩ := ih (fifo.put byte)
    exact ⟨size, data.trans (by simp [put])⟩

theorem Kept.write (kept : Kept fifo) (data : List UInt8) (size : UInt32) :
    Kept (fifo.write data size).2 ∧ (fifo.write data size).2.size = fifo.size ∧
      Touch.Right ⟨hasMemory fifo, (fifo.write data size).1.toNat⟩ := by
  obtain ⟨same, memory⟩ := foldl_put (data.take (fifo.write data size).1.toNat) fifo
  change (fifo.write data size).2.size = fifo.size at same
  change (fifo.write data size).2.data = [] ↔ fifo.data = [] at memory
  by_cases zero : fifo.size = 0
  · have nothing : (fifo.write data size).1 = 0 := by simp [DataFifo.write, DataFifo.availSize, zero, kept.empty zero]
    have alike : (fifo.write data size).2 = fifo := by
      change (data.take (fifo.write data size).1.toNat).foldl put fifo = fifo
      rw [nothing]
      rfl
    rw [alike, nothing]
    exact ⟨kept, rfl, .inr rfl⟩
  · refine ⟨⟨memory.trans (by rw [kept.memory, same]), fun none => absurd (same.symm.trans none) zero⟩, same, .inl ?_⟩
    exact kept.hasMemory_iff.mpr zero

theorem take_length (fifo : DataFifo) (n : Nat) : (fifo.take n).1.length = n := by
  induction n generalizing fifo with
  | zero => rfl
  | succ n ih =>
    rw [take]
    exact congrArg (· + 1) (ih _)

theorem Kept.read (kept : Kept fifo) (size : UInt32) : Kept (fifo.read size).2 ∧ (fifo.read size).2.size = fifo.size ∧
      Touch.Right ⟨hasMemory fifo, (fifo.read size).1.length⟩ := by
  rw [DataFifo.read, DataFifo.take_snd, take_length]
  by_cases zero : fifo.size = 0
  · have nothing : (if size < fifo.len then size else fifo.len) = 0 := by simp [kept.empty zero]
    rw [nothing]
    exact ⟨by simpa [skip] using kept, rfl, .inr rfl⟩
  · exact ⟨⟨kept.memory, fun none => absurd none zero⟩, rfl, .inl (kept.hasMemory_iff.mpr zero)⟩

theorem Kept.room (kept : Kept fifo) (size : UInt32) : Kept (if fifo.isFull then fifo.skip size else fifo) ∧
    (if fifo.isFull then fifo.skip size else fifo).size = fifo.size ∧
    hasMemory (if fifo.isFull then fifo.skip size else fifo) = hasMemory fifo := by
  by_cases full : fifo.isFull
  · rw [if_pos full]
    refine ⟨⟨kept.memory, fun zero => ?_⟩, rfl, rfl⟩
    change fifo.size = 0 at zero
    simp [isFull, kept.empty zero, zero] at full
  · rw [if_neg full]
    exact ⟨kept, rfl, rfl⟩

theorem Kept.pushBytes (kept : Kept fifo) (req : Request) :
    Kept (pushBytes fifo req).2 ∧ (pushBytes fifo req).2.size = fifo.size ∧
      Touch.Right ⟨hasMemory fifo, (pushBytes fifo req).1.toNat⟩ := by
  obtain ⟨kept', size, memory⟩ := kept.room (UInt32.ofNat req.buf.length)
  obtain ⟨written, size', touch⟩ := kept'.write req.buf (UInt32.ofNat req.buf.length)
  exact ⟨written, size'.trans size, memory ▸ touch⟩

theorem allocFifo_cases (kept : Kept fifo) {size : UInt32} (some_ : size ≠ 0) (alloc : Bool) :
    (fifo.isInitialized ∨ alloc) ∧ (∃ fifo', usbEcmAllocFifo fifo size alloc = (.success, fifo') ∧ Kept fifo' ∧ fifo'.size ≠ 0) ∨
      ¬(fifo.isInitialized ∨ alloc) ∧ usbEcmAllocFifo fifo size alloc = (.mallocFail, fifo) ∧ ¬hasMemory fifo := by
  rw [kept.hasMemory_iff, usbEcmAllocFifo]
  by_cases there : fifo.size = 0
  · cases alloc with
    | false => simp [isInitialized, there]
    | true => exact .inl ⟨.inr rfl, _, by simp [isInitialized, there], kept_init some_, some_⟩
  · exact .inl ⟨.inl (by simpa [isInitialized] using there), fifo, by simp [isInitialized, there], kept, there⟩

end

structure Held (port : Port) : Prop where
  reads : Lane port.readPool (port.readQueue ++ port.reading) port.readStarted port.readAllocated
  writes : Lane port.writePool port.writing port.writeStarted port.writeAllocated
  readFifo : Kept port.readFifo
  writeFifo : Kept port.writeFifo
  touches : ∀ touch ∈ port.touches, touch.Right

/-- What transfers leave alone. -/
structure Same (s t : Port) : Prop where
  ecm : t.ecm = s.ecm
  refCount : t.refCount = s.refCount
  readSize : t.readFifo.size = s.readFifo.size
  writeSize : t.writeFifo.size = s.writeFifo.size
  readQueue : t.readQueue = s.readQueue

structure SameReads (s t : Port) : Prop extends Same s t where
  readPool : t.readPool = s.readPool
  reading : t.reading = s.reading
  readStarted : t.readStarted = s.readStarted
  readAllocated : t.readAllocated = s.readAllocated
  writeAllocated : t.writeAllocated = s.writeAllocated
  failed : t.failed = s.failed

theorem Same.refl (s : Port) : Same s s := ⟨rfl, rfl, rfl, rfl, rfl⟩

variable {s t u : Port}

theorem Same.trans (first : Same s t) (next : Same t u) : Same s u :=
  ⟨next.ecm.trans first.ecm, next.refCount.trans first.refCount, next.readSize.trans first.readSize,
    next.writeSize.trans first.writeSize, next.readQueue.trans first.readQueue⟩

theorem SameReads.refl (s : Port) : SameReads s s := ⟨.refl s, rfl, rfl, rfl, rfl, rfl, rfl⟩

theorem SameReads.trans (first : SameReads s t) (next : SameReads t u) : SameReads s u :=
  ⟨first.toSame.trans next.toSame, next.readPool.trans first.readPool, next.reading.trans first.reading,
    next.readStarted.trans first.readStarted, next.readAllocated.trans first.readAllocated,
    next.writeAllocated.trans first.writeAllocated, next.failed.trans first.failed⟩

section
variable {port : Port}

theorem touches_snoc (touches : ∀ touch ∈ port.touches, touch.Right) {touch : Touch} (right : touch.Right) :
    ∀ t ∈ port.touches ++ [touch], t.Right := by
  intro t member
  rcases List.mem_append.mp member with old | new
  · exact touches t old
  · exact List.mem_singleton.mp new ▸ right

theorem Held.startTx (held : Held port) (a : Answers) (rounds i : Nat) :
    Held (startTx a rounds i port) ∧ SameReads port (startTx a rounds i port) := by
  induction rounds generalizing port i with
  | zero => exact ⟨held, .refl port⟩
  | succ rounds ih =>
    unfold startTx
    cases pooled : port.writePool with
    | nil => exact ⟨held, .refl port⟩
    | cons req pool =>
      have lane := held.writes
      rw [pooled] at lane
      obtain ⟨kept, size, right⟩ := held.writeFifo.read port.maxIn.toUInt32
      have touches := touches_snoc held.touches right
      simp only
      split
      · exact ⟨held, .refl port⟩
      · rename_i free
        have room : ¬port.writeStarted ≥ UsbSerial.queueSize := by
          intro full
          exact free (by simpa using .inr full)
        split
        · exact ⟨⟨held.reads, lane, held.readFifo, kept, touches⟩, ⟨rfl, rfl, rfl, size, rfl⟩, rfl, rfl, rfl, rfl, rfl, rfl⟩
        · cases a.submitWrite i with
          | false =>
            exact ⟨⟨held.reads, lane.rotate, held.readFifo, kept, touches⟩, ⟨rfl, rfl, rfl, size, rfl⟩, rfl, rfl, rfl, rfl, rfl, rfl⟩
          | true =>
            simp only [Bool.not_true, Bool.false_eq_true, if_false]
            have submitted : Held { port with
                writeFifo := (port.writeFifo.read port.maxIn.toUInt32).2
                touches := port.touches ++ [⟨hasMemory port.writeFifo, (port.writeFifo.read port.maxIn.toUInt32).1.length⟩]
                writePool := pool, writeBusy := false, writeStarted := port.writeStarted + 1
                writing := port.writing ++ [{ req with buf := (port.writeFifo.read port.maxIn.toUInt32).1 }] } :=
              ⟨held.reads, lane.submit room (by simp), held.readFifo, kept, touches⟩
            obtain ⟨held', same⟩ := ih submitted (i + 1)
            refine ⟨held', SameReads.trans ?_ same⟩
            exact ⟨⟨rfl, rfl, rfl, size, rfl⟩, rfl, rfl, rfl, rfl, rfl, rfl⟩

theorem Held.usbEcmStartTx (held : Held port) (a : Answers) :
    Held (usbEcmStartTx a port) ∧ SameReads port (usbEcmStartTx a port) := by
  unfold UsbEcm.usbEcmStartTx
  split
  · exact held.startTx a _ 0
  · exact ⟨held, .refl port⟩

structure StartsReads (s t : Port) : Prop extends Same s t where
  readAllocated : t.readAllocated = s.readAllocated
  writeAllocated : t.writeAllocated = s.writeAllocated
  reading : s.reading ≠ [] → t.reading ≠ []

theorem Held.startRx (held : Held port) (a : Answers) (rounds i : Nat) :
    Held (startRx a rounds i port) ∧ StartsReads port (startRx a rounds i port) := by
  induction rounds generalizing port i with
  | zero => exact ⟨held, .refl port, rfl, rfl, id⟩
  | succ rounds ih =>
    unfold startRx
    cases pooled : port.readPool with
    | nil => exact ⟨held, .refl port, rfl, rfl, id⟩
    | cons req pool =>
      have lane := held.reads
      rw [pooled] at lane
      simp only
      split
      · exact ⟨held, .refl port, rfl, rfl, id⟩
      · rename_i room
        cases a.submitRead i with
        | false =>
          exact ⟨⟨lane.rotate, held.writes, held.readFifo, held.writeFifo, held.touches⟩, ⟨rfl, rfl, rfl, rfl, rfl⟩, rfl, rfl, id⟩
        | true =>
          simp only [Bool.not_true, Bool.false_eq_true, if_false]
          have submitted : Held { port with
              readPool := pool, readStarted := port.readStarted + 1, reading := port.reading ++ [req] } :=
            ⟨lane.submit room (by simp; omega), held.writes, held.readFifo, held.writeFifo, held.touches⟩
          obtain ⟨held', same⟩ := ih submitted (i + 1)
          refine ⟨held', Same.trans ?_ same.toSame, same.readAllocated, same.writeAllocated, fun _ => same.reading (by simp)⟩
          exact ⟨rfl, rfl, rfl, rfl, rfl⟩

/-- Reads are in flight then if they were, or if there is one and the first is accepted; if not, that is reported. -/
theorem Held.usbEcmStartRx (held : Held port) (queue : port.readQueue = []) (a : Answers) :
    Held (usbEcmStartRx a port) ∧ StartsReads port (usbEcmStartRx a port) ∧
      ((usbEcmStartRx a port).readStarted ≠ 0 ↔ (usbEcmStartRx a port).reading ≠ []) ∧
      (usbEcmStartRx a port).failed = ((usbEcmStartRx a port).readStarted = 0 : Bool) ∧
      (port.readAllocated ≠ 0 → ((usbEcmStartRx a port).reading ≠ [] ↔ port.reading ≠ [] ∨ a.submitRead 0)) := by
  obtain ⟨held', same⟩ := held.startRx a port.readPool.length 0
  have counts := held'.reads.away
  rw [same.readQueue, queue, List.nil_append] at counts
  refine ⟨⟨held'.reads, held'.writes, held'.readFifo, held'.writeFifo, held'.touches⟩, ⟨⟨same.ecm, same.refCount, same.readSize,
    same.writeSize, same.readQueue⟩, same.readAllocated, same.writeAllocated, same.reading⟩, ?_, rfl, fun allocated => ?_⟩
  · change (UsbEcm.startRx a port.readPool.length 0 port).readStarted ≠ 0 ↔ (UsbEcm.startRx a port.readPool.length 0 port).reading ≠ []
    rw [counts]
    simp
  · change (UsbEcm.startRx a port.readPool.length 0 port).reading ≠ [] ↔ _
    by_cases none : port.reading = []
    · have total := held.reads.total
      have away := held.reads.away
      rw [queue, none] at away
      change port.readStarted = 0 at away
      cases pooled : port.readPool with
      | nil =>
        rw [away, pooled] at total
        exact absurd total.symm allocated
      | cons req pool =>
        have room : ¬port.readStarted ≥ queueSize := by
          rw [away]
          decide
        have lane := held.reads
        rw [pooled] at lane
        simp only [List.length_cons, UsbEcm.startRx, pooled, room, if_false]
        cases a.submitRead 0 with
        | false => simp [none]
        | true =>
          simp only [Bool.not_true, Bool.false_eq_true, if_false, or_true, iff_true]
          have submitted : Held { port with
              readPool := pool, readStarted := port.readStarted + 1, reading := port.reading ++ [req] } :=
            ⟨lane.submit room (by simp; omega), held.writes, held.readFifo, held.writeFifo, held.touches⟩
          exact (submitted.startRx a pool.length 1).2.reading (by simp)
    · exact iff_of_true (same.reading none) (.inl none)

theorem Held.push (held : Held port) (req : Request) : Held (push req port) ∧ SameReads port (UsbEcm.push req port) := by
  unfold UsbEcm.push
  split
  · obtain ⟨kept, size, right⟩ := held.readFifo.pushBytes req
    exact ⟨⟨held.reads, held.writes, kept, held.writeFifo, touches_snoc held.touches right⟩, ⟨rfl, rfl, size, rfl, rfl⟩,
      rfl, rfl, rfl, rfl, rfl, rfl⟩
  · exact ⟨held, .refl port⟩

theorem freeRequests_eq (head : List Request) (allocated : Int) : usbEcmFreeRequests head allocated = allocated - head.length := by
  induction head generalizing allocated with
  | nil => simp [usbEcmFreeRequests]
  | cons req rest ih =>
    rw [usbEcmFreeRequests, ih, List.length_cons]
    omega

theorem lane_freed {pool flight : List Request} {started allocated : Int} (lane : Lane pool flight started allocated) :
    Lane [] flight started (usbEcmFreeRequests pool allocated) := by
  refine ⟨lane.away, ?_, lane.bound⟩
  rw [freeRequests_eq, ← lane.total]
  simp

theorem Held.freeReads (held : Held port) : Held (freeReadRequests port) :=
  ⟨lane_freed held.reads, held.writes, held.readFifo, held.writeFifo, held.touches⟩

theorem Held.freeWrites (held : Held port) : Held (freeWriteRequests port) :=
  ⟨held.reads, lane_freed held.writes, held.readFifo, held.writeFifo, held.touches⟩

theorem freed_started (held : Held port) : (freeReadRequests port).readAllocated = port.readStarted := by
  have total := held.reads.total
  simp only [freeReadRequests, freeRequests_eq]
  omega

variable {started : Int}

theorem lane_none {pool flight : List Request} (lane : Lane pool flight started 0) : pool = [] ∧ flight = [] := by
  have total := lane.total
  rw [lane.away] at total
  exact ⟨List.length_eq_zero_iff.mp (by omega), List.length_eq_zero_iff.mp (by omega)⟩

theorem allocRequests_lane {flight : List Request} (alloc : Nat → Bool) (num i fresh : Nat) {head : List Request}
    {allocated : Int} (lane : Lane head flight started allocated) :
    Lane (allocRequests alloc num i head allocated fresh).2.1 flight started (allocRequests alloc num i head allocated fresh).2.2.1 := by
  induction num generalizing i head allocated fresh with
  | zero => exact lane
  | succ num ih =>
    rw [allocRequests]
    split
    · exact lane
    · exact ih _ _ lane.alloc

theorem allocRequests_some (alloc : Nat → Bool) (num i fresh : Nat) {head : List Request} (allocated : Int) (some_ : head ≠ []) :
    (allocRequests alloc num i head allocated fresh).1 = .success ∧ (allocRequests alloc num i head allocated fresh).2.1 ≠ [] := by
  induction num generalizing i head allocated fresh with
  | zero => exact ⟨rfl, some_⟩
  | succ num ih =>
    rw [allocRequests]
    split
    · exact ⟨by simp, some_⟩
    · exact ih _ _ _ (by simp)

theorem allocRequests_first {flight : List Request} (alloc : Nat → Bool) (num fresh : Nat) (lane : Lane [] flight started 0) :
    alloc 0 ∧ (∃ head allocated fresh', allocRequests alloc (num + 1) 0 [] 0 fresh = (.success, head, allocated, fresh') ∧
        Lane head flight started allocated ∧ allocated ≠ 0) ∨
      ¬alloc 0 ∧ allocRequests alloc (num + 1) 0 [] 0 fresh = (.failure, [], 0, fresh) := by
  cases first : alloc 0 with
  | false => exact .inr ⟨Bool.false_ne_true, by simp [allocRequests, first]⟩
  | true =>
    have kept := allocRequests_lane alloc num 1 (fresh + 1) (lane.alloc : Lane ([] ++ [⟨fresh, [], .completed⟩]) flight started _)
    have some_ : [] ++ [(⟨fresh, [], .completed⟩ : Request)] ≠ [] := by simp
    obtain ⟨success, some_⟩ := allocRequests_some alloc num 1 (fresh + 1) (0 + 1) some_
    obtain ⟨⟨ret, head, allocated, fresh'⟩, run⟩ :
        ∃ r, allocRequests alloc num 1 ([] ++ [⟨fresh, [], .completed⟩]) (0 + 1) (fresh + 1) = r := ⟨_, rfl⟩
    rw [run] at kept success some_
    simp only at kept success some_
    refine .inl ⟨rfl, head, allocated, fresh', ?_, kept, fun none => ?_⟩
    · rw [allocRequests, if_neg (by simp [first]), run, success]
    · rw [none] at kept
      exact some_ (lane_none kept).1

theorem ensureReads_cases (held : Held port) (queue : port.readQueue = []) (a : Answers) :
    (port.readAllocated ≠ 0 ∨ a.allocRead 0) ∧ (∃ t, ensureReads a port = (.success, t) ∧ Held t ∧ Same port t ∧
        t.reading = port.reading ∧ t.readAllocated ≠ 0 ∧ t.writeAllocated = port.writeAllocated) ∨
      ¬(port.readAllocated ≠ 0 ∨ a.allocRead 0) ∧ ensureReads a port = (.failure, port) ∧ port.reading = [] := by
  by_cases zero : port.readAllocated = 0
  · have lane := held.reads
    rw [zero] at lane
    have none := lane_none lane
    rw [queue, List.nil_append] at none
    rw [none.1] at lane
    rcases allocRequests_first a.allocRead 7 port.fresh lane with ⟨first, head, allocated, fresh, run, lane', some_⟩ | ⟨first, run⟩
    · have is : ensureReads a port = (.success, { port with readPool := head, readAllocated := allocated, fresh := fresh }) := by
        rw [ensureReads, if_pos zero, usbEcmAllocReadRequests, none.1, zero, show queueSize.toNat = 7 + 1 from rfl, run]
      refine .inl ⟨.inr first, _, is, ?_, ⟨rfl, rfl, rfl, rfl, rfl⟩, rfl, some_, rfl⟩
      exact ⟨lane', held.writes, held.readFifo, held.writeFifo, held.touches⟩
    · refine .inr ⟨by simpa [zero] using first, ?_, none.2⟩
      rw [ensureReads, if_pos zero, usbEcmAllocReadRequests, none.1, zero, show queueSize.toNat = 7 + 1 from rfl, run]
      simp only [← none.1, ← zero]
  · exact .inl ⟨.inl zero, port, by rw [ensureReads, if_neg zero], held, .refl port, rfl, zero, rfl⟩

theorem ensureWrites_cases (held : Held port) (a : Answers) :
    (port.writeAllocated ≠ 0 ∨ a.allocWrite 0) ∧ (∃ t, ensureWrites a port = (.success, t) ∧ Held t ∧ Same port t ∧
        t.reading = port.reading ∧ t.readAllocated = port.readAllocated ∧ t.writeAllocated ≠ 0) ∨
      ¬(port.writeAllocated ≠ 0 ∨ a.allocWrite 0) ∧ ensureWrites a port = (.failure, port) := by
  by_cases zero : port.writeAllocated = 0
  · have lane := held.writes
    rw [zero] at lane
    have none := (lane_none lane).1
    rw [none] at lane
    rcases allocRequests_first a.allocWrite 7 port.fresh lane with ⟨first, head, allocated, fresh, run, lane', some_⟩ | ⟨first, run⟩
    · have is : ensureWrites a port = (.success, { port with writePool := head, writeAllocated := allocated, fresh := fresh }) := by
        rw [ensureWrites, if_pos zero, usbEcmAllocWriteRequests, none, zero, show queueSize.toNat = 7 + 1 from rfl, run]
      refine .inl ⟨.inr first, _, is, ?_, ⟨rfl, rfl, rfl, rfl, rfl⟩, rfl, rfl, some_⟩
      exact ⟨held.reads, lane', held.readFifo, held.writeFifo, held.touches⟩
    · refine .inr ⟨by simpa [zero] using first, ?_⟩
      rw [ensureWrites, if_pos zero, usbEcmAllocWriteRequests, none, zero, show queueSize.toNat = 7 + 1 from rfl, run]
      simp only [← none, ← zero]
  · exact .inl ⟨.inl zero, port, by rw [ensureWrites, if_neg zero], held, .refl port, rfl, rfl, zero⟩

/-- The port between two events. -/
structure Good (port : Port) : Prop where
  held : Held port
  queue : port.readQueue = []
  both : port.readAllocated ≠ 0 → port.writeAllocated ≠ 0

theorem Good.startIo (good : Good port) (a : Answers) :
    Good (startIo a port).2 ∧ Same port (startIo a port).2 ∧ ((startIo a port).1 = .success ↔ Starts a port) ∧
      ((startIo a port).2.reading ≠ [] ↔ Starts a port) := by
  rw [UsbEcm.startIo]
  rcases ensureReads_cases good.held good.queue a with ⟨allocates, t, run, held, same, reading, some_, writes⟩ | ⟨fails, run, none⟩
  · rw [run]
    simp only
    rcases ensureWrites_cases held a with ⟨allocates', u, run', held', same', reading', reads', some'⟩ | ⟨fails', run'⟩
    · rw [run']
      rw [writes] at allocates'
      simp only [startAllocated]
      have queue : u.readQueue = [] := by rw [same'.readQueue, same.readQueue, good.queue]
      obtain ⟨held'', starts, counted, -, first⟩ := held'.usbEcmStartRx queue a
      have iff := first (reads'.symm ▸ some_)
      rw [reading', reading] at iff
      by_cases started : (usbEcmStartRx a u).readStarted ≠ 0
      · obtain ⟨done, sames⟩ := held''.usbEcmStartTx a
        have inFlight := counted.mp started
        rw [if_pos started]
        refine ⟨⟨done, ?_, ?_⟩, (same.trans same').trans (starts.toSame.trans sames.toSame), ?_, ?_⟩
        · rw [sames.readQueue, starts.readQueue, queue]
        · rw [sames.writeAllocated, starts.writeAllocated]
          exact fun _ => some'
        · exact iff_of_true rfl ⟨allocates, allocates', iff.mp inFlight⟩
        · rw [sames.reading]
          exact iff_of_true inFlight ⟨allocates, allocates', iff.mp inFlight⟩
      · have nothing : ¬(usbEcmStartRx a u).reading ≠ [] := fun inFlight => started (counted.mpr inFlight)
        rw [if_neg started]
        refine ⟨⟨held''.freeReads.freeWrites, ?_, fun reads => ?_⟩, ?_, ?_, ?_⟩
        · change (usbEcmStartRx a u).readQueue = []
          rw [starts.readQueue, queue]
        · change (freeReadRequests (usbEcmStartRx a u)).readAllocated ≠ 0 at reads
          rw [freed_started held''] at reads
          exact absurd reads started
        · exact (same.trans same').trans ⟨starts.ecm, starts.refCount, starts.readSize, starts.writeSize, starts.readQueue⟩
        · exact iff_of_false (by simp) fun all => nothing (iff.mpr all.2.2)
        · exact iff_of_false nothing fun all => nothing (iff.mpr all.2.2)
    · rw [run']
      rw [writes] at fails'
      simp only [not_or, not_not] at fails'
      have zero : port.readAllocated = 0 := by
        by_contra reads
        exact good.both reads fails'.1
      have lane := good.held.reads
      rw [zero] at lane
      have none := (lane_none lane).2
      rw [good.queue, List.nil_append] at none
      have started := held.reads.away
      rw [same.readQueue, good.queue, reading, none] at started
      refine ⟨⟨held.freeReads, ?_, fun reads => ?_⟩, same.trans ⟨rfl, rfl, rfl, rfl, rfl⟩, ?_, ?_⟩
      · exact same.readQueue.trans good.queue
      · rw [freed_started held] at reads
        exact absurd started reads
      · exact iff_of_false (by simp) fun all => all.2.1.elim (fun some_ => some_ fails'.1) fails'.2
      · exact iff_of_false (fun some_ => some_ (reading.trans none)) fun all => all.2.1.elim (fun some_ => some_ fails'.1) fails'.2
  · rw [run]
    exact ⟨good, .refl port, iff_of_false (by simp) fun all => fails all.1, iff_of_false (fun some_ => some_ none) fun all => fails all.1⟩

theorem Good.usbEcmStartIo (good : Good port) (a : Answers) :
    Good (usbEcmStartIo a port).2 ∧ Same port (usbEcmStartIo a port).2 ∧
      ((usbEcmStartIo a port).2.reading ≠ [] ↔ Starts a port) ∧
      ((usbEcmStartIo a port).2.reading ≠ [] ∨ (usbEcmStartIo a port).2.failed) := by
  obtain ⟨⟨held, queue, both⟩, same, success, inFlight⟩ := good.startIo a
  refine ⟨⟨⟨held.reads, held.writes, held.readFifo, held.writeFifo, held.touches⟩, queue, both⟩,
    same.trans ⟨rfl, rfl, rfl, rfl, rfl⟩, inFlight, ?_⟩
  by_cases starts : Starts a port
  · exact .inl (inFlight.mpr starts)
  · have failed : (UsbEcm.startIo a port).1 ≠ .success := fun ok => starts (success.mp ok)
    exact .inr (decide_eq_true failed)

theorem Good.beside (good : Good port) {t : Port} (same : SameReads port t) (held : Held t) : Good t :=
  ⟨held, same.readQueue.trans good.queue, by rw [same.readAllocated, same.writeAllocated]; exact good.both⟩

theorem Good.reset (good : Good port) (refCount : Int32) : Good { port with
    writeFifo := port.writeFifo.reset, readFifo := port.readFifo.reset, refCount := refCount } :=
  ⟨⟨good.held.reads, good.held.writes, good.held.readFifo.reset, good.held.writeFifo.reset, good.held.touches⟩, good.queue, good.both⟩

/-- What an open does with the reads of a port. -/
structure Opens (a : Answers) (s t : Port) : Prop where
  good : Good t
  refCount : t.refCount = s.refCount + 1
  ecm : t.ecm = s.ecm
  memory : hasMemory t.writeFifo ∧ hasMemory t.readFifo
  first : s.refCount = 0 → s.ecm → (t.reading ≠ [] ↔ Starts a s) ∧ (t.reading ≠ [] ∨ t.failed)
  further : s.refCount ≠ 0 → t.reading = s.reading ∧ t.failed = s.failed

theorem Good.openPort (good : Good port) (a : Answers) : Good (openPort a port) ∧
      (((port.writeFifo.isInitialized ∨ a.writeFifo) ∧ (port.readFifo.isInitialized ∨ a.readFifo)) ∧ Opens a port (openPort a port) ∨
        ¬((port.writeFifo.isInitialized ∨ a.writeFifo) ∧ (port.readFifo.isInitialized ∨ a.readFifo)) ∧
          ¬(hasMemory (openPort a port).writeFifo ∧ hasMemory (openPort a port).readFifo) ∧
          (openPort a port).ecm = port.ecm) := by
  rw [UsbEcm.openPort]
  rcases allocFifo_cases good.held.writeFifo (show writeBufSize ≠ 0 by decide) a.writeFifo with
    ⟨there, writeFifo, run, kept, some_⟩ | ⟨fails, run, none⟩
  · rw [run]
    simp only
    rcases allocFifo_cases good.held.readFifo (show readBufSize ≠ 0 by decide) a.readFifo with
      ⟨there', readFifo, run', kept', some'⟩ | ⟨fails', run', none'⟩
    · rw [run']
      simp only
      have good' : Good { port with
          writeFifo := writeFifo.reset, readFifo := readFifo.reset, refCount := port.refCount + 1 } :=
        ⟨⟨good.held.reads, good.held.writes, kept'.reset, kept.reset, good.held.touches⟩, good.queue, good.both⟩
      have memory : hasMemory writeFifo.reset ∧ hasMemory readFifo.reset :=
        ⟨kept.reset.hasMemory_iff.mpr some_, kept'.reset.hasMemory_iff.mpr some'⟩
      split
      · rename_i further
        exact ⟨good', .inl ⟨⟨there, there'⟩, good', rfl, rfl, memory, fun zero => absurd zero further, fun _ => ⟨rfl, rfl⟩⟩⟩
      · rename_i first
        rw [not_not] at first
        split
        · obtain ⟨good'', same, inFlight, reads⟩ := good'.usbEcmStartIo a
          refine ⟨good'', .inl ⟨⟨there, there'⟩, good'', same.refCount, same.ecm, ⟨?_, ?_⟩, fun _ _ => ⟨inFlight, reads⟩,
            fun further => absurd first further⟩⟩
          · rw [good''.held.writeFifo.hasMemory_iff, same.writeSize]
            exact some_
          · rw [good''.held.readFifo.hasMemory_iff, same.readSize]
            exact some'
        · rename_i none
          exact ⟨good', .inl ⟨⟨there, there'⟩, good', rfl, rfl, memory, fun _ ecm => absurd ecm none, fun further => absurd first further⟩⟩
    · rw [run']
      exact ⟨⟨⟨good.held.reads, good.held.writes, good.held.readFifo, kept, good.held.touches⟩, good.queue, good.both⟩,
        .inr ⟨fun both => fails' both.2, fun both => none' both.2, rfl⟩⟩
  · rw [run]
    exact ⟨good, .inr ⟨fun both => fails both.1, fun both => none both.1, rfl⟩⟩

theorem erase_found {reads : List Request} {address : Nat} {req : Request}
    (found : (reads.find? fun req => req.address = address) = some req) :
    reads.erase req = [] ↔ reads.map (·.address) = [address] := by
  have matched : req.address = address := by simpa using List.find?_some found
  rw [List.erase_eq_nil_iff, List.map_eq_singleton_iff]
  constructor
  · rintro (none | one)
    · rw [none] at found
      cases found
    · exact ⟨req, one, matched⟩
  · rintro ⟨other, one, is⟩
    simp only [one, is, List.find?_cons, decide_true, Option.some.injEq] at found
    exact .inr (one.trans (congrArg (fun x => [x]) found))

structure Follows (stays : Bool) (s t : Port) : Prop where
  good : Good t
  refCount : t.refCount = s.refCount
  ecm : s.ecm → t.ecm
  reads : stays → s.ecm → t.reading = s.reading ∧ t.failed = s.failed ∨ t.reading ≠ [] ∨ t.failed

theorem Good.follows (good : Good port) (stays : Bool) : Follows stays port port := ⟨good, rfl, id, fun _ _ => .inl ⟨rfl, rfl⟩⟩

theorem Follows.of_same {t : Port} (good : Good port) (held : Held t) (same : SameReads port t) : Follows true port t :=
  ⟨good.beside same held, same.refCount, fun ecm => same.ecm.trans ecm, fun _ _ => .inl ⟨same.reading, same.failed⟩⟩

theorem Follows.then {stays : Bool} (first : Follows stays s t) (next : Follows stays t u) : Follows stays s u := by
  refine ⟨next.good, next.refCount.trans first.refCount, fun ecm => next.ecm (first.ecm ecm), fun still ecm => ?_⟩
  rcases next.reads still (first.ecm ecm) with ⟨reading, failed⟩ | started
  · rw [reading, failed]
    exact first.reads still ecm
  · exact .inr started

section
variable (good : Good port)
include good

theorem Good.reported (a : Answers) : (usbEcmStartRx a port).reading ≠ [] ∨ (usbEcmStartRx a port).failed := by
  obtain ⟨-, -, counted, failed, -⟩ := good.held.usbEcmStartRx good.queue a
  by_cases started : (usbEcmStartRx a port).readStarted ≠ 0
  · exact .inl (counted.mp started)
  · refine .inr (failed.trans ?_)
    simpa using started

theorem Good.usbEcmStartRx (a : Answers) : Follows true port (usbEcmStartRx a port) := by
  obtain ⟨held, starts, -⟩ := good.held.usbEcmStartRx good.queue a
  refine ⟨⟨held, starts.readQueue.trans good.queue, ?_⟩, starts.refCount, fun ecm => starts.ecm.trans ecm,
    fun _ _ => .inr (good.reported a)⟩
  rw [starts.readAllocated, starts.writeAllocated]
  exact good.both

theorem Good.usbEcmStartTx (a : Answers) : Follows true port (usbEcmStartTx a port) := by
  obtain ⟨held, same⟩ := good.held.usbEcmStartTx a
  exact .of_same good held same

theorem Good.usbEcmRead (a : Answers) : Follows true port (usbEcmRead a port).2.2 := by
  rw [UsbEcm.usbEcmRead]
  split
  · exact good.follows true
  · split
    · exact good.follows true
    · obtain ⟨kept, size, right⟩ := good.held.readFifo.read port.readFifo.len
      have read : Held { port with
          readFifo := (port.readFifo.read port.readFifo.len).2
          touches := port.touches ++ [⟨hasMemory port.readFifo, (port.readFifo.read port.readFifo.len).1.length⟩] } :=
        ⟨good.held.reads, good.held.writes, kept, good.held.writeFifo, touches_snoc good.held.touches right⟩
      have first := Follows.of_same good read ⟨⟨rfl, rfl, size, rfl, rfl⟩, rfl, rfl, rfl, rfl, rfl, rfl⟩
      simp only
      split
      · exact first.then (first.good.usbEcmStartRx a)
      · exact first

theorem Good.usbEcmWrite (a : Answers) (data : Option (List UInt8)) : Follows true port (usbEcmWrite a data port).2 := by
  cases data with
  | none => exact good.follows true
  | some bytes =>
    obtain ⟨kept, size, right⟩ := good.held.writeFifo.write bytes (UInt32.ofNat bytes.length)
    have tail {t : Port} (first : Follows true port t) : Follows true port (if t.ecm then UsbEcm.usbEcmStartTx a t else t) := by
      split
      · exact first.then (first.good.usbEcmStartTx a)
      · exact first
    rw [UsbEcm.usbEcmWrite]
    apply tail
    split
    · have written : Held { port with
          writeFifo := (port.writeFifo.write bytes (UInt32.ofNat bytes.length)).2
          touches := port.touches ++ [⟨hasMemory port.writeFifo, (port.writeFifo.write bytes (UInt32.ofNat bytes.length)).1.toNat⟩] } :=
        ⟨good.held.reads, good.held.writes, good.held.readFifo, kept, touches_snoc good.held.touches right⟩
      exact .of_same good written ⟨⟨rfl, rfl, rfl, size, rfl⟩, rfl, rfl, rfl, rfl, rfl, rfl⟩
    · exact good.follows true

theorem Good.ecmDisable : Follows false port (ecmDisable port) := by
  rw [UsbEcm.ecmDisable]
  split
  · exact ⟨⟨⟨good.held.reads, good.held.writes, kept_init_zero, kept_init_zero, good.held.touches⟩, good.queue, good.both⟩,
      rfl, id, fun stays => absurd stays Bool.false_ne_true⟩
  · exact good.follows false

theorem Good.writeComplete (a : Answers) {req : Request} (member : req ∈ port.writing) (status : RequestStatus) :
    Follows true port (usbEcmWriteComplete a { req with status := status } { port with writing := port.writing.erase req }) := by
  have shorter : port.writing.length = (port.writing.erase req).length + 1 := by
    have some_ := List.length_pos_of_mem member
    rw [List.length_erase_of_mem member]
    omega
  have pooled : Held { port with
      writing := port.writing.erase req, writePool := port.writePool ++ [{ req with status := status }],
      writeStarted := port.writeStarted - 1 } :=
    ⟨good.held.reads, good.held.writes.complete shorter, good.held.readFifo, good.held.writeFifo, good.held.touches⟩
  have first := Follows.of_same good pooled ⟨⟨rfl, rfl, rfl, rfl, rfl⟩, rfl, rfl, rfl, rfl, rfl, rfl⟩
  cases status with
  | completed => exact first.then (first.good.usbEcmStartTx a)
  | noDevice => exact first
  | other => exact first

end

theorem Held.rxPush (held : Held port) {req : Request} (queue : port.readQueue = [req]) :
    Held (rxPush port.readQueue port) ∧ (rxPush port.readQueue port).readQueue = [] ∧
      (rxPush port.readQueue port).ecm = port.ecm ∧ (rxPush port.readQueue port).refCount = port.refCount ∧
      (rxPush port.readQueue port).readAllocated = port.readAllocated ∧
      (rxPush port.readQueue port).writeAllocated = port.writeAllocated ∧
      (rxPush port.readQueue port).reading = port.reading ∧ (rxPush port.readQueue port).failed = port.failed := by
  obtain ⟨pushed, same⟩ := held.push req
  have lane := pushed.reads
  rw [same.readQueue, queue] at lane
  rw [queue]
  exact ⟨⟨lane.complete rfl, pushed.writes, pushed.readFifo, pushed.writeFifo, pushed.touches⟩, rfl, same.ecm, same.refCount,
    same.readAllocated, same.writeAllocated, same.reading, same.failed⟩

/-- The reads are started again unless the device is gone; then there is one less in flight. -/
theorem Good.readComplete (good : Good port) (a : Answers) {req : Request} (member : req ∈ port.reading) (status : RequestStatus)
    (received : List UInt8) {t : Port} (completes : usbEcmReadComplete a { req with buf := received, status := status }
      { port with reading := port.reading.erase req } = t) : Follows (status ≠ .noDevice : Bool) port t ∧
      (status = .noDevice → t.reading = port.reading.erase req ∧ t.failed = port.failed) := by
  have longer : port.reading.length = (port.reading.erase req).length + 1 := by
    have some_ := List.length_pos_of_mem member
    rw [List.length_erase_of_mem member]
    omega
  have lane := good.held.reads
  rw [good.queue, List.nil_append] at lane
  have queued : Held { port with
      reading := port.reading.erase req, readQueue := port.readQueue ++ [{ req with buf := received, status := status }] } := by
    refine ⟨⟨?_, lane.total, lane.bound⟩, good.held.writes, good.held.readFifo, good.held.writeFifo, good.held.touches⟩
    rw [good.queue, lane.away, longer, List.nil_append, List.singleton_append, List.length_cons]
  have one : port.readQueue ++ [{ req with buf := received, status := status }] = [{ req with buf := received, status := status }] := by
    rw [good.queue, List.nil_append]
  obtain ⟨held, queue, ecm, refCount, reads, writes, reading, failed⟩ := queued.rxPush one
  subst completes
  rw [usbEcmReadComplete, usbEcmRxPush]
  generalize rxPush _ _ = pushed at *
  have good' : Good pushed := ⟨held, queue, by rw [reads, writes]; exact good.both⟩
  split
  · rename_i restarts
    have after := good'.usbEcmStartRx a
    refine ⟨⟨after.good, after.refCount.trans refCount, fun enabled => after.ecm (ecm.trans enabled),
      fun _ _ => .inr (good'.reported a)⟩, fun gone => absurd restarts ?_⟩
    simp only [one, List.any_cons, List.any_nil, Bool.or_false]
    simp [gone]
  · rename_i ends
    refine ⟨⟨good', refCount, ecm.trans, fun stays enabled => absurd ?_ ends⟩, fun _ => ⟨reading, failed⟩⟩
    simp only [one, ecm, List.any_cons, List.any_nil, Bool.or_false]
    simp only [decide_eq_true_eq] at stays
    simp [stays, enabled]

end

/-- What holds of the port between two events. -/
structure Sound (w : Watch) : Prop where
  good : Good w.port
  count : w.port.refCount.toInt = w.opened
  ecm : w.enabled → w.port.ecm
  reads : w.enabled → w.opened ≠ 0 → w.port.reading ≠ [] ∨ w.port.failed

section
variable {w : Watch} {e : Event}

theorem sound_start (maxIn : UInt16) : Sound (.start maxIn) := by
  have empty : Lane [] [] 0 0 := ⟨rfl, rfl, by decide⟩
  refine ⟨⟨⟨empty, empty, kept_init_zero, kept_init_zero, ?_⟩, rfl, ?_⟩, rfl, ?_, ?_⟩
  · intro touch member
    cases member
  · exact fun some_ => absurd rfl some_
  · intro enabled
    cases enabled
  · intro enabled
    cases enabled

theorem Right.sound (right : Right w e) (good : Good (step w e).port) (ecm : (step w e).enabled → (step w e).port.ecm) :
    Sound (step w e) := by
  refine ⟨good, right.count, ecm, fun enabled opened => right.reads enabled ?_⟩
  rw [right.count]
  omega

section
variable (sound : Sound w)
include sound

theorem Sound.other (other : ∀ a, e ≠ .openPort a) (opened : (step w e).opened = w.opened) (good : Good (step w e).port)
    (refCount : (step w e).port.refCount = w.port.refCount) (ecm : (step w e).enabled → (step w e).port.ecm)
    (reads : (step w e).enabled → w.opened ≠ 0 → (step w e).port.reading ≠ [] ∨ (step w e).port.failed) :
    Right w e ∧ Sound (step w e) := by
  have right : Right w e := by
    refine ⟨?_, fun a is => absurd is (other a), good.held.touches, fun enabled some_ => reads enabled ?_⟩
    · rw [refCount, opened, sound.count]
    · rw [refCount, sound.count] at some_
      omega
  exact ⟨right, right.sound good ecm⟩

theorem Sound.follows (stays : Bool) (follows : Follows stays w.port (step w e).port) (other : ∀ a, e ≠ .openPort a)
    (opened : (step w e).opened = w.opened) (enabled : (step w e).enabled → w.enabled ∧ stays) : Right w e ∧ Sound (step w e) := by
  refine sound.other other opened follows.good follows.refCount (fun on => follows.ecm (sound.ecm (enabled on).1)) fun on some_ => ?_
  rcases follows.reads (enabled on).2 (sound.ecm (enabled on).1) with ⟨reading, failed⟩ | started
  · rw [reading, failed]
    exact sound.reads (enabled on).1 some_
  · exact started

theorem Sound.enable (a : Answers) : Right w (.enable a) ∧ Sound (step w (.enable a)) := by
  have enabled : Good { w.port with ecm := true } :=
    ⟨⟨sound.good.held.reads, sound.good.held.writes, sound.good.held.readFifo, sound.good.held.writeFifo, sound.good.held.touches⟩,
      sound.good.queue, sound.good.both⟩
  have is : (step w (.enable a)).port = ecmEnable a w.port := rfl
  have cases_ : Good (ecmEnable a w.port) ∧ (ecmEnable a w.port).refCount = w.port.refCount ∧ (ecmEnable a w.port).ecm ∧
      (w.opened ≠ 0 → (ecmEnable a w.port).reading ≠ [] ∨ (ecmEnable a w.port).failed) := by
    rw [ecmEnable]
    split
    · obtain ⟨good, same, -, reported⟩ := enabled.usbEcmStartIo a
      exact ⟨good, same.refCount, same.ecm, fun _ => reported⟩
    · rename_i none
      refine ⟨enabled, rfl, rfl, fun some_ => absurd ?_ some_⟩
      have count := sound.count
      rw [show w.port.refCount = 0 from not_not.mp none] at count
      exact (Int.natCast_eq_zero.mp count.symm)
  obtain ⟨good, refCount, ecm, reads⟩ := cases_
  exact sound.other (by simp) rfl good refCount (fun _ => ecm) fun _ => reads

/-- A read that reports the device gone is right exactly if it is not the last one, or if the last start failed anyway. -/
theorem Sound.readComplete (address : Nat) (status : RequestStatus) (received : List UInt8) (a : Answers) :
    (Right w (.readComplete address status received a) ↔ Fine w (.readComplete address status received a)) ∧
      (Right w (.readComplete address status received a) → Sound (step w (.readComplete address status received a))) := by
  cases found : w.port.reading.find? fun req => req.address = address with
  | none =>
    have same : (step w (.readComplete address status received a)).port = w.port := by simp [step, Port.handle, found]
    obtain ⟨right, sound'⟩ := sound.follows (e := .readComplete address status received a) true
      (same.symm ▸ sound.good.follows true) (by simp) rfl fun on => ⟨on, rfl⟩
    refine ⟨iff_of_true right ?_, fun _ => sound'⟩
    cases status with
    | completed => trivial
    | other => trivial
    | noDevice =>
      intro _ _
      refine .inl fun one => ?_
      obtain ⟨req, reads, is⟩ := List.map_eq_singleton_iff.mp one
      simp [reads, is] at found
  | some req =>
    have is : usbEcmReadComplete a { req with buf := received, status := status }
        { w.port with reading := w.port.reading.erase req } = (step w (.readComplete address status received a)).port := by
      simp [step, Port.handle, found]
    obtain ⟨after, gone⟩ := sound.good.readComplete a (List.mem_of_find?_eq_some found) status received is
    have restarted (still : (status ≠ .noDevice : Bool)) (fine : Fine w (.readComplete address status received a)) :
        (Right w (.readComplete address status received a) ↔ Fine w (.readComplete address status received a)) ∧
          (Right w (.readComplete address status received a) → Sound (step w (.readComplete address status received a))) := by
      obtain ⟨right, sound'⟩ := sound.follows (e := .readComplete address status received a) _ after (by simp) rfl
        fun on => ⟨on, still⟩
      exact ⟨iff_of_true right fine, fun _ => sound'⟩
    cases status with
    | completed => exact restarted rfl trivial
    | other => exact restarted rfl trivial
    | noDevice =>
      obtain ⟨reading, failed⟩ := gone rfl
      have left : (w.enabled → w.opened ≠ 0 → (step w (.readComplete address .noDevice received a)).port.reading ≠ [] ∨
          (step w (.readComplete address .noDevice received a)).port.failed) ↔ Fine w (.readComplete address .noDevice received a) := by
        simp only [reading, failed, ne_eq, erase_found found, Fine]
      have ecm := fun on => after.ecm (sound.ecm on)
      refine ⟨⟨fun right => left.mp fun on some_ => right.reads on ?_, fun fine => ?_⟩, fun right => right.sound after.good ecm⟩
      · rw [after.refCount, sound.count]
        omega
      · exact (sound.other (by simp) rfl after.good after.refCount ecm (left.mpr fine)).1

theorem Sound.writeComplete (address : Nat) (status : RequestStatus) (a : Answers) :
    Right w (.writeComplete address status a) ∧ Sound (step w (.writeComplete address status a)) := by
  have on : (step w (.writeComplete address status a)).enabled → w.enabled ∧ true := by simp [step]
  cases found : w.port.writing.find? fun req => req.address = address with
  | none =>
    have same : (step w (.writeComplete address status a)).port = w.port := by simp [step, Port.handle, found]
    exact sound.follows true (same.symm ▸ sound.good.follows true) (by simp) rfl on
  | some req =>
    have after := sound.good.writeComplete a (List.mem_of_find?_eq_some found) status
    exact sound.follows true (by simpa [step, Port.handle, found] using after) (by simp) rfl on

theorem Sound.close : (Right w .closePort ↔ w.opened ≠ 0) ∧ (Right w .closePort → Sound (step w .closePort)) := by
  have on : (step w .closePort).enabled = w.enabled := rfl
  have count := sound.count
  have cases_ : Good (usbEcmClose w.port).2 ∧ (usbEcmClose w.port).2.ecm = w.port.ecm ∧
      (usbEcmClose w.port).2.reading = w.port.reading ∧ (usbEcmClose w.port).2.failed = w.port.failed ∧
      (usbEcmClose w.port).2.refCount = w.port.refCount - 1 := by
    have held := sound.good.held
    rw [usbEcmClose]
    split
    · exact ⟨⟨⟨held.reads, held.writes, held.readFifo, held.writeFifo, held.touches⟩, sound.good.queue, sound.good.both⟩, rfl, rfl, rfl, rfl⟩
    · rename_i last
      refine ⟨sound.good.reset 0, rfl, rfl, rfl, ?_⟩
      rw [not_not.mp last]
      rfl
  obtain ⟨good, ecm, reading, failed, refCount⟩ := cases_
  have ecm' : (step w .closePort).enabled → (step w .closePort).port.ecm := by
    rw [on]
    exact fun enabled => ecm.trans (sound.ecm enabled)
  have counted : (step w .closePort).port.refCount.toInt = (step w .closePort).opened ↔ w.opened ≠ 0 := by
    change (usbEcmClose w.port).2.refCount.toInt = ((w.opened - 1 : Nat) : Int) ↔ _
    have most := Int32.toInt_lt w.port.refCount
    rw [refCount, Int32.toInt_sub, count, Int.bmod_def]
    rw [count] at most
    simp at *
    omega
  refine ⟨⟨fun right => counted.mp right.count, fun some_ => ?_⟩, fun right => right.sound good ecm'⟩
  refine ⟨counted.mpr some_, fun a is => absurd is (by simp), good.held.touches, fun enabled _ => ?_⟩
  rw [on] at enabled
  change (usbEcmClose w.port).2.reading ≠ [] ∨ (usbEcmClose w.port).2.failed
  rw [reading, failed]
  exact sound.reads enabled some_

/-- An open is right exactly if there is memory, and the reads are started or can be. -/
theorem Sound.openPort (a : Answers) :
    (Right w (.openPort a) ↔ Fine w (.openPort a)) ∧ (Right w (.openPort a) → Sound (step w (.openPort a))) := by
  have on : (step w (.openPort a)).enabled = w.enabled := rfl
  have count := sound.count
  obtain ⟨good, cases_⟩ := sound.good.openPort a
  have ecm' : (step w (.openPort a)).enabled → (step w (.openPort a)).port.ecm := by
    rw [on]
    intro enabled
    rcases cases_ with ⟨-, opens⟩ | ⟨-, -, ecm⟩
    · exact opens.ecm.trans (sound.ecm enabled)
    · exact ecm.trans (sound.ecm enabled)
  refine ⟨?_, fun right => right.sound good ecm'⟩
  rcases cases_ with ⟨⟨writes, reads⟩, opens⟩ | ⟨fails, none, -⟩
  · have counted : (step w (.openPort a)).port.refCount.toInt = (step w (.openPort a)).opened ↔ w.opened + 1 < 2 ^ 31 := by
      change (UsbEcm.openPort a w.port).refCount.toInt = ((w.opened + 1 : Nat) : Int) ↔ _
      rw [opens.refCount, Int32.toInt_add, count, Int.bmod_def]
      simp
      omega
    have zero : w.opened = 0 ↔ w.port.refCount = 0 := by
      rw [← Int32.toInt_inj, count]
      simp
    have inFlight : w.enabled → ((UsbEcm.openPort a w.port).reading ≠ [] ↔ if w.opened = 0 then Starts a w.port else w.port.reading ≠ []) := by
      intro enabled
      by_cases first : w.opened = 0
      · rw [if_pos first]
        exact (opens.first (zero.mp first) (sound.ecm enabled)).1
      · rw [if_neg first, (opens.further (mt zero.mpr first)).1]
    have reported : w.enabled → (UsbEcm.openPort a w.port).reading ≠ [] ∨ (UsbEcm.openPort a w.port).failed := by
      intro enabled
      by_cases first : w.opened = 0
      · exact (opens.first (zero.mp first) (sound.ecm enabled)).2
      · rw [(opens.further (mt zero.mpr first)).1, (opens.further (mt zero.mpr first)).2]
        exact sound.reads enabled first
    constructor
    · intro right
      refine ⟨writes, reads, counted.mp right.count, fun enabled => (inFlight enabled).mp ?_⟩
      have opened := (right.opens a rfl rfl).2.2
      rw [if_pos enabled] at opened
      exact opened
    · rintro ⟨-, -, few, starts⟩
      have refCount := counted.mpr few
      refine ⟨refCount, fun b is _ => ⟨opens.memory.1, opens.memory.2, ?_⟩, good.held.touches, fun enabled _ => ?_⟩
      · split
        · rename_i enabled
          exact (inFlight enabled).mpr (starts enabled)
        · rw [refCount]
          change (0 : Int) < ((w.opened + 1 : Nat) : Int)
          omega
      · rw [on] at enabled
        exact reported enabled
  · constructor
    · intro right
      have opened := right.opens a rfl rfl
      exact absurd ⟨opened.1, opened.2.1⟩ none
    · rintro ⟨writes, reads, -⟩
      exact absurd ⟨writes, reads⟩ fails

theorem Sound.step (e : Event) : (Right w e ↔ Fine w e) ∧ (Right w e → Sound (step w e)) := by
  have of_both {P : Prop} (holds : Right w e ∧ Sound (UsbEcm.step w e)) (trivially : P) :
      (Right w e ↔ P) ∧ (Right w e → Sound (UsbEcm.step w e)) := ⟨iff_of_true holds.1 trivially, fun _ => holds.2⟩
  cases e with
  | enable a => exact of_both (sound.enable a) trivial
  | disable =>
    refine of_both (sound.follows false sound.good.ecmDisable (by simp) rfl fun on => ?_) trivial
    cases on
  | openPort a => exact sound.openPort a
  | closePort => exact sound.close
  | read a =>
    exact of_both (sound.follows true (sound.good.usbEcmRead a) (by simp) rfl fun on => ⟨on, rfl⟩) trivial
  | write data a =>
    exact of_both (sound.follows true (sound.good.usbEcmWrite a data) (by simp) rfl fun on => ⟨on, rfl⟩) trivial
  | readComplete address status received a => exact sound.readComplete address status received a
  | writeComplete address status a => exact of_both (sound.writeComplete address status a) trivial

end

end

/-- Each event of a run is right exactly if each is fine. -/
theorem opens_right (maxIn : UInt16) (events : List Event) :
    Takes step Right (.start maxIn) events ↔ Takes step Fine (.start maxIn) events :=
  Takes.congr (fun _ e sound => (Sound.step sound e).1) (fun _ e sound right => (Sound.step sound e).2 right) (sound_start maxIn)

def Answers.none : Answers := ⟨false, false, false, false, fun _ => false, fun _ => false, fun _ => false, fun _ => false⟩

/-- An open without memory for its fifos succeeds. -/
theorem opens_wrong : ¬Takes step Right (.start 64) [.openPort .none] := by
  intro taken
  have memory := (taken.1.opens .none rfl rfl).1
  exact absurd memory (by decide)

end Peripheral.UsbEcm
