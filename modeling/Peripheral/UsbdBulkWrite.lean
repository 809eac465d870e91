import Peripheral.Loops
import Peripheral.Tiling

/-!
The synchronous bulk write of the USB service, from `usbd_dispatcher.c`. A buffer is sent in slices of a packet, one transfer
after the other, and how far it has got is counted in 16 bits, while the length of the buffer has 32.
-/
namespace Peripheral.UsbdBulkWrite
open Loops Tiling List

def HDF_SUCCESS : Int32 := 0
def HDF_FAILURE : Int32 := -1
def HDF_ERR_INVALID_PARAM : Int32 := -3

/-- What `UsbFillRequest` and `UsbSubmitRequestSync` return for a transfer. -/
structure Transfer where
  fill : Int32
  submit : Int32

structure Sync where
  ret : Int32
  tcur : UInt16
  slices : List Interval
  deriving DecidableEq

/-- The buffer is `length` bytes long, and the largest packet of the pipe `msize`. -/
def tsize (length : UInt32) (msize tcur : UInt16) : UInt16 :=
  if length - tcur.toUInt32 < msize.toUInt32 then (length - tcur.toUInt32).toUInt16 else msize

def writeRound (length : UInt32) (msize : UInt16) (o : Nat → Transfer) (s : Sync) : Outcome Empty (Sync ⊕ Sync) :=
  if s.tcur.toUInt32 < length then
    let size := tsize length msize s.tcur
    let transfer := o s.slices.length
    let tcur := s.tcur + size
    let slices := s.slices ++ [⟨s.tcur.toNat, size.toNat⟩]
    if transfer.fill ≠ HDF_SUCCESS then .ret (.inr ⟨transfer.fill, tcur, slices⟩)
    else if transfer.submit ≠ HDF_SUCCESS then .ret (.inr ⟨transfer.submit, tcur, slices⟩)
    else .ret (.inl ⟨HDF_SUCCESS, tcur, slices⟩)
  else .ret (.inr s)

def usbdBulkWriteSyncBase (length : UInt32) (msize : UInt16) (o : Nat → Transfer) (fuel : Nat) : Outcome Empty Sync :=
  if length < 1 then .ret ⟨HDF_ERR_INVALID_PARAM, 0, []⟩
  else iterate (fun _ => writeRound length msize o) fuel ⟨HDF_FAILURE, 0, []⟩

/-- The places of the buffer that slices have, in order. -/
def places (l : List Interval) : List Nat := l.flatMap fun v => range' v.start v.len

/-- The write ends after no more transfers than the buffer has packets. Every slice is in the buffer; together they are the
    buffer if there is no error, and otherwise those before the transfer that failed are the beginning of it. -/
def Right (length : UInt32) (msize : UInt16) (o : Nat → Transfer) : Prop :=
  ∃ s, Comes (usbdBulkWriteSyncBase length msize o) (.ret s) ∧
    s.slices.length ≤ (length.toNat + msize.toNat - 1) / msize.toNat ∧
    (∀ v ∈ s.slices, v.start + v.len ≤ length.toNat) ∧
    (s.ret = HDF_SUCCESS → places s.slices = range length.toNat) ∧
    (s.ret ≠ HDF_SUCCESS → ∃ rest, places s.slices.dropLast ++ rest = range length.toNat)

def Transfer.code (t : Transfer) : Int32 := if t.fill ≠ HDF_SUCCESS then t.fill else t.submit

section
variable {length : UInt32} {msize : UInt16} {o : Nat → Transfer}

def place (length : UInt32) (msize : UInt16) : Nat → UInt16
  | 0 => 0
  | k + 1 => place length msize k + tsize length msize (place length msize k)

def slice (length : UInt32) (msize : UInt16) (k : Nat) : Interval :=
  ⟨(place length msize k).toNat, (tsize length msize (place length msize k)).toNat⟩

def after (length : UInt32) (msize : UInt16) (k : Nat) : Sync :=
  ⟨if k = 0 then HDF_FAILURE else HDF_SUCCESS, place length msize k, (range k).map (slice length msize)⟩

def More (length : UInt32) (msize : UInt16) (k : Nat) : Prop := (place length msize k).toNat < length.toNat

variable {k : Nat}

theorem round_after (more : More length msize k) : writeRound length msize o (after length msize k) =
    if (o k).code = HDF_SUCCESS then .ret (.inl (after length msize (k + 1)))
    else .ret (.inr ⟨(o k).code, place length msize (k + 1), (range (k + 1)).map (slice length msize)⟩) := by
  have lower : (place length msize k).toUInt32 < length := by
    rw [UInt32.lt_iff_toNat_lt]
    simpa [More] using more
  have slices : (range k).map (slice length msize) ++ [slice length msize k] = (range (k + 1)).map (slice length msize) := by
    rw [range_succ, map_append]
    rfl
  simp only [writeRound, after, lower, if_true, length_map, length_range]
  rw [show (⟨(place length msize k).toNat, (tsize length msize (place length msize k)).toNat⟩ : Interval) = slice length msize k from rfl,
    slices]
  by_cases filled : (o k).fill = HDF_SUCCESS
  · by_cases submitted : (o k).submit = HDF_SUCCESS
    · simp [Transfer.code, filled, submitted, place]
    · simp [Transfer.code, filled, submitted, place]
  · simp [Transfer.code, filled, place]

theorem round_done (done : ¬More length msize k) :
    writeRound length msize o (after length msize k) = .ret (.inr (after length msize k)) := by
  rw [writeRound, if_neg]
  rw [UInt32.lt_iff_toNat_lt]
  simpa [after, More] using done

def Until (length : UInt32) (msize : UInt16) (o : Nat → Transfer) (n : Nat) : Prop :=
  ∀ i < n, (o i).code = HDF_SUCCESS ∧ More length msize i

variable {n : Nat}

theorem comes_until (upTo : Until length msize o n) {out : Outcome Empty Sync}
    (rest : Comes (fun fuel => iterate (fun _ => writeRound length msize o) fuel (after length msize n)) out) :
    Comes (fun fuel => iterate (fun _ => writeRound length msize o) fuel (after length msize 0)) out := by
  induction n with
  | zero => exact rest
  | succ n ih =>
    obtain ⟨success, more⟩ := upTo n (Nat.lt_succ_self n)
    have step := round_after (o := o) more
    rw [if_pos success] at step
    refine ih (fun i below => upTo i (Nat.lt_succ_of_lt below)) (comes_iterate_next ?_ rest)
    exact Comes.always fun _ => step

section
variable (some : 1 ≤ length.toNat)
include some

theorem base_eq : usbdBulkWriteSyncBase length msize o =
    fun fuel => iterate (fun _ => writeRound length msize o) fuel (after length msize 0) := by
  funext fuel
  rw [usbdBulkWriteSyncBase, if_neg]
  · rfl
  · rw [UInt32.lt_iff_toNat_lt]
    exact Nat.not_lt.mpr some

theorem comes_failed (upTo : Until length msize o n) (more : More length msize n)
    (fails : (o n).code ≠ HDF_SUCCESS) : Comes (usbdBulkWriteSyncBase length msize o)
      (.ret ⟨(o n).code, place length msize (n + 1), (range (n + 1)).map (slice length msize)⟩) := by
  rw [base_eq some]
  refine comes_until upTo (comes_iterate_break (Comes.always fun _ => ?_))
  rw [round_after more, if_neg fails]

theorem comes_done (upTo : Until length msize o n) (done : ¬More length msize n) :
    Comes (usbdBulkWriteSyncBase length msize o) (.ret (after length msize n)) := by
  rw [base_eq some]
  exact comes_until upTo (comes_iterate_break (Comes.always fun _ => round_done done))

/-- Where nothing fails and something is always left, the loop does not end. -/
theorem comes_stuck (always : ∀ n, Until length msize o n) : Comes (usbdBulkWriteSyncBase length msize o) .stuck := by
  have stuck (fuel k : Nat) : iterate (fun _ => writeRound length msize o) fuel (after length msize k) = .stuck := by
    induction fuel generalizing k with
    | zero => rfl
    | succ fuel ih =>
      obtain ⟨success, more⟩ := always (k + 1) k (Nat.lt_succ_self k)
      have step := round_after (o := o) more
      rw [if_pos success] at step
      rw [iterate_succ, step]
      exact ih (k + 1)
  rw [base_eq some]
  exact Comes.always fun fuel => stuck fuel 0

end

theorem slice_len (below : (place length msize k).toNat ≤ length.toNat) :
    (slice length msize k).len = min (length.toNat - (place length msize k).toNat) msize.toNat := by
  have small := length.toNat_lt
  have narrow := msize.toNat_lt
  have left : (length - (place length msize k).toUInt32).toNat = length.toNat - (place length msize k).toNat := by
    rw [UInt32.toNat_sub, UInt16.toNat_toUInt32]
    omega
  simp only [slice, tsize, UInt32.lt_iff_toNat_lt, left, UInt16.toNat_toUInt32]
  split
  · rename_i less
    rw [UInt32.toNat_toUInt16, left]
    omega
  · omega

theorem place_succ (k : Nat) : (place length msize (k + 1)).toNat = ((place length msize k).toNat + (slice length msize k).len) % 65536 := by
  rw [place, UInt16.toNat_add]
  rfl

theorem slice_inside (more : More length msize k) :
    (slice length msize k).start + (slice length msize k).len ≤ length.toNat := by
  have below : (place length msize k).toNat < length.toNat := more
  rw [slice_len (Nat.le_of_lt below)]
  show (place length msize k).toNat + _ ≤ _
  omega

theorem until_inside (more : ∀ i < n, More length msize i) :
    ∀ v ∈ (range n).map (slice length msize), v.start + v.len ≤ length.toNat := by
  intro v among
  obtain ⟨i, below, rfl⟩ := mem_map.mp among
  exact slice_inside (more i (mem_range.mp below))

theorem places_range {p : Nat → Nat} (zero : p 0 = 0)
    (next : ∀ i < n, (slice length msize i).start = p i ∧ p i + (slice length msize i).len = p (i + 1)) :
    places ((range n).map (slice length msize)) = range (p n) := by
  induction n with
  | zero =>
    rw [zero]
    rfl
  | succ n ih =>
    have before := ih fun i below => next i (Nat.lt_succ_of_lt below)
    obtain ⟨start, ends⟩ := next n (Nat.lt_succ_self n)
    have joined := range'_append_1 (s := 0) (m := p n) (n := (slice length msize n).len)
    rw [Nat.zero_add] at joined
    rw [places] at before ⊢
    rw [range_succ, map_append, flatMap_append, before, ← ends, map_singleton, flatMap_singleton, start,
      range_eq_range', range_eq_range', joined]

section
variable (packet : 0 < msize.toNat)
include packet

theorem place_regular (before : ∀ i < k, i * msize.toNat < 65536) (inside : k * msize.toNat ≤ length.toNat) :
    (place length msize k).toNat = k * msize.toNat % 65536 := by
  induction k with
  | zero => simp [place]
  | succ k ih =>
    rw [Nat.succ_mul] at inside ⊢
    have small := before k (Nat.lt_succ_self k)
    have here := ih (fun i below => before i (Nat.lt_succ_of_lt below)) (by omega)
    rw [Nat.mod_eq_of_lt small] at here
    rw [place_succ, slice_len (by omega), here]
    congr 1
    omega

theorem places_regular (before : ∀ i < n, i * msize.toNat < 65536) (inside : n * msize.toNat ≤ length.toNat) :
    places ((range n).map (slice length msize)) = range (n * msize.toNat) := by
  refine places_range (p := fun i => i * msize.toNat) (Nat.zero_mul _) fun i below => ?_
  have fits : (i + 1) * msize.toNat ≤ length.toNat := Nat.le_trans (Nat.mul_le_mul_right _ below) inside
  rw [Nat.succ_mul] at fits
  have here := place_regular packet (fun j less => before j (Nat.lt_trans less below)) (by omega : i * msize.toNat ≤ length.toNat)
  rw [Nat.mod_eq_of_lt (before i below)] at here
  refine ⟨here, ?_⟩
  simp only [Nat.succ_mul]
  rw [slice_len (by omega), here]
  omega

theorem place_short (short : length.toNat < 65536) (k : Nat) : (place length msize k).toNat = min (k * msize.toNat) length.toNat := by
  induction k with
  | zero => simp [place]
  | succ k ih =>
    rw [place_succ, Nat.succ_mul]
    rw [slice_len (by omega), ih]
    omega

theorem places_short (short : length.toNat < 65536) (n : Nat) :
    places ((range n).map (slice length msize)) = range (min (n * msize.toNat) length.toNat) := by
  refine places_range (p := fun i => min (i * msize.toNat) length.toNat) (by simp) fun i _ => ?_
  have here := place_short packet short i
  refine ⟨here, ?_⟩
  simp only [Nat.succ_mul]
  rw [slice_len (by omega), here]
  omega

end

theorem le_packets (length : UInt32) (packet : 0 < msize.toNat) :
    n + 1 ≤ (length.toNat + msize.toNat - 1) / msize.toNat ↔ n * msize.toNat < length.toNat := by
  rw [Nat.le_div_iff_mul_le packet, Nat.succ_mul]
  omega

theorem dropLast_slices (n : Nat) : ((range (n + 1)).map (slice length msize)).dropLast = (range n).map (slice length msize) := by
  rw [range_succ, map_append, map_singleton, dropLast_concat]

theorem range_starts {n m : Nat} (short : n ≤ m) : ∃ rest, range n ++ rest = range m := by
  obtain ⟨k, rfl⟩ := Nat.exists_eq_add_of_le short
  exact ⟨_, (range_add ..).symm⟩

/-- The counter has room for the whole buffer; or the first transfer that fails is one of the packets of the buffer, and is not
    behind one that came around. -/
def Short (length : UInt32) (msize : UInt16) (o : Nat → Transfer) : Prop :=
  length.toNat < 65536 ∨ ∃ n, (o n).code ≠ HDF_SUCCESS ∧ (∀ i < n, (o i).code = HDF_SUCCESS) ∧ n * msize.toNat < length.toNat ∧
    ∀ i < n, i * msize.toNat < 65536

theorem right_of_short {length : UInt32} {msize : UInt16} {o : Nat → Transfer} (some : 1 ≤ length.toNat) (packet : 0 < msize.toNat)
    (short : length.toNat < 65536) : Right length msize o := by
  have more (i : Nat) : More length msize i ↔ i * msize.toNat < length.toNat := by
    rw [More, place_short packet short]
    omega
  by_cases fails : ∃ n, n * msize.toNat < length.toNat ∧ (o n).code ≠ HDF_SUCCESS
  · obtain ⟨n, ⟨inside, failed⟩, first⟩ : ∃ n, (n * msize.toNat < length.toNat ∧ (o n).code ≠ HDF_SUCCESS) ∧
        ∀ i < n, ¬(i * msize.toNat < length.toNat ∧ (o i).code ≠ HDF_SUCCESS) := by
      classical
      exact ⟨Nat.find fails, Nat.find_spec fails, fun i below => Nat.find_min fails below⟩
    have earlier (i : Nat) (below : i ≤ n) : i * msize.toNat < length.toNat :=
      Nat.lt_of_le_of_lt (Nat.mul_le_mul_right _ below) inside
    have upTo : Until length msize o n := fun i below => by
      have inside := earlier i (Nat.le_of_lt below)
      refine ⟨?_, (more i).mpr inside⟩
      by_contra failed
      exact first i below ⟨inside, failed⟩
    refine ⟨_, comes_failed some upTo ((more n).mpr inside) failed, ?_, ?_, fun success => absurd success failed, fun _ => ?_⟩
    · simpa using (le_packets length packet).mpr inside
    · exact until_inside fun i below => (more i).mpr (earlier i (Nat.le_of_lt_succ below))
    · rw [dropLast_slices, places_short packet short]
      exact range_starts (Nat.min_le_right _ _)
  · simp only [not_exists, not_and, not_not] at fails
    obtain ⟨n, packets⟩ : ∃ n, (length.toNat + msize.toNat - 1) / msize.toNat = n + 1 :=
      Nat.exists_eq_succ_of_ne_zero (Nat.ne_of_gt ((le_packets length (n := 0) packet).mpr (by omega)))
    have last := (le_packets length packet).mp (Nat.le_of_eq packets.symm)
    have all : length.toNat ≤ (n + 1) * msize.toNat := by
      have beyond := (le_packets length (n := n + 1) packet).not.mp (by omega)
      omega
    have earlier (i : Nat) (below : i < n + 1) : i * msize.toNat < length.toNat :=
      Nat.lt_of_le_of_lt (Nat.mul_le_mul_right _ (Nat.le_of_lt_succ below)) last
    have upTo : Until length msize o (n + 1) := fun i below => ⟨fails i (earlier i below), (more i).mpr (earlier i below)⟩
    have done : ¬More length msize (n + 1) := by
      rw [more]
      omega
    refine ⟨_, comes_done some upTo done, ?_, until_inside fun i below => (more i).mpr (earlier i below), fun _ => ?_,
      fun failed => absurd rfl failed⟩
    · simp [after, packets]
    · rw [after, places_short packet short, Nat.min_eq_right all]

theorem more_long (msize : UInt16) (long : 65536 ≤ length.toNat) (k : Nat) : More length msize k :=
  Nat.lt_of_lt_of_le (place length msize k).toNat_lt long

theorem right_of_failed (packet : 0 < msize.toNat) (long : 65536 ≤ length.toNat) (failed : (o n).code ≠ HDF_SUCCESS)
    (first : ∀ i < n, (o i).code = HDF_SUCCESS) (inside : n * msize.toNat < length.toNat) (before : ∀ i < n, i * msize.toNat < 65536) :
    Right length msize o := by
  refine ⟨_, comes_failed (Nat.le_trans (by decide) long) (fun i below => ⟨first i below, more_long msize long i⟩) (more_long msize long n) failed,
    ?_, until_inside fun i _ => more_long msize long i, fun success => absurd success failed, fun _ => ?_⟩
  · simpa using (le_packets length packet).mpr inside
  · rw [dropLast_slices, places_regular packet before (Nat.le_of_lt inside)]
    exact range_starts (Nat.le_of_lt inside)

theorem not_beginning (packet : 0 < msize.toNat) (long : 65536 ≤ length.toNat) {n j : Nat} (below : j < n)
    (around : 65536 ≤ j * msize.toNat) (inside : j * msize.toNat < length.toNat) (rest : List Nat) :
    places ((range n).map (slice length msize)) ++ rest ≠ range length.toNat := by
  intro same
  obtain ⟨k, first, earlier, le⟩ : ∃ k, 65536 ≤ k * msize.toNat ∧ (∀ i < k, i * msize.toNat < 65536) ∧ k ≤ j := by
    classical
    have comes : ∃ k, 65536 ≤ k * msize.toNat := ⟨j, around⟩
    exact ⟨Nat.find comes, Nat.find_spec comes, fun i less => Nat.not_le.mp (Nat.find_min comes less), Nat.find_min' comes around⟩
  have fits : k * msize.toNat < length.toNat := Nat.lt_of_le_of_lt (Nat.mul_le_mul_right _ le) inside
  have back := place_regular packet earlier (Nat.le_of_lt fits)
  obtain ⟨m, rfl⟩ : ∃ m, n = k + (m + 1) := ⟨n - k - 1, by omega⟩
  have more := more_long msize long k
  have some : 0 < (slice length msize k).len := by
    rw [slice_len (Nat.le_of_lt more)]
    have below : (place length msize k).toNat < length.toNat := more
    omega
  obtain ⟨len, there⟩ : ∃ len, (slice length msize k).len = len + 1 := ⟨_, (Nat.succ_pred_eq_of_pos some).symm⟩
  have next : (slice length msize k).start = (place length msize k).toNat := rfl
  rw [range_add, map_append, places, flatMap_append, ← places, places_regular packet earlier (Nat.le_of_lt fits),
    range_succ_eq_map, map_cons, map_cons, flatMap_cons, Nat.add_zero, there, range'_succ, next] at same
  have here := congrArg (·[k * msize.toNat]?) same
  simp only [append_assoc] at here
  rw [getElem?_append_right (by simp), length_range, Nat.sub_self, getElem?_range fits] at here
  simp only [cons_append, getElem?_cons_zero, Option.some.injEq] at here
  omega

theorem short_of_right {length : UInt32} {msize : UInt16} {o : Nat → Transfer} (packet : 0 < msize.toNat)
    (long : 65536 ≤ length.toNat) (right : Right length msize o) :
    ∃ n, (o n).code ≠ HDF_SUCCESS ∧ (∀ i < n, (o i).code = HDF_SUCCESS) ∧ n * msize.toNat < length.toNat ∧
      ∀ i < n, i * msize.toNat < 65536 := by
  obtain ⟨s, comes, packets, _, _, beginning⟩ := right
  have some : 1 ≤ length.toNat := Nat.le_trans (by decide) long
  by_cases fails : ∃ n, (o n).code ≠ HDF_SUCCESS
  · obtain ⟨n, failed, first⟩ : ∃ n, (o n).code ≠ HDF_SUCCESS ∧ ∀ i < n, (o i).code = HDF_SUCCESS := by
      classical
      exact ⟨Nat.find fails, Nat.find_spec fails, fun i below => not_not.mp (Nat.find_min fails below)⟩
    have ends := comes_failed some (fun i below => ⟨first i below, more_long msize long i⟩) (more_long msize long n) failed
    cases comes.unique ends (by simp)
    have inside : n * msize.toNat < length.toNat := (le_packets length packet).mp (by simpa using packets)
    refine ⟨n, failed, first, inside, fun j below => ?_⟩
    by_contra around
    obtain ⟨rest, same⟩ := beginning failed
    rw [dropLast_slices] at same
    refine not_beginning packet long below (by omega) ?_ rest same
    exact Nat.lt_of_le_of_lt (Nat.mul_le_mul_right _ (Nat.le_of_lt below)) inside
  · simp only [not_exists, not_not] at fails
    have stuck := comes_stuck some fun n i (_ : i < n) => ⟨fails i, more_long msize long i⟩
    cases stuck.unique comes (by simp)

/-- The write is right exactly if the buffer is shorter than the counter, or a transfer fails in time. -/
theorem write_right (length : UInt32) (msize : UInt16) (some : 1 ≤ length.toNat) (packet : 1 ≤ msize.toNat) (o : Nat → Transfer) :
    Right length msize o ↔ Short length msize o := by
  by_cases short : length.toNat < 65536
  · exact ⟨fun _ => Or.inl short, fun _ => right_of_short some packet short⟩
  · have long := Nat.not_lt.mp short
    constructor
    · intro right
      exact Or.inr (short_of_right packet long right)
    · rintro (none | ⟨n, failed, first, inside, before⟩)
      · exact absurd none short
      · exact right_of_failed packet long failed first inside before

def allSucceed : Nat → Transfer := fun _ => ⟨HDF_SUCCESS, HDF_SUCCESS⟩

theorem write_right_short : Right 1000 512 allSucceed :=
  (write_right 1000 512 (by decide) (by decide) allSucceed).mpr (Or.inl (by decide))

/-- The counter comes around, and the write does not end. -/
theorem write_wrong : ¬Right 65536 512 allSucceed := by
  intro right
  obtain ⟨n, failed, _⟩ := short_of_right (by decide) (by decide) right
  exact failed rfl

end
end Peripheral.UsbdBulkWrite
