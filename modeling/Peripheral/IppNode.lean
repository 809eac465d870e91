import Mathlib.Data.List.TakeWhile
import Peripheral.CaptureRequest
import Peripheral.Searches
import Peripheral.Transitions

/-!
The post-processing of frames, `ipp_node.cpp` and `offline_pipeline.cpp`. A batch waits
in the cache until the thread of the node takes it, or until a cancellation or a flush
does; whoever has taken it brings it through on its own. The algorithm only writes into
the memory of the buffers.
-/
namespace Peripheral.Camera
open Searches Transitions List

/-- `IBuffer` as the node sees it, with the number of the object. -/
structure PoolBuffer where
  id : Nat
  poolId : Int
  captureId : Int
  status : CameraBufferStatus
  deriving DecidableEq

def PoolBuffer.key (buffer : PoolBuffer) : Nat × Int := (buffer.id, buffer.poolId)

/-- What a batch meets on its way: the pool of the output port, if there is one, the pools of the buffer manager, and what
    `AcquireBuffer` returns. -/
structure IppSurroundings where
  outPort : Option Int
  pools : List Int
  acquired : Option PoolBuffer
  deriving DecidableEq

/-- `ProcessCache` and `DeliverCancelCache`. -/
inductive BatchPath
  | process
  | cancel
  deriving DecidableEq

/-- A product and the other buffers of a batch. -/
structure Classified where
  product : Option PoolBuffer
  recycleBuffers : List PoolBuffer
  deriving DecidableEq

/-- `callback` says whether the member is set, `taken` has the batches that a thread has taken from the cache, `fault` says that
    an element of an empty vector was accessed. The last four only record: a returned buffer with the pool that it went to. -/
structure IppNode where
  offlineMode : Bool
  callback : Bool
  bufferCache : List (List PoolBuffer)
  taken : List (BatchPath × List PoolBuffer)
  fault : Bool
  given : List (Nat × Int)
  acquired : List (Nat × Int)
  delivered : List (Nat × Int)
  returned : List (Nat × Int)
  deriving DecidableEq

/-- `proceed` brings the batch with that number through. -/
inductive IppStep
  | bindOfflineStreamCallback (callback : Bool)
  | switchToOfflineMode
  | deliverBuffer (buffer : PoolBuffer)
  | deliverBuffers (buffers : List PoolBuffer)
  | handleBuffers
  | cancelCapture (captureId : Int)
  | flushOfflineStream
  | proceed (i : Nat) (around : IppSurroundings)
  deriving DecidableEq

namespace IppNode

def new : IppNode := ⟨false, false, [], [], false, [], [], [], []⟩

/-- Nothing is acquired if a buffer of the batch is from the output pool. -/
def getOutputBuffer (around : IppSurroundings) (buffers : List PoolBuffer) : Option (Option PoolBuffer) :=
  match around.outPort with
  | none => none
  | some id =>
    if buffers.any (·.poolId = id) then some none
    else if id ∉ around.pools then none
    else some around.acquired

/-- The product gets the capture id and the status of the first buffer that is left: `none` if there is none left. -/
def classifyOutputBuffer (around : IppSurroundings) (outBuffer : Option PoolBuffer) (inBuffers : List PoolBuffer) :
    Option Classified :=
  match outBuffer with
  | some outBuffer => some ⟨some outBuffer, inBuffers⟩
  | none =>
    match around.outPort with
    | none => some ⟨none, []⟩
    | some id =>
      match inBuffers.find? (·.poolId = id) with
      | none => some ⟨none, []⟩
      | some product =>
        match inBuffers.eraseP (·.poolId = id) with
        | [] => none
        | first :: rest => some ⟨some { product with captureId := first.captureId, status := first.status }, first :: rest⟩

/-- A null pointer that is passed on is no buffer. -/
def passOn (s : IppNode) (result : Option PoolBuffer) : IppNode :=
  { s with delivered := s.delivered ++ (result.map PoolBuffer.key).toList }

def deliverOfflineBuffer (s : IppNode) (result : Option PoolBuffer) : IppNode :=
  if !s.callback then s else s.passOn result

def deliverAlgoProductBuffer (s : IppNode) (around : IppSurroundings) (result : Option PoolBuffer) : IppNode :=
  if s.offlineMode then s.deliverOfflineBuffer result
  else if around.outPort = none then s
  else s.passOn result

/-- Stops at the first buffer whose pool is not known. -/
def deliverCacheCheck (s : IppNode) (around : IppSurroundings) (buffers : List PoolBuffer) : IppNode :=
  { s with returned := s.returned ++ (buffers.takeWhile (·.poolId ∈ around.pools)).map PoolBuffer.key }

def acquire (s : IppNode) (outBuffer : Option PoolBuffer) : IppNode :=
  { s with acquired := s.acquired ++ (outBuffer.map PoolBuffer.key).toList }

def processCache (s : IppNode) (around : IppSurroundings) (buffers : List PoolBuffer) : IppNode :=
  match getOutputBuffer around buffers with
  | none => s
  | some outBuffer =>
    match classifyOutputBuffer around outBuffer buffers with
    | none => { s.acquire outBuffer with fault := true }
    | some ⟨product, recycleBuffers⟩ =>
      ((s.acquire outBuffer).deliverAlgoProductBuffer around product).deliverCacheCheck around recycleBuffers

/-- The same, but that nothing is done without a product. -/
def deliverCancelCache (s : IppNode) (around : IppSurroundings) (buffers : List PoolBuffer) : IppNode :=
  match getOutputBuffer around buffers with
  | none => s
  | some outBuffer =>
    match classifyOutputBuffer around outBuffer buffers with
    | none => { s.acquire outBuffer with fault := true }
    | some ⟨none, _⟩ => s.acquire outBuffer
    | some ⟨some product, recycleBuffers⟩ =>
      ((s.acquire outBuffer).deliverAlgoProductBuffer around (some product)).deliverCacheCheck around recycleBuffers

def bringThrough (s : IppNode) (around : IppSurroundings) : BatchPath × List PoolBuffer → IppNode
  | (.process, buffers) => s.processCache around buffers
  | (.cancel, buffers) => s.deliverCancelCache around buffers

/-- A batch whose first buffer is not in order does not wait. -/
def receiveCache (s : IppNode) (buffers : List PoolBuffer) : IppNode :=
  match buffers with
  | [] => { s with bufferCache := s.bufferCache ++ [[]] }
  | first :: rest =>
    if first.status ≠ .ok then { s with taken := s.taken ++ [(.cancel, first :: rest)] }
    else { s with bufferCache := s.bufferCache ++ [first :: rest] }

def deliverBuffers (s : IppNode) (buffers : List PoolBuffer) : IppNode :=
  { s with given := s.given ++ buffers.map PoolBuffer.key }.receiveCache buffers

def deliverBuffer (s : IppNode) (buffer : PoolBuffer) : IppNode := s.deliverBuffers [buffer]

def handleBuffers (s : IppNode) : IppNode :=
  match s.bufferCache with
  | [] => s
  | [] :: rest => { s with bufferCache := rest }
  | cache :: rest => { s with bufferCache := rest, taken := s.taken ++ [(.process, cache)] }

/-- `SetBufferStatus(CAMERA_BUFFER_STATUS_DROP)` on each buffer. -/
def dropped (cache : List PoolBuffer) : List PoolBuffer := cache.map ({ · with status := .drop })

/-- Takes the first batch with a buffer of the capture. -/
def cancelCapture (s : IppNode) (captureId : Int) : IppNode :=
  match s.bufferCache.find? (·.any (·.captureId = captureId)) with
  | none => s
  | some cache =>
    { s with
      bufferCache := s.bufferCache.eraseP (·.any (·.captureId = captureId))
      taken := s.taken ++ [(.cancel, dropped cache)] }

/-- The lock is held until all batches are through, so that none comes in between. -/
def flushOfflineStream (s : IppNode) : IppNode :=
  if !s.offlineMode then s
  else { s with bufferCache := [], taken := s.taken ++ s.bufferCache.map fun cache => (.cancel, dropped cache) }

def perform (s : IppNode) : IppStep → IppNode
  | .bindOfflineStreamCallback callback => { s with callback := callback }
  | .switchToOfflineMode => { s with offlineMode := true }
  | .deliverBuffer buffer => s.deliverBuffer buffer
  | .deliverBuffers buffers => s.deliverBuffers buffers
  | .handleBuffers => s.handleBuffers
  | .cancelCapture captureId => s.cancelCapture captureId
  | .flushOfflineStream => s.flushOfflineStream
  | .proceed i around =>
    match s.taken[i]? with
    | none => s
    | some batch => { s with taken := s.taken.eraseIdx i }.bringThrough around batch

/-- After a fault there are no steps. -/
def step (s : IppNode) (e : IppStep) : IppNode := if s.fault then s else s.perform e

def waiting (s : IppNode) : List (Nat × Int) :=
  s.bufferCache.flatten.map PoolBuffer.key ++ (s.taken.flatMap Prod.snd).map PoolBuffer.key

/-- Each buffer that was given is one of its own that were delivered, or is back in its pool, or is with the node; and each that
    was acquired was delivered. -/
structure Conserves (s : IppNode) (own : List (Nat × Int)) : Prop where
  given : s.given.Perm (own ++ s.returned ++ s.waiting)
  delivered : s.delivered.Perm (own ++ s.acquired)
  inside : s.fault = false

def Conserved (s : IppNode) : Prop := ∃ own, s.Conserves own

/-- Batches are not empty. -/
def Possible : IppStep → Prop
  | .deliverBuffers buffers => buffers ≠ []
  | _ => True

instance : (e : IppStep) → Decidable (Possible e)
  | .deliverBuffers buffers => inferInstanceAs (Decidable (buffers ≠ []))
  | .bindOfflineStreamCallback _ | .switchToOfflineMode | .deliverBuffer _ | .handleBuffers | .cancelCapture _
  | .flushOfflineStream | .proceed .. => inferInstanceAs (Decidable True)

/-- A batch with a buffer of the output pool has another one, and for any other batch one is acquired; the pools of what is
    recycled are known. -/
def Fits (around : IppSurroundings) (buffers : List PoolBuffer) : Prop :=
  match around.outPort with
  | none => False
  | some id =>
    (if buffers.any (·.poolId = id) then 2 ≤ buffers.length else id ∈ around.pools ∧ around.acquired.isSome) ∧
      ∀ buffer ∈ buffers.eraseP (·.poolId = id), buffer.poolId ∈ around.pools

instance (around : IppSurroundings) (buffers : List PoolBuffer) : Decidable (Fits around buffers) :=
  match around with
  | ⟨none, _, _⟩ => inferInstanceAs (Decidable False)
  | ⟨some id, pools, acquired⟩ => inferInstanceAs (Decidable
    ((if buffers.any (·.poolId = id) then 2 ≤ buffers.length else id ∈ pools ∧ acquired.isSome) ∧
      ∀ buffer ∈ buffers.eraseP (·.poolId = id), buffer.poolId ∈ pools))

/-- The batch that is brought through fits what it meets, and its product has somewhere to go. -/
def Serves (s : IppNode) : IppStep → Prop
  | .proceed i around => ∀ batch ∈ s.taken[i]?, Fits around batch.2 ∧ (s.offlineMode = true → s.callback = true)
  | _ => True

instance (s : IppNode) : (e : IppStep) → Decidable (s.Serves e)
  | .proceed i around => inferInstanceAs
    (Decidable (∀ batch ∈ s.taken[i]?, Fits around batch.2 ∧ (s.offlineMode = true → s.callback = true)))
  | .bindOfflineStreamCallback _ | .switchToOfflineMode | .deliverBuffer _ | .deliverBuffers _ | .handleBuffers
  | .cancelCapture _ | .flushOfflineStream => inferInstanceAs (Decidable True)

section
variable {around : IppSurroundings} {buffers : List PoolBuffer} {s : IppNode} {own : List (Nat × Int)}

@[simp] theorem keys_dropped (cache : List PoolBuffer) : (dropped cache).map PoolBuffer.key = cache.map PoolBuffer.key := by
  simp [dropped, PoolBuffer.key]

/-- A batch that fits has a product, which is one of its buffers or was acquired, and the rest goes back. -/
theorem Fits.classified (fits : Fits around buffers) : ∃ outBuffer product recycleBuffers,
    getOutputBuffer around buffers = some outBuffer ∧
    classifyOutputBuffer around outBuffer buffers = some ⟨some product, recycleBuffers⟩ ∧
    (∀ buffer ∈ recycleBuffers, buffer.poolId ∈ around.pools) ∧
    ((outBuffer = none ∧ (buffers.map PoolBuffer.key).Perm (product.key :: recycleBuffers.map PoolBuffer.key)) ∨
      (outBuffer = some product ∧ recycleBuffers = buffers)) := by
  obtain ⟨_ | id, pools, acquired⟩ := around
  · exact fits.elim
  obtain ⟨enough, known⟩ := fits
  by_cases own : buffers.any (·.poolId = id)
  · rw [if_pos own] at enough
    have isFound : (buffers.find? (·.poolId = id)).isSome := by
      rw [find?_isSome]
      simpa using own
    obtain ⟨found, search⟩ := Option.isSome_iff_exists.mp isFound
    have whole := perm_eraseP search
    cases left : buffers.eraseP (·.poolId = id) with
    | nil =>
      have short := whole.length_eq
      rw [left] at short
      simp at short
      omega
    | cons first rest =>
      rw [left] at whole known
      exact ⟨none, { found with captureId := first.captureId, status := first.status }, first :: rest,
        by simp only [getOutputBuffer, if_pos own], by simp only [classifyOutputBuffer, search, left], known,
        .inl ⟨rfl, whole.map PoolBuffer.key⟩⟩
  · rw [if_neg own] at enough
    obtain ⟨pool, gives⟩ := enough
    obtain ⟨outBuffer, rfl⟩ := Option.isSome_iff_exists.mp gives
    have none : ∀ buffer ∈ buffers, ¬ (decide (buffer.poolId = id)) = true := by simpa using own
    rw [eraseP_of_forall_not none] at known
    exact ⟨some outBuffer, outBuffer, buffers, by simp [getOutputBuffer, own, pool], rfl, known, .inr ⟨rfl, rfl⟩⟩

theorem deliverAlgoProductBuffer_passOn {result : Option PoolBuffer} (fits : Fits around buffers)
    (bound : s.offlineMode = true → s.callback = true) : s.deliverAlgoProductBuffer around result = s.passOn result := by
  have port : around.outPort ≠ none := by
    intro none
    simp [Fits, none] at fits
  simp only [deliverAlgoProductBuffer, deliverOfflineBuffer, port, if_false]
  split
  · rename_i offline
    simp [bound offline]
  · rfl

theorem deliverCacheCheck_known (known : ∀ buffer ∈ buffers, buffer.poolId ∈ around.pools) :
    s.deliverCacheCheck around buffers = { s with returned := s.returned ++ buffers.map PoolBuffer.key } := by
  rw [deliverCacheCheck, takeWhile_eq_self_iff.mpr (by simpa using known)]

theorem bringThrough_fits (fits : Fits around buffers) (bound : s.offlineMode = true → s.callback = true) (path : BatchPath) :
    ∃ outBuffer product recycleBuffers, s.bringThrough around (path, buffers) = { s with
        acquired := s.acquired ++ (outBuffer.map PoolBuffer.key).toList
        delivered := s.delivered ++ [product.key]
        returned := s.returned ++ recycleBuffers.map PoolBuffer.key } ∧
      ((outBuffer = none ∧ (buffers.map PoolBuffer.key).Perm (product.key :: recycleBuffers.map PoolBuffer.key)) ∨
        (outBuffer = some product ∧ recycleBuffers = buffers)) := by
  obtain ⟨outBuffer, product, recycleBuffers, gets, classified, known, whose⟩ := fits.classified
  refine ⟨outBuffer, product, recycleBuffers, ?_, whose⟩
  have bound : (s.acquire outBuffer).offlineMode = true → (s.acquire outBuffer).callback = true := bound
  cases path with
  | process =>
    simp only [bringThrough, processCache, gets, classified]
    rw [deliverAlgoProductBuffer_passOn fits bound, deliverCacheCheck_known known]
    rfl
  | cancel =>
    simp only [bringThrough, deliverCancelCache, gets, classified]
    rw [deliverAlgoProductBuffer_passOn fits bound, deliverCacheCheck_known known]
    rfl

theorem deliverBuffers_eq (s : IppNode) (buffers : List PoolBuffer) :
    s.deliverBuffers buffers =
      { s with given := s.given ++ buffers.map PoolBuffer.key, taken := s.taken ++ [(.cancel, buffers)] } ∨
    s.deliverBuffers buffers =
      { s with given := s.given ++ buffers.map PoolBuffer.key, bufferCache := s.bufferCache ++ [buffers] } := by
  cases buffers with
  | nil => exact .inr rfl
  | cons first rest =>
    by_cases drop : first.status ≠ .ok
    · exact .inl (if_pos drop)
    · exact .inr (if_neg drop)

namespace Conserves

section
variable (conserves : s.Conserves own)
include conserves

theorem hand {t : IppNode} (waits : t.waiting.Perm s.waiting) (given : t.given = s.given)
    (acquired : t.acquired = s.acquired) (delivered : t.delivered = s.delivered) (returned : t.returned = s.returned)
    (fault : t.fault = s.fault) : t.Conserves own where
  given := by
    rw [given, returned]
    exact conserves.given.trans (waits.symm.append_left _)
  delivered := by rw [delivered, acquired]; exact conserves.delivered
  inside := fault.trans conserves.inside

theorem deliverBuffers (buffers : List PoolBuffer) : (s.deliverBuffers buffers).Conserves own := by
  obtain ⟨given, delivered, inside⟩ := conserves
  have more := given.append_right (buffers.map PoolBuffer.key)
  rw [append_assoc] at more
  rcases deliverBuffers_eq s buffers with eq | eq
  · rw [eq]
    refine ⟨more.trans (.append_left _ ?_), delivered, inside⟩
    simp [waiting]
  · rw [eq]
    refine ⟨more.trans (.append_left _ ?_), delivered, inside⟩
    simp only [waiting, flatten_append, flatten_singleton, map_append, append_assoc]
    exact perm_append_comm.append_left _

theorem handleBuffers : s.handleBuffers.Conserves own := by
  simp only [IppNode.handleBuffers]
  split
  · exact conserves
  · rename_i rest first
    exact conserves.hand (by simp [waiting, first]) rfl rfl rfl rfl rfl
  · rename_i cache rest _ first
    refine conserves.hand ?_ rfl rfl rfl rfl rfl
    simp only [waiting, first, flatten_cons, flatMap_append, flatMap_singleton, map_append]
    rw [← append_assoc]
    refine perm_append_comm.trans ?_
    rw [append_assoc]

theorem cancelCapture (captureId : Int) : (s.cancelCapture captureId).Conserves own := by
  simp only [IppNode.cancelCapture]
  split
  · exact conserves
  · rename_i cache found
    refine conserves.hand ?_ rfl rfl rfl rfl rfl
    have whole := ((perm_eraseP found).flatten.map PoolBuffer.key).symm
    simp only [flatten_cons, map_append] at whole
    simp only [waiting, flatMap_append, flatMap_singleton, map_append, keys_dropped]
    refine List.Perm.trans ?_ (whole.append_right _)
    rw [← append_assoc]
    refine perm_append_comm.trans ?_
    rw [append_assoc]

theorem flushOfflineStream : s.flushOfflineStream.Conserves own := by
  simp only [IppNode.flushOfflineStream]
  split
  · exact conserves
  · refine conserves.hand ?_ rfl rfl rfl rfl rfl
    have keys : ((s.bufferCache.map fun cache => (BatchPath.cancel, dropped cache)).flatMap Prod.snd).map PoolBuffer.key =
        s.bufferCache.flatten.map PoolBuffer.key := by
      induction s.bufferCache with
      | nil => rfl
      | cons cache rest ih => simp [ih]
    simp only [waiting, flatMap_append, map_append, keys, flatten_nil, map_nil, nil_append]
    exact perm_append_comm

end

end Conserves

theorem Conserved.proceed (conserved : s.Conserved) {i : Nat} (serves : s.Serves (.proceed i around)) :
    (s.perform (.proceed i around)).Conserved := by
  obtain ⟨own, given, delivered, inside⟩ := conserved
  simp only [perform]
  split
  · exact ⟨own, given, delivered, inside⟩
  rename_i batch taken
  obtain ⟨path, buffers⟩ := batch
  obtain ⟨fits, bound⟩ := serves _ taken
  obtain ⟨within, is⟩ := List.getElem?_eq_some_iff.mp taken
  have whole := getElem_cons_eraseIdx_perm within
  rw [is] at whole
  have waits : s.waiting.Perm (buffers.map PoolBuffer.key ++ { s with taken := s.taken.eraseIdx i }.waiting) := by
    have keys := (whole.flatMap_right Prod.snd).map PoolBuffer.key
    simp only [flatMap_cons, map_append] at keys
    simp only [waiting]
    refine (keys.symm.append_left _).trans ?_
    rw [← append_assoc, ← append_assoc]
    exact perm_append_comm.append_right _
  obtain ⟨outBuffer, product, recycleBuffers, through, whose⟩ :=
    bringThrough_fits (s := { s with taken := s.taken.eraseIdx i }) fits bound path
  rw [through]
  rcases whose with ⟨rfl, keys⟩ | ⟨rfl, rfl⟩
  · -- the product is one of the batch
    refine ⟨own ++ [product.key], ?_, ?_, inside⟩
    · refine (given.trans ((waits.trans (keys.append_right _)).append_left _)).trans ?_
      rw [perm_iff_count]
      intro key
      simp [waiting, count_cons]
      omega
    · refine (delivered.append_right _).trans ?_
      rw [Option.map_none, Option.toList_none, append_nil, append_assoc, append_assoc]
      exact perm_append_comm.append_left _
  · -- the product was acquired
    refine ⟨own, ?_, ?_, inside⟩
    · refine (given.trans (waits.append_left _)).trans ?_
      simp [waiting]
    · refine (delivered.append_right _).trans ?_
      simp

theorem Conserved.step (conserved : s.Conserved) {e : IppStep} (serves : s.Serves e) : (s.step e).Conserved := by
  simp only [IppNode.step]
  split
  · exact conserved
  cases e with
  | proceed i around => exact conserved.proceed serves
  | bindOfflineStreamCallback callback | switchToOfflineMode =>
    obtain ⟨own, conserves⟩ := conserved
    exact ⟨own, conserves.hand (.refl _) rfl rfl rfl rfl rfl⟩
  | deliverBuffer buffer =>
    obtain ⟨own, conserves⟩ := conserved
    exact ⟨own, conserves.deliverBuffers [buffer]⟩
  | deliverBuffers buffers =>
    obtain ⟨own, conserves⟩ := conserved
    exact ⟨own, conserves.deliverBuffers buffers⟩
  | handleBuffers =>
    obtain ⟨own, conserves⟩ := conserved
    exact ⟨own, conserves.handleBuffers⟩
  | cancelCapture captureId =>
    obtain ⟨own, conserves⟩ := conserved
    exact ⟨own, conserves.cancelCapture captureId⟩
  | flushOfflineStream =>
    obtain ⟨own, conserves⟩ := conserved
    exact ⟨own, conserves.flushOfflineStream⟩

end

def single : List IppStep := [.deliverBuffer ⟨0, 5, 7, .ok⟩, .handleBuffers, .proceed 0 ⟨some 5, [5, 6], none⟩]

end IppNode

end Peripheral.Camera
