import Mathlib.Algebra.Group.Nat.Defs
import Mathlib.Data.List.Nodup
import Mathlib.Data.List.Perm.Basic
import Peripheral.Transitions

/-!
The buffers of a surface on their way to the camera and back, `stream_tunnel.cpp`. A
call of `GetBuffer` is cut where it calls the surface and where it waits; all other
calls, and what the surface and the conversion answer, come in any order. A camera
buffer goes by the number of its object.
-/
namespace Peripheral.Camera
open Peripheral.Transitions List

/-- What `RequestBuffer` returns. -/
inductive SurfaceResult
  | buffer (sb : Nat)
  | noBuffer
  | error
  deriving DecidableEq

/-- Where a call of `GetBuffer` is: before `RequestBuffer`, waiting, or behind the loop. -/
inductive GetPhase
  | request
  | wait
  | took (result : SurfaceResult)
  deriving DecidableEq

/-- `buffers` has the surface buffer of each camera buffer. Which surface buffers were obtained, which were flushed or cancelled,
    and the camera buffers that were returned and not put back are only recorded. -/
structure StreamTunnel where
  index : Int
  frameCount : Nat
  buffers : List (Nat × Nat)
  wakeup : Bool
  stop : Bool
  restBuffers : UInt32
  getting : Option GetPhase
  nextBuffer : Nat
  obtained : List Nat
  handedBack : List Nat
  out : List Nat
  deriving DecidableEq

/-- `proceed` has what the surface and the conversion answer, `putBuffer` whether the status is OK. -/
inductive TunnelStep
  | getBuffer
  | proceed (result : SurfaceResult) (converted : Bool)
  | putBuffer (buffer : Nat) (statusOk : Bool)
  | notifyStop
  | notifyStart
  | cleanBuffers
  deriving DecidableEq

namespace StreamTunnel

def new : StreamTunnel where
  index := -1
  frameCount := 0
  buffers := []
  wakeup := false
  stop := false
  restBuffers := 0
  getting := none
  nextBuffer := 0
  obtained := []
  handedBack := []
  out := []

def surfaceOf (s : StreamTunnel) (buffer : Nat) : Option Nat := (s.buffers.find? (·.1 = buffer)).map (·.2)

/-- A call of `GetBuffer` returns a camera buffer. -/
def giveOut (s : StreamTunnel) (buffer : Nat) : StreamTunnel :=
  { s with restBuffers := s.restBuffers + 1, out := s.out ++ [buffer] }

def finishGet (s : StreamTunnel) (result : SurfaceResult) (converted : Bool) : StreamTunnel :=
  let s := { s with wakeup := false, getting := none }
  match result with
  | .noBuffer | .error => s
  | .buffer sb =>
    if s.stop then { s with handedBack := s.handedBack ++ [sb] }
    else
      match s.buffers.find? (·.2 = sb) with
      | some (cb, _) => s.giveOut cb
      | none =>
        if !converted then s
        else
          { s with
            index := s.index + 1
            buffers := s.buffers ++ [(s.nextBuffer, sb)]
            nextBuffer := s.nextBuffer + 1 }.giveOut s.nextBuffer

/-- `GetBuffer` goes on by one part. -/
def proceed (s : StreamTunnel) (result : SurfaceResult) (converted : Bool) : StreamTunnel :=
  match s.getting with
  | none => s
  | some .request =>
    match result with
    | .buffer sb => { s with obtained := s.obtained ++ [sb], getting := some (.took (.buffer sb)) }
    | .noBuffer => { s with getting := some .wait }
    | .error => { s with getting := some (.took .error) }
  | some .wait =>
    if !s.wakeup then s
    else if s.stop then { s with getting := some (.took .noBuffer) }
    else { s with getting := some .request }
  | some (.took taken) => s.finishGet taken converted

/-- A buffer that does not belong to the tunnel is refused. -/
def putBuffer (s : StreamTunnel) (buffer : Nat) (statusOk : Bool) : StreamTunnel :=
  match s.surfaceOf buffer with
  | none => s
  | some sb =>
    { s with
      frameCount := if statusOk then s.frameCount + 1 else s.frameCount
      handedBack := s.handedBack ++ [sb]
      restBuffers := s.restBuffers - 1
      wakeup := true
      out := s.out.erase buffer }

def cleanBuffers (s : StreamTunnel) : StreamTunnel :=
  if s.stop = false then s else { s with wakeup := true, buffers := [], index := -1 }

def step (s : StreamTunnel) : TunnelStep → StreamTunnel
  | .getBuffer => if s.getting.isSome then s else { s with getting := some .request }
  | .proceed result converted => s.proceed result converted
  | .putBuffer buffer statusOk => s.putBuffer buffer statusOk
  | .notifyStop => { s with wakeup := true, stop := true }
  | .notifyStart => { s with stop := false }
  | .cleanBuffers => s.cleanBuffers

/-- `CleanBuffers` comes when all buffers were returned. -/
def Possible (s : StreamTunnel) : TunnelStep → Prop
  | .cleanBuffers => s.out = []
  | _ => True

/-- The surface buffer that a call of `GetBuffer` has and has not decided about. -/
def inHand (s : StreamTunnel) : List Nat :=
  match s.getting with
  | some (.took (.buffer sb)) => [sb]
  | _ => []

/-- The counter counts the camera buffers that are out, every surface buffer that was obtained was handed back once or is attached
    to a camera buffer that is out, and no surface buffer has two camera buffers. -/
structure Accounts (s : StreamTunnel) : Prop where
  rest : s.restBuffers.toNat = s.out.length
  attached : ∀ cb ∈ s.out, (s.surfaceOf cb).isSome = true
  surface : s.obtained.Perm (s.handedBack ++ s.inHand ++ s.out.filterMap s.surfaceOf)
  once : (s.buffers.map Prod.snd).Nodup

/-- A surface buffer that has no camera buffer yet can be converted, a buffer of the tunnel is only put back while it is out, and
    the counter can count what is out. -/
def Smooth (s : StreamTunnel) : TunnelStep → Prop
  | .proceed _ converted =>
    ∀ sb, s.getting = some (.took (.buffer sb)) → s.stop = false →
      (s.buffers.find? (·.2 = sb) = none → converted = true) ∧ s.out.length + 1 < 2 ^ 32
  | .putBuffer buffer _ => (s.surfaceOf buffer).isSome = true → buffer ∈ s.out
  | _ => True

instance (s : StreamTunnel) : (e : TunnelStep) → Decidable (s.Possible e)
  | .cleanBuffers => inferInstanceAs (Decidable (s.out = []))
  | .getBuffer | .proceed .. | .putBuffer .. | .notifyStop | .notifyStart => inferInstanceAs (Decidable True)

structure Kept (s : StreamTunnel) : Prop extends Accounts s where
  keys : (s.buffers.map Prod.fst).Nodup
  numbers : ∀ entry ∈ s.buffers, entry.1 < s.nextBuffer

theorem surfaceOf_of_mem {s : StreamTunnel} (keys : (s.buffers.map Prod.fst).Nodup) {entry : Nat × Nat}
    (member : entry ∈ s.buffers) : s.surfaceOf entry.1 = some entry.2 := by
  simp only [surfaceOf]
  cases found : s.buffers.find? (·.1 = entry.1) with
  | none => exact absurd (by simp) (find?_eq_none.mp found entry member)
  | some other =>
    have same : other.1 = entry.1 := by simpa using find?_some found
    rw [inj_on_of_nodup_map keys (mem_of_find?_eq_some found) member same]
    rfl

namespace Kept
variable {s : StreamTunnel}

theorem new : Kept new := by
  refine ⟨⟨rfl, ?_, ?_, ?_⟩, ?_, ?_⟩ <;> simp [StreamTunnel.new, inHand]

theorem same (kept : Kept s) {t : StreamTunnel} (rest : t.restBuffers = s.restBuffers) (out : t.out = s.out)
    (buffers : t.buffers = s.buffers) (next : t.nextBuffer = s.nextBuffer)
    (surface : t.obtained.Perm (t.handedBack ++ t.inHand ++ s.out.filterMap s.surfaceOf)) : Kept t := by
  have attached : t.surfaceOf = s.surfaceOf := by
    funext cb
    simp [surfaceOf, buffers]
  refine ⟨⟨?_, ?_, ?_, ?_⟩, ?_, ?_⟩
  · rw [rest, out]
    exact kept.rest
  · rw [out, attached]
    exact kept.attached
  · rw [out, attached]
    exact surface
  · rw [buffers]
    exact kept.once
  · rw [buffers]
    exact kept.keys
  · rw [buffers, next]
    exact kept.numbers

theorem giveOut (sb : Nat) {cb : Nat} (keys : (s.buffers.map Prod.fst).Nodup) (numbers : ∀ entry ∈ s.buffers, entry.1 < s.nextBuffer)
    (once : (s.buffers.map Prod.snd).Nodup) (attached : ∀ cb ∈ s.out, (s.surfaceOf cb).isSome = true)
    (rest : s.restBuffers.toNat = s.out.length) (fits : s.out.length + 1 < 2 ^ 32) (own : (cb, sb) ∈ s.buffers)
    (free : s.inHand = []) (surface : s.obtained.Perm (s.handedBack ++ [sb] ++ s.out.filterMap s.surfaceOf)) :
    Kept (s.giveOut cb) := by
  have same : (s.giveOut cb).surfaceOf = s.surfaceOf := rfl
  have found := surfaceOf_of_mem keys own
  refine ⟨⟨?_, ?_, ?_, once⟩, keys, numbers⟩
  · simp only [StreamTunnel.giveOut, UInt32.toNat_add, length_append, length_singleton, rest]
    exact Nat.mod_eq_of_lt (by simpa using fits)
  · intro buffer member
    rw [same]
    rcases mem_append.mp member with before | last
    · exact attached buffer before
    · rw [mem_singleton.mp last, found]
      rfl
  · have none : (s.giveOut cb).inHand = [] := free
    rw [same, none]
    simp only [StreamTunnel.giveOut, filterMap_append, append_nil]
    refine surface.trans ?_
    simp only [append_assoc, filterMap_cons_some found, filterMap_nil]
    exact (perm_append_comm).append_left s.handedBack

section
variable (kept : Kept s)
include kept

theorem surfaceOf_append (entry : Nat × Nat) {cb : Nat} (member : cb ∈ s.out) :
    ({ s with buffers := s.buffers ++ [entry] } : StreamTunnel).surfaceOf cb = s.surfaceOf cb := by
  have attached := kept.attached cb member
  simp only [surfaceOf, Option.isSome_map] at attached ⊢
  rw [find?_append, Option.or_of_isSome attached]

theorem finishGet {result : SurfaceResult} {converted : Bool} (now : s.getting = some (.took result))
    (smooth : s.Smooth (.proceed result converted)) : Kept (s.finishGet result converted) := by
  have surface := kept.surface
  cases result with
  | noBuffer => exact kept.same rfl rfl rfl rfl (by simpa [StreamTunnel.finishGet, inHand, now] using surface)
  | error => exact kept.same rfl rfl rfl rfl (by simpa [StreamTunnel.finishGet, inHand, now] using surface)
  | buffer sb =>
    have inHand_eq : s.inHand = [sb] := by simp [inHand, now]
    rw [inHand_eq] at surface
    simp only [StreamTunnel.finishGet]
    split
    · exact kept.same rfl rfl rfl rfl (by simpa [inHand] using surface)
    · rename_i running
      obtain ⟨converts, fits⟩ := smooth sb now (by simpa using running)
      cases found : s.buffers.find? (·.2 = sb) with
      | some entry =>
        have own : (entry.1, sb) ∈ s.buffers := by
          have its : entry.2 = sb := by simpa using find?_some found
          rw [← its]
          exact mem_of_find?_eq_some found
        exact giveOut (s := { s with wakeup := false, getting := none }) sb kept.keys kept.numbers kept.once kept.attached kept.rest
          fits own rfl surface
      | none =>
        have unknown : ∀ entry ∈ s.buffers, entry.2 ≠ sb := by simpa using found
        have fresh : s.nextBuffer ∉ s.buffers.map Prod.fst := by
          intro used
          obtain ⟨entry, member, its⟩ := mem_map.mp used
          have below := kept.numbers entry member
          omega
        have keep := fun cb (member : cb ∈ s.out) => kept.surfaceOf_append (s.nextBuffer, sb) member
        rw [if_neg (by simp [converts found])]
        apply giveOut sb
        · simpa [nodup_append] using ⟨kept.keys, fun cb sb' member same => fresh (mem_map.mpr ⟨_, member, same⟩)⟩
        · intro entry member
          rcases mem_append.mp member with before | last
          · exact Nat.lt_succ_of_lt (kept.numbers entry before)
          · rw [mem_singleton.mp last]
            exact Nat.lt_succ_self _
        · simpa [nodup_append] using ⟨kept.once, fun cb sb' member same => unknown _ member same⟩
        · intro cb member
          exact (congrArg Option.isSome (keep cb member)).trans (kept.attached cb member)
        · exact kept.rest
        · exact fits
        · simp
        · rfl
        · refine surface.trans (List.Perm.of_eq ?_)
          exact congrArg (s.handedBack ++ [sb] ++ ·) (filterMap_congr fun cb member => (keep cb member).symm)

theorem proceed {result : SurfaceResult} {converted : Bool} (smooth : s.Smooth (.proceed result converted)) :
    Kept (s.proceed result converted) := by
  have surface := kept.surface
  simp only [StreamTunnel.proceed]
  cases now : s.getting with
  | none => exact kept
  | some phase =>
    have rest : s.obtained.Perm (s.handedBack ++ s.out.filterMap s.surfaceOf) → phase = .request ∨ phase = .wait →
        ∀ t : StreamTunnel, t = { s with getting := t.getting } → t.inHand = [] → Kept t := by
      intro free _ t same none
      rw [same] at none ⊢
      exact kept.same rfl rfl rfl rfl (by simpa [none] using free)
    cases phase with
    | request =>
      have free : s.obtained.Perm (s.handedBack ++ s.out.filterMap s.surfaceOf) := by simpa [inHand, now] using surface
      cases result with
      | buffer sb =>
        refine kept.same rfl rfl rfl rfl ((free.append_right [sb]).trans ?_)
        simp only [inHand, append_assoc]
        exact (perm_append_comm).append_left s.handedBack
      | noBuffer => exact rest free (.inl rfl) _ rfl rfl
      | error => exact rest free (.inl rfl) _ rfl rfl
    | wait =>
      have free : s.obtained.Perm (s.handedBack ++ s.out.filterMap s.surfaceOf) := by simpa [inHand, now] using surface
      dsimp only
      split
      · exact kept
      split
      · exact rest free (.inr rfl) _ rfl rfl
      · exact rest free (.inr rfl) _ rfl rfl
    | took taken => exact kept.finishGet now smooth

theorem putBuffer {buffer : Nat} {statusOk : Bool} (smooth : s.Smooth (.putBuffer buffer statusOk)) :
    Kept (s.putBuffer buffer statusOk) := by
  simp only [StreamTunnel.putBuffer]
  cases its : s.surfaceOf buffer with
  | none => exact kept
  | some sb =>
    have member : buffer ∈ s.out := smooth (by simp [its])
    have one : 1 ≤ s.out.length := length_pos_of_mem member
    have parts := perm_cons_erase member
    have surface := kept.surface
    refine ⟨⟨?_, ?_, ?_, kept.once⟩, kept.keys, kept.numbers⟩
    · have above : (1 : UInt32) ≤ s.restBuffers := by
        rw [UInt32.le_iff_toNat_le, kept.rest]
        exact one
      dsimp only
      rw [UInt32.toNat_sub_of_le _ _ above, kept.rest, length_erase_of_mem member]
      rfl
    · intro cb still
      exact kept.attached cb (mem_of_mem_erase still)
    · have held : (s.out.filterMap s.surfaceOf).Perm (sb :: (s.out.erase buffer).filterMap s.surfaceOf) := by
        simpa [filterMap_cons_some its] using parts.filterMap s.surfaceOf
      refine surface.trans ((held.append_left (s.handedBack ++ s.inHand)).trans ?_)
      simp only [append_assoc]
      exact (perm_middle (a := sb)).append_left s.handedBack

theorem cleanBuffers (possible : s.Possible .cleanBuffers) : Kept s.cleanBuffers := by
  have none : s.out = [] := possible
  have surface := kept.surface
  have rest := kept.rest
  simp only [none, filterMap_nil, append_nil] at surface rest
  simp only [StreamTunnel.cleanBuffers]
  split
  · exact kept
  · refine ⟨⟨?_, ?_, ?_, ?_⟩, ?_, ?_⟩ <;> simp [none, rest, inHand] at surface ⊢
    exact surface

theorem step {e : TunnelStep} (possible : s.Possible e) (smooth : s.Smooth e) : Kept (s.step e) := by
  have surface := kept.surface
  cases e with
  | getBuffer =>
    simp only [StreamTunnel.step]
    cases now : s.getting with
    | none => exact kept.same rfl rfl rfl rfl (by simpa [inHand, now] using surface)
    | some phase => exact kept
  | proceed result converted => exact kept.proceed smooth
  | putBuffer buffer statusOk => exact kept.putBuffer smooth
  | notifyStop => exact kept.same rfl rfl rfl rfl surface
  | notifyStart => exact kept.same rfl rfl rfl rfl surface
  | cleanBuffers => exact kept.cleanBuffers possible

end

end Kept

/-- In every state of a run whose steps meet the conditions the accounts are right. -/
theorem accounts_right {s : StreamTunnel} (reached : Reaches step (fun s e => s.Possible e ∧ s.Smooth e) new s) : s.Accounts :=
  (reached.keeps Kept.new fun _ _ kept both => kept.step both.1 both.2).toAccounts

def twoBuffers : List TunnelStep :=
  [.getBuffer, .proceed (.buffer 3) true, .proceed .error true, .putBuffer 0 true, .getBuffer, .proceed .noBuffer true,
    .proceed .noBuffer true, .proceed (.buffer 3) true, .notifyStop, .proceed .error true, .cleanBuffers]

theorem twoBuffers_right : (twoBuffers.foldl step new).Accounts ∧ (twoBuffers.foldl step new).handedBack = [3, 3] := by
  refine ⟨accounts_right (Takes.reaches ?_), by decide⟩
  simp [twoBuffers, Transitions.Takes, Possible, Smooth, step, proceed, new, finishGet, giveOut, putBuffer, surfaceOf]

def unconverted : List TunnelStep := [.getBuffer, .proceed (.buffer 3) true, .proceed .error false]

/-- The surface never gets its buffer back. -/
theorem unconverted_not_right :
    Reaches step Possible new (unconverted.foldl step new) ∧ ¬ (unconverted.foldl step new).Accounts := by
  constructor
  · exact Takes.reaches (by decide)
  · intro accounts
    exact absurd accounts.surface.length_eq (by decide)

end StreamTunnel

end Peripheral.Camera
