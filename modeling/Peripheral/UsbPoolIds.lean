import Peripheral.UsbPoolMemory

/-!
Identifiers of pools. They come from a counter of the process that starts again
after `INTERFACE_POOL_ID_MAX` pools, so a pool that lives long enough can meet
another one with its identifier. Every pool of a session knows how far the counter
went since it was made; as long as that stays below a whole round for the pools in
the list, identifiers lead back to their pools.
-/
namespace Peripheral.UsbPool
open Peripheral.Usb Host Function List

def Host.start (idNum : Nat) : Host := ⟨idNum, 0, [], [], fun _ => none, fun _ => none⟩

def Host.run (h : Host) (calls : List HostCall) : Option Host := calls.foldlM call h

def Host.dropPool (h : Host) (p : Nat) : Host :=
  { h with ifacePoolList := h.ifacePoolList.erase p, pools := update h.pools p none }

/-- The pools of the session have different identifiers, each object leads to the pool it is in, and the pool that
    should be destroyed is destroyed. -/
structure Unambiguous (h : Host) : Prop where
  ids : ∀ p ∈ h.ifacePoolList, ∀ q ∈ h.ifacePoolList, ∀ pool pool', h.pools p = some pool → h.pools q = some pool' →
    pool.objectId = pool'.objectId → p = q
  resolves : ∀ p ∈ h.ifacePoolList, ∃ pool, h.pools p = some pool ∧
    (∀ obj ∈ pool.interfaceList, findPool h (.objectId obj.parentObjectId) = some (p, pool)) ∧
    ifDestroyInterfacePool h p = some (true, h.dropPool p)

/-- What the changes keep: the pools in the list are there, once each and below the fresh addresses, with different
    identifiers that their objects know. -/
structure Identified (h : Host) : Prop where
  live : ∀ p ∈ h.ifacePoolList, ∃ pool, h.pools p = some pool ∧
    ∀ obj ∈ pool.interfaceList, obj.parentObjectId = pool.objectId
  nodup : h.ifacePoolList.Nodup
  below : ∀ p ∈ h.ifacePoolList, p < h.fresh
  ids : ∀ p ∈ h.ifacePoolList, ∀ q ∈ h.ifacePoolList, ∀ pool pool', h.pools p = some pool → h.pools q = some pool' →
    pool.objectId = pool'.objectId → p = q

section
variable {h h' : Host}

theorem Identified.start (idNum : Nat) : Identified (start idNum) :=
  ⟨by simp [Host.start], by simp [Host.start], by simp [Host.start], by simp [Host.start]⟩

section
variable (identified : Identified h)
include identified

theorem Identified.setPool {p : Nat} {pool pool' : InterfacePool} (there : h.pools p = some pool)
    (alike : pool.Alike pool') : Identified (h.setPool p pool') := by
  have same : ∀ q pool₁, (h.setPool p pool').pools q = some pool₁ → ∃ pool₀, h.pools q = some pool₀ ∧ pool₀.Alike pool₁ := by
    intro q pool₁ is
    by_cases here : q = p
    · subst here
      simp only [setPool_pools, update_self] at is
      cases is
      exact ⟨pool, there, alike⟩
    · rw [setPool_pools, update_of_ne here] at is
      exact ⟨pool₁, is, .refl pool₁⟩
  refine ⟨?_, identified.nodup, identified.below, ?_⟩
  · intro q member
    obtain ⟨pool₀, there₀, own⟩ := identified.live q member
    by_cases here : q = p
    · subst here
      rw [there] at there₀
      cases there₀
      refine ⟨pool', by simp, ?_⟩
      intro obj' inside
      rw [alike.objectId]
      rcases alike.parents obj' inside with is | ⟨obj, before, is⟩
      · exact is
      · rw [is]
        exact own obj before
    · exact ⟨pool₀, by rw [setPool_pools, update_of_ne here]; exact there₀, own⟩
  · intro q member r member' pool₁ pool₂ is is' equal
    obtain ⟨pool₃, before, alike₃⟩ := same q pool₁ is
    obtain ⟨pool₄, before', alike₄⟩ := same r pool₂ is'
    rw [alike₃.objectId, alike₄.objectId] at equal
    exact identified.ids q member r member' pool₃ pool₄ before before' equal

theorem Identified.create (unused : h.Unused) (busNum devAddr : UInt8) (d : Nat) :
    Identified (usbIfCreatInterfacePool h busNum devAddr d).2 := by
  have other : ∀ p ∈ h.ifacePoolList, p ≠ h.fresh := fun p member => Nat.ne_of_lt (identified.below p member)
  unfold usbIfCreatInterfacePool
  refine ⟨?_, ?_, ?_, ?_⟩
  · intro p member
    rcases mem_append.mp member with before | last
    · obtain ⟨pool, there, own⟩ := identified.live p before
      exact ⟨pool, by simp [update_of_ne (other p before), there], own⟩
    · rw [mem_singleton.mp last]
      exact ⟨⟨h.nextId, busNum, devAddr, 0, 0, d, []⟩, by simp [nextId], by simp⟩
  · rw [nodup_append]
    refine ⟨identified.nodup, nodup_singleton _, ?_⟩
    intro p before q last
    rw [mem_singleton.mp last]
    exact other p before
  · intro p member
    simp only
    rcases mem_append.mp member with before | last
    · have := identified.below p before
      omega
    · rw [mem_singleton.mp last]
      omega
  · intro p member q member' pool pool' is is' equal
    simp only [setPool_pools] at is is'
    rcases mem_append.mp member with before | last
    · rw [update_of_ne (other p before)] at is
      rcases mem_append.mp member' with before' | last'
      · rw [update_of_ne (other q before')] at is'
        exact identified.ids p before q before' pool pool' is is' equal
      · rw [mem_singleton.mp last', update_self] at is'
        cases is'
        exact absurd equal (unused p before pool is)
    · rw [mem_singleton.mp last, update_self] at is
      cases is
      rcases mem_append.mp member' with before' | last'
      · rw [update_of_ne (other q before')] at is'
        exact absurd equal.symm (unused q before' pool' is')
      · rw [mem_singleton.mp last, mem_singleton.mp last']

theorem Identified.drop (p : Nat) : Identified (h.dropPool p) := by
  have kept : ∀ q, q ∈ h.ifacePoolList.erase p → q ∈ h.ifacePoolList ∧ q ≠ p := by
    intro q member
    rw [identified.nodup.mem_erase_iff] at member
    exact ⟨member.2, member.1⟩
  refine ⟨?_, identified.nodup.erase p, fun q member => identified.below q (kept q member).1, ?_⟩
  · intro q member
    obtain ⟨pool, there, own⟩ := identified.live q (kept q member).1
    exact ⟨pool, by simp [dropPool, update_of_ne (kept q member).2, there], own⟩
  · intro q member r member' pool pool' is is' equal
    simp only [dropPool, update_of_ne (kept q member).2, update_of_ne (kept r member').2] at is is'
    exact identified.ids q (kept q member).1 r (kept r member').1 pool pool' is is' equal

theorem Identified.touch (touch : Touch Host.Unused h h') : Identified h' := by
  cases touch with
  | pool there alike => exact identified.setPool there alike
  | device there same counted => exact ⟨identified.live, identified.nodup, identified.below, identified.ids⟩
  | opened busNum usbAddr =>
    refine ⟨identified.live, identified.nodup, ?_, identified.ids⟩
    intro p member
    exact Nat.lt_succ_of_lt (identified.below p member)
  | created busNum devAddr d unused => exact identified.create unused busNum devAddr d
  | destroyed p => exact identified.drop p
  | closed d => exact ⟨identified.live, identified.nodup, identified.below, identified.ids⟩
  | elsewhere => exact ⟨identified.live, identified.nodup, identified.below, identified.ids⟩

theorem Identified.touches (touches : Touches Host.Unused h h') : Identified h' := by
  induction touches with
  | refl => exact identified
  | tail _ touch ih => exact ih.touch touch

theorem Identified.findPool_eq {p : Nat} (member : p ∈ h.ifacePoolList) {pool : InterfacePool}
    (there : h.pools p = some pool) : findPool h (.objectId pool.objectId) = some (p, pool) := by
  refine findPool_unique member there (by simp [PoolQuery.finds]) ?_
  intro q member' pool' there' finds
  simp only [PoolQuery.finds, decide_eq_true_eq] at finds
  exact identified.ids q member' p member pool' pool there' there finds

theorem Identified.unambiguous : Unambiguous h := by
  refine ⟨identified.ids, ?_⟩
  intro p member
  obtain ⟨pool, there, own⟩ := identified.live p member
  refine ⟨pool, there, ?_, ?_⟩
  · intro obj inside
    rw [own obj inside]
    exact identified.findPool_eq member there
  · have some_ : h.ifacePoolList ≠ [] := ne_nil_of_mem member
    simp only [ifDestroyInterfacePool, there, Option.bind_eq_bind, Option.bind_some, if_neg some_,
      identified.findPool_eq member there]
    rfl

end

end

theorem Identified.call {c : HostCall} (identified : Identified h) (unused : h.makes c → h.Unused)
    (called : h.call c = some h') : Identified h' := by
  refine identified.touches (call_touches ?_ called)
  intro made g same p member pool there
  rw [same.listed] at member
  rw [same.pools] at there
  rw [nextId, same.idNum]
  exact unused made p member pool there

theorem run_append (h : Host) (calls more : List HostCall) : h.run (calls ++ more) = (h.run calls).bind (·.run more) :=
  foldlM_append

theorem run_concat (h : Host) (calls : List HostCall) (c : HostCall) :
    h.run (calls ++ [c]) = (h.run calls).bind (·.call c) := by
  rw [run_append]
  exact Option.bind_congr fun g _ => by simp [run]

/-! ### How far the counter goes -/

/-- The counter is where it was, or one further when a pool may be made. A pool of the session was there with its
    identifier, or has the latest one. -/
structure Follows (made : Prop) (h h' : Host) : Prop where
  idNum : h'.idNum = h.idNum ∨ made ∧ h'.idNum = h.nextId
  pools : ∀ p ∈ h'.ifacePoolList, ∀ pool', h'.pools p = some pool' →
    (p ∈ h.ifacePoolList ∧ ∃ pool, h.pools p = some pool ∧ pool'.objectId = pool.objectId) ∨
      pool'.objectId = h'.idNum ∧ h'.idNum = h.nextId

theorem nextId_ne (h : Host) : h.nextId ≠ h.idNum := by
  unfold nextId interfacePoolIdMax
  omega

namespace Follows
variable {made : Prop} {g g' : Host}

theorem refl (h : Host) : Follows made h h :=
  ⟨.inl rfl, fun _ member pool there => .inl ⟨member, pool, there, rfl⟩⟩

/-- A change that keeps the counter and the identifiers of the pools. -/
theorem keep (follows : Follows made h g) (idNum : g'.idNum = g.idNum)
    (pools : ∀ p ∈ g'.ifacePoolList, ∀ pool', g'.pools p = some pool' →
      p ∈ g.ifacePoolList ∧ ∃ pool, g.pools p = some pool ∧ pool'.objectId = pool.objectId) : Follows made h g' := by
  refine ⟨by rw [idNum]; exact follows.idNum, ?_⟩
  intro p member pool' there
  obtain ⟨before, pool, there₀, same⟩ := pools p member pool' there
  rw [same, idNum]
  exact follows.pools p before pool there₀

/-- Before the counter moves, the pools are the old ones. -/
theorem old (follows : Follows made h g) (still : g.idNum = h.idNum) {p : Nat} (member : p ∈ g.ifacePoolList)
    {pool' : InterfacePool} (there : g.pools p = some pool') :
    p ∈ h.ifacePoolList ∧ ∃ pool, h.pools p = some pool ∧ pool'.objectId = pool.objectId := by
  rcases follows.pools p member pool' there with old | ⟨_, next⟩
  · exact old
  · exact absurd (next.symm.trans still) (nextId_ne h)

theorem touch (follows : Follows made h g) (touch : Touch (fun x => x.idNum = h.idNum ∧ made) g g') : Follows made h g' := by
  cases touch with
  | @pool q pool₀ pool₁ there alike =>
    refine follows.keep rfl ?_
    intro p member pool' there'
    by_cases here : p = q
    · subst here
      rw [setPool_pools, update_self] at there'
      cases there'
      exact ⟨member, pool₀, there, alike.objectId⟩
    · rw [setPool_pools, update_of_ne here] at there'
      exact ⟨member, pool', there', rfl⟩
  | device there same counted => exact follows.keep rfl fun _ member pool there => ⟨member, pool, there, rfl⟩
  | opened busNum usbAddr => exact follows.keep rfl fun _ member pool there => ⟨member, pool, there, rfl⟩
  | closed d => exact follows.keep rfl fun _ member pool there => ⟨member, pool, there, rfl⟩
  | destroyed q =>
    refine follows.keep rfl ?_
    intro p member pool' there'
    have other : p ≠ q := by
      rintro rfl
      simp at there'
    simp only [update_of_ne other] at there'
    exact ⟨mem_of_mem_erase member, pool', there', rfl⟩
  | created busNum devAddr d allowed =>
    obtain ⟨still, may⟩ := allowed
    have next : (usbIfCreatInterfacePool g busNum devAddr d).2.idNum = h.nextId := by
      simp only [usbIfCreatInterfacePool, nextId, still]
    refine ⟨.inr ⟨may, next⟩, ?_⟩
    intro p member pool' there
    by_cases here : p = g.fresh
    · subst here
      simp only [usbIfCreatInterfacePool, setPool_pools, update_self] at there
      cases there
      exact .inr ⟨rfl, next⟩
    · simp only [usbIfCreatInterfacePool, setPool_pools, update_of_ne here] at there
      refine .inl (follows.old still ?_ there)
      simpa [usbIfCreatInterfacePool, here] using member
  | elsewhere allowed =>
    obtain ⟨still, may⟩ := allowed
    have next : g.nextId = h.nextId := by rw [nextId, still, nextId]
    exact ⟨.inr ⟨may, next⟩, fun p member pool' there => .inl (follows.old still member there)⟩

/-- A call makes one pool at most. -/
theorem call {c : HostCall} (called : h.call c = some h') : Follows (h.makes c) h h' := by
  have touches : Touches (fun x => x.idNum = h.idNum ∧ h.makes c) h h' :=
    call_touches (fun made _ same => ⟨same.idNum, made⟩) called
  clear called
  induction touches with
  | refl => exact .refl h
  | tail _ touch before => exact before.touch touch

end Follows

/-- How many pools the calls make in the process. -/
def Host.creations : Host → List HostCall → Nat
  | _, [] => 0
  | h, c :: calls => (h.makes c).toNat + ((h.call c).map (·.creations calls)).getD 0

theorem creations_append {h h₁ : Host} {calls : List HostCall} (ran : h.run calls = some h₁) (more : List HostCall) :
    h.creations (calls ++ more) = h.creations calls + h₁.creations more := by
  induction calls generalizing h with
  | nil =>
    cases ran
    simp [creations]
  | cons c calls ih =>
    obtain ⟨h₂, called, rest⟩ := Option.bind_eq_some_iff.mp ran
    simp only [cons_append, creations, called, Option.map_some, Option.getD_some, ih rest]
    omega

theorem creations_le (h : Host) (calls : List HostCall) : h.creations calls ≤ calls.length := by
  induction calls generalizing h with
  | nil => exact Nat.le_refl 0
  | cons c calls ih =>
    have one : (h.makes c).toNat ≤ 1 := Bool.toNat_le _
    have rest : ((h.call c).map (·.creations calls)).getD 0 ≤ calls.length := by
      cases h.call c with
      | none => exact Nat.zero_le _
      | some h₁ => exact ih h₁
    rw [creations, length_cons]
    omega

/-- While a pool stands in the list of the session, fewer pools than there are identifiers are made in the process. -/
def Host.ShortLived (h : Host) (calls : List HostCall) : Prop :=
  ∀ before between c after, calls = before ++ (between ++ c :: after) → ∀ h₁ h₂, h.run before = some h₁ →
    h₁.run between = some h₂ → ∀ p ∈ h₁.ifacePoolList, p ∈ h₂.ifacePoolList →
      h₁.creations (between ++ [c]) < interfacePoolIdMax

/-- The pool has the value that the counter had after some of the calls, and the counter went on from there by the
    pools that the other calls made at most. -/
def Aged (h : Host) (calls : List HostCall) (h' : Host) (p : Nat) : Prop :=
  ∃ before between h₁ k, calls = before ++ between ∧ h.run before = some h₁ ∧ h₁.run between = some h' ∧
    p ∈ h₁.ifacePoolList ∧ (∀ pool, h'.pools p = some pool → pool.objectId = h₁.idNum) ∧
    h'.idNum = (h₁.idNum + k) % interfacePoolIdMax ∧ h₁.idNum < interfacePoolIdMax ∧ k ≤ h₁.creations between

section
variable {h g g' : Host} {calls : List HostCall} {c : HostCall}

theorem Aged.unused (short : h.ShortLived (calls ++ [c])) (made : g.makes c)
    (aged : ∀ p ∈ g.ifacePoolList, Aged h calls g p) : g.Unused := by
  intro p member pool there
  obtain ⟨before, between, h₁, k, split, ran, rest, member₁, own, far, small, few⟩ := aged p member
  have round := short before between c [] (by rw [split, append_assoc]) h₁ g ran rest p member₁ member
  rw [creations_append rest] at round
  simp only [creations, made, Bool.toNat_true] at round
  rw [own pool there, nextId, far]
  unfold interfacePoolIdMax at *
  omega

theorem Aged.call (ran : h.run calls = some g) (identified : Identified g')
    (aged : ∀ p ∈ g.ifacePoolList, Aged h calls g p) (called : g.call c = some g') :
    ∀ p ∈ g'.ifacePoolList, Aged h (calls ++ [c]) g' p := by
  intro p member
  have follows := Follows.call called
  obtain ⟨pool', there', _⟩ := identified.live p member
  rcases follows.pools p member pool' there' with ⟨old, pool, there, same⟩ | ⟨latest, next⟩
  · obtain ⟨before, between, h₁, k, split, first, rest, member₁, own, far, small, few⟩ := aged p old
    have counted := creations_append rest [c]
    have ran' : h₁.run (between ++ [c]) = some g' := by rw [run_concat, rest, Option.bind_some, called]
    have own' : ∀ pool, g'.pools p = some pool → pool.objectId = h₁.idNum := by
      intro pool₁ is
      rw [there'] at is
      cases is
      rw [same]
      exact own pool there
    rcases follows.idNum with still | ⟨made, next⟩
    · refine ⟨before, between ++ [c], h₁, k, by rw [split, append_assoc], first, ran', member₁, own', ?_, small, ?_⟩
      · rw [still]
        exact far
      · omega
    · refine ⟨before, between ++ [c], h₁, k + 1, by rw [split, append_assoc], first, ran', member₁, own', ?_, small, ?_⟩
      · rw [next, nextId, far]
        unfold interfacePoolIdMax
        omega
      · simp only [creations, made, Bool.toNat_true] at counted
        omega
  · have small : g'.idNum < interfacePoolIdMax := by
      rw [next]
      exact Nat.mod_lt _ (by decide)
    refine ⟨calls ++ [c], [], g', 0, by simp, by rw [run_concat, ran, Option.bind_some, called], rfl, member, ?_, ?_, small,
      Nat.zero_le _⟩
    · intro pool is
      rw [there'] at is
      cases is
      exact latest
    · rw [Nat.add_zero, Nat.mod_eq_of_lt small]

end

theorem Host.ShortLived.prefix {h : Host} {calls : List HostCall} {c : HostCall} (short : h.ShortLived (calls ++ [c])) :
    h.ShortLived calls := by
  intro before between d after split
  refine short before between d (after ++ [c]) ?_
  rw [split]
  simp

theorem Identified.run {idNum : Nat} {calls : List HostCall} {h : Host} (short : (Host.start idNum).ShortLived calls)
    (ran : (Host.start idNum).run calls = some h) :
    Identified h ∧ ∀ p ∈ h.ifacePoolList, Aged (Host.start idNum) calls h p := by
  induction calls using reverseRecOn generalizing h with
  | nil =>
    cases ran
    exact ⟨.start idNum, by simp [Host.start]⟩
  | append_singleton calls c ih =>
    rw [run_concat] at ran
    obtain ⟨g, before, called⟩ := Option.bind_eq_some_iff.mp ran
    obtain ⟨identified, aged⟩ := ih short.prefix before
    have identified' : Identified h := identified.call (fun made => Aged.unused short made aged) called
    exact ⟨identified', Aged.call before identified' aged called⟩

/-- In every run in which fewer than `INTERFACE_POOL_ID_MAX` pools are made in the process during the life of each pool,
    identifiers are unambiguous. -/
theorem unambiguous_of_shortLived (idNum : Nat) (calls : List HostCall) {h : Host}
    (short : (Host.start idNum).ShortLived calls) (ran : (Host.start idNum).run calls = some h) : Unambiguous h :=
  (Identified.run short ran).1.unambiguous

/-- No pool can be too old in a run with fewer calls than there are identifiers. -/
theorem Host.shortLived_of_length {h : Host} {calls : List HostCall} (few : calls.length < interfacePoolIdMax) :
    h.ShortLived calls := by
  intro before between c after split h₁ h₂ _ _ p _ _
  have counted := creations_le h₁ (between ++ [c])
  rw [split] at few
  simp only [length_append, length_cons, length_nil] at few counted
  omega

def controlOnly : Attached := ⟨true, some ⟨[9, 2, 9, 0, 0, 1, 0, 0x80, 50], [], []⟩, true⟩

def claimOne : List HostCall := [.claim 1 1 usbCtrlInterfaceId controlOnly]

def claimBoth : List HostCall := claimOne ++ [.elsewhere, .claim 1 2 usbCtrlInterfaceId controlOnly]

/-- The counter starts again between the two pools. -/
theorem claimBoth_unambiguous : (start 125).ShortLived claimBoth ∧
    ∃ h, (start 125).run claimBoth = some h ∧ h.ifacePoolList = [1, 3] ∧
      (h.pools 1).map (·.objectId) = some 126 ∧ (h.pools 3).map (·.objectId) = some 0 ∧ Unambiguous h := by
  have short : (start 125).ShortLived claimBoth := shortLived_of_length (by decide)
  exact ⟨short, _, rfl, rfl, rfl, rfl, unambiguous_of_shortLived 125 claimBoth short rfl⟩

def claimLater : List HostCall :=
  claimOne ++ (replicate 127 .elsewhere ++ [.claim 1 2 usbCtrlInterfaceId controlOnly])

theorem run_elsewhere (h : Host) (k : Nat) :
    h.run (replicate (k + 1) .elsewhere) = some { h with idNum := (h.idNum + (k + 1)) % interfacePoolIdMax } := by
  induction k generalizing h with
  | zero => rfl
  | succ k ih =>
    have next : h.run (replicate (k + 1 + 1) .elsewhere) =
        run { h with idNum := h.nextId } (replicate (k + 1) .elsewhere) := rfl
    rw [next, ih]
    simp only [nextId, Nat.mod_add_mod, Nat.add_assoc, Nat.add_comm 1]

/-- Both devices have a pool of the same identifier. -/
theorem claimLater_not_unambiguous : ∃ h, (start 0).run claimLater = some h ∧ ¬ Unambiguous h := by
  have ran : (start 0).run claimLater = ((start 0).run claimOne).bind fun h =>
      run { h with idNum := (h.idNum + 127) % interfacePoolIdMax } [.claim 1 2 usbCtrlInterfaceId controlOnly] := by
    simp only [claimLater, run_append, run_elsewhere, Option.bind_some]
  refine ⟨_, ran.trans rfl, ?_⟩
  rintro ⟨ids, _⟩
  have same := ids 1 (by decide) 3 (by decide) _ _ rfl rfl rfl
  cases same

end Peripheral.UsbPool
