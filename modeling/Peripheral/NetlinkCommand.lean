import Peripheral.NetlinkMessage
import Peripheral.Loops

/-!
The exchange of a command with the kernel, `SendCmdSync` of `netlink_cmd_adapter.c`. What
comes back is told to callbacks, which leave the end of the exchange in `error`, while
the code that is returned is that of the last receive. A receive may fail any number of
times, so the exchange is a loop that need not end.
-/
namespace Peripheral.Netlink
open Loops List

def RETRIES : Nat := 30
def EBUSY : Int := 16
def NL_OK : Int := 0
def NL_SKIP : Int := 1
def NL_STOP : Int := 2

abbrev Negative := { code : Int // code < 0 }

inductive Ending
  | ack
  | done
  | error (code : Negative)
  deriving DecidableEq

def Ending.Accepts : Ending → Prop
  | .ack | .done => True
  | .error _ => False

instance (ending : Ending) : Decidable ending.Accepts := by
  cases ending <;> (unfold Ending.Accepts; infer_instance)

/-- The answer to a message: data in any number of datagrams, and the end with the last of them. -/
structure Answer (δ : Type) where
  datagrams : List (List δ)
  last : List δ
  ending : Ending

inductive Packet (δ : Type)
  | data (d : δ)
  | ending (e : Ending)

def Answer.packets {δ : Type} (answer : Answer δ) : List (List (Packet δ)) :=
  answer.datagrams.map (·.map .data) ++ [answer.last.map .data ++ [.ending answer.ending]]

/-- What one call meets: what every try of the mutex gives, and what the kernel does with a message. -/
structure Wire (δ : Type) where
  cmdSock : Bool
  trylock : Nat → Int
  send : Msg → Int
  cbAlloc : Bool
  answer : Msg → Answer δ
  /-- The receives that fail. -/
  receives : Nat → Option Negative

abbrev Handler (δ σ : Type) := Option (δ → σ → σ × Int)

section
variable {δ σ : Type}

def cmdSocketErrorHandler (code : Int) : Int × Int := (code, NL_SKIP)
def cmdSocketFinishHandler : Int × Int := (0, NL_SKIP)
def cmdSocketAckHandler : Int × Int := (0, NL_STOP)

/-- The callback for a packet: what it leaves in `data` and `error`, and its code. -/
def callback (handler : Handler δ σ) : Packet δ → σ → Int → (σ × Int) × Int
  | .data d, data, error =>
    match handler with
    | none => ((data, error), NL_OK)
    | some handle => (((handle d data).1, error), (handle d data).2)
  | .ending .ack, data, _ => ((data, cmdSocketAckHandler.1), cmdSocketAckHandler.2)
  | .ending .done, data, _ => ((data, cmdSocketFinishHandler.1), cmdSocketFinishHandler.2)
  | .ending (.error code), data, _ => ((data, (cmdSocketErrorHandler code).1), (cmdSocketErrorHandler code).2)

/-- `nl_recvmsgs` on a datagram: the packets one by one, until a callback stops it or fails. -/
def nlRecvmsgs (handler : Handler δ σ) : List (Packet δ) → σ → Int → (σ × Int) × Int
  | [], data, error => ((data, error), 0)
  | p :: rest, data, error =>
    let (left, code) := callback handler p data error
    if code = NL_OK ∨ code = NL_SKIP then nlRecvmsgs handler rest left.1 left.2
    else if code = NL_STOP then (left, 0)
    else (left, min code 0)

structure Receiving (δ σ : Type) where
  calls : Nat
  queue : List (List (Packet δ))
  error : Int
  rc : Int
  data : σ

/-- A round of the loop that waits for the answer. With nothing to receive the call does not come back. -/
def waitReply (receives : Nat → Option Negative) (handler : Handler δ σ) (_ : Nat) (r : Receiving δ σ) :
    Outcome Empty (Receiving δ σ ⊕ Receiving δ σ) :=
  if 0 < r.error then
    match receives r.calls, r.queue with
    | some code, _ => .ret (.inl { r with calls := r.calls + 1, rc := code })
    | none, [] => .stuck
    | none, packets :: queue =>
      let (left, rc) := nlRecvmsgs handler packets r.data r.error
      .ret (.inl ⟨r.calls + 1, queue, left.2, rc, left.1⟩)
  else .ret (.inr r)

/-- `pthread_mutex_trylock` until it is not busy; `none` when the tries are used up. -/
def lockMutex (trylock : Nat → Int) : Nat → Nat → Option Int
  | count, 0 => if trylock count = EBUSY then none else some (trylock count)
  | count, left+1 => if trylock count = EBUSY then lockMutex trylock (count + 1) left else some (trylock count)

/-- What a call returns, how often it locked and unlocked the mutex, and what its handler left. -/
structure Sent (σ : Type) where
  ret : Int32
  locks : Nat
  unlocks : Nat
  data : σ
  deriving DecidableEq

def out (rc : Int) (data : σ) : Sent σ := ⟨if rc = 0 then RET_CODE_SUCCESS else RET_CODE_FAILURE, 1, 1, data⟩

def sendCmdSync (wire : Wire δ) (msg : Msg) (handler : Handler δ σ) (data : σ) (fuel : Nat) : Outcome Empty (Sent σ) :=
  if ¬wire.cmdSock then .ret ⟨RET_CODE_INVALID_PARAM, 0, 0, data⟩
  else
    match lockMutex wire.trylock 0 RETRIES with
    | none => .ret ⟨RET_CODE_SUCCESS, 0, 0, data⟩
    | some rc =>
      if rc ≠ 0 then .ret ⟨RET_CODE_FAILURE, 0, 0, data⟩
      else if wire.send msg < 0 then .ret (out (wire.send msg) data)
      else if ¬wire.cbAlloc then .ret (out (-1) data)
      else
        iterate (waitReply wire.receives handler) fuel ⟨0, (wire.answer msg).packets, 1, wire.send msg, data⟩ >>= fun r =>
          .ret (out r.rc r.data)

def TimedOut (trylock : Nat → Int) : Prop := ∀ n ≤ RETRIES, trylock n = EBUSY

instance (trylock : Nat → Int) : Decidable (TimedOut trylock) := by
  unfold TimedOut
  infer_instance

/-- The first try that is not busy gets the mutex. -/
def Locked (trylock : Nat → Int) : Prop := ∃ n ≤ RETRIES, trylock n = 0 ∧ ∀ m < n, trylock m = EBUSY

/-- The message goes out. -/
def Wire.Sends (wire : Wire δ) (msg : Msg) : Prop := wire.cmdSock ∧ Locked wire.trylock ∧ 0 ≤ wire.send msg

/-- The message goes out, and the answer is waited for. -/
def Wire.Exchanges (wire : Wire δ) (msg : Msg) : Prop := wire.Sends msg ∧ wire.cbAlloc

/-- The kernel does what the message asks for. -/
def Wire.Accepts (wire : Wire δ) (msg : Msg) : Prop := wire.Sends msg ∧ (wire.answer msg).ending.Accepts

def handled (handler : Handler δ σ) (data : σ) (d : List δ) : σ := (nlRecvmsgs handler (d.map .data) data 1).1.1

/-- The handler neither stops nor fails before the data of a datagram is used up. -/
def GoesOn (handler : Handler δ σ) : List δ → σ → Prop
  | [], _ => True
  | d :: rest, data =>
    let (left, code) := callback handler (.data d) data 1
    (code = NL_OK ∨ code = NL_SKIP) ∧ GoesOn handler rest left.1

/-- From a call on, so many receives get through that the last datagram is read, and its end is not lost in the handler. -/
def Arrives (receives : Nat → Option Negative) (handler : Handler δ σ) (calls : Nat) (datagrams : List (List δ)) (last : List δ)
    (data : σ) : Prop :=
  (∃ more, datagrams.length < (range more).countP (fun i => (receives (calls + i)).isNone)) ∧
    GoesOn handler last (datagrams.foldl (handled handler) data)

/-- The end of the answer arrives. -/
def Wire.Arrives (wire : Wire δ) (msg : Msg) (handler : Handler δ σ) (data : σ) : Prop :=
  Netlink.Arrives wire.receives handler 0 (wire.answer msg).datagrams (wire.answer msg).last data

theorem lockMutex_none (trylock : Nat → Int) (left : Nat) : ∀ count,
    lockMutex trylock count left = none ↔ ∀ n, count ≤ n → n ≤ count + left → trylock n = EBUSY := by
  induction left with
  | zero =>
    intro count
    simp only [lockMutex]
    split
    · next busy =>
      refine iff_of_true rfl (fun n low high => ?_)
      have is : n = count := by omega
      rw [is]
      exact busy
    · next free => exact iff_of_false (by simp) (fun all => free (all count (Nat.le_refl _) (Nat.le_refl _)))
  | succ left ih =>
    intro count
    simp only [lockMutex]
    split
    · next busy =>
      rw [ih (count + 1)]
      constructor
      · intro all n low high
        rcases Nat.eq_or_lt_of_le low with same | more
        · rw [← same]
          exact busy
        · exact all n more (by omega)
      · intro all n low high
        exact all n (by omega) (by omega)
    · next free => exact iff_of_false (by simp) (fun all => free (all count (Nat.le_refl _) (by omega)))

theorem lockMutex_some (trylock : Nat → Int) (rc : Int) (free : rc ≠ EBUSY) (left : Nat) : ∀ count,
    lockMutex trylock count left = some rc ↔
      ∃ n, count ≤ n ∧ n ≤ count + left ∧ trylock n = rc ∧ ∀ m, count ≤ m → m < n → trylock m = EBUSY := by
  have now : ∀ count left, trylock count ≠ EBUSY → (some (trylock count) = some rc ↔
      ∃ n, count ≤ n ∧ n ≤ count + left ∧ trylock n = rc ∧ ∀ m, count ≤ m → m < n → trylock m = EBUSY) := by
    intro count left idle
    constructor
    · intro same
      exact ⟨count, Nat.le_refl _, by omega, Option.some.inj same, fun m low high => absurd high (by omega)⟩
    · rintro ⟨n, low, high, is, before⟩
      rcases Nat.eq_or_lt_of_le low with same | more
      · rw [same, is]
      · exact absurd (before count (Nat.le_refl _) more) idle
  induction left with
  | zero =>
    intro count
    simp only [lockMutex]
    split
    · next busy =>
      refine iff_of_false (by simp) ?_
      rintro ⟨n, low, high, is, -⟩
      have same : n = count := by omega
      exact free (by rw [← is, same, busy])
    · next idle => exact now count 0 idle
  | succ left ih =>
    intro count
    simp only [lockMutex]
    split
    · next busy =>
      rw [ih (count + 1)]
      constructor
      · rintro ⟨n, low, high, is, before⟩
        refine ⟨n, by omega, by omega, is, fun m from_count below => ?_⟩
        rcases Nat.eq_or_lt_of_le from_count with same | more
        · rw [← same]
          exact busy
        · exact before m more below
      · rintro ⟨n, low, high, is, before⟩
        have other : n ≠ count := by
          rintro rfl
          exact free (by rw [← is, busy])
        exact ⟨n, by omega, by omega, is, fun m from_next below => before m (by omega) below⟩
    · next idle => exact now count (left + 1) idle

theorem lockMutex_timedOut (trylock : Nat → Int) : lockMutex trylock 0 RETRIES = none ↔ TimedOut trylock := by
  rw [lockMutex_none]
  simp [TimedOut]

theorem lockMutex_locked (trylock : Nat → Int) : lockMutex trylock 0 RETRIES = some 0 ↔ Locked trylock := by
  rw [lockMutex_some trylock 0 (by decide)]
  simp [Locked]

/-- What the callbacks leave in `error` of the end of an answer. -/
def Ending.left : Ending → Int
  | .ack | .done => 0
  | .error code => code

theorem Ending.left_le (e : Ending) : e.left ≤ 0 := by
  cases e with
  | ack => exact Int.le_refl 0
  | done => exact Int.le_refl 0
  | error code => exact Int.le_of_lt code.2

section
variable (handler : Handler δ σ)
include handler

theorem nlRecvmsgs_ending (e : Ending) (data : σ) (error : Int) :
    nlRecvmsgs handler [.ending e] data error = ((data, e.left), 0) := by
  cases e with
  | ack => rfl
  | done => rfl
  | error code => rfl

theorem callback_data (d : δ) (data : σ) (error error' : Int) : callback handler (.data d) data error =
      (((callback handler (.data d) data error').1.1, error), (callback handler (.data d) data error').2) := by
  cases handler with
  | none => rfl
  | some handle => rfl

theorem goesOn_cons (d : δ) (rest : List δ) (data : σ) : GoesOn handler (d :: rest) data ↔
      ((callback handler (.data d) data 1).2 = NL_OK ∨ (callback handler (.data d) data 1).2 = NL_SKIP) ∧
        GoesOn handler rest (callback handler (.data d) data 1).1.1 := Iff.rfl

theorem nlRecvmsgs_data (error : Int) (d : List δ) : ∀ data,
    ∃ rc, nlRecvmsgs handler (d.map .data) data error = ((handled handler data d, error), rc) := by
  induction d with
  | nil =>
    intro data
    exact ⟨0, rfl⟩
  | cons d rest ih =>
    intro data
    obtain ⟨rc, is⟩ := ih (callback handler (.data d) data 1).1.1
    simp only [handled, map_cons, nlRecvmsgs, callback_data handler d data error 1]
    rw [callback_data handler d data 1 1]
    split
    · exact ⟨rc, is⟩
    · split
      · exact ⟨_, rfl⟩
      · exact ⟨_, rfl⟩

/-- The data of a datagram is used up before its end, which is then told to the callbacks. -/
theorem nlRecvmsgs_last (e : Ending) (error : Int) (d : List δ) : ∀ data, GoesOn handler d data →
    nlRecvmsgs handler (d.map .data ++ [.ending e]) data error = ((handled handler data d, e.left), 0) := by
  induction d with
  | nil =>
    intro data _
    exact nlRecvmsgs_ending handler e data error
  | cons d rest ih =>
    intro data goes
    obtain ⟨code, goes⟩ := (goesOn_cons handler d rest data).mp goes
    have behind : handled handler data (d :: rest) = handled handler (callback handler (.data d) data 1).1.1 rest := by
      simp only [handled, map_cons, nlRecvmsgs]
      rw [if_pos code, callback_data handler d data 1 1]
    rw [behind, ← ih _ goes]
    simp only [map_cons, cons_append, nlRecvmsgs, callback_data handler d data error 1]
    rw [if_pos code]

theorem nlRecvmsgs_lost (e : Ending) (error : Int) (d : List δ) : ∀ data, ¬GoesOn handler d data →
    (nlRecvmsgs handler (d.map .data ++ [.ending e]) data error).1.2 = error := by
  induction d with
  | nil =>
    intro data lost
    exact absurd trivial lost
  | cons d rest ih =>
    intro data lost
    simp only [map_cons, cons_append, nlRecvmsgs, callback_data handler d data error 1]
    split
    · next code => exact ih _ (fun goes => lost ((goesOn_cons handler d rest data).mpr ⟨code, goes⟩))
    · split
      · rfl
      · rfl

end

theorem through_succ (receives : Nat → Option Negative) (calls more : Nat) :
    (range (more + 1)).countP (fun i => (receives (calls + i)).isNone) =
      (if (receives calls).isNone then 1 else 0) + (range more).countP (fun i => (receives (calls + 1 + i)).isNone) := by
  simp only [range_succ_eq_map, countP_cons, countP_map, Function.comp_def, Nat.add_zero, Nat.succ_eq_add_one,
    Nat.add_assoc, Nat.add_comm 1]
  omega

variable {receives : Nat → Option Negative} {handler : Handler δ σ} {calls : Nat} {datagrams : List (List δ)} {last : List δ}
  {data : σ} {e : Ending} {code : Negative}

theorem arrives_fails (fails : receives calls = some code) :
    Arrives receives handler calls datagrams last data ↔ Arrives receives handler (calls + 1) datagrams last data := by
  refine and_congr_left (fun _ => ?_)
  constructor
  · rintro ⟨more, enough⟩
    cases more with
    | zero => simp at enough
    | succ more =>
      rw [through_succ] at enough
      exact ⟨more, by simpa [fails] using enough⟩
  · rintro ⟨more, enough⟩
    refine ⟨more + 1, ?_⟩
    rw [through_succ]
    simpa [fails] using enough

theorem arrives_next {d : List δ} (gets : receives calls = none) : Arrives receives handler calls (d :: datagrams) last data ↔
      Arrives receives handler (calls + 1) datagrams last (handled handler data d) := by
  refine and_congr_left (fun _ => ?_)
  constructor
  · rintro ⟨more, enough⟩
    cases more with
    | zero => simp at enough
    | succ more =>
      rw [through_succ, gets] at enough
      simp only [Option.isNone_none, if_true, length_cons] at enough
      exact ⟨more, by omega⟩
  · rintro ⟨more, enough⟩
    refine ⟨more + 1, ?_⟩
    rw [through_succ, gets]
    simp only [Option.isNone_none, if_true, length_cons]
    omega

theorem arrives_last (gets : receives calls = none) :
    Arrives receives handler calls [] last data ↔ GoesOn handler last data := by
  refine and_iff_right ⟨1, ?_⟩
  simp [gets]

theorem packets_cons (d : List δ) : (Answer.mk (d :: datagrams) last e).packets = d.map .data :: (Answer.mk datagrams last e).packets :=
  rfl

theorem packets_nil : (Answer.mk [] last e).packets = [last.map .data ++ [.ending e]] := rfl

theorem waitReply_fails (fails : receives calls = some code) (fuel : Nat) (queue : List (List (Packet δ))) (rc : Int) :
    waitReply receives handler fuel ⟨calls, queue, 1, rc, data⟩ = .ret (.inl ⟨calls + 1, queue, 1, code, data⟩) := by
  simp [waitReply, fails]

theorem waitReply_gets (gets : receives calls = none) (fuel : Nat) (packets : List (Packet δ)) (queue : List (List (Packet δ)))
    (rc : Int) : waitReply receives handler fuel ⟨calls, packets :: queue, 1, rc, data⟩ =
      .ret (.inl ⟨calls + 1, queue, (nlRecvmsgs handler packets data 1).1.2, (nlRecvmsgs handler packets data 1).2,
        (nlRecvmsgs handler packets data 1).1.1⟩) := by
  simp [waitReply, gets]

theorem waitReply_blocks (gets : receives calls = none) (fuel : Nat) (rc : Int) :
    waitReply receives handler fuel ⟨calls, [], 1, rc, data⟩ = .stuck := by
  simp [waitReply, gets]

theorem waitReply_ends (fuel : Nat) (r : Receiving δ σ) (ended : r.error ≤ 0) :
    waitReply receives handler fuel r = .ret (.inr r) := by
  simp [waitReply, Int.not_lt.mpr ended]

/-- With an end that arrives the loop ends when all data is handled, and the last receive has given zero whatever the kernel said. -/
theorem waits (more : Nat) : ∀ calls (datagrams : List (List δ)) (data : σ) rc,
    datagrams.length < (range more).countP (fun i => (receives (calls + i)).isNone) →
      GoesOn handler last (datagrams.foldl (handled handler) data) →
        ∃ r, Comes (fun fuel => iterate (waitReply receives handler) fuel ⟨calls, (Answer.mk datagrams last e).packets, 1, rc, data⟩)
          (.ret r) ∧ r.rc = 0 ∧ r.data = handled handler (datagrams.foldl (handled handler) data) last := by
  induction more with
  | zero =>
    intro calls datagrams data rc enough
    simp at enough
  | succ more ih =>
    intro calls datagrams data rc enough goes
    rw [through_succ] at enough
    cases hears : receives calls with
    | some code =>
      obtain ⟨r, comes, zero⟩ := ih (calls + 1) datagrams data code (by simpa [hears] using enough) goes
      refine ⟨r, comes_iterate_next ?_ comes, zero⟩
      simp only [waitReply_fails hears]
      exact Comes.const _
    | none =>
      simp only [hears, Option.isNone_none, if_true] at enough
      cases datagrams with
      | nil =>
        let r : Receiving δ σ := ⟨calls + 1, [], e.left, 0, handled handler data last⟩
        have next : Comes (fun fuel => waitReply receives handler fuel
            ⟨calls, (Answer.mk [] last e).packets, 1, rc, data⟩) (.ret (.inl r)) := by
          simp only [packets_nil, waitReply_gets hears, nlRecvmsgs_last handler e 1 last data goes]
          exact Comes.const _
        have breaks : Comes (fun fuel => waitReply receives handler fuel r) (.ret (.inr r)) := by
          simp only [waitReply_ends _ r e.left_le]
          exact Comes.const _
        exact ⟨r, comes_iterate_next next (comes_iterate_break breaks), rfl, rfl⟩
      | cons d datagrams =>
        obtain ⟨rc', is⟩ := nlRecvmsgs_data handler 1 d data
        obtain ⟨r, comes, zero⟩ := ih (calls + 1) datagrams (handled handler data d) rc'
          (by simp only [length_cons] at enough; omega) goes
        refine ⟨r, comes_iterate_next ?_ comes, zero⟩
        simp only [packets_cons, waitReply_gets hears, is]
        exact Comes.const _

/-- With nothing left to receive the loop does not end. -/
theorem waits_empty (fuel : Nat) : ∀ calls (data : σ) rc,
    iterate (waitReply receives handler) fuel ⟨calls, [], 1, rc, data⟩ = .stuck := by
  induction fuel with
  | zero =>
    intro calls data rc
    rfl
  | succ fuel ih =>
    intro calls data rc
    rw [iterate_succ]
    cases hears : receives calls with
    | some code =>
      rw [waitReply_fails hears]
      exact ih (calls + 1) data code
    | none =>
      rw [waitReply_blocks hears]
      rfl

theorem waits_stuck (fuel : Nat) : ∀ calls (datagrams : List (List δ)) (data : σ) rc,
    ¬Arrives receives handler calls datagrams last data →
      iterate (waitReply receives handler) fuel ⟨calls, (Answer.mk datagrams last e).packets, 1, rc, data⟩ = .stuck := by
  induction fuel with
  | zero =>
    intro calls datagrams data rc _
    rfl
  | succ fuel ih =>
    intro calls datagrams data rc lost
    rw [iterate_succ]
    cases hears : receives calls with
    | some code =>
      rw [waitReply_fails hears]
      exact ih (calls + 1) datagrams data code (fun arrives => lost ((arrives_fails hears).mpr arrives))
    | none =>
      cases datagrams with
      | nil =>
        rw [packets_nil, waitReply_gets hears]
        simp only [Outcome.ret_bind, nlRecvmsgs_lost handler e 1 last data (fun goes => lost ((arrives_last hears).mpr goes))]
        exact waits_empty fuel (calls + 1) _ _
      | cons d datagrams =>
        obtain ⟨rc', is⟩ := nlRecvmsgs_data handler 1 d data
        rw [packets_cons, waitReply_gets hears]
        simp only [Outcome.ret_bind, is]
        exact ih (calls + 1) datagrams (handled handler data d) rc' (fun arrives => lost ((arrives_next hears).mpr arrives))

variable {wire : Wire δ} {msg : Msg}

/-- The socket is there, and the mutex stays busy. -/
def Wire.TimesOut (wire : Wire δ) : Prop := wire.cmdSock ∧ TimedOut wire.trylock

/-- A call that does not come to waiting for an answer reports success only when the mutex was busy. -/
theorem sendCmdSync_early (quiet : ¬wire.Exchanges msg) : ∃ o : Sent σ, Comes (sendCmdSync wire msg handler data) (.ret o) ∧
    (o.ret = RET_CODE_SUCCESS ↔ wire.TimesOut) ∧ o.locks = o.unlocks ∧ o.data = data := by
  have fails : RET_CODE_FAILURE ≠ RET_CODE_SUCCESS := by decide
  cases sock : wire.cmdSock with
  | false =>
    refine ⟨⟨RET_CODE_INVALID_PARAM, 0, 0, data⟩, Comes.always (fun fuel => ?_), ?_, rfl, rfl⟩
    · simp [sendCmdSync, sock]
    · simp [Wire.TimesOut, sock, RET_CODE_INVALID_PARAM, RET_CODE_SUCCESS]
  | true =>
    cases tried : lockMutex wire.trylock 0 RETRIES with
    | none =>
      refine ⟨⟨RET_CODE_SUCCESS, 0, 0, data⟩, Comes.always (fun fuel => ?_), ?_, rfl, rfl⟩
      · simp [sendCmdSync, sock, tried]
      · exact iff_of_true rfl ⟨sock, (lockMutex_timedOut _).mp tried⟩
    | some rc =>
      have free : ¬wire.TimesOut := by
        rintro ⟨-, busy⟩
        rw [(lockMutex_timedOut _).mpr busy] at tried
        cases tried
      by_cases locked : rc = 0
      · subst locked
        by_cases sent : wire.send msg < 0
        · refine ⟨out (wire.send msg) data, Comes.always (fun fuel => ?_), iff_of_false ?_ free, rfl, rfl⟩
          · simp [sendCmdSync, sock, tried, sent]
          · rw [out, if_neg (Int.ne_of_lt sent)]
            exact fails
        · have none : wire.cbAlloc = false := by
            by_contra there
            exact quiet ⟨⟨sock, (lockMutex_locked _).mp tried, Int.not_lt.mp sent⟩, by simpa using there⟩
          refine ⟨out (-1) data, Comes.always (fun fuel => ?_), iff_of_false ?_ free, rfl, rfl⟩
          · simp [sendCmdSync, sock, tried, sent, none]
          · rw [out, if_neg (by decide)]
            exact fails
      · refine ⟨⟨RET_CODE_FAILURE, 0, 0, data⟩, Comes.always (fun fuel => ?_), iff_of_false fails free, rfl, rfl⟩
        simp [sendCmdSync, sock, tried, locked]

theorem sendCmdSync_waits (exchanges : wire.Exchanges msg) (fuel : Nat) : sendCmdSync wire msg handler data fuel =
    iterate (waitReply wire.receives handler) fuel ⟨0, (wire.answer msg).packets, 1, wire.send msg, data⟩ >>= fun r =>
      .ret (out r.rc r.data) := by
  obtain ⟨⟨sock, locked, sent⟩, alloc⟩ := exchanges
  simp only [sendCmdSync, sock, (lockMutex_locked _).mpr locked, Int.not_lt.mpr sent, alloc, not_true_eq_false, if_false, ne_eq]

def Answer.handled (handler : Handler δ σ) (data : σ) (answer : Answer δ) : σ :=
  Netlink.handled handler (answer.datagrams.foldl (Netlink.handled handler) data) answer.last

theorem sendCmdSync_answered (exchanges : wire.Exchanges msg) (arrives : wire.Arrives msg handler data) :
    ∃ o : Sent σ, Comes (sendCmdSync wire msg handler data) (.ret o) ∧ o.ret = RET_CODE_SUCCESS ∧ o.locks = o.unlocks ∧
      o.data = (wire.answer msg).handled handler data := by
  obtain ⟨⟨more, enough⟩, goes⟩ := arrives
  obtain ⟨r, comes, zero, left⟩ := waits (e := (wire.answer msg).ending) more 0 _ data (wire.send msg) enough goes
  refine ⟨out r.rc r.data, ?_, by simp [out, zero], rfl, left⟩
  rw [funext (sendCmdSync_waits exchanges)]
  exact comes.map

/-- A call whose answer is lost does not come back, and keeps the mutex. -/
theorem sendCmdSync_lost (exchanges : wire.Exchanges msg) (lost : ¬wire.Arrives msg handler data) :
    Comes (sendCmdSync wire msg handler data) .stuck := by
  have stuck : ∀ fuel, sendCmdSync wire msg handler data fuel = .stuck := by
    intro fuel
    rw [sendCmdSync_waits exchanges]
    have waiting := waits_stuck (e := (wire.answer msg).ending) fuel 0 _ data (wire.send msg) lost
    rw [show (wire.answer msg).packets = (Answer.mk (wire.answer msg).datagrams _ _).packets from rfl, waiting]
    rfl
  exact Comes.always stuck

end
end Peripheral.Netlink
