import Peripheral.CaptureMessage
import Peripheral.Transitions

/-!
The captures that `StreamOperator` knows by their ids, `stream_operator.cpp`. Any number
of threads call `Capture` and `CancelCapture` while the thread of the messenger passes
groups to `HandleCallbackMessage`. A call of `Capture` is cut where it takes a lock and
between the streams it adds the request to; `OnCaptureEnded` is cut between the callback
and the lock. The number of a call stands for the request that it makes.
-/
namespace Peripheral.Camera
open Peripheral.Transitions Function

inductive CamRetCode
  | noError
  | cameraBusy
  | insufficientResources
  | invalidArgument
  | methodNotSupported
  | cameraClosed
  | deviceError
  | noPermission
  deriving DecidableEq

/-- Where a call of `Capture` is: the streams it still looks up or adds the request to, or what it returned. -/
inductive CapturePhase
  | checkStreams (streams : List Int)
  | checkDuplicate
  | addRequest (streams : List Int)
  | register
  | returned (code : CamRetCode)
  deriving DecidableEq

/-- A call of `Capture`, and what became of the request: it waits in a stream, was cancelled, or its end was processed. -/
structure CaptureCall where
  captureId : Int
  streamIds : List Int
  phase : CapturePhase
  queued : Bool
  cancelled : Bool
  ended : Bool
  deriving DecidableEq

namespace CaptureCall

/-- Accepted, and neither cancelled nor ended. -/
def Live (c : CaptureCall) : Prop := c.phase = .returned .noError ∧ c.cancelled = false ∧ c.ended = false

def InProgress (c : CaptureCall) : Prop := ∀ code, c.phase ≠ .returned code

end CaptureCall

/-- What `StreamOperator` has of captures, all calls of `Capture`, and the request whose end was reported and is to be
    taken from the map. -/
structure Registry where
  callback : Bool
  streamMap : List Int
  requestMap : Int → Option Nat
  calls : List CaptureCall
  reported : List (CaptureMessageType × Int × List Int)
  ending : Option (Int × Nat)

/-- `proceed` has what `AddRequest` returns, `cancelCapture` what `Cancel` returns, and a group the request it is about. -/
inductive RegistryStep
  | capture (captureId : Int) (streamIds : List Int)
  | proceed (call : Nat) (added : Bool)
  | cancelCapture (captureId : Int) (done : Bool)
  | handleCallbackMessage (message : MessageGroup) (request : Nat)
  | onCaptureEnded

namespace Registry

def start (streams : List Int) : Registry := ⟨true, streams, fun _ => none, [], [], none⟩

def capture (s : Registry) (captureId : Int) (streamIds : List Int) : Registry :=
  let phase := if captureId < 0 then .returned .invalidArgument else .checkStreams streamIds
  { s with calls := s.calls ++ [⟨captureId, streamIds, phase, false, false, false⟩] }

def goTo (s : Registry) (k : Nat) (phase : CapturePhase) : Registry :=
  { s with calls := s.calls.modify k fun c => { c with phase := phase } }

/-- A call of `Capture` goes on by one part. -/
def proceed (s : Registry) (k : Nat) (added : Bool) : Registry :=
  match s.calls[k]? with
  | none => s
  | some c =>
    match c.phase with
    | .checkStreams [] => s.goTo k .checkDuplicate
    | .checkStreams (id :: streams) =>
      if id ∈ s.streamMap then s.goTo k (.checkStreams streams) else s.goTo k (.returned .invalidArgument)
    | .checkDuplicate =>
      if (s.requestMap c.captureId).isSome then s.goTo k (.returned .invalidArgument) else s.goTo k (.addRequest c.streamIds)
    | .addRequest [] => s.goTo k .register
    | .addRequest (_ :: streams) =>
      if added then
        { s with calls := s.calls.modify k fun c => { c with queued := true, phase := .addRequest streams } }
      else s.goTo k (.returned .deviceError)
    | .register => { s with requestMap := update s.requestMap c.captureId (some k) }.goTo k (.returned .noError)
    | .returned _ => s

def cancelCapture (s : Registry) (captureId : Int) (done : Bool) : Registry :=
  if captureId < 0 then s
  else
    match s.requestMap captureId with
    | none => s
    | some k =>
      if done then
        { s with
          calls := s.calls.modify k fun c => { c with cancelled := true }
          requestMap := update s.requestMap captureId none }
      else s

def report (s : Registry) (type : CaptureMessageType) (captureId : Int) (message : MessageGroup) : Registry :=
  if s.callback then { s with reported := s.reported ++ [(type, captureId, message.map CaptureMessage.streamId)] } else s

/-- The messenger has one thread, which does not come here before the end it reported was processed. -/
def handleCallbackMessage (s : Registry) (message : MessageGroup) (request : Nat) : Registry :=
  match s.ending, message with
  | some _, _ => s
  | none, [] => s
  | none, first :: _ =>
    match first.messageType with
    | .onStarted | .onError | .onShutter => s.report first.messageType first.captureId message
    | .onEnded =>
      if s.callback then { s.report .onEnded first.captureId message with ending := some (first.captureId, request) } else s
    | .invalid => s

/-- The second part of `OnCaptureEnded`. -/
def onCaptureEnded (s : Registry) : Registry :=
  match s.ending with
  | none => s
  | some (captureId, k) =>
    { s with
      ending := none
      calls := s.calls.modify k fun c => { c with ended := true }
      requestMap := update s.requestMap captureId none }

def step (s : Registry) : RegistryStep → Registry
  | .capture captureId streamIds => s.capture captureId streamIds
  | .proceed k added => s.proceed k added
  | .cancelCapture captureId done => s.cancelCapture captureId done
  | .handleCallbackMessage message request => s.handleCallbackMessage message request
  | .onCaptureEnded => s.onCaptureEnded

/-- A group is about one request that a stream has got. -/
def Possible (s : Registry) : RegistryStep → Prop
  | .handleCallbackMessage message request =>
    ∃ c ∈ s.calls[request]?, c.queued = true ∧ ∀ m ∈ message, m.captureId = c.captureId
  | _ => True

/-- No call of `Capture` is in progress. -/
def Quiet (s : Registry) : Prop := ∀ c ∈ s.calls, ¬ c.InProgress

/-- The map has the ids of the live captures, and live captures have different ids. -/
structure Reflects (s : Registry) : Prop where
  ids : ∀ id, (s.requestMap id).isSome ↔ ∃ c ∈ s.calls, c.Live ∧ c.captureId = id
  once : ∀ (k l : Nat) (c d : CaptureCall), s.calls[k]? = some c → s.calls[l]? = some d → c.Live → d.Live →
    c.captureId = d.captureId → k = l

/-- A request is registered under an id that is free and before its end is processed, and an end is processed when no other
    request has the id. -/
def Orderly (s : Registry) : RegistryStep → Prop
  | .proceed k _ => ∀ c ∈ s.calls[k]?, c.phase = .register → s.requestMap c.captureId = none ∧ c.ended = false
  | .onCaptureEnded => ∀ e ∈ s.ending, ∀ l ∈ s.requestMap e.1, l = e.2
  | _ => True

end Registry

theorem getElem?_modify_called {calls : List CaptureCall} {k : Nat} {c : CaptureCall} (called : calls[k]? = some c)
    (f : CaptureCall → CaptureCall) (j : Nat) : (calls.modify k f)[j]? = if j = k then some (f c) else calls[j]? := by
  by_cases same : j = k
  · subst same
    rw [if_pos rfl, List.getElem?_modify_eq, called]
    rfl
  · rw [if_neg same, List.getElem?_modify_ne f calls (Ne.symm same)]

/-- What orderly steps keep: the map has each live capture, and nothing else. -/
structure Faithful (s : Registry) : Prop where
  registered : ∀ id k, s.requestMap id = some k → ∃ c, s.calls[k]? = some c ∧ c.captureId = id ∧ c.Live
  live : ∀ (k : Nat) (c : CaptureCall), s.calls[k]? = some c → c.Live → s.requestMap c.captureId = some k
  pending : ∀ (k : Nat) (c : CaptureCall), s.calls[k]? = some c → c.InProgress → c.cancelled = false
  ending : ∀ id k, s.ending = some (id, k) → ∃ c, s.calls[k]? = some c ∧ c.captureId = id

namespace Faithful
variable {s : Registry} {k : Nat} {c : CaptureCall}

theorem start (streams : List Int) : Faithful (Registry.start streams) := by
  constructor <;> intros <;> simp_all [Registry.start]

section
variable (faithful : Faithful s)
include faithful

theorem reflects : s.Reflects := by
  constructor
  · intro id
    constructor
    · intro some
      obtain ⟨k, registered⟩ := Option.isSome_iff_exists.mp some
      obtain ⟨c, called, same, live⟩ := faithful.registered id k registered
      exact ⟨c, List.mem_of_getElem? called, live, same⟩
    · rintro ⟨c, member, live, rfl⟩
      obtain ⟨k, called⟩ := List.mem_iff_getElem?.mp member
      rw [faithful.live k c called live]
      rfl
  · intro k l c d first second liveFirst liveSecond same
    have registered := faithful.live k c first liveFirst
    rw [same, faithful.live l d second liveSecond] at registered
    exact (Option.some.inj registered).symm

theorem capture (captureId : Int) (streamIds : List Int) : Faithful (s.capture captureId streamIds) := by
  have old {k : Nat} {c : CaptureCall} (called : s.calls[k]? = some c) :
      (s.capture captureId streamIds).calls[k]? = some c := by
    rw [Registry.capture, List.getElem?_append_left (List.getElem?_eq_some_iff.mp called).1, called]
  have known {k : Nat} {c : CaptureCall} (called : (s.capture captureId streamIds).calls[k]? = some c) :
      s.calls[k]? = some c ∨ (¬ c.Live ∧ c.cancelled = false) := by
    rw [Registry.capture, List.getElem?_append] at called
    split at called
    · exact .inl called
    · obtain ⟨_, rfl⟩ := List.getElem?_eq_some_iff.mp called
      refine .inr ⟨?_, ?_⟩
      · rw [List.getElem_singleton]
        rintro ⟨phase, -⟩
        dsimp only at phase
        split at phase <;> cases phase
      · rw [List.getElem_singleton]
  constructor
  · intro id k registered
    obtain ⟨c, called, rest⟩ := faithful.registered id k registered
    exact ⟨c, old called, rest⟩
  · intro k c called live
    obtain before | ⟨dead, -⟩ := known called
    · exact faithful.live k c before live
    · exact absurd live dead
  · intro k c called going
    obtain before | ⟨-, kept⟩ := known called
    · exact faithful.pending k c before going
    · exact kept
  · intro id k ending
    obtain ⟨c, called, same⟩ := faithful.ending id k ending
    exact ⟨c, old called, same⟩

theorem goOn (called : s.calls[k]? = some c) (going : c.InProgress) {f : CaptureCall → CaptureCall}
    (same : (f c).captureId = c.captureId) (kept : (f c).cancelled = c.cancelled) (dead : ¬ (f c).Live) :
    Faithful { s with calls := s.calls.modify k f } := by
  have now := getElem?_modify_called called f
  constructor
  · intro id j registered
    obtain ⟨d, before, rest⟩ := faithful.registered id j registered
    refine ⟨d, ?_, rest⟩
    have other : j ≠ k := by
      rintro rfl
      rw [called] at before
      cases before
      exact going _ rest.2.1
    rw [now, if_neg other, before]
  · intro j d after live
    rw [now] at after
    split at after
    · cases after
      exact absurd live dead
    · exact faithful.live j d after live
  · intro j d after inProgress
    rw [now] at after
    split at after
    · cases after
      rw [kept]
      exact faithful.pending k c called going
    · exact faithful.pending j d after inProgress
  · intro id j ending
    obtain ⟨d, before, same'⟩ := faithful.ending id j ending
    rw [now]
    split
    · subst_vars
      rw [called] at before
      cases before
      exact ⟨_, rfl, same⟩
    · exact ⟨d, before, same'⟩

theorem register (called : s.calls[k]? = some c) (going : c.InProgress)
    (free : s.requestMap c.captureId = none) (goes : c.ended = false) :
    Faithful ({ s with requestMap := update s.requestMap c.captureId (some k) }.goTo k (.returned .noError)) := by
  have now := getElem?_modify_called called fun c => { c with phase := .returned .noError }
  have live : ({ c with phase := .returned .noError } : CaptureCall).Live := ⟨rfl, faithful.pending k c called going, goes⟩
  constructor
  · intro id j registered
    by_cases same : id = c.captureId
    · subst same
      simp only [Registry.goTo, update_self] at registered
      cases registered
      exact ⟨{ c with phase := .returned .noError }, by rw [Registry.goTo, now, if_pos rfl], rfl, live⟩
    · simp only [Registry.goTo, update_of_ne same] at registered
      obtain ⟨d, before, named, alive⟩ := faithful.registered id j registered
      have other : j ≠ k := by
        rintro rfl
        rw [called] at before
        cases before
        exact same named.symm
      exact ⟨d, by rw [Registry.goTo, now, if_neg other, before], named, alive⟩
  · intro j d after alive
    rw [Registry.goTo, now] at after
    split at after
    · cases after
      subst_vars
      exact update_self ..
    · have registered := faithful.live j d after alive
      have differs : d.captureId ≠ c.captureId := by
        intro same
        rw [same, free] at registered
        cases registered
      simp only [Registry.goTo, update_of_ne differs, registered]
  · intro j d after inProgress
    rw [Registry.goTo, now] at after
    split at after
    · cases after
      exact absurd rfl (inProgress .noError)
    · exact faithful.pending j d after inProgress
  · intro id j ending
    obtain ⟨d, before, named⟩ := faithful.ending id j ending
    rw [Registry.goTo, now]
    split
    · subst_vars
      rw [called] at before
      cases before
      exact ⟨_, rfl, rfl⟩
    · exact ⟨d, before, named⟩

theorem finish (called : s.calls[k]? = some c) {f : CaptureCall → CaptureCall}
    (same : (f c).captureId = c.captureId) (dead : ¬ (f c).Live)
    (kept : (f c).InProgress → c.InProgress ∧ (f c).cancelled = c.cancelled)
    (own : ∀ l, s.requestMap c.captureId = some l → l = k) {ending : Option (Int × Nat)}
    (left : ending = none ∨ ending = s.ending) :
    Faithful { s with
      ending := ending
      calls := s.calls.modify k f
      requestMap := update s.requestMap c.captureId none } := by
  have now := getElem?_modify_called called f
  constructor
  · intro id j registered
    by_cases named : id = c.captureId
    · subst named
      simp at registered
    · simp only [update_of_ne named] at registered
      obtain ⟨d, before, names, live⟩ := faithful.registered id j registered
      have other : j ≠ k := by
        rintro rfl
        rw [called] at before
        cases before
        exact named names.symm
      exact ⟨d, by rw [now, if_neg other, before], names, live⟩
  · intro j d after live
    rw [now] at after
    split at after
    · cases after
      exact absurd live dead
    · rename_i other
      have registered := faithful.live j d after live
      have differs : d.captureId ≠ c.captureId := by
        intro named
        exact other (own j (named ▸ registered))
      simp only [update_of_ne differs, registered]
  · intro j d after inProgress
    rw [now] at after
    split at after
    · cases after
      rw [(kept inProgress).2]
      exact faithful.pending k c called (kept inProgress).1
    · exact faithful.pending j d after inProgress
  · intro id j reported
    obtain rfl | rfl := left
    · cases reported
    · obtain ⟨d, before, named⟩ := faithful.ending id j reported
      rw [now]
      split
      · subst_vars
        rw [called] at before
        cases before
        exact ⟨_, rfl, same⟩
      · exact ⟨d, before, named⟩

theorem proceed (added : Bool) (orderly : s.Orderly (.proceed k added)) : Faithful (s.proceed k added) := by
  rw [Registry.proceed]
  cases called : s.calls[k]? with
  | none => exact faithful
  | some c =>
    have pass (going : c.InProgress) {phase : CapturePhase} (refused : phase ≠ .returned .noError) :
        Faithful (s.goTo k phase) := faithful.goOn called going rfl rfl fun live => refused live.1
    have inProgress (phase : CapturePhase) (now : c.phase = phase) (differs : ∀ code, phase ≠ .returned code) :
        c.InProgress := by rwa [CaptureCall.InProgress, now]
    dsimp only
    split
    next now => exact pass (inProgress _ now nofun) nofun
    next now => split <;> exact pass (inProgress _ now nofun) nofun
    next now => split <;> exact pass (inProgress _ now nofun) nofun
    next now => exact pass (inProgress _ now nofun) nofun
    next now =>
      split
      · exact faithful.goOn called (inProgress _ now nofun) rfl rfl nofun
      · exact pass (inProgress _ now nofun) nofun
    next now =>
      obtain ⟨free, goes⟩ := orderly c called now
      exact faithful.register called (inProgress _ now nofun) free goes
    next => exact faithful

theorem cancelCapture (captureId : Int) (done : Bool) : Faithful (s.cancelCapture captureId done) := by
  rw [Registry.cancelCapture]
  split
  · exact faithful
  · split
    · exact faithful
    · rename_i k registered
      split
      · obtain ⟨c, called, rfl, live⟩ := faithful.registered captureId k registered
        refine faithful.finish called rfl (fun live => Bool.noConfusion live.2.1) ?_ ?_ (.inr rfl)
        · intro going
          exact absurd live.1 (going _)
        · intro l again
          rw [registered] at again
          exact (Option.some.inj again).symm
      · exact faithful

theorem handleCallbackMessage {message : MessageGroup} {request : Nat}
    (possible : s.Possible (.handleCallbackMessage message request)) : Faithful (s.handleCallbackMessage message request) := by
  have reports (type : CaptureMessageType) (captureId : Int) : Faithful (s.report type captureId message) := by
    rw [Registry.report]
    split
    · exact ⟨faithful.registered, faithful.live, faithful.pending, faithful.ending⟩
    · exact faithful
  rw [Registry.handleCallbackMessage.eq_def]
  split
  · exact faithful
  · exact faithful
  · rename_i first others _
    split
    · exact reports ..
    · exact reports ..
    · exact reports ..
    · split
      · have reported := reports .onEnded first.captureId
        refine ⟨reported.registered, reported.live, reported.pending, ?_⟩
        intro id k ending
        cases ending
        obtain ⟨c, called, -, own⟩ := possible
        have calls : (s.report .onEnded first.captureId (first :: others)).calls = s.calls := by
          rw [Registry.report]
          split <;> rfl
        exact ⟨c, by rw [calls]; exact called, (own first List.mem_cons_self).symm⟩
      · exact faithful
    · exact faithful

theorem onCaptureEnded (orderly : s.Orderly .onCaptureEnded) : Faithful s.onCaptureEnded := by
  rw [Registry.onCaptureEnded]
  split
  · exact faithful
  · rename_i captureId k ending
    obtain ⟨c, called, rfl⟩ := faithful.ending captureId k ending
    exact faithful.finish called rfl (fun live => Bool.noConfusion live.2.2) (fun going => ⟨going, rfl⟩)
      (fun l registered => orderly _ ending l registered) (.inl rfl)

theorem step {step : RegistryStep} (possible : s.Possible step) (orderly : s.Orderly step) : Faithful (s.step step) := by
  cases step with
  | capture captureId streamIds => exact faithful.capture captureId streamIds
  | proceed k added => exact faithful.proceed added orderly
  | cancelCapture captureId done => exact faithful.cancelCapture captureId done
  | handleCallbackMessage message request => exact faithful.handleCallbackMessage possible
  | onCaptureEnded => exact faithful.onCaptureEnded orderly

end

end Faithful

namespace Registry

instance (c : CaptureCall) : Decidable c.Live := inferInstanceAs (Decidable (_ ∧ _ ∧ _))

instance (c : CaptureCall) : Decidable c.InProgress :=
  match now : c.phase with
  | .returned code => .isFalse fun going => going code now
  | .checkStreams _ | .checkDuplicate | .addRequest _ | .register => .isTrue fun _ returned => nomatch now ▸ returned

instance (s : Registry) : (step : RegistryStep) → Decidable (s.Possible step)
  | .handleCallbackMessage _ request => inferInstanceAs (Decidable (∃ c ∈ s.calls[request]?, _))
  | .capture .. | .proceed .. | .cancelCapture .. | .onCaptureEnded => inferInstanceAs (Decidable True)

instance (s : Registry) : (step : RegistryStep) → Decidable (s.Orderly step)
  | .proceed k _ => inferInstanceAs (Decidable (∀ c ∈ s.calls[k]?, _))
  | .onCaptureEnded => inferInstanceAs (Decidable (∀ e ∈ s.ending, _))
  | .capture .. | .cancelCapture .. | .handleCallbackMessage .. => inferInstanceAs (Decidable True)

end Registry

/-- In an orderly run the map reflects the live captures. -/
theorem registry_reflects {streams : List Int} {s : Registry}
    (reached : Reaches Registry.step (fun s e => s.Possible e ∧ s.Orderly e) (.start streams) s) : s.Reflects :=
  (reached.keeps (Faithful.start streams) fun _ _ faithful may => faithful.step may.1 may.2).reflects

def queueing : List RegistryStep :=
  [.capture 1 [0], .proceed 0 true, .proceed 0 true, .proceed 0 true, .proceed 0 true, .proceed 0 true]

def endOfOne : MessageGroup := [⟨.onEnded, 0, 1, 5, 1, 0⟩]

/-- `Capture` returns before the end of the capture is processed. -/
def orderlyRun : List RegistryStep := queueing ++ [.proceed 0 true, .handleCallbackMessage endOfOne 0, .onCaptureEnded]

theorem registry_reflects_orderlyRun : (orderlyRun.foldl Registry.step (.start [0])).Reflects :=
  registry_reflects (Takes.reaches (by decide))

/-- The frame of the capture comes and its end is processed before `Capture` registers the request. -/
def hastyRun : List RegistryStep := queueing ++ [.handleCallbackMessage endOfOne 0, .onCaptureEnded, .proceed 0 true]

/-- No call is in progress, the capture is over, and the map has its id. -/
theorem registry_not_reflects : ∃ s, Reaches Registry.step Registry.Possible (.start [0]) s ∧ s.Quiet ∧ ¬ s.Reflects := by
  refine ⟨hastyRun.foldl Registry.step (.start [0]), Takes.reaches (by decide), by rw [Registry.Quiet]; decide, ?_⟩
  intro reflects
  have none : ¬ ∃ c ∈ (hastyRun.foldl Registry.step (.start [0])).calls, c.Live ∧ c.captureId = 1 := by decide
  exact none ((reflects.ids 1).mp (by decide))

end Peripheral.Camera
