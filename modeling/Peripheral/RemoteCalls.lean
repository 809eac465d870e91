import Mathlib.Logic.Basic

/-!
Calls that go to another process through two queues of values. The caller's side, the
proxy, writes the arguments into one queue and reads the results from the other; the
server's side, the stub, does the reverse around one call of what it serves. When each
side reads what the other wrote, and nothing else, no caller can tell such a call from
a call of the service itself.
-/
namespace Peripheral.RemoteCalls

variable {ν ε α β : Type}

/-- Takes values from the front of a queue, or fails with a code. -/
abbrev Reader (ν ε : Type) := EStateM ε (List ν)

/-- The reader takes all that was written, nothing of what is behind it, and gives `a`. -/
def Delivers (written : List ν) (reader : Reader ν ε α) (a : α) : Prop :=
  ∀ behind, reader.run (written ++ behind) = .ok a behind

/-- The reader fails with this code on what was written, whatever is behind it. -/
def Fails (written : List ν) (reader : Reader ν ε α) (code : ε) : Prop :=
  ∀ behind, ∃ unread, reader.run (written ++ behind) = .error code unread

/-- Whatever the queue holds, what the reader gives is of this kind. -/
def Gives (reader : Reader ν ε α) (holds : α → Prop) : Prop :=
  ∀ queue a unread, reader.run queue = .ok a unread → holds a

def many (reader : Reader ν ε α) : (n : Nat) → Reader ν ε (Vector α n)
  | 0 => pure #v[]
  | n + 1 => do
    let before ← many reader n
    let a ← reader
    pure (before.push a)

namespace Delivers

variable {u v : List ν} {x : ν} {reader : Reader ν ε α} {next : α → Reader ν ε β} {a : α} {b : β}

theorem pure (a : α) : Delivers [] (pure a : Reader ν ε α) a := fun _ => rfl

theorem run_bind (first : Delivers u reader a) (behind : List ν) :
    (reader >>= next).run (u ++ behind) = (next a).run behind := by
  rw [EStateM.run_bind, first]

theorem block (first : Delivers u reader a) (later : Delivers v (next a) b) : Delivers (u ++ v) (reader >>= next) b := by
  intro behind
  rw [List.append_assoc, first.run_bind]
  exact later behind

theorem value (first : Delivers [x] reader a) (later : Delivers v (next a) b) : Delivers (x :: v) (reader >>= next) b :=
  block first later

theorem last {f : α → β} (only : Delivers u reader a) : Delivers u (reader >>= fun a => Pure.pure (f a)) (f a) := by
  rw [← List.append_nil u]
  exact block only (pure (f a))

theorem beside {f : Unit → Reader ν ε α} {check : Reader ν ε Unit} (passes : check = Pure.pure ())
    (later : Delivers u (f ()) a) : Delivers u (check >>= f) a := by
  rw [passes]
  exact later

theorem adaptExcept {ε' : Type} {code : ε → ε'} (only : Delivers u reader a) :
    Delivers u (EStateM.adaptExcept code reader) a := by
  intro behind
  have read := only behind
  simp only [EStateM.run] at read ⊢
  rw [EStateM.adaptExcept, read]

theorem many {write : α → List ν} (each : ∀ a, Delivers (write a) reader a) {n : Nat} (all : Vector α n) :
    Delivers (all.toList.flatMap write) (many reader n) all := by
  induction n with
  | zero =>
    have empty : all = #v[] := Vector.eq_empty
    rw [empty]
    exact pure _
  | succ n before =>
    rw [← Vector.push_pop_back all, Vector.toList_push, List.flatMap_append, List.flatMap_singleton]
    exact block (before all.pop) (last (each all.back))

end Delivers

namespace Fails

variable {u v : List ν} {x : ν} {reader : Reader ν ε α} {next : α → Reader ν ε β} {a : α} {code : ε}

theorem now (first : Fails u reader code) : Fails u (reader >>= next) code := by
  intro behind
  obtain ⟨unread, failed⟩ := first behind
  refine ⟨unread, ?_⟩
  rw [EStateM.run_bind, failed]

theorem value (first : Delivers [x] reader a) (later : Fails v (next a) code) : Fails (x :: v) (reader >>= next) code := by
  intro behind
  obtain ⟨unread, failed⟩ := later behind
  exact ⟨unread, (first.run_bind (v ++ behind)).trans failed⟩

end Fails

namespace Gives

variable {holds : α → Prop} {a : α}

theorem pure (given : holds a) : Gives (pure a : Reader ν ε α) holds := by
  intro queue b unread read
  cases read
  exact given

theorem bind {reader : Reader ν ε β} {next : β → Reader ν ε α} (later : ∀ b, Gives (next b) holds) :
    Gives (reader >>= next) holds := by
  intro queue a unread read
  rw [EStateM.run_bind] at read
  split at read
  · exact later _ _ _ _ read
  · cases read

end Gives

structure Interface (ν ε : Type) where
  Call : Type
  Out : Call → Type
  Command : Type
  success : ε
  command : Call → Command
  writeArguments : Call → List ν
  readArguments : Command → Reader ν ε Call
  writeResult : (call : Call) → Out call → List ν
  readResult : (call : Call) → Reader ν ε (Out call)

namespace Interface

variable (I : Interface ν ε) {σ : Type}

/-- What the stub calls: it returns a code and results, and changes its state. -/
abbrev Service (σ : Type) := (call : I.Call) → σ → (ε × I.Out call) × σ

structure Server (σ : Type) where
  state : σ
  calls : List I.Call

structure Served (σ : Type) where
  ret : ε
  reply : List ν
  unread : List ν
  server : I.Server σ

structure Returned (call : I.Call) (σ : Type) where
  ret : ε
  out : Option (I.Out call)
  unreadRequest : List ν
  unreadReply : List ν
  server : I.Server σ

variable [DecidableEq ε]

/-- The stub: arguments that cannot be read reach no service, and only success has a reply. -/
def serve (service : I.Service σ) (command : I.Command) (request : List ν) (server : I.Server σ) : I.Served σ :=
  match (I.readArguments command).run request with
  | .error code unread => ⟨code, [], unread, server⟩
  | .ok call unread =>
    let ((ret, out), state) := service call server.state
    let reply := if ret = I.success then I.writeResult call out else []
    ⟨ret, reply, unread, ⟨state, server.calls ++ [call]⟩⟩

/-- The proxy, to whatever stub. -/
def through (stub : I.Command → List ν → I.Server σ → I.Served σ) (call : I.Call) (server : I.Server σ) :
    I.Returned call σ :=
  let served := stub (I.command call) (I.writeArguments call) server
  if served.ret = I.success then
    match (I.readResult call).run served.reply with
    | .error code unread => ⟨code, none, served.unread, unread, served.server⟩
    | .ok out unread => ⟨served.ret, some out, served.unread, unread, served.server⟩
  else ⟨served.ret, none, served.unread, served.reply, served.server⟩

def invoke (service : I.Service σ) (call : I.Call) (server : I.Server σ) : I.Returned call σ :=
  I.through (I.serve service) call server

/-- Through the proxy the service is called once, with what the caller passed; its code comes
back, with success its results too, and nothing stays in the queues. -/
def Transparent (call : I.Call) : Prop :=
  ∀ (σ : Type) (service : I.Service σ) (server : I.Server σ),
    let ((ret, out), state) := service call server.state
    I.invoke service call server
      = ⟨ret, if ret = I.success then some out else none, [], [], ⟨state, server.calls ++ [call]⟩⟩

/-- The service was called once, with what the caller passed, and on success the caller has its results. -/
def Conveyed (service : I.Service σ) (call : I.Call) (server : I.Server σ) (returned : I.Returned call σ) : Prop :=
  returned.server.calls = server.calls ++ [call] ∧
    ((service call server.state).1.1 = I.success → returned.out = some (service call server.state).1.2)

variable {I} {call : I.Call}

section
variable (arguments : Delivers (I.writeArguments call) (I.readArguments (I.command call)) call)
include arguments

theorem serve_delivered {service : I.Service σ} {server : I.Server σ} {ret : ε} {out : I.Out call} {state : σ}
    (answer : service call server.state = ((ret, out), state)) : I.serve service (I.command call) (I.writeArguments call) server
      = ⟨ret, if ret = I.success then I.writeResult call out else [], [], ⟨state, server.calls ++ [call]⟩⟩ := by
  have read := arguments []
  rw [List.append_nil] at read
  rw [serve, read]
  simp only [answer]

theorem invoke_delivered {service : I.Service σ} {server : I.Server σ} {ret : ε} {out : I.Out call} {state : σ}
    (answer : service call server.state = ((ret, out), state)) {unread : List ν}
    (result : (I.readResult call).run (I.writeResult call out) = .ok out unread) : I.invoke service call server
      = ⟨ret, if ret = I.success then some out else none, [], if ret = I.success then unread else [],
          ⟨state, server.calls ++ [call]⟩⟩ := by
  rw [invoke, through, serve_delivered arguments answer]
  by_cases succeeds : ret = I.success
  · simp only [if_pos succeeds, result]
  · simp only [if_neg succeeds]

theorem invoke_conveyed (result : ∀ out, ∃ unread, (I.readResult call).run (I.writeResult call out) = .ok out unread)
    (service : I.Service σ) (server : I.Server σ) : I.Conveyed service call server (I.invoke service call server) := by
  rcases answer : service call server.state with ⟨⟨ret, out⟩, state⟩
  obtain ⟨unread, read⟩ := result out
  rw [Conveyed, invoke_delivered arguments answer read, answer]
  exact ⟨rfl, fun succeeds => if_pos succeeds⟩

/-- What both sides have to do for it. -/
theorem transparent (result : ∀ out, Delivers (I.writeResult call out) (I.readResult call) out) : I.Transparent call := by
  intro σ service server
  rcases answer : service call server.state with ⟨⟨ret, out⟩, state⟩
  have read := result out []
  rw [List.append_nil] at read
  rw [invoke_delivered arguments answer read]
  simp only [ite_self]

end

theorem serve_calls {command : I.Command} {holds : I.Call → Prop} (gives : Gives (I.readArguments command) holds)
    (service : I.Service σ) (request : List ν) (server : I.Server σ) :
    (I.serve service command request server).server.calls = server.calls ∨
      ∃ received, holds received ∧ (I.serve service command request server).server.calls = server.calls ++ [received] := by
  rw [serve]
  cases read : (I.readArguments command).run request with
  | error code unread => exact .inl rfl
  | ok received unread => exact .inr ⟨received, gives _ _ _ read, rfl⟩

theorem through_congr {stub other : I.Command → List ν → I.Server σ → I.Served σ} (server : I.Server σ)
    (same : stub (I.command call) = other (I.command call)) : I.through stub call server = I.through other call server := by
  rw [through, through, same]

theorem through_server (stub : I.Command → List ν → I.Server σ → I.Served σ) (server : I.Server σ) :
    (I.through stub call server).server = (stub (I.command call) (I.writeArguments call) server).server := by
  rw [through]
  split
  · split
    · rfl
    · rfl
  · rfl

end Interface

end Peripheral.RemoteCalls
