import Peripheral.CodecIpc

/-!
Which calls of the first codec interface get to the `Codec*` functions with the values that
the client passed. For every method of a codec the stub passes the address of the variable
that it has read the handle into; capabilities are enumerated without a call; of the
parameters of a codec that is created, only one is sent. What remains is conveyed.
-/
namespace Peripheral.CodecIpc

open RemoteCalls Hdf

/-- The function is called once and gets what the client passed; what it hands out on success
gets back to the client. -/
def Conveys (machine : Machine) (call : CodecCall) : Prop :=
  ∀ (σ : Type) (service : (codec machine).Service σ) (server : (codec machine).Server σ),
    (codec machine).Conveyed service call server (codecProxy machine service call server)

namespace CodecCall

/-- The call is for no codec in particular, or creates one with a single parameter. -/
def Conveyable : CodecCall → Prop
  | init | deinit | getCapbility .. => True
  | create _ _ len _ => len.toNatClampNeg ≤ 1
  | _ => False

def handle? : CodecCall → Option Pointer
  | init | deinit | enumerateCapbility _ | getCapbility .. | create .. => none
  | destroy handle | setPortMode handle _ _ | setParameter handle _ | getParameter handle _ | start handle
  | stop handle | flush handle _ | queueInput handle _ _ | dequeInput handle _ _ | queueOutput handle _ _ _
  | dequeueOutput handle _ _ | setCallback handle _ _ => some handle

end CodecCall

variable {machine : Machine} {call : CodecCall} {σ : Type}

theorem delivers_alignment (alignment : Alignment) :
    Delivers (codecSerPackAlignment alignment) codecProxyParseAlignment alignment :=
  .value (delivers_take rfl) (.last (delivers_take rfl))

theorem delivers_rect (rectangle : Rect) : Delivers (codecSerPackRect rectangle) codecProxyParseRect rectangle :=
  .value (delivers_take rfl) (.last (delivers_take rfl))

theorem delivers_resizableArray (resArr : ResizableArray) :
    Delivers (codecSerPackArray resArr) codecProxyParseArray resArr := by
  have each (element : UInt32) : Delivers [.uint32 element] readUint32 element := delivers_take rfl
  exact .value (delivers_take rfl) (.last (.many each resArr.elems))

theorem delivers_capbility (cap : CodecCapbility) :
    Delivers (codecSerPackCapbility cap) codecProxyParseGottenCapbility cap := by
  refine .value (delivers_take rfl) (.value (delivers_take rfl) (.block (delivers_alignment _) ?_))
  refine .block (delivers_rect _) (.block (delivers_rect _) (.value (delivers_take rfl) (.value (delivers_take rfl) ?_)))
  refine .block (delivers_resizableArray _) (.block (delivers_resizableArray _) (.block (delivers_resizableArray _) ?_))
  refine .value (delivers_take rfl) (.value (delivers_take rfl) (.value (delivers_take rfl) ?_))
  exact .last (delivers_take rfl)

theorem onRemoteRequest_eq_serve {cmdId : CodecCmd} (calls : cmdId ≠ .enumCap) (service : (codec machine).Service σ) :
    codecServiceOnRemoteRequest machine service cmdId = (codec machine).serve service cmdId := by
  cases cmdId with
  | enumCap => exact absurd rfl calls
  | _ => rfl

theorem conveys_of_delivered (accepted : call.accepted = true) (calls : call.command ≠ .enumCap)
    (arguments : Delivers (call.request machine) (codecServiceReads machine call.command) call)
    (result : ∀ out, ∃ unread, (call.readReply machine).run (call.reply machine out) = .ok out unread) :
    Conveys machine call := by
  intro σ service server
  have called : codecProxy machine service call server = (codec machine).invoke service call server := by
    rw [codecProxy, if_pos accepted]
    exact Interface.through_congr server (onRemoteRequest_eq_serve calls service)
  rw [called]
  exact Interface.invoke_conveyed arguments result service server

theorem delivers_create {name : String} {attr : Param} {len : Int32} {more : Vector Param (len.toNatClampNeg - 1)}
    (one : len.toNatClampNeg ≤ 1) : Delivers ((CodecCall.create name attr len more).arguments machine) (serCodecCreate machine)
      (.create name attr len more) := by
  have val : (Vector.ofFn fun i => attr.val.toList.getD i (machine.behindBuffer i)) = attr.val := by
    apply Vector.ext
    intro i inside
    simp
  have none : (Vector.ofFn fun i => machine.behindAttr i) = more := by
    apply Vector.ext
    intro i inside
    omega
  refine .value (delivers_take rfl) (.value (delivers_take rfl) (.value (delivers_take rfl) ?_))
  refine .value (delivers_take rfl) (.value (delivers_take rfl) (.value (delivers_take rfl) ?_))
  rw [val, none]
  exact .pure _

theorem conveys_of_conveyable (conveyable : call.Conveyable) : Conveys machine call := by
  cases call with
  | init =>
    apply conveys_of_delivered rfl
    · exact nofun
    · exact .last (delivers_token _)
    · exact fun out => ⟨_, rfl⟩
  | deinit =>
    apply conveys_of_delivered rfl
    · exact nofun
    · exact .last (delivers_token _)
    · exact fun out => ⟨_, rfl⟩
  | getCapbility mime type flags =>
    apply conveys_of_delivered rfl
    · exact nofun
    · refine .value (delivers_token _) (.value (delivers_take rfl) (.value (delivers_take rfl) ?_))
      exact .last (delivers_take rfl)
    · intro cap
      have read := delivers_capbility cap []
      rw [List.append_nil] at read
      exact ⟨[], read⟩
  | create name attr len more =>
    apply conveys_of_delivered rfl
    · exact nofun
    · exact .value (delivers_token _) (delivers_create conveyable)
    · exact fun handle => ⟨[], rfl⟩
  | _ => exact conveyable.elim

theorem gives_handle (cmdId : CodecCmd) : Gives (codecServiceReads machine cmdId) fun received =>
      ∀ handle, received.handle? = some handle → handle = handlePassed machine := by
  have passed {received : CodecCall} (by_address : received.handle? = some (handlePassed machine)) :
      ∀ handle, received.handle? = some handle → handle = handlePassed machine := by
    intro handle given
    exact Option.some.inj (given.symm.trans by_address)
  refine .bind fun _ => ?_
  cases cmdId with
  | init | deinit => exact .pure nofun
  | enumCap => exact .bind fun _ => .pure nofun
  | getCap => exact .bind fun _ => .bind fun _ => .bind fun _ => .pure nofun
  | create =>
    exact .bind fun _ => .bind fun _ => .bind fun _ => .bind fun _ => .bind fun _ => .bind fun _ => .pure nofun
  | destroy | start | stop => exact .bind fun _ => .pure (passed rfl)
  | setMode => exact .bind fun _ => .bind fun _ => .bind fun _ => .pure (passed rfl)
  | setParams | getParams =>
    exact .bind fun _ => .bind fun _ => .bind fun _ => .bind fun _ => .bind fun _ => .pure (passed rfl)
  | flush => exact .bind fun _ => .bind fun _ => .pure (passed rfl)
  | quequeInput =>
    exact .bind fun _ => .bind fun _ => .bind fun _ => .bind fun _ => .bind fun _ => .bind fun _ => .pure (passed rfl)
  | dequequeInput =>
    exact .bind fun _ => .bind fun _ => .bind fun _ => .bind fun _ => .bind fun _ => .pure (passed rfl)
  | quequeOutput =>
    refine .bind fun _ => .bind fun _ => .bind fun _ => .bind fun _ => .bind fun _ => ?_
    exact .bind fun _ => .bind fun _ => .pure (passed rfl)
  | dequequeOutput => exact .bind fun _ => .bind fun _ => .bind fun _ => .bind fun _ => .pure (passed rfl)
  | setCbk => exact .bind fun _ => .bind fun _ => .bind fun _ => .pure (passed rfl)

theorem gives_behindAttr : Gives (codecServiceReads machine .create) fun received =>
      ∃ name attr len, received = .create name attr len (Vector.ofFn fun i => machine.behindAttr i) := by
  refine .bind fun _ => .bind fun name => .bind fun key => .bind fun size => .bind fun val => .bind fun len => ?_
  exact .bind fun _ => .pure ⟨name, _, len, rfl⟩

theorem proxy_server (accepted : call.accepted = true) (service : (codec machine).Service σ)
    (server : (codec machine).Server σ) : (codecProxy machine service call server).server
      = (codecServiceOnRemoteRequest machine service call.command (call.request machine) server).server := by
  rw [codecProxy, if_pos accepted]
  exact Interface.through_server _ server

theorem enumerate_server (index : UInt32) (service : (codec machine).Service σ) (server : (codec machine).Server σ) :
    (codecProxy machine service (.enumerateCapbility index) server).server = server :=
  (proxy_server rfl service server).trans rfl

/-- A function is called, if at all, with what the stub has read. -/
theorem proxy_calls {holds : CodecCall → Prop} (gives : Gives (codecServiceReads machine call.command) holds)
    (calls : call.command ≠ .enumCap) (service : (codec machine).Service σ) (server : (codec machine).Server σ) :
    (codecProxy machine service call server).server.calls = server.calls ∨ ∃ received : (codec machine).Call, holds received ∧
        (codecProxy machine service call server).server.calls = server.calls ++ [received] := by
  by_cases accepted : call.accepted = true
  · rw [proxy_server accepted, onRemoteRequest_eq_serve calls]
    exact Interface.serve_calls gives service (call.request machine) server
  · rw [codecProxy, if_neg accepted]
    exact .inl rfl

def CodecCall.someOut (machine : Machine) : (call : CodecCall) → call.Out
  | enumerateCapbility _ => machine.freshCapbility
  | getCapbility .. => machine.freshCapbility
  | create .. => (0 : Pointer)
  | getParameter _ params => Vector.replicate params.paramCnt.toNatClampNeg (machine.behindAttr 0)
  | dequeInput .. => InputInfo.mk ⟨0, #v[]⟩ 0 0
  | dequeueOutput .. => ((0 : Int32), OutputInfo.mk ⟨0, #v[]⟩ 0 0 0 0 0)
  | init | deinit | destroy _ | setPortMode .. | setParameter .. | start _ | stop _ | flush .. | queueInput ..
  | queueOutput .. | setCallback .. => ()

def succeeding (machine : Machine) : (codec machine).Service Unit :=
  fun call _ => ((HDF_SUCCESS, CodecCall.someOut machine call), ())

theorem called_of_conveys (conveys : Conveys machine call) {holds : CodecCall → Prop}
    (gives : Gives (codecServiceReads machine call.command) holds) (calls : call.command ≠ .enumCap) : holds call := by
  have conveyed := (conveys Unit (succeeding machine) ⟨(), []⟩).1
  rcases proxy_calls gives calls (succeeding machine) ⟨(), []⟩ with none | ⟨received, held, called⟩
  · rw [none] at conveyed
    exact absurd conveyed nofun
  · rw [called] at conveyed
    cases conveyed
    exact held

theorem handle_of_conveys (conveys : Conveys machine call) {handle : Pointer} (given : call.handle? = some handle) :
    handle = handlePassed machine := by
  refine called_of_conveys conveys (gives_handle call.command) ?_ handle given
  cases call with
  | enumerateCapbility => exact absurd given nofun
  | _ => exact nofun

/-- What the function takes for the second parameter was never sent. -/
theorem more_of_conveys {name : String} {attr : Param} {len : Int32} {more : Vector Param (len.toNatClampNeg - 1)}
    (conveys : Conveys machine (.create name attr len more)) : more = Vector.ofFn fun i => machine.behindAttr i := by
  obtain ⟨name, attr, len, created⟩ := called_of_conveys conveys gives_behindAttr nofun
  cases created
  rfl

theorem not_conveys_enumerate (index : UInt32) : ¬Conveys machine (.enumerateCapbility index) := by
  intro conveys
  have conveyed := (conveys Unit (succeeding machine) ⟨(), []⟩).1
  rw [enumerate_server] at conveyed
  exact absurd conveyed nofun

/-- Every variable lies behind this address, and behind the parameter lies another one. -/
def elsewhere (address : Pointer) (attr : Param) : Machine where
  client := ⟨fun _ => address + 1, fun _ => 0⟩
  server := ⟨fun _ => address + 1, fun _ => 0⟩
  osalMemAlloc _ := true
  freshWord := 0
  ownWord _ := 0
  freshCapbility := ⟨0, 0, ⟨0, 0⟩, ⟨0, 0⟩, ⟨0, 0⟩, 0, 0, ⟨0, #v[]⟩, ⟨0, #v[]⟩, ⟨0, #v[]⟩, 0, 0, 0, 0⟩
  behindBuffer _ := 0
  behindAttr _ := { attr with key := attr.key + 1 }

/-- Whatever the machine, the calls that are for no codec in particular and the creation of a
codec with one parameter are conveyed, and no others. -/
theorem conveyed_iff (call : CodecCall) : (∀ machine, Conveys machine call) ↔ call.Conveyable := by
  refine ⟨fun conveys => ?_, fun conveyable machine => conveys_of_conveyable conveyable⟩
  have noHandle (handle : Pointer) : call.handle? ≠ some handle := by
    intro given
    have same := handle_of_conveys (conveys (elsewhere handle ⟨0, 0, #v[]⟩)) given
    simp [handlePassed, elsewhere] at same
  cases call with
  | init | deinit | getCapbility => trivial
  | enumerateCapbility index => exact absurd (conveys (elsewhere 0 ⟨0, 0, #v[]⟩)) (not_conveys_enumerate index)
  | create name attr len more =>
    refine Nat.not_lt.mp fun several => ?_
    have second : 0 < len.toNatClampNeg - 1 := Nat.sub_pos_of_lt several
    have same := more_of_conveys (conveys (elsewhere 0 (more[0])))
    have key := congrArg Param.key (congrArg (fun more => more[0]) same)
    simp [elsewhere] at key
  | _ => exact absurd rfl (noHandle _)

theorem start_gets_address : (codecProxy (elsewhere 4096 ⟨0, 0, #v[]⟩) (succeeding _) (.start 7) ⟨(), []⟩).server.calls
        = [CodecCall.start 4097] ∧ ¬∀ machine, Conveys machine (.start 7) := by
  refine ⟨rfl, fun conveys => ?_⟩
  have same := handle_of_conveys (conveys (elsewhere 4096 ⟨0, 0, #v[]⟩)) rfl
  exact absurd same (by decide)

end Peripheral.CodecIpc
