import Peripheral.AudioDispatch

/-!
The calls of the audio HAL that carry structures, made through the proxy: what the
client's process writes, what the handler in the server's process reads, the call of the
HAL there, and the way back. Both sides write and read field by field, and leave some
fields out.
-/
namespace Peripheral.Audio
open RemoteCalls Hdf

def NAME_LEN : Nat := 64

/-- The calls, with their arguments. The descriptor of `reqMmapBuffer` is an argument and a result. -/
inductive BinderCall
  | create (d : Direction) (desc : AudioDeviceDescriptor) (attrs : AudioSampleAttributes)
  | setSampleAttributes (d : Direction) (attrs : AudioSampleAttributes)
  | getSampleAttributes (d : Direction)
  | checkSceneCapability (d : Direction) (scene : AudioSceneDescriptor)
  | selectScene (d : Direction) (scene : AudioSceneDescriptor)
  | reqMmapBuffer (d : Direction) (arguments : Int32 × AudioMmapBufferDescripter)
  | getPosition (d : Direction)
  | getMmapPosition (d : Direction)
  deriving DecidableEq

inductive BinderCmd
  | create
  | setSampleAttributes
  | getSampleAttributes
  | checkSceneCapability
  | selectScene
  | reqMmapBuffer
  | getPosition
  | getMmapPosition
  deriving DecidableEq

namespace BinderCall

def direction : BinderCall → Direction
  | create d _ _ => d
  | setSampleAttributes d _ => d
  | getSampleAttributes d => d
  | checkSceneCapability d _ => d
  | selectScene d _ => d
  | reqMmapBuffer d _ => d
  | getPosition d => d
  | getMmapPosition d => d

def cmd : BinderCall → BinderCmd
  | create _ _ _ => .create
  | setSampleAttributes _ _ => .setSampleAttributes
  | getSampleAttributes _ => .getSampleAttributes
  | checkSceneCapability _ _ => .checkSceneCapability
  | selectScene _ _ => .selectScene
  | reqMmapBuffer _ _ => .reqMmapBuffer
  | getPosition _ => .getPosition
  | getMmapPosition _ => .getMmapPosition

def Out : BinderCall → Type
  | getSampleAttributes _ => AudioSampleAttributes
  | checkSceneCapability _ _ => Bool
  | reqMmapBuffer _ _ => AudioMmapBufferDescripter
  | getPosition _ => UInt64 × AudioTimeStamp
  | getMmapPosition _ => UInt64 × AudioTimeStamp
  | _ => Unit

end BinderCall

/-- What the HAL answers: a code, the variables it fills, and the object of a creation, which stays in the server's process. -/
structure HalAnswer (call : BinderCall) where
  ret : Int
  out : call.Out
  object : Option Nat

abbrev Hal (σ : Type) := Nat → (call : BinderCall) → σ → HalAnswer call × σ

/-- What is in the variables of a handler before it reads into them, and how a former stream ends that is to be replaced. -/
structure Surroundings where
  streamId : Int32
  portId : UInt32
  frameEnds : Bool
  destroys : Int

/-- The server's process. `calls` are those made on the HAL, each with the address. -/
structure HalServer (σ : Type) where
  table : AudioServer
  state : σ
  calls : List (Nat × BinderCall)

structure BinderServed (σ : Type) where
  ret : Int
  reply : HdfSBuf
  server : HalServer σ

structure BinderReturned (call : BinderCall) (σ : Type) where
  ret : Int
  out : call.Out
  server : HalServer σ

def BinderCall.reply : (call : BinderCall) → call.Out → HdfSBuf
  | getSampleAttributes _, attrs => writeAudioSampleAttributes attrs
  | checkSceneCapability _ _, supported => [flag supported]
  | getPosition _, (frames, time) => hdiServicePositionWrite frames time
  | getMmapPosition _, (frames, time) => hdiServicePositionWrite frames time
  | _, _ => []

def BinderCall.returned : BinderCall → Int → Int
  | setSampleAttributes _ _ => asReturned
  | selectScene _ _ => asReturned
  | reqMmapBuffer _ _ => asReturned
  | _ => onlyErrors

namespace HalServer

variable {σ : Type} (s : HalServer σ) (env : Surroundings) (hal : Hal σ)

def refuse (ret : Int) : BinderServed σ := ⟨ret, [], s⟩

def ask (address : Nat) (call : BinderCall) : HalAnswer call × HalServer σ :=
  let (answer, state) := hal address call s.state
  (answer, ⟨s.table, state, s.calls ++ [(address, call)]⟩)

def onStream (d : Direction) (arguments : Reader Value Int32 BinderCall) (data : HdfSBuf) : BinderServed σ :=
  match hdiServiceRenderCaptureReadData.run data with
  | .error _ _ => s.refuse HDF_FAILURE
  | .ok (adapterName, pid) behind =>
    match s.table.entry adapterName with
    | none => s.refuse HDF_ERR_INVALID_PARAM
    | some e =>
      match e.audioAdapterListCheckAndGet d pid with
      | .error code => s.refuse code
      | .ok object =>
        match arguments.run behind with
        | .error _ _ => s.refuse AUDIO_HAL_ERR_INTERNAL
        | .ok call _ =>
          let (answer, after) := s.ask hal object.address call
          ⟨call.returned answer.ret, if answer.ret < 0 then [] else call.reply answer.out, after⟩

/-- `HdiServiceCreatRender` and `HdiServiceCreatCapture`: the new object is put into the table. -/
def creat (d : Direction) (data : HdfSBuf) : BinderServed σ :=
  match readString.run data with
  | .error _ _ => s.refuse AUDIO_HAL_ERR_INVALID_PARAM
  | .ok adapterName behind =>
    match EStateM.run (do return (← readWord, ← getInitPara env.streamId)) behind with
    | .error _ _ => s.refuse AUDIO_HAL_ERR_INTERNAL
    | .ok (pid, desc, attrs) _ =>
      match s.table.entry adapterName with
      | none => s.refuse AUDIO_HAL_ERR_INTERNAL
      | some e =>
        match e.adapter with
        | none => s.refuse AUDIO_HAL_ERR_INVALID_PARAM
        | some adapter =>
          let former : HalAnswers := ⟨env.frameEnds, env.destroys, none⟩
          let checked := (e.audioCreatCheck former (priorityOf attrs.type) d).ret
          if checked < 0 then
            { s with table := s.table.step (.creat d adapterName pid attrs.type former) }.refuse checked
          else
            let (answer, after) := s.ask hal adapter (.create d desc attrs)
            let creates := if answer.ret < 0 then none else answer.object
            let table := s.table.step (.creat d adapterName pid attrs.type { former with creates })
            ⟨if creates = none then AUDIO_HAL_ERR_INTERNAL else AUDIO_HAL_SUCCESS, [], { after with table }⟩

/-- `HdiServiceDispatch` at these commands; `token` is the descriptor of the interface. -/
def dispatch (token : String) (d : Direction) (cmd : BinderCmd) (data : HdfSBuf) : BinderServed σ :=
  match (checkInterfaceToken token).run data with
  | .error _ _ => s.refuse AUDIO_HAL_ERR_INVALID_PARAM
  | .ok _ behind =>
    match cmd with
    | .create => s.creat env hal d behind
    | .setSampleAttributes => s.onStream hal d (return .setSampleAttributes d (← readAudioSapmleAttrbutes env.streamId)) behind
    | .getSampleAttributes => s.onStream hal d (pure (.getSampleAttributes d)) behind
    | .checkSceneCapability => s.onStream hal d (return .checkSceneCapability d (← readScene env.portId)) behind
    | .selectScene => s.onStream hal d (return .selectScene d (← readScene env.portId)) behind
    | .reqMmapBuffer => s.onStream hal d (return .reqMmapBuffer d (← hdiServiceReqMmapBuffer)) behind
    | .getPosition => s.onStream hal d (pure (.getPosition d)) behind
    | .getMmapPosition => s.onStream hal d (pure (.getMmapPosition d)) behind

end HalServer

namespace BinderCall

def writes : BinderCall → HdfSBuf
  | create _ desc attrs => audioProxyCommonInitCreateData desc attrs
  | setSampleAttributes _ attrs => writeAudioSampleAttributes attrs
  | checkSceneCapability _ scene => writeScene scene
  | selectScene _ scene => writeScene scene
  | reqMmapBuffer _ (reqSize, desc) => audioProxyReqMmapBufferWrite reqSize desc
  | _ => []

/-- A creation writes the pid as a signed number. -/
def writesPid (pid : UInt32) : BinderCall → Value
  | create _ _ _ => .int32 pid.toInt32
  | _ => .uint32 pid

def reads : (call : BinderCall) → call.Out → Reader Value Int32 call.Out
  | getSampleAttributes _, attrs => readAudioSapmleAttrbutes attrs.streamId
  | checkSceneCapability _ _, _ => readFlag
  | getPosition _, _ => audioProxyGetMmapPositionRead
  | getMmapPosition _, _ => audioProxyGetMmapPositionRead
  | _, before => pure before

/-- `NAME_LEN` is the room for the name of the card in a new render or capture. -/
def fits (adapterName : String) : BinderCall → Bool
  | create _ _ _ => adapterName.utf8ByteSize < NAME_LEN
  | _ => true

/-- The functions of the proxy, for a client with this pid; `before` is what the caller's variables hold. -/
def proxy {σ : Type} (env : Surroundings) (hal : Hal σ) (token adapterName : String) (pid : UInt32) (call : BinderCall)
    (before : call.Out) (s : HalServer σ) : BinderReturned call σ :=
  if !call.fits adapterName then ⟨AUDIO_HAL_ERR_INTERNAL, before, s⟩
  else
    let served := s.dispatch env hal token call.direction call.cmd
      (.interfaceToken token :: .string adapterName :: call.writesPid pid :: call.writes)
    if served.ret < 0 then ⟨served.ret, before, served.server⟩
    else match (call.reads before).run served.reply with
      | .error _ _ => ⟨AUDIO_HAL_ERR_INTERNAL, before, served.server⟩
      | .ok out _ => ⟨call.returned served.ret, out, served.server⟩

end BinderCall

/-- Called through the proxy, the HAL got the caller's arguments, and the caller has its code and, on success, its results. -/
structure SameEffect {σ : Type} (hal : Hal σ) (address : Nat) (call : BinderCall) (s : HalServer σ)
    (returned : BinderReturned call σ) : Prop where
  called : returned.server.calls = s.calls ++ [(address, call)]
  state : returned.server.state = (hal address call s.state).2
  code : returned.ret = (hal address call s.state).1.ret
  out : (hal address call s.state).1.ret = AUDIO_HAL_SUCCESS → returned.out = (hal address call s.state).1.out

/-- The table leads to what is called: a loaded adapter where nothing plays or records yet, or the client's stream. -/
def HalServer.Ready {σ : Type} (s : HalServer σ) (adapterName : String) (pid : UInt32) (address : Nat) (call : BinderCall) :
    Prop :=
  ∃ e ∈ s.table.entry adapterName,
    match call with
    | .create d _ _ => e.adapter = some address ∧ (e.side d).status = 0
    | call => ∃ object ∈ (e.side call.direction).object, (e.side call.direction).pid = pid ∧ object.address = address

def BinderCall.Whole (env : Surroundings) (adapterName : String) : (call : BinderCall) → call.Out → HalAnswer call → Prop
  | create _ _ attrs, _, answer => adapterName.utf8ByteSize < NAME_LEN ∧ attrs.streamId = env.streamId ∧
      (answer.ret = AUDIO_HAL_SUCCESS ∧ answer.object ≠ none ∨ answer.ret = AUDIO_HAL_ERR_INTERNAL)
  | setSampleAttributes _ attrs, _, _ => attrs.streamId = env.streamId
  | getSampleAttributes _, before, answer => answer.ret ≤ 0 ∧ (answer.ret = AUDIO_HAL_SUCCESS → answer.out.streamId = before.streamId)
  | checkSceneCapability _ scene, _, answer => scene.desc.portId = env.portId ∧ answer.ret ≤ 0
  | selectScene _ scene, _, _ => scene.desc.portId = env.portId
  | reqMmapBuffer _ (_, desc), before, answer => 0 ≤ desc.memoryFd ∧ (answer.ret = AUDIO_HAL_SUCCESS → answer.out = before)
  | getPosition _, _, answer => answer.ret ≤ 0
  | getMmapPosition _, _, answer => answer.ret ≤ 0

def BinderCall.received (env : Surroundings) : BinderCall → BinderCall
  | create d desc attrs => .create d desc { attrs with streamId := env.streamId }
  | setSampleAttributes d attrs => .setSampleAttributes d { attrs with streamId := env.streamId }
  | checkSceneCapability d scene => .checkSceneCapability d ⟨scene.id, ⟨env.portId, scene.desc.pins⟩⟩
  | selectScene d scene => .selectScene d ⟨scene.id, ⟨env.portId, scene.desc.pins⟩⟩
  | call => call

def BinderCall.arrives : (call : BinderCall) → call.Out → call.Out → call.Out
  | getSampleAttributes _, before, attrs => { attrs with streamId := before.streamId }
  | checkSceneCapability _ _, _, supported => supported
  | getPosition _, _, position => position
  | getMmapPosition _, _, position => position
  | _, before, _ => before

def BinderCall.Sendable : BinderCall → Prop
  | reqMmapBuffer _ (_, desc) => 0 ≤ desc.memoryFd
  | _ => True

def HalAnswer.createdRet {call : BinderCall} (answer : HalAnswer call) : Int :=
  if (if answer.ret < 0 then none else answer.object) = none then AUDIO_HAL_ERR_INTERNAL else AUDIO_HAL_SUCCESS

section

variable {σ : Type} {s : HalServer σ} {env : Surroundings} {hal : Hal σ} {token adapterName : String} {pid : UInt32}
  {e : AudioInfoInAdapter} {address : Nat}

theorem delivers_readData : Delivers [.string adapterName, .uint32 pid] hdiServiceRenderCaptureReadData (adapterName, pid) :=
  .value (delivers_take rfl) (.last (delivers_word _))

theorem onStream_delivered {d : Direction} {arguments : Reader Value Int32 BinderCall} {written : HdfSBuf}
    {received : BinderCall}
    (delivered : Delivers written arguments received) (found : s.table.entry adapterName = some e) {object : HalObject}
    (live : (e.side d).object = some object) (owned : (e.side d).pid = pid) :
    s.onStream hal d arguments (.string adapterName :: .uint32 pid :: written)
      = ⟨received.returned (s.ask hal object.address received).1.ret,
          if (s.ask hal object.address received).1.ret < 0 then [] else received.reply (s.ask hal object.address received).1.out,
          (s.ask hal object.address received).2⟩ := by
  have named : hdiServiceRenderCaptureReadData.run (.string adapterName :: .uint32 pid :: written) = .ok (adapterName,
    pid) written :=
    delivers_readData written
  have read := delivered []
  rw [List.append_nil] at read
  have got : e.audioAdapterListCheckAndGet d pid = .ok object := by
    simp [AudioInfoInAdapter.audioAdapterListCheckAndGet, AudioInfoInAdapter.audioAdapterListGet, live, owned]
  rw [HalServer.onStream, named]
  simp only [found, got, read]

theorem onStream_refused {d : Direction} {arguments : Reader Value Int32 BinderCall} {written : HdfSBuf} {code : Int32}
    (fails : Fails written arguments code) :
    (s.onStream hal d arguments (.string adapterName :: .uint32 pid :: written)).server = s := by
  have named : hdiServiceRenderCaptureReadData.run (.string adapterName :: .uint32 pid :: written) = .ok (adapterName,
    pid) written :=
    delivers_readData written
  obtain ⟨unread, failed⟩ := fails []
  rw [List.append_nil] at failed
  rw [HalServer.onStream, named]
  dsimp only
  rcases s.table.entry adapterName with _ | e
  · rfl
  · dsimp only
    rcases e.audioAdapterListCheckAndGet d pid with code | object
    · rfl
    · simp only [failed]
      rfl

theorem proxy_of_dispatch {call : BinderCall} {before : call.Out} (fits : call.fits adapterName)
    {served : BinderServed σ}
    (dispatched : s.dispatch env hal token call.direction call.cmd
      (.interfaceToken token :: .string adapterName :: call.writesPid pid :: call.writes) = served) :
    call.proxy env hal token adapterName pid before s =
      if served.ret < 0 then ⟨served.ret, before, served.server⟩
      else match (call.reads before).run served.reply with
        | .error _ _ => ⟨AUDIO_HAL_ERR_INTERNAL, before, served.server⟩
        | .ok out _ => ⟨call.returned served.ret, out, served.server⟩ := by
  rw [BinderCall.proxy, fits]
  simp only [Bool.not_true, Bool.false_eq_true, if_false, dispatched]

theorem proxy_server {call : BinderCall} {before : call.Out} (fits : call.fits adapterName) {served : BinderServed σ}
    (dispatched : s.dispatch env hal token call.direction call.cmd
      (.interfaceToken token :: .string adapterName :: call.writesPid pid :: call.writes) = served) :
    (call.proxy env hal token adapterName pid before s).server = served.server := by
  rw [proxy_of_dispatch fits dispatched]
  split
  · rfl
  · split <;> rfl

theorem proxy_of_long {call : BinderCall} {before : call.Out} (long : call.fits adapterName = false) :
    call.proxy env hal token adapterName pid before s = ⟨AUDIO_HAL_ERR_INTERNAL, before, s⟩ := by
  rw [BinderCall.proxy, long]
  rfl

theorem run_token (rest : HdfSBuf) : (checkInterfaceToken token).run (.interfaceToken token :: rest) = .ok () rest :=
  delivers_token token rest

/-- Whatever else happens, a call that was not made as it was asked for has another effect. -/
theorem not_sameEffect_of_received {call received : BinderCall} {returned : BinderReturned call σ}
    (calls : returned.server.calls = s.calls ++ [(address, received)]) (other : received ≠ call) :
    ¬SameEffect hal address call s returned := by
  intro same
  have last := List.append_cancel_left (calls.symm.trans same.called)
  exact other (Prod.mk.inj (List.singleton_inj.mp last)).2

theorem dispatch_stream {call : BinderCall} (stream : call.cmd ≠ .create) (sendable : call.Sendable)
    (found : s.table.entry adapterName = some e) {object : HalObject} (live : (e.side call.direction).object = some object)
    (owned : (e.side call.direction).pid = pid) : s.dispatch env hal token call.direction call.cmd
        (.interfaceToken token :: .string adapterName :: call.writesPid pid :: call.writes)
      = ⟨(call.received env).returned (s.ask hal object.address (call.received env)).1.ret,
          if (s.ask hal object.address (call.received env)).1.ret < 0 then []
          else (call.received env).reply (s.ask hal object.address (call.received env)).1.out,
          (s.ask hal object.address (call.received env)).2⟩ := by
  rw [HalServer.dispatch, run_token]
  cases call with
  | create => exact absurd rfl stream
  | setSampleAttributes d attrs => exact onStream_delivered (.last (delivers_sampleAttributes _ _)) found live owned
  | getSampleAttributes d => exact onStream_delivered (.pure _) found live owned
  | checkSceneCapability d scene => exact onStream_delivered (.last (delivers_scene _ _)) found live owned
  | selectScene d scene => exact onStream_delivered (.last (delivers_scene _ _)) found live owned
  | reqMmapBuffer d arguments =>
    exact onStream_delivered (.last (delivers_mmapBuffer arguments.1 arguments.2 sendable)) found live owned
  | getPosition d => exact onStream_delivered (.pure _) found live owned
  | getMmapPosition d => exact onStream_delivered (.pure _) found live owned

theorem reads_reply (call : BinderCall) (before out : call.Out) :
    (call.reads before).run (call.reply out) = .ok (call.arrives before out) [] := by
  cases call with
  | getSampleAttributes d => exact (delivers_sampleAttributes _ out) []
  | checkSceneCapability d scene => exact (delivers_flag out) []
  | getPosition d => exact (delivers_position out.1 out.2) []
  | getMmapPosition d => exact (delivers_position out.1 out.2) []
  | _ => rfl

theorem returned_of_neg (call : BinderCall) {ret : Int} (failed : ret < 0) : call.returned ret = ret := by
  cases call <;> simp [BinderCall.returned, asReturned, onlyErrors, failed]

theorem returned_of_nonneg (call : BinderCall) {ret : Int} (passed : ¬ret < 0) : ¬call.returned ret < 0 := by
  cases call <;> simp [BinderCall.returned, asReturned, onlyErrors, passed, AUDIO_HAL_SUCCESS]

theorem fits_of_stream {call : BinderCall} (stream : call.cmd ≠ .create) : call.fits adapterName := by
  cases call with
  | create => exact absurd rfl stream
  | _ => rfl

theorem stream_not_sameEffect {call : BinderCall} {before : call.Out} (stream : call.cmd ≠ .create) (sendable : call.Sendable)
    (other : call.received env ≠ call) (found : s.table.entry adapterName = some e) {object : HalObject}
    (live : (e.side call.direction).object = some object) (owned : (e.side call.direction).pid = pid) :
    ¬SameEffect hal object.address call s (call.proxy env hal token adapterName pid before s) := by
  have dispatched := @dispatch_stream σ s env hal token adapterName pid e call stream sendable found object live owned
  refine not_sameEffect_of_received ?_ other
  rw [proxy_server (fits_of_stream stream) dispatched]
  rfl

theorem stream_sameEffect_iff {call : BinderCall} {before : call.Out} (stream : call.cmd ≠ .create) (sendable : call.Sendable)
    (whole : call.received env = call) (found : s.table.entry adapterName = some e) {object : HalObject}
    (live : (e.side call.direction).object = some object) (owned : (e.side call.direction).pid = pid) :
    SameEffect hal object.address call s (call.proxy env hal token adapterName pid before s) ↔
      (0 ≤ (hal object.address call s.state).1.ret →
        call.returned (call.returned (hal object.address call s.state).1.ret) = (hal object.address call s.state).1.ret ∧
          ((hal object.address call s.state).1.ret = AUDIO_HAL_SUCCESS →
            call.arrives before (hal object.address call s.state).1.out = (hal object.address call s.state).1.out)) := by
  have dispatched := @dispatch_stream σ s env hal token adapterName pid e call stream sendable found object live owned
  rw [whole] at dispatched
  rw [proxy_of_dispatch (fits_of_stream stream) dispatched]
  generalize answered : hal object.address call s.state = result
  obtain ⟨answer, state⟩ := result
  simp only [HalServer.ask, answered]
  by_cases failed : answer.ret < 0
  · rw [returned_of_neg call failed, if_pos failed]
    refine iff_of_true ⟨rfl, ?_, ?_, ?_⟩ fun passed => absurd failed (Int.not_lt.mpr passed)
    · rw [answered]
    · rw [answered]
    · rw [answered]
      intro succeeded
      exact absurd (succeeded ▸ failed) (by decide)
  · rw [if_neg (returned_of_nonneg call failed), if_neg failed, reads_reply]
    constructor
    · rintro ⟨-, -, code, out⟩ -
      rw [answered] at code out
      exact ⟨code, out⟩
    · intro faithful
      obtain ⟨code, out⟩ := faithful (Int.not_lt.mp failed)
      exact ⟨rfl, by rw [answered], by rw [answered]; exact code, by rw [answered]; exact out⟩

/-- What is not sent has to be what the stub has for it. -/
theorem stream_sameEffect_of_sent {call : BinderCall} {before : call.Out} {sent : Prop} (stream : call.cmd ≠ .create)
    (sendable : call.Sendable) (same : call.received env = call ↔ sent) (found : s.table.entry adapterName = some e)
    {object : HalObject} (live : (e.side call.direction).object = some object) (owned : (e.side call.direction).pid = pid) :
    SameEffect hal object.address call s (call.proxy env hal token adapterName pid before s) ↔
      sent ∧ (0 ≤ (hal object.address call s.state).1.ret →
        call.returned (call.returned (hal object.address call s.state).1.ret) = (hal object.address call s.state).1.ret ∧
          ((hal object.address call s.state).1.ret = AUDIO_HAL_SUCCESS →
            call.arrives before (hal object.address call s.state).1.out = (hal object.address call s.state).1.out)) := by
  by_cases whole : call.received env = call
  · exact (stream_sameEffect_iff stream sendable whole found live owned).trans (and_iff_right (same.mp whole)).symm
  · exact iff_of_false (stream_not_sameEffect stream sendable whole found live owned) fun both => whole (same.mpr both.1)

theorem not_sameEffect_of_uncalled {call : BinderCall} {returned : BinderReturned call σ}
    (uncalled : returned.server.calls = s.calls) : ¬SameEffect hal address call s returned := by
  intro same
  have longer := congrArg List.length (uncalled.symm.trans same.called)
  simp at longer

theorem dispatch_create {d : Direction} {behind : HdfSBuf} :
    s.dispatch env hal token d .create (.interfaceToken token :: behind) = s.creat env hal d behind := by
  rw [HalServer.dispatch, run_token]

theorem creat_delivered {d : Direction} {desc : AudioDeviceDescriptor} {attrs : AudioSampleAttributes}
    (found : s.table.entry adapterName = some e) (loaded : e.adapter = some address) (free : (e.side d).status = 0) :
    ∃ table, s.creat env hal d (.string adapterName :: .int32 pid.toInt32 :: audioProxyCommonInitCreateData desc attrs)
      = ⟨(hal address (.create d desc { attrs with streamId := env.streamId }) s.state).1.createdRet, [],
          table, (hal address (.create d desc { attrs with streamId := env.streamId }) s.state).2,
          s.calls ++ [(address, .create d desc { attrs with streamId := env.streamId })]⟩ := by
  have named : readString.run (.string adapterName :: .int32 pid.toInt32 :: audioProxyCommonInitCreateData desc attrs)
      = .ok adapterName (.int32 pid.toInt32 :: audioProxyCommonInitCreateData desc attrs) := rfl
  have owner : Delivers [.int32 pid.toInt32] readWord pid := delivers_take (by simp)
  have delivered : Delivers (.int32 pid.toInt32 :: audioProxyCommonInitCreateData desc attrs)
      (do return (← readWord, ← getInitPara env.streamId)) (pid, desc, { attrs with streamId := env.streamId }) :=
    .value owner (.last (delivers_createData env.streamId desc attrs))
  have read := delivered []
  rw [List.append_nil] at read
  have passes : (e.audioCreatCheck ⟨env.frameEnds, env.destroys, none⟩ (priorityOf attrs.type) d).ret = 0 := by
    rw [AudioInfoInAdapter.audioCreatCheck_free free]
  rw [HalServer.creat, named]
  simp only [read, found, loaded, passes, Int.lt_irrefl, if_false, HalServer.ask]
  exact ⟨_, rfl⟩

theorem createdRet_eq_iff {call : BinderCall} {answer : HalAnswer call} : answer.createdRet = answer.ret ↔
      answer.ret = AUDIO_HAL_SUCCESS ∧ answer.object ≠ none ∨ answer.ret = AUDIO_HAL_ERR_INTERNAL := by
  rw [HalAnswer.createdRet, AUDIO_HAL_SUCCESS, AUDIO_HAL_ERR_INTERNAL]
  by_cases failed : answer.ret < 0
  · have other : answer.ret ≠ 0 := by omega
    simp [failed, other, eq_comm]
  · have other : answer.ret ≠ -1 := by omega
    by_cases empty : answer.object = none
    · simp [failed, empty, eq_comm]
    · simp [failed, empty, other, eq_comm]

theorem createdRet_cases {call : BinderCall} (answer : HalAnswer call) :
    answer.createdRet = AUDIO_HAL_ERR_INTERNAL ∨ answer.createdRet = AUDIO_HAL_SUCCESS := by
  by_cases empty : (if answer.ret < 0 then none else answer.object) = none
  · exact .inl (if_pos empty)
  · exact .inr (if_neg empty)

theorem proxy_create {d : Direction} {desc : AudioDeviceDescriptor} {attrs : AudioSampleAttributes} {before : Unit}
    (fits : adapterName.utf8ByteSize < NAME_LEN) (found : s.table.entry adapterName = some e)
    (loaded : e.adapter = some address) (free : (e.side d).status = 0) :
    ∃ table, (BinderCall.create d desc attrs).proxy env hal token adapterName pid before s
      = ⟨(hal address ((BinderCall.create d desc attrs).received env) s.state).1.createdRet, before,
          table, (hal address ((BinderCall.create d desc attrs).received env) s.state).2,
          s.calls ++ [(address, (BinderCall.create d desc attrs).received env)]⟩ := by
  obtain ⟨table, served⟩ := @creat_delivered σ s env hal adapterName pid e address d desc attrs found loaded free
  refine ⟨table, (@proxy_of_dispatch σ s env hal token adapterName pid (.create d desc attrs) before (decide_eq_true fits)
    _ (dispatch_create.trans served)).trans ?_⟩
  -- Success has an empty reply.
  rcases createdRet_cases (hal address ((BinderCall.create d desc attrs).received env) s.state).1 with ret | ret
  · rw [ret]
    simp only [BinderCall.received] at ret
    rw [ret, AUDIO_HAL_ERR_INTERNAL]
    rfl
  · rw [ret]
    simp only [BinderCall.received] at ret
    rw [ret, AUDIO_HAL_SUCCESS]
    rfl

theorem create_sameEffect_iff {d : Direction} {desc : AudioDeviceDescriptor} {attrs : AudioSampleAttributes} {before : Unit}
    (found : s.table.entry adapterName = some e) (loaded : e.adapter = some address) (free : (e.side d).status = 0) :
    SameEffect hal address (.create d desc attrs) s ((BinderCall.create d desc attrs).proxy env hal token adapterName pid before s) ↔
      (BinderCall.create d desc attrs).Whole env adapterName before (hal address (.create d desc attrs) s.state).1 := by
  by_cases fits : adapterName.utf8ByteSize < NAME_LEN
  · obtain ⟨table, proxied⟩ :=
      @proxy_create σ s env hal token adapterName pid e address d desc attrs before fits found loaded free
    rw [proxied]
    by_cases sent : attrs.streamId = env.streamId
    · have whole : (BinderCall.create d desc attrs).received env = .create d desc attrs := by
        rw [BinderCall.received, ← sent]
      rw [whole]
      constructor
      · intro same
        exact ⟨fits, sent, createdRet_eq_iff.mp same.code⟩
      · rintro ⟨-, -, code⟩
        exact ⟨rfl, rfl, createdRet_eq_iff.mpr code, fun _ => rfl⟩
    · refine iff_of_false (not_sameEffect_of_received rfl ?_) fun whole => sent whole.2.1
      intro same
      exact sent (congrArg AudioSampleAttributes.streamId (BinderCall.create.inj same).2.2).symm
  · refine iff_of_false (not_sameEffect_of_uncalled ?_) fun whole => fits whole.1
    rw [@proxy_of_long σ s env hal token adapterName pid (.create d desc attrs) before (decide_eq_false fits)]

theorem withStreamId_eq_iff {attrs : AudioSampleAttributes} {streamId : Int32} :
    { attrs with streamId } = attrs ↔ attrs.streamId = streamId := by
  cases attrs
  simp [eq_comm]

theorem withPortId_eq_iff {scene : AudioSceneDescriptor} {portId : UInt32} :
    ⟨scene.id, ⟨portId, scene.desc.pins⟩⟩ = scene ↔ scene.desc.portId = portId := by
  obtain ⟨id, desc⟩ := scene
  cases desc
  simp [eq_comm]

theorem onlyErrors_eq_iff {ret : Int} {whole : Prop} :
    (0 ≤ ret → onlyErrors (onlyErrors ret) = ret ∧ (ret = AUDIO_HAL_SUCCESS → whole)) ↔
      ret ≤ 0 ∧ (ret = AUDIO_HAL_SUCCESS → whole) := by
  simp only [onlyErrors, AUDIO_HAL_SUCCESS]
  constructor
  · intro same
    have nonpositive : ret ≤ 0 := by
      by_contra positive
      have code := (same (by omega)).1
      split_ifs at code <;> omega
    exact ⟨nonpositive, fun zero => (same (by omega)).2 zero⟩
  · rintro ⟨nonpositive, whole⟩ _
    exact ⟨by split_ifs <;> omega, whole⟩

theorem onlyErrors_eq_iff_nonpos {ret : Int} {whole : Prop} (holds : whole) :
    (0 ≤ ret → onlyErrors (onlyErrors ret) = ret ∧ (ret = AUDIO_HAL_SUCCESS → whole)) ↔ ret ≤ 0 :=
  onlyErrors_eq_iff.trans (and_iff_left fun _ => holds)

/-- A call through the proxy is a call of the HAL, if and only if what the messages leave out makes no difference. -/
theorem proxy_sameEffect_iff {call : BinderCall} (before : call.Out) (ready : s.Ready adapterName pid address call) :
    SameEffect hal address call s (call.proxy env hal token adapterName pid before s) ↔
      call.Whole env adapterName before (hal address call s.state).1 := by
  obtain ⟨e, found, way⟩ := ready
  cases call with
  | create d desc attrs => exact create_sameEffect_iff found way.1 way.2
  | setSampleAttributes d attrs =>
    obtain ⟨object, live, owned, rfl⟩ := way
    have same : (BinderCall.setSampleAttributes d attrs).received env = .setSampleAttributes d attrs ↔
        attrs.streamId = env.streamId := by
      simp only [BinderCall.received, BinderCall.setSampleAttributes.injEq, true_and, withStreamId_eq_iff]
    have effect :=
      @stream_sameEffect_of_sent σ s env hal token adapterName pid e _ before _ nofun trivial same found object live owned
    exact effect.trans (and_iff_left fun _ => ⟨rfl, fun _ => rfl⟩)
  | getSampleAttributes d =>
    obtain ⟨object, live, owned, rfl⟩ := way
    have effect :=
      @stream_sameEffect_iff σ s env hal token adapterName pid e _ before nofun trivial rfl found object live owned
    exact effect.trans (onlyErrors_eq_iff.trans (and_congr_right fun _ => forall_congr' fun _ => withStreamId_eq_iff))
  | checkSceneCapability d scene =>
    obtain ⟨object, live, owned, rfl⟩ := way
    have same : (BinderCall.checkSceneCapability d scene).received env = .checkSceneCapability d scene ↔
        scene.desc.portId = env.portId := by
      simp only [BinderCall.received, BinderCall.checkSceneCapability.injEq, true_and, withPortId_eq_iff]
    have effect :=
      @stream_sameEffect_of_sent σ s env hal token adapterName pid e _ before _ nofun trivial same found object live owned
    exact effect.trans (and_congr_right fun _ => onlyErrors_eq_iff_nonpos rfl)
  | selectScene d scene =>
    obtain ⟨object, live, owned, rfl⟩ := way
    have same : (BinderCall.selectScene d scene).received env = .selectScene d scene ↔ scene.desc.portId = env.portId := by
      simp only [BinderCall.received, BinderCall.selectScene.injEq, true_and, withPortId_eq_iff]
    have effect :=
      @stream_sameEffect_of_sent σ s env hal token adapterName pid e _ before _ nofun trivial same found object live owned
    exact effect.trans (and_iff_left fun _ => ⟨rfl, fun _ => rfl⟩)
  | reqMmapBuffer d arguments =>
    obtain ⟨object, live, owned, rfl⟩ := way
    by_cases sendable : 0 ≤ arguments.2.memoryFd
    · have effect :=
        @stream_sameEffect_iff σ s env hal token adapterName pid e (.reqMmapBuffer d arguments) before nofun sendable rfl
        found object live owned
      refine effect.trans (Iff.trans ?_ (and_iff_right sendable).symm)
      constructor
      · intro same succeeded
        exact ((same (Int.le_of_eq succeeded.symm)).2 succeeded).symm
      · intro same _
        exact ⟨rfl, fun succeeded => (same succeeded).symm⟩
    · refine iff_of_false (not_sameEffect_of_uncalled ?_) fun whole => sendable whole.1
      rw [@proxy_server σ s env hal token adapterName pid (.reqMmapBuffer d arguments) before rfl _ rfl, HalServer.dispatch,
        run_token]
      exact congrArg HalServer.calls (onStream_refused (.now (fails_mmapBuffer arguments.1 arguments.2 sendable)))
  | getPosition d =>
    obtain ⟨object, live, owned, rfl⟩ := way
    have effect :=
      @stream_sameEffect_iff σ s env hal token adapterName pid e _ before nofun trivial rfl found object live owned
    exact effect.trans (onlyErrors_eq_iff_nonpos rfl)
  | getMmapPosition d =>
    obtain ⟨object, live, owned, rfl⟩ := way
    have effect :=
      @stream_sameEffect_iff σ s env hal token adapterName pid e _ before nofun trivial rfl found object live owned
    exact effect.trans (onlyErrors_eq_iff_nonpos rfl)

end

/-- A HAL that succeeds: a render has played ten frames, and its buffer is the file `7`. -/
def playing : Hal Unit := fun _ call _ =>
  (match call with
    | .create _ _ _ => ⟨0, (), some 300⟩
    | .setSampleAttributes _ _ => ⟨0, (), none⟩
    | .getSampleAttributes _ => ⟨0, ⟨0, true, 2, 48000, 2, 4096, 4, false, true, 1, 2, 3, 0⟩, none⟩
    | .checkSceneCapability _ _ => ⟨0, true, none⟩
    | .selectScene _ _ => ⟨0, (), none⟩
    | .reqMmapBuffer _ _ => ⟨0, ⟨4096, 7, 1024, 4, 1, 0⟩, none⟩
    | .getPosition _ => ⟨0, (10, ⟨1, 500⟩), none⟩
    | .getMmapPosition _ => ⟨0, (10, ⟨1, 500⟩), none⟩, ())

def rendering : HalServer Unit :=
  ⟨⟨[⟨"primary", some 100, 1, ⟨1, 0, some ⟨300, 0, 11⟩, false, false, 11⟩, .init⟩], true⟩, (), []⟩

def quiet : Surroundings := ⟨0, 0, true, 0⟩

theorem position_sameEffect : SameEffect playing 300 (.getPosition .render) rendering
      ((BinderCall.getPosition .render).proxy quiet playing "audio" "primary" 11 (0, ⟨0, 0⟩) rendering) :=
  (@proxy_sameEffect_iff Unit rendering quiet playing "audio" "primary" 11 300 (.getPosition .render) (0, ⟨0, 0⟩)
    ⟨_, rfl, _, rfl, rfl, rfl⟩).mpr (Int.le_refl 0)

/-- The descriptor of the buffer does not come back. -/
theorem mmapBuffer_not_sameEffect : ¬SameEffect playing 300 (.reqMmapBuffer .render (1024, ⟨0, 0, 0, 0, 0, 0⟩)) rendering
      ((BinderCall.reqMmapBuffer .render (1024, ⟨0, 0, 0, 0, 0, 0⟩)).proxy quiet playing "audio" "primary" 11 ⟨0, 0, 0, 0, 0, 0⟩
        rendering) := by
  intro same
  have filled : AudioMmapBufferDescripter.memoryFd ⟨0, 0, 0, 0, 0, 0⟩ = 7 :=
    congrArg AudioMmapBufferDescripter.memoryFd (same.out rfl)
  exact absurd filled (by decide)

end Peripheral.Audio
