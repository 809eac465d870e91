import Peripheral.OmxIpc

/-!
Both sides of the OMX codec calls read exactly what the other side wrote, method for method
and record for record, as long as memory is there when it is asked for. The calls are then
transparent. Three functions of the stub ask for memory of any length and cannot be called
with an empty array.
-/
namespace Peripheral.OmxIpc

open RemoteCalls Hdf

variable {osalMemCalloc : UInt32 → Bool}

theorem delivers_int8s {n : Nat} (elems : Vector Int8 n) : Delivers (writeInt8s elems) (many readInt8 n) elems := by
  have each (v : Int8) : Delivers [.int8 v] readInt8 v := delivers_take rfl
  exact .many each elems

theorem delivers_uint8s {n : Nat} (elems : Vector UInt8 n) : Delivers (writeUint8s elems) (many readUint8 n) elems := by
  have each (v : UInt8) : Delivers [.uint8 v] readUint8 v := delivers_take rfl
  exact .many each elems

theorem delivers_tunnelSetup (dataBlock : TunnelSetup) :
    Delivers (tunnelSetupBlockMarshalling dataBlock) tunnelSetupBlockUnmarshalling dataBlock :=
  .value (delivers_take rfl) (.last (delivers_take rfl))

theorem delivers_filledArray (array : SizedArray Int8) (given : osalMemCalloc array.len = true) :
    Delivers (writeArray array) (readFilledArray osalMemCalloc) array :=
  .value (delivers_take rfl) (.beside (allocate_of given) (.last (delivers_int8s array.elems)))

section
variable (allocates : ∀ size > 0, osalMemCalloc size = true)
include allocates

theorem delivers_array (array : SizedArray Int8) : Delivers (writeArray array) (readArray osalMemCalloc) array := by
  refine .value (delivers_take rfl) ?_
  by_cases filled : array.len > 0
  · rw [if_pos filled]
    exact .beside (allocate_of (allocates _ filled)) (.last (delivers_int8s array.elems))
  · rw [if_neg filled]
    exact .last (delivers_int8s array.elems)

theorem delivers_contents (contents : BufferContents) :
    Delivers (codecBufferMarshalling contents) (codecBufferUnmarshalling osalMemCalloc) contents := by
  refine .value (delivers_take rfl) (.value (delivers_take rfl) ?_)
  cases contents with
  | none bufferType =>
    exact .pure _
  | sharedMemory bufferLen sized fd =>
    simp only [BufferContents.bufferLen, BufferContents.bufferType, sized, ↓reduceDIte]
    exact .last (delivers_fileDescriptor fd)
  | bytes bufferType other bufferLen sized buffer =>
    simp only [BufferContents.bufferLen, BufferContents.bufferType, sized, other, ↓reduceDIte]
    exact .beside (allocate_of (allocates _ (UInt32.pos_iff_ne_zero.mpr sized))) (.last (delivers_uint8s buffer))

theorem delivers_codecBuffer (dataBlock : OmxCodecBuffer) :
    Delivers (omxCodecBufferBlockMarshalling dataBlock) (omxCodecBufferBlockUnmarshalling osalMemCalloc) dataBlock := by
  refine .value (delivers_take rfl) (.value (delivers_take rfl) ?_)
  refine .value (delivers_unpadBuffer dataBlock.version) (.block (delivers_contents allocates dataBlock.contents) ?_)
  refine .value (delivers_take rfl) (.value (delivers_take rfl) (.value (delivers_take rfl) ?_))
  refine .value (delivers_take rfl) (.value (delivers_take rfl) (.value (delivers_take rfl) ?_))
  exact .last (delivers_take rfl)

namespace ComponentCall

/-- Neither an empty structure nor an empty role is asked for. -/
def Filled : ComponentCall → Prop
  | getParameter _ paramStruct => 0 < paramStruct.len
  | getConfig _ cfgStruct => 0 < cfgStruct.len
  | componentRoleEnum roleLen _ => 0 < roleLen
  | _ => True

theorem delivers_arguments (call : ComponentCall) (filled : call.Filled) :
    Delivers call.arguments (handleComponentCmd osalMemCalloc call.command) call := by
  cases call with
  | getComponentVersion => exact .pure _
  | sendCommand cmd param cmdData =>
    exact .value (delivers_take rfl) (.value (delivers_take rfl) (.last (delivers_array allocates cmdData)))
  | getParameter paramIndex paramStruct =>
    exact .value (delivers_take rfl) (.last (delivers_filledArray paramStruct (allocates _ filled)))
  | setParameter index paramStruct => exact .value (delivers_take rfl) (.last (delivers_array allocates paramStruct))
  | getConfig index cfgStruct =>
    exact .value (delivers_take rfl) (.last (delivers_filledArray cfgStruct (allocates _ filled)))
  | setConfig index cfgStruct => exact .value (delivers_take rfl) (.last (delivers_array allocates cfgStruct))
  | getExtensionIndex paramName => exact .last (delivers_take rfl)
  | getState => exact .pure _
  | componentTunnelRequest port tunneledComp tunneledPort tunnelSetup =>
    refine .value (delivers_take rfl) (.value (delivers_take rfl) (.value (delivers_take rfl) ?_))
    exact .last (delivers_tunnelSetup tunnelSetup)
  | useBuffer portIndex buffer => exact .value (delivers_take rfl) (.last (delivers_codecBuffer allocates buffer))
  | allocateBuffer portIndex buffer => exact .value (delivers_take rfl) (.last (delivers_codecBuffer allocates buffer))
  | freeBuffer portIndex buffer => exact .value (delivers_take rfl) (.last (delivers_codecBuffer allocates buffer))
  | emptyThisBuffer buffer => exact .last (delivers_codecBuffer allocates buffer)
  | fillThisBuffer buffer => exact .last (delivers_codecBuffer allocates buffer)
  | setCallbacks callback appData => exact .value (delivers_take rfl) (.last (delivers_array allocates appData))
  | componentDeInit => exact .pure _
  | useEglImage buffer portIndex eglImage =>
    refine .block (delivers_codecBuffer allocates buffer) (.value (delivers_take rfl) ?_)
    exact .last (delivers_array allocates eglImage)
  | componentRoleEnum roleLen index =>
    exact .value (delivers_take rfl) (.beside (allocate_of (allocates _ filled)) (.last (delivers_take rfl)))

theorem delivers_reply (call : ComponentCall) (out : call.Out) :
    Delivers (call.reply out) (call.readReply osalMemCalloc) out := by
  cases call with
  | getComponentVersion => exact delivers_unpadBuffer out
  | getParameter | getConfig => exact delivers_int8s out
  | getExtensionIndex | getState => exact delivers_take rfl
  | componentTunnelRequest => exact delivers_tunnelSetup out
  | useBuffer | allocateBuffer | useEglImage => exact delivers_codecBuffer allocates out
  | componentRoleEnum => exact delivers_uint8s out
  | sendCommand | setParameter | setConfig | freeBuffer | emptyThisBuffer | fillThisBuffer | setCallbacks
  | componentDeInit => exact .pure ()

end ComponentCall

theorem component_transparent (call : ComponentCall) (filled : call.Filled) : (component osalMemCalloc).Transparent call := by
  apply Interface.transparent
  · exact .value (delivers_token _) (call.delivers_arguments allocates filled)
  · exact call.delivers_reply allocates

theorem delivers_eventInfo (info : EventInfo) :
    Delivers (CallbackCall.writeEventInfo info) (readEventInfo osalMemCalloc) info := by
  refine .block (delivers_array allocates info.appData) (.value (delivers_take rfl) (.value (delivers_take rfl) ?_))
  exact .last (delivers_array allocates info.eventData)

theorem callback_transparent (call : CallbackCall) : (callback osalMemCalloc).Transparent call := by
  apply Interface.transparent
  · refine .value (delivers_token _) ?_
    cases call with
    | eventHandler event info =>
      exact .value (delivers_take rfl) (.last (.adaptExcept (delivers_eventInfo allocates info)))
    | emptyBufferDone appData buffer =>
      exact .block (delivers_array allocates appData) (.last (delivers_codecBuffer allocates buffer))
    | fillBufferDone appData buffer =>
      exact .block (delivers_array allocates appData) (.last (delivers_codecBuffer allocates buffer))
  · exact fun _ => .pure ()

end

/-- Whatever the service does, its caller in the other process sees what a caller beside it would. -/
theorem omx_calls_transparent (allocates : ∀ size > 0, osalMemCalloc size = true) :
    (∀ call : ComponentCall, call.Filled → (component osalMemCalloc).Transparent call) ∧
      ∀ call : CallbackCall, (callback osalMemCalloc).Transparent call :=
  ⟨component_transparent allocates, callback_transparent allocates⟩

theorem omx_calls_transparent_nonzero : (∀ size > 0, (size != (0 : UInt32)) = true) ∧
      (component (· != 0)).Transparent (.getParameter 7 ⟨2, #v[1, -1]⟩) ∧
        (callback (· != 0)).Transparent (.emptyBufferDone ⟨0, #v[]⟩
          ⟨1, 0, #v[1, 1, 2, 0], .bytes 1 (by decide) 2 (by decide) #v[10, 20], 2, 2, 0, -1, 0, 40, 0⟩) := by
  have allocates : ∀ size > 0, (size != (0 : UInt32)) = true := by
    intro size some
    exact bne_iff_ne.mpr (UInt32.pos_iff_ne_zero.mp some)
  obtain ⟨component, callback⟩ := @omx_calls_transparent (· != 0) allocates
  exact ⟨allocates, component (.getParameter 7 ⟨2, #v[1, -1]⟩) (show (0 : UInt32) < 2 by decide), callback _⟩

end Peripheral.OmxIpc
