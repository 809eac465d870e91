import Peripheral.UsbConfigWalk

/-!
Well-formed configurations and what the parser makes of them: a header, then the
interfaces with their alternate settings and endpoints, each with the class-specific
descriptors that follow it. A configuration is written as its bytes, and the
structure it should be parsed to is read off from its parts. Each part is parsed to
what it should be wherever it stands in a buffer.
-/
namespace Peripheral.Usb
open Peripheral.Loops List

structure Descriptor where
  bytes : List UInt8
  header : descHeaderLength ≤ bytes.length
  length : field bytes 0 = bytes.length

def Descriptor.type (d : Descriptor) : Nat := field d.bytes 1

structure ClassSpecific extends Descriptor where
  other : toDescriptor.type ≠ usbDdkDtInterface ∧ toDescriptor.type ≠ usbDdkDtEndpoint

def extraBytes (extra : List ClassSpecific) : List UInt8 := extra.flatMap fun d => d.bytes

structure EndpointPart where
  descriptor : Descriptor
  typed : descriptor.type = usbDdkDtEndpoint
  sized : descriptor.bytes.length = usbDdkDtEndpointSize ∨ descriptor.bytes.length = usbDdkDtEndpointAudioSize
  extra : List ClassSpecific

structure AltsettingPart where
  descriptor : Descriptor
  typed : descriptor.type = usbDdkDtInterface
  sized : usbDdkDtInterfaceSize ≤ descriptor.bytes.length
  extra : List ClassSpecific
  endpoints : List EndpointPart
  counted : endpoints.length = field descriptor.bytes 4

/-- An interface: the alternate settings of one number. -/
structure InterfacePart where
  number : Nat
  altsettings : List AltsettingPart
  some_ : altsettings ≠ []
  few : altsettings.length ≤ usbMaxAltsetting
  numbered : ∀ a ∈ altsettings, field a.descriptor.bytes 2 = number

structure Configuration where
  descriptor : Descriptor
  typed : descriptor.type = usbDdkDtConfig
  sized : descriptor.bytes.length = usbDdkDtConfigSize
  extra : List ClassSpecific
  interfaces : List InterfacePart
  few : interfaces.length ≤ usbMaxInterfaces
  counted : interfaces.length = field descriptor.bytes 4
  distinct : (interfaces.map InterfacePart.number).Nodup

namespace EndpointPart

def bytes (e : EndpointPart) : List UInt8 := e.descriptor.bytes ++ extraBytes e.extra

def raw (e : EndpointPart) : RawEndpoint :=
  ⟨if usbDdkDtEndpointAudioSize ≤ e.descriptor.bytes.length then e.descriptor.bytes else e.descriptor.bytes ++ [0, 0],
    extraBytes e.extra⟩

end EndpointPart

namespace AltsettingPart

def bytes (a : AltsettingPart) : List UInt8 :=
  a.descriptor.bytes ++ (extraBytes a.extra ++ a.endpoints.flatMap EndpointPart.bytes)

def raw (a : AltsettingPart) : RawAltsetting :=
  ⟨a.descriptor.bytes.take usbDdkDtInterfaceSize, a.endpoints.map EndpointPart.raw, extraBytes a.extra⟩

end AltsettingPart

namespace InterfacePart

def bytes (i : InterfacePart) : List UInt8 := i.altsettings.flatMap AltsettingPart.bytes

def raw (i : InterfacePart) : RawInterface := ⟨i.altsettings.length, i.altsettings.map AltsettingPart.raw⟩

def tallied (i : InterfacePart) : Counted := ⟨i.number, i.altsettings.length⟩

end InterfacePart

namespace Configuration

def bytes (c : Configuration) : List UInt8 :=
  c.descriptor.bytes ++ (extraBytes c.extra ++ c.interfaces.flatMap InterfacePart.bytes)

def raw (c : Configuration) : RawConfig := ⟨c.descriptor.bytes, c.interfaces.map InterfacePart.raw, extraBytes c.extra⟩

end Configuration

/-- At `pos` the buffer has `part`, and then `rest`. -/
structure At (buffer : List UInt8) (pos : Nat) (part rest : List UInt8) : Prop where
  inside : pos ≤ buffer.length
  split : buffer.drop pos = part ++ rest

section
variable {buffer part rest : List UInt8} {pos : Nat}

theorem At.length (here : At buffer pos part rest) : pos + part.length + rest.length = buffer.length := by
  have inside := here.inside
  have total := congrArg List.length here.split
  rw [List.length_drop, List.length_append] at total
  omega

theorem At.next {more : List UInt8} (here : At buffer pos part (more ++ rest)) : At buffer (pos + part.length) more rest := by
  refine ⟨by have := here.length; omega, ?_⟩
  rw [← drop_drop, here.split, drop_left]

theorem At.split_at {more : List UInt8} (here : At buffer pos (part ++ more) rest) : At buffer pos part (more ++ rest) :=
  ⟨here.inside, by rw [here.split, append_assoc]⟩

theorem At.field_eq (here : At buffer pos part rest) {k : Nat} (inside : k < part.length) :
    field buffer (pos + k) = field part k := by
  have same : buffer[pos + k]? = part[k]? := by
    rw [← getElem?_drop, here.split, getElem?_append_left inside]
  simp [field, getD_eq_getElem?_getD, same]

theorem At.bytes (here : At buffer pos part rest) {n : Nat} (inside : n ≤ part.length) :
    bytesAt buffer pos n = .ret (part.take n) := by
  have length := here.length
  rw [bytesAt_inside (by omega), here.split, take_append_of_le_length inside]

def Halts (rest : List UInt8) : Prop :=
  rest = [] ∨ (descHeaderLength ≤ rest.length ∧ (field rest 1 = usbDdkDtInterface ∨ field rest 1 = usbDdkDtEndpoint))

theorem At.stop (here : At buffer pos part rest) (halts : Halts part) (last : part = [] → rest = []) : Stop buffer pos := by
  have length := here.length
  rcases halts with rfl | ⟨long, type⟩
  · rw [last rfl, length_nil] at length
    exact .inl (by omega)
  · unfold descHeaderLength at long
    refine .inr ⟨by omega, ?_⟩
    rw [here.field_eq (by omega)]
    exact type

theorem At.stop_next (here : At buffer pos part rest) (halts : Halts rest) : Stop buffer (pos + part.length) := by
  have behind : At buffer (pos + part.length) rest [] := At.next (by rw [append_nil]; exact here)
  exact behind.stop halts (fun _ => rfl)

theorem Descriptor.halts (d : Descriptor) (typed : d.type = usbDdkDtInterface ∨ d.type = usbDdkDtEndpoint)
    (more : List UInt8) : Halts (d.bytes ++ more) := by
  have long := d.header
  have same : field (d.bytes ++ more) 1 = d.type := by
    unfold descHeaderLength at long
    simp only [Descriptor.type, field, getD_eq_getElem?_getD,
      getElem?_append_left (show 1 < d.bytes.length by omega)]
  refine .inr ⟨by rw [length_append]; omega, ?_⟩
  rw [same]
  exact typed

theorem endpoints_halt (endpoints : List EndpointPart) (halts : Halts rest) :
    Halts (endpoints.flatMap EndpointPart.bytes ++ rest) := by
  cases endpoints with
  | nil => exact halts
  | cons e endpoints =>
    simp only [flatMap_cons, EndpointPart.bytes, append_assoc]
    exact e.descriptor.halts (.inr e.typed) _

theorem altsettings_halt (altsettings : List AltsettingPart) (halts : Halts rest) :
    Halts (altsettings.flatMap AltsettingPart.bytes ++ rest) := by
  cases altsettings with
  | nil => exact halts
  | cons a altsettings =>
    simp only [flatMap_cons, AltsettingPart.bytes, append_assoc]
    exact a.descriptor.halts (.inl a.typed) _

theorem interfaces_halt (interfaces : List InterfacePart) : Halts (interfaces.flatMap InterfacePart.bytes) := by
  induction interfaces with
  | nil => exact .inl rfl
  | cons i interfaces ih => exact altsettings_halt i.altsettings ih

theorem findNextDescriptor_extra (extra : List ClassSpecific) {pos : Nat} (here : At buffer pos (extraBytes extra) rest)
    (halts : Halts rest) : Comes (fun fuel => findNextDescriptor buffer fuel pos (buffer.length - pos))
      (.ret (pos + (extraBytes extra).length)) := by
  induction extra generalizing pos with
  | nil =>
    have stop := here.stop_next halts
    simp only [extraBytes, flatMap_nil, length_nil, Nat.add_zero] at stop ⊢
    exact findNextDescriptor_stops stop
  | cons d extra ih =>
    have first : At buffer pos d.bytes (extraBytes extra ++ rest) := here.split_at
    have long := d.header
    unfold descHeaderLength at long
    have length := first.length
    have size : field buffer pos = d.bytes.length := (first.field_eq (k := 0) (by omega)).trans d.length
    have type : field buffer (pos + 1) = d.type := first.field_eq (by omega)
    have moving : ¬ Stop buffer pos := by
      rintro (ended | ⟨_, typed⟩)
      · omega
      · rw [type] at typed
        exact typed.elim d.other.1 d.other.2
    have moves := skipDescriptor_moves (show pos + 1 < buffer.length by omega) moving
    rw [size, subSize, if_pos (by omega), Nat.sub_sub] at moves
    have total : (extraBytes (d :: extra)).length = d.bytes.length + (extraBytes extra).length := by
      simp [extraBytes]
    rw [total, ← Nat.add_assoc]
    exact comes_iterate_next (by simp only [moves]; exact Comes.const _) (ih first.next)

theorem parseExtra_extra (extra : List ClassSpecific) (here : At buffer pos (extraBytes extra) rest) (halts : Halts rest) :
    Comes (fun fuel => parseExtra buffer fuel pos (buffer.length - pos))
      (.ret (extraBytes extra, pos + (extraBytes extra).length)) := by
  refine (findNextDescriptor_extra extra here halts).bind ?_
  simp only [Nat.add_sub_cancel_left, here.bytes (Nat.le_refl _), take_length, Outcome.ret_bind, Outcome.pure_eq]
  exact Comes.const _

theorem parseEndpoint_part (e : EndpointPart) (here : At buffer pos e.bytes rest) (halts : Halts rest) :
    Comes (fun fuel => parseEndpoint buffer fuel pos (buffer.length - pos)) (.ret (some (e.raw, pos + e.bytes.length))) := by
  have first : At buffer pos e.descriptor.bytes (extraBytes e.extra ++ rest) := here.split_at
  have sized := e.sized
  unfold usbDdkDtEndpointSize usbDdkDtEndpointAudioSize at sized
  have length := first.length
  have bLength : field buffer pos = e.descriptor.bytes.length :=
    (first.field_eq (k := 0) (by omega)).trans e.descriptor.length
  have type : field buffer (pos + 1) = usbDdkDtEndpoint := (first.field_eq (by omega)).trans e.typed
  have copied : parseEndpointDescriptor buffer pos e.descriptor.bytes.length = .ret e.raw.endpointDescriptor := by
    unfold parseEndpointDescriptor EndpointPart.raw usbDdkDtEndpointAudioSize usbDdkDtEndpointSize
    rcases sized with seven | nine
    · rw [if_neg (by omega), if_neg (by omega), first.bytes (by omega), ← seven, take_length]
      rfl
    · rw [if_pos (by omega), if_pos (by omega), first.bytes (by omega), ← nine, take_length]
  have total : pos + e.bytes.length = pos + e.descriptor.bytes.length + (extraBytes e.extra).length := by
    simp [EndpointPart.bytes, Nat.add_assoc]
  unfold parseEndpoint descHeaderLength usbDdkDtEndpointSize
  simp only [if_neg (show ¬ buffer.length - pos < 2 by omega), byteAt_inside (show pos + 1 < buffer.length by omega),
    byteAt_inside (show pos < buffer.length by omega), type, bLength, Outcome.ret_bind, ne_eq, not_true_eq_false, false_or,
    if_neg (show ¬ e.descriptor.bytes.length > buffer.length - pos by omega),
    if_neg (show ¬ e.descriptor.bytes.length < 7 by omega), copied, Nat.sub_sub, total, Outcome.pure_eq]
  exact (parseExtra_extra e.extra first.next halts).bind (Comes.const _)

theorem parseEndpoints_part (endpoints : List EndpointPart) (parsed : List RawEndpoint) {pos : Nat}
    (here : At buffer pos (endpoints.flatMap EndpointPart.bytes) rest) (halts : Halts rest) :
    Comes (fun fuel => parseEndpoints buffer fuel pos (buffer.length - pos) parsed endpoints.length)
      (.ret (parsed ++ endpoints.map EndpointPart.raw, pos + (endpoints.flatMap EndpointPart.bytes).length,
        buffer.length - (pos + (endpoints.flatMap EndpointPart.bytes).length))) := by
  induction endpoints generalizing parsed pos with
  | nil =>
    simp only [length_nil, parseEndpoints, map_nil, append_nil, flatMap_nil, Nat.add_zero, Outcome.pure_eq]
    exact Comes.const _
  | cons e endpoints ih =>
    have first : At buffer pos e.bytes (endpoints.flatMap EndpointPart.bytes ++ rest) := here.split_at
    have length := first.length
    have left : buffer.length - pos - (pos + e.bytes.length - pos) = buffer.length - (pos + e.bytes.length) := by omega
    have rest := ih (parsed ++ [e.raw]) first.next
    simp only [length_cons, parseEndpoints]
    refine (parseEndpoint_part e first (endpoints_halt endpoints halts)).bind ?_
    simp only [left]
    simpa only [map_cons, flatMap_cons, length_append, append_assoc, singleton_append, Nat.add_assoc] using rest

theorem parseAltsetting_part (a : AltsettingPart) (here : At buffer pos a.bytes rest) (halts : Halts rest) :
    Comes (fun fuel => parseAltsetting buffer fuel pos (buffer.length - pos) (a.descriptor.bytes.take usbDdkDtInterfaceSize))
      (.ret (a.raw, pos + a.bytes.length, buffer.length - (pos + a.bytes.length))) := by
  have first : At buffer pos a.descriptor.bytes (extraBytes a.extra ++ (a.endpoints.flatMap EndpointPart.bytes ++ rest)) := by
    have split := here.split_at
    rw [append_assoc] at split
    exact split
  have second := first.next
  have third := second.next
  have bLength : field (a.descriptor.bytes.take usbDdkDtInterfaceSize) 0 = a.descriptor.bytes.length :=
    (field_slice a.descriptor.bytes 0 (n := usbDdkDtInterfaceSize) (by decide)).trans a.descriptor.length
  have bNumEndpoints : field (a.descriptor.bytes.take usbDdkDtInterfaceSize) 4 = a.endpoints.length :=
    (field_slice a.descriptor.bytes 0 (n := usbDdkDtInterfaceSize) (by decide)).trans a.counted.symm
  have total : a.bytes.length = a.descriptor.bytes.length + ((extraBytes a.extra).length +
      (a.endpoints.flatMap EndpointPart.bytes).length) := by simp [AltsettingPart.bytes]
  have length := first.length
  have left : buffer.length - (pos + (pos + a.descriptor.bytes.length + (extraBytes a.extra).length - pos)) =
      buffer.length - (pos + a.descriptor.bytes.length + (extraBytes a.extra).length) := by omega
  unfold parseAltsetting
  simp only [bLength, bNumEndpoints, Nat.sub_sub buffer.length pos]
  refine (parseExtra_extra a.extra second (endpoints_halt a.endpoints halts)).bind ?_
  simp only [left]
  refine (parseEndpoints_part a.endpoints [] third halts).bind ?_
  simp only [nil_append, length_map, Nat.lt_irrefl, if_false, total, Outcome.pure_eq, Nat.add_assoc]
  exact Comes.const _

/-- What can follow the alternate settings of a number: nothing, or an interface of another number. -/
def Elsewhere (number : Nat) (rest : List UInt8) : Prop :=
  rest = [] ∨ (usbDdkDtInterfaceSize ≤ rest.length ∧ field rest 1 = usbDdkDtInterface ∧ field rest 2 ≠ number)

theorem Elsewhere.halts {number : Nat} (elsewhere : Elsewhere number rest) : Halts rest := by
  rcases elsewhere with rfl | ⟨long, type, _⟩
  · exact .inl rfl
  · exact .inr ⟨by unfold descHeaderLength; unfold usbDdkDtInterfaceSize at long; omega, .inl type⟩

theorem interfaceRound_part (a : AltsettingPart) (here : At buffer pos a.bytes rest) (halts : Halts rest)
    (endpoints : a.endpoints.length ≤ usbMaxEndpoints) {x : RawInterface} (free : x.altsetting.length < x.allocated)
    {number : Option Nat} {o : Outcome HdfError (InterfaceLoop ⊕ (Nat × RawInterface))}
    (checked : (if buffer.length - (pos + a.bytes.length) < usbDdkDtInterfaceSize then
        .ret (.inr (pos + a.bytes.length, { x with altsetting := x.altsetting ++ [a.raw] }))
      else do
        let bDescriptorType ← byteAt buffer (pos + a.bytes.length + 1)
        let bInterfaceNumber ← byteAt buffer (pos + a.bytes.length + 2)
        if bDescriptorType ≠ usbDdkDtInterface ∨ bInterfaceNumber ≠ number.getD (field a.descriptor.bytes 2) then
          .ret (.inr (pos + a.bytes.length, { x with altsetting := x.altsetting ++ [a.raw] }))
        else .ret (.inl ⟨pos + a.bytes.length, buffer.length - (pos + a.bytes.length),
          { x with altsetting := x.altsetting ++ [a.raw] }, some (number.getD (field a.descriptor.bytes 2))⟩)) = o) :
    Comes (fun fuel => interfaceRound buffer fuel ⟨pos, buffer.length - pos, x, number⟩) o := by
  have first : At buffer pos a.descriptor.bytes (extraBytes a.extra ++ a.endpoints.flatMap EndpointPart.bytes ++ rest) :=
    here.split_at
  have sized := a.sized
  have length := first.length
  have bLength : field (a.descriptor.bytes.take usbDdkDtInterfaceSize) 0 = a.descriptor.bytes.length :=
    (field_slice a.descriptor.bytes 0 (n := usbDdkDtInterfaceSize) (by decide)).trans a.descriptor.length
  have type : field (a.descriptor.bytes.take usbDdkDtInterfaceSize) 1 = usbDdkDtInterface :=
    (field_slice a.descriptor.bytes 0 (n := usbDdkDtInterfaceSize) (by decide)).trans a.typed
  have inum : field (a.descriptor.bytes.take usbDdkDtInterfaceSize) 2 = field a.descriptor.bytes 2 :=
    field_slice a.descriptor.bytes 0 (n := usbDdkDtInterfaceSize) (by decide)
  have bNumEndpoints : field (a.descriptor.bytes.take usbDdkDtInterfaceSize) 4 = a.endpoints.length :=
    (field_slice a.descriptor.bytes 0 (n := usbDdkDtInterfaceSize) (by decide)).trans a.counted.symm
  unfold interfaceRound
  simp only [if_pos (show buffer.length - pos ≥ usbDdkDtInterfaceSize by omega),
    if_neg (show ¬ x.altsetting.length ≥ x.allocated by omega), first.bytes sized, Outcome.ret_bind, type, bLength,
    bNumEndpoints, inum, ne_eq, not_true_eq_false, false_or,
    if_neg (show ¬ a.descriptor.bytes.length > buffer.length - pos by omega),
    if_neg (show ¬ (a.descriptor.bytes.length < usbDdkDtInterfaceSize ∨ a.endpoints.length > usbMaxEndpoints) by omega)]
  refine (parseAltsetting_part a here halts).bind ?_
  rw [← checked]
  exact Comes.const _

theorem interfaceRounds_part {inum : Nat} (a : AltsettingPart) (altsettings : List AltsettingPart) {pos : Nat}
    (here : At buffer pos ((a :: altsettings).flatMap AltsettingPart.bytes) rest) (elsewhere : Elsewhere inum rest)
    (endpoints : ∀ b ∈ a :: altsettings, b.endpoints.length ≤ usbMaxEndpoints)
    (numbered : ∀ b ∈ a :: altsettings, field b.descriptor.bytes 2 = inum) {x : RawInterface}
    (free : x.altsetting.length + (a :: altsettings).length ≤ x.allocated) {number : Option Nat}
    (same : number.getD inum = inum) :
    Comes (fun fuel => iterate (interfaceRound buffer) fuel ⟨pos, buffer.length - pos, x, number⟩)
      (.ret (pos + ((a :: altsettings).flatMap AltsettingPart.bytes).length,
        { x with altsetting := x.altsetting ++ (a :: altsettings).map AltsettingPart.raw })) := by
  induction altsettings generalizing a pos x number with
  | nil =>
    have first : At buffer pos a.bytes rest := by simpa using here
    have inumA : field a.descriptor.bytes 2 = inum := numbered a (by simp)
    have behind : At buffer (pos + a.bytes.length) rest [] := At.next (by rw [append_nil]; exact first)
    have length := behind.length
    rw [length_nil] at length
    simp only [flatMap_cons, flatMap_nil, append_nil, map_cons, map_nil]
    apply comes_iterate_break
    apply interfaceRound_part a first elsewhere.halts (endpoints a (by simp)) (by simp at free; omega)
    rw [inumA, same]
    rcases elsewhere with rfl | ⟨long, type, other⟩
    · rw [length_nil] at length
      rw [if_pos (by unfold usbDdkDtInterfaceSize; omega)]
    · have nine := long
      unfold usbDdkDtInterfaceSize at nine
      rw [if_neg (by omega), byteAt_inside (by omega), byteAt_inside (by omega)]
      simp only [Outcome.ret_bind]
      rw [if_pos (.inr (by rw [behind.field_eq (by omega)]; exact other))]
  | cons b altsettings ih =>
    have first : At buffer pos a.bytes ((b :: altsettings).flatMap AltsettingPart.bytes ++ rest) := here.split_at
    have second := first.next
    have third : At buffer (pos + a.bytes.length) b.bytes (altsettings.flatMap AltsettingPart.bytes ++ rest) :=
      second.split_at
    have fourth : At buffer (pos + a.bytes.length) b.descriptor.bytes _ := third.split_at
    have sized := b.sized
    have length := fourth.length
    have inumA : field a.descriptor.bytes 2 = inum := numbered a (by simp)
    have inumB : field b.descriptor.bytes 2 = inum := numbered b (by simp)
    have nine := sized
    unfold usbDdkDtInterfaceSize at nine
    have type : field buffer (pos + a.bytes.length + 1) = usbDdkDtInterface := (fourth.field_eq (by omega)).trans b.typed
    have again : field buffer (pos + a.bytes.length + 2) = inum := (fourth.field_eq (by omega)).trans inumB
    have round : Comes (fun fuel => interfaceRound buffer fuel ⟨pos, buffer.length - pos, x, number⟩) _ :=
      interfaceRound_part a first (altsettings_halt (b :: altsettings) elsewhere.halts) (endpoints a (by simp))
        (by simp at free; omega) rfl
    rw [if_neg (by omega), byteAt_inside (by omega), byteAt_inside (by omega)] at round
    simp only [Outcome.ret_bind, type, again, inumA, same, ne_eq, not_true_eq_false, or_self, if_false] at round
    have rest : Comes (fun fuel => iterate (interfaceRound buffer) fuel ⟨pos + a.bytes.length,
        buffer.length - (pos + a.bytes.length), { x with altsetting := x.altsetting ++ [a.raw] }, some inum⟩) _ :=
      ih b second (fun c member => endpoints c (by simp [member])) (fun c member => numbered c (by simp [member]))
        (by simp at free ⊢; omega) rfl
    have total : pos + ((a :: b :: altsettings).flatMap AltsettingPart.bytes).length =
        pos + a.bytes.length + ((b :: altsettings).flatMap AltsettingPart.bytes).length := by
      rw [flatMap_cons, length_append, Nat.add_assoc]
    rw [total]
    have all : x.altsetting ++ (a :: b :: altsettings).map AltsettingPart.raw =
        x.altsetting ++ [a.raw] ++ (b :: altsettings).map AltsettingPart.raw := by simp
    rw [all]
    exact comes_iterate_next round rest

theorem interfaces_elsewhere {number : Nat} (interfaces : List InterfacePart)
    (others : number ∉ interfaces.map InterfacePart.number) : Elsewhere number (interfaces.flatMap InterfacePart.bytes) := by
  cases interfaces with
  | nil => exact .inl rfl
  | cons i interfaces =>
    cases settings : i.altsettings with
    | nil => exact absurd settings i.some_
    | cons a altsettings =>
      have sized := a.sized
      have inum : field a.descriptor.bytes 2 = i.number := i.numbered a (by simp [settings])
      have front : (i :: interfaces).flatMap InterfacePart.bytes = a.descriptor.bytes ++ (extraBytes a.extra ++
          a.endpoints.flatMap EndpointPart.bytes ++ altsettings.flatMap AltsettingPart.bytes ++
          interfaces.flatMap InterfacePart.bytes) := by
        simp [InterfacePart.bytes, settings, AltsettingPart.bytes]
      have here : At ((i :: interfaces).flatMap InterfacePart.bytes) 0 a.descriptor.bytes _ := ⟨Nat.zero_le _, front⟩
      have type := here.field_eq (k := 1) (by unfold usbDdkDtInterfaceSize at sized; omega)
      have second := here.field_eq (k := 2) (by unfold usbDdkDtInterfaceSize at sized; omega)
      rw [Nat.zero_add] at type second
      refine .inr ⟨?_, type.trans a.typed, ?_⟩
      · rw [front, length_append]
        omega
      · rw [second, inum]
        intro same
        exact others (by simp [same])

theorem findIdx?_fresh {inum : Nat} {counted : List Counted} (fresh : inum ∉ counted.map Counted.nIntf) :
    counted.findIdx? (fun c => c.nIntf = inum) = none := by
  rw [findIdx?_eq_none_iff]
  intro c member
  exact decide_eq_false (fun same => fresh (by rw [← same]; exact mem_map_of_mem member))

variable {parsed todo : List InterfacePart}

theorem fresh_number {i : InterfacePart} (distinct : ((parsed ++ i :: todo).map InterfacePart.number).Nodup) :
    i.number ∉ (parsed.map InterfacePart.tallied).map Counted.nIntf := by
  rw [map_append, nodup_append] at distinct
  rw [map_map]
  intro member
  exact distinct.2.2 _ member _ (by simp) rfl

theorem findIdx?_tallied {i : InterfacePart} (distinct : ((parsed ++ i :: todo).map InterfacePart.number).Nodup) :
    ((parsed ++ i :: todo).map InterfacePart.tallied).findIdx? (fun c => c.nIntf = i.number) = some parsed.length := by
  rw [map_append, findIdx?_append, findIdx?_fresh (fresh_number distinct), map_cons, findIdx?_cons]
  simp [InterfacePart.tallied]

theorem configRound_part {i : InterfacePart} {selected : Option Nat}
    (distinct : ((parsed ++ i :: todo).map InterfacePart.number).Nodup)
    (endpoints : ∀ a ∈ i.altsettings, a.endpoints.length ≤ usbMaxEndpoints)
    (here : At buffer pos i.bytes (todo.flatMap InterfacePart.bytes)) :
    Comes (fun fuel => configRound buffer ((parsed ++ i :: todo).map InterfacePart.tallied) fuel ⟨pos, buffer.length - pos,
        parsed.map InterfacePart.raw ++ (i :: todo).map (allocateInterface ∘ InterfacePart.tallied), selected⟩)
      (.ret (.inl ⟨pos + i.bytes.length, buffer.length - (pos + i.bytes.length),
        (parsed ++ [i]).map InterfacePart.raw ++ todo.map (allocateInterface ∘ InterfacePart.tallied),
        some parsed.length⟩)) := by
  have others : i.number ∉ todo.map InterfacePart.number := by
    rw [map_append, nodup_append] at distinct
    exact (nodup_cons.mp distinct.2.1).1
  have elsewhere := interfaces_elsewhere todo others
  cases settings : i.altsettings with
  | nil => exact absurd settings i.some_
  | cons a altsettings =>
    have whole : At buffer pos ((a :: altsettings).flatMap AltsettingPart.bytes) (todo.flatMap InterfacePart.bytes) := by
      rw [← settings]
      exact here
    have first : At buffer pos a.descriptor.bytes _ := whole.split_at.split_at
    have sized := a.sized
    unfold usbDdkDtInterfaceSize at sized
    have length := first.length
    have number : field buffer (pos + 2) = i.number :=
      (first.field_eq (by omega)).trans (i.numbered a (by simp [settings]))
    have selects : selectInterface buffer ((parsed ++ i :: todo).map InterfacePart.tallied) pos selected =
        .ret (some parsed.length) := by
      rw [selectInterface_eq (by simp), if_pos (by omega), selection, number, findIdx?_tallied distinct]
      rfl
    have allocated : allocateInterface i.tallied = ⟨i.altsettings.length, []⟩ :=
      congrArg (RawInterface.mk · []) (if_neg (Nat.not_lt.mpr i.few))
    have parses : Comes (fun fuel => iterate (interfaceRound buffer) fuel ⟨pos, buffer.length - pos,
        allocateInterface i.tallied, none⟩) (.ret (pos + i.bytes.length, i.raw)) := by
      rw [allocated, InterfacePart.raw, InterfacePart.bytes, settings]
      exact interfaceRounds_part a altsettings whole elsewhere (by rw [← settings]; exact endpoints)
        (by rw [← settings]; exact i.numbered) (by simp) rfl
    have round := configRound_comes (s := ⟨pos, buffer.length - pos,
        parsed.map InterfacePart.raw ++ (i :: todo).map (allocateInterface ∘ InterfacePart.tallied), selected⟩)
      (show 0 < buffer.length - pos by omega) selects
      (show (parsed.map InterfacePart.raw ++ _)[parsed.length]? = some (allocateInterface i.tallied) by simp)
      (by rw [allocated]; exact Nat.zero_le _) parses
    have left : buffer.length - pos - (pos + i.bytes.length - pos) = buffer.length - (pos + i.bytes.length) := by omega
    simp only [Outcome.ret_bind, left] at round
    simpa using round

theorem configRounds_part (parsed todo : List InterfacePart) {pos : Nat}
    (distinct : ((parsed ++ todo).map InterfacePart.number).Nodup)
    (endpoints : ∀ i ∈ todo, ∀ a ∈ i.altsettings, a.endpoints.length ≤ usbMaxEndpoints)
    (here : At buffer pos (todo.flatMap InterfacePart.bytes) []) (selected : Option Nat) :
    Comes (fun fuel => iterate (configRound buffer ((parsed ++ todo).map InterfacePart.tallied)) fuel ⟨pos,
        buffer.length - pos, parsed.map InterfacePart.raw ++ todo.map (allocateInterface ∘ InterfacePart.tallied), selected⟩)
      (.ret (0, (parsed ++ todo).map InterfacePart.raw)) := by
  induction todo generalizing parsed pos selected with
  | nil =>
    have length := here.length
    simp only [flatMap_nil, length_nil, Nat.add_zero] at length
    apply comes_iterate_break
    simp only [configRound, length, Nat.sub_self, gt_iff_lt, Nat.lt_irrefl, if_false, Outcome.pure_eq, map_nil, append_nil]
    exact Comes.const _
  | cons i todo ih =>
    have first : At buffer pos i.bytes (todo.flatMap InterfacePart.bytes) := by
      have split := here.split_at
      rw [append_nil] at split
      exact split
    refine comes_iterate_next (configRound_part distinct (endpoints i (by simp)) first) ?_
    have rest := ih (parsed ++ [i]) (by simpa using distinct) (fun j member => endpoints j (by simp [member]))
      (At.next (by rw [append_nil]; exact first)) (some parsed.length)
    rw [append_assoc, singleton_append] at rest
    exact rest

end
end Peripheral.Usb
