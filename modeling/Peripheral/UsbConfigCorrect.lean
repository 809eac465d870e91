import Peripheral.UsbConfigGrammar

/-!
The parser on well-formed configurations. The first pass counts the interfaces and
alternate settings of the configuration, so each interface gets the place it needs,
and the second pass fills it with what the configuration says. The header is checked
against the length cut down to a byte, and an alternate setting can only have so
many endpoints; a configuration that passes both checks is parsed to what it says.
-/
namespace Peripheral.Usb
open Peripheral.Loops InterfacePart List

def EndpointPart.parts (e : EndpointPart) : List Descriptor := e.descriptor :: e.extra.map ClassSpecific.toDescriptor

def AltsettingPart.parts (a : AltsettingPart) : List Descriptor :=
  a.descriptor :: (a.extra.map ClassSpecific.toDescriptor ++ a.endpoints.flatMap EndpointPart.parts)

def InterfacePart.parts (i : InterfacePart) : List Descriptor := i.altsettings.flatMap AltsettingPart.parts

def Configuration.parts (c : Configuration) : List Descriptor :=
  c.descriptor :: (c.extra.map ClassSpecific.toDescriptor ++ c.interfaces.flatMap InterfacePart.parts)

theorem EndpointPart.flatMap_parts (e : EndpointPart) : e.parts.flatMap Descriptor.bytes = e.bytes := by
  simp [parts, bytes, extraBytes, flatMap_map]

theorem AltsettingPart.flatMap_parts (a : AltsettingPart) : a.parts.flatMap Descriptor.bytes = a.bytes := by
  simp [parts, bytes, extraBytes, flatMap_map, flatMap_assoc, EndpointPart.flatMap_parts]

theorem InterfacePart.flatMap_parts (i : InterfacePart) : i.parts.flatMap Descriptor.bytes = i.bytes := by
  simp [parts, bytes, flatMap_assoc, AltsettingPart.flatMap_parts]

theorem Configuration.flatMap_parts (c : Configuration) : c.parts.flatMap Descriptor.bytes = c.bytes := by
  simp [parts, bytes, extraBytes, flatMap_map, flatMap_assoc, InterfacePart.flatMap_parts]

/-- A buffer that is made of descriptors is taken apart into them. -/
theorem descriptorsOf_parts (parts : List Descriptor) {rounds : Nat}
    (enough : (parts.flatMap Descriptor.bytes).length ≤ rounds) :
    descriptorsOf rounds (parts.flatMap Descriptor.bytes) = parts.map Descriptor.bytes := by
  induction parts generalizing rounds with
  | nil => cases rounds <;> rfl
  | cons d parts ih =>
    have long := d.header
    unfold descHeaderLength at long
    have here : At ((d :: parts).flatMap Descriptor.bytes) 0 d.bytes (parts.flatMap Descriptor.bytes) :=
      ⟨Nat.zero_le _, rfl⟩
    have length := here.length
    have size := (here.field_eq (k := 0) (by omega)).trans d.length
    rw [Nat.zero_add] at size
    cases rounds with
    | zero => omega
    | succ rounds =>
      unfold descriptorsOf descHeaderLength
      rw [size, if_pos (by omega), flatMap_cons, take_left, drop_left, ih (by omega), map_cons]

def tallies (counted : List Counted) (parts : List Descriptor) : List Counted :=
  parts.foldl (fun counted d => tally counted d.bytes) counted

theorem interfacesOf_eq_tallies (c : Configuration) : interfacesOf c.bytes = tallies [] c.parts := by
  rw [interfacesOf, ← c.flatMap_parts, descriptorsOf_parts c.parts (Nat.le_refl _), foldl_map]
  rfl

theorem tallies_append (counted : List Counted) (parts more : List Descriptor) :
    tallies counted (parts ++ more) = tallies (tallies counted parts) more := foldl_append

theorem tally_other {d : Descriptor} (other : d.type ≠ usbDdkDtInterface) (counted : List Counted) :
    tally counted d.bytes = counted := if_neg (fun interface => other interface.1)

theorem tallies_other (parts : List Descriptor) (other : ∀ d ∈ parts, d.type ≠ usbDdkDtInterface) (counted : List Counted) :
    tallies counted parts = counted := by
  induction parts with
  | nil => rfl
  | cons d parts ih =>
    have kept := tally_other (other d (by simp)) counted
    simp only [tallies, foldl_cons, kept]
    exact ih (fun e member => other e (by simp [member]))

theorem extra_other (extra : List ClassSpecific) : ∀ d ∈ extra.map ClassSpecific.toDescriptor, d.type ≠ usbDdkDtInterface := by
  intro d member
  obtain ⟨x, _, rfl⟩ := mem_map.mp member
  exact x.other.1

theorem EndpointPart.other (e : EndpointPart) : ∀ d ∈ e.parts, d.type ≠ usbDdkDtInterface := by
  intro d member
  rcases mem_cons.mp member with rfl | extra
  · rw [e.typed]
    decide
  · exact extra_other e.extra d extra

theorem AltsettingPart.tallies_parts (a : AltsettingPart) (counted : List Counted) :
    tallies counted a.parts = countInterface (field a.descriptor.bytes 2) counted := by
  have first : tally counted a.descriptor.bytes = countInterface (field a.descriptor.bytes 2) counted :=
    if_pos ⟨a.typed, by rw [a.descriptor.length]; exact a.sized⟩
  have others : ∀ d ∈ a.extra.map ClassSpecific.toDescriptor ++ a.endpoints.flatMap EndpointPart.parts,
      d.type ≠ usbDdkDtInterface := by
    intro d member
    rcases mem_append.mp member with extra | endpoint
    · exact extra_other a.extra d extra
    · obtain ⟨e, _, inside⟩ := mem_flatMap.mp endpoint
      exact e.other d inside
  have rest := tallies_other _ others (countInterface (field a.descriptor.bytes 2) counted)
  simp only [tallies, parts, foldl_cons, first]
  exact rest

variable {counted : List Counted}

theorem countInterface_new {inum : Nat} (fresh : inum ∉ counted.map Counted.nIntf)
    (few : counted.length < usbMaxInterfaces) : countInterface inum counted = counted ++ [⟨inum, 1⟩] := by
  unfold countInterface
  rw [findIdx?_fresh fresh]
  exact if_pos few

theorem countInterface_again {inum alts : Nat} (fresh : inum ∉ counted.map Counted.nIntf)
    (few : alts < usbMaxAltsetting) : countInterface inum (counted ++ [⟨inum, alts⟩]) = counted ++ [⟨inum, alts + 1⟩] := by
  have last : (counted ++ [Counted.mk inum alts]).findIdx? (fun c => c.nIntf = inum) = some counted.length := by
    rw [findIdx?_append, findIdx?_fresh fresh]
    simp [findIdx?_cons]
  unfold countInterface
  simp only [last]
  rw [modify_eq_take_cons_drop (by simp)]
  simp [few]

theorem tallies_altsettings {inum alts : Nat} (altsettings : List AltsettingPart)
    (numbered : ∀ a ∈ altsettings, field a.descriptor.bytes 2 = inum) (fresh : inum ∉ counted.map Counted.nIntf)
    (few : alts + altsettings.length ≤ usbMaxAltsetting) :
    tallies (counted ++ [⟨inum, alts⟩]) (altsettings.flatMap AltsettingPart.parts) =
      counted ++ [⟨inum, alts + altsettings.length⟩] := by
  induction altsettings generalizing alts with
  | nil => rfl
  | cons a altsettings ih =>
    rw [length_cons] at few ⊢
    rw [flatMap_cons, tallies_append, a.tallies_parts, numbered a (by simp), countInterface_again fresh (by omega),
      ih (fun b member => numbered b (by simp [member])) (by omega)]
    simp only [Nat.add_assoc, Nat.add_comm 1]

theorem InterfacePart.tallies_parts (i : InterfacePart)
    (fresh : i.number ∉ counted.map Counted.nIntf) (few : counted.length < usbMaxInterfaces) :
    tallies counted i.parts = counted ++ [i.tallied] := by
  have short := i.few
  unfold parts tallied
  cases settings : i.altsettings with
  | nil => exact absurd settings i.some_
  | cons a altsettings =>
    have numbered := i.numbered
    rw [settings] at numbered short
    rw [length_cons] at short ⊢
    rw [flatMap_cons, tallies_append, a.tallies_parts, numbered a (by simp), countInterface_new fresh few,
      tallies_altsettings altsettings (fun b member => numbered b (by simp [member])) fresh (by omega), Nat.add_comm]

theorem tallies_interfaces (parsed todo : List InterfacePart)
    (distinct : ((parsed ++ todo).map number).Nodup) (few : (parsed ++ todo).length ≤ usbMaxInterfaces) :
    tallies (parsed.map tallied) (todo.flatMap parts) = (parsed ++ todo).map tallied := by
  induction todo generalizing parsed with
  | nil => rw [append_nil]; rfl
  | cons i todo ih =>
    have rest := ih (parsed ++ [i]) (by simpa using distinct) (by simpa using few)
    rw [append_assoc, singleton_append, map_append] at rest
    rw [flatMap_cons, tallies_append, i.tallies_parts (fresh_number distinct) (by simp at few ⊢; omega)]
    exact rest

/-- The first pass counts the interfaces of a configuration and the alternate settings of each. -/
theorem Configuration.interfacesOf_bytes (c : Configuration) : interfacesOf c.bytes = c.interfaces.map tallied := by
  have header : tally [] c.descriptor.bytes = [] := tally_other (by rw [c.typed]; decide) []
  have all := tallies_interfaces [] c.interfaces c.distinct c.few
  rw [interfacesOf_eq_tallies]
  unfold parts
  have first : tallies [] (c.descriptor :: (c.extra.map ClassSpecific.toDescriptor ++
      c.interfaces.flatMap InterfacePart.parts)) = tallies (tally [] c.descriptor.bytes)
      (c.extra.map ClassSpecific.toDescriptor ++ c.interfaces.flatMap InterfacePart.parts) := rfl
  rw [first, header, tallies_append, tallies_other _ (extra_other c.extra)]
  exact all

section
variable {buffer : List UInt8} {fuel : Nat}

/-- No alternate setting of the interface has more endpoints than an interface can. -/
def RawInterface.Bounded (x : RawInterface) : Prop := ∀ a ∈ x.altsetting, a.endPoint.length ≤ usbMaxEndpoints

theorem parseEndpoints_length {pos size remaining : Nat} {endPoint : List RawEndpoint} {r : List RawEndpoint × Nat × Nat}
    (parsed : parseEndpoints buffer fuel pos size endPoint remaining = .ret r) : r.1.length ≤ endPoint.length + remaining := by
  induction remaining generalizing pos size endPoint with
  | zero =>
    cases parsed
    exact Nat.le_refl _
  | succ remaining ih =>
    simp only [parseEndpoints, Outcome.bind_eq_ret] at parsed
    obtain ⟨result, _, rest⟩ := parsed
    cases result with
    | none =>
      cases rest
      exact Nat.le_add_right _ _
    | some e =>
      have shorter := ih rest
      rw [length_append, length_singleton] at shorter
      omega

theorem parseAltsetting_length {pos size : Nat} {descriptor : List UInt8} {r : RawAltsetting × Nat × Nat}
    (parsed : parseAltsetting buffer fuel pos size descriptor = .ret r) : r.1.endPoint.length ≤ field descriptor 4 := by
  simp only [parseAltsetting, Outcome.bind_eq_ret] at parsed
  obtain ⟨_, _, endpoints, counted, returned⟩ := parsed
  have most := parseEndpoints_length counted
  rw [length_nil, Nat.zero_add] at most
  cases returned
  exact most

theorem interfaceRound_bounded {s : InterfaceLoop} (bounded : s.usbInterface.Bounded)
    {r : InterfaceLoop ⊕ (Nat × RawInterface)} (parsed : interfaceRound buffer fuel s = .ret r) :
    (∀ s', r = .inl s' → s'.usbInterface.Bounded) ∧ ∀ p x, r = .inr (p, x) → x.Bounded := by
  have same : ∀ {p : Nat}, r = .inr (p, s.usbInterface) →
      (∀ s', r = .inl s' → s'.usbInterface.Bounded) ∧ ∀ p x, r = .inr (p, x) → x.Bounded := by
    rintro p rfl
    exact ⟨by simp, by rintro p' x is; cases is; exact bounded⟩
  unfold interfaceRound at parsed
  by_cases left : s.size ≥ usbDdkDtInterfaceSize
  · rw [if_pos left] at parsed
    by_cases full : s.usbInterface.altsetting.length ≥ s.usbInterface.allocated
    · rw [if_pos full] at parsed
      cases parsed
    · rw [if_neg full, Outcome.bind_eq_ret] at parsed
      obtain ⟨descriptor, _, parsed⟩ := parsed
      by_cases other : field descriptor 1 ≠ usbDdkDtInterface ∨ field descriptor 0 > s.size
      · rw [if_pos other] at parsed
        cases parsed
        exact same rfl
      · rw [if_neg other] at parsed
        by_cases bad : field descriptor 0 < usbDdkDtInterfaceSize ∨ field descriptor 4 > usbMaxEndpoints
        · rw [if_pos bad] at parsed
          cases parsed
        · rw [if_neg bad] at parsed
          simp only [Outcome.bind_eq_ret] at parsed
          obtain ⟨⟨a, pos, size⟩, settled, parsed⟩ := parsed
          have few := parseAltsetting_length settled
          have more : RawInterface.Bounded { s.usbInterface with altsetting := s.usbInterface.altsetting ++ [a] } := by
            intro b member
            rcases mem_append.mp member with before | last
            · exact bounded b before
            · rw [mem_singleton.mp last]
              simp only at few
              omega
          by_cases ended : size < usbDdkDtInterfaceSize
          · rw [if_pos ended] at parsed
            cases parsed
            exact ⟨by simp, by rintro p x is; cases is; exact more⟩
          · rw [if_neg ended] at parsed
            simp only [Outcome.bind_eq_ret] at parsed
            obtain ⟨_, _, _, _, parsed⟩ := parsed
            split at parsed
            · cases parsed
              exact ⟨by simp, by rintro p x is; cases is; exact more⟩
            · cases parsed
              exact ⟨by rintro s' is; cases is; exact more, by simp⟩
  · rw [if_neg left] at parsed
    cases parsed
    exact same rfl

theorem parseInterface_bounded {usbInterface : Option RawInterface} {pos size : Nat} {r : Nat × RawInterface}
    (bounded : ∀ x, usbInterface = some x → x.Bounded)
    (parsed : parseInterface buffer fuel usbInterface pos size = .ret r) : r.2.Bounded := by
  cases usbInterface with
  | none => cases parsed
  | some x =>
    unfold parseInterface at parsed
    simp only at parsed
    split at parsed
    · cases parsed
    · exact iterate_invariant (fun _ _ s' before round => (interfaceRound_bounded before round).1 s' rfl)
        (fun _ _ a before round => (interfaceRound_bounded before round).2 a.1 a.2 rfl) (bounded x rfl) parsed

theorem configRound_bounded {s : ConfigLoop} (bounded : ∀ x ∈ s.interface, x.Bounded)
    {r : ConfigLoop ⊕ (Nat × List RawInterface)} (parsed : configRound buffer counted fuel s = .ret r) :
    (∀ s', r = .inl s' → ∀ x ∈ s'.interface, x.Bounded) ∧ ∀ a, r = .inr a → ∀ x ∈ a.2, x.Bounded := by
  unfold configRound at parsed
  by_cases left : s.size > 0
  · rw [if_pos left] at parsed
    simp only [Outcome.bind_eq_ret] at parsed
    obtain ⟨selected, _, result, settled, parsed⟩ := parsed
    have one : result.2.Bounded := by
      refine parseInterface_bounded ?_ settled
      intro x is
      obtain ⟨i, _, there⟩ := Option.bind_eq_some_iff.mp is
      exact bounded x (mem_of_getElem? there)
    cases parsed
    refine ⟨?_, by simp⟩
    rintro s' is x member
    cases is
    cases selected with
    | none => exact bounded x member
    | some i =>
      rcases mem_or_eq_of_mem_set member with before | rfl
      · exact bounded x before
      · exact one
  · rw [if_neg left] at parsed
    cases parsed
    exact ⟨by simp, by rintro a is; cases is; exact bounded⟩

theorem descToConfig_bounded {r : Nat × RawConfig} (parsed : descToConfig buffer fuel = .ret r) :
    ∀ x ∈ r.2.interface, x.Bounded := by
  unfold descToConfig parseConfiguration at parsed
  split at parsed
  · cases parsed
  · simp only [Outcome.bind_eq_ret] at parsed
    obtain ⟨header, _, parsed⟩ := parsed
    split at parsed
    · cases parsed
    · simp only [Outcome.bind_eq_ret, parseConfigurationDes] at parsed
      obtain ⟨counted, _, extra, _, result, built, returned⟩ := parsed
      have all : ∀ x ∈ result.2, x.Bounded := by
        refine iterate_invariant (fun _ _ s' before round => (configRound_bounded before round).1 s' rfl)
          (fun _ _ a before round => (configRound_bounded before round).2 a rfl) ?_ built
        intro x member
        obtain ⟨c, _, rfl⟩ := mem_map.mp member
        simp [RawInterface.Bounded, allocateInterface]
      cases returned
      exact all

end

namespace Configuration

/-- Zero is returned with the interfaces, alternate settings, endpoints and extra bytes of the configuration. -/
def IsParsed (c : Configuration) : Prop := ∃ fuel, descToConfig c.bytes fuel = .ret (0, c.raw)

section
variable (c : Configuration)
include c

theorem at_header : At c.bytes 0 c.descriptor.bytes (extraBytes c.extra ++ c.interfaces.flatMap InterfacePart.bytes) :=
  ⟨Nat.zero_le _, rfl⟩

theorem take_header : c.bytes.take usbDdkDtConfigSize = c.descriptor.bytes := by
  rw [bytes, ← c.sized, take_left]

/-- Only the length of the whole configuration, cut down to a byte, can make the header refused. -/
theorem refused_iff : Refused c.bytes ↔ c.bytes.length % 2^8 < usbDdkDtConfigSize := by
  have length := c.at_header.length
  have bLength := c.descriptor.length
  have sized := c.sized
  have few := c.few
  have short : ¬ c.bytes.length < usbDdkDtConfigSize := by omega
  have type : field c.descriptor.bytes 1 = usbDdkDtConfig := c.typed
  unfold Refused badHeader
  rw [c.take_header, bLength, sized, type, ← c.counted]
  simp [short, few]

theorem set_counted : c.descriptor.bytes.set 4 (UInt8.ofNat c.interfaces.length) = c.descriptor.bytes := by
  have sized := c.sized
  unfold usbDdkDtConfigSize at sized
  have inside : 4 < c.descriptor.bytes.length := by omega
  have same : UInt8.ofNat c.interfaces.length = c.descriptor.bytes[4] := by
    rw [c.counted, field, getD_eq_getElem?_getD, getElem?_eq_getElem inside, Option.getD_some, UInt8.ofNat_toNat]
  rw [same, set_getElem_self]

/-- A configuration whose header is accepted and whose alternate settings have few enough endpoints is parsed. -/
theorem isParsed_of_few (accepted : ¬ Refused c.bytes)
    (endpoints : ∀ i ∈ c.interfaces, ∀ a ∈ i.altsettings, a.endpoints.length ≤ usbMaxEndpoints) : c.IsParsed := by
  obtain ⟨long, header⟩ := not_or.mp accepted
  have extra : At c.bytes usbDdkDtConfigSize (extraBytes c.extra) (c.interfaces.flatMap InterfacePart.bytes) := by
    have next := c.at_header.next
    rw [Nat.zero_add, c.sized] at next
    exact next
  have interfaces : At c.bytes (usbDdkDtConfigSize + (extraBytes c.extra).length)
      (c.interfaces.flatMap InterfacePart.bytes) [] := At.next (by rw [append_nil]; exact extra)
  have copied : bytesAt c.bytes 0 usbDdkDtConfigSize = .ret c.descriptor.bytes := by
    rw [bytesAt_inside (by omega), drop_zero, c.take_header]
  have first : field c.descriptor.bytes 0 = usbDdkDtConfigSize := c.descriptor.length.trans c.sized
  rw [c.take_header] at header
  have builds : Comes (fun fuel => parseConfigurationDes c.bytes (c.interfaces.map tallied) fuel
      usbDdkDtConfigSize (c.bytes.length - usbDdkDtConfigSize) c.descriptor.bytes) (.ret (0, c.raw)) := by
    have length := extra.length
    have left : c.bytes.length - usbDdkDtConfigSize - (usbDdkDtConfigSize + (extraBytes c.extra).length -
        usbDdkDtConfigSize) = c.bytes.length - (usbDdkDtConfigSize + (extraBytes c.extra).length) := by omega
    have loop := configRounds_part [] c.interfaces c.distinct endpoints interfaces
    refine (parseExtra_extra c.extra extra (interfaces_halt c.interfaces)).bind ?_
    simp only [left, map_map]
    exact (loop _).bind (Comes.const _)
  have parses : Comes (descToConfig c.bytes) (.ret (0, c.raw)) := by
    have counts := getInterfaceNumber_comes c.bytes
    rw [c.interfacesOf_bytes] at counts
    have start : ∀ fuel, descToConfig c.bytes fuel = getInterfaceNumber c.bytes fuel >>= fun counted =>
        parseConfigurationDes c.bytes counted fuel usbDdkDtConfigSize (c.bytes.length - usbDdkDtConfigSize)
          (c.descriptor.bytes.set 4 (UInt8.ofNat counted.length)) := by
      intro fuel
      simp only [descToConfig, parseConfiguration, if_neg long, copied, Outcome.ret_bind, if_neg header, first]
    rw [show descToConfig c.bytes = _ from funext start]
    refine counts.bind ?_
    rw [length_map, c.set_counted]
    exact builds
  obtain ⟨enough, is⟩ := parses.1
  exact ⟨enough, is enough (Nat.le_refl _)⟩

end

/-- A well-formed configuration is parsed to what it says exactly when its length, cut down to a byte, is that of the
    header at least and no alternate setting has more endpoints than an interface can. -/
theorem isParsed_iff_length (c : Configuration) : c.IsParsed ↔ usbDdkDtConfigSize ≤ c.bytes.length % 2^8 ∧
      ∀ i ∈ c.interfaces, ∀ a ∈ i.altsettings, a.endpoints.length ≤ usbMaxEndpoints := by
  have refused := c.refused_iff
  constructor
  · rintro ⟨fuel, parsed⟩
    constructor
    · by_contra short
      rw [descToConfig_refused (refused.mpr (by omega))] at parsed
      cases parsed
    · intro i member a inside
      have bounded := descToConfig_bounded parsed i.raw (mem_map_of_mem member) a.raw (mem_map_of_mem inside)
      rw [AltsettingPart.raw, length_map] at bounded
      exact bounded
  · rintro ⟨long, endpoints⟩
    exact c.isParsed_of_few (fun bad => by have := refused.mp bad; omega) endpoints

def vendorDescriptor : ClassSpecific :=
  ⟨⟨[19, 0x24, 0, 0, 0, 0, 0, 0, 0, 0, 0, 0, 0, 0, 0, 0, 0, 0, 0], by decide, by decide⟩, by decide⟩

def manyExtra : Configuration where
  descriptor := ⟨[9, 2, 0, 1, 0, 1, 0, 0x80, 50], by decide, by decide⟩
  typed := by decide
  sized := by decide
  extra := replicate 13 vendorDescriptor
  interfaces := []
  few := by decide
  counted := by decide
  distinct := by decide

/-- It is refused. -/
theorem manyExtra_not_isParsed : ¬ manyExtra.IsParsed := by
  have length : manyExtra.bytes.length = 256 := by
    rw [bytes, extraBytes, length_append, length_append, length_flatMap]
    decide
  rintro ⟨fuel, parsed⟩
  rw [descToConfig_refused (manyExtra.refused_iff.mpr (by rw [length]; decide))] at parsed
  cases parsed

end Configuration

end Peripheral.Usb
