import Peripheral.UsbConfig

/-!
Which buffers the parser of configuration descriptors gets through. Apart from
what it stores, the parser walks over the buffer from descriptor to descriptor,
with the number of endpoints it still expects, the interface it has selected and
the alternate settings that are still free. Each descriptor it meets lets it go on,
ends the parsing, makes it stall at that place for ever, or makes it leave the
buffer or the alternate settings that were allocated.
-/
namespace Peripheral.Usb
open Peripheral.Loops Outcome Follows Comes List

section
variable {buffer : List UInt8}

theorem byteAt_inside {i : Nat} (inside : i < buffer.length) : byteAt buffer i = .ret (field buffer i) := by
  simp [byteAt, field, getElem?_eq_getElem inside]

theorem byteAt_outside {i : Nat} (outside : buffer.length ≤ i) : byteAt buffer i = .fault := by
  simp [byteAt, getElem?_eq_none outside]

theorem bytesAt_inside {i n : Nat} (inside : i + n ≤ buffer.length) :
    bytesAt buffer i n = .ret ((buffer.drop i).take n) := if_pos inside

theorem field_slice (buffer : List UInt8) (p : Nat) {n k : Nat} (inside : k < n) :
    field ((buffer.drop p).take n) k = field buffer (p + k) := by
  simp [field, getD_eq_getElem?_getD, getElem?_take_of_lt inside]

theorem field_lt (descriptor : List UInt8) (i : Nat) : field descriptor i < 256 := UInt8.toNat_lt _

def descriptorsOf : Nat → List UInt8 → List (List UInt8)
  | 0, _ => []
  | rounds+1, buffer =>
    if descHeaderLength ≤ buffer.length ∧ descHeaderLength ≤ field buffer 0 ∧ field buffer 0 ≤ buffer.length then
      buffer.take (field buffer 0) :: descriptorsOf rounds (buffer.drop (field buffer 0))
    else []

def tally (counted : List Counted) (descriptor : List UInt8) : List Counted :=
  if field descriptor 1 = usbDdkDtInterface ∧ usbDdkDtInterfaceSize ≤ field descriptor 0 then
    countInterface (field descriptor 2) counted
  else counted

def interfacesOf (buffer : List UInt8) : List Counted := (descriptorsOf buffer.length buffer).foldl tally []

theorem countDescriptor_eq {p : Nat} (counted : List Counted) (inside : p ≤ buffer.length) :
    countDescriptor buffer (p, buffer.length - p, counted) =
      if descHeaderLength ≤ buffer.length - p ∧ descHeaderLength ≤ field buffer p ∧ field buffer p ≤ buffer.length - p then
        .ret (.inl (p + field buffer p, buffer.length - p - field buffer p,
          tally counted ((buffer.drop p).take (field buffer p)))) else .ret (.inr counted) := by
  unfold countDescriptor descHeaderLength
  by_cases short : buffer.length - p < 2
  · rw [if_neg (show ¬ (2 ≤ buffer.length - p ∧ _) by omega)]
    by_cases none : buffer.length - p = 0
    · simp [none]
    · simp [short, show buffer.length - p > 0 by omega]
  · simp only [if_pos (show buffer.length - p > 0 by omega), if_neg short, byteAt_inside (show p < buffer.length by omega),
      byteAt_inside (show p + 1 < buffer.length by omega), ret_bind, pure_eq]
    by_cases good : 2 ≤ field buffer p ∧ field buffer p ≤ buffer.length - p
    · rw [if_neg (show ¬ (field buffer p > buffer.length - p ∨ field buffer p < 2) by omega),
        if_pos (show 2 ≤ buffer.length - p ∧ 2 ≤ field buffer p ∧ field buffer p ≤ buffer.length - p from
          ⟨by omega, good⟩)]
      have first := field_slice buffer p (show 0 < field buffer p by omega)
      have type := field_slice buffer p (show 1 < field buffer p by omega)
      rw [Nat.add_zero] at first
      unfold tally
      rw [first, type]
      by_cases interface : field buffer (p + 1) = usbDdkDtInterface
      · by_cases long : usbDdkDtInterfaceSize ≤ field buffer p
        · have number := field_slice buffer p (show 2 < field buffer p by unfold usbDdkDtInterfaceSize at long; omega)
          have there : p + 2 < buffer.length := by unfold usbDdkDtInterfaceSize at long; omega
          rw [if_pos interface, if_pos ⟨interface, long⟩, number]
          simp only [getInterfaceNumberDes, byteAt_inside (show p < buffer.length by omega), byteAt_inside there,
            if_neg (show ¬ field buffer p < usbDdkDtInterfaceSize by omega), ret_bind, pure_eq]
        · rw [if_pos interface, if_neg (show ¬ (_ ∧ usbDdkDtInterfaceSize ≤ field buffer p) by tauto)]
          simp only [getInterfaceNumberDes, byteAt_inside (show p < buffer.length by omega),
            if_pos (show field buffer p < usbDdkDtInterfaceSize by omega), ret_bind, pure_eq]
      · rw [if_neg interface, if_neg (show ¬ (field buffer (p + 1) = usbDdkDtInterface ∧ _) by tauto)]
    · rw [if_pos (show field buffer p > buffer.length - p ∨ field buffer p < 2 by omega), if_neg (by tauto)]

theorem getInterfaceNumber_from {p rounds : Nat} (counted : List Counted) (inside : p ≤ buffer.length)
    (enough : buffer.length - p ≤ rounds) :
    Comes (fun fuel => iterate (fun _ => countDescriptor buffer) fuel (p, buffer.length - p, counted))
      (.ret ((descriptorsOf rounds (buffer.drop p)).foldl tally counted)) := by
  induction rounds generalizing p counted with
  | zero =>
    have ended := countDescriptor_eq counted inside
    rw [if_neg (by unfold descHeaderLength; omega)] at ended
    exact comes_iterate_break (by simp only [ended]; exact const _)
  | succ rounds ih =>
    have step := countDescriptor_eq counted inside
    have first : field (buffer.drop p) 0 = field buffer p := by simp [field, getD_eq_getElem?_getD]
    unfold descriptorsOf
    rw [first, length_drop]
    by_cases good : descHeaderLength ≤ buffer.length - p ∧ descHeaderLength ≤ field buffer p ∧
        field buffer p ≤ buffer.length - p
    · rw [if_pos good] at step ⊢
      unfold descHeaderLength at good
      have rest := ih (p := p + field buffer p) (tally counted ((buffer.drop p).take (field buffer p))) (by omega) (by omega)
      rw [← Nat.sub_sub, ← drop_drop] at rest
      exact comes_iterate_next (by simp only [step]; exact const _) rest
    · rw [if_neg good] at step ⊢
      exact comes_iterate_break (by simp only [step]; exact const _)

/-- The counting pass always ends, and never leaves the buffer. -/
theorem getInterfaceNumber_comes (buffer : List UInt8) : Comes (getInterfaceNumber buffer) (.ret (interfacesOf buffer)) := by
  have whole := getInterfaceNumber_from [] (Nat.zero_le buffer.length) (Nat.sub_le _ _)
  rw [Nat.sub_zero, drop_zero] at whole
  exact whole

end

/-- Where the parser is: the position, the endpoints that are still expected, the selected interface, and how many
    alternate settings are free in each. -/
structure Walk where
  pos : Nat
  need : Nat
  selected : Option Nat
  room : List Nat

/-- The interface a descriptor at `pos` selects. -/
def selection (buffer : List UInt8) (counted : List Counted) (pos : Nat) (selected : Option Nat) : Option Nat :=
  (counted.findIdx? (fun c => c.nIntf = field buffer (pos + 2))).or selected

/-- An interface descriptor, or an endpoint descriptor that is not expected, with `size` bytes left. -/
def Walk.enter (buffer : List UInt8) (counted : List Counted) (w : Walk) (size : Nat) : Walk ⊕ Fate :=
  let selected := selection buffer counted w.pos w.selected
  if counted = [] then .inr .ends
  -- The interface number is behind the end.
  else if size < 3 then .inr .leaves
  -- Too few bytes for an interface: nothing is consumed, and the loop comes back to the same place.
  else if size < usbDdkDtInterfaceSize then .inr .stalls
  -- The descriptor is copied to an alternate setting that was not allocated.
  else if w.room.getD (selected.getD 0) 0 = 0 then .inr .leaves
  else if field buffer (w.pos + 1) ≠ usbDdkDtInterface ∨ size < field buffer w.pos then .inr .stalls
  else if field buffer w.pos < usbDdkDtInterfaceSize ∨ usbMaxEndpoints < field buffer (w.pos + 4) then .inr .ends
  else .inl ⟨w.pos + field buffer w.pos, field buffer (w.pos + 4), selected, w.room.modify (selected.getD 0) (· - 1)⟩

def Walk.look (buffer : List UInt8) (counted : List Counted) (w : Walk) : Walk ⊕ Fate :=
  let size := buffer.length - w.pos
  let bLength := field buffer w.pos
  let bDescriptorType := field buffer (w.pos + 1)
  if size = 0 then .inr .ends
  -- A header that is not whole.
  else if size < descHeaderLength then .inr .leaves
  else if bDescriptorType ≠ usbDdkDtInterface ∧ bDescriptorType ≠ usbDdkDtEndpoint then
    if bLength = 0 then .inr .stalls
    else if size < bLength then .inr .leaves
    else .inl { w with pos := w.pos + bLength }
  else if bDescriptorType = usbDdkDtEndpoint ∧ 0 < w.need ∧ bLength ≤ size then
    if bLength < usbDdkDtEndpointSize then .inr .ends
    else .inl { w with pos := w.pos + bLength, need := w.need - 1 }
  else w.enter buffer counted size

/-- How the walk ends that starts at `w`. -/
inductive Walk.Fated (buffer : List UInt8) (counted : List Counted) : Walk → Fate → Prop
  | here {w : Walk} {fate : Fate} (is : w.look buffer counted = .inr fate) : Fated buffer counted w fate
  | next {w w' : Walk} {fate : Fate} (goes : w.look buffer counted = .inl w') (rest : Fated buffer counted w' fate) :
      Fated buffer counted w fate

/-- A place where `FindNextDescriptor` stops. -/
def Stop (buffer : List UInt8) (pos : Nat) : Prop :=
  pos = buffer.length ∨ (pos + 1 < buffer.length ∧
    (field buffer (pos + 1) = usbDdkDtInterface ∨ field buffer (pos + 1) = usbDdkDtEndpoint))

section
variable {buffer : List UInt8} {counted : List Counted} {w w' : Walk} {fate : Fate}

theorem Walk.enter_goes {size : Nat} (goes : w.enter buffer counted size = .inl w') :
    usbDdkDtInterfaceSize ≤ field buffer w.pos ∧ field buffer w.pos ≤ size ∧ w'.pos = w.pos + field buffer w.pos := by
  unfold enter at goes
  simp only at goes
  split at goes
  · cases goes
  · split at goes
    · cases goes
    · split at goes
      · cases goes
      · split at goes
        · cases goes
        · split at goes
          · cases goes
          · split at goes
            · cases goes
            · rename_i placed accepted
              rw [not_or] at placed accepted
              rw [← Sum.inl.inj goes]
              exact ⟨by omega, by omega, rfl⟩

theorem Walk.look_goes (goes : w.look buffer counted = .inl w') : w.pos < w'.pos ∧ w'.pos ≤ buffer.length := by
  unfold look at goes
  simp only at goes
  split at goes
  · cases goes
  · split at goes
    · cases goes
    · split at goes
      · split at goes
        · cases goes
        · split at goes
          · cases goes
          · rw [← Sum.inl.inj goes]
            simp only
            omega
      · split at goes
        · split at goes
          · cases goes
          · rename_i expected long
            rw [← Sum.inl.inj goes]
            unfold usbDdkDtEndpointSize at long
            simp only
            omega
        · obtain ⟨long, inside, is⟩ := enter_goes goes
          unfold usbDdkDtInterfaceSize at long
          omega

/-- Every walk ends in some way. -/
theorem Walk.exists_fated (buffer : List UInt8) (counted : List Counted) (n : Nat) (w : Walk)
    (left : buffer.length - w.pos ≤ n) : ∃ fate, Fated buffer counted w fate := by
  induction n generalizing w with
  | zero =>
    have ended : w.look buffer counted = .inr .ends := if_pos (by omega)
    exact ⟨_, .here ended⟩
  | succ n ih =>
    cases is : w.look buffer counted with
    | inr fate => exact ⟨fate, .here is⟩
    | inl w' =>
      have forward := look_goes is
      obtain ⟨fate, fated⟩ := ih w' (by omega)
      exact ⟨fate, .next is fated⟩

theorem Walk.Fated.inv (fated : Fated buffer counted w fate) :
    w.look buffer counted = .inr fate ∨ ∃ w', w.look buffer counted = .inl w' ∧ Fated buffer counted w' fate := by
  cases fated with
  | here is => exact .inl is
  | next goes rest => exact .inr ⟨_, goes, rest⟩

theorem Walk.Fated.of_look (fated : Fated buffer counted w fate) (same : w'.look buffer counted = w.look buffer counted) :
    Fated buffer counted w' fate := by
  rcases fated.inv with is | ⟨v, goes, rest⟩
  · exact .here (same.trans is)
  · exact .next (same.trans goes) rest

theorem Walk.Fated.of_inr {fate' : Fate} (fated : Fated buffer counted w fate)
    (is : w.look buffer counted = .inr fate') : fate = fate' := by
  rcases fated.inv with here | ⟨v, goes, _⟩
  · exact Sum.inr.inj (here.symm.trans is)
  · rw [is] at goes
    cases goes

theorem Walk.Fated.of_inl (fated : Fated buffer counted w fate) (is : w.look buffer counted = .inl w') :
    Fated buffer counted w' fate := by
  rcases fated.inv with here | ⟨v, goes, rest⟩
  · rw [is] at here
    cases here
  · rw [is] at goes
    cases goes
    exact rest

theorem Walk.look_skips (inside : w.pos ≤ buffer.length) (moving : ¬ Stop buffer w.pos) :
    w.look buffer counted =
      if buffer.length - w.pos < descHeaderLength then .inr .leaves
      else if field buffer w.pos = 0 then .inr .stalls
      else if buffer.length - w.pos < field buffer w.pos then .inr .leaves
      else .inl { w with pos := w.pos + field buffer w.pos } := by
  unfold Stop at moving
  rw [not_or] at moving
  unfold look
  simp only
  rw [if_neg (show ¬ buffer.length - w.pos = 0 by omega)]
  by_cases short : buffer.length - w.pos < descHeaderLength
  · rw [if_pos short, if_pos short]
  · have other : field buffer (w.pos + 1) ≠ usbDdkDtInterface ∧ field buffer (w.pos + 1) ≠ usbDdkDtEndpoint := by
      have behind := moving.2
      unfold descHeaderLength at short
      rw [not_and, not_or] at behind
      exact behind (by omega)
    rw [if_neg short, if_neg short, if_pos other]

theorem findNextDescriptor_stops {pos : Nat} (stop : Stop buffer pos) :
    Comes (fun fuel => findNextDescriptor buffer fuel pos (buffer.length - pos)) (.ret pos) := by
  apply comes_iterate_break
  rcases stop with ended | ⟨inside, type⟩
  · simp only [skipDescriptor, ended, Nat.sub_self, gt_iff_lt, Nat.lt_irrefl, if_false, pure_eq]
    exact const _
  · simp only [skipDescriptor, if_pos (show buffer.length - pos > 0 by omega), byteAt_inside inside, ret_bind,
      if_pos type, pure_eq]
    exact const _

theorem skipDescriptor_moves {pos : Nat} (inside : pos + 1 < buffer.length) (moving : ¬ Stop buffer pos) :
    skipDescriptor buffer (pos, buffer.length - pos) =
      .ret (.inl (pos + field buffer pos, subSize (buffer.length - pos) (field buffer pos))) := by
  have other : ¬ (field buffer (pos + 1) = usbDdkDtInterface ∨ field buffer (pos + 1) = usbDdkDtEndpoint) :=
    fun type => moving (.inr ⟨inside, type⟩)
  simp only [skipDescriptor, if_pos (show buffer.length - pos > 0 by omega), byteAt_inside inside,
    byteAt_inside (show pos < buffer.length by omega), ret_bind, if_neg other, pure_eq]

theorem findNextDescriptor_follows {w : Walk} (fated : w.Fated buffer counted fate) (inside : w.pos ≤ buffer.length) :
    Follows (fun fuel => findNextDescriptor buffer fuel w.pos (buffer.length - w.pos)) fate
      (fun q => w.pos ≤ q ∧ q ≤ buffer.length ∧ Stop buffer q ∧ Walk.Fated buffer counted { w with pos := q } fate) := by
  by_cases stop : Stop buffer w.pos
  · exact ⟨.ret w.pos, findNextDescriptor_stops stop, Nat.le_refl _, inside, stop, fated⟩
  · have look : w.look buffer counted = _ := Walk.look_skips inside stop
    have left : w.pos < buffer.length := by
      by_contra all
      exact stop (.inl (by omega))
    by_cases short : buffer.length - w.pos < descHeaderLength
    · rw [if_pos short] at look
      unfold descHeaderLength at short
      refine ⟨.fault, ?_, fated.of_inr look⟩
      have faults : skipDescriptor buffer (w.pos, buffer.length - w.pos) = .fault := by
        simp only [skipDescriptor, if_pos (show buffer.length - w.pos > 0 by omega),
          byteAt_outside (show buffer.length ≤ w.pos + 1 by omega), fault_bind]
      exact comes_iterate (by simp only [faults]; exact const _) (const _)
    · rw [if_neg short] at look
      unfold descHeaderLength at short
      have moves := skipDescriptor_moves (show w.pos + 1 < buffer.length by omega) stop
      by_cases zero : field buffer w.pos = 0
      · rw [if_pos zero] at look
        rw [zero, Nat.add_zero, subSize, if_pos (Nat.zero_le _), Nat.sub_zero] at moves
        exact ⟨.stuck, comes_iterate_same (by simp only [moves]; exact const _), fated.of_inr look⟩
      · rw [if_neg zero] at look
        by_cases long : buffer.length - w.pos < field buffer w.pos
        · -- The size wraps, and the next header is read behind the end.
          rw [if_pos long] at look
          have byte := field_lt buffer w.pos
          have faults : skipDescriptor buffer (w.pos + field buffer w.pos,
              subSize (buffer.length - w.pos) (field buffer w.pos)) = .fault := by
            have positive : subSize (buffer.length - w.pos) (field buffer w.pos) > 0 := by
              unfold subSize
              rw [if_neg (by omega)]
              omega
            simp only [skipDescriptor, if_pos positive,
              byteAt_outside (show buffer.length ≤ w.pos + field buffer w.pos + 1 by omega), fault_bind]
          exact ⟨.fault, comes_iterate_next (by simp only [moves]; exact const _)
            (comes_iterate (by simp only [faults]; exact const _) (const _)), fated.of_inr look⟩
        · rw [if_neg long] at look
          have rest :=
            findNextDescriptor_follows (fated.of_inl look) (show w.pos + field buffer w.pos ≤ buffer.length by omega)
          obtain ⟨o, comes, meets⟩ := rest.mono (fun q ⟨forward, upto, stopped, fated'⟩ =>
            (⟨by simp only at forward; omega, upto, stopped, fated'⟩ : w.pos ≤ q ∧ q ≤ buffer.length ∧ Stop buffer q ∧
              Walk.Fated buffer counted { w with pos := q } fate))
          rw [subSize, if_pos (by omega), Nat.sub_sub] at moves
          exact ⟨o, comes_iterate_next (by simp only [moves]; exact const _) comes, meets⟩
termination_by buffer.length - w.pos
decreasing_by omega

theorem parseExtra_follows (fated : w.Fated buffer counted fate) (inside : w.pos ≤ buffer.length) :
    Follows (fun fuel => parseExtra buffer fuel w.pos (buffer.length - w.pos)) fate
      (fun r => w.pos ≤ r.2 ∧ r.2 ≤ buffer.length ∧ Stop buffer r.2 ∧
        Walk.Fated buffer counted { w with pos := r.2 } fate) := by
  refine (findNextDescriptor_follows fated inside).bind ?_
  rintro q ⟨forward, upto, stop, fated'⟩
  apply of_const
  rw [bytesAt_inside (by omega)]
  exact ⟨forward, upto, stop, fated'⟩

/-- A stopped walk that does not expect the endpoint it meets, or that meets an interface. -/
def Surplus (buffer : List UInt8) (w : Walk) : Prop :=
  w.pos ≠ buffer.length ∧ ¬ (field buffer (w.pos + 1) = usbDdkDtEndpoint ∧ 0 < w.need ∧
    field buffer w.pos ≤ buffer.length - w.pos)

theorem Walk.look_surplus (stop : Stop buffer w.pos) (surplus : Surplus buffer w) :
    w.look buffer counted = w.enter buffer counted (buffer.length - w.pos) := by
  obtain ⟨left, unexpected⟩ := surplus
  obtain ⟨inside, type⟩ := stop.resolve_left left
  unfold look
  simp only
  rw [if_neg (show ¬ buffer.length - w.pos = 0 by omega),
    if_neg (show ¬ buffer.length - w.pos < descHeaderLength by unfold descHeaderLength; omega),
    if_neg (show ¬ (field buffer (w.pos + 1) ≠ usbDdkDtInterface ∧ field buffer (w.pos + 1) ≠ usbDdkDtEndpoint) by tauto),
    if_neg unexpected]

theorem Walk.look_expected (stop : Stop buffer w.pos) (left : w.pos ≠ buffer.length)
    (expected : field buffer (w.pos + 1) = usbDdkDtEndpoint ∧ 0 < w.need ∧ field buffer w.pos ≤ buffer.length - w.pos) :
    w.look buffer counted = if field buffer w.pos < usbDdkDtEndpointSize then .inr .ends
      else .inl { w with pos := w.pos + field buffer w.pos, need := w.need - 1 } := by
  obtain ⟨inside, type⟩ := stop.resolve_left left
  unfold look
  simp only
  rw [if_neg (show ¬ buffer.length - w.pos = 0 by omega),
    if_neg (show ¬ buffer.length - w.pos < descHeaderLength by unfold descHeaderLength; omega),
    if_neg (show ¬ (field buffer (w.pos + 1) ≠ usbDdkDtInterface ∧ field buffer (w.pos + 1) ≠ usbDdkDtEndpoint) by tauto),
    if_pos expected]

theorem Walk.Fated.forget_need (fated : w.Fated buffer counted fate) (stop : Stop buffer w.pos)
    (surplus : Surplus buffer w) : Walk.Fated buffer counted { w with need := 0 } fate := by
  apply fated.of_look
  have none : Surplus buffer { w with need := 0 } := ⟨surplus.1, by simp⟩
  rw [look_surplus stop surplus]
  exact look_surplus (by exact stop) none

theorem parseEndpoint_follows (fated : w.Fated buffer counted fate)
    (stop : Stop buffer w.pos) (expects : 0 < w.need) :
    Follows (fun fuel => parseEndpoint buffer fuel w.pos (buffer.length - w.pos)) fate (fun
      | none => Surplus buffer w
      | some (_, q) => w.pos < q ∧ q ≤ buffer.length ∧ Stop buffer q ∧
        Walk.Fated buffer counted { w with pos := q, need := w.need - 1 } fate) := by
  unfold parseEndpoint
  by_cases ended : w.pos = buffer.length
  · have look : w.look buffer counted = .inr .ends := if_pos (by omega)
    simp only [if_pos (show buffer.length - w.pos < descHeaderLength by unfold descHeaderLength; omega)]
    exact of_const (fated.of_inr look)
  · obtain ⟨inside, type⟩ := stop.resolve_left ended
    simp only [if_neg (show ¬ buffer.length - w.pos < descHeaderLength by unfold descHeaderLength; omega),
      byteAt_inside inside, byteAt_inside (show w.pos < buffer.length by omega), ret_bind, pure_eq]
    by_cases expected : field buffer (w.pos + 1) = usbDdkDtEndpoint ∧ field buffer w.pos ≤ buffer.length - w.pos
    · simp only [if_neg (show ¬ (field buffer (w.pos + 1) ≠ usbDdkDtEndpoint ∨
        field buffer w.pos > buffer.length - w.pos) by rw [not_or]; exact ⟨by simp [expected.1], by omega⟩)]
      have look : w.look buffer counted = _ := Walk.look_expected stop ended ⟨expected.1, expects, expected.2⟩
      by_cases short : field buffer w.pos < usbDdkDtEndpointSize
      · rw [if_pos short] at look
        simp only [if_pos short]
        exact of_const (fated.of_inr look)
      · rw [if_neg short] at look
        simp only [if_neg short]
        unfold usbDdkDtEndpointSize at short
        have copied : ∃ d, parseEndpointDescriptor buffer w.pos (field buffer w.pos) = .ret d := by
          unfold parseEndpointDescriptor usbDdkDtEndpointAudioSize usbDdkDtEndpointSize
          by_cases audio : field buffer w.pos ≥ 9
          · rw [if_pos audio, bytesAt_inside (by omega)]
            exact ⟨_, rfl⟩
          · rw [if_neg audio, bytesAt_inside (by omega)]
            exact ⟨_, rfl⟩
        obtain ⟨d, copied⟩ := copied
        simp only [copied, ret_bind, Nat.sub_sub]
        have extra := parseExtra_follows (fated.of_inl look)
          (show w.pos + field buffer w.pos ≤ buffer.length by omega)
        refine extra.bind ?_
        rintro ⟨bytes, q⟩ ⟨forward, upto', stop', fated'⟩
        exact of_const ⟨by simp only at forward; omega, upto', stop', fated'⟩
    · simp only [if_pos (show field buffer (w.pos + 1) ≠ usbDdkDtEndpoint ∨
        field buffer w.pos > buffer.length - w.pos by
          by_contra neither
          rw [not_or] at neither
          exact expected ⟨not_not.mp neither.1, by omega⟩)]
      exact of_const ⟨ended, fun all => expected ⟨all.1, all.2.2⟩⟩

theorem parseEndpoints_follows {w : Walk} (endPoint : List RawEndpoint) (fated : w.Fated buffer counted fate)
    (upto : w.pos ≤ buffer.length) (stop : Stop buffer w.pos) (remaining : Nat) (expects : w.need = remaining) :
    Follows (fun fuel => parseEndpoints buffer fuel w.pos (buffer.length - w.pos) endPoint remaining) fate
      (fun r => w.pos ≤ r.2.1 ∧ r.2.1 ≤ buffer.length ∧ r.2.2 = buffer.length - r.2.1 ∧ Stop buffer r.2.1 ∧
        Walk.Fated buffer counted { w with pos := r.2.1, need := 0 } fate) := by
  induction remaining generalizing w endPoint with
  | zero =>
    apply of_const
    refine ⟨Nat.le_refl _, upto, rfl, stop, ?_⟩
    rw [← expects]
    exact fated
  | succ remaining ih =>
    simp only [parseEndpoints]
    refine (parseEndpoint_follows fated stop (by omega)).bind ?_
    intro result meets
    cases result with
    | none => exact of_const ⟨Nat.le_refl _, upto, rfl, stop, fated.forget_need stop meets⟩
    | some parsed =>
      obtain ⟨e, q⟩ := parsed
      obtain ⟨forward, upto', stop', fated'⟩ := meets
      have size : buffer.length - w.pos - (q - w.pos) = buffer.length - q := by omega
      simp only [size]
      refine (ih (endPoint ++ [e]) fated' upto' stop' (by simp only; omega)).mono ?_
      rintro r ⟨forward', upto'', size', stop'', fated''⟩
      exact ⟨by simp only at forward'; omega, upto'', size', stop'', fated''⟩

theorem parseAltsetting_follows {descriptor : List UInt8} {pos : Nat} (fated : w.Fated buffer counted fate)
    (upto : w.pos ≤ buffer.length) (is : w.pos = pos + field descriptor 0) (expects : w.need = field descriptor 4) :
    Follows (fun fuel => parseAltsetting buffer fuel pos (buffer.length - pos) descriptor) fate
      (fun r => w.pos ≤ r.2.1 ∧ r.2.1 ≤ buffer.length ∧ r.2.2 = buffer.length - r.2.1 ∧ Stop buffer r.2.1 ∧
        Walk.Fated buffer counted { w with pos := r.2.1, need := 0 } fate) := by
  unfold parseAltsetting
  simp only [Nat.sub_sub, ← is]
  refine (parseExtra_follows fated upto).bind ?_
  rintro ⟨extra, q⟩ ⟨forward, upto', stop, fated'⟩
  simp only at forward upto' stop fated'
  have size : buffer.length - (pos + (q - pos)) = buffer.length - q := by omega
  simp only [size]
  refine (parseEndpoints_follows [] fated' upto' stop (field descriptor 4) expects).bind ?_
  rintro ⟨endPoint, r, left⟩ ⟨forward', upto'', size', stop', fated''⟩
  exact of_const ⟨Nat.le_trans forward forward', upto'', size', stop', fated''⟩

theorem selection_again (buffer : List UInt8) (counted : List Counted) (pos : Nat) (selected : Option Nat) :
    selection buffer counted pos (selection buffer counted pos selected) = selection buffer counted pos selected := by
  unfold selection
  cases counted.findIdx? _ <;> rfl

theorem selection_same {pos q i : Nat} {selected : Option Nat} (same : field buffer (q + 2) = field buffer (pos + 2))
    (selects : selection buffer counted pos selected = some i) : selection buffer counted q (some i) = some i := by
  unfold selection at selects ⊢
  simp only [same]
  cases found : counted.findIdx? (fun c => c.nIntf = field buffer (pos + 2)) with
  | none => rfl
  | some j =>
    rw [found] at selects
    exact selects

/-- A walk at an interface descriptor, or where there should be one, with the interface it selects. -/
structure Entering (buffer : List UInt8) (counted : List Counted) (w : Walk) (i : Nat) : Prop where
  stop : Stop buffer w.pos
  left : w.pos + 3 ≤ buffer.length
  idle : w.need = 0
  some_ : counted ≠ []
  selects : selection buffer counted w.pos w.selected = some i

theorem Entering.look {i : Nat} (entering : Entering buffer counted w i) : w.look buffer counted =
      if buffer.length - w.pos < usbDdkDtInterfaceSize then .inr .stalls else if w.room.getD i 0 = 0 then .inr .leaves
      else if field buffer (w.pos + 1) ≠ usbDdkDtInterface ∨ buffer.length - w.pos < field buffer w.pos then .inr .stalls
      else if field buffer w.pos < usbDdkDtInterfaceSize ∨ usbMaxEndpoints < field buffer (w.pos + 4) then .inr .ends
      else .inl ⟨w.pos + field buffer w.pos, field buffer (w.pos + 4), some i, w.room.modify i (· - 1)⟩ := by
  have left := entering.left
  have surplus : Surplus buffer w := ⟨by omega, by simp [entering.idle]⟩
  rw [Walk.look_surplus entering.stop surplus, Walk.enter]
  simp only [entering.selects, Option.getD_some]
  rw [if_neg entering.some_, if_neg (show ¬ buffer.length - w.pos < 3 by omega)]

/-- A walk that has come further, with the alternate settings of the interface `i` counted again. -/
structure Further (buffer : List UInt8) (counted : List Counted) (w w' : Walk) (i : Nat) (x x' : RawInterface)
    (fate : Fate) : Prop where
  forward : w.pos < w'.pos
  upto : w'.pos ≤ buffer.length
  stop : Stop buffer w'.pos
  idle : w'.need = 0
  selected : w'.selected = some i
  room : w'.room = w.room.set i (x'.allocated - x'.altsetting.length)
  below : x'.altsetting.length ≤ x'.allocated
  allocated : x'.allocated = x.allocated
  fated : Walk.Fated buffer counted w' fate

theorem Further.trans {w'' : Walk} {i : Nat} {x x' x'' : RawInterface} (first : Further buffer counted w w' i x x' fate)
    (second : Further buffer counted w' w'' i x' x'' fate) : Further buffer counted w w'' i x x'' fate :=
  { second with
    forward := Nat.lt_trans first.forward second.forward
    room := by rw [second.room, first.room, set_set]
    allocated := second.allocated.trans first.allocated }

theorem Further.altsetting {i q : Nat} {x : RawInterface} (free : w.room[i]? = some (x.allocated - x.altsetting.length))
    (some_ : x.allocated - x.altsetting.length ≠ 0) (forward : w.pos < q) (upto : q ≤ buffer.length) (stop : Stop buffer q)
    (fated : Walk.Fated buffer counted ⟨q, 0, some i, w.room.modify i (· - 1)⟩ fate) (parsed : RawAltsetting) :
    Further buffer counted w ⟨q, 0, some i, w.room.modify i (· - 1)⟩ i x
      { x with altsetting := x.altsetting ++ [parsed] } fate := by
  refine ⟨forward, upto, stop, rfl, rfl, ?_, ?_, rfl, fated⟩
  · rw [modify_eq_set_getElem?, free]
    simp only [length_append, length_singleton, Option.map_eq_map, Option.map_some, Option.getD_some, Nat.sub_sub]
  · simp only [length_append, length_singleton]
    omega

/-- Where the parser of an interface leaves the walk: it could not go on, or it has come further. -/
def Parsed (buffer : List UInt8) (counted : List Counted) (w : Walk) (i : Nat) (x : RawInterface) (fate : Fate)
    (r : Nat × RawInterface) : Prop :=
  (r = (w.pos, x) ∧ fate = .stalls) ∨ ∃ w', w'.pos = r.1 ∧ Further buffer counted w w' i x r.2 fate

theorem interfaceRound_follows {i : Nat} {x : RawInterface} {number : Option Nat} (fated : w.Fated buffer counted fate)
    (entering : Entering buffer counted w i) (free : w.room[i]? = some (x.allocated - x.altsetting.length))
    (numbered : number.getD (field buffer (w.pos + 2)) = field buffer (w.pos + 2)) :
    Follows (fun fuel => interfaceRound buffer fuel ⟨w.pos, buffer.length - w.pos, x, number⟩) fate (fun
      | .inr r => Parsed buffer counted w i x fate r
      | .inl s => ∃ w' x', s = ⟨w'.pos, buffer.length - w'.pos, x', some (field buffer (w'.pos + 2))⟩ ∧
        Further buffer counted w w' i x x' fate ∧ Entering buffer counted w' i) := by
  have look := entering.look
  have roomIs : w.room.getD i 0 = x.allocated - x.altsetting.length := by rw [getD_eq_getElem?_getD, free]; rfl
  rw [roomIs] at look
  unfold interfaceRound
  simp only
  by_cases short : buffer.length - w.pos < usbDdkDtInterfaceSize
  · rw [if_pos short] at look
    simp only [if_neg (show ¬ buffer.length - w.pos ≥ usbDdkDtInterfaceSize by omega)]
    exact of_const (.inl ⟨rfl, fated.of_inr look⟩)
  rw [if_neg short] at look
  simp only [if_pos (show buffer.length - w.pos ≥ usbDdkDtInterfaceSize by omega)]
  by_cases full : x.allocated - x.altsetting.length = 0
  · rw [if_pos full] at look
    simp only [if_pos (show x.altsetting.length ≥ x.allocated by omega)]
    exact of_const (fated.of_inr look)
  rw [if_neg full] at look
  have long : w.pos + 9 ≤ buffer.length := by unfold usbDdkDtInterfaceSize at short; omega
  have first : field ((buffer.drop w.pos).take usbDdkDtInterfaceSize) 0 = field buffer w.pos :=
    field_slice buffer w.pos (by decide)
  have type : field ((buffer.drop w.pos).take usbDdkDtInterfaceSize) 1 = field buffer (w.pos + 1) :=
    field_slice buffer w.pos (by decide)
  have numberIs : field ((buffer.drop w.pos).take usbDdkDtInterfaceSize) 2 = field buffer (w.pos + 2) :=
    field_slice buffer w.pos (by decide)
  have endpoints : field ((buffer.drop w.pos).take usbDdkDtInterfaceSize) 4 = field buffer (w.pos + 4) :=
    field_slice buffer w.pos (by decide)
  have copied : bytesAt buffer w.pos usbDdkDtInterfaceSize = .ret ((buffer.drop w.pos).take usbDdkDtInterfaceSize) :=
    bytesAt_inside long
  simp only [if_neg (show ¬ x.altsetting.length ≥ x.allocated by omega), copied, ret_bind, pure_eq]
  by_cases unexpected : field buffer (w.pos + 1) ≠ usbDdkDtInterface ∨ buffer.length - w.pos < field buffer w.pos
  · rw [if_pos unexpected] at look
    simp only [type, first, gt_iff_lt, if_pos unexpected]
    exact of_const (.inl ⟨rfl, fated.of_inr look⟩)
  rw [if_neg unexpected] at look
  by_cases refused : field buffer w.pos < usbDdkDtInterfaceSize ∨ usbMaxEndpoints < field buffer (w.pos + 4)
  · rw [if_pos refused] at look
    simp only [type, first, endpoints, gt_iff_lt, if_neg unexpected, if_pos refused]
    exact of_const (fated.of_inr look)
  rw [if_neg refused] at look
  simp only [type, first, endpoints, numberIs, gt_iff_lt, if_neg unexpected, if_neg refused, numbered]
  rw [not_or] at unexpected refused
  have altsetting : Follows (fun fuel => parseAltsetting buffer fuel w.pos (buffer.length - w.pos)
      ((buffer.drop w.pos).take usbDdkDtInterfaceSize)) fate _ :=
    parseAltsetting_follows (fated.of_inl look) (by simp only; omega) (by rw [first]) (by rw [endpoints])
  refine altsetting.bind ?_
  rintro ⟨parsed, q, left⟩ ⟨forward, upto, size, stop, fated'⟩
  simp only at forward upto size stop fated'
  subst size
  have nine : usbDdkDtInterfaceSize = 9 := rfl
  have further := Further.altsetting free full (by omega) upto stop fated' parsed
  by_cases few : buffer.length - q < usbDdkDtInterfaceSize
  · simp only [if_pos few]
    exact of_const (.inr ⟨_, rfl, further⟩)
  · have more : q + 9 ≤ buffer.length := by unfold usbDdkDtInterfaceSize at few; omega
    simp only [if_neg few, byteAt_inside (show q + 1 < buffer.length by omega),
      byteAt_inside (show q + 2 < buffer.length by omega), ret_bind]
    by_cases other : field buffer (q + 1) ≠ usbDdkDtInterface ∨ field buffer (q + 2) ≠ field buffer (w.pos + 2)
    · simp only [if_pos other]
      exact of_const (.inr ⟨_, rfl, further⟩)
    · simp only [if_neg other]
      rw [not_or, not_not, not_not] at other
      refine of_const ⟨_, _, ?_, further, stop, by simp only; omega, rfl, entering.some_,
        selection_same other.2 entering.selects⟩
      rw [← other.2]

theorem Further.room_get {i : Nat} {x x' : RawInterface} (further : Further buffer counted w w' i x x' fate) {n : Nat}
    (there : w.room[i]? = some n) : w'.room[i]? = some (x'.allocated - x'.altsetting.length) := by
  rw [further.room, List.getElem?_set_self (List.getElem?_eq_some_iff.mp there).1]

theorem interfaceRounds_follow {w : Walk} {i : Nat} {x : RawInterface} {number : Option Nat}
    (fated : w.Fated buffer counted fate) (entering : Entering buffer counted w i)
    (free : w.room[i]? = some (x.allocated - x.altsetting.length))
    (numbered : number.getD (field buffer (w.pos + 2)) = field buffer (w.pos + 2)) :
    Follows (fun fuel => iterate (interfaceRound buffer) fuel ⟨w.pos, buffer.length - w.pos, x, number⟩) fate
      (Parsed buffer counted w i x fate) := by
  refine (interfaceRound_follows fated entering free numbered).iterate ?_ (fun r parsed => parsed)
  rintro s ⟨w', x', rfl, further, entering'⟩
  have forward := further.forward
  have upto := further.upto
  refine (interfaceRounds_follow further.fated entering' (further.room_get free) rfl).mono ?_
  rintro r (⟨rfl, stalls⟩ | ⟨w'', is, further'⟩)
  · exact .inr ⟨w', rfl, further⟩
  · exact .inr ⟨w'', is, further.trans further'⟩
termination_by buffer.length - w.pos
decreasing_by omega

structure InStep (buffer : List UInt8) (counted : List Counted) (s : ConfigLoop) (w : Walk) : Prop where
  pos : s.pos = w.pos
  size : s.size = buffer.length - w.pos
  upto : w.pos ≤ buffer.length
  stop : Stop buffer w.pos
  idle : w.need = 0
  selected : s.selected = w.selected
  room : w.room = s.interface.map fun x => x.allocated - x.altsetting.length
  below : ∀ x ∈ s.interface, x.altsetting.length ≤ x.allocated ∧ x.allocated ≤ usbMaxAltsetting
  length : s.interface.length = counted.length
  points : ∀ i, w.selected = some i → i < counted.length
  null : w.selected = none → counted = []

theorem selectInterface_eq {pos : Nat} {selected : Option Nat} (some_ : counted ≠ []) :
    selectInterface buffer counted pos selected =
      if pos + 2 < buffer.length then .ret (selection buffer counted pos selected) else .fault := by
  unfold selectInterface selection
  rw [if_neg some_]
  by_cases inside : pos + 2 < buffer.length
  · rw [byteAt_inside inside, if_pos inside]
    rfl
  · rw [byteAt_outside (by omega), if_neg inside]
    rfl

theorem InStep.selects {s : ConfigLoop} (inStep : InStep buffer counted s w) (some_ : counted ≠ []) :
    ∃ i x, selection buffer counted w.pos w.selected = some i ∧ s.interface[i]? = some x := by
  have inside : ∀ i < counted.length, ∃ x, s.interface[i]? = some x := by
    intro i below
    exact ⟨_, getElem?_eq_getElem (by rw [inStep.length]; exact below)⟩
  unfold selection
  cases found : counted.findIdx? (fun c => c.nIntf = field buffer (w.pos + 2)) with
  | some i =>
    obtain ⟨x, there⟩ := inside i (findIdx?_eq_some_iff_findIdx_eq.mp found).1
    exact ⟨i, x, rfl, there⟩
  | none =>
    cases selected : w.selected with
    | none => exact absurd (inStep.null selected) some_
    | some i =>
      obtain ⟨x, there⟩ := inside i (inStep.points i selected)
      exact ⟨i, x, rfl, there⟩

theorem configRound_comes {s : ConfigLoop} {i : Nat} {x : RawInterface} {o : Outcome HdfError (Nat × RawInterface)}
    (left : 0 < s.size) (selects : selectInterface buffer counted s.pos s.selected = .ret (some i))
    (there : s.interface[i]? = some x) (below : x.altsetting.length ≤ usbMaxAltsetting)
    (comes : Comes (fun fuel => iterate (interfaceRound buffer) fuel ⟨s.pos, s.size, x, none⟩) o) :
    Comes (fun fuel => configRound buffer counted fuel s) (o >>= fun r =>
      .ret (.inl ⟨r.1, s.size - (r.1 - s.pos), s.interface.set i r.2, some i⟩)) := by
  have parses : ∀ fuel, parseInterface buffer fuel (some x) s.pos s.size =
      iterate (interfaceRound buffer) fuel ⟨s.pos, s.size, x, none⟩ := fun fuel => if_neg (by omega)
  simp only [configRound, if_pos left, selects, ret_bind, Option.bind_some, there, parses, pure_eq]
  exact comes.map

theorem InStep.further {s : ConfigLoop} {i : Nat} {x : RawInterface} {r : Nat × RawInterface}
    (inStep : InStep buffer counted s w) (there : s.interface[i]? = some x) (is : w'.pos = r.1)
    (further : Further buffer counted w w' i x r.2 fate) :
    InStep buffer counted ⟨r.1, s.size - (r.1 - s.pos), s.interface.set i r.2, some i⟩ w' := by
  have inside := (List.getElem?_eq_some_iff.mp there).1
  have forward := further.forward
  refine ⟨is.symm, ?_, further.upto, further.stop, further.idle, further.selected.symm, ?_, ?_, ?_, ?_, ?_⟩
  · simp only [inStep.size, inStep.pos]
    omega
  · rw [further.room, inStep.room, List.map_set]
  · intro y member
    rcases mem_or_eq_of_mem_set member with before | rfl
    · exact inStep.below y before
    · exact ⟨further.below, by rw [further.allocated]; exact (inStep.below x (mem_of_getElem? there)).2⟩
  · rw [length_set, inStep.length]
  · intro j selected
    rw [further.selected] at selected
    cases selected
    rw [← inStep.length]
    exact inside
  · intro null
    rw [further.selected] at null
    cases null

theorem configRounds_follow {w : Walk} {s : ConfigLoop} (fated : w.Fated buffer counted fate)
    (inStep : InStep buffer counted s w) :
    Follows (fun fuel => iterate (configRound buffer counted) fuel s) fate (fun _ => fate = .ends) := by
  have upto := inStep.upto
  by_cases ended : w.pos = buffer.length
  · have look : w.look buffer counted = .inr .ends := if_pos (by omega)
    have breaks : ∀ fuel, configRound buffer counted fuel s = .ret (.inr (s.size, s.interface)) := by
      intro fuel
      simp only [configRound, if_neg (show ¬ s.size > 0 by rw [inStep.size]; omega), pure_eq]
    exact ⟨_, comes_iterate_break (by simp only [breaks]; exact const _), fated.of_inr look⟩
  have left : 0 < s.size := by rw [inStep.size]; omega
  have look : w.look buffer counted = _ := Walk.look_surplus inStep.stop ⟨ended, by simp [inStep.idle]⟩
  by_cases empty : counted = []
  · have ends : w.look buffer counted = .inr .ends := by rw [look, Walk.enter]; exact if_pos empty
    have null : s.selected = none := by
      cases selected : w.selected with
      | none => rw [inStep.selected, selected]
      | some i => exact absurd (inStep.points i selected) (by simp [empty])
    have refuses : ∀ fuel, configRound buffer counted fuel s = .error .devErrNorange := by
      intro fuel
      simp only [configRound, if_pos left, selectInterface, if_pos empty, null, pure_eq, ret_bind,
        Option.bind_none, parseInterface, error_bind]
    exact ⟨.error .devErrNorange, comes_iterate (by simp only [refuses]; exact const _) (const _),
      fated.of_inr ends⟩
  by_cases short : w.pos + 2 < buffer.length
  · obtain ⟨i, x, selects, there⟩ := inStep.selects empty
    have select : ∀ selected, selection buffer counted w.pos selected = some i →
        selectInterface buffer counted s.pos selected = .ret (some i) := by
      intro selected is
      rw [inStep.pos, selectInterface_eq empty, if_pos short, is]
    have entering : Entering buffer counted w i := ⟨inStep.stop, by omega, inStep.idle, empty, selects⟩
    have free : w.room[i]? = some (x.allocated - x.altsetting.length) := by
      rw [inStep.room, getElem?_map, there]
      rfl
    have below := inStep.below x (mem_of_getElem? there)
    have parses : Follows (fun fuel => iterate (interfaceRound buffer) fuel ⟨w.pos, buffer.length - w.pos, x, none⟩) fate
        _ := interfaceRounds_follow fated entering free rfl
    obtain ⟨o, comes, meets⟩ := parses
    rw [← inStep.size, ← inStep.pos] at comes
    have round := configRound_comes left (by rw [inStep.selected]; exact select _ selects) there (by omega) comes
    cases o with
    | error e => exact ⟨.error e, comes_iterate round (const _), meets⟩
    | fault => exact ⟨.fault, comes_iterate round (const _), meets⟩
    | stuck => exact ⟨.stuck, comes_iterate round (const _), meets⟩
    | ret r =>
      rcases meets with ⟨rfl, stalls⟩ | ⟨w', is, further⟩
      · -- Nothing was consumed: the next round comes back to the state it starts from.
        have kept : s.interface.set i x = s.interface := by
          obtain ⟨inside, is⟩ := List.getElem?_eq_some_iff.mp there
          rw [← is]
          exact set_getElem_self inside
        have again := selection_again buffer counted w.pos w.selected
        rw [selects] at again
        have round' := configRound_comes (s := ⟨s.pos, s.size, s.interface, some i⟩) left (select _ again) there
          (by omega) comes
        simp only [ret_bind, ← inStep.pos, Nat.sub_self, Nat.sub_zero, kept] at round round'
        exact ⟨.stuck, comes_iterate_next round (comes_iterate_same round'), stalls⟩
      · have forward := further.forward
        have upto' := further.upto
        obtain ⟨p, comes', meets'⟩ := configRounds_follow further.fated (inStep.further there is further)
        exact ⟨p, comes_iterate_next round comes', meets'⟩
  · have leaves : w.look buffer counted = .inr .leaves := by
      simp only [look, Walk.enter, if_neg empty, if_pos (show buffer.length - w.pos < 3 by omega)]
    have select : selectInterface buffer counted s.pos s.selected = .fault := by
      rw [inStep.pos, selectInterface_eq empty, if_neg short]
    have faults : ∀ fuel, configRound buffer counted fuel s = .fault := by
      intro fuel
      simp only [configRound, if_pos left, select, fault_bind]
    exact ⟨.fault, comes_iterate (by simp only [faults]; exact const _) (const _), fated.of_inr leaves⟩
termination_by buffer.length - w.pos
decreasing_by omega

end
def Refused (buffer : List UInt8) : Prop :=
  buffer.length < usbDdkDtConfigSize ∨ badHeader (buffer.take usbDdkDtConfigSize) buffer.length

instance (buffer : List UInt8) : Decidable (Refused buffer) := inferInstanceAs (Decidable (_ ∨ _))

/-- The walk behind the first descriptor: the interface counted last is selected, and all settings are free. -/
def firstWalk (buffer : List UInt8) : Walk :=
  ⟨field buffer 0, 0,
    if (interfacesOf buffer).length = 0 then none else some ((interfacesOf buffer).length - 1),
    (interfacesOf buffer).map fun c => (allocateInterface c).allocated⟩

/-- The places the parser comes to. -/
inductive Reached (buffer : List UInt8) : Walk → Prop
  | start : Reached buffer (firstWalk buffer)
  | next {w w' : Walk} (before : Reached buffer w) (goes : w.look buffer (interfacesOf buffer) = .inl w') :
      Reached buffer w'

section
variable {buffer : List UInt8} {fate : Fate}

theorem descToConfig_refused (refused : Refused buffer) (fuel : Nat) : descToConfig buffer fuel = .error .errIo := by
  unfold descToConfig parseConfiguration
  by_cases short : buffer.length < usbDdkDtConfigSize
  · rw [if_pos short]
  · have copied : bytesAt buffer 0 usbDdkDtConfigSize = .ret (buffer.take usbDdkDtConfigSize) := by
      rw [bytesAt_inside (by omega), drop_zero]
    rw [if_neg short, copied]
    simp only [ret_bind, if_pos (refused.resolve_left short)]

theorem allocateInterface_small (c : Counted) : (allocateInterface c).allocated ≤ usbMaxAltsetting := by
  unfold allocateInterface
  simp only
  split
  · exact Nat.le_refl _
  · omega

theorem inStep_first {q : Nat} (upto : q ≤ buffer.length) (stop : Stop buffer q) :
    InStep buffer (interfacesOf buffer) ⟨q, buffer.length - q, (interfacesOf buffer).map allocateInterface,
      if (interfacesOf buffer).length = 0 then none else some ((interfacesOf buffer).length - 1)⟩
      { firstWalk buffer with pos := q } := by
  refine ⟨rfl, rfl, upto, stop, rfl, rfl, ?_, ?_, by simp, ?_, ?_⟩
  · simp only [firstWalk, map_map]
    rfl
  · intro x member
    obtain ⟨c, _, rfl⟩ := mem_map.mp member
    exact ⟨Nat.zero_le _, allocateInterface_small c⟩
  · intro i selected
    simp only [firstWalk] at selected
    split at selected
    · cases selected
    · cases selected
      omega
  · intro null
    simp only [firstWalk] at null
    split at null
    · exact length_eq_zero_iff.mp (by assumption)
    · cases null

theorem descToConfig_follows (accepted : ¬ Refused buffer)
    (fated : (firstWalk buffer).Fated buffer (interfacesOf buffer) fate) :
    Follows (descToConfig buffer) fate (fun _ => fate = .ends) := by
  unfold Refused at accepted
  rw [not_or] at accepted
  obtain ⟨long, header⟩ := accepted
  have copied : bytesAt buffer 0 usbDdkDtConfigSize = .ret (buffer.take usbDdkDtConfigSize) := by
    rw [bytesAt_inside (by omega), drop_zero]
  have first : field (buffer.take usbDdkDtConfigSize) 0 = field buffer 0 :=
    field_slice buffer 0 (n := usbDdkDtConfigSize) (by decide)
  have inside : field buffer 0 ≤ buffer.length := by
    have good := header
    simp only [badHeader, Bool.or_eq_true, decide_eq_true_eq, not_or, first] at good
    omega
  have start : ∀ fuel, descToConfig buffer fuel = getInterfaceNumber buffer fuel >>= fun counted =>
      parseConfigurationDes buffer counted fuel (field buffer 0) (buffer.length - field buffer 0)
        ((buffer.take usbDdkDtConfigSize).set 4 (UInt8.ofNat counted.length)) := by
    intro fuel
    simp only [descToConfig, parseConfiguration, if_neg long, copied, ret_bind, if_neg header, first]
  have counts : Follows (getInterfaceNumber buffer) fate (fun counted => counted = interfacesOf buffer) :=
    ⟨_, getInterfaceNumber_comes buffer, rfl⟩
  rw [show descToConfig buffer = _ from funext start]
  refine counts.bind ?_
  rintro counted rfl
  unfold parseConfigurationDes
  refine (parseExtra_follows fated inside).bind ?_
  rintro ⟨extra, q⟩ ⟨forward, upto, stop, fated'⟩
  simp only at forward upto stop fated'
  have size : buffer.length - field buffer 0 - (q - field buffer 0) = buffer.length - q := by
    have pos : (firstWalk buffer).pos = field buffer 0 := rfl
    omega
  simp only [size]
  refine (configRounds_follow fated' (inStep_first upto stop)).bind ?_
  rintro ⟨left, interface⟩ ends
  exact of_const ends

theorem Walk.Fated.reached {w : Walk} (fated : w.Fated buffer (interfacesOf buffer) fate) (reached : Reached buffer w) :
    ∃ w', Reached buffer w' ∧ w'.look buffer (interfacesOf buffer) = .inr fate := by
  induction fated with
  | here is => exact ⟨_, reached, is⟩
  | next goes _ ih => exact ih (.next reached goes)

theorem Reached.fated {w : Walk} (reached : Reached buffer w)
    (fated : (firstWalk buffer).Fated buffer (interfacesOf buffer) fate) : w.Fated buffer (interfacesOf buffer) fate := by
  induction reached with
  | start => exact fated
  | next _ goes ih => exact ih.of_inl goes

theorem fate_iff_reached (fated : (firstWalk buffer).Fated buffer (interfacesOf buffer) fate) (fate' : Fate) :
    fate = fate' ↔ ∃ w, Reached buffer w ∧ w.look buffer (interfacesOf buffer) = .inr fate' := by
  constructor
  · rintro rfl
    exact fated.reached .start
  · rintro ⟨w, reached, is⟩
    exact (reached.fated fated).of_inr is

end

/-- The parser returns, and it has stayed inside its buffers until then. -/
def Finishes (buffer : List UInt8) : Prop := ∃ fuel, (descToConfig buffer fuel).Ended

/-- The parser returns exactly when the first descriptor is refused or no descriptor it comes to makes it stall or leave
    its buffers. -/
theorem finishes_iff_walks (buffer : List UInt8) : Finishes buffer ↔ Refused buffer ∨ ∀ w, Reached buffer w →
      w.look buffer (interfacesOf buffer) ≠ .inr .stalls ∧ w.look buffer (interfacesOf buffer) ≠ .inr .leaves := by
  by_cases refused : Refused buffer
  · refine ⟨fun _ => .inl refused, fun _ => ⟨0, ?_⟩⟩
    rw [descToConfig_refused refused]
    trivial
  · obtain ⟨fate, fated⟩ := Walk.exists_fated buffer (interfacesOf buffer) _ (firstWalk buffer) (Nat.le_refl _)
    obtain ⟨o, comes, ended, _⟩ := (descToConfig_follows refused fated).outcome
    have finishes : Finishes buffer ↔ fate = .ends := by
      rw [← ended]
      constructor
      · rintro ⟨fuel, returned⟩
        rw [comes.eq_of_eq rfl (by intro stuck; rw [stuck] at returned; exact returned)]
        exact returned
      · intro returned
        obtain ⟨enough, is⟩ := comes.1
        exact ⟨enough, by rw [is enough (Nat.le_refl _)]; exact returned⟩
    have stalls := fate_iff_reached fated .stalls
    have leaves := fate_iff_reached fated .leaves
    rw [finishes]
    constructor
    · rintro rfl
      refine .inr (fun w reached => ⟨fun is => ?_, fun is => ?_⟩)
      · cases stalls.mpr ⟨w, reached, is⟩
      · cases leaves.mpr ⟨w, reached, is⟩
    · rintro (again | walks)
      · exact absurd again refused
      · cases fate with
        | ends => rfl
        | stalls =>
          obtain ⟨w, reached, is⟩ := stalls.mp rfl
          exact absurd is (walks w reached).1
        | leaves =>
          obtain ⟨w, reached, is⟩ := leaves.mp rfl
          exact absurd is (walks w reached).2

def zeroLength : List UInt8 := [9, 2, 11, 0, 0, 1, 0, 0x80, 50, 0, 0x24]

/-- The parser never gets past it. -/
theorem zeroLength_not_finishes : ¬ Finishes zeroLength := by
  have fated : (firstWalk zeroLength).Fated zeroLength (interfacesOf zeroLength) .stalls := .here (by rfl)
  obtain ⟨o, comes, ended, _⟩ := (descToConfig_follows (by decide) fated).outcome
  rintro ⟨fuel, returned⟩
  rw [← comes.eq_of_eq rfl (by intro stuck; rw [stuck] at returned; exact returned), ended] at returned
  cases returned

/-- No read behind the buffer, no write behind the allocated alternate settings, and no interface behind the last. -/
def StaysInside (buffer : List UInt8) : Prop :=
  (∀ fuel, descToConfig buffer fuel ≠ .fault) ∧
    ∀ fuel counted, getInterfaceNumber buffer fuel = .ret counted → counted.length ≤ usbMaxInterfaces

theorem countInterface_length {inum : Nat} {counted : List Counted} (few : counted.length ≤ usbMaxInterfaces) :
    (countInterface inum counted).length ≤ usbMaxInterfaces := by
  unfold countInterface
  split
  · rw [length_modify]
    exact few
  · split
    · rw [length_append]
      assumption
    · exact few

theorem interfacesOf_length (buffer : List UInt8) : (interfacesOf buffer).length ≤ usbMaxInterfaces := by
  unfold interfacesOf
  generalize descriptorsOf buffer.length buffer = descriptors
  suffices all : ∀ counted : List Counted, counted.length ≤ usbMaxInterfaces →
      (descriptors.foldl tally counted).length ≤ usbMaxInterfaces from all [] (Nat.zero_le _)
  induction descriptors with
  | nil => exact fun counted few => few
  | cons descriptor descriptors ih =>
    intro counted few
    refine ih _ ?_
    unfold tally
    split
    · exact countInterface_length few
    · exact few

/-- The parser stays inside its buffers exactly when the first descriptor is refused or no descriptor it comes to makes
    it leave them. -/
theorem staysInside_iff_walks (buffer : List UInt8) : StaysInside buffer ↔ Refused buffer ∨ ∀ w, Reached buffer w →
      w.look buffer (interfacesOf buffer) ≠ .inr .leaves := by
  have indices : ∀ fuel counted, getInterfaceNumber buffer fuel = .ret counted → counted.length ≤ usbMaxInterfaces := by
    intro fuel counted is
    have same := (getInterfaceNumber_comes buffer).eq_of_eq is (by simp)
    cases same
    exact interfacesOf_length buffer
  by_cases refused : Refused buffer
  · refine ⟨fun _ => .inl refused, fun _ => ⟨fun fuel => ?_, indices⟩⟩
    rw [descToConfig_refused refused]
    simp
  · obtain ⟨fate, fated⟩ := Walk.exists_fated buffer (interfacesOf buffer) _ (firstWalk buffer) (Nat.le_refl _)
    obtain ⟨o, comes, _, fault⟩ := (descToConfig_follows refused fated).outcome
    have leaves := fate_iff_reached fated .leaves
    constructor
    · rintro ⟨inside, _⟩
      refine .inr (fun w reached is => ?_)
      obtain ⟨enough, always⟩ := comes.1
      apply inside enough
      rw [always enough (Nat.le_refl _)]
      exact fault.mpr (leaves.mpr ⟨w, reached, is⟩)
    · rintro (again | walks)
      · exact absurd again refused
      · refine ⟨fun fuel is => ?_, indices⟩
        obtain ⟨w, reached, is⟩ := leaves.mp (fault.mp (comes.eq_of_eq is (by simp)))
        exact walks w reached is

/-- A configuration whose second alternate setting comes behind a descriptor of length one, where the counting stops. -/
def uncounted : List UInt8 :=
  [9, 2, 30, 0, 1, 1, 0, 0x80, 50, 9, 4, 0, 0, 0, 0xff, 0, 0, 0, 1, 2, 0x24, 9, 4, 0, 1, 0, 0xff, 0, 0, 0]

/-- The parser writes the second alternate setting behind the one that was allocated. -/
theorem uncounted_not_staysInside : ¬ StaysInside uncounted := by
  rintro ⟨inside, _⟩
  exact inside 10 (by decide)

end Peripheral.Usb
