import Peripheral.GadgetConfig

/-!
What a tree of the configuration says, and when the loading returns it. Each part of the loading returns a value if and only if
the tree says that value and its blocks can be allocated.
-/
namespace Peripheral.UsbFnCfgMgr
open Faults Function List
open Option (bind_eq_bind some.inj bind_eq_some_iff)

section
variable {Node : Type} (drsOps : DeviceResourceIface Node)

structure IsList {α : Type} (node : Node) (list : String) (is : Node → α → Prop) (entries : List α) : Prop where
  count : drsOps.getElemNum node list = entries.length
  some' : entries ≠ []
  each : ∀ k (inside : k < entries.length), ∃ child, entry drsOps node list k = some child ∧ is child entries[k]

def IsUsbString (node : Node) (string : UsbString) : Prop :=
  drsOps.getUint8 node "id" = some string.id ∧ drsOps.getString node "str" = some string.s

structure IsStrings (node : Node) (fnString : UsbFnStrings) : Prop where
  language : drsOps.getUint16 node "language" = some fnString.language
  strings : IsList drsOps node "stringList" (IsUsbString drsOps) fnString.strings

/-- No list of descriptors where the tree has none. -/
def IsDescs (otg : String) (node : Node) (list : String) (descriptors : Option (List Buffer)) : Prop :=
  match descriptors with
  | none => drsOps.getElemNum node list ≤ 0
  | some descriptors => IsList drsOps node list (IsDesc drsOps otg) descriptors

structure IsFunction (otg : String) (node : Node) (fn : UsbFnFunction) : Prop where
  funcName : drsOps.getString node "funcName" = some fn.funcName
  strings : IsList drsOps node "stringTabList" (IsStrings drsOps) fn.strings
  descriptors : ∀ speed : Speed, IsDescs drsOps otg node speed.descName (fn.descriptors speed)

structure IsConfiguration (otg : String) (node : Node) (config : UsbFnConfiguration) : Prop where
  configurationValue : drsOps.getUint8 node "configurationValue" = some config.configurationValue
  iConfiguration : drsOps.getUint8 node "iConfiguration" = some config.iConfiguration
  attributes : drsOps.getUint8 node "attributes" = some config.attributes
  maxPower : drsOps.getUint16 node "maxPower" = some config.maxPower
  functions : IsList drsOps node "functionList" (IsFunction drsOps otg) config.functions

structure IsDeviceDesc (node : Node) (desc : UsbDeviceDescriptor) : Prop where
  size : desc.bLength = DEVICE_SIZE
  type : desc.bDescriptorType = USB_DDK_DT_DEVICE
  bLength : drsOps.getUint8 node "bLength" = some desc.bLength
  bDescriptorType : drsOps.getUint8 node "bDescriptorType" = some desc.bDescriptorType
  bcdUSB : drsOps.getUint16 node "bcdUSB" = some desc.bcdUSB
  bDeviceClass : drsOps.getUint8 node "bDeviceClass" = some desc.bDeviceClass
  bDeviceSubClass : drsOps.getUint8 node "bDeviceSubClass" = some desc.bDeviceSubClass
  bDeviceProtocol : drsOps.getUint8 node "bDeviceProtocol" = some desc.bDeviceProtocol
  bMaxPacketSize0 : drsOps.getUint8 node "bMaxPacketSize0" = some desc.bMaxPacketSize0
  idVendor : drsOps.getUint16 node "idVendor" = some desc.idVendor
  idProduct : drsOps.getUint16 node "idProduct" = some desc.idProduct
  bcdDevice : drsOps.getUint16 node "bcdDevice" = some desc.bcdDevice
  iManufacturer : drsOps.getUint8 node "manufacturer" = some desc.iManufacturer
  iProduct : drsOps.getUint8 node "product" = some desc.iProduct
  iSerialNumber : drsOps.getUint8 node "serialnumber" = some desc.iSerialNumber
  bNumConfigurations : drsOps.getUint8 node "numConfigurations" = some desc.bNumConfigurations

structure IsDescription (otg : String) (node : Node) (desc : UsbFnDeviceDesc) : Prop where
  deviceDesc : ∃ child, named drsOps node "usb_dev_desc" = some child ∧ IsDeviceDesc drsOps child desc.deviceDesc
  deviceStrings : ∃ child, named drsOps node "usb_dev_string" = some child ∧
    IsList drsOps child "stringTabList" (IsStrings drsOps) desc.deviceStrings
  configs : ∃ child, named drsOps node "usb_configuration" = some child ∧
    IsList drsOps child "configList" (IsConfiguration drsOps otg) desc.configs

end

section
variable (allocates : Site → Bool)

def StringsAllocated (owner : Owner) (fnStrings : List UsbFnStrings) : Prop :=
  allocates (.fnStrings owner) ∧ ∀ k < fnStrings.length, allocates (.fnString owner k) ∧ allocates (.strings owner k)

def DescsAllocated (c f : Nat) (speed : Speed) (descriptors : Option (List Buffer)) : Prop :=
  ∀ descs ∈ descriptors, allocates (.descriptors c f speed) ∧ ∀ k < descs.length, allocates (.descBuff c f speed k)

def FunctionAllocated (c f : Nat) (fn : UsbFnFunction) : Prop :=
  StringsAllocated allocates (.function c f) fn.strings ∧ ∀ speed, DescsAllocated allocates c f speed (fn.descriptors speed)

def FunctionsAllocated (c : Nat) (functions : List UsbFnFunction) : Prop :=
  allocates (.functions c) ∧
    ∀ f (inside : f < functions.length), allocates (.function c f) ∧ FunctionAllocated allocates c f functions[f]

def ConfigsAllocated (configs : List UsbFnConfiguration) : Prop :=
  allocates .configs ∧
    ∀ c (inside : c < configs.length), allocates (.config c) ∧ FunctionsAllocated allocates c configs[c].functions

structure Allocated (desc : UsbFnDeviceDesc) : Prop where
  usbDevDesc : allocates .usbDevDesc
  deviceDesc : allocates .deviceDesc
  deviceStrings : StringsAllocated allocates .device desc.deviceStrings
  configs : ConfigsAllocated allocates desc.configs

end

section
variable {Node : Type} (deviceResourceGetIfaceInstance : Option (DeviceResourceIface Node)) (allocates : Site → Bool)
  (node : Option Node)

/-- What is returned is what the tree says, or every block has been released. -/
def LoadRight : Prop :=
  ∃ result live, (getInstanceFromHCS deviceResourceGetIfaceInstance allocates node).run (fun _ => false) = .ok result live ∧
    match result with
    | some desc => ∃ drsOps ∈ deviceResourceGetIfaceInstance, ∃ tree ∈ node, IsDescription drsOps "bcdOTG" tree desc
    | none => ∀ site, live site = false

/-- The description itself cannot be allocated, or the descriptor of the device is there but no strings for it can be begun. -/
def EndsEarly : Prop :=
  node = none ∨ allocates .usbDevDesc = false ∨
    ∃ drsOps ∈ deviceResourceGetIfaceInstance, ∃ tree ∈ node,
      (allocates .deviceDesc ∧ ∃ child desc, named drsOps tree "usb_dev_desc" = some child ∧ IsDeviceDesc drsOps child desc) ∧
        ∀ child, named drsOps tree "usb_dev_string" = some child →
          drsOps.getElemNum child "stringTabList" ≤ 0 ∨ allocates (.fnStrings .device) = false ∨
            allocates (.fnString .device 0) = false

/-- The tree says a description, also with the attribute that is read for OTG 2.0, and every block of it can be allocated. -/
def Loads : Prop :=
  ∃ drsOps ∈ deviceResourceGetIfaceInstance, ∃ tree ∈ node, ∃ desc,
    IsDescription drsOps "bcdOTG" tree desc ∧ IsDescription drsOps "bcdUSB" tree desc ∧ Allocated allocates desc

/-- The release of a description that was returned leaves no block. -/
def ReleaseRight (desc : UsbFnDeviceDesc) (live : Ledger) : Prop :=
  ∃ after, (freeUsbFnDeviceDesc desc).run live = .ok () after ∧ ∀ site, after site = false

def NeverReleased : Prop :=
  ∀ desc live, (getInstanceFromHCS deviceResourceGetIfaceInstance allocates node).run (fun _ => false) = .ok (some desc) live →
    ¬ReleaseRight desc live

end

/-! ### What a part of the loading returns -/

/-- Under this condition, and no other, the value is returned. -/
def Returns {α : Type} (p : Load α) (a : α) (c : Prop) : Prop := ∀ live, (∃ after, p.run live = .ok a after) ↔ c

section
variable {α β : Type} {p : Load α} {a : α} {b : β} {c d : Prop}

theorem Returns.congr (returns : Returns p a c) (same : c ↔ d) : Returns p a d := fun live => (returns live).trans same

theorem returns_pure {a a' : α} : Returns (pure a') a (a' = a) := by
  intro live
  constructor
  · rintro ⟨after, same⟩
    cases same
    rfl
  · rintro rfl
    exact ⟨live, rfl⟩

theorem Returns.bind {q : α → Load β} (first : Returns p a c) (rest : Returns (q a) b d)
    (only : ∀ a', a' ≠ a → Returns (q a') b False) : Returns (p >>= q) b (c ∧ d) := by
  intro live
  rw [EStateM.run_bind]
  cases ran : p.run live with
  | ok a' between =>
    by_cases same : a' = a
    · subst same
      have there : c := (first live).mp ⟨between, ran⟩
      exact (rest between).trans (and_iff_right there).symm
    · have not : ¬c := by
        intro there
        obtain ⟨after, ran'⟩ := (first live).mpr there
        rw [ran] at ran'
        cases ran'
        exact same rfl
      exact (only a' same between).trans (iff_of_false id fun both => not both.1)
  | error stop between =>
    have not : ¬c := by
      intro there
      obtain ⟨after, ran'⟩ := (first live).mpr there
      rw [ran] at ran'
      cases ran'
    refine iff_of_false ?_ fun both => not both.1
    rintro ⟨after, ran'⟩
    cases ran'

theorem Returns.never {q : α → Load β} (rest : ∀ a, Returns (q a) b False) : Returns (p >>= q) b False := by
  intro live
  rw [EStateM.run_bind]
  cases p.run live with
  | ok a between => exact rest a between
  | error stop between =>
    refine iff_of_false ?_ id
    rintro ⟨after, ran⟩
    cases ran

theorem returns_calloc (allocates : Site → Bool) (site : Site) :
    Returns (usbFnMemCalloc allocates site) true (allocates site = true) := by
  unfold usbFnMemCalloc
  cases allocates site with
  | true => exact fun live => iff_of_true ⟨_, rfl⟩ rfl
  | false => exact returns_pure

theorem Returns.calloc {allocates : Site → Bool} {site : Site} {q : Load (Option α)} (rest : Returns q (some a) c) :
    Returns (usbFnMemCalloc allocates site >>= fun there => if there = true then q else pure none) (some a)
      (allocates site = true ∧ c) := by
  refine (returns_calloc allocates site).bind ?_ ?_
  · rw [if_pos rfl]
    exact rest
  · intro there failed
    rw [if_neg failed]
    exact returns_pure.congr (by simp)

end

section
variable {α : Type} {parse : Nat → Load (Option α)} {release : Nat → Load Unit}

/-- A loop comes to the entries that it began with and as many more. -/
theorem parseEach_shape : ∀ (n : Nat) (done : List α) (live after : Ledger) (l : List α),
    (parseEach parse release n done).run live = .ok (some l) after → ∃ rest, rest.length = n ∧ l = done.reverse ++ rest := by
  intro n
  induction n with
  | zero =>
    intro done live after l ran
    cases ran
    exact ⟨[], rfl, (append_nil _).symm⟩
  | succ n ih =>
    intro done live after l ran
    rw [parseEach, EStateM.run_bind] at ran
    cases first : (parse done.length).run live with
    | error stop between =>
      rw [first] at ran
      cases ran
    | ok found between =>
      rw [first] at ran
      cases found with
      | none =>
        have never : Returns (do release done.length; pure none) (some l) False := .never fun _ => returns_pure.congr (by simp)
        exact absurd ⟨after, ran⟩ ((never between).mp)
      | some entry =>
        obtain ⟨rest, long, same⟩ := ih (entry :: done) between after l ran
        exact ⟨entry :: rest, by rw [length_cons, long], by simp [same]⟩

theorem parseEach_returns {C : Nat → Prop} : ∀ (n : Nat) (done entries : List α),
    (∀ k (inside : k < entries.length), Returns (parse (done.length + k)) (some entries[k]) (C (done.length + k))) →
      Returns (parseEach parse release n done) (some (done.reverse ++ entries))
        (n = entries.length ∧ ∀ k < entries.length, C (done.length + k)) := by
  intro n
  induction n with
  | zero =>
    intro done entries _
    refine returns_pure.congr ?_
    cases entries <;> simp
  | succ n ih =>
    intro done entries each
    cases entries with
    | nil =>
      intro live
      refine iff_of_false ?_ (by simp)
      rintro ⟨after, ran⟩
      obtain ⟨rest, long, same⟩ := parseEach_shape (n + 1) done live after _ ran
      have none : rest = [] := by simpa using same
      rw [none] at long
      cases long
    | cons a rest =>
      have first := each 0 (Nat.zero_lt_succ _)
      have later : ∀ k (inside : k < rest.length),
          Returns (parse ((a :: done).length + k)) (some rest[k]) (C ((a :: done).length + k)) := by
        intro k inside
        have next := each (k + 1) (Nat.succ_lt_succ inside)
        rw [length_cons, Nat.add_right_comm, Nat.add_assoc]
        exact next
      have tail := ih (a :: done) rest later
      rw [reverse_cons, append_assoc, singleton_append] at tail
      rw [parseEach]
      refine (first.bind tail ?_).congr ?_
      · intro found differs
        cases found with
        | none => exact .never fun _ => returns_pure.congr (by simp)
        | some b =>
          intro live
          refine iff_of_false ?_ id
          rintro ⟨after, ran⟩
          obtain ⟨rest', _, same⟩ := parseEach_shape n (b :: done) live after _ ran
          simp only [reverse_cons, append_assoc, singleton_append, append_cancel_left_eq, cons.injEq] at same
          exact differs (congrArg some same.1.symm)
      · simp only [length_cons, Nat.add_right_cancel_iff, Nat.forall_lt_succ_left, Nat.add_zero, Nat.add_right_comm,
        Nat.add_assoc]
        exact and_left_comm

end

section
variable {Node : Type} (drsOps : DeviceResourceIface Node) (allocates : Site → Bool)

variable {list : String} {node : Node}

theorem parseList_returns {α : Type} {I : Node → α → Prop} {site : Site}
    {parse : Nat → Load (Option α)} {release : Nat → Load Unit} {entries : List α} {C : Nat → Prop}
    (each : ∀ k (inside : k < entries.length), Returns (parse k) (some entries[k])
      ((∃ child, entry drsOps node list k = some child ∧ I child entries[k]) ∧ C k)) :
    Returns (parseList drsOps allocates site parse release node list) (some entries)
      (IsList drsOps node list I entries ∧ allocates site ∧ ∀ k < entries.length, C k) := by
  unfold parseList
  by_cases none : drsOps.getElemNum node list ≤ 0
  · rw [if_pos none]
    refine returns_pure.congr (iff_of_false (by simp) fun both => both.1.some' ?_)
    have count := both.1.count
    exact eq_nil_of_length_eq_zero (by omega)
  · rw [if_neg none]
    have loop : Returns (parseEach parse release (drsOps.getElemNum node list).toNat []) (some ([].reverse ++ entries)) _ :=
      parseEach_returns (C := fun k => ∀ inside : k < entries.length,
        (∃ child, entry drsOps node list k = some child ∧ I child entries[k]) ∧ C k) _ [] entries (by
      intro k inside
      simp only [length_nil, Nat.zero_add]
      exact (each k inside).congr ⟨fun holds _ => holds, fun holds => holds inside⟩)
    refine (Returns.calloc loop).congr ?_
    simp only [length_nil, Nat.zero_add]
    constructor
    · rintro ⟨there, long, all⟩
      have count : drsOps.getElemNum node list = entries.length := by omega
      refine ⟨⟨count, ?_, fun k inside => (all k inside inside).1⟩, there, fun k inside => (all k inside inside).2⟩
      rintro rfl
      exact none (Int.le_of_eq count)
    · rintro ⟨is, there, all⟩
      refine ⟨there, ?_, fun k inside _ => ⟨is.each k inside, all k inside⟩⟩
      rw [is.count, Int.toNat_natCast]

theorem entry_returns {α : Type} {is : Node → α → Prop} {k : Nat} {a : α} {cond : Prop}
    {parse : Node → Load (Option α)}
    (child : ∀ child, entry drsOps node list k = some child → Returns (parse child) (some a) (is child a ∧ cond)) :
    Returns
      (match entry drsOps node list k with
        | none => pure none
        | some child => parse child)
      (some a) ((∃ child, entry drsOps node list k = some child ∧ is child a) ∧ cond) := by
  cases found : entry drsOps node list k with
  | none => exact returns_pure.congr (by simp)
  | some node' => exact (child node' found).congr (by simp)

theorem parseUsbString_iff (node : Node) (iCount : Nat) (string : UsbString) : parseUsbString drsOps node iCount = some string ↔
      ∃ child, entry drsOps node "stringList" iCount = some child ∧ IsUsbString drsOps child string := by
  unfold parseUsbString
  simp only [bind_eq_bind, bind_eq_some_iff]
  refine exists_congr fun child => and_congr_right fun _ => ?_
  constructor
  · rintro ⟨id, found, s, found', same⟩
    cases same
    exact ⟨found, found'⟩
  · rintro ⟨found, found'⟩
    exact ⟨string.id, found, string.s, found', rfl⟩

theorem parseString_returns (owner : Owner) (count : Nat) (node : Node) (fnString : UsbFnStrings) :
    Returns (parseString drsOps allocates owner count node) (some fnString)
      (IsStrings drsOps node fnString ∧ allocates (.strings owner count)) := by
  unfold parseString
  cases found : drsOps.getUint16 node "language" with
  | none =>
    refine returns_pure.congr (iff_of_false (by simp) fun both => ?_)
    have language := both.1.language
    rw [found] at language
    cases language
  | some language =>
    have each : ∀ k (inside : k < fnString.strings.length), Returns (pure (parseUsbString drsOps node k))
        (some fnString.strings[k])
        ((∃ child, entry drsOps node "stringList" k = some child ∧ IsUsbString drsOps child fnString.strings[k]) ∧ True) :=
      fun k inside => returns_pure.congr (by rw [parseUsbString_iff, and_true])
    have made : Returns (pure ((some fnString.strings).map (UsbFnStrings.mk language))) (some fnString)
        (language = fnString.language) := returns_pure.congr (by cases fnString; simp)
    refine ((parseList_returns drsOps allocates each).bind made ?_).congr ?_
    · intro other differs
      refine returns_pure.congr (iff_of_false (fun same => differs ?_) id)
      cases other with
      | none => cases same
      | some strings =>
        cases same
        rfl
    · constructor
      · rintro ⟨⟨is, there, _⟩, same⟩
        exact ⟨⟨by rw [found, same], is⟩, there⟩
      · rintro ⟨is, there⟩
        have same := is.language
        rw [found, Option.some.injEq] at same
        exact ⟨⟨is.strings, there, fun _ _ => trivial⟩, same⟩

theorem parseStrings_returns (owner : Owner) (node : Node) (fnStrings : List UsbFnStrings) :
    Returns (parseStrings drsOps allocates owner node) (some fnStrings)
      (IsList drsOps node "stringTabList" (IsStrings drsOps) fnStrings ∧ StringsAllocated allocates owner fnStrings) := by
  refine parseList_returns drsOps allocates fun k inside => ?_
  refine (Returns.calloc (entry_returns drsOps fun child _ => parseString_returns drsOps allocates owner k child fnStrings[k])).congr ?_
  exact and_left_comm

theorem parseDesc_returns (site : Site) (node : Node) (desc : Buffer) :
    Returns (parseDesc drsOps allocates site node) (some desc) (IsDesc drsOps "bcdUSB" node desc ∧ allocates site) := by
  unfold parseDesc
  cases long : drsOps.getUint8 node "bLength" with
  | none =>
    refine returns_pure.congr (iff_of_false (by simp) ?_)
    rintro ⟨⟨length, descType, long', _⟩, _⟩
    rw [long] at long'
    cases long'
  | some length =>
    simp only
    cases type : drsOps.getUint8 node "bDescriptorType" with
    | none =>
      refine returns_pure.congr (iff_of_false (by simp) ?_)
      rintro ⟨⟨length, descType, _, type', _⟩, _⟩
      rw [type] at type'
      cases type'
    | some descType =>
      simp only
      by_cases empty : length = 0
      · rw [if_pos empty]
        exact returns_pure.congr (iff_of_false (by simp) fun both => IsDesc.length_ne_zero drsOps node both.1 long empty)
      · rw [if_neg empty]
        refine (Returns.calloc ?_).congr and_comm
        have parsed := parseDescriptor_ret drsOps node long type desc
        cases ran : parseDescriptor drsOps node (replicate length.toNat 0) descType length with
        | ret descBuff =>
          rw [ran] at parsed
          refine returns_pure.congr (Iff.trans ?_ parsed)
          simp
        | error e =>
          rw [ran] at parsed
          refine (Returns.never fun _ => returns_pure.congr (by simp)).congr ?_
          exact iff_of_false id fun is => by cases parsed.mpr is
        | fault =>
          rw [ran] at parsed
          intro live
          refine iff_of_false ?_ fun is => by cases parsed.mpr is
          rintro ⟨after, ran⟩
          cases ran
        | stuck =>
          rw [ran] at parsed
          intro live
          refine iff_of_false ?_ fun is => by cases parsed.mpr is
          rintro ⟨after, ran⟩
          cases ran

variable {otg : String}

theorem parseFunDesc_returns (c f : Nat) (speed : Speed) (descName : String) (node : Node)
    {descriptors : Option (List Buffer)} (told : IsDescs drsOps otg node descName descriptors) :
    Returns (parseFunDesc drsOps allocates c f speed descName node) descriptors
      (IsDescs drsOps "bcdUSB" node descName descriptors ∧ DescsAllocated allocates c f speed descriptors) := by
  cases descriptors with
  | none =>
    have none : drsOps.getElemNum node descName ≤ 0 := told
    unfold parseFunDesc parseList
    rw [if_pos none]
    exact returns_pure.congr (iff_of_true rfl ⟨none, by simp [DescsAllocated]⟩)
  | some descs =>
    refine (parseList_returns drsOps allocates fun k inside =>
      entry_returns drsOps fun child _ => parseDesc_returns drsOps allocates (.descBuff c f speed k) child descs[k]).congr ?_
    simp [IsDescs, DescsAllocated]

theorem IsList.child {α : Type} {is : Node → α → Prop} {entries : List α}
    (told : IsList drsOps node list is entries) {k : Nat} (inside : k < entries.length) {child : Node}
    (found : entry drsOps node list k = some child) : is child entries[k] := by
  obtain ⟨child', found', holds⟩ := told.each k inside
  rw [found] at found'
  cases found'
  exact holds

theorem parseUsbFnFunction_returns (c f : Nat) (node : Node) {fn : UsbFnFunction} (told : IsFunction drsOps otg node fn) :
    Returns (parseUsbFnFunction drsOps allocates c f node) (some fn)
      (IsFunction drsOps "bcdUSB" node fn ∧ FunctionAllocated allocates c f fn) := by
  have part : ∀ speed : Speed, Returns (parseFunDesc drsOps allocates c f speed speed.descName node) (fn.descriptors speed) _ :=
    fun speed => parseFunDesc_returns drsOps allocates c f speed speed.descName node (told.descriptors speed)
  unfold parseUsbFnFunction
  rw [told.funcName]
  simp only
  refine Returns.congr (((parseStrings_returns drsOps allocates (.function c f) node fn.strings).bind
    ((part .fs).bind ((part .hs).bind ((part .ss).bind ((part .ssp).bind returns_pure ?_) ?_) ?_) ?_) ?_)) ?_
  · intro other differs
    refine returns_pure.congr (iff_of_false (fun same => differs ?_) id)
    exact congrFun (congrArg UsbFnFunction.descriptors (some.inj same)) .ssp
  · intro other differs
    refine .never fun _ => returns_pure.congr (iff_of_false (fun same => differs ?_) id)
    exact congrFun (congrArg UsbFnFunction.descriptors (some.inj same)) .ss
  · intro other differs
    refine .never fun _ => .never fun _ => returns_pure.congr (iff_of_false (fun same => differs ?_) id)
    exact congrFun (congrArg UsbFnFunction.descriptors (some.inj same)) .hs
  · intro other differs
    refine .never fun _ => .never fun _ => .never fun _ => returns_pure.congr (iff_of_false (fun same => differs ?_) id)
    exact congrFun (congrArg UsbFnFunction.descriptors (some.inj same)) .fs
  · intro other differs
    cases other with
    | none => exact returns_pure.congr (by simp)
    | some strings =>
      refine .never fun _ => .never fun _ => .never fun _ => .never fun _ =>
        returns_pure.congr (iff_of_false (fun same => differs ?_) id)
      exact congrArg some (congrArg UsbFnFunction.strings (some.inj same))
  · constructor
    · rintro ⟨⟨strings, blocks⟩, fs, hs, ss, ssp, _⟩
      refine ⟨⟨told.funcName, strings, ?_⟩, blocks, ?_⟩
      · rintro (_ | _ | _ | _)
        exacts [fs.1, hs.1, ss.1, ssp.1]
      · rintro (_ | _ | _ | _)
        exacts [fs.2, hs.2, ss.2, ssp.2]
    · rintro ⟨is, blocks, descs⟩
      have both := fun speed => And.intro (is.descriptors speed) (descs speed)
      refine ⟨⟨is.strings, blocks⟩, both .fs, both .hs, both .ss, both .ssp, ?_⟩
      have lists : Speed.choose (fn.descriptors .fs) (fn.descriptors .hs) (fn.descriptors .ss) (fn.descriptors .ssp) =
          fn.descriptors := by
        funext speed
        cases speed <;> rfl
      rw [lists]

theorem parseUsbFnFunctions_returns (c : Nat) (node : Node) {functions : List UsbFnFunction}
    (told : IsList drsOps node "functionList" (IsFunction drsOps otg) functions) :
    Returns (parseUsbFnFunctions drsOps allocates c node) (some functions)
      (IsList drsOps node "functionList" (IsFunction drsOps "bcdUSB") functions ∧ FunctionsAllocated allocates c functions) := by
  refine (parseList_returns drsOps allocates (I := IsFunction drsOps "bcdUSB") (C := fun k => ∀ inside : k < functions.length,
    allocates (.function c k) ∧ FunctionAllocated allocates c k functions[k]) fun k inside => ?_).congr ?_
  · refine (Returns.calloc (entry_returns drsOps fun child found =>
      parseUsbFnFunction_returns drsOps allocates c k child (told.child drsOps inside found))).congr ?_
    rw [and_left_comm]
    exact and_congr_right fun _ => ⟨fun holds _ => holds, fun holds => holds inside⟩
  · refine and_congr_right fun _ => and_congr_right fun _ => forall_congr' fun k => ?_
    exact ⟨fun holds inside => holds inside inside, fun holds inside _ => holds inside⟩

theorem parseUsbFnConfiguration_returns (c : Nat) (node : Node) {config : UsbFnConfiguration}
    (told : IsConfiguration drsOps otg node config) : Returns (parseUsbFnConfiguration drsOps allocates c node) (some config)
      (IsConfiguration drsOps "bcdUSB" node config ∧ FunctionsAllocated allocates c config.functions) := by
  unfold parseUsbFnConfiguration
  rw [told.configurationValue, told.iConfiguration, told.attributes, told.maxPower]
  simp only
  have made : Returns (pure ((some config.functions).map (UsbFnConfiguration.mk config.configurationValue config.iConfiguration
      config.attributes config.maxPower))) (some config) True := returns_pure.congr (iff_of_true rfl trivial)
  refine ((parseUsbFnFunctions_returns drsOps allocates c node told.functions).bind made ?_).congr ?_
  · intro other differs
    refine returns_pure.congr (iff_of_false (fun same => differs ?_) id)
    cases other with
    | none => cases same
    | some functions => exact congrArg some (congrArg UsbFnConfiguration.functions (some.inj same))
  · rw [and_true]
    exact and_congr_left fun _ => ⟨fun functions => { told with functions := functions }, fun is => is.functions⟩

theorem parseUsbFnCfgLists_returns (deviceStrings : List UsbFnStrings) (node : Node)
    {configs : List UsbFnConfiguration} (told : IsList drsOps node "configList" (IsConfiguration drsOps otg) configs) :
    Returns (parseUsbFnCfgLists drsOps allocates deviceStrings node) (some configs)
      (IsList drsOps node "configList" (IsConfiguration drsOps "bcdUSB") configs ∧ ConfigsAllocated allocates configs) := by
  refine (parseList_returns drsOps allocates (I := IsConfiguration drsOps "bcdUSB") (C := fun k => ∀ inside : k < configs.length,
    allocates (.config k) ∧ FunctionsAllocated allocates k configs[k].functions) fun k inside => ?_).congr ?_
  · refine (Returns.calloc (entry_returns drsOps fun child found =>
      parseUsbFnConfiguration_returns drsOps allocates k child (told.child drsOps inside found))).congr ?_
    rw [and_left_comm]
    exact and_congr_right fun _ => ⟨fun holds _ => holds, fun holds => holds inside⟩
  · refine and_congr_right fun _ => and_congr_right fun _ => forall_congr' fun k => ?_
    exact ⟨fun holds inside => holds inside inside, fun holds inside _ => holds inside⟩

theorem parseDevDesc_iff (node : Node) (desc : UsbDeviceDescriptor) :
    parseDevDesc drsOps node = some desc ↔ IsDeviceDesc drsOps node desc := by
  constructor
  · intro parsed
    unfold parseDevDesc at parsed
    obtain ⟨_, bLength, parsed⟩ := bind_eq_some_iff.mp parsed
    obtain ⟨_, size, parsed⟩ := bind_eq_some_iff.mp parsed
    obtain ⟨_, bDescriptorType, parsed⟩ := bind_eq_some_iff.mp parsed
    obtain ⟨_, bDeviceClass, parsed⟩ := bind_eq_some_iff.mp parsed
    obtain ⟨_, bDeviceSubClass, parsed⟩ := bind_eq_some_iff.mp parsed
    obtain ⟨_, bDeviceProtocol, parsed⟩ := bind_eq_some_iff.mp parsed
    obtain ⟨_, bMaxPacketSize0, parsed⟩ := bind_eq_some_iff.mp parsed
    obtain ⟨_, iManufacturer, parsed⟩ := bind_eq_some_iff.mp parsed
    obtain ⟨_, iProduct, parsed⟩ := bind_eq_some_iff.mp parsed
    obtain ⟨_, iSerialNumber, parsed⟩ := bind_eq_some_iff.mp parsed
    obtain ⟨_, bNumConfigurations, parsed⟩ := bind_eq_some_iff.mp parsed
    obtain ⟨_, type, parsed⟩ := bind_eq_some_iff.mp parsed
    obtain ⟨_, bcdUSB, parsed⟩ := bind_eq_some_iff.mp parsed
    obtain ⟨_, idVendor, parsed⟩ := bind_eq_some_iff.mp parsed
    obtain ⟨_, idProduct, parsed⟩ := bind_eq_some_iff.mp parsed
    obtain ⟨_, bcdDevice, parsed⟩ := bind_eq_some_iff.mp parsed
    rw [Option.guard_eq_some'] at size type
    cases parsed
    exact ⟨size, type, bLength, bDescriptorType, bcdUSB, bDeviceClass, bDeviceSubClass, bDeviceProtocol, bMaxPacketSize0,
      idVendor, idProduct, bcdDevice, iManufacturer, iProduct, iSerialNumber, bNumConfigurations⟩
  · intro is
    have size : guard (desc.bLength = DEVICE_SIZE) = some () := by simp [guard, is.size]
    have type : guard (desc.bDescriptorType = USB_DDK_DT_DEVICE) = some () := by simp [guard, is.type]
    unfold parseDevDesc
    simp only [is.bLength, is.bDescriptorType, is.bcdUSB, is.bDeviceClass, is.bDeviceSubClass, is.bDeviceProtocol,
      is.bMaxPacketSize0, is.idVendor, is.idProduct, is.bcdDevice, is.iManufacturer, is.iProduct, is.iSerialNumber,
      is.bNumConfigurations, bind_eq_bind, Option.bind_some, size, type]

theorem parseUsbFnDevDesc_returns (node : Node) (desc : UsbDeviceDescriptor) :
    Returns (parseUsbFnDevDesc (some drsOps) allocates node) (some desc)
      ((∃ child, named drsOps node "usb_dev_desc" = some child ∧ IsDeviceDesc drsOps child desc) ∧ allocates .deviceDesc) := by
  unfold parseUsbFnDevDesc
  simp only
  cases named drsOps node "usb_dev_desc" with
  | none => exact returns_pure.congr (by simp)
  | some child =>
    have child' : (∃ child', some child = some child' ∧ IsDeviceDesc drsOps child' desc) ↔ IsDeviceDesc drsOps child desc := by
      simp
    rw [child', and_comm, ← parseDevDesc_iff]
    refine Returns.calloc ?_
    cases parseDevDesc drsOps child with
    | none => exact (Returns.never fun _ => returns_pure.congr (by simp)).congr (by simp)
    | some found => exact returns_pure

theorem parseUsbFnDevStrings_returns (node : Node) (fnStrings : List UsbFnStrings) :
    Returns (parseUsbFnDevStrings (some drsOps) allocates node) (some fnStrings)
      ((∃ child, named drsOps node "usb_dev_string" = some child ∧
        IsList drsOps child "stringTabList" (IsStrings drsOps) fnStrings) ∧ StringsAllocated allocates .device fnStrings) := by
  unfold parseUsbFnDevStrings
  simp only
  cases named drsOps node "usb_dev_string" with
  | none => exact returns_pure.congr (by simp)
  | some child =>
    refine (parseStrings_returns drsOps allocates .device child fnStrings).congr (and_congr_left fun _ => ⟨fun is => ⟨child, rfl, is⟩, ?_⟩)
    rintro ⟨_, same, is⟩
    cases same
    exact is

theorem parseUsbFnConfigurations_returns (deviceStrings : List UsbFnStrings) (node : Node) {configs : List UsbFnConfiguration}
    (told : ∃ child, named drsOps node "usb_configuration" = some child ∧
      IsList drsOps child "configList" (IsConfiguration drsOps otg) configs) :
    Returns (parseUsbFnConfigurations (some drsOps) allocates deviceStrings node) (some configs)
      ((∃ child, named drsOps node "usb_configuration" = some child ∧
        IsList drsOps child "configList" (IsConfiguration drsOps "bcdUSB") configs) ∧ ConfigsAllocated allocates configs) := by
  obtain ⟨child, found, told⟩ := told
  unfold parseUsbFnConfigurations
  simp only
  rw [found]
  refine (parseUsbFnCfgLists_returns drsOps allocates deviceStrings child told).congr
    (and_congr_left fun _ => ⟨fun is => ⟨child, rfl, is⟩, ?_⟩)
  rintro ⟨_, same, is⟩
  cases same
  exact is

/-- A description that the tree says is returned if it is also the one with the attribute that is read for OTG 2.0, and every block
    can be allocated. -/
theorem getInstanceFromHCS_returns (node : Node) {desc : UsbFnDeviceDesc} (told : IsDescription drsOps otg node desc) :
    Returns (getInstanceFromHCS (some drsOps) allocates (some node)) (some desc)
      (IsDescription drsOps "bcdUSB" node desc ∧ Allocated allocates desc) := by
  have failed : Returns failDevString (some desc) False := .never fun _ => .never fun _ => returns_pure.congr (by simp)
  apply Returns.congr
  · refine Returns.calloc ((parseUsbFnDevDesc_returns drsOps allocates node desc.deviceDesc).bind
      ((parseUsbFnDevStrings_returns drsOps allocates node desc.deviceStrings).bind
        ((parseUsbFnConfigurations_returns drsOps allocates desc.deviceStrings node told.configs).bind
          (d := True) ?_ ?_) ?_) ?_)
    · exact returns_pure.congr (iff_of_true rfl trivial)
    · intro other differs
      cases other with
      | none => exact failed
      | some configs =>
        refine returns_pure.congr (iff_of_false (fun same => differs ?_) id)
        exact congrArg some (congrArg UsbFnDeviceDesc.configs (some.inj same))
    · intro other differs
      cases other with
      | none => exact failed
      | some deviceStrings =>
        refine .never fun configs => ?_
        cases configs with
        | none => exact failed
        | some configs =>
          refine returns_pure.congr (iff_of_false (fun same => differs ?_) id)
          exact congrArg some (congrArg UsbFnDeviceDesc.deviceStrings (some.inj same))
    · intro other differs
      cases other with
      | none => exact returns_pure.congr (by simp)
      | some deviceDesc =>
        refine .never fun deviceStrings => ?_
        cases deviceStrings with
        | none => exact failed
        | some deviceStrings =>
          refine .never fun configs => ?_
          cases configs with
          | none => exact failed
          | some configs =>
            refine returns_pure.congr (iff_of_false (fun same => differs ?_) id)
            exact congrArg some (congrArg UsbFnDeviceDesc.deviceDesc (some.inj same))
  · constructor
    · rintro ⟨usbDevDesc, ⟨devDesc, deviceDesc⟩, ⟨devStrings, deviceStrings⟩, ⟨configs, configs'⟩, _⟩
      exact ⟨⟨devDesc, devStrings, configs⟩, usbDevDesc, deviceDesc, deviceStrings, configs'⟩
    · rintro ⟨is, blocks⟩
      exact ⟨blocks.usbDevDesc, ⟨is.deviceDesc, blocks.deviceDesc⟩, ⟨is.deviceStrings, blocks.deviceStrings⟩,
        ⟨is.configs, blocks.configs⟩, trivial⟩

end

end Peripheral.UsbFnCfgMgr
