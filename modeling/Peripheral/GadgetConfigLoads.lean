import Peripheral.GadgetConfigTrees

/-!
The blocks that the loading of a configuration leaves, and those that the release of a description leaves.
-/
namespace Peripheral.UsbFnCfgMgr
open Faults Function

def There (site : Site) (live : Ledger) : Prop := live site = true

variable {live : Ledger}

@[simp] theorem needs_usbFnMemCalloc {allocates : Site → Bool} {site : Site} {ends : Ends Fault Empty Ledger Bool} :
    Needs (usbFnMemCalloc allocates site) ends live ↔
      if allocates site then ends.last true (update live site true) else ends.last false live := by
  unfold usbFnMemCalloc
  split <;> rfl

@[simp] theorem needs_usbFnMemFree {site : Site} {ends : Ends Fault Empty Ledger Unit} : Needs (usbFnMemFree site) ends live ↔
      if live site then ends.last () (update live site false) else ends.wrong .notAllocated live := by
  unfold usbFnMemFree
  rw [needs_bind, needs_get]
  split
  · rename_i there
    simp [there]
  · rename_i missing
    simp [missing]

section
variable {site : Site}

theorem keeps_calloc (allocates : Site → Bool) (other : Site) : Keeps (There site) (usbFnMemCalloc allocates other) := by
  intro live there
  rw [needs_usbFnMemCalloc]
  split
  · show update live other true site = true
    by_cases same : site = other
    · rw [same, update_self]
    · rw [update_of_ne same]
      exact there
  · exact there

variable {other : Site}

theorem keeps_free (differs : other ≠ site) : Keeps (There site) (usbFnMemFree other) := by
  intro live there
  rw [needs_usbFnMemFree]
  split
  · show update live other false site = true
    rw [update_of_ne differs.symm]
    exact there
  · trivial

theorem keeps_freeDown {sites : Nat → Site} (differs : ∀ k, sites k ≠ site) : ∀ count, Keeps (There site) (freeDown sites count) := by
  intro count
  induction count with
  | zero => exact keeps_pure
  | succ count ih => exact (keeps_free (differs count)).bind fun _ => ih

variable {α : Type}

variable {parse : Nat → Load (Option α)} {release : Nat → Load Unit}

theorem keeps_parseEach {begin' : Nat}
    (each : ∀ k, begin' ≤ k → Keeps (There site) (parse k)) (releases : ∀ k, Keeps (There site) (release k)) :
    ∀ (n : Nat) (done : List α), begin' ≤ done.length → Keeps (There site) (parseEach parse release n done) := by
  intro n
  induction n with
  | zero => exact fun _ _ => keeps_pure
  | succ n ih =>
    intro done reached
    refine (each done.length reached).bind fun found => ?_
    cases found with
    | none => exact (releases done.length).bind fun _ => keeps_pure
    | some entry => exact ih (entry :: done) (Nat.le_succ_of_le reached)

theorem parseEach_first {left : Site} {n : Nat} (some' : n ≠ 0) (first : Needs (parse 0)
      (.only fun r t => (r ≠ none → There site t) ∧ (r = none → There left t)) live)
    (later : ∀ k, 1 ≤ k → Keeps (There site) (parse k)) (releases : ∀ k, Keeps (There site) (release k))
    (released : Keeps (There left) (release 0)) : Needs (parseEach parse release n [])
      (.only fun r t => (r ≠ none → There site t) ∧ (There left t ∨ There site t)) live := by
  obtain ⟨n, rfl⟩ := Nat.exists_eq_succ_of_ne_zero some'
  refine Needs.bind first ?_
  intro r t leaves
  cases r with
  | none =>
    refine Needs.bind ((released t (leaves.2 rfl)).only fun _ _ h => h) ?_
    exact fun _ _ there => ⟨fun some' => absurd rfl some', .inl there⟩
  | some entry =>
    have kept := keeps_parseEach later releases n [entry] (Nat.le_refl 1) t (leaves.1 (by simp))
    exact kept.only fun _ _ there => ⟨fun _ => there, .inr there⟩

theorem parseEach_fails {n : Nat} (some' : n ≠ 0) {ends : Ends Fault Empty Ledger (Option (List α))}
    (first : Needs (parse 0) (ends.before fun r t => r = none ∧ Needs (release 0) (ends.before fun _ => ends.last none) t) live) :
    Needs (parseEach parse release n []) ends live := by
  obtain ⟨n, rfl⟩ := Nat.exists_eq_succ_of_ne_zero some'
  refine Needs.bind first ?_
  rintro r t ⟨rfl, released⟩
  exact Needs.bind released fun _ _ last => last

theorem keeps_freeEach {release : Nat → α → Load Unit} (each : ∀ k a, Keeps (There site) (release k a)) :
    ∀ (iCount : Int) (entries : List α), Keeps (There site) (freeEach release iCount entries) := by
  intro iCount entries
  induction entries generalizing iCount with
  | nil => exact keeps_ite keeps_goWrong keeps_pure
  | cons entry rest ih => exact keeps_ite keeps_goWrong ((each iCount.toNat entry).bind fun _ => ih (next iCount))

theorem keeps_allocated {allocates : Site → Bool} {q : Load (Option α)} (kept : Keeps (There site) q) :
    Keeps (There site) (usbFnMemCalloc allocates other >>= fun there => if there = true then q else pure none) := by
  refine (keeps_calloc allocates other).bind fun there => ?_
  exact keeps_ite kept keeps_pure

variable {Node : Type} (drsOps : DeviceResourceIface Node) (allocates : Site → Bool)

theorem keeps_parseList {array : Site} {node : Node} {list : String}
    (each : ∀ k, Keeps (There site) (parse k)) (releases : ∀ k, Keeps (There site) (release k)) :
    Keeps (There site) (parseList drsOps allocates array parse release node list) :=
  keeps_ite keeps_pure (keeps_allocated (keeps_parseEach (fun k _ => each k) releases _ [] (Nat.le_refl 0)))

theorem keeps_entry {node : Node} {list : String} {k : Nat} {parse : Node → Load (Option α)}
    (kept : ∀ child, Keeps (There site) (parse child)) :
    Keeps (There site)
      (match entry drsOps node list k with
        | none => pure none
        | some child => parse child) := by
  cases entry drsOps node list k with
  | none => exact keeps_pure
  | some child => exact kept child

theorem keeps_parseString {owner : Owner} {count : Nat} (differs : Site.strings owner count ≠ site) (node : Node) :
    Keeps (There site) (parseString drsOps allocates owner count node) := by
  unfold parseString
  cases drsOps.getUint16 node "language" with
  | none => exact keeps_pure
  | some language =>
    exact (keeps_parseList drsOps allocates (fun _ => keeps_pure) fun _ => keeps_free differs).bind fun _ => keeps_pure

theorem keeps_parseDesc (differs : other ≠ site) (node : Node) :
    Keeps (There site) (parseDesc drsOps allocates other node) := by
  unfold parseDesc
  cases drsOps.getUint8 node "bLength" with
  | none => exact keeps_pure
  | some length =>
    simp only
    cases drsOps.getUint8 node "bDescriptorType" with
    | none => exact keeps_pure
    | some descType =>
      refine keeps_ite keeps_pure (keeps_allocated ?_)
      cases parseDescriptor drsOps node (List.replicate length.toNat 0) descType length with
      | ret descBuff => exact keeps_pure
      | error e => exact (keeps_free differs).bind fun _ => keeps_pure
      | fault => exact keeps_goWrong
      | stuck => exact keeps_goWrong

end

def firstStrings : Site := .strings .device 0

section
variable {Node : Type} (drsOps : DeviceResourceIface Node) (allocates : Site → Bool)

theorem keeps_functionStrings (c f : Nat) (node : Node) :
    Keeps (There firstStrings) (parseStrings drsOps allocates (.function c f) node) := by
  refine keeps_parseList drsOps allocates (fun k => ?_) fun k => ?_
  · exact keeps_allocated (keeps_entry drsOps fun child => keeps_parseString drsOps allocates (by simp [firstStrings]) child)
  · refine (keeps_freeDown ?_ k).bind fun _ => keeps_free (by simp [firstStrings])
    simp [firstStrings]

theorem keeps_parseFunDesc (c f : Nat) (speed : Speed) (descName : String) (node : Node) :
    Keeps (There firstStrings) (parseFunDesc drsOps allocates c f speed descName node) := by
  refine keeps_parseList drsOps allocates (fun k => ?_) fun k => ?_
  · exact keeps_entry drsOps fun child => keeps_parseDesc drsOps allocates (by simp [firstStrings]) child
  · refine (keeps_freeDown ?_ k).bind fun _ => keeps_free (by simp [firstStrings])
    simp [firstStrings]

theorem keeps_parseUsbFnFunction (c f : Nat) (node : Node) :
    Keeps (There firstStrings) (parseUsbFnFunction drsOps allocates c f node) := by
  unfold parseUsbFnFunction
  cases drsOps.getString node "funcName" with
  | none => exact keeps_pure
  | some funcName =>
    refine (keeps_functionStrings drsOps allocates c f node).bind fun strings => ?_
    cases strings with
    | none => exact keeps_pure
    | some strings =>
      have part := fun speed descName => keeps_parseFunDesc drsOps allocates c f speed descName node
      exact (part .fs _).bind fun _ => (part .hs _).bind fun _ => (part .ss _).bind fun _ => (part .ssp _).bind fun _ => keeps_pure

theorem keeps_parseUsbFnFunctions (c : Nat) (node : Node) :
    Keeps (There firstStrings) (parseUsbFnFunctions drsOps allocates c node) := by
  refine keeps_parseList drsOps allocates (fun k => ?_) fun k => ?_
  · exact keeps_allocated (keeps_entry drsOps fun child => keeps_parseUsbFnFunction drsOps allocates c k child)
  · refine (keeps_freeDown ?_ (k - 1)).bind fun _ => keeps_free (by simp [firstStrings])
    simp [firstStrings]

theorem keeps_parseUsbFnConfiguration (c : Nat) (node : Node) :
    Keeps (There firstStrings) (parseUsbFnConfiguration drsOps allocates c node) := by
  unfold parseUsbFnConfiguration
  split
  · exact (keeps_parseUsbFnFunctions drsOps allocates c node).bind fun _ => keeps_pure
  · exact keeps_pure

theorem keeps_freeDeviceStrings (languages : Nat) : ∀ count, Keeps (There firstStrings) (freeDeviceStrings languages count) := by
  intro count
  induction count with
  | zero => exact keeps_free (by simp [firstStrings])
  | succ count ih =>
    refine Keeps.bind ?_ fun _ => ih
    exact keeps_ite (keeps_free (by simp [firstStrings])) (keeps_ite keeps_pure keeps_goWrong)

theorem keeps_parseUsbFnCfgLists (deviceStrings : List UsbFnStrings) (node : Node) :
    Keeps (There firstStrings) (parseUsbFnCfgLists drsOps allocates deviceStrings node) :=
  keeps_parseList drsOps allocates
    (fun k => keeps_allocated (keeps_entry drsOps fun child => keeps_parseUsbFnConfiguration drsOps allocates k child))
    (keeps_freeDeviceStrings deviceStrings.length)

end

theorem keeps_freeUsbFnDeviceDesc (desc : UsbFnDeviceDesc) : Keeps (There firstStrings) (freeUsbFnDeviceDesc desc) := by
  have strings : ∀ owner fnStrings, Keeps (There firstStrings) (freeFnStrings owner fnStrings) := by
    intro owner fnStrings
    exact (keeps_freeEach (fun _ _ => keeps_free (by simp [firstStrings])) 0 fnStrings).bind fun _ =>
      keeps_free (by simp [firstStrings])
  have heads : ∀ c f speed descHeads, Keeps (There firstStrings) (freeFuncDescHead c f speed descHeads) := by
    intro c f speed descHeads
    cases descHeads with
    | none => exact keeps_pure
    | some descHeads =>
      exact (keeps_freeEach (fun _ _ => keeps_free (by simp [firstStrings])) 0 descHeads).bind fun _ =>
        keeps_free (by simp [firstStrings])
  have functions : ∀ c fnFunctions, Keeps (There firstStrings) (freeFunctions c fnFunctions) := by
    intro c fnFunctions
    refine (keeps_freeEach (fun f fn => ?_) 0 fnFunctions).bind fun _ => keeps_free (by simp [firstStrings])
    exact (strings _ _).bind fun _ => (heads c f .fs _).bind fun _ => (heads c f .hs _).bind fun _ =>
      (heads c f .ss _).bind fun _ => (heads c f .ssp _).bind fun _ => keeps_free (by simp [firstStrings])
  have configs : ∀ fnConfigs, Keeps (There firstStrings) (freeConfigs fnConfigs) := by
    intro fnConfigs
    refine (keeps_freeEach (fun c config => ?_) 0 fnConfigs).bind fun _ => keeps_free (by simp [firstStrings])
    exact (functions c _).bind fun _ => keeps_free (by simp [firstStrings])
  exact (keeps_free (by simp [firstStrings])).bind fun _ => (strings _ _).bind fun _ => (configs _).bind fun _ =>
    keeps_free (by simp [firstStrings])

section
variable {Node : Type} (drsOps : DeviceResourceIface Node) (allocates : Site → Bool)

theorem parseString_there (owner : Owner) (count : Nat) (node : Node) (live : Ledger) :
    Needs (parseString drsOps allocates owner count node)
      (.only fun r t => r ≠ none → There (.strings owner count) t) live := by
  have loop : ∀ (n : Nat) (done : List UsbString) (live : Ledger), There (.strings owner count) live →
      Needs (parseEach (fun iCount => pure (parseUsbString drsOps node iCount)) (fun _ => usbFnMemFree (.strings owner count)) n done)
        (.only fun r t => r ≠ none → There (.strings owner count) t) live := by
    intro n
    induction n with
    | zero => exact fun _ _ there _ => there
    | succ n ih =>
      intro done live there
      rw [parseEach, needs_bind, needs_pure]
      show Needs _ _ live
      cases parseUsbString drsOps node done.length with
      | none =>
        have live' : live (.strings owner count) = true := there
        rw [needs_bind, needs_usbFnMemFree, if_pos live']
        exact fun some' => absurd rfl some'
      | some string => exact ih (string :: done) live there
  unfold parseString
  cases drsOps.getUint16 node "language" with
  | none => exact fun some' => absurd rfl some'
  | some language =>
    rw [needs_bind]
    unfold parseList
    split
    · exact fun some' => absurd rfl some'
    · rw [needs_bind, needs_usbFnMemCalloc]
      split
      · refine (loop _ [] _ (update_self _ _ _)).only ?_
        intro r t there some'
        exact there fun none => some' (by rw [none]; rfl)
      · exact fun some' => absurd rfl some'

theorem parseStrings_left (node : Node) (live : Ledger) : Needs (parseStrings drsOps allocates .device node)
      (.only fun r t => (r ≠ none → There firstStrings t) ∧
        (drsOps.getElemNum node "stringTabList" ≤ 0 ∨ allocates (.fnStrings .device) = false ∨
            allocates (.fnString .device 0) = false ∨ There (.fnString .device 0) t ∨ There firstStrings t)) live := by
  unfold parseStrings parseList
  split
  · rename_i none
    exact ⟨fun some' => absurd rfl some', .inl none⟩
  · rename_i many
    rw [needs_bind, needs_usbFnMemCalloc]
    split
    · show Needs (ite _ _ _) _ _
      rw [if_pos rfl]
      have entries : (drsOps.getElemNum node "stringTabList").toNat ≠ 0 := by omega
      have later : ∀ k, 1 ≤ k → Site.strings .device k ≠ firstStrings := by
        intro k behind
        simp only [firstStrings, ne_eq, Site.strings.injEq, true_and]
        omega
      by_cases first : allocates (.fnString .device 0)
      · refine (parseEach_first entries ?_ (fun k behind => ?_) (fun k => ?_) ?_).only fun r t leaves =>
          ⟨leaves.1, .inr (.inr (.inr leaves.2))⟩
        · rw [needs_bind, needs_usbFnMemCalloc, if_pos first]
          have there : There (.fnString .device 0) (update (update live (.fnStrings .device) true) (.fnString .device 0) true) :=
            update_self _ _ _
          show Needs (ite _ _ _) _ _
          rw [if_pos rfl]
          cases entry drsOps node "stringTabList" 0 with
          | none => exact ⟨fun some' => absurd rfl some', fun _ => there⟩
          | some child =>
            have other : Site.strings .device 0 ≠ .fnString .device 0 := by simp
            have kept := keeps_parseString drsOps allocates other child _ there
            have both := (parseString_there drsOps allocates .device 0 child _).and kept
            exact both.only fun _ _ both => ⟨both.1, fun _ => both.2⟩
        · exact keeps_allocated (keeps_entry drsOps fun child => keeps_parseString drsOps allocates (later k behind) child)
        · refine (keeps_freeDown ?_ k).bind fun _ => keeps_free (by simp [firstStrings])
          simp [firstStrings]
        · exact keeps_pure.bind fun _ => keeps_free (by simp)
      · have none : allocates (.fnString .device 0) = false := by simpa using first
        refine parseEach_fails entries ?_
        rw [needs_bind, needs_usbFnMemCalloc, none, if_neg Bool.false_ne_true]
        refine ⟨rfl, needs_any.only fun _ t _ => ?_⟩
        exact ⟨fun some' => absurd rfl some', .inr (.inr (.inl rfl))⟩
    · rename_i missing
      exact ⟨fun some' => absurd rfl some', .inr (.inl (by simpa using missing))⟩

def NoStrings (tree : Node) : Prop :=
  ∀ child, named drsOps tree "usb_dev_string" = some child →
    drsOps.getElemNum child "stringTabList" ≤ 0 ∨ allocates (.fnStrings .device) = false ∨ allocates (.fnString .device 0) = false

theorem parseUsbFnDevStrings_left (tree : Node) (live : Ledger) : Needs (parseUsbFnDevStrings (some drsOps) allocates tree)
      (.only fun r t => (r ≠ none → There firstStrings t) ∧
        (NoStrings drsOps allocates tree ∨ There (.fnString .device 0) t ∨ There firstStrings t)) live := by
  unfold parseUsbFnDevStrings NoStrings
  simp only
  cases named drsOps tree "usb_dev_string" with
  | none =>
    refine ⟨fun some' => absurd rfl some', .inl fun child found => ?_⟩
    cases found
  | some child =>
    refine (parseStrings_left drsOps allocates child live).only ?_
    rintro r t ⟨there, none | none | none | left⟩
    · exact ⟨there, .inl fun _ found => by cases found; exact .inl none⟩
    · exact ⟨there, .inl fun _ _ => .inr (.inl none)⟩
    · exact ⟨there, .inl fun _ _ => .inr (.inr none)⟩
    · exact ⟨there, .inr left⟩

theorem keeps_parseUsbFnConfigurations (deviceStrings : List UsbFnStrings) (tree : Node) :
    Keeps (There firstStrings) (parseUsbFnConfigurations (some drsOps) allocates deviceStrings tree) := by
  unfold parseUsbFnConfigurations
  simp only
  cases named drsOps tree "usb_configuration" with
  | none => exact keeps_pure
  | some configNode => exact keeps_parseUsbFnCfgLists drsOps allocates deviceStrings configNode

theorem failDevString_eq :
    failDevString = (usbFnMemFree .deviceDesc >>= fun _ => usbFnMemFree .usbDevDesc) >>= fun _ => pure none := by
  rw [bind_assoc]
  rfl

theorem failDevString_any (live : Ledger) : Needs failDevString (.only fun r _ => r = none) live := by
  rw [failDevString_eq]
  exact Needs.bind needs_any fun _ _ _ => rfl

theorem failDevString_left {site : Site} (other : Site.deviceDesc ≠ site) (other' : Site.usbDevDesc ≠ site)
    (there : There site live) : Needs failDevString (.only fun r t => r = none ∧ There site t) live := by
  have kept : Keeps (There site) (usbFnMemFree .deviceDesc >>= fun _ => usbFnMemFree .usbDevDesc) :=
    (keeps_free other).bind fun _ => keeps_free other'
  rw [failDevString_eq]
  refine Needs.bind ((kept live there).only fun _ _ h => h) ?_
  exact fun _ _ there => ⟨rfl, there⟩

end

section
variable {Node : Type} (deviceResourceGetIfaceInstance : Option (DeviceResourceIface Node)) (allocates : Site → Bool)

theorem parseUsbFnDevDesc_left (tree : Node) (there : There .usbDevDesc live) :
    Needs (parseUsbFnDevDesc deviceResourceGetIfaceInstance allocates tree) (.only fun r t => There .usbDevDesc t ∧
        (r ≠ none → ∃ drsOps, deviceResourceGetIfaceInstance = some drsOps ∧ allocates .deviceDesc ∧
          ∃ child desc, named drsOps tree "usb_dev_desc" = some child ∧ IsDeviceDesc drsOps child desc)) live := by
  unfold parseUsbFnDevDesc
  cases deviceResourceGetIfaceInstance with
  | none => exact ⟨there, fun some' => absurd rfl some'⟩
  | some drsOps =>
    simp only
    cases found : named drsOps tree "usb_dev_desc" with
    | none => exact ⟨there, fun some' => absurd rfl some'⟩
    | some child =>
      simp only
      rw [needs_bind, needs_usbFnMemCalloc]
      have kept : There .usbDevDesc (update live .deviceDesc true) := by
        show update live .deviceDesc true .usbDevDesc = true
        rw [update_of_ne (by simp)]
        exact there
      split
      · rename_i block
        show Needs (ite _ _ _) _ _
        rw [if_pos rfl]
        cases parsed : parseDevDesc drsOps child with
        | none =>
          refine Needs.bind (((keeps_free (by simp)) _ kept).only fun _ _ h => h) ?_
          exact fun _ _ there => ⟨there, fun some' => absurd rfl some'⟩
        | some desc =>
          exact ⟨kept, fun _ => ⟨drsOps, rfl, block, child, desc, found, (parseDevDesc_iff drsOps child desc).mp parsed⟩⟩
      · exact ⟨there, fun some' => absurd rfl some'⟩

/-- Strings of a description that is returned are there; when none is returned something is left unless the loading ends early. -/
theorem getInstanceFromHCS_left (node : Option Node) : Needs (getInstanceFromHCS deviceResourceGetIfaceInstance allocates node)
      (.only fun r t => (r ≠ none → There firstStrings t) ∧
        (r = none → EndsEarly deviceResourceGetIfaceInstance allocates node ∨ ∃ site, There site t)) (fun _ => false) := by
  unfold getInstanceFromHCS
  cases node with
  | none => exact ⟨fun some' => absurd rfl some', fun _ => .inl (.inl rfl)⟩
  | some tree =>
    simp only
    rw [needs_bind, needs_usbFnMemCalloc]
    split
    · show Needs (ite _ _ _) _ _
      rw [if_pos rfl]
      have begun : There .usbDevDesc (update (fun _ => false) .usbDevDesc true) := update_self _ _ _
      refine Needs.bind ((parseUsbFnDevDesc_left deviceResourceGetIfaceInstance allocates tree begun).only fun _ _ h => h) ?_
      rintro r t ⟨there, device⟩
      cases r with
      | none => exact ⟨fun some' => absurd rfl some', fun _ => .inr ⟨_, there⟩⟩
      | some deviceDesc =>
        obtain ⟨drsOps, rfl, descriptor⟩ := device (by simp)
        refine Needs.bind ((parseUsbFnDevStrings_left drsOps allocates tree t).only fun _ _ h => h) ?_
        rintro r t ⟨strings, left⟩
        have fails : ∀ site t, site ≠ Site.deviceDesc → site ≠ Site.usbDevDesc → There site t →
            Needs failDevString (.only fun r t => (r ≠ none → There firstStrings t) ∧
              (r = none → EndsEarly (some drsOps) allocates (some tree) ∨ ∃ site, There site t)) t := by
          intro site t other other' there
          refine (failDevString_left other.symm other'.symm there).only ?_
          rintro r t ⟨none, there⟩
          exact ⟨fun some' => absurd none some', fun _ => .inr ⟨site, there⟩⟩
        cases r with
        | none =>
          rcases left with none | left | left
          · have early : EndsEarly (some drsOps) allocates (some tree) :=
              .inr (.inr ⟨drsOps, rfl, tree, rfl, descriptor, none⟩)
            exact (failDevString_any t).only fun _ _ none => ⟨fun some' => absurd none some', fun _ => .inl early⟩
          · exact fails _ t (by simp) (by simp) left
          · exact fails _ t (by simp [firstStrings]) (by simp [firstStrings]) left
        | some deviceStrings =>
          have keeps := keeps_parseUsbFnConfigurations drsOps allocates deviceStrings tree
          refine Needs.bind ((keeps t (strings (by simp))).only fun _ _ h => h) ?_
          intro r t kept
          cases r with
          | none => exact fails _ t (by simp [firstStrings]) (by simp [firstStrings]) kept
          | some configs => exact ⟨fun _ => kept, fun none => by cases none⟩
    · rename_i missing
      exact ⟨fun some' => absurd rfl some', fun _ => .inl (.inr (.inl (by simpa using missing)))⟩

theorem update_back {site : Site} (fresh : live site = false) : update (update live site true) site false = live := by
  rw [update_idem, ← fresh, update_eq_self]

theorem parseStrings_early {drsOps : DeviceResourceIface Node} {node : Node} (fresh : live (.fnStrings .device) = false)
    (early : drsOps.getElemNum node "stringTabList" ≤ 0 ∨ allocates (.fnStrings .device) = false ∨
      allocates (.fnString .device 0) = false) :
    Needs (parseStrings drsOps allocates .device node) ⟨fun _ _ => False, fun _ _ => True, fun r t => r = none ∧ t = live⟩ live := by
  unfold parseStrings parseList
  split
  · exact ⟨rfl, rfl⟩
  · rename_i many
    rw [needs_bind, needs_usbFnMemCalloc]
    split
    · rename_i block
      show Needs (ite _ _ _) _ _
      rw [if_pos rfl]
      have none : allocates (.fnString .device 0) = false := by
        rcases early with few | missing | missing
        · exact absurd few many
        · rw [block] at missing
          cases missing
        · exact missing
      refine parseEach_fails (by omega) ?_
      rw [needs_bind, needs_usbFnMemCalloc, none, if_neg Bool.false_ne_true]
      refine ⟨rfl, ?_⟩
      show Needs (pure () >>= fun _ => usbFnMemFree (.fnStrings .device)) _ _
      rw [needs_bind, needs_pure, before_last, needs_usbFnMemFree, if_pos (update_self _ _ _)]
      exact ⟨rfl, update_back fresh⟩
    · exact ⟨rfl, rfl⟩

theorem getInstanceFromHCS_early {node : Option Node} (early : EndsEarly deviceResourceGetIfaceInstance allocates node) :
    Needs (getInstanceFromHCS deviceResourceGetIfaceInstance allocates node)
      ⟨fun _ _ => False, fun _ _ => True, fun r t => r = none ∧ t = fun _ => false⟩ (fun _ => false) := by
  unfold getInstanceFromHCS
  cases node with
  | none => exact ⟨rfl, rfl⟩
  | some tree =>
    simp only
    rw [needs_bind, needs_usbFnMemCalloc]
    split
    · rename_i begun
      show Needs (ite _ _ _) _ _
      rw [if_pos rfl]
      rcases early with none | missing | ⟨drsOps, rfl, tree', same, ⟨block, child, desc, found, is⟩, none⟩
      · cases none
      · rw [begun] at missing
        cases missing
      · cases same
        have device : Needs (parseUsbFnDevDesc (some drsOps) allocates tree)
            ⟨fun _ _ => False, fun _ _ => True, fun r t => r = some desc ∧
              t = update (update (fun _ => false) .usbDevDesc true) .deviceDesc true⟩
            (update (fun _ => false) .usbDevDesc true) := by
          unfold parseUsbFnDevDesc
          simp only
          rw [found]
          simp only
          rw [needs_bind, needs_usbFnMemCalloc, if_pos block, (parseDevDesc_iff drsOps child desc).mpr is]
          exact ⟨rfl, rfl⟩
        refine Needs.bind (device.mono (fun _ _ h => h) (fun _ _ h => h) fun _ _ h => h) ?_
        rintro r t ⟨rfl, rfl⟩
        have strings : Needs (parseUsbFnDevStrings (some drsOps) allocates tree)
            ⟨fun _ _ => False, fun _ _ => True, fun r t => r = Option.none ∧
              t = update (update (fun _ => false) .usbDevDesc true) .deviceDesc true⟩
            (update (update (fun _ => false) .usbDevDesc true) .deviceDesc true) := by
          unfold parseUsbFnDevStrings
          simp only
          cases named' : named drsOps tree "usb_dev_string" with
          | none => exact ⟨rfl, rfl⟩
          | some child' => exact parseStrings_early allocates (by simp [update_of_ne]) (none child' named')
        refine Needs.bind (strings.mono (fun _ _ h => h) (fun _ _ h => h) fun _ _ h => h) ?_
        rintro r t ⟨rfl, rfl⟩
        show Needs failDevString _ _
        unfold failDevString
        rw [needs_bind, needs_usbFnMemFree, if_pos (update_self _ _ _), update_back (by simp [update_of_ne]), before_last,
          needs_bind, needs_usbFnMemFree, if_pos (update_self _ _ _), update_back rfl]
        exact ⟨rfl, rfl⟩
    · exact ⟨rfl, rfl⟩

/-! ### The loading and the release -/

theorem Needs.returned {α : Type} {p : Load α} {ends : Ends Fault Empty Ledger α} (needs : Needs p ends live)
    {a : α} {after : Ledger} (ran : p.run live = .ok a after) : ends.last a after := by
  rw [Needs, ran] at needs
  exact needs

theorem loadRight_iff (node : Option Node) : LoadRight deviceResourceGetIfaceInstance allocates node ↔
      EndsEarly deviceResourceGetIfaceInstance allocates node ∨ Loads deviceResourceGetIfaceInstance allocates node := by
  have left := getInstanceFromHCS_left deviceResourceGetIfaceInstance allocates node
  constructor
  · rintro ⟨result, live, ran, right⟩
    cases result with
    | none =>
      obtain early | ⟨site, there⟩ := (Needs.returned left ran).2 rfl
      · exact .inl early
      · have released := right site
        rw [there] at released
        cases released
    | some desc =>
      obtain ⟨drsOps, rfl, tree, rfl, is⟩ := right
      have loads := (getInstanceFromHCS_returns drsOps allocates tree is _).mp ⟨live, ran⟩
      exact .inr ⟨drsOps, rfl, tree, rfl, desc, is, loads⟩
  · rintro (early | ⟨drsOps, rfl, tree, rfl, desc, is, loads⟩)
    · have needs := getInstanceFromHCS_early deviceResourceGetIfaceInstance allocates early
      rw [Needs] at needs
      cases ran : (getInstanceFromHCS deviceResourceGetIfaceInstance allocates node).run fun _ => false with
      | ok result live =>
        rw [ran] at needs
        obtain ⟨rfl, rfl⟩ := needs
        exact ⟨none, _, ran, fun _ => rfl⟩
      | error stop live =>
        rw [ran] at needs
        cases stop with
        | returned r => exact r.elim
        | wrong fault => exact needs.elim
    · obtain ⟨live, ran⟩ := (getInstanceFromHCS_returns drsOps allocates tree is _).mpr loads
      exact ⟨some desc, live, ran, drsOps, rfl, tree, rfl, is⟩

theorem neverReleased (node : Option Node) : NeverReleased deviceResourceGetIfaceInstance allocates node := by
  rintro desc live ran ⟨after, freed, released⟩
  have left := getInstanceFromHCS_left deviceResourceGetIfaceInstance allocates node
  have there := (Needs.returned left ran).1 (by simp)
  have kept := Needs.returned (keeps_freeUsbFnDeviceDesc desc live there) freed
  have none := released firstStrings
  rw [show after firstStrings = true from kept] at none
  cases none

/-- A loading comes to the description of the tree, or leaves nothing, exactly when it ends early or every descriptor can be read
    and every block be allocated; the parser of a descriptor stays inside of its length exactly when that is enough for the fields
    that it reaches; and no description that is returned is ever released whole. -/
theorem config_right (node : Option Node) : (LoadRight deviceResourceGetIfaceInstance allocates node ↔
      EndsEarly deviceResourceGetIfaceInstance allocates node ∨ Loads deviceResourceGetIfaceInstance allocates node) ∧
    (∀ (drsOps : DeviceResourceIface Node) (descNode : Node), StoresInside drsOps descNode ↔ LongEnough drsOps descNode) ∧
    NeverReleased deviceResourceGetIfaceInstance allocates node :=
  ⟨loadRight_iff deviceResourceGetIfaceInstance allocates node, storesInside_iff,
    neverReleased deviceResourceGetIfaceInstance allocates node⟩

end

def noAnswers : DeviceResourceIface Unit where
  getUint8 _ _ := none
  getUint16 _ _ := none
  getUint32 _ _ := none
  getUint8Array _ _ _ := none
  getString _ _ := none
  getElemNum _ _ := 0
  getStringArrayElem _ _ _ := none
  getChildNode _ _ := none

/-- The description itself is left. -/
theorem config_wrong : ¬LoadRight (some noAnswers) (fun _ => true) (some ()) := by
  rintro ⟨result, live, ran, right⟩
  have left : (getInstanceFromHCS (some noAnswers) (fun _ => true) (some ())).run (fun _ => false) =
      .ok none (update (fun _ => false) .usbDevDesc true) := rfl
  rw [left] at ran
  cases ran
  have released := right .usbDevDesc
  rw [update_self] at released
  cases released

end Peripheral.UsbFnCfgMgr
