import Mathlib.Data.List.Induction
import Peripheral.BatteryInfo

/-!
Which node of the power supplies each attribute of the battery is read from, and which nodes are searched for a charger, from
`power_supply_provider.cpp`. The names of earlier listings are kept.
-/
namespace Peripheral.Battery
open PowerSupplyProvider List

def MAX_SYSFS_SIZE : Nat := 64
def BATTERY_NODE_PATH : String := "battery"
def HDF_ERR_IO : Int := -17

structure Dirent where
  name : String
  folder : Bool
  deriving DecidableEq

structure Node extends Dirent where
  files : Option (List Dirent)
  named : name ≠ ""

abbrev Tree := List Node

def Dirent.dots (entry : Dirent) : Bool := entry.name = "." || entry.name = ".."

def Tree.openDir (tree : Tree) (name : String) : Option (List Dirent) := (tree.find? fun node => node.name = name).bind (·.files)

def attributes : List String :=
  ["type", "online", "current_max", "voltage_max", "capacity", "voltage_now", "temp", "health", "status", "present",
    "charge_counter", "technology", "charge_full", "current_avg", "current_now", "charge_now"]

def bound (map : List (String × String)) (key : String) : String := ((map.find? fun entry => entry.1 = key).map Prod.snd).getD ""

def bind (map : List (String × String)) (key path : String) : List (String × String) :=
  map.map fun iter => if iter.1 = key then (key, path) else iter

def checkEntry (path : String) (map : List (String × String)) (entry : Dirent) : List (String × String) :=
  if entry.dots then map
  else if entry.folder then map
  else
    let map := if entry.name = "type" ∧ bound map "type" = "" ∧ path.toLower ≠ BATTERY_NODE_PATH then bind map "type" path else map
    map.map fun iter => if entry.name = iter.1 ∧ iter.2 = "" then (iter.1, path) else iter

def checkSubfolderNode (tree : Tree) (map : List (String × String)) (path : String) : List (String × String) :=
  match tree.openDir path with
  | none => map
  | some entries => entries.foldl (checkEntry path) map

def examine (tree : Tree) (name : String) : List String → List (String × String) → List String × List (String × String)
  | [], map => ([], map)
  | node :: rest, map =>
    if node = name then examine tree name rest (checkSubfolderNode tree map node)
    else
      let (rest, map) := examine tree name rest map
      (node :: rest, map)

def traversalNode (tree : Tree) (nodeNames : List String) : List String × List (String × String) :=
  let map := attributes.map fun key => (key, "")
  let (nodeNames, map) := examine tree BATTERY_NODE_PATH nodeNames map
  let (nodeNames, map) := examine tree POWER_SUPPLY_BATTERY nodeNames map
  (nodeNames, nodeNames.foldl (checkSubfolderNode tree) map)

/-- The loop of `InitPowerSupplySysfs`, with the number of nodes before. -/
def scanNodes : Nat → Tree → List String
  | _, [] => []
  | index, entry :: rest =>
    if entry.dots then scanNodes index rest
    else if entry.folder then
      if index ≥ MAX_SYSFS_SIZE then [] else entry.name :: scanNodes (index + 1) rest
    else scanNodes index rest

namespace PowerSupplyProvider

def formatSysfsPaths (provider : PowerSupplyProvider) : PowerSupplyProvider :=
  let format (key : String) : String := provider.path ++ "/" ++ bound provider.nodeNamePathMap key ++ "/" ++ key
  { provider with batterySysfsInfo := ⟨format "capacity", format "voltage_now", format "temp", format "health", format "status",
      format "present", format "technology", format "charge_counter", format "charge_full", format "current_avg",
      format "current_now", format "charge_now"⟩ }

/-- No listing where the directory cannot be opened. -/
def initPowerSupplySysfs (provider : PowerSupplyProvider) (listing : Option Tree) : Int × PowerSupplyProvider :=
  match listing with
  | none => ( HDF_ERR_IO, provider)
  | some tree =>
    let (nodeNames, map) := traversalNode tree (provider.nodeNames ++ scanNodes 0 tree)
    (0, { provider with nodeNames := nodeNames, nodeNamePathMap := map }.formatSysfsPaths)

def new : PowerSupplyProvider := ⟨POWER_SUPPLY_BASE_PATH, [], [], ⟨"", "", "", "", "", "", "", "", "", "", "", ""⟩⟩

def initialised (listings : List (Option Tree)) : PowerSupplyProvider :=
  listings.foldl (fun provider listing => (provider.initPowerSupplySysfs listing).2) new

end PowerSupplyProvider

def Tree.listed (tree : Tree) : List String := ((tree.filter fun node => !node.dots && node.folder).map (·.name))

def Tree.has (tree : Tree) (key node : String) : Bool :=
  ((tree.openDir node).getD []).any fun entry => !entry.dots && !entry.folder && entry.name = key

def other (node : String) : Bool := node ≠ BATTERY_NODE_PATH && node ≠ POWER_SUPPLY_BATTERY

/-- The battery if it has the file, or the other battery, or the first other node. -/
def Tree.choice (tree : Tree) (key : String) : String :=
  if BATTERY_NODE_PATH ∈ tree.listed ∧ tree.has key BATTERY_NODE_PATH then BATTERY_NODE_PATH
  else if POWER_SUPPLY_BATTERY ∈ tree.listed ∧ tree.has key POWER_SUPPLY_BATTERY then POWER_SUPPLY_BATTERY
  else ((tree.listed.filter other).find? (tree.has key)).getD ""

/-- After an initialisation each attribute has the node that is meant, and the others are searched for a charger. -/
structure NodesRight (earlier : List (Option Tree)) (tree : Tree) : Prop where
  attributes : ∀ key ∈ attributes, key ≠ "type" →
    bound (initialised (earlier ++ [some tree])).nodeNamePathMap key = tree.choice key
  type : (∃ node ∈ tree.listed, other node ∧ tree.has "type" node) →
    ∃ node ∈ tree.listed, bound (initialised (earlier ++ [some tree])).nodeNamePathMap "type" = node ∧ other node
  chargers : ∀ node, node ∈ (initialised (earlier ++ [some tree])).nodeNames ↔ node ∈ tree.listed ∧ other node

def Tree.seen (tree : Tree) : List String := tree.listed.take MAX_SYSFS_SIZE

def keptNodes (earlier : List (Option Tree)) : List String :=
  earlier.flatMap fun listing => (listing.map (·.seen)).getD [] |>.filter other

/-- No node is left that is not listed any more, none is beyond the 64th, nodes that are left do not come before others, and
    where another node has a type, no battery has. -/
structure NodesFine (earlier : List (Option Tree)) (tree : Tree) : Prop where
  stale : ∀ node ∈ keptNodes earlier, node ∈ tree.listed
  room : ∀ node ∈ tree.listed, other node → node ∈ keptNodes earlier ∨ node ∈ tree.seen
  battery : ∀ key ∈ attributes, key ≠ "type" → BATTERY_NODE_PATH ∈ tree.listed → tree.has key BATTERY_NODE_PATH →
    BATTERY_NODE_PATH ∈ tree.seen
  capital : ∀ key ∈ attributes, key ≠ "type" → ¬(BATTERY_NODE_PATH ∈ tree.listed ∧ tree.has key BATTERY_NODE_PATH) →
    POWER_SUPPLY_BATTERY ∈ tree.listed → tree.has key POWER_SUPPLY_BATTERY → POWER_SUPPLY_BATTERY ∈ tree.seen
  order : ∀ key ∈ attributes, key ≠ "type" → ¬(BATTERY_NODE_PATH ∈ tree.listed ∧ tree.has key BATTERY_NODE_PATH) →
    ¬(POWER_SUPPLY_BATTERY ∈ tree.listed ∧ tree.has key POWER_SUPPLY_BATTERY) →
    (keptNodes earlier ++ tree.seen.filter other).find? (tree.has key) = (tree.listed.filter other).find? (tree.has key)
  type : (∃ node ∈ tree.listed, other node ∧ tree.has "type" node) →
    ¬(BATTERY_NODE_PATH ∈ tree.seen ∧ tree.has "type" BATTERY_NODE_PATH) ∧
      ¬(POWER_SUPPLY_BATTERY ∈ tree.seen ∧ tree.has "type" POWER_SUPPLY_BATTERY)

/-! ### Attributes and their nodes -/

def table (f : String → String) : List (String × String) := attributes.map fun key => (key, f key)

def Tree.first (tree : Tree) (searched : List String) (key : String) : String := (searched.find? (tree.has key)).getD ""

variable {key : String}

theorem bound_table (f : String → String) (known : key ∈ attributes) : bound (table f) key = f key := by
  have search : ∀ keys : List String, key ∈ keys →
      (keys.map fun k => (k, f k)).find? (fun entry => entry.1 = key) = some (key, f key) := by
    intro keys
    induction keys with
    | nil =>
      intro member
      cases member
    | cons head rest ih =>
      intro member
      by_cases same : head = key
      · subst same
        simp
      · have later : key ∈ rest := by simpa [Ne.symm same] using member
        simpa [same] using ih later
  unfold bound table
  rw [search attributes known]
  rfl

theorem bind_table (f : String → String) (key path : String) :
    bind (table f) key path = table fun k => if k = key then path else f k := by
  unfold bind table
  rw [map_map]
  refine map_congr_left fun k _ => ?_
  by_cases same : k = key <;> simp [same]

theorem assign_table (f : String → String) (name path : String) :
    (table f).map (fun iter => if name = iter.1 ∧ iter.2 = "" then (iter.1, path) else iter) =
      table fun key => if name = key ∧ f key = "" then path else f key := by
  unfold table
  rw [map_map]
  refine map_congr_left fun key _ => ?_
  by_cases free : name = key ∧ f key = ""
  · simp [free]
  · simp only [Function.comp, if_neg free]

/-- The loop gives `type` to every node, so that the special rule has no effect. -/
theorem checkEntry_table (path : String) (f : String → String) (entry : Dirent) :
    checkEntry path (table f) entry = table fun key =>
      if (!entry.dots && !entry.folder && entry.name = key) ∧ f key = "" then path else f key := by
  unfold checkEntry
  by_cases dots : entry.dots
  · simp [dots]
  by_cases folder : entry.folder
  · simp [folder]
  rw [if_neg dots, if_neg folder, bound_table f (by decide)]
  by_cases special : entry.name = "type" ∧ f "type" = "" ∧ path.toLower ≠ BATTERY_NODE_PATH
  · rw [if_pos special, bind_table, assign_table]
    congr 1
    funext key
    by_cases same : key = "type"
    · subst same
      simp [dots, folder, special.1, special.2.1]
    · have differs : entry.name ≠ key := fun equal => same (equal.symm.trans special.1)
      simp [same, differs]
  · rw [if_neg special, assign_table]
    simp [dots, folder]

theorem checkSubfolderNode_table (tree : Tree) {path : String} (named : path ≠ "") (f : String → String) :
    checkSubfolderNode tree (table f) path = table fun key => if tree.has key path ∧ f key = "" then path else f key := by
  have entries : ∀ (entries : List Dirent) (f : String → String), entries.foldl (checkEntry path) (table f) = table fun key =>
      if (entries.any fun entry => !entry.dots && !entry.folder && entry.name = key) ∧ f key = "" then path else f key := by
    intro entries
    induction entries with
    | nil =>
      intro f
      simp
    | cons head rest ih =>
      intro f
      rw [foldl_cons, checkEntry_table, ih]
      congr 1
      funext key
      rw [any_cons]
      by_cases free : f key = ""
      · by_cases here : (!head.dots && !head.folder && decide (head.name = key)) = true
        · simp [here, free, named]
        · rw [Bool.not_eq_true] at here
          simp [here, free]
      · simp [free]
  unfold checkSubfolderNode Tree.has
  cases tree.openDir path with
  | none => simp
  | some listed => exact entries listed f

theorem checkSubfolderNode_first (tree : Tree) {searched : List String} {path : String} (named : path ≠ "")
    (all : ∀ node ∈ searched, node ≠ "") :
    checkSubfolderNode tree (table (tree.first searched)) path = table (tree.first (searched ++ [path])) := by
  rw [checkSubfolderNode_table tree named]
  congr 1
  funext key
  unfold Tree.first
  rw [find?_append]
  cases found : searched.find? (tree.has key) with
  | none =>
    by_cases here : tree.has key path <;> simp [here]
  | some node =>
    have other : node ≠ "" := all node (mem_of_find?_eq_some found)
    simp [other]

theorem foldl_checkSubfolderNode (tree : Tree) (names : List String) : ∀ searched, (∀ node ∈ searched ++ names, node ≠ "") →
      names.foldl (checkSubfolderNode tree) (table (tree.first searched)) = table (tree.first (searched ++ names)) := by
  induction names with
  | nil =>
    intro searched _
    rw [append_nil]
    rfl
  | cons head rest ih =>
    intro searched all
    have earlier : ∀ node ∈ searched, node ≠ "" := fun node member => all node (mem_append_left _ member)
    have later : ∀ node ∈ (searched ++ [head]) ++ rest, node ≠ "" := by simpa using all
    rw [foldl_cons, checkSubfolderNode_first tree (all head (by simp)) earlier, ih _ later, append_assoc]
    rfl

theorem examine_table (tree : Tree) (name : String) (nodes : List String) :
    ∀ searched, (∀ node ∈ searched ++ nodes, node ≠ "") → examine tree name nodes (table (tree.first searched)) =
        (nodes.filter (· ≠ name), table (tree.first (searched ++ nodes.filter (· = name)))) := by
  induction nodes with
  | nil =>
    intro searched _
    simp [examine]
  | cons head rest ih =>
    intro searched all
    have earlier : ∀ node ∈ searched, node ≠ "" := fun node member => all node (mem_append_left _ member)
    unfold examine
    by_cases same : head = name
    · have later : ∀ node ∈ (searched ++ [head]) ++ rest, node ≠ "" := by simpa using all
      rw [if_pos same, checkSubfolderNode_first tree (all head (by simp)) earlier, ih _ later]
      simp [same]
    · have later : ∀ node ∈ searched ++ rest, node ≠ "" := by
        intro node member
        refine all node ?_
        rw [mem_append] at member ⊢
        exact member.imp_right (mem_cons_of_mem head)
      rw [if_neg same, ih _ later]
      simp [same]

def searchOrder (nodes : List String) : List String :=
  nodes.filter (· = BATTERY_NODE_PATH) ++ nodes.filter (· = POWER_SUPPLY_BATTERY) ++ nodes.filter other

theorem traversalNode_eq (tree : Tree) {nodes : List String} (named : ∀ node ∈ nodes, node ≠ "") :
    traversalNode tree nodes = (nodes.filter other, table (tree.first (searchOrder nodes))) := by
  have batteries : (nodes.filter (· ≠ BATTERY_NODE_PATH)).filter (· = POWER_SUPPLY_BATTERY) = nodes.filter (· = POWER_SUPPLY_BATTERY) := by
    rw [filter_filter]
    refine filter_congr fun node _ => ?_
    by_cases same : node = POWER_SUPPLY_BATTERY
    · subst same
      decide
    · simp [same]
  have others : (nodes.filter (· ≠ BATTERY_NODE_PATH)).filter (· ≠ POWER_SUPPLY_BATTERY) = nodes.filter other := by
    rw [filter_filter]
    refine filter_congr fun node _ => ?_
    simp [other, Bool.and_comm]
  have start : (attributes.map fun key => (key, "")) = table (tree.first []) := rfl
  unfold traversalNode
  simp only [start]
  rw [examine_table tree BATTERY_NODE_PATH nodes [] (by simpa using named)]
  simp only
  rw [examine_table tree POWER_SUPPLY_BATTERY]
  · simp only
    rw [foldl_checkSubfolderNode, batteries, others]
    · rfl
    · intro node member
      refine named node ?_
      simp only [mem_append, mem_filter, not_mem_nil, false_or] at member
      obtain (⟨member, _⟩ | ⟨⟨member, _⟩, _⟩) | ⟨⟨member, _⟩, _⟩ := member <;> exact member
  · intro node member
    refine named node ?_
    simp only [mem_append, mem_filter, not_mem_nil, false_or] at member
    obtain ⟨member, _⟩ | ⟨member, _⟩ := member <;> exact member

/-! ### The nodes that are listed -/

theorem scanNodes_eq (tree : Tree) : ∀ index, scanNodes index tree = tree.listed.take (MAX_SYSFS_SIZE - index) := by
  induction tree with
  | nil =>
    intro index
    simp [scanNodes, Tree.listed]
  | cons head rest ih =>
    intro index
    unfold scanNodes
    by_cases dots : head.dots
    · rw [if_pos dots, ih]
      simp [Tree.listed, dots]
    by_cases folder : head.folder
    · rw [if_neg dots, if_pos folder]
      have listed : Tree.listed (head :: rest) = head.name :: Tree.listed rest := by
        simp [Tree.listed, dots, folder]
      by_cases full : index ≥ MAX_SYSFS_SIZE
      · rw [if_pos full, Nat.sub_eq_zero_of_le full, take_zero]
      · have space : MAX_SYSFS_SIZE - index = MAX_SYSFS_SIZE - (index + 1) + 1 := by omega
        rw [if_neg full, ih, listed, space, take_succ_cons]
    · rw [if_neg dots, if_neg folder, ih]
      simp [Tree.listed, folder]

variable {node : String} {tree : Tree}

theorem listed_named (member : node ∈ tree.listed) : node ≠ "" := by
  obtain ⟨entry, _, rfl⟩ := mem_map.mp member
  exact entry.named

theorem seen_listed (member : node ∈ tree.seen) : node ∈ tree.listed :=
  mem_of_mem_take member

theorem keptNodes_append (earlier : List (Option Tree)) (tree : Tree) :
    keptNodes (earlier ++ [some tree]) = keptNodes earlier ++ tree.seen.filter other := by
  simp [keptNodes]

variable {earlier : List (Option Tree)}

theorem keptNodes_other (member : node ∈ keptNodes earlier) : node ≠ "" ∧ other node := by
  obtain ⟨listing, _, member⟩ := mem_flatMap.mp member
  obtain ⟨member, others⟩ := mem_filter.mp member
  cases listing with
  | none => cases member
  | some tree => exact ⟨listed_named (seen_listed member), others⟩

theorem filter_keptNodes (earlier : List (Option Tree)) : (keptNodes earlier).filter other = keptNodes earlier :=
  filter_eq_self.mpr fun _ member => (keptNodes_other member).2

/-- What one initialisation does after those that left some nodes. -/
theorem initPowerSupplySysfs_eq {provider : PowerSupplyProvider} (kept : provider.nodeNames = keptNodes earlier) (tree : Tree) :
    (provider.initPowerSupplySysfs (some tree)).2.nodeNames = keptNodes (earlier ++ [some tree]) ∧
      (provider.initPowerSupplySysfs (some tree)).2.nodeNamePathMap =
        table (tree.first (searchOrder (keptNodes earlier ++ tree.seen))) := by
  have named : ∀ node ∈ keptNodes earlier ++ tree.seen, node ≠ "" := by
    intro node member
    obtain member | member := mem_append.mp member
    · exact (keptNodes_other member).1
    · exact listed_named (seen_listed member)
  have scanned : scanNodes 0 tree = tree.seen := scanNodes_eq tree 0
  unfold initPowerSupplySysfs formatSysfsPaths
  simp only [kept, scanned, traversalNode_eq tree named, filter_append, filter_keptNodes, keptNodes_append, and_self]

theorem initialised_append (earlier : List (Option Tree)) (listing : Option Tree) : initialised (earlier ++ [listing]) =
      ((initialised earlier).initPowerSupplySysfs listing).2 := by
  simp [initialised]

theorem initialised_nodeNames (earlier : List (Option Tree)) : (initialised earlier).nodeNames = keptNodes earlier := by
  induction earlier using reverseRecOn with
  | nil => rfl
  | append_singleton earlier listing ih =>
    rw [initialised_append]
    cases listing with
    | none => simpa [keptNodes, initPowerSupplySysfs] using ih
    | some tree => exact (initPowerSupplySysfs_eq ih tree).1

theorem initialised_bound (earlier : List (Option Tree)) (tree : Tree) (known : key ∈ attributes) :
    bound (initialised (earlier ++ [some tree])).nodeNamePathMap key =
      tree.first (searchOrder (keptNodes earlier ++ tree.seen)) key := by
  rw [initialised_append, (initPowerSupplySysfs_eq (initialised_nodeNames earlier) tree).2, bound_table _ known]

theorem find?_filter_eq (nodes : List String) (name : String) (p : String → Bool) :
    (nodes.filter (· = name)).find? p = if name ∈ nodes ∧ p name then some name else none := by
  induction nodes with
  | nil => simp
  | cons head rest ih =>
    by_cases same : head = name
    · subst same
      by_cases holds : p head <;> simp [holds, ih]
    · simp [same, Ne.symm same, ih]

theorem first_searchOrder (tree : Tree) (nodes : List String) (key : String) : tree.first (searchOrder nodes) key =
      if BATTERY_NODE_PATH ∈ nodes ∧ tree.has key BATTERY_NODE_PATH then BATTERY_NODE_PATH
      else if POWER_SUPPLY_BATTERY ∈ nodes ∧ tree.has key POWER_SUPPLY_BATTERY then POWER_SUPPLY_BATTERY
      else ((nodes.filter other).find? (tree.has key)).getD "" := by
  unfold Tree.first searchOrder
  rw [find?_append, find?_append, find?_filter_eq, find?_filter_eq]
  split
  · rfl
  · split <;> rfl

theorem initialised_choice (earlier : List (Option Tree)) (tree : Tree) (known : key ∈ attributes) :
    bound (initialised (earlier ++ [some tree])).nodeNamePathMap key =
      if BATTERY_NODE_PATH ∈ tree.seen ∧ tree.has key BATTERY_NODE_PATH then BATTERY_NODE_PATH
      else if POWER_SUPPLY_BATTERY ∈ tree.seen ∧ tree.has key POWER_SUPPLY_BATTERY then POWER_SUPPLY_BATTERY
      else ((keptNodes earlier ++ tree.seen.filter other).find? (tree.has key)).getD "" := by
  have seen : ∀ name, other name = false → (name ∈ keptNodes earlier ++ tree.seen ↔ name ∈ tree.seen) := by
    intro name battery
    rw [mem_append]
    refine or_iff_right fun member => ?_
    rw [(keptNodes_other member).2] at battery
    cases battery
  rw [initialised_bound earlier tree known, first_searchOrder, filter_append, filter_keptNodes]
  simp only [seen BATTERY_NODE_PATH rfl, seen POWER_SUPPLY_BATTERY rfl]

theorem other_find? {nodes : List String} (others : ∀ node ∈ nodes, other node) (p : String → Bool) :
    (nodes.find? p).getD "" ≠ BATTERY_NODE_PATH ∧ (nodes.find? p).getD "" ≠ POWER_SUPPLY_BATTERY := by
  cases found : nodes.find? p with
  | none => exact ⟨by decide, by decide⟩
  | some node =>
    have no := others node (mem_of_find?_eq_some found)
    simpa [other] using no

theorem find?_getD_inj {first second : List String} (named : ∀ node ∈ first, node ≠ "") (named' : ∀ node ∈ second, node ≠ "")
    (p : String → Bool) : (first.find? p).getD "" = (second.find? p).getD "" ↔ first.find? p = second.find? p := by
  cases found : first.find? p with
  | none =>
    cases found' : second.find? p with
    | none => simp
    | some node => simpa using (named' node (mem_of_find?_eq_some found')).symm
  | some node =>
    cases found' : second.find? p with
    | none => simpa using named node (mem_of_find?_eq_some found)
    | some node' => simp

theorem chargers_iff (earlier : List (Option Tree)) (tree : Tree) (node : String) :
    node ∈ (initialised (earlier ++ [some tree])).nodeNames ↔ node ∈ keptNodes earlier ∨ node ∈ tree.seen ∧ other node := by
  rw [initialised_nodeNames, keptNodes_append, mem_append, mem_filter]

theorem mem_left_other (member : node ∈ keptNodes earlier ++ tree.seen.filter other) : node ≠ "" ∧ other node := by
  rw [← keptNodes_append] at member
  exact keptNodes_other member

theorem attribute_right (earlier : List (Option Tree)) (tree : Tree) (known : key ∈ attributes) :
    bound (initialised (earlier ++ [some tree])).nodeNamePathMap key = tree.choice key ↔
      (BATTERY_NODE_PATH ∈ tree.listed → tree.has key BATTERY_NODE_PATH → BATTERY_NODE_PATH ∈ tree.seen) ∧
      (¬(BATTERY_NODE_PATH ∈ tree.listed ∧ tree.has key BATTERY_NODE_PATH) →
        POWER_SUPPLY_BATTERY ∈ tree.listed → tree.has key POWER_SUPPLY_BATTERY → POWER_SUPPLY_BATTERY ∈ tree.seen) ∧
      (¬(BATTERY_NODE_PATH ∈ tree.listed ∧ tree.has key BATTERY_NODE_PATH) →
        ¬(POWER_SUPPLY_BATTERY ∈ tree.listed ∧ tree.has key POWER_SUPPLY_BATTERY) →
        (keptNodes earlier ++ tree.seen.filter other).find? (tree.has key) = (tree.listed.filter other).find? (tree.has key)) := by
  have others : ∀ node ∈ keptNodes earlier ++ tree.seen.filter other, other node := fun _ member => (mem_left_other member).2
  have left := other_find? others (tree.has key)
  rw [initialised_choice earlier tree known]
  unfold Tree.choice
  by_cases battery : BATTERY_NODE_PATH ∈ tree.listed ∧ tree.has key BATTERY_NODE_PATH
  · rw [if_pos battery]
    by_cases first : BATTERY_NODE_PATH ∈ tree.seen
    · simp [first, battery]
    · rw [if_neg fun both => first both.1]
      refine iff_of_false ?_ fun fine => first (fine.1 battery.1 battery.2)
      split
      · decide
      · exact left.1
  have noBattery : ¬(BATTERY_NODE_PATH ∈ tree.seen ∧ tree.has key BATTERY_NODE_PATH) := fun both =>
    battery ⟨seen_listed both.1, both.2⟩
  rw [if_neg battery, if_neg noBattery]
  by_cases capital : POWER_SUPPLY_BATTERY ∈ tree.listed ∧ tree.has key POWER_SUPPLY_BATTERY
  · rw [if_pos capital]
    by_cases second : POWER_SUPPLY_BATTERY ∈ tree.seen
    · rw [if_pos ⟨second, capital.2⟩]
      exact iff_of_true rfl
        ⟨fun listed has => absurd ⟨listed, has⟩ battery, fun _ _ _ => second, fun _ none => absurd capital none⟩
    · rw [if_neg fun both => second both.1]
      exact iff_of_false left.2 fun fine => second (fine.2.1 battery capital.1 capital.2)
  have noCapital : ¬(POWER_SUPPLY_BATTERY ∈ tree.seen ∧ tree.has key POWER_SUPPLY_BATTERY) := fun both =>
    capital ⟨seen_listed both.1, both.2⟩
  rw [if_neg capital, if_neg noCapital, find?_getD_inj]
  · constructor
    · intro same
      exact ⟨fun listed has => absurd ⟨listed, has⟩ battery, fun _ listed has => absurd ⟨listed, has⟩ capital, fun _ _ => same⟩
    · intro fine
      exact fine.2.2 battery capital
  · exact fun node member => (mem_left_other member).1
  · exact fun node member => listed_named (mem_filter.mp member).1

theorem chargers_right (earlier : List (Option Tree)) (tree : Tree) :
    (∀ node, node ∈ (initialised (earlier ++ [some tree])).nodeNames ↔ node ∈ tree.listed ∧ other node) ↔
      (∀ node ∈ keptNodes earlier, node ∈ tree.listed) ∧
        (∀ node ∈ tree.listed, other node → node ∈ keptNodes earlier ∨ node ∈ tree.seen) := by
  constructor
  · intro right
    constructor
    · intro node kept
      exact ((right node).mp ((chargers_iff earlier tree node).mpr (.inl kept))).1
    · intro node listed others
      have searched := (chargers_iff earlier tree node).mp ((right node).mpr ⟨listed, others⟩)
      exact searched.imp_right And.left
  · rintro ⟨stale, room⟩ node
    rw [chargers_iff]
    constructor
    · rintro (kept | ⟨seen, others⟩)
      · exact ⟨stale node kept, (keptNodes_other kept).2⟩
      · exact ⟨seen_listed seen, others⟩
    · rintro ⟨listed, others⟩
      exact (room node listed others).imp_right fun seen => ⟨seen, others⟩

theorem type_right (stale : ∀ node ∈ keptNodes earlier, node ∈ tree.listed)
    (room : ∀ node ∈ tree.listed, other node → node ∈ keptNodes earlier ∨ node ∈ tree.seen)
    (some' : ∃ node ∈ tree.listed, other node ∧ tree.has "type" node) : (∃ node ∈ tree.listed,
        bound (initialised (earlier ++ [some tree])).nodeNamePathMap "type" = node ∧ other node) ↔
      ¬(BATTERY_NODE_PATH ∈ tree.seen ∧ tree.has "type" BATTERY_NODE_PATH) ∧
        ¬(POWER_SUPPLY_BATTERY ∈ tree.seen ∧ tree.has "type" POWER_SUPPLY_BATTERY) := by
  rw [initialised_choice earlier tree (by decide)]
  by_cases battery : BATTERY_NODE_PATH ∈ tree.seen ∧ tree.has "type" BATTERY_NODE_PATH
  · rw [if_pos battery]
    refine iff_of_false ?_ fun fine => fine.1 battery
    rintro ⟨_, _, rfl, others⟩
    cases others
  by_cases capital : POWER_SUPPLY_BATTERY ∈ tree.seen ∧ tree.has "type" POWER_SUPPLY_BATTERY
  · rw [if_neg battery, if_pos capital]
    refine iff_of_false ?_ fun fine => fine.2 capital
    rintro ⟨_, _, rfl, others⟩
    cases others
  rw [if_neg battery, if_neg capital]
  refine iff_of_true ?_ ⟨battery, capital⟩
  obtain ⟨node, listed, others, has⟩ := some'
  have searched : node ∈ keptNodes earlier ++ tree.seen.filter other := by
    rw [mem_append, mem_filter]
    exact (room node listed others).imp_right fun seen => ⟨seen, others⟩
  obtain ⟨chosen, found⟩ := Option.isSome_iff_exists.mp (find?_isSome.mpr ⟨node, searched, has⟩)
  have member := mem_of_find?_eq_some found
  refine ⟨chosen, ?_, by rw [found]; rfl, (mem_left_other member).2⟩
  obtain kept | seen := mem_append.mp member
  · exact stale chosen kept
  · exact seen_listed (mem_filter.mp seen).1

/-- After any initialisations the nodes are those that are meant exactly when no node has gone, none is beyond the 64th, none
    comes before others because it was there earlier, and no battery has a type. -/
theorem nodes_right (earlier : List (Option Tree)) (tree : Tree) : NodesRight earlier tree ↔ NodesFine earlier tree := by
  constructor
  · intro right
    obtain ⟨stale, room⟩ := (chargers_right earlier tree).mp right.chargers
    exact {
      stale := stale
      room := room
      battery := fun key known plain => ((attribute_right earlier tree known).mp (right.attributes key known plain)).1
      capital := fun key known plain => ((attribute_right earlier tree known).mp (right.attributes key known plain)).2.1
      order := fun key known plain => ((attribute_right earlier tree known).mp (right.attributes key known plain)).2.2
      type := fun some' => (type_right stale room some').mp (right.type some') }
  · intro fine
    exact {
      attributes := fun key known plain => (attribute_right earlier tree known).mpr
        ⟨fine.battery key known plain, fine.capital key known plain, fine.order key known plain⟩
      type := fun some' => (type_right fine.stale fine.room some').mpr (fine.type some')
      chargers := (chargers_right earlier tree).mpr ⟨fine.stale, fine.room⟩ }

def twoNodes : Tree :=
  [⟨⟨"battery", true⟩, some [⟨"capacity", false⟩, ⟨"type", false⟩], by decide⟩,
    ⟨⟨"usb", true⟩, some [⟨"online", false⟩, ⟨"type", false⟩], by decide⟩]

/-- The type is read from the battery. -/
theorem nodes_wrong : ¬NodesRight [] twoNodes := by
  intro right
  obtain ⟨node, _, same, others⟩ := right.type ⟨"usb", by decide, by decide, by decide⟩
  have battery : bound (initialised [some twoNodes]).nodeNamePathMap "type" = BATTERY_NODE_PATH := by
    decide +kernel
  rw [nil_append, battery] at same
  subst same
  cases others

end Peripheral.Battery
