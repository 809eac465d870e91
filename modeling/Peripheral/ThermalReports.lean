import Peripheral.Searches
import Peripheral.Strtol
import Peripheral.ThermalSchedule

/-!
What the thermal service reports, from `thermal_zone_manager.cpp`: the thermal zones of sysfs are joined with the zones
and nodes of each sensor group, and the joined lists are read again for each report.
-/
namespace Peripheral.Thermal
open List

def MAX_BUFF_SIZE : Nat := 128
def MAX_SYSFS_SIZE : Nat := 128
def THERMAL_ZONE_PREFIX : List Char := "thermal_zone".toList
def CDEV_DIR_NAME : List Char := "cooling_device".toList

inductive FileType
  | dir | lnk | other
  deriving DecidableEq

/-- `dirent`, as far as it is looked at. -/
structure Dirent where
  name : List Char
  type : FileType
  deriving DecidableEq

structure Sysfs where
  dir : Option (List Dirent)
  file : List Char → Option (List Char)
  access : List Char → Bool

structure ThermalZoneSysfsPathInfo where
  name : List Char
  temperturePath : List Char
  typePath : List Char

structure XMLThermalZoneInfo where
  type : List Char
  replace : List Char
  isReplace : Bool

structure XMLThermalNodeInfo where
  type : List Char
  path : List Char

structure Group where
  sensor : SensorInfoConfig
  xmlTzInfoList : List XMLThermalZoneInfo
  xmlTnInfoList : List XMLThermalNodeInfo

/-- The groups, and the zones of sysfs that were found. -/
structure Zones where
  groups : List Group
  lTzSysPathInfo : List ThermalZoneSysfsPathInfo

/-- `sscanf` with `%d`: white space, a sign, and a digit. -/
def scanNumber (text : List Char) : Int :=
  match text.dropWhile Strtol.isSpace with
  | [] => -1
  | c :: rest =>
    match if c = '-' ∨ c = '+' then rest else c :: rest with
    | [] => 0
    | digit :: _ => if digit.isDigit then 1 else 0

/-- `sscanf` with a literal before `%d`; an end of the text before the number is an error. -/
def sscanfZone : (literal text : List Char) → Int
  | [], text => scanNumber text
  | _ :: _, [] => -1
  | c :: literal, d :: text => if c = d then sscanfZone literal text else 0

def formatThermalSysfsPaths (name : List Char) : ThermalZoneSysfsPathInfo where
  name
  temperturePath := "/sys/class/thermal/".toList ++ name ++ "/temp".toList
  typePath := "/sys/class/thermal/".toList ++ name ++ "/type".toList

def Dirent.skipped (entry : Dirent) : Bool :=
  entry.name = ".".toList || entry.name = "..".toList || CDEV_DIR_NAME.isPrefixOf entry.name ||
    !(entry.type = .dir || entry.type = .lnk)

/-- The loop of `InitThermalZoneSysfs`, with the number of zones before. -/
def scanDir : Nat → List Dirent → List ThermalZoneSysfsPathInfo
  | _, [] => []
  | index, entry :: rest =>
    if entry.skipped then scanDir index rest
    else if sscanfZone THERMAL_ZONE_PREFIX entry.name < 0 then []
    else if index > MAX_SYSFS_SIZE then []
    else formatThermalSysfsPaths entry.name :: scanDir (index + 1) rest

/-- Whatever it returns, what it found is used. -/
def initThermalZoneSysfs (sysfs : Sysfs) (zones : Zones) : Zones :=
  match sysfs.dir with
  | none => zones
  | some entries => { zones with lTzSysPathInfo := zones.lTzSysPathInfo ++ scanDir 0 entries }

/-- As much as the buffer takes, up to the first end of a line. -/
def readThermalSysfsToBuff (file : List Char → Option (List Char)) (path : List Char) : Option (List Char) :=
  (file path).map fun content => (content.take (MAX_BUFF_SIZE - 1)).takeWhile fun c => c ≠ '\n' && c ≠ '\x00'

/-- What is inserted does not replace what is there. -/
def insertPath (tzPathMap : List (List Char × List Char)) (type path : List Char) : List (List Char × List Char) :=
  if (tzPathMap.lookup type).isSome then tzPathMap else tzPathMap ++ [(type, path)]

/-- The paths by type; a type that cannot be read ends the search. -/
def readTypes (sysfs : Sysfs) : List ThermalZoneSysfsPathInfo → List (List Char × List Char) → Option (List (List Char × List Char))
  | [], tzPathMap => some tzPathMap
  | info :: rest, tzPathMap =>
    match readThermalSysfsToBuff sysfs.file info.typePath with
    | none => none
    | some tzType => readTypes sysfs rest (insertPath tzPathMap tzType info.temperturePath)

/-- The flag is assigned to the string, as the character that it is. -/
def XMLThermalZoneInfo.data (tz : XMLThermalZoneInfo) (path : List Char) : ReportedThermalData :=
  ⟨String.ofList (if tz.isReplace then ['\x01'] else tz.type), String.ofList path⟩

def updateZones (tzPathMap : List (List Char × List Char)) : List XMLThermalZoneInfo → List ReportedThermalData
  | [] => []
  | tz :: rest =>
    if tzPathMap = [] then []
    else
      match tzPathMap.lookup tz.type with
      | some path => tz.data path :: updateZones tzPathMap rest
      | none => updateZones tzPathMap rest

def XMLThermalNodeInfo.data (sysfs : Sysfs) (tn : XMLThermalNodeInfo) : ReportedThermalData :=
  ⟨String.ofList tn.type, String.ofList (if sysfs.access tn.path then tn.path else [])⟩

def Group.push (group : Group) (list : List ReportedThermalData) : Group :=
  { group with sensor := { group.sensor with thermalDataList := group.sensor.thermalDataList ++ list } }

def updateThermalZoneData (sysfs : Sysfs) (tzPathMap : List (List Char × List Char)) (zones : Zones) : Zones :=
  { zones with groups := zones.groups.map fun group =>
      group.push (updateZones tzPathMap group.xmlTzInfoList ++ group.xmlTnInfoList.map (·.data sysfs)) }

def parseThermalZoneInfo (sysfs : Sysfs) (zones : Zones) : Zones :=
  let zones := initThermalZoneSysfs sysfs zones
  match readTypes sysfs zones.lTzSysPathInfo [] with
  | none => zones
  | some tzPathMap => updateThermalZoneData sysfs tzPathMap zones

/-- `std::stoi`; it throws when there is no number, or none that an `int` can be. -/
def convertInt (text : List Char) : Option Int :=
  let (negative, digits) := Strtol.scan text
  if digits = [] then none
  else
    let number := Strtol.signed negative digits
    if -2 ^ 31 ≤ number ∧ number < 2 ^ 31 then some number else none

/-- The entries of a group that can be read; nothing when an exception is thrown. -/
def readData (file : List Char → Option (List Char)) : List ReportedThermalData → Option (List ThermalZoneInfo)
  | [] => some []
  | data :: rest =>
    match readThermalSysfsToBuff file data.tempPath.toList with
    | none => readData file rest
    | some tempBuf =>
      match convertInt tempBuf with
      | none => none
      | some temp => (readData file rest).map (⟨data.type, temp⟩ :: ·)

def reportThermalZoneData (file : List Char → Option (List Char)) (reportTime : Int) : List SensorInfoConfig → Option (List ThermalZoneInfo)
  | [] => some []
  | sensor :: rest =>
    if sensor.multiple = 0 then some []
    else if reportTime.tmod sensor.multiple = 0 then
      match readData file sensor.thermalDataList with
      | none => none
      | some info => (reportThermalZoneData file reportTime rest).map (info ++ ·)
    else reportThermalZoneData file reportTime rest

def Sysfs.zoneNames (sysfs : Sysfs) : List (List Char) :=
  match sysfs.dir with
  | none => []
  | some entries => (entries.filter (!·.skipped)).map (·.name)

def Sysfs.zoneType (sysfs : Sysfs) (name : List Char) : Option (List Char) :=
  readThermalSysfsToBuff sysfs.file (formatThermalSysfsPaths name).typePath

def Sysfs.zoneOf (sysfs : Sysfs) (type : List Char) : Option (List Char) := sysfs.zoneNames.find? fun name => sysfs.zoneType name = some type

/-- The entry of a configured zone, with the name that replaces its type. -/
def XMLThermalZoneInfo.entry (tz : XMLThermalZoneInfo) (name : List Char) : ReportedThermalData :=
  ⟨String.ofList (if tz.isReplace then tz.replace else tz.type), String.ofList (formatThermalSysfsPaths name).temperturePath⟩

/-- An entry for each zone that was found, then one for each node. -/
def Group.expected (sysfs : Sysfs) (group : Group) : SensorInfoConfig :=
  { group.sensor with
    thermalDataList := group.xmlTzInfoList.filterMap (fun tz => (sysfs.zoneOf tz.type).map tz.entry) ++
      group.xmlTnInfoList.map (·.data sysfs) }

def Zones.start (groups : List Group) : Zones :=
  ⟨groups.map fun group => { group with sensor := { group.sensor with thermalDataList := [] } }, []⟩

def value (file : List Char → Option (List Char)) (path : String) : Option Int :=
  (readThermalSysfsToBuff file path.toList).bind convertInt

/-- The lists are the expected ones, and a report has a record for each entry that can be read. -/
structure ReportsRight (sysfs : Sysfs) (groups : List Group) (file : List Char → Option (List Char)) (reportTime : Int) : Prop where
  lists : (parseThermalZoneInfo sysfs (.start groups)).groups.map (·.sensor) = groups.map (·.expected sysfs)
  report : reportThermalZoneData file reportTime ((parseThermalZoneInfo sysfs (.start groups)).groups.map (·.sensor)) =
    some ((reportGroups reportTime (groups.map (·.expected sysfs))).1.flatMap (·.report (value file)))

/-- The zones up to the first whose name ends before its number, and no more than 129. -/
def Sysfs.scanned (sysfs : Sysfs) : List (List Char) :=
  (sysfs.zoneNames.takeWhile fun name => 0 ≤ sscanfZone THERMAL_ZONE_PREFIX name).take (MAX_SYSFS_SIZE + 1)

/-- All types can be read, and each zone that is asked for is there and has no other name than its type or the one character; or
    nothing is asked for. -/
def ListsFine (sysfs : Sysfs) (groups : List Group) : Prop :=
  (∀ name ∈ sysfs.scanned, (sysfs.zoneType name).isSome) ∧
      (∀ group ∈ groups, ∀ tz ∈ group.xmlTzInfoList, ∀ name, sysfs.zoneOf tz.type = some name →
        name ∈ sysfs.scanned ∧ (tz.isReplace → tz.replace = ['\x01'])) ∨
    (¬∀ name ∈ sysfs.scanned, (sysfs.zoneType name).isSome) ∧
      ∀ group ∈ groups, group.xmlTnInfoList = [] ∧ ∀ tz ∈ group.xmlTzInfoList, sysfs.zoneOf tz.type = none

/-- What can be read for a report is a number. -/
def Numbers (file : List Char → Option (List Char)) (list : List ReportedThermalData) : Prop :=
  ∀ data ∈ list, ∀ tempBuf, readThermalSysfsToBuff file data.tempPath.toList = some tempBuf → (convertInt tempBuf).isSome

theorem scanDir_eq (entries : List Dirent) (index : Nat) :
    scanDir index entries = ((((entries.filter (!·.skipped)).map (·.name)).takeWhile
      fun name => 0 ≤ sscanfZone THERMAL_ZONE_PREFIX name).take (MAX_SYSFS_SIZE + 1 - index)).map formatThermalSysfsPaths := by
  induction entries generalizing index with
  | nil => simp [scanDir]
  | cons entry rest ih =>
    rw [scanDir]
    by_cases skipped : entry.skipped
    · rw [if_pos skipped, ih, filter_cons_of_neg (by simpa using skipped)]
    · rw [if_neg skipped, filter_cons_of_pos (by simpa using skipped), map_cons]
      by_cases ends : sscanfZone THERMAL_ZONE_PREFIX entry.name < 0
      · rw [if_pos ends, takeWhile_cons_of_neg (by simpa using ends)]
        simp
      · rw [if_neg ends, takeWhile_cons_of_pos (by simpa using ends)]
        by_cases full : index > MAX_SYSFS_SIZE
        · have none : MAX_SYSFS_SIZE + 1 - index = 0 := by omega
          rw [if_pos full, none]
          simp
        · have more : MAX_SYSFS_SIZE + 1 - index = MAX_SYSFS_SIZE + 1 - (index + 1) + 1 := by omega
          rw [if_neg full, ih, more, take_succ_cons, map_cons]

theorem init_scanned (sysfs : Sysfs) (groups : List Group) :
    (initThermalZoneSysfs sysfs (.start groups)).lTzSysPathInfo = sysfs.scanned.map formatThermalSysfsPaths := by
  rw [initThermalZoneSysfs, Sysfs.scanned, Sysfs.zoneNames]
  cases sysfs.dir with
  | none => simp [Zones.start]
  | some entries => simp [Zones.start, scanDir_eq]

theorem lookup_insertPath (tzPathMap : List (List Char × List Char)) (type path k : List Char) :
    (insertPath tzPathMap type path).lookup k = (tzPathMap.lookup k).or (if k = type then some path else none) := by
  rw [insertPath]
  split
  · rename_i there
    by_cases same : k = type
    · obtain ⟨old, is⟩ := Option.isSome_iff_exists.mp there
      rw [same, is]
      rfl
    · rw [if_neg same, Option.or_none]
  · rw [lookup_append]
    by_cases same : k = type
    · simp [same]
    · have other : (k == type) = false := by simpa using same
      simp [lookup_cons, same, other]

variable {sysfs : Sysfs}

theorem readTypes_some (names : List (List Char)) (tzPathMap : List (List Char × List Char))
    (readable : ∀ name ∈ names, (sysfs.zoneType name).isSome) :
    ∃ joined, readTypes sysfs (names.map formatThermalSysfsPaths) tzPathMap = some joined ∧
      ∀ k, joined.lookup k = (tzPathMap.lookup k).or
        ((names.find? fun name => sysfs.zoneType name = some k).map fun name => (formatThermalSysfsPaths name).temperturePath) := by
  induction names generalizing tzPathMap with
  | nil => exact ⟨tzPathMap, rfl, fun k => by simp⟩
  | cons name rest ih =>
    obtain ⟨tzType, is⟩ := Option.isSome_iff_exists.mp (readable name mem_cons_self)
    obtain ⟨joined, run, lookups⟩ := ih (insertPath tzPathMap tzType (formatThermalSysfsPaths name).temperturePath)
      fun other member => readable other (mem_cons_of_mem _ member)
    rw [Sysfs.zoneType] at is
    refine ⟨joined, by rw [map_cons, readTypes, is]; exact run, fun k => ?_⟩
    rw [lookups, lookup_insertPath, Option.or_assoc]
    congr 1
    by_cases same : k = tzType
    · rw [if_pos same, find?_cons_of_pos (by simpa [Sysfs.zoneType, is] using same.symm)]
      rfl
    · rw [if_neg same, find?_cons_of_neg (by simpa [Sysfs.zoneType, is] using Ne.symm same), Option.none_or]

theorem readTypes_none (names : List (List Char)) (tzPathMap : List (List Char × List Char))
    (ends : ¬∀ name ∈ names, (sysfs.zoneType name).isSome) : readTypes sysfs (names.map formatThermalSysfsPaths) tzPathMap = none := by
  induction names generalizing tzPathMap with
  | nil => exact absurd (fun name member => absurd member not_mem_nil) ends
  | cons name rest ih =>
    rw [map_cons, readTypes]
    cases is : readThermalSysfsToBuff sysfs.file (formatThermalSysfsPaths name).typePath with
    | none => rfl
    | some tzType =>
      refine ih _ fun all => ends ?_
      rw [forall_mem_cons]
      exact ⟨by rw [Sysfs.zoneType, is]; rfl, all⟩

theorem updateZones_eq (tzPathMap : List (List Char × List Char)) (list : List XMLThermalZoneInfo) :
    updateZones tzPathMap list = list.filterMap fun tz => (tzPathMap.lookup tz.type).map tz.data := by
  induction list with
  | nil => rfl
  | cons tz rest ih =>
    rw [updateZones]
    split
    · rename_i empty
      rw [empty]
      simp
    · cases found : tzPathMap.lookup tz.type with
      | none => rw [filterMap_cons_none (by rw [found]; rfl), ih]
      | some path => rw [filterMap_cons_some (by rw [found]; rfl), ih]

theorem scanned_find (sysfs : Sysfs) (type : List Char) :
    ((sysfs.scanned.find? fun name => sysfs.zoneType name = some type) = none ∧ (∀ name, sysfs.zoneOf type = some name → name ∉ sysfs.scanned)) ∨
      ∃ name ∈ sysfs.scanned, (sysfs.scanned.find? fun name => sysfs.zoneType name = some type) = some name ∧ sysfs.zoneOf type = some name := by
  have begins : sysfs.scanned <+: sysfs.zoneNames := ( take_prefix _ _).trans ( takeWhile_prefix _)
  cases found : sysfs.scanned.find? fun name => sysfs.zoneType name = some type with
  | none =>
    refine .inl ⟨rfl, fun name is member => ?_⟩
    have matched := find?_some is
    exact find?_eq_none.mp found name member matched
  | some name => exact .inr ⟨name, mem_of_find?_eq_some found, rfl, begins.find?_eq_some found⟩

theorem entry_iff {joined : List (List Char × List Char)} (tz : XMLThermalZoneInfo)
    (lookups : ∀ k, joined.lookup k = (sysfs.scanned.find? fun name => sysfs.zoneType name = some k).map
      fun name => (formatThermalSysfsPaths name).temperturePath) :
    ((joined.lookup tz.type).isSome → (sysfs.zoneOf tz.type).isSome) ∧
      ((joined.lookup tz.type).map tz.data = (sysfs.zoneOf tz.type).map tz.entry ↔
        ∀ name, sysfs.zoneOf tz.type = some name → name ∈ sysfs.scanned ∧ (tz.isReplace → tz.replace = ['\x01'])) := by
  rw [lookups]
  rcases scanned_find sysfs tz.type with ⟨none, outside⟩ | ⟨name, member, found, is⟩
  · rw [none]
    refine ⟨fun some_ => absurd some_ (by simp), ?_⟩
    cases is : sysfs.zoneOf tz.type with
    | none => simp
    | some name =>
      refine iff_of_false (by simp) fun all => ?_
      exact outside name is (all name rfl).1
  · rw [found, is]
    refine ⟨fun _ => rfl, ?_⟩
    simp only [Option.map_some, Option.some.injEq, XMLThermalZoneInfo.data, XMLThermalZoneInfo.entry,
      ReportedThermalData.mk.injEq, and_true, String.ofList_inj]
    constructor
    · rintro same name' rfl
      refine ⟨member, fun replaces => ?_⟩
      rw [if_pos replaces, if_pos replaces] at same
      exact same.symm
    · intro all
      split
      · rename_i replaces
        exact ((all name rfl).2 replaces).symm
      · rfl

theorem expected_nil (group : Group) :
    (group.expected sysfs).thermalDataList = [] ↔ group.xmlTnInfoList = [] ∧ ∀ tz ∈ group.xmlTzInfoList, sysfs.zoneOf tz.type = none := by
  simp only [Group.expected, append_eq_nil_iff, filterMap_eq_nil_iff, Option.map_eq_none_iff, map_eq_nil_iff]
  exact and_comm

theorem lists_iff (groups : List Group) :
    (parseThermalZoneInfo sysfs (.start groups)).groups.map (·.sensor) = groups.map (·.expected sysfs) ↔ ListsFine sysfs groups := by
  have same : (initThermalZoneSysfs sysfs (.start groups)).groups = (Zones.start groups).groups := by
    rw [initThermalZoneSysfs]
    cases sysfs.dir <;> rfl
  rw [parseThermalZoneInfo, init_scanned, ListsFine]
  by_cases readable : ∀ name ∈ sysfs.scanned, (sysfs.zoneType name).isSome
  · obtain ⟨joined, run, lookups⟩ := readTypes_some sysfs.scanned [] readable
    simp only [lookup_nil, Option.none_or] at lookups
    simp only [run, updateThermalZoneData, same]
    simp only [Zones.start, map_map, map_inj_left]
    refine Iff.trans (forall₂_congr fun group _ => ?_)
      ((or_iff_left fun other => other.1 readable).trans (and_iff_right readable)).symm
    simp only [Function.comp_apply, Group.push, Group.expected, nil_append, SensorInfoConfig.mk.injEq, true_and,
      append_cancel_right_eq, updateZones_eq]
    rw [Searches.filterMap_eq_iff]
    · exact forall₂_congr fun tz _ => (entry_iff tz lookups).2
    · intro tz _ some_
      rw [Option.isSome_map] at some_ ⊢
      exact (entry_iff tz lookups).1 some_
  · simp only [readTypes_none sysfs.scanned [] readable, same]
    simp only [Zones.start, map_map, map_inj_left]
    refine Iff.trans (forall₂_congr fun group _ => ?_)
      ((or_iff_right fun other => readable other.1).trans (and_iff_right readable)).symm
    rw [← expected_nil]
    simp only [Function.comp_apply, Group.expected, SensorInfoConfig.mk.injEq, true_and]
    exact eq_comm

variable {file : List Char → Option (List Char)} {reportTime : Int}

/-- The entries that can be read are read, or one of them is no number. -/
theorem readData_cases (file : List Char → Option (List Char)) (sensor : SensorInfoConfig) :
    Numbers file sensor.thermalDataList ∧ readData file sensor.thermalDataList = some (sensor.report (value file)) ∨
      ¬Numbers file sensor.thermalDataList ∧ readData file sensor.thermalDataList = none := by
  rw [SensorInfoConfig.report]
  induction sensor.thermalDataList with
  | nil => exact .inl ⟨fun data member => absurd member not_mem_nil, rfl⟩
  | cons data rest ih =>
    have split : Numbers file (data :: rest) ↔
        (∀ tempBuf, readThermalSysfsToBuff file data.tempPath.toList = some tempBuf → (convertInt tempBuf).isSome) ∧ Numbers file rest :=
      forall_mem_cons
    rw [split, readData]
    cases read : readThermalSysfsToBuff file data.tempPath.toList with
    | none =>
      have unread : value file data.tempPath = none := by rw [value, read]; rfl
      simp only [unread, filterMap_cons, Option.map_none]
      simpa using ih
    | some tempBuf =>
      cases number : convertInt tempBuf with
      | none =>
        refine .inr ⟨fun all => ?_, by simp [number]⟩
        have some_ := all.1 tempBuf rfl
        rw [number] at some_
        cases some_
      | some temp =>
        have is : value file data.tempPath = some temp := by rw [value, read]; exact number
        rcases ih with ⟨numbers, run⟩ | ⟨fails, run⟩
        · refine .inl ⟨⟨?_, numbers⟩, ?_⟩
          · rintro _ ⟨⟩
            rw [number]
            rfl
          · simp [number, run, is]
        · exact .inr ⟨fun all => fails all.2, by simp [number, run]⟩

/-- A report has all its records exactly if all that is read for it are numbers. -/
theorem report_iff (sensors : List SensorInfoConfig) :
    reportThermalZoneData file reportTime sensors = some ((reportGroups reportTime sensors).1.flatMap (·.report (value file))) ↔
      ∀ sensor ∈ (reportGroups reportTime sensors).1, Numbers file sensor.thermalDataList := by
  have all : ∀ sensors, (∀ sensor ∈ (reportGroups reportTime sensors).1, Numbers file sensor.thermalDataList) ∧
        reportThermalZoneData file reportTime sensors = some ((reportGroups reportTime sensors).1.flatMap (·.report (value file))) ∨
      (¬∀ sensor ∈ (reportGroups reportTime sensors).1, Numbers file sensor.thermalDataList) ∧
        reportThermalZoneData file reportTime sensors = none := by
    intro sensors
    induction sensors with
    | nil => exact .inl ⟨fun sensor member => absurd member not_mem_nil, rfl⟩
    | cons sensor rest ih =>
      rw [reportThermalZoneData, reportGroups]
      by_cases zero : sensor.multiple = 0
      · rw [if_pos zero, if_pos zero]
        exact .inl ⟨fun sensor member => absurd member not_mem_nil, rfl⟩
      · rw [if_neg zero, if_neg zero]
        by_cases due : reportTime.tmod sensor.multiple = 0
        · simp only [if_pos due, forall_mem_cons, flatMap_cons]
          rcases readData_cases file sensor with ⟨numbers, run⟩ | ⟨fails, run⟩
          · rw [run]
            rcases ih with ⟨others, run'⟩ | ⟨fails, run'⟩
            · exact .inl ⟨⟨numbers, others⟩, by rw [run']; rfl⟩
            · exact .inr ⟨fun both => fails both.2, by rw [run']; rfl⟩
          · exact .inr ⟨fun both => fails both.1, by rw [run]⟩
        · simp only [if_neg due]
          exact ih
  rcases all sensors with ⟨numbers, run⟩ | ⟨fails, run⟩
  · exact iff_of_true run numbers
  · rw [run]
    exact iff_of_false (by simp) fails

/-- The lists and a report are right exactly if the lists are fine and what is read for it are numbers. -/
theorem reports_right (sysfs : Sysfs) (groups : List Group) (file : List Char → Option (List Char)) (reportTime : Int) :
    ReportsRight sysfs groups file reportTime ↔ ListsFine sysfs groups ∧
      ∀ sensor ∈ (reportGroups reportTime (groups.map (·.expected sysfs))).1, Numbers file sensor.thermalDataList := by
  rw [← lists_iff, ← report_iff]
  constructor
  · rintro ⟨lists, report⟩
    exact ⟨lists, lists ▸ report⟩
  · rintro ⟨lists, report⟩
    exact ⟨lists, lists.symm ▸ report⟩

/-- A zone of the type `cpu` that is reported by the name `soc`. -/
def cpuSysfs : Sysfs where
  dir := some [⟨"thermal_zone0".toList, .lnk⟩]
  file _ := some "cpu".toList
  access _ := false

def cpuGroup : Group := ⟨⟨"cpu", 1000, 1, []⟩, [⟨"cpu".toList, "soc".toList, true⟩], []⟩

/-- It is reported by another name. -/
theorem reports_wrong : ¬ReportsRight cpuSysfs [cpuGroup] (fun _ => none) 1 := by
  intro right
  have found : cpuSysfs.zoneOf "cpu".toList = some "thermal_zone0".toList := by decide
  have readable : ∀ name ∈ cpuSysfs.scanned, (cpuSysfs.zoneType name).isSome := by
    intro name _
    rfl
  rcases (lists_iff _).mp right.lists with ⟨-, named⟩ | ⟨fails, -⟩
  · have same := (named cpuGroup mem_cons_self _ mem_cons_self _ found).2 rfl
    exact absurd same (by decide)
  · exact fails readable

end Peripheral.Thermal
