import Mathlib.Data.List.Induction
import Mathlib.Data.List.TakeWhile
import Peripheral.BatteryInfo
import Peripheral.Transitions

/-!
The two sources of the battery's state. Each of twelve values is a text in a file and in the lines
of an event; what the service holds is compared with the text that was told last.
-/
namespace Peripheral.Battery
open Transitions PowerSupplyProvider List

inductive Field
  | capacity
  | totalEnergy
  | remainEnergy
  | voltage
  | temperature
  | health
  | chargeStatus
  | present
  | technology
  | chargeCounter
  | currentAverage
  | currentNow
  deriving DecidableEq

inductive Value
  | number (n : Int)
  | text (str : CString)
  deriving DecidableEq

namespace Field

def all : List Field :=
  [.capacity, .totalEnergy, .remainEnergy, .voltage, .temperature, .health, .chargeStatus, .present, .technology,
    .chargeCounter, .currentAverage, .currentNow]

def key : Field → CString
  | .capacity => "POWER_SUPPLY_CAPACITY=".toList
  | .totalEnergy => "POWER_SUPPLY_TOTAL_ENERGY=".toList
  | .remainEnergy => "POWER_SUPPLY_REMAIN_ENERGY=".toList
  | .voltage => "POWER_SUPPLY_VOLTAGE_NOW=".toList
  | .temperature => "POWER_SUPPLY_TEMP=".toList
  | .health => "POWER_SUPPLY_HEALTH=".toList
  | .chargeStatus => "POWER_SUPPLY_STATUS=".toList
  | .present => "POWER_SUPPLY_PRESENT=".toList
  | .technology => "POWER_SUPPLY_TECHNOLOGY=".toList
  | .chargeCounter => "POWER_SUPPLY_CHARGE_COUNTER=".toList
  | .currentAverage => "POWER_SUPPLY_CURRENT_AVERAGE=".toList
  | .currentNow => "POWER_SUPPLY_CURRENT_NOW=".toList

def assigner : Field → Assigner
  | .capacity => capacityAssigner
  | .totalEnergy => totalEnergyAssigner
  | .remainEnergy => remainEnergyAssigner
  | .voltage => voltageAssigner
  | .temperature => temperatureAssigner
  | .health => healthStateAssigner
  | .chargeStatus => chargeStateAssigner
  | .present => presentAssigner
  | .technology => technologyAssigner
  | .chargeCounter => chargeCounterAssigner
  | .currentAverage => currentAverageAssigner
  | .currentNow => currentNowAssigner

def path (paths : BatterySysfsInfo) : Field → String
  | .capacity => paths.capacityPath
  | .totalEnergy => paths.totalEnergyPath
  | .remainEnergy => paths.remainEnergyPath
  | .voltage => paths.voltagePath
  | .temperature => paths.temperaturePath
  | .health => paths.healthStatePath
  | .chargeStatus => paths.chargeStatePath
  | .present => paths.presentPath
  | .technology => paths.technologyPath
  | .chargeCounter => paths.chargeCounterPath
  | .currentAverage => paths.curAveragePath
  | .currentNow => paths.curNowPath

def value (info : BatterydInfo) : Field → Value
  | .capacity => .number info.capacity
  | .totalEnergy => .number info.totalEnergy
  | .remainEnergy => .number info.remainEnergy
  | .voltage => .number info.voltage
  | .temperature => .number info.temperature
  | .health => .number info.healthState
  | .chargeStatus => .number info.chargeState
  | .present => .number info.present
  | .technology => .text info.technology
  | .chargeCounter => .number info.chargeCounter
  | .currentAverage => .number info.curAverage
  | .currentNow => .number info.curNow

/-- The value that a text stands for. Voltages are in millivolts. -/
def convert : Field → CString → Value
  | .voltage, str => .number ((parseInt str).tdiv UVOL_TO_MVOL)
  | .health, str => .number (healthStateEnumConverter str)
  | .chargeStatus, str => .number (chargeStateEnumConverter str)
  | .present, str => .number ((parseInt str).bmod (2 ^ 8))
  | .technology, str => .text str
  | _, str => .number (parseInt str)

def fileValue : Field → CString → Value
  | .voltage, str => .number (parseInt str)
  | field, str => field.convert str

def line (field : Field) (line : CString) : Option CString :=
  if field.key.isPrefixOf line then some (line.drop field.key.length) else none

def mention (field : Field) (lines : List CString) : Option CString := (lines.filterMap field.line).getLast?

def fileText (provider : PowerSupplyProvider) (sysfs : Sysfs) (field : Field) : Option CString :=
  readSysfsFile sysfs (field.path provider.batterySysfsInfo)

end Field

def message (lines : List CString) : List Char := lines.flatMap (· ++ ['\x00'])

theorem batteryAssigners_eq : batteryAssigners = Field.all.map fun field => (field.key, field.assigner) := rfl

theorem Field.mem_all (field : Field) : field ∈ Field.all := by cases field <;> decide

theorem Field.assigner_value (field other : Field) (str : CString) (info : BatterydInfo) :
    other.value (field.assigner str info) = if other = field then field.convert str else other.value info := by
  cases field <;> cases other <;> rfl

theorem Field.key_prefix : ∀ field ∈ Field.all, ∀ other ∈ Field.all, field.key.isPrefixOf other.key → field = other := by
  decide +kernel

variable {line : CString}

theorem Field.line_unique {field other : Field} (its : field.key.isPrefixOf line) (others : other.key.isPrefixOf line) :
    field = other := by
  rw [ isPrefixOf_iff_prefix] at its others
  obtain short | short := prefix_or_prefix_of_prefix its others
  · exact Field.key_prefix field field.mem_all other other.mem_all ( isPrefixOf_iff_prefix.mpr short)
  · exact (Field.key_prefix other other.mem_all field field.mem_all ( isPrefixOf_iff_prefix.mpr short)).symm

variable {field : Field}

theorem assignLine_of_key (its : field.key.isPrefixOf line) (info : BatterydInfo) :
    assignLine info line = field.assigner (line.drop field.key.length) info := by
  have some_field : (Field.all.find? fun other => other.key.isPrefixOf line).isSome :=
    find?_isSome.mpr ⟨field, field.mem_all, its⟩
  obtain ⟨other, found⟩ := Option.isSome_iff_exists.mp some_field
  have others : other.key.isPrefixOf line := by simpa using find?_some found
  obtain rfl := Field.line_unique its others
  have entry : batteryAssigners.find? (fun entry => entry.1.isPrefixOf line) = some (field.key, field.assigner) := by
    rw [batteryAssigners_eq, find?_map]
    exact congrArg (Option.map _) found
  rw [assignLine, entry]

theorem assignLine_other (none_ : ∀ field : Field, ¬ field.key.isPrefixOf line) (info : BatterydInfo) :
    assignLine info line = info := by
  have entry : batteryAssigners.find? (fun entry => entry.1.isPrefixOf line) = none := by
    rw [batteryAssigners_eq, find?_map, Option.map_eq_none_iff]
    exact find?_eq_none.mpr fun field _ => none_ field
  rw [assignLine, entry]

theorem assignLine_value (field : Field) (info : BatterydInfo) (line : CString) :
    field.value (assignLine info line) = match field.line line with
      | some str => field.convert str
      | none => field.value info := by
  by_cases some_field : ∃ other : Field, other.key.isPrefixOf line
  · obtain ⟨other, its⟩ := some_field
    rw [assignLine_of_key its, Field.assigner_value]
    by_cases same : field = other
    · subst same
      rw [if_pos rfl, Field.line, if_pos its]
    · rw [if_neg same, Field.line, if_neg fun others => same (Field.line_unique others its)]
  · have none_ : ∀ other : Field, ¬ other.key.isPrefixOf line := fun other its => some_field ⟨other, its⟩
    rw [assignLine_other none_, Field.line, if_neg (none_ field)]

theorem Field.mention_append (field : Field) (lines : List CString) (line : CString) :
    field.mention (lines ++ [line]) = (field.line line).or (field.mention lines) := by
  rw [Field.mention, filterMap_append, getLast?_append]
  cases its : field.line line <;> simp [its, Field.mention]

theorem foldl_assignLine_value (field : Field) (info : BatterydInfo) (lines : List CString) :
    field.value (lines.foldl assignLine info) = match field.mention lines with
      | some str => field.convert str
      | none => field.value info := by
  induction lines using reverseRecOn with
  | nil => rfl
  | append_singleton lines line ih =>
    rw [foldl_append, foldl_cons, foldl_nil, assignLine_value, Field.mention_append]
    cases field.line line with
    | some str => rfl
    | none => exact ih

theorem trim_trim (str : CString) : trim (trim str) = trim str := by
  rw [trim, takeWhile_eq_self_iff]
  exact fun c listed => @mem_takeWhile_imp _ _ str c listed

theorem readSysfsFile_trim {sysfs : Sysfs} {path : String} {buf : CString} (reads : readSysfsFile sysfs path = some buf) :
    trim buf = buf := by
  obtain ⟨content, -, rfl⟩ := Option.map_eq_some_iff.mp reads
  exact trim_trim _

variable (provider : PowerSupplyProvider) (sysfs : Sysfs) (info : BatterydInfo)

def Field.parsed (field other : Field) : Value :=
  if other = field then
    match field.fileText provider sysfs with
    | some str => field.fileValue str
    | none => other.value info
  else other.value info

def Field.parse (field : Field) : BatterydInfo → BatterydInfo :=
  match field with
  | .capacity => provider.parseCapacity sysfs
  | .totalEnergy => provider.parseTotalEnergy sysfs
  | .remainEnergy => provider.parseRemainEnergy sysfs
  | .voltage => provider.parseVoltage sysfs
  | .temperature => provider.parseTemperature sysfs
  | .health => provider.parseHealthState sysfs
  | .chargeStatus => provider.parseChargeState sysfs
  | .present => provider.parsePresent sysfs
  | .technology => provider.parseTechnology sysfs
  | .chargeCounter => provider.parseChargeCounter sysfs
  | .currentAverage => provider.parseCurrentAverage sysfs
  | .currentNow => provider.parseCurrentNow sysfs

/-- It assigns what the line of an event would, but the voltage as it is. -/
def Field.fileAssigner : Field → Assigner
  | .voltage => fun buf info => { info with voltage := parseInt buf }
  | .health => fun buf => healthStateAssigner (trim buf)
  | .chargeStatus => fun buf => chargeStateAssigner (trim buf)
  | field => field.assigner

theorem Field.parse_eq (field : Field) : field.parse provider sysfs =
    parseFile sysfs (field.path provider.batterySysfsInfo) field.fileAssigner := by
  cases field <;> rfl

theorem Field.fileAssigner_value (field other : Field) {str : CString} (trimmed : trim str = str) :
    other.value (field.fileAssigner str info) = if other = field then field.fileValue str else other.value info := by
  cases field with
  | health | chargeStatus =>
    simp only [Field.fileAssigner, trimmed]
    cases other <;> rfl
  | _ => cases other <;> rfl

theorem Field.parse_value (field other : Field) :
    other.value (field.parse provider sysfs info) = field.parsed provider sysfs info other := by
  rw [Field.parse_eq, parseFile, Field.parsed, Field.fileText]
  cases reads : readSysfsFile sysfs (field.path provider.batterySysfsInfo) with
  | none => exact (ite_self _).symm
  | some str => exact Field.fileAssigner_value info field other (readSysfsFile_trim reads)

theorem parseFile_other {path : String} {assign : Assigner}
    (same : ∀ str info, field.value (assign str info) = field.value info) :
    field.value (parseFile sysfs path assign info) = field.value info := by
  rw [parseFile]
  cases readSysfsFile sysfs path with
  | none => rfl
  | some str => exact same str info

theorem parsePluggedType_value (field : Field) : field.value (provider.parsePluggedType sysfs info) = field.value info := by
  rw [parsePluggedType]
  by_cases unknown : pluggedTypeEnumConverter (provider.getPluggedTypeName sysfs) = PLUGGED_TYPE_BUTT
  · rw [if_pos unknown]
  · rw [if_neg unknown]
    cases field <;> rfl

/-- Of the twelve values only the technology is read again. -/
theorem parsePlugged_value (field : Field) : field.value (provider.parsePlugged sysfs info) =
    if field = .technology then .text ((Field.technology.fileText provider sysfs).getD INVALID_STRING_VALUE)
    else field.value info := by
  have current (info : BatterydInfo) : field.value (provider.parsePluggedMaxCurrent sysfs info) = field.value info :=
    parseFile_other sysfs info fun _ _ => by cases field <;> rfl
  have voltage (info : BatterydInfo) : field.value (provider.parsePluggedMaxVoltage sysfs info) = field.value info :=
    parseFile_other sysfs info fun _ _ => by cases field <;> rfl
  refine (Field.parse_value provider sysfs _ .technology field).trans ?_
  by_cases its : field = .technology
  · subst its
    rw [Field.parsed, if_pos rfl, if_pos rfl]
    cases Field.technology.fileText provider sysfs <;> rfl
  · rw [Field.parsed, if_neg its, if_neg its]
    have kept (info : BatterydInfo) : field.value { info with technology := INVALID_STRING_VALUE } = field.value info := by
      cases field <;> first | rfl | exact absurd rfl its
    have set_current (info : BatterydInfo) :
        field.value { info with pluggedMaxCurrent := INVALID_BATT_INT_VALUE } = field.value info := by
      cases field <;> rfl
    have set_voltage (info : BatterydInfo) :
        field.value { info with pluggedMaxVoltage := INVALID_BATT_INT_VALUE } = field.value info := by
      cases field <;> rfl
    have set_type (info : BatterydInfo) : field.value { info with pluggedType := PLUGGED_TYPE_NONE } = field.value info := by
      cases field <;> rfl
    rw [kept, voltage, set_voltage, current, set_current, parsePluggedType_value, set_type]

def BatterydInfo.plugged (info : BatterydInfo) :
    Int × Int × Int := (info.pluggedType, info.pluggedMaxCurrent, info.pluggedMaxVoltage)

theorem Field.parse_other {field other : Field} (differs : other ≠ field) :
    other.value (field.parse provider sysfs info) = other.value info := by
  rw [Field.parse_value, Field.parsed, if_neg differs]

def Field.files : List Field :=
  [.capacity, .voltage, .temperature, .health, .chargeStatus, .chargeCounter, .currentNow, .currentAverage, .remainEnergy,
    .totalEnergy, .present]

theorem updateInfoByReadSysFile_eq : provider.updateInfoByReadSysFile sysfs info =
    provider.parsePlugged sysfs (Field.files.foldl (fun info field => field.parse provider sysfs info) info) := rfl

theorem foldl_parse_value (field : Field) (files : List Field) (distinct : files.Nodup) :
    field.value (files.foldl (fun info file => file.parse provider sysfs info) info) =
      if field ∈ files then field.parsed provider sysfs info field else field.value info := by
  induction files generalizing info with
  | nil => rfl
  | cons file rest ih =>
    obtain ⟨apart, others⟩ := nodup_cons.mp distinct
    rw [foldl_cons, ih _ others]
    by_cases its : field = file
    · subst its
      rw [if_neg apart, if_pos (mem_cons_self ..), Field.parse_value]
    · simp only [mem_cons, its, false_or]
      rw [Field.parse_other provider sysfs info its]
      simp only [Field.parsed, if_true, Field.parse_other provider sysfs info its]

theorem updateInfoByReadSysFile_value (field : Field) (other : field ≠ .technology) :
    field.value (provider.updateInfoByReadSysFile sysfs info) = match field.fileText provider sysfs with
      | some str => field.fileValue str
      | none => field.value info := by
  have listed : field ∈ Field.files := by
    cases field <;> first | decide | exact absurd rfl other
  rw [updateInfoByReadSysFile_eq, parsePlugged_value, if_neg other, foldl_parse_value _ _ _ _ _ (by decide), if_pos listed,
    Field.parsed, if_pos rfl]

theorem parseUeventToBatterydInfo_value (msg : List Char) (field : Field) (other : field ≠ .technology) :
    field.value (provider.parseUeventToBatterydInfo sysfs msg info) = match field.mention (messageLines msg) with
      | some str => field.convert str
      | none => field.value info := by
  rw [parseUeventToBatterydInfo, parsePlugged_value, if_neg other, foldl_assignLine_value]

structure Exported where
  text : Field → CString
  line : ∀ field, '\n' ∉ text field
  whole : ∀ field, '\x00' ∉ text field
  fits : ∀ field, (text field).length < MAX_BUFF_SIZE

def Exported.InFiles (state : Exported) (provider : PowerSupplyProvider) (sysfs : Sysfs) : Prop :=
  ∀ field, sysfs (Field.path provider.batterySysfsInfo field) = some (state.text field ++ ['\n'])

variable {provider sysfs} {state : Exported}

theorem Exported.InFiles.fileText (shows : state.InFiles provider sysfs) (field : Field) :
    field.fileText provider sysfs = some (state.text field) := by
  have fits := state.fits field
  have whole : (state.text field ++ ['\n']).take (MAX_BUFF_SIZE - 1) =
      state.text field ++ ['\n'].take (MAX_BUFF_SIZE - 1 - (state.text field).length) := by
    rw [take_append, take_of_length_le (Nat.le_sub_one_of_lt fits)]
  have plain : ∀ c ∈ state.text field, decide (c ≠ '\n') = true := fun c listed =>
    decide_eq_true fun its => state.line field (its ▸ listed)
  rw [Field.fileText, readSysfsFile, shows field, Option.map_some, whole, trim, takeWhile_append_of_pos plain]
  cases MAX_BUFF_SIZE - 1 - (state.text field).length with
  | zero => rw [take_zero, takeWhile_nil, append_nil]
  | succ n => simp

theorem millivolts_eq_iff {n : Int} : n.tdiv UVOL_TO_MVOL = n ↔ n = 0 := by
  constructor
  · intro same
    have size : n.natAbs / 1000 = n.natAbs := (Int.natAbs_tdiv n 1000).symm.trans (congrArg Int.natAbs same)
    omega
  · rintro rfl
    rfl

theorem Field.fileValue_eq_iff {str : CString} :
    field.fileValue str = field.convert str ↔ (field = .voltage → parseInt str = 0) := by
  cases field with
  | voltage =>
    refine Iff.trans ⟨fun same => (Value.number.inj same).symm, fun same => congrArg Value.number same.symm⟩ ?_
    exact millivolts_eq_iff.trans ⟨fun zero _ => zero, fun zero => zero rfl⟩
  | _ => exact iff_of_true rfl nofun

/-- What a wake of the thread makes it read: nothing, the files, or an event and the files. -/
def Wake.lines : Wake → Option (Option (List CString) × Sysfs)
  | .timerCallback read sysfs => if read then some (none, sysfs) else none
  | .ueventCallback none _ => none
  | .ueventCallback (some msg) sysfs =>
    if UEVENT_MSG_LEN ≤ msg.length then none
    else if isPowerSupplyEvent msg then some (some (messageLines msg), sysfs) else none

/-- The text that is told for a field: by its file, or by the event, after which only the file of the
technology is read. -/
def Wake.tells (provider : PowerSupplyProvider) (wake : Wake) (field : Field) : Option CString :=
  match wake.lines with
  | none => none
  | some (none, sysfs) => field.fileText provider sysfs
  | some (some lines, sysfs) =>
    if field = .technology then (field.fileText provider sysfs).or (field.mention lines) else field.mention lines

structure State where
  g_batteryInfo : BatterydInfo
  told : Field → Option CString

namespace State

def start : State := ⟨.new, fun _ => none⟩

def after (provider : PowerSupplyProvider) (s : State) (event : Wake) : State :=
  ⟨wake provider s.g_batteryInfo event, fun field => (event.tells provider field).or (s.told field)⟩

def due (s : State) (field : Field) : Value :=
  match s.told field with
  | some str => field.convert str
  | none => field.value .new

/-- Each field has the value that was told last. -/
def Current (s : State) : Prop := ∀ field : Field, field.value s.g_batteryInfo = s.due field

def Right (provider : PowerSupplyProvider) (s : State) (event : Wake) : Prop := (s.after provider event).Current

/-- The wakes after which this is so. A field that is not told is 0, and the technology is invalid. -/
def Careful (provider : PowerSupplyProvider) (s : State) (event : Wake) : Prop :=
  match event.lines with
  | none => True
  | some (none, sysfs) =>
    (∀ str, Field.voltage.fileText provider sysfs = some str → parseInt str = 0) ∧
    ∀ field : Field, field.fileText provider sysfs = none →
      field.value s.g_batteryInfo = if field = .technology then .text INVALID_STRING_VALUE else field.value .new
  | some (some lines, sysfs) =>
    (∀ field : Field, field ≠ .technology → field.mention lines = none → field.value s.g_batteryInfo = field.value .new) ∧
    (Field.technology.fileText provider sysfs = none →
      ((Field.technology.mention lines).map Value.text).getD (Field.technology.value s.g_batteryInfo) =
        .text INVALID_STRING_VALUE)

variable {s : State}

theorem after_due (event : Wake) (field : Field) : (s.after provider event).due field = match event.tells provider field with
    | some str => field.convert str
    | none => s.due field := by
  simp only [due, after]
  cases event.tells provider field <;> rfl

theorem technology_value {info : BatterydInfo} : Field.technology.value (provider.parsePlugged sysfs info) =
    match Field.technology.fileText provider sysfs with
    | some str => Field.technology.convert str
    | none => .text INVALID_STRING_VALUE := by
  rw [parsePlugged_value, if_pos rfl]
  cases Field.technology.fileText provider sysfs <;> rfl

variable {event : Wake}

/-- After the timer each field is what its file says exactly if the wake is a careful one. -/
theorem right_files_iff (current : s.Current) (reads : event.lines = some (none, sysfs))
    (wakes : wake provider s.g_batteryInfo event = provider.updateInfoByReadSysFile sysfs .new) :
    s.Right provider event ↔ s.Careful provider event := by
  have told (field : Field) : event.tells provider field = field.fileText provider sysfs := by rw [Wake.tells, reads]
  have held (field : Field) : field.value (s.after provider event).g_batteryInfo = match field.fileText provider sysfs with
      | some str => field.fileValue str
      | none => if field = .technology then .text INVALID_STRING_VALUE else field.value .new := by
    rw [after, wakes]
    by_cases technology : field = .technology
    · subst technology
      exact technology_value
    · rw [updateInfoByReadSysFile_value _ _ _ _ technology, if_neg technology]
  have one (field : Field) : field.value (s.after provider event).g_batteryInfo = (s.after provider event).due field ↔
      (∀ str, field.fileText provider sysfs = some str → field = .voltage → parseInt str = 0) ∧
      (field.fileText provider sysfs = none →
        field.value s.g_batteryInfo = if field = .technology then .text INVALID_STRING_VALUE else field.value .new) := by
    rw [held, after_due, told, current field]
    cases field.fileText provider sysfs with
    | some str => simp [Field.fileValue_eq_iff]
    | none => simp [eq_comm]
  simp only [Right, Current, Careful, reads, one, forall_and]
  refine and_congr_left' ⟨fun all str reads => all .voltage str reads rfl, ?_⟩
  rintro zero field str reads rfl
  exact zero str reads

/-- After an event each field is what was told last exactly if the wake is a careful one. -/
theorem right_event_iff {msg : List Char} (current : s.Current) (reads : event.lines = some (some (messageLines msg), sysfs))
    (wakes : wake provider s.g_batteryInfo event = provider.parseUeventToBatterydInfo sysfs msg .new) :
    s.Right provider event ↔ s.Careful provider event := by
  have told (field : Field) : event.tells provider field =
      if field = .technology then (field.fileText provider sysfs).or (field.mention (messageLines msg))
      else field.mention (messageLines msg) := by
    rw [Wake.tells, reads]
  have one (field : Field) (other : field ≠ .technology) :
      field.value (s.after provider event).g_batteryInfo = (s.after provider event).due field ↔
        (field.mention (messageLines msg) = none → field.value s.g_batteryInfo = field.value .new) := by
    rw [after_due, told, if_neg other, after, wakes, parseUeventToBatterydInfo_value _ _ _ _ _ other, current field]
    cases field.mention (messageLines msg) with
    | some str => simp
    | none => simp [eq_comm]
  have technology :
      Field.technology.value (s.after provider event).g_batteryInfo = (s.after provider event).due .technology ↔
      (Field.technology.fileText provider sysfs = none →
        ((Field.technology.mention (messageLines msg)).map Value.text).getD (Field.technology.value s.g_batteryInfo) =
          .text INVALID_STRING_VALUE) := by
    rw [after_due, told, if_pos rfl, after, wakes, parseUeventToBatterydInfo, technology_value, current .technology]
    cases Field.technology.fileText provider sysfs with
    | some str => simp
    | none => cases Field.technology.mention (messageLines msg) <;> simp [Field.convert, eq_comm]
  simp only [Right, Current, Careful, reads]
  constructor
  · exact fun all => ⟨fun field other => (one field other).mp (all field), technology.mp (all .technology)⟩
  · rintro ⟨others, last⟩ field
    by_cases its : field = .technology
    · subst its
      exact technology.mpr last
    · exact (one field its).mpr (others field its)

theorem right_of_none (current : s.Current) (reads : event.lines = none)
    (wakes : wake provider s.g_batteryInfo event = s.g_batteryInfo) : s.Right provider event ↔ s.Careful provider event := by
  refine iff_of_true (fun field => ?_) (by simp only [Careful, reads])
  rw [after_due, Wake.tells, reads, after, wakes]
  exact current field

theorem right_iff (current : s.Current) : s.Right provider event ↔ s.Careful provider event := by
  cases event with
  | timerCallback read sysfs =>
    cases read with
    | true => exact right_files_iff current rfl rfl
    | false => exact right_of_none current rfl rfl
  | ueventCallback recv sysfs =>
    cases recv with
    | none => exact right_of_none current rfl rfl
    | some msg =>
      by_cases long : UEVENT_MSG_LEN ≤ msg.length
      · exact right_of_none current (if_pos long) (if_pos long)
      by_cases power : isPowerSupplyEvent msg
      · exact right_event_iff current ((if_neg long).trans (if_pos power)) ((if_neg long).trans (if_pos power))
      · exact right_of_none current ((if_neg long).trans (if_neg power)) ((if_neg long).trans (if_neg power))

end State

def node : PowerSupplyProvider :=
  ⟨POWER_SUPPLY_BASE_PATH, [], [], ⟨"capacity", "voltage_now", "temp", "health", "status", "present", "technology",
    "charge_counter", "charge_full", "current_avg", "current_now", "charge_now"⟩⟩

def texts (voltage : CString) : Field → CString
  | .capacity => "80".toList
  | .temperature => "250".toList
  | .voltage => voltage
  | .health => "Good".toList
  | .chargeStatus => "Charging".toList
  | .present => "1".toList
  | .technology => "Li-ion".toList
  | _ => "-7".toList

def Exported.files (state : Exported) : Sysfs := fun path =>
  (Field.all.find? fun field => field.path node.batterySysfsInfo = path).map fun field => state.text field ++ ['\n']

def Exported.lines (state : Exported) : List CString :=
  POWER_SUPPLY :: Field.all.map fun field => field.key ++ state.text field

def empty : Exported where
  text := texts "0".toList
  line field := by cases field <;> decide
  whole field := by cases field <;> decide
  fits field := by cases field <;> decide

def full : Exported where
  text := texts "4123000".toList
  line field := by cases field <;> decide
  whole field := by cases field <;> decide
  fits field := by cases field <;> decide

def charged : List Char := message [POWER_SUPPLY, "POWER_SUPPLY_CAPACITY=81".toList]

def run : List Wake := [.timerCallback true empty.files, .ueventCallback (some charged) empty.files]

end Peripheral.Battery
