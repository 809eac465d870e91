import Mathlib.Algebra.Group.Int.Defs
import Mathlib.Algebra.Group.Nat.Defs
import Mathlib.Data.List.Basic
import Peripheral.Strtol

/-!
The battery service, from `power_supply_provider.cpp` and `battery_thread.cpp`: the state of the
battery as it is read from the files of the kernel, and as it is told by its events. Texts have no
zero in them.
-/
namespace Peripheral.Battery

abbrev CString := List Char

def MAX_BUFF_SIZE := 128
def UEVENT_MSG_LEN := 2 * 1024
def UVOL_TO_MVOL : Int := 1000
def INVALID_BATT_INT_VALUE : Int := -1
def INVALID_STRING_VALUE : CString := "invalid".toList
def POWER_SUPPLY_BASE_PATH := "/sys/class/power_supply"
def POWER_SUPPLY_BATTERY := "Battery"
def POWER_SUPPLY : CString := "SUBSYSTEM=power_supply".toList

def BATTERY_HEALTH_UNKNOWN : Int := 0
def BATTERY_HEALTH_GOOD : Int := 1
def BATTERY_HEALTH_OVERHEAT : Int := 2
def BATTERY_HEALTH_OVERVOLTAGE : Int := 3
def BATTERY_HEALTH_COLD : Int := 4
def BATTERY_HEALTH_DEAD : Int := 5

def CHARGE_STATE_NONE : Int := 0
def CHARGE_STATE_ENABLE : Int := 1
def CHARGE_STATE_DISABLE : Int := 2
def CHARGE_STATE_FULL : Int := 3
def CHARGE_STATE_RESERVED : Int := 4

def PLUGGED_TYPE_NONE : Int := 0
def PLUGGED_TYPE_AC : Int := 1
def PLUGGED_TYPE_USB : Int := 2
def PLUGGED_TYPE_WIRELESS : Int := 3
def PLUGGED_TYPE_BUTT : Int := 4

structure BatterydInfo where
  capacity : Int
  voltage : Int
  temperature : Int
  healthState : Int
  pluggedType : Int
  pluggedMaxCurrent : Int
  pluggedMaxVoltage : Int
  chargeState : Int
  chargeCounter : Int
  totalEnergy : Int
  curAverage : Int
  curNow : Int
  remainEnergy : Int
  present : Int
  technology : CString

def BatterydInfo.new : BatterydInfo := ⟨0, 0, 0, 0, 0, 0, 0, 0, 0, 0, 0, 0, 0, 0, []⟩

/-- The provider does not look at `errno`. -/
def parseInt (str : CString) : Int := (Strtol.strtol false str).value.bmod (2 ^ 32)

/-- The text up to the end of the line. -/
def trim (str : CString) : CString := str.takeWhile (· ≠ '\n')

def lookup (table : List (String × Int)) (unknown : Int) (str : CString) : Int :=
  ((table.find? fun entry => entry.1.toList = str).map Prod.snd).getD unknown

def healthStateEnumConverter : CString → Int :=
  lookup [("Good", BATTERY_HEALTH_GOOD), ("Cold", BATTERY_HEALTH_COLD), ("Warm", BATTERY_HEALTH_GOOD),
    ("Cool", BATTERY_HEALTH_GOOD), ("Hot", BATTERY_HEALTH_OVERHEAT), ("Overheat", BATTERY_HEALTH_OVERHEAT),
    ("Over voltage", BATTERY_HEALTH_OVERVOLTAGE), ("Dead", BATTERY_HEALTH_DEAD), ("Unknown", BATTERY_HEALTH_UNKNOWN),
    ("Unspecified failure", BATTERY_HEALTH_UNKNOWN)] BATTERY_HEALTH_UNKNOWN

def chargeStateEnumConverter : CString → Int :=
  lookup [("Discharging", CHARGE_STATE_NONE), ("Charging", CHARGE_STATE_ENABLE), ("Full", CHARGE_STATE_FULL),
    ("Not charging", CHARGE_STATE_DISABLE), ("Unknown", CHARGE_STATE_RESERVED)] CHARGE_STATE_RESERVED

def pluggedTypeEnumConverter : CString → Int :=
  lookup [("USB", PLUGGED_TYPE_USB), ("USB_PD_DRP", PLUGGED_TYPE_USB), ("Wireless", PLUGGED_TYPE_WIRELESS),
    ("Mains", PLUGGED_TYPE_AC), ("UPS", PLUGGED_TYPE_AC), ("USB_ACA", PLUGGED_TYPE_AC), ("USB_C", PLUGGED_TYPE_AC),
    ("USB_CDP", PLUGGED_TYPE_AC), ("USB_DCP", PLUGGED_TYPE_AC), ("USB_HVDCP", PLUGGED_TYPE_AC),
    ("USB_PD", PLUGGED_TYPE_AC), ("Unknown", PLUGGED_TYPE_BUTT)] PLUGGED_TYPE_BUTT

abbrev Assigner := CString → BatterydInfo → BatterydInfo

def capacityAssigner : Assigner := fun str info => { info with capacity := parseInt str }
def totalEnergyAssigner : Assigner := fun str info => { info with totalEnergy := parseInt str }
def remainEnergyAssigner : Assigner := fun str info => { info with remainEnergy := parseInt str }
def voltageAssigner : Assigner := fun str info => { info with voltage := (parseInt str).tdiv UVOL_TO_MVOL }
def temperatureAssigner : Assigner := fun str info => { info with temperature := parseInt str }
def healthStateAssigner : Assigner := fun str info => { info with healthState := healthStateEnumConverter str }
def chargeStateAssigner : Assigner := fun str info => { info with chargeState := chargeStateEnumConverter str }
def presentAssigner : Assigner := fun str info => { info with present := (parseInt str).bmod (2 ^ 8) }
def technologyAssigner : Assigner := fun str info => { info with technology := str }
def chargeCounterAssigner : Assigner := fun str info => { info with chargeCounter := parseInt str }
def currentAverageAssigner : Assigner := fun str info => { info with curAverage := parseInt str }
def currentNowAssigner : Assigner := fun str info => { info with curNow := parseInt str }

def batteryAssigners : List (CString × Assigner) :=
  [("POWER_SUPPLY_CAPACITY=".toList, capacityAssigner),
    ("POWER_SUPPLY_TOTAL_ENERGY=".toList, totalEnergyAssigner),
    ("POWER_SUPPLY_REMAIN_ENERGY=".toList, remainEnergyAssigner),
    ("POWER_SUPPLY_VOLTAGE_NOW=".toList, voltageAssigner),
    ("POWER_SUPPLY_TEMP=".toList, temperatureAssigner),
    ("POWER_SUPPLY_HEALTH=".toList, healthStateAssigner),
    ("POWER_SUPPLY_STATUS=".toList, chargeStateAssigner),
    ("POWER_SUPPLY_PRESENT=".toList, presentAssigner),
    ("POWER_SUPPLY_TECHNOLOGY=".toList, technologyAssigner),
    ("POWER_SUPPLY_CHARGE_COUNTER=".toList, chargeCounterAssigner),
    ("POWER_SUPPLY_CURRENT_AVERAGE=".toList, currentAverageAssigner),
    ("POWER_SUPPLY_CURRENT_NOW=".toList, currentNowAssigner)]

/-- The walk over a message: lines that end with a zero, up to an empty one. -/
def walk : (msg : List Char) → (line : CString) → List CString
  | [], line => if line = [] then [] else [line]
  | c :: rest, line =>
    if c = '\x00' then (if line = [] then [] else line :: walk rest []) else walk rest (line ++ [c])

def messageLines (msg : List Char) : List CString := walk msg []

def assignLine (info : BatterydInfo) (line : CString) : BatterydInfo :=
  match batteryAssigners.find? fun entry => entry.1.isPrefixOf line with
  | some (key, assigner) => assigner (line.drop key.length) info
  | none => info

def isPowerSupplyEvent (msg : List Char) : Bool := (messageLines msg).any (· = POWER_SUPPLY)

/-- What can be read from a file, if it can be opened. -/
abbrev Sysfs := String → Option CString

def readSysfsFile (sysfs : Sysfs) (path : String) : Option CString :=
  (sysfs path).map fun content => trim (content.take (MAX_BUFF_SIZE - 1))

structure BatterySysfsInfo where
  capacityPath : String
  voltagePath : String
  temperaturePath : String
  healthStatePath : String
  chargeStatePath : String
  presentPath : String
  technologyPath : String
  chargeCounterPath : String
  totalEnergyPath : String
  curAveragePath : String
  curNowPath : String
  remainEnergyPath : String

structure PowerSupplyProvider where
  path : String
  nodeNames : List String
  nodeNamePathMap : List (String × String)
  batterySysfsInfo : BatterySysfsInfo

namespace PowerSupplyProvider

variable (provider : PowerSupplyProvider) (sysfs : Sysfs)

/-- A field is left as it is when its file cannot be opened. -/
def parseFile (path : String) (assign : Assigner) (info : BatterydInfo) : BatterydInfo :=
  match readSysfsFile sysfs path with
  | some buf => assign buf info
  | none => info

def parseCapacity : BatterydInfo → BatterydInfo :=
  parseFile sysfs provider.batterySysfsInfo.capacityPath fun buf info => { info with capacity := parseInt buf }

def parseTotalEnergy : BatterydInfo → BatterydInfo :=
  parseFile sysfs provider.batterySysfsInfo.totalEnergyPath fun buf info => { info with totalEnergy := parseInt buf }

def parseCurrentAverage : BatterydInfo → BatterydInfo :=
  parseFile sysfs provider.batterySysfsInfo.curAveragePath fun buf info => { info with curAverage := parseInt buf }

def parseCurrentNow : BatterydInfo → BatterydInfo :=
  parseFile sysfs provider.batterySysfsInfo.curNowPath fun buf info => { info with curNow := parseInt buf }

def parseRemainEnergy : BatterydInfo → BatterydInfo :=
  parseFile sysfs provider.batterySysfsInfo.remainEnergyPath fun buf info => { info with remainEnergy := parseInt buf }

def parseVoltage : BatterydInfo → BatterydInfo :=
  parseFile sysfs provider.batterySysfsInfo.voltagePath fun buf info => { info with voltage := parseInt buf }

def parseTemperature : BatterydInfo → BatterydInfo :=
  parseFile sysfs provider.batterySysfsInfo.temperaturePath fun buf info => { info with temperature := parseInt buf }

def parseHealthState : BatterydInfo → BatterydInfo :=
  parseFile sysfs provider.batterySysfsInfo.healthStatePath fun buf info =>
    { info with healthState := healthStateEnumConverter (trim buf) }

def parseChargeState : BatterydInfo → BatterydInfo :=
  parseFile sysfs provider.batterySysfsInfo.chargeStatePath fun buf info =>
    { info with chargeState := chargeStateEnumConverter (trim buf) }

def parsePresent : BatterydInfo → BatterydInfo :=
  parseFile sysfs provider.batterySysfsInfo.presentPath fun buf info => { info with present := (parseInt buf).bmod (2 ^ 8) }

def parseChargeCounter : BatterydInfo → BatterydInfo :=
  parseFile sysfs provider.batterySysfsInfo.chargeCounterPath fun buf info => { info with chargeCounter := parseInt buf }

def parseTechnology : BatterydInfo → BatterydInfo :=
  parseFile sysfs provider.batterySysfsInfo.technologyPath fun buf info => { info with technology := buf }

/-- The nodes are asked up to the first that is online: its name, the last path, and the buffer. -/
def findOnline : (nodeNames : List String) → (onlinePath : String) → (buf : CString) → String × String × CString
  | [], onlinePath, buf => ("USB", onlinePath, buf)
  | node :: rest, _, buf =>
    let onlinePath := provider.path ++ "/" ++ node ++ "/" ++ "online"
    let buf := (readSysfsFile sysfs onlinePath).getD buf
    if parseInt buf ≠ 0 then (node, onlinePath, buf) else findOnline rest onlinePath buf

def getPluggedTypeName : CString :=
  let (onlineNode, onlinePath, buf) := provider.findOnline sysfs provider.nodeNames "" []
  match readSysfsFile sysfs onlinePath with
  | none => buf
  | some buf =>
    if parseInt buf = 0 then buf
    else (readSysfsFile sysfs (provider.path ++ "/" ++ onlineNode ++ "/" ++ "type")).getD buf

def parsePluggedType (info : BatterydInfo) : BatterydInfo :=
  let type := pluggedTypeEnumConverter (provider.getPluggedTypeName sysfs)
  if type = PLUGGED_TYPE_BUTT then info else { info with pluggedType := type }

def maxPath (file : String) : String :=
  let node := ((provider.nodeNamePathMap.find? fun entry => entry.1 = file).map Prod.snd).getD POWER_SUPPLY_BATTERY
  POWER_SUPPLY_BASE_PATH ++ "/" ++ node ++ "/" ++ file

def parsePluggedMaxCurrent : BatterydInfo → BatterydInfo :=
  parseFile sysfs (provider.maxPath "current_max") fun buf info => { info with pluggedMaxCurrent := parseInt buf }

def parsePluggedMaxVoltage : BatterydInfo → BatterydInfo :=
  parseFile sysfs (provider.maxPath "voltage_max") fun buf info => { info with pluggedMaxVoltage := parseInt buf }

def parsePlugged (info : BatterydInfo) : BatterydInfo :=
  let info := provider.parsePluggedType sysfs { info with pluggedType := PLUGGED_TYPE_NONE }
  let info := provider.parsePluggedMaxCurrent sysfs { info with pluggedMaxCurrent := INVALID_BATT_INT_VALUE }
  let info := provider.parsePluggedMaxVoltage sysfs { info with pluggedMaxVoltage := INVALID_BATT_INT_VALUE }
  provider.parseTechnology sysfs { info with technology := INVALID_STRING_VALUE }

def updateInfoByReadSysFile (info : BatterydInfo) : BatterydInfo :=
  let info := provider.parseCapacity sysfs info
  let info := provider.parseVoltage sysfs info
  let info := provider.parseTemperature sysfs info
  let info := provider.parseHealthState sysfs info
  let info := provider.parseChargeState sysfs info
  let info := provider.parseChargeCounter sysfs info
  let info := provider.parseCurrentNow sysfs info
  let info := provider.parseCurrentAverage sysfs info
  let info := provider.parseRemainEnergy sysfs info
  let info := provider.parseTotalEnergy sysfs info
  let info := provider.parsePresent sysfs info
  provider.parsePlugged sysfs info

def parseUeventToBatterydInfo (msg : List Char) (info : BatterydInfo) : BatterydInfo :=
  provider.parsePlugged sysfs ((messageLines msg).foldl assignLine info)

end PowerSupplyProvider

def copyBatteryInfo (info : BatterydInfo) (_ : BatterydInfo) : BatterydInfo := info

/-- What the thread is woken by, with what the files say then: the timer, whose read may fail, or an
event, whose message may not be received. -/
inductive Wake
  | timerCallback (read : Bool) (sysfs : Sysfs)
  | ueventCallback (recv : Option (List Char)) (sysfs : Sysfs)

/-- The global state of the battery after the thread was woken. -/
def wake (provider : PowerSupplyProvider) (g_batteryInfo : BatterydInfo) : Wake → BatterydInfo
  | .timerCallback read sysfs =>
    if read then copyBatteryInfo (provider.updateInfoByReadSysFile sysfs .new) g_batteryInfo else g_batteryInfo
  | .ueventCallback none _ => g_batteryInfo
  | .ueventCallback (some msg) sysfs =>
    if UEVENT_MSG_LEN ≤ msg.length then g_batteryInfo
    else if isPowerSupplyEvent msg then copyBatteryInfo (provider.parseUeventToBatterydInfo sysfs msg .new) g_batteryInfo
    else g_batteryInfo

end Peripheral.Battery
