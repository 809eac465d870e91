import Peripheral.WlanHal

/-!
The requests that the WLAN client sends to nl80211, `netlink_cmd_adapter.c`. A message is
the list of the attributes that were put into it. The library answers whether there is
room for another one: what does not fit is left out, and the commands do not look.
-/
namespace Peripheral.Netlink
open Wlan (Mac)

def RET_CODE_SUCCESS : Int32 := 0
def RET_CODE_FAILURE : Int32 := -1
def RET_CODE_INVALID_PARAM : Int32 := -3
def RET_CODE_NOT_AVAILABLE : Int32 := -5
def RET_CODE_NOMEM : Int32 := -6

def MAX_SSID_LEN : Nat := 32
def VENDOR_ID : UInt32 := 0x001A11
def WIFI_SUBCMD_SET_COUNTRY_CODE : UInt32 := 0x100E
def WIFI_SUBCMD_SET_RANDOM_MAC_OUI : UInt32 := 0x100C
def WIFI_ATTRIBUTE_COUNTRY : Nat := 4
def ANDR_WIFI_ATTRIBUTE_RANDOM_MAC_OUI : Nat := 2
def NL80211_TX_POWER_LIMITED : UInt32 := 1

/-- `nl80211_commands`. -/
inductive Cmd
  | getWiphy
  | setWiphy
  | getScan
  | triggerScan
  | vendor
  deriving DecidableEq

/-- `nl80211_attrs`. -/
inductive AttrType
  | ifindex
  | splitWiphyDump
  | wiphyTxPowerSetting
  | wiphyTxPowerLevel
  | vendorId
  | vendorSubcmd
  | vendorData
  | scanSsids
  | scanFrequencies
  | ie
  | mac
  deriving DecidableEq

inductive Value
  | flag
  | u32 (v : UInt32)
  | bytes (data : List UInt8)
  deriving DecidableEq

def Value.length : Value → Nat
  | .flag => 0
  | .u32 _ => 4
  | .bytes data => data.length

inductive Attr
  | value (type : AttrType) (v : Value)
  | nested (type : AttrType) (items : List (Nat × Value))
  deriving DecidableEq

/-- `nl_msg`, with the attributes of a nest that is not closed yet. -/
structure Msg where
  familyId : Int32
  dump : Bool
  cmd : Cmd
  attrs : List Attr
  nest : List (Nat × Value)
  deriving DecidableEq

structure Libnl where
  fits : Msg → Nat → Bool
  /-- Whether `nla_nest_end` keeps these attributes: it drops a nest that is too long, and it may drop an empty one. -/
  keeps : List (Nat × Value) → Bool

def genlmsgPut (familyId : Int32) (dump : Bool) (cmd : Cmd) : Msg := ⟨familyId, dump, cmd, [], []⟩

namespace Libnl
variable (lib : Libnl)

def nlaPut (msg : Msg) (type : AttrType) (v : Value) : Msg :=
  if lib.fits msg v.length then { msg with attrs := msg.attrs ++ [.value type v] } else msg

/-- `nla_put` between `nla_nest_start` and `nla_nest_end`. -/
def nlaPutNested (msg : Msg) (type : Nat) (v : Value) : Msg :=
  if lib.fits msg v.length then { msg with nest := msg.nest ++ [(type, v)] } else msg

def nlaNestStart (msg : Msg) : Option Msg := if lib.fits msg 0 then some { msg with nest := [] } else none

def nlaNestEnd (msg : Msg) (type : AttrType) : Msg :=
  { msg with attrs := msg.attrs ++ (if lib.keeps msg.nest then [.nested type msg.nest] else []), nest := [] }

/-- One nest with the values of a counted loop, numbered from one on. -/
def putEach (msg : Msg) (type : AttrType) (count : Nat) (v : Nat → Value) : Except Int32 Msg :=
  match lib.nlaNestStart msg with
  | none => .error RET_CODE_FAILURE
  | some msg => .ok (lib.nlaNestEnd ((List.range count).foldl (fun msg i => lib.nlaPutNested msg (i + 1) (v i)) msg) type)

end Libnl

/-- `WifiDriverScanSsid`. -/
abbrev ScanSsid := { ssid : List UInt8 // ssid.length ≤ MAX_SSID_LEN }

/-- `WifiScan`: the arrays that are given have as many elements as their counts say. -/
structure WifiScan where
  ssids : Option (List ScanSsid)
  freqs : Option (List Int32)
  extraIes : Option (List UInt8)
  bssid : Option Mac
  numSsids : UInt8
  numFreqs : UInt8
  ssids_long : ∀ given ∈ ssids, numSsids.toNat ≤ given.length
  freqs_long : ∀ given ∈ freqs, numFreqs.toNat ≤ given.length

namespace Libnl
variable (lib : Libnl)

/-- `scan->ssids->ssid` is the first one in every round. -/
def putSsids (scan : WifiScan) (msg : Msg) : Except Int32 Msg :=
  match scan.ssids with
  | none => .ok msg
  | some ssids => lib.putEach msg .scanSsids scan.numSsids.toNat (fun _ => .bytes (ssids.head?.elim [] (·.val)))

def putFreqs (scan : WifiScan) (msg : Msg) : Except Int32 Msg :=
  match scan.freqs with
  | none => .ok msg
  | some freqs => lib.putEach msg .scanFrequencies scan.numFreqs.toNat (fun i => .u32 (freqs[i]?.getD 0).toUInt32)

def putBytes (type : AttrType) (given : Option (List UInt8)) (msg : Msg) : Msg :=
  match given with
  | none => msg
  | some data => lib.nlaPut msg type (.bytes data)

def cmdScanPutMsg (msg : Msg) (scan : WifiScan) : Except Int32 Msg := do
  let msg ← lib.putSsids scan msg
  let msg ← lib.putFreqs scan msg
  let msg := lib.putBytes .ie scan.extraIes msg
  return lib.putBytes .mac (scan.bssid.map (·.toList)) msg

end Libnl
end Peripheral.Netlink
