import Peripheral.NetlinkMessage

/-!
How the WLAN client takes apart what the driver answers, `sbuf_cmd_adapter.c`. A reply is a
queue of typed values whose counts and lengths come from the driver. A parser gives a
result, fails with a code, or touches memory outside of what it was given. When it is
faithful to the reply is said for each one on the reply alone (`replies_decoded`).
-/
namespace Peripheral.WlanReplies
open Hdf
open Netlink (RET_CODE_FAILURE RET_CODE_INVALID_PARAM)
open Wlan (Code memcpyS SECUREC_MEM_MAX_LEN MAX_ASSOC_STA_NUM ETH_ADDR_LEN)

def IFNAMSIZ : Nat := 16
def MAX_IFACE_NUM : Nat := 20
def MAX_NETDEVICE_COUNT : Nat := 20
def WIFI_IFTYPE_MAX : Nat := 11

inductive Parse (α : Type)
  | gives (a : α)
  | fails (code : Int32)
  | outside
  deriving DecidableEq

variable {α β : Type}

def read (reader : RemoteCalls.Reader Value Int32 β) (reply : HdfSBuf) (next : β → HdfSBuf → Parse α) : Parse α :=
  match reader.run reply with
  | .ok b rest => next b rest
  | .error _ _ => .fails RET_CODE_FAILURE

/-- Whether the buffer that is read from an empty item is a null pointer. -/
structure Sbuf where
  emptyNull : Bool

/-- `memcpy_s` from a buffer that was read: whether it succeeds, and how many bytes of the destination it writes. -/
def Sbuf.memcpy (sbuf : Sbuf) (destMax : Nat) (src : List UInt8) : Bool × Nat :=
  if src = [] ∧ sbuf.emptyNull then (false, (memcpyS destMax (destMax + 1)).2) else memcpyS destMax src.length

/-- The bytes are copied to the front of a field, with what the call takes to be its size. -/
def Sbuf.copyTo (sbuf : Sbuf) (field : List UInt8) (destMax : Nat) (src : List UInt8) (next : List UInt8 → Parse α) : Parse α :=
  let (copied, written) := sbuf.memcpy destMax src
  if field.length < written then .outside
  else if copied then next (src ++ field.drop src.length)
  else .fails RET_CODE_FAILURE

structure NetworkInfo where
  name : String
  supportMode : List UInt8
  deriving DecidableEq

structure NetworkInfoResult where
  nums : Nat
  infos : List NetworkInfo
  deriving DecidableEq

/-- So many records are still to be read; the ones that were are in `done`. -/
def networkInfos (sbuf : Sbuf) (mode : Nat → Vector UInt8 WIFI_IFTYPE_MAX) : Nat → List NetworkInfo → HdfSBuf →
    Parse (List NetworkInfo)
  | 0, done, _ => .gives done
  | left+1, done, reply =>
    read readString reply fun ifName reply =>
    read readBuffer reply fun replayData reply =>
    if replayData.length ≠ WIFI_IFTYPE_MAX then .fails RET_CODE_FAILURE
    else if MAX_IFACE_NUM ≤ done.length then .outside
    else if IFNAMSIZ ≤ ifName.utf8ByteSize then .fails RET_CODE_FAILURE
    else
      sbuf.copyTo (mode done.length).toList WIFI_IFTYPE_MAX replayData fun supportMode =>
        networkInfos sbuf mode left (done ++ [⟨ifName, supportMode⟩]) reply

/-- The number is cut down to what there is room for. -/
def parserNetworkInfo (sbuf : Sbuf) (mode : Nat → Vector UInt8 WIFI_IFTYPE_MAX) (reply : HdfSBuf) : Parse NetworkInfoResult :=
  read readUint32 reply fun nums reply =>
    let nums := min nums.toNat MAX_IFACE_NUM
    match networkInfos sbuf mode nums [] reply with
    | .gives infos => .gives ⟨nums, infos⟩
    | .fails code => .fails code
    | .outside => .outside

structure FreqInfoResult where
  nums : UInt32
  freqs : List UInt8
  deriving DecidableEq

/-- The arrays of the result may be null. -/
def parserFreqInfo (sbuf : Sbuf) (size : UInt32) (freqs : Option (Vector UInt8 (4 * size.toNat))) (txPower : Bool)
    (reply : HdfSBuf) : Parse FreqInfoResult :=
  match freqs, txPower with
  | some freqs, true =>
    read readUint32 reply fun nums reply =>
    if size < nums then .fails RET_CODE_FAILURE
    else
      read readBuffer reply fun replayData _ =>
        sbuf.copyTo freqs.toList (4 * size.toNat) replayData fun freqs => .gives ⟨nums, freqs⟩
  | _, _ => .fails RET_CODE_INVALID_PARAM

structure AssocStaInfoResult where
  num : UInt32
  infos : List UInt8
  deriving DecidableEq

def parserAssociatedStas (sbuf : Sbuf) (infos : Vector UInt8 (MAX_ASSOC_STA_NUM * ETH_ADDR_LEN)) (reply : HdfSBuf) :
    Parse AssocStaInfoResult :=
  read readUint32 reply fun num reply =>
  if MAX_ASSOC_STA_NUM < num.toNat then .fails RET_CODE_FAILURE
  else if num ≠ 0 then
    read readBuffer reply fun replayData _ =>
      if MAX_ASSOC_STA_NUM * ETH_ADDR_LEN < replayData.length then .fails RET_CODE_FAILURE
      else sbuf.copyTo infos.toList (MAX_ASSOC_STA_NUM * ETH_ADDR_LEN) replayData fun infos => .gives ⟨num, infos⟩
  else .gives ⟨num, infos.toList⟩

/-- Every round copies the whole of the buffer from its place on. -/
def copyNames (sbuf : Sbuf) (replayData : List UInt8) : Nat → List (List UInt8) → Parse (List (List UInt8))
  | 0, done => .gives done
  | left+1, done =>
    if (sbuf.memcpy IFNAMSIZ replayData).1 then
      if replayData.length < done.length * IFNAMSIZ + replayData.length then .outside
      else copyNames sbuf replayData left (done ++ [replayData ++ List.replicate (IFNAMSIZ - replayData.length) 0])
    else .fails RET_CODE_FAILURE

def getIfNames (sbuf : Sbuf) (calloc : UInt32 → Bool) (reply : HdfSBuf) : Parse (List (List UInt8)) :=
  read readUint32 reply fun num reply =>
  if ¬calloc num then .fails RET_CODE_FAILURE
  else
    read readBuffer reply fun replayData _ =>
      if replayData.length < (num * 16).toNat then .fails RET_CODE_FAILURE
      else copyNames sbuf replayData num.toNat []

structure NetDeviceInfo where
  index : UInt32
  ifName : List UInt8
  iftype : UInt8
  mac : List UInt8
  deriving DecidableEq

structure Slot where
  ifName : Vector UInt8 IFNAMSIZ
  mac : Vector UInt8 ETH_ADDR_LEN

def netDevices (sbuf : Sbuf) (slots : Nat → Slot) : Nat → List NetDeviceInfo → HdfSBuf → Parse (List NetDeviceInfo)
  | 0, done, _ => .gives done
  | left+1, done, reply =>
    read readUint32 reply fun index reply =>
    if MAX_NETDEVICE_COUNT ≤ done.length then .outside
    else
      read readBuffer reply fun ifName reply =>
      read readUint8 reply fun iftype reply =>
      read readBuffer reply fun replayData reply =>
      sbuf.copyTo (slots done.length).ifName.toList ifName.length ifName fun ifName =>
      sbuf.copyTo (slots done.length).mac.toList replayData.length replayData fun mac =>
        netDevices sbuf slots left (done ++ [⟨index, ifName, iftype, mac⟩]) reply

/-- The exchange may fail before there is a reply. -/
def withReply (exchange : Except Code HdfSBuf) (parser : HdfSBuf → Parse α) : Parse α :=
  match exchange with
  | .error code => .fails code
  | .ok reply => parser reply

def getNetDeviceInfo (sbuf : Sbuf) (slots : Option (Nat → Slot)) (exchange : Except Code HdfSBuf) : Parse (List NetDeviceInfo) :=
  match slots with
  | none => .fails RET_CODE_INVALID_PARAM
  | some slots =>
    withReply exchange fun reply => read readUint32 reply fun netdevNum reply => netDevices sbuf slots netdevNum.toNat [] reply

/-- `WifiRxEapol`: the memory that was given, if nobody filled it without contents. -/
structure RxEapol where
  buf : Option (Option (List UInt8))
  len : Nat
  deriving DecidableEq

/-- A copy that fails is only logged. -/
def wifiEapolPacketReceive (sbuf : Sbuf) (malloc : Nat → Bool) (ifName rxEapol : Bool) (exchange : Except Code HdfSBuf) :
    Parse RxEapol :=
  if ¬ifName ∨ ¬rxEapol then .fails RET_CODE_INVALID_PARAM
  else
    withReply exchange fun respData =>
    read readBuffer respData fun eapol _ =>
      if eapol.length ≠ 0 then
        if ¬malloc eapol.length then .fails RET_CODE_FAILURE
        else .gives ⟨some (if (sbuf.memcpy eapol.length eapol).1 then some eapol else none), eapol.length⟩
      else .gives ⟨none, 0⟩

theorem take_run {asked : Value → Option β} {make : β → Value} (is : ∀ v b, asked v = some b ↔ v = make b) {reply rest : HdfSBuf}
    {b : β} : (take asked).run reply = .ok b rest ↔ reply = make b :: rest := by
  cases reply with
  | nil => simp [take, EStateM.run]
  | cons v behind =>
    rw [List.cons.injEq, ← is]
    cases given : asked v with
    | none => simp [take, EStateM.run, given]
    | some b' => simp [take, EStateM.run, given]

theorem uint32_run {reply rest : HdfSBuf} {v : UInt32} : readUint32.run reply = .ok v rest ↔ reply = .uint32 v :: rest :=
  take_run (fun v b => by cases v <;> simp)

theorem uint8_run {reply rest : HdfSBuf} {v : UInt8} : readUint8.run reply = .ok v rest ↔ reply = .uint8 v :: rest :=
  take_run (fun v b => by cases v <;> simp)

theorem string_run {reply rest : HdfSBuf} {v : String} : readString.run reply = .ok v rest ↔ reply = .string v :: rest :=
  take_run (fun v b => by cases v <;> simp)

theorem buffer_run {reply rest : HdfSBuf} {v : List UInt8} : readBuffer.run reply = .ok v rest ↔ reply = .buffer v :: rest :=
  take_run (fun v b => by cases v <;> simp)

theorem read_fails {reader : RemoteCalls.Reader Value Int32 β} {reply : HdfSBuf} {next : β → HdfSBuf → Parse α}
    (lacks : ∀ b rest, reader.run reply ≠ .ok b rest) : read reader reply next = .fails RET_CODE_FAILURE := by
  simp only [read]
  split
  · next b rest is => exact absurd is (lacks b rest)
  · rfl

@[simp] theorem read_uint32 (v : UInt32) (rest : HdfSBuf) (next : UInt32 → HdfSBuf → Parse α) :
    read readUint32 (.uint32 v :: rest) next = next v rest := rfl

@[simp] theorem read_uint8 (v : UInt8) (rest : HdfSBuf) (next : UInt8 → HdfSBuf → Parse α) :
    read readUint8 (.uint8 v :: rest) next = next v rest := rfl

@[simp] theorem read_string (v : String) (rest : HdfSBuf) (next : String → HdfSBuf → Parse α) :
    read readString (.string v :: rest) next = next v rest := rfl

@[simp] theorem read_buffer (v : List UInt8) (rest : HdfSBuf) (next : List UInt8 → HdfSBuf → Parse α) :
    read readBuffer (.buffer v :: rest) next = next v rest := rfl

/-- `memcpy_s` takes a buffer that was read. -/
def Sbuf.Takes (sbuf : Sbuf) (destMax : Nat) (src : List UInt8) : Prop :=
  0 < destMax ∧ destMax ≤ SECUREC_MEM_MAX_LEN ∧ src.length ≤ destMax ∧ ¬(src = [] ∧ sbuf.emptyNull)

variable {sbuf : Sbuf}

variable {destMax : Nat}

theorem memcpy_takes {src : List UInt8} (takes : sbuf.Takes destMax src) : sbuf.memcpy destMax src = (true, src.length) := by
  obtain ⟨some_, most, fits, there⟩ := takes
  rw [Sbuf.memcpy, if_neg there, memcpyS, if_neg (by omega), if_neg (by omega)]

theorem memcpy_refuses {src : List UInt8} (refuses : ¬sbuf.Takes destMax src) :
    (sbuf.memcpy destMax src).1 = false ∧ (sbuf.memcpy destMax src).2 ≤ destMax ∧
      (destMax = 0 ∨ SECUREC_MEM_MAX_LEN < destMax → (sbuf.memcpy destMax src).2 = 0) := by
  have clears : ∀ count, destMax < count → (memcpyS destMax count).1 = false ∧ (memcpyS destMax count).2 ≤ destMax ∧
      (destMax = 0 ∨ SECUREC_MEM_MAX_LEN < destMax → (memcpyS destMax count).2 = 0) := by
    intro count more
    rw [memcpyS]
    split
    · simp
    · next usable => simp [usable]
  by_cases null : src = [] ∧ sbuf.emptyNull = true
  · obtain ⟨-, written⟩ := clears (destMax + 1) (Nat.lt_succ_self _)
    rw [Sbuf.memcpy, if_pos null]
    exact ⟨rfl, written⟩
  · rw [Sbuf.memcpy, if_neg null]
    by_cases usable : destMax = 0 ∨ SECUREC_MEM_MAX_LEN < destMax
    · simp [memcpyS, usable]
    · apply clears
      by_contra fits
      exact refuses ⟨by omega, by omega, by omega, null⟩

theorem copyTo_within (sbuf : Sbuf) {field : List UInt8} (src : List UInt8) (next : List UInt8 → Parse α) (size : destMax ≤ field.length) :
    sbuf.copyTo field destMax src next = .fails RET_CODE_FAILURE ∧ ¬sbuf.Takes destMax src ∨
      sbuf.copyTo field destMax src next = next (src ++ field.drop src.length) ∧ sbuf.Takes destMax src := by
  by_cases takes : sbuf.Takes destMax src
  · refine .inr ⟨?_, takes⟩
    obtain ⟨-, -, fits, -⟩ := id takes
    simp only [Sbuf.copyTo, memcpy_takes takes, if_neg (show ¬field.length < src.length by omega), if_true]
  · refine .inl ⟨?_, takes⟩
    obtain ⟨refused, written, -⟩ := memcpy_refuses takes
    simp only [Sbuf.copyTo, refused, if_neg (show ¬field.length < (sbuf.memcpy destMax src).2 by omega), Bool.false_eq_true,
      if_false]

/-- A parser hands out what the reply carries, and fails on nothing that is well formed. -/
def Decodes (p : Parse α) (carries : α → Prop) (wellFormed : Prop) : Prop :=
  match p with
  | .gives a => carries a
  | .fails _ => ¬wellFormed
  | .outside => False

theorem decodes_read {reader : RemoteCalls.Reader Value Int32 β} {make : β → Value}
    (run : ∀ {reply rest : HdfSBuf} {b : β}, reader.run reply = .ok b rest ↔ reply = make b :: rest) {reply : HdfSBuf}
    {next : β → HdfSBuf → Parse α} {carries : α → Prop} {wellFormed : Prop} (needs : wellFormed → ∃ b rest, reply = make b :: rest) :
    Decodes (read reader reply next) carries wellFormed ↔
      ∀ b rest, reply = make b :: rest → Decodes (next b rest) carries wellFormed := by
  by_cases there : ∃ b rest, reply = make b :: rest
  · obtain ⟨b, rest, is⟩ := there
    have reads : read reader reply next = next b rest := by simp only [read, run.mpr is]
    rw [reads]
    constructor
    · intro decodes b' rest' is'
      have same := run.mpr is
      rw [run.mpr is'] at same
      cases same
      exact decodes
    · intro all
      exact all b rest is
  · rw [read_fails (fun b rest is => there ⟨b, rest, run.mp is⟩)]
    exact iff_of_true (fun holds => there (needs holds)) (fun b rest is => absurd ⟨b, rest, is⟩ there)

theorem decodes_copyTo {field src : List UInt8} {next : List UInt8 → Parse α} {carries : α → Prop}
    {wellFormed : Prop} (size : destMax ≤ field.length) : Decodes (sbuf.copyTo field destMax src next) carries wellFormed ↔
      (sbuf.Takes destMax src → Decodes (next (src ++ field.drop src.length)) carries wellFormed) ∧
        (wellFormed → sbuf.Takes destMax src) := by
  rcases copyTo_within sbuf src next size with ⟨fails, refuses⟩ | ⟨copies, takes⟩
  · simp [fails, Decodes, refuses]
  · simp [copies, takes]

structure Records (write : β → HdfSBuf) (fits : β → Prop) (reply : HdfSBuf) (records : List β) : Prop where
  fit : ∀ record ∈ records, fits record
  front : ∃ rest, reply = records.flatMap write ++ rest

section
variable {write : β → HdfSBuf} {fits : β → Prop} {reply : HdfSBuf}

theorem Records.nil : Records write fits reply [] := ⟨fun _ member => absurd member (List.not_mem_nil), reply, rfl⟩

theorem records_cons {record : β} {records : List β} : Records write fits reply (record :: records) ↔
    fits record ∧ ∃ rest, reply = write record ++ rest ∧ Records write fits rest records := by
  constructor
  · rintro ⟨fit, rest, rfl⟩
    refine ⟨fit record (List.mem_cons_self), records.flatMap write ++ rest, ?_, ?_, rest, rfl⟩
    · rw [List.flatMap_cons, List.append_assoc]
    · exact fun other member => fit other (List.mem_cons_of_mem _ member)
  · rintro ⟨first, rest, rfl, fit, behind, rfl⟩
    refine ⟨?_, behind, ?_⟩
    · intro other member
      rcases List.mem_cons.mp member with rfl | member
      · exact first
      · exact fit other member
    · rw [List.flatMap_cons, List.append_assoc]

end

def NetworkInfo.write (info : NetworkInfo) : HdfSBuf := [.string info.name, .buffer info.supportMode]

def NetworkInfo.Fits (info : NetworkInfo) : Prop :=
  info.name.utf8ByteSize < IFNAMSIZ ∧ info.supportMode.length = WIFI_IFTYPE_MAX

theorem networkInfos_cases (sbuf : Sbuf) (mode : Nat → Vector UInt8 WIFI_IFTYPE_MAX) (left : Nat) : ∀ done reply,
    done.length + left ≤ MAX_IFACE_NUM →
      (∃ infos, infos.length = left ∧ Records NetworkInfo.write NetworkInfo.Fits reply infos ∧
        networkInfos sbuf mode left done reply = .gives (done ++ infos)) ∨
      (¬∃ infos, infos.length = left ∧ Records NetworkInfo.write NetworkInfo.Fits reply infos) ∧
        ∃ code, networkInfos sbuf mode left done reply = .fails code := by
  induction left with
  | zero =>
    intro done reply room
    exact .inl ⟨[], rfl, Records.nil, by simp [networkInfos]⟩
  | succ left ih =>
    intro done reply room
    have lacks : (∀ (info : NetworkInfo) rest, reply = .string info.name :: .buffer info.supportMode :: rest → info.Fits →
        ¬∃ infos, infos.length = left ∧ Records NetworkInfo.write NetworkInfo.Fits rest infos) →
          ¬∃ infos, infos.length = left + 1 ∧ Records NetworkInfo.write NetworkInfo.Fits reply infos := by
      rintro refuted ⟨infos, count, records⟩
      cases infos with
      | nil => cases count
      | cons info infos =>
        obtain ⟨fit, rest, is, records⟩ := records_cons.mp records
        exact refuted info rest is fit ⟨infos, Nat.succ.inj count, records⟩
    by_cases first : ∃ ifName rest, reply = .string ifName :: rest
    · obtain ⟨ifName, rest, rfl⟩ := first
      by_cases second : ∃ replayData rest', rest = .buffer replayData :: rest'
      · obtain ⟨replayData, rest, rfl⟩ := second
        simp only [networkInfos, read_string, read_buffer, if_neg (show ¬MAX_IFACE_NUM ≤ done.length by omega)]
        by_cases size : replayData.length = WIFI_IFTYPE_MAX
        · by_cases long : IFNAMSIZ ≤ ifName.utf8ByteSize
          · simp only [size, not_true_eq_false, ne_eq, if_false, long, if_true]
            refine .inr ⟨lacks (fun info rest' is fit => ?_), _, rfl⟩
            simp only [List.cons.injEq, Value.string.injEq] at is
            exact absurd fit.1 (by rw [← is.1]; omega)
          · simp only [size, not_true_eq_false, ne_eq, if_false, long]
            have takes : sbuf.Takes WIFI_IFTYPE_MAX replayData := by
              refine ⟨by decide, by decide, Nat.le_of_eq size, ?_⟩
              rintro ⟨rfl, -⟩
              cases size
            rcases copyTo_within sbuf replayData (fun supportMode =>
                networkInfos sbuf mode left (done ++ [⟨ifName, supportMode⟩]) rest)
              (show WIFI_IFTYPE_MAX ≤ (mode done.length).toList.length by simp) with ⟨-, refuses⟩ | ⟨copies, -⟩
            · exact absurd takes refuses
            · have whole : replayData ++ (mode done.length).toList.drop replayData.length = replayData := by
                rw [List.drop_eq_nil_of_le (by simp [size]), List.append_nil]
              rw [copies, whole]
              rcases ih (done ++ [⟨ifName, replayData⟩]) rest (by simp only [List.length_append, List.length_singleton]; omega)
                with ⟨infos, count, records, gives⟩ | ⟨none, fails⟩
              · refine .inl ⟨⟨ifName, replayData⟩ :: infos, by rw [List.length_cons, count], ?_, by rw [gives]; simp⟩
                exact records_cons.mpr ⟨⟨Nat.lt_of_not_le long, size⟩, rest, rfl, records⟩
              · refine .inr ⟨lacks (fun info rest' is _ => ?_), fails⟩
                have same : rest = rest' := (List.cons.inj (List.cons.inj is).2).2
                rw [← same]
                exact none
        · simp only [size, not_false_eq_true, ne_eq, if_true]
          refine .inr ⟨lacks (fun info rest' is fit => ?_), _, rfl⟩
          simp only [List.cons.injEq, Value.buffer.injEq] at is
          exact absurd fit.2 (by rw [← is.2.1]; exact size)
      · rw [networkInfos, read_string, read_fails (fun b rest' is => second ⟨b, rest', buffer_run.mp is⟩)]
        refine .inr ⟨lacks (fun info rest' is _ => ?_), _, rfl⟩
        exact absurd ⟨_, _, (List.cons.inj is).2⟩ second
    · rw [networkInfos, read_fails (fun b rest is => first ⟨b, rest, string_run.mp is⟩)]
      exact .inr ⟨lacks (fun info rest is _ => absurd ⟨_, _, is⟩ first), _, rfl⟩

def CarriesNetwork (reply : HdfSBuf) (infos : List NetworkInfo) : Prop :=
  ∃ n rest, reply = .uint32 n :: rest ∧ infos.length = n.toNat ∧ Records NetworkInfo.write NetworkInfo.Fits rest infos

theorem parserNetworkInfo_iff (mode : Nat → Vector UInt8 WIFI_IFTYPE_MAX) (reply : HdfSBuf) :
    Decodes (parserNetworkInfo sbuf mode reply) (fun result => result.nums = result.infos.length ∧ CarriesNetwork reply result.infos)
        (∃ infos, CarriesNetwork reply infos ∧ infos.length ≤ MAX_IFACE_NUM) ↔
      ∀ n rest, reply = .uint32 n :: rest → n.toNat ≤ MAX_IFACE_NUM ∨
        ¬∃ infos, infos.length = MAX_IFACE_NUM ∧ Records NetworkInfo.write NetworkInfo.Fits rest infos := by
  rw [parserNetworkInfo, decodes_read uint32_run]
  · refine forall_congr' (fun n => forall_congr' (fun rest => forall_congr' ?_))
    rintro rfl
    have carried : ∀ infos, CarriesNetwork (.uint32 n :: rest) infos ↔
        infos.length = n.toNat ∧ Records NetworkInfo.write NetworkInfo.Fits rest infos := by
      simp [CarriesNetwork]
    simp only [carried]
    rcases networkInfos_cases sbuf mode (min n.toNat MAX_IFACE_NUM) [] rest ((Nat.zero_add _).trans_le (Nat.min_le_right ..))
      with ⟨infos, count, records, gives⟩ | ⟨none, code, fails⟩
    · simp only [gives, Decodes, List.nil_append, count, true_and]
      constructor
      · rintro ⟨all, -⟩
        exact .inl (by omega)
      · rintro (few | none)
        · exact ⟨by omega, records⟩
        · by_cases few : n.toNat ≤ MAX_IFACE_NUM
          · exact ⟨by omega, records⟩
          · exact absurd ⟨infos, by omega, records⟩ none
    · simp only [fails, Decodes]
      constructor
      · intro _
        by_cases few : n.toNat ≤ MAX_IFACE_NUM
        · exact .inl few
        · rw [Nat.min_eq_right (by omega)] at none
          exact .inr none
      · rintro - ⟨infos, ⟨count, records⟩, few⟩
        exact none ⟨infos, by omega, records⟩
  · rintro ⟨infos, ⟨n, rest, is, -⟩, -⟩
    exact ⟨n, rest, is⟩

/-! ### Frequencies, stations, names and packets -/

def CarriesFreqs (reply : HdfSBuf) (result : FreqInfoResult) : Prop :=
  ∃ b rest, reply = .uint32 result.nums :: .buffer b :: rest ∧ 4 * result.nums.toNat ≤ b.length ∧
    result.freqs.take (4 * result.nums.toNat) = b.take (4 * result.nums.toNat)

theorem parserFreqInfo_iff (size : UInt32) (freqs : Vector UInt8 (4 * size.toNat)) (reply : HdfSBuf) :
    Decodes (parserFreqInfo sbuf size (some freqs) true reply) (CarriesFreqs reply)
        (∃ n b rest, reply = .uint32 n :: .buffer b :: rest ∧ b.length = 4 * n.toNat ∧ n ≤ size) ↔
      ∀ n rest, reply = .uint32 n :: rest → ∀ b rest', rest = .buffer b :: rest' → n ≤ size →
        (sbuf.Takes (4 * size.toNat) b → 4 * n.toNat ≤ b.length) ∧ (b.length = 4 * n.toNat → sbuf.Takes (4 * size.toNat) b) := by
  rw [parserFreqInfo, decodes_read uint32_run]
  · refine forall_congr' (fun n => forall_congr' (fun rest => forall_congr' ?_))
    rintro rfl
    by_cases many : size < n
    · rw [if_pos many]
      refine iff_of_true ?_ (fun b rest' _ few => absurd many (UInt32.not_lt.mpr few))
      rintro ⟨n', b, rest', is, -, few⟩
      cases is
      exact absurd many (UInt32.not_lt.mpr few)
    · have few : n ≤ size := UInt32.not_lt.mp many
      rw [if_neg many, decodes_read buffer_run]
      · refine forall_congr' (fun b => forall_congr' (fun rest' => forall_congr' ?_))
        rintro rfl
        have formed : (∃ n' b' rest'', Value.uint32 n :: .buffer b :: rest' = .uint32 n' :: .buffer b' :: rest'' ∧
            b'.length = 4 * n'.toNat ∧ n' ≤ size) ↔ b.length = 4 * n.toNat := by
          constructor
          · rintro ⟨n', b', rest'', is, whole, -⟩
            cases is
            exact whole
          · intro whole
            exact ⟨n, b, rest', rfl, whole, few⟩
        have carried : ∀ left, CarriesFreqs (.uint32 n :: .buffer b :: rest') ⟨n, b ++ left⟩ ↔ 4 * n.toNat ≤ b.length := by
          intro left
          constructor
          · rintro ⟨b', rest'', is, enough, -⟩
            cases is
            exact enough
          · intro enough
            exact ⟨b, rest', rfl, enough, List.take_append_of_le_length enough⟩
        rw [formed, decodes_copyTo (by simp)]
        simp only [Decodes, carried, few, forall_true_left]
      · rintro ⟨n', b, rest', is, -⟩
        cases is
        exact ⟨b, rest', rfl⟩
  · rintro ⟨n, b, rest, is, -⟩
    exact ⟨n, _, is⟩

def CarriesStas (reply : HdfSBuf) (result : AssocStaInfoResult) : Prop :=
  (result.num = 0 ∧ ∃ rest, reply = .uint32 0 :: rest) ∨
    ∃ b rest, reply = .uint32 result.num :: .buffer b :: rest ∧ ETH_ADDR_LEN * result.num.toNat ≤ b.length ∧
      result.infos.take (ETH_ADDR_LEN * result.num.toNat) = b.take (ETH_ADDR_LEN * result.num.toNat)

def StasFormed (reply : HdfSBuf) : Prop :=
  (∃ rest, reply = .uint32 0 :: rest) ∨
    ∃ num b rest, reply = .uint32 num :: .buffer b :: rest ∧ b.length = ETH_ADDR_LEN * num.toNat ∧ num.toNat ≤ MAX_ASSOC_STA_NUM

theorem parserAssociatedStas_iff (infos : Vector UInt8 (MAX_ASSOC_STA_NUM * ETH_ADDR_LEN)) (reply : HdfSBuf) :
    Decodes (parserAssociatedStas sbuf infos reply) (CarriesStas reply) (StasFormed reply) ↔
      ∀ num rest, reply = .uint32 num :: rest → ∀ b rest', rest = .buffer b :: rest' → num ≠ 0 → num.toNat ≤ MAX_ASSOC_STA_NUM →
        sbuf.Takes (MAX_ASSOC_STA_NUM * ETH_ADDR_LEN) b → ETH_ADDR_LEN * num.toNat ≤ b.length := by
  have room : MAX_ASSOC_STA_NUM * ETH_ADDR_LEN = 48 := rfl
  rw [parserAssociatedStas, decodes_read uint32_run]
  · refine forall_congr' (fun num => forall_congr' (fun rest => forall_congr' ?_))
    rintro rfl
    by_cases many : MAX_ASSOC_STA_NUM < num.toNat
    · rw [if_pos many]
      refine iff_of_true ?_ (fun b rest' _ _ few => absurd many (Nat.not_lt.mpr few))
      rintro (⟨rest', is⟩ | ⟨num', b, rest', is, -, few⟩)
      · cases is
        exact absurd many (by decide)
      · cases is
        exact absurd many (Nat.not_lt.mpr few)
    · rw [if_neg many]
      by_cases none : num = 0
      · subst none
        refine iff_of_true ?_ (fun b rest' _ some_ => absurd rfl some_)
        exact .inl ⟨rfl, rest, rfl⟩
      · rw [if_pos none, decodes_read buffer_run]
        · refine forall_congr' (fun b => forall_congr' (fun rest' => forall_congr' ?_))
          rintro rfl
          have few : num.toNat ≤ MAX_ASSOC_STA_NUM := Nat.not_lt.mp many
          have positive : 0 < num.toNat := by
            rw [Nat.pos_iff_ne_zero]
            exact fun zero => none (UInt32.toNat_inj.mp zero)
          have formed : StasFormed (.uint32 num :: .buffer b :: rest') → b.length = ETH_ADDR_LEN * num.toNat := by
            rintro (⟨rest'', is⟩ | ⟨num', b', rest'', is, whole, -⟩)
            · cases is
              exact absurd rfl none
            · cases is
              exact whole
          have carried : ∀ left, CarriesStas (.uint32 num :: .buffer b :: rest') ⟨num, b ++ left⟩ ↔
              ETH_ADDR_LEN * num.toNat ≤ b.length := by
            intro left
            constructor
            · rintro (⟨zero, -⟩ | ⟨b', rest'', is, enough, -⟩)
              · exact absurd zero none
              · cases is
                exact enough
            · intro enough
              exact .inr ⟨b, rest', rfl, enough, List.take_append_of_le_length enough⟩
          have takes : StasFormed (.uint32 num :: .buffer b :: rest') → sbuf.Takes (MAX_ASSOC_STA_NUM * ETH_ADDR_LEN) b := by
            intro whole
            have length := formed whole
            simp only [ETH_ADDR_LEN, MAX_ASSOC_STA_NUM] at length few
            refine ⟨by decide, by decide, by omega, ?_⟩
            rintro ⟨rfl, -⟩
            simp only [List.length_nil] at length
            omega
          by_cases long : MAX_ASSOC_STA_NUM * ETH_ADDR_LEN < b.length
          · rw [if_pos long]
            exact iff_of_true (fun whole => absurd (takes whole).2.2.1 (by omega)) (fun _ _ taken => absurd taken.2.2.1 (by omega))
          · rw [if_neg long, decodes_copyTo (by simp)]
            simp only [Decodes, carried, few, forall_true_left, ne_eq, none, not_false_eq_true]
            exact and_iff_left takes
        · rintro (⟨rest', is⟩ | ⟨num', b, rest', is, -⟩)
          · cases is
            exact absurd rfl none
          · cases is
            exact ⟨b, rest', rfl⟩
  · rintro (⟨rest', is⟩ | ⟨num', b, rest', is, -⟩)
    · exact ⟨0, rest', is⟩
    · exact ⟨num', _, is⟩

def CarriesNames (reply : HdfSBuf) (names : List (List UInt8)) : Prop :=
  ∃ num b rest, reply = .uint32 num :: .buffer b :: rest ∧ names.length = num.toNat ∧ IFNAMSIZ * num.toNat ≤ b.length ∧
    (∀ name ∈ names, name.length = IFNAMSIZ) ∧ names.flatten = b.take (IFNAMSIZ * num.toNat)

/-- The names are decoded, with their number times their size computed as it is. -/
def NamesDecoded (sbuf : Sbuf) (calloc : UInt32 → Bool) (reply : HdfSBuf) : Prop :=
  Decodes (getIfNames sbuf calloc reply) (CarriesNames reply)
      (∃ num b rest, reply = .uint32 num :: .buffer b :: rest ∧ calloc num ∧ b.length = IFNAMSIZ * num.toNat) ∧
    ∀ num rest, reply = .uint32 num :: rest → ∀ b rest', rest = .buffer b :: rest' → calloc num →
      (num * 16).toNat = num.toNat * IFNAMSIZ

/-- A buffer with room for all the names is copied if there is none, or one that fills it. -/
theorem copyNames_room {b : List UInt8} {n : Nat} (room : IFNAMSIZ * n ≤ b.length) :
    copyNames sbuf b n [] = if n = 0 then .gives [] else if n = 1 ∧ b.length = IFNAMSIZ then .gives [b]
      else .fails RET_CODE_FAILURE := by
  cases n with
  | zero => rfl
  | succ left =>
    rw [if_neg (Nat.succ_ne_zero left)]
    by_cases one : b.length = IFNAMSIZ
    · have last : left = 0 := by
        simp only [IFNAMSIZ] at room one
        omega
      subst last
      have takes : sbuf.Takes IFNAMSIZ b := by
        refine ⟨by decide, by decide, Nat.le_of_eq one, ?_⟩
        rintro ⟨rfl, -⟩
        cases one
      rw [if_pos ⟨rfl, one⟩]
      simp [copyNames, memcpy_takes takes, one]
    · have refuses : ¬sbuf.Takes IFNAMSIZ b := by
        rintro ⟨-, -, fits, -⟩
        simp only [IFNAMSIZ] at room one fits
        omega
      rw [if_neg (fun both => one both.2)]
      simp [copyNames, memcpy_refuses refuses]

theorem getIfNames_iff (calloc : UInt32 → Bool) (reply : HdfSBuf) : NamesDecoded sbuf calloc reply ↔
    ∀ num rest, reply = .uint32 num :: rest → ∀ b rest', rest = .buffer b :: rest' → calloc num →
      num.toNat * IFNAMSIZ < UInt32.size ∧ (2 ≤ num.toNat → b.length ≠ IFNAMSIZ * num.toNat) := by
  have product : ∀ num : UInt32, (num * 16).toNat = num.toNat * IFNAMSIZ ↔ num.toNat * IFNAMSIZ < UInt32.size := by
    intro num
    have bound := num.toNat_lt
    rw [UInt32.toNat_mul, IFNAMSIZ, show (16 : UInt32).toNat = 16 from rfl, show UInt32.size = 4294967296 from rfl]
    omega
  rw [NamesDecoded, getIfNames, decodes_read uint32_run, ← forall_and]
  · refine forall_congr' (fun num => ?_)
    rw [← forall_and]
    refine forall_congr' (fun rest => ?_)
    rw [← forall_and]
    refine forall_congr' ?_
    rintro rfl
    cases memory : calloc num with
    | false =>
      simp only [Bool.false_eq_true, not_false_eq_true, if_true, false_implies, implies_true, and_true, iff_true]
      rintro ⟨num', b, rest', is, given, -⟩
      cases is
      rw [memory] at given
      cases given
    | true =>
      simp only [not_true_eq_false, if_false, forall_true_left]
      rw [decodes_read buffer_run, ← forall_and]
      · refine forall_congr' (fun b => ?_)
        rw [← forall_and]
        refine forall_congr' (fun rest' => ?_)
        rw [← forall_and]
        refine forall_congr' ?_
        rintro rfl
        rw [product, and_comm]
        refine and_congr_right (fun few => ?_)
        have formed : (∃ num' b' rest'', Value.uint32 num :: .buffer b :: rest' = .uint32 num' :: .buffer b' :: rest'' ∧
            calloc num' = true ∧ b'.length = IFNAMSIZ * num'.toNat) ↔ b.length = IFNAMSIZ * num.toNat := by
          constructor
          · rintro ⟨num', b', rest'', is, -, whole⟩
            cases is
            exact whole
          · intro whole
            exact ⟨num, b, rest', rfl, memory, whole⟩
        rw [formed, (product num).mpr few, Nat.mul_comm num.toNat]
        by_cases short : b.length < IFNAMSIZ * num.toNat
        · rw [if_pos short]
          exact iff_of_true (Nat.ne_of_lt short) (fun _ => Nat.ne_of_lt short)
        · rw [if_neg short, copyNames_room (Nat.not_lt.mp short)]
          by_cases none : num.toNat = 0
          · rw [if_pos none]
            exact iff_of_true ⟨num, b, rest', rfl, none.symm, Nat.not_lt.mp short, by simp, by simp [none]⟩ (by omega)
          · rw [if_neg none]
            by_cases one : num.toNat = 1 ∧ b.length = IFNAMSIZ
            · rw [if_pos one]
              obtain ⟨one, whole⟩ := one
              refine iff_of_true ⟨num, b, rest', rfl, one.symm, Nat.not_lt.mp short, by simp [whole], ?_⟩ (by omega)
              rw [one, Nat.mul_one, ← whole, List.take_length, List.flatten_singleton]
            · rw [if_neg one]
              simp only [Decodes, IFNAMSIZ] at one short ⊢
              omega
      · rintro ⟨num', b, rest', is, -⟩
        cases is
        exact ⟨b, rest', rfl⟩
  · rintro ⟨num, b, rest, is, -⟩
    exact ⟨num, _, is⟩

def CarriesEapol (reply : HdfSBuf) (eapol : RxEapol) : Prop :=
  ∃ b rest, reply = .buffer b :: rest ∧ eapol.len = b.length ∧ eapol.buf = if b.length ≠ 0 then some (some b) else none

theorem wifiEapolPacketReceive_iff (malloc : Nat → Bool) (reply : HdfSBuf) :
    Decodes (wifiEapolPacketReceive sbuf malloc true true (.ok reply)) (CarriesEapol reply)
        (∃ b rest, reply = .buffer b :: rest ∧ (b.length ≠ 0 → malloc b.length)) ↔
      ∀ b rest, reply = .buffer b :: rest → malloc b.length → b.length ≤ SECUREC_MEM_MAX_LEN := by
  simp only [wifiEapolPacketReceive, not_true_eq_false, or_self, if_false, withReply]
  rw [decodes_read buffer_run]
  · refine forall_congr' (fun b => forall_congr' (fun rest => forall_congr' ?_))
    rintro rfl
    have carried : ∀ eapol, CarriesEapol (.buffer b :: rest) eapol ↔
        eapol.len = b.length ∧ eapol.buf = if b.length ≠ 0 then some (some b) else none := by
      intro eapol
      constructor
      · rintro ⟨b', rest', is, holds⟩
        cases is
        exact holds
      · intro holds
        exact ⟨b, rest, rfl, holds⟩
    by_cases empty : b.length = 0
    · simp [Decodes, carried, empty]
    · have there : ¬(b = [] ∧ sbuf.emptyNull = true) := by
        rintro ⟨rfl, -⟩
        exact empty rfl
      cases memory : malloc b.length with
      | false =>
        simp only [ne_eq, empty, not_false_eq_true, if_true, Bool.false_eq_true, Decodes, false_implies, iff_true]
        rintro ⟨b', rest', is, given⟩
        cases is
        rw [given empty] at memory
        cases memory
      | true =>
        by_cases long : b.length ≤ SECUREC_MEM_MAX_LEN
        · have takes : sbuf.Takes b.length b := ⟨by omega, long, Nat.le_refl _, there⟩
          simp [Decodes, carried, empty, memcpy_takes takes, long]
        · have refuses : ¬sbuf.Takes b.length b := fun takes => long takes.2.1
          simp [Decodes, carried, empty, memcpy_refuses refuses, long]
  · rintro ⟨b, rest, is, -⟩
    exact ⟨b, rest, is⟩

/-- A copy that takes the length of the item for the size of the field. -/
theorem copyTo_own {field src : List UInt8} {next : List UInt8 → Parse α} : sbuf.copyTo field src.length src next =
      if 0 < src.length ∧ src.length ≤ SECUREC_MEM_MAX_LEN then
        if field.length < src.length then .outside else next (src ++ field.drop src.length) else .fails RET_CODE_FAILURE := by
  by_cases usable : 0 < src.length ∧ src.length ≤ SECUREC_MEM_MAX_LEN
  · have takes : sbuf.Takes src.length src := by
      refine ⟨usable.1, usable.2, Nat.le_refl _, ?_⟩
      rintro ⟨rfl, -⟩
      exact Nat.lt_irrefl _ usable.1
    simp only [Sbuf.copyTo, memcpy_takes takes, if_pos usable, if_true]
  · have refuses : ¬sbuf.Takes src.length src := fun takes => usable ⟨takes.1, takes.2.1⟩
    obtain ⟨refused, -, written⟩ := memcpy_refuses refuses
    simp only [Sbuf.copyTo, refused, written (by omega), Nat.not_lt_zero, if_false, if_neg usable, Bool.false_eq_true]

namespace NetDeviceInfo

def write (device : NetDeviceInfo) : HdfSBuf :=
  [.uint32 device.index, .buffer device.ifName, .uint8 device.iftype, .buffer device.mac]

/-- A name that fits into its field, and the whole of an address. -/
def Fits (device : NetDeviceInfo) : Prop :=
  (0 < device.ifName.length ∧ device.ifName.length ≤ IFNAMSIZ) ∧ device.mac.length = ETH_ADDR_LEN

/-- `memcpy_s` takes both items. -/
def Usable (device : NetDeviceInfo) : Prop :=
  (0 < device.ifName.length ∧ device.ifName.length ≤ SECUREC_MEM_MAX_LEN) ∧
    (0 < device.mac.length ∧ device.mac.length ≤ SECUREC_MEM_MAX_LEN)

def stored (device : NetDeviceInfo) (slot : Slot) : NetDeviceInfo :=
  { device with
    ifName := device.ifName ++ slot.ifName.toList.drop device.ifName.length
    mac := device.mac ++ slot.mac.toList.drop device.mac.length }

/-- An item that `memcpy_s` takes and the field has no room for. -/
def TooLong (device : NetDeviceInfo) : Prop :=
  (0 < device.ifName.length ∧ device.ifName.length ≤ SECUREC_MEM_MAX_LEN) ∧
    (IFNAMSIZ < device.ifName.length ∨ ETH_ADDR_LEN < device.mac.length ∧ device.mac.length ≤ SECUREC_MEM_MAX_LEN)

theorem write_inj {device other : NetDeviceInfo} {rest rest' : HdfSBuf} :
    device.write ++ rest = other.write ++ rest' ↔ device = other ∧ rest = rest' := by
  cases device
  cases other
  simp [write, and_assoc]

theorem Fits.usable {device : NetDeviceInfo} (fits : device.Fits) : device.Usable := by
  obtain ⟨⟨some_, short⟩, whole⟩ := fits
  simp only [IFNAMSIZ, ETH_ADDR_LEN, Usable, SECUREC_MEM_MAX_LEN] at *
  omega

end NetDeviceInfo

/-- The record of this number is written outside: there is no room for its index, or for one of its items. -/
def Overruns (i : Nat) (reply : HdfSBuf) : Prop :=
  (MAX_NETDEVICE_COUNT ≤ i ∧ ∃ index rest, reply = .uint32 index :: rest) ∨
    ∃ device rest, reply = NetDeviceInfo.write device ++ rest ∧ device.TooLong

variable {slots : Nat → Slot}

variable {done : List NetDeviceInfo}

theorem netDevices_overruns {left : Nat} {reply : HdfSBuf} (overruns : Overruns done.length reply) :
    netDevices sbuf slots (left + 1) done reply = .outside := by
  by_cases full : MAX_NETDEVICE_COUNT ≤ done.length
  · have index : ∃ index rest, reply = .uint32 index :: rest := by
      rcases overruns with ⟨-, index⟩ | ⟨device, rest, rfl, -⟩
      · exact index
      · exact ⟨_, _, rfl⟩
    obtain ⟨index, rest, rfl⟩ := index
    simp only [netDevices, read_uint32, if_pos full]
  · rcases overruns with ⟨room, -⟩ | ⟨device, rest, rfl, name, long⟩
    · exact absurd room full
    · simp only [netDevices, NetDeviceInfo.write, List.cons_append, List.nil_append, read_uint32, read_buffer, read_uint8,
      if_neg full, copyTo_own, if_pos name, Vector.length_toList]
      split
      · rfl
      · next fits =>
        have mac : ETH_ADDR_LEN < device.mac.length ∧ device.mac.length ≤ SECUREC_MEM_MAX_LEN := long.resolve_left fits
        rw [if_pos ⟨by omega, mac.2⟩, if_pos mac.1]

theorem netDevices_next {left : Nat} {device : NetDeviceInfo} {rest : HdfSBuf}
    (within : ¬Overruns done.length (device.write ++ rest)) (usable : device.Usable) :
    netDevices sbuf slots (left + 1) done (device.write ++ rest) =
      netDevices sbuf slots left (done ++ [device.stored (slots done.length)]) rest := by
  have room : ¬MAX_NETDEVICE_COUNT ≤ done.length := fun full => within (.inl ⟨full, _, _, rfl⟩)
  have short : ¬device.TooLong := fun long => within (.inr ⟨device, rest, rfl, long⟩)
  obtain ⟨name, mac⟩ := usable
  have fits : ¬IFNAMSIZ < device.ifName.length := fun long => short ⟨name, .inl long⟩
  have fits' : ¬ETH_ADDR_LEN < device.mac.length := fun long => short ⟨name, .inr ⟨long, mac.2⟩⟩
  simp only [netDevices, NetDeviceInfo.write, List.cons_append, List.nil_append, read_uint32, read_buffer, read_uint8,
    if_neg room, copyTo_own, if_pos name, if_pos mac, Vector.length_toList, if_neg fits, if_neg fits', NetDeviceInfo.stored]

theorem netDevices_fails (sbuf : Sbuf) (slots : Nat → Slot) (left : Nat) {reply : HdfSBuf} (within : ¬Overruns done.length reply)
    (none : ∀ device rest, reply = NetDeviceInfo.write device ++ rest → ¬device.Usable) :
    ∃ code, netDevices sbuf slots (left + 1) done reply = .fails code := by
  by_cases first : ∃ index rest, reply = .uint32 index :: rest
  · obtain ⟨index, rest, rfl⟩ := first
    have room : ¬MAX_NETDEVICE_COUNT ≤ done.length := fun full => within (.inl ⟨full, index, rest, rfl⟩)
    rw [netDevices, read_uint32, if_neg room]
    by_cases second : ∃ ifName rest', rest = .buffer ifName :: rest'
    · obtain ⟨ifName, rest, rfl⟩ := second
      rw [read_buffer]
      by_cases third : ∃ iftype rest', rest = .uint8 iftype :: rest'
      · obtain ⟨iftype, rest, rfl⟩ := third
        rw [read_uint8]
        by_cases fourth : ∃ mac rest', rest = .buffer mac :: rest'
        · obtain ⟨mac, rest, rfl⟩ := fourth
          have refused : ¬(NetDeviceInfo.mk index ifName iftype mac).Usable := none ⟨index, ifName, iftype, mac⟩ rest rfl
          have short : ¬(NetDeviceInfo.mk index ifName iftype mac).TooLong :=
            fun long => within (.inr ⟨⟨index, ifName, iftype, mac⟩, rest, rfl, long⟩)
          rw [read_buffer, copyTo_own]
          split
          · next name =>
            rw [if_neg (fun long => short ⟨name, .inl (by simpa using long)⟩), copyTo_own,
              if_neg (fun usable => refused ⟨name, usable⟩)]
            exact ⟨_, rfl⟩
          · exact ⟨_, rfl⟩
        · rw [read_fails (fun b rest' is => fourth ⟨b, rest', buffer_run.mp is⟩)]
          exact ⟨_, rfl⟩
      · rw [read_fails (fun b rest' is => third ⟨b, rest', uint8_run.mp is⟩)]
        exact ⟨_, rfl⟩
    · rw [read_fails (fun b rest' is => second ⟨b, rest', buffer_run.mp is⟩)]
      exact ⟨_, rfl⟩
  · rw [netDevices, read_fails (fun b rest is => first ⟨b, rest, uint32_run.mp is⟩)]
    exact ⟨_, rfl⟩

/-- The reply has these records in front, `memcpy_s` takes their items, and this is behind them. -/
def Copied (reply : HdfSBuf) (devices : List NetDeviceInfo) (behind : HdfSBuf) : Prop :=
  reply = devices.flatMap NetDeviceInfo.write ++ behind ∧ ∀ device ∈ devices, device.Usable

theorem copied_cons {reply behind : HdfSBuf} {device : NetDeviceInfo} {devices : List NetDeviceInfo} :
    Copied reply (device :: devices) behind ↔ device.Usable ∧ ∃ rest, reply = device.write ++ rest ∧ Copied rest devices behind := by
  constructor
  · rintro ⟨rfl, usable⟩
    refine ⟨usable device (List.mem_cons_self), devices.flatMap NetDeviceInfo.write ++ behind, ?_, rfl, ?_⟩
    · rw [List.flatMap_cons, List.append_assoc]
    · exact fun other member => usable other (List.mem_cons_of_mem _ member)
  · rintro ⟨first, rest, rfl, rfl, usable⟩
    refine ⟨by rw [List.flatMap_cons, List.append_assoc], ?_⟩
    intro other member
    rcases List.mem_cons.mp member with rfl | member
    · exact first
    · exact usable other member

theorem copied_nil {reply behind : HdfSBuf} : Copied reply [] behind ↔ reply = behind := by simp [Copied]

theorem netDevices_outside (sbuf : Sbuf) (slots : Nat → Slot) (left : Nat) : ∀ (done : List NetDeviceInfo) (reply : HdfSBuf),
    netDevices sbuf slots left done reply = .outside ↔
      ∃ devices behind, Copied reply devices behind ∧ devices.length < left ∧ Overruns (done.length + devices.length) behind := by
  induction left with
  | zero =>
    intro done reply
    simp [netDevices]
  | succ left ih =>
    intro done reply
    by_cases overruns : Overruns done.length reply
    · refine iff_of_true (netDevices_overruns overruns) ⟨[], reply, ⟨rfl, ?_⟩, Nat.succ_pos left, overruns⟩
      exact fun device member => absurd member List.not_mem_nil
    · by_cases next : ∃ device rest, reply = NetDeviceInfo.write device ++ rest ∧ device.Usable
      · obtain ⟨device, rest, rfl, usable⟩ := next
        rw [netDevices_next overruns usable, ih]
        simp only [List.length_append, List.length_singleton]
        constructor
        · rintro ⟨devices, behind, copied, fewer, outside⟩
          refine ⟨device :: devices, behind, copied_cons.mpr ⟨usable, rest, rfl, copied⟩, by simpa using fewer, ?_⟩
          rwa [List.length_cons, Nat.add_comm devices.length, ← Nat.add_assoc]
        · rintro ⟨devices, behind, copied, fewer, outside⟩
          cases devices with
          | nil =>
            rw [← copied_nil.mp copied] at outside
            exact absurd outside overruns
          | cons other devices =>
            obtain ⟨-, rest', is, copied⟩ := copied_cons.mp copied
            obtain ⟨-, rfl⟩ := NetDeviceInfo.write_inj.mp is
            refine ⟨devices, behind, copied, by simpa using fewer, ?_⟩
            rwa [List.length_cons, Nat.add_comm devices.length, ← Nat.add_assoc] at outside
      · have none : ∀ device rest, reply = NetDeviceInfo.write device ++ rest → ¬device.Usable :=
          fun device rest is usable => next ⟨device, rest, is, usable⟩
        obtain ⟨code, fails⟩ := netDevices_fails sbuf slots left overruns none
        rw [fails]
        refine iff_of_false (by simp) ?_
        rintro ⟨devices, behind, copied, fewer, outside⟩
        cases devices with
        | nil =>
          rw [← copied_nil.mp copied] at outside
          exact overruns outside
        | cons other devices =>
          obtain ⟨usable, rest', is, -⟩ := copied_cons.mp copied
          exact none other rest' is usable

theorem netDevices_gives (left : Nat) : ∀ (done : List NetDeviceInfo) (reply : HdfSBuf) (all : List NetDeviceInfo),
    netDevices sbuf slots left done reply = .gives all → ∃ devices behind, Copied reply devices behind ∧ devices.length = left ∧
      all = done ++ devices.mapIdx (fun i device => device.stored (slots (done.length + i))) ∧
        ∀ device ∈ devices, device.ifName.length ≤ IFNAMSIZ := by
  induction left with
  | zero =>
    intro done reply all gives
    cases gives
    exact ⟨[], reply, copied_nil.mpr rfl, rfl, by simp, fun device member => absurd member List.not_mem_nil⟩
  | succ left ih =>
    intro done reply all gives
    by_cases overruns : Overruns done.length reply
    · rw [netDevices_overruns overruns] at gives
      cases gives
    · by_cases next : ∃ device rest, reply = NetDeviceInfo.write device ++ rest ∧ device.Usable
      · obtain ⟨device, rest, rfl, usable⟩ := next
        rw [netDevices_next overruns usable] at gives
        obtain ⟨devices, behind, copied, count, is, short⟩ := ih _ _ _ gives
        refine ⟨device :: devices, behind, copied_cons.mpr ⟨usable, rest, rfl, copied⟩, by simpa using count, ?_, ?_⟩
        · rw [is, List.mapIdx_cons]
          simp [Nat.add_comm 1, Nat.add_assoc]
        · intro other member
          rcases List.mem_cons.mp member with rfl | member
          · by_contra long
            exact overruns (.inr ⟨other, rest, rfl, usable.1, .inl (by omega)⟩)
          · exact short other member
      · have none : ∀ device rest, reply = NetDeviceInfo.write device ++ rest → ¬device.Usable :=
          fun device rest is usable => next ⟨device, rest, is, usable⟩
        obtain ⟨code, fails⟩ := netDevices_fails sbuf slots left overruns none
        rw [fails] at gives
        cases gives

/-- Where the records are there, the loop does not fail. -/
theorem netDevices_complete (left : Nat) : ∀ (done : List NetDeviceInfo) (reply : HdfSBuf) (devices : List NetDeviceInfo)
    (behind : HdfSBuf) (code : Int32), Copied reply devices behind → devices.length = left →
      netDevices sbuf slots left done reply ≠ .fails code := by
  induction left with
  | zero =>
    intro done reply devices behind code _ _
    simp [netDevices]
  | succ left ih =>
    intro done reply devices behind code copied count
    cases devices with
    | nil => cases count
    | cons device devices =>
      obtain ⟨usable, rest, rfl, later⟩ := copied_cons.mp copied
      by_cases overruns : Overruns done.length (device.write ++ rest)
      · rw [netDevices_overruns overruns]
        simp
      · rw [netDevices_next overruns usable]
        exact ih _ _ devices behind code later (Nat.succ.inj count)

theorem copied_unique {devices : List NetDeviceInfo} : ∀ {others : List NetDeviceInfo} {reply behind behind' : HdfSBuf},
    Copied reply devices behind → Copied reply others behind' → devices.length = others.length → devices = others := by
  induction devices with
  | nil =>
    intro others reply behind behind' _ _ count
    exact (List.length_eq_zero_iff.mp count.symm).symm
  | cons device devices ih =>
    intro others reply behind behind' copied copied' count
    cases others with
    | nil => cases count
    | cons other others =>
      obtain ⟨-, rest, first, later⟩ := copied_cons.mp copied
      obtain ⟨-, rest', second, later'⟩ := copied_cons.mp copied'
      obtain ⟨rfl, rfl⟩ := NetDeviceInfo.write_inj.mp (first.symm.trans second)
      rw [ih later later' (Nat.succ.inj count)]

/-- The number and so many records of devices, whose names are in front of their fields. -/
def CarriesDevices (slots : Nat → Slot) (reply : HdfSBuf) (infos : List NetDeviceInfo) : Prop :=
  ∃ n rest devices, reply = .uint32 n :: rest ∧ devices.length = n.toNat ∧ Records NetDeviceInfo.write NetDeviceInfo.Fits rest devices ∧
    infos = devices.mapIdx (fun i device => device.stored (slots i))

theorem getNetDeviceInfo_iff (reply : HdfSBuf) :
    Decodes (getNetDeviceInfo sbuf (some slots) (.ok reply)) (CarriesDevices slots reply)
        (∃ n rest devices, reply = .uint32 n :: rest ∧ devices.length = n.toNat ∧ n.toNat ≤ MAX_NETDEVICE_COUNT ∧
          Records NetDeviceInfo.write NetDeviceInfo.Fits rest devices) ↔
      ∀ n rest, reply = .uint32 n :: rest → ∀ devices behind, Copied rest devices behind →
        (devices.length < n.toNat → ¬Overruns devices.length behind) ∧
          (devices.length = n.toNat → ∀ device ∈ devices, device.mac.length = ETH_ADDR_LEN) := by
  rw [getNetDeviceInfo, withReply, decodes_read uint32_run]
  · refine forall_congr' (fun n => forall_congr' (fun rest => forall_congr' ?_))
    rintro rfl
    have outside := netDevices_outside sbuf slots n.toNat [] rest
    simp only [List.length_nil, Nat.zero_add] at outside
    cases ran : netDevices sbuf slots n.toNat [] rest with
    | outside =>
      obtain ⟨devices, behind, copied, fewer, overruns⟩ := outside.mp ran
      exact iff_of_false (fun h => h) (fun sound => (sound devices behind copied).1 fewer overruns)
    | gives all =>
      obtain ⟨devices, behind, copied, count, is, short⟩ := netDevices_gives _ _ _ _ ran
      have within : ∀ devices behind, Copied rest devices behind → devices.length < n.toNat → ¬Overruns devices.length behind := by
        intro devices behind copied fewer overruns
        rw [outside.mpr ⟨devices, behind, copied, fewer, overruns⟩] at ran
        cases ran
      constructor
      · rintro ⟨n', rest', devices', is', count', ⟨fit, behind', front⟩, -⟩ others last copied'
        cases is'
        refine ⟨within others last copied', fun whole device member => ?_⟩
        have same := copied_unique copied' ⟨front, fun d member => (fit d member).usable⟩ (whole.trans count'.symm)
        exact (fit device (same ▸ member)).2
      · intro sound
        refine ⟨n, rest, devices, rfl, count, ⟨fun device member => ?_, behind, copied.1⟩, ?_⟩
        · exact ⟨⟨(copied.2 device member).1.1, short device member⟩, (sound devices behind copied).2 count device member⟩
        · simpa using is
    | fails code =>
      have unformed : ¬∃ devices behind, Copied rest devices behind ∧ devices.length = n.toNat := by
        rintro ⟨devices, behind, copied, count⟩
        exact netDevices_complete _ [] rest devices behind code copied count ran
      refine iff_of_true ?_ (fun devices behind copied => ⟨fun fewer overruns => ?_, fun count => ?_⟩)
      · rintro ⟨n', rest', devices, is, count, -, fit, behind, front⟩
        cases is
        exact unformed ⟨devices, behind, ⟨front, fun d member => (fit d member).usable⟩, count⟩
      · rw [outside.mpr ⟨devices, behind, copied, fewer, overruns⟩] at ran
        cases ran
      · exact absurd ⟨devices, behind, copied, count⟩ unformed
  · rintro ⟨n, rest, devices, is, -⟩
    exact ⟨n, rest, is⟩

/-- When a parser hands out exactly what a reply carries, and nothing is written outside. The interfaces are cut down to
    twenty, the buffers of frequencies and stations may be too short, two names are never copied and their number may wrap,
    the items and the number of devices have no bound, and the copy of a packet may fail unnoticed. -/
theorem replies_decoded (sbuf : Sbuf) (mode : Nat → Vector UInt8 WIFI_IFTYPE_MAX) (size : UInt32)
    (freqs : Vector UInt8 (4 * size.toNat)) (infos : Vector UInt8 (MAX_ASSOC_STA_NUM * ETH_ADDR_LEN)) (slots : Nat → Slot)
    (calloc : UInt32 → Bool) (malloc : Nat → Bool) (reply : HdfSBuf) :
    (Decodes (parserNetworkInfo sbuf mode reply) (fun result => result.nums = result.infos.length ∧ CarriesNetwork reply result.infos)
        (∃ infos, CarriesNetwork reply infos ∧ infos.length ≤ MAX_IFACE_NUM) ↔
      ∀ n rest, reply = .uint32 n :: rest → n.toNat ≤ MAX_IFACE_NUM ∨
        ¬∃ infos, infos.length = MAX_IFACE_NUM ∧ Records NetworkInfo.write NetworkInfo.Fits rest infos) ∧
    (Decodes (parserFreqInfo sbuf size (some freqs) true reply) (CarriesFreqs reply)
        (∃ n b rest, reply = .uint32 n :: .buffer b :: rest ∧ b.length = 4 * n.toNat ∧ n ≤ size) ↔
      ∀ n rest, reply = .uint32 n :: rest → ∀ b rest', rest = .buffer b :: rest' → n ≤ size →
        (sbuf.Takes (4 * size.toNat) b → 4 * n.toNat ≤ b.length) ∧ (b.length = 4 * n.toNat → sbuf.Takes (4 * size.toNat) b)) ∧
    (Decodes (parserAssociatedStas sbuf infos reply) (CarriesStas reply) (StasFormed reply) ↔
      ∀ num rest, reply = .uint32 num :: rest → ∀ b rest', rest = .buffer b :: rest' → num ≠ 0 → num.toNat ≤ MAX_ASSOC_STA_NUM →
        sbuf.Takes (MAX_ASSOC_STA_NUM * ETH_ADDR_LEN) b → ETH_ADDR_LEN * num.toNat ≤ b.length) ∧
    (NamesDecoded sbuf calloc reply ↔
      ∀ num rest, reply = .uint32 num :: rest → ∀ b rest', rest = .buffer b :: rest' → calloc num →
        num.toNat * IFNAMSIZ < UInt32.size ∧ (2 ≤ num.toNat → b.length ≠ IFNAMSIZ * num.toNat)) ∧
    (Decodes (getNetDeviceInfo sbuf (some slots) (.ok reply)) (CarriesDevices slots reply)
        (∃ n rest devices, reply = .uint32 n :: rest ∧ devices.length = n.toNat ∧ n.toNat ≤ MAX_NETDEVICE_COUNT ∧
          Records NetDeviceInfo.write NetDeviceInfo.Fits rest devices) ↔
      ∀ n rest, reply = .uint32 n :: rest → ∀ devices behind, Copied rest devices behind →
        (devices.length < n.toNat → ¬Overruns devices.length behind) ∧
          (devices.length = n.toNat → ∀ device ∈ devices, device.mac.length = ETH_ADDR_LEN)) ∧
    (Decodes (wifiEapolPacketReceive sbuf malloc true true (.ok reply)) (CarriesEapol reply)
        (∃ b rest, reply = .buffer b :: rest ∧ (b.length ≠ 0 → malloc b.length)) ↔
      ∀ b rest, reply = .buffer b :: rest → malloc b.length → b.length ≤ SECUREC_MEM_MAX_LEN) :=
  ⟨parserNetworkInfo_iff mode reply, parserFreqInfo_iff size freqs reply, parserAssociatedStas_iff infos reply,
    getIfNames_iff calloc reply, getNetDeviceInfo_iff reply, wifiEapolPacketReceive_iff malloc reply⟩

/-- Two numbers of which one is there, two stations of which one is there, two names, a device with a name of seventeen bytes. -/
theorem replies_mangled :
    ¬Decodes (parserFreqInfo ⟨true⟩ 2 (some (Vector.replicate _ 7)) true [.uint32 2, .buffer [1, 0, 0, 0]])
        (CarriesFreqs [.uint32 2, .buffer [1, 0, 0, 0]])
        (∃ n b rest, [Value.uint32 2, .buffer [1, 0, 0, 0]] = .uint32 n :: .buffer b :: rest ∧ b.length = 4 * n.toNat ∧ n ≤ 2) ∧
    ¬Decodes (parserAssociatedStas ⟨true⟩ (Vector.replicate _ 7) [.uint32 2, .buffer [1, 2, 3, 4, 5, 6]])
        (CarriesStas [.uint32 2, .buffer [1, 2, 3, 4, 5, 6]]) (StasFormed [.uint32 2, .buffer [1, 2, 3, 4, 5, 6]]) ∧
    ¬NamesDecoded ⟨true⟩ (fun _ => true) [.uint32 2, .buffer (List.replicate 32 119)] ∧
    getNetDeviceInfo ⟨true⟩ (some fun _ => ⟨Vector.replicate _ 0, Vector.replicate _ 0⟩)
        (.ok [.uint32 1, .uint32 0, .buffer (List.replicate 17 119), .uint8 2, .buffer [1, 2, 3, 4, 5, 6]]) = .outside := by
  refine ⟨fun decodes => ?_, fun decodes => ?_, fun decodes => ?_, rfl⟩
  · obtain ⟨b, rest, is, enough, -⟩ : CarriesFreqs _ ⟨2, [1, 0, 0, 0, 7, 7, 7, 7]⟩ := decodes
    cases is
    exact absurd enough (by decide)
  · rcases (show CarriesStas _ ⟨2, [1, 2, 3, 4, 5, 6] ++ List.replicate 42 7⟩ from decodes) with
      ⟨zero, -⟩ | ⟨b, rest, is, enough, -⟩
    · cases zero
    · cases is
      exact absurd enough (by decide)
  · exact decodes.1 ⟨2, _, [], rfl, rfl, rfl⟩

end Peripheral.WlanReplies
