import Peripheral.NetlinkSettings

/-!
The lists that the WLAN client makes from what the kernel has, `netlink_cmd_adapter.c`: the
channels of a band from the messages of a dump, and the interfaces from a directory. A
message is what `nla_parse` finds in it, with attributes that may be missing.
-/
namespace Peripheral.Netlink

def NL80211_BAND_2GHZ : Int32 := 0
def NL80211_BAND_5GHZ : Int32 := 1

inductive Wrong
  | missing
  | outside
  deriving DecidableEq

structure Channel where
  freq : Option UInt32
  maxTxPower : Option UInt32
  deriving DecidableEq

/-- A message of the dump: the bands if it has any, each with its channels or without. -/
structure WiphyMsg where
  bands : Option (List (Option (List Channel)))
  deriving DecidableEq

/-- `FreqInfoResult`, with arrays of the capacity that the caller passes. -/
structure FreqInfoResult (size : Nat) where
  band : Int32
  nums : Nat
  freqs : Vector Int32 size
  txPower : Vector Int32 size

section
variable {size : Nat}

def nlaGetU32 (attr : Option UInt32) : Except Wrong UInt32 :=
  match attr with
  | none => .error .missing
  | some v => .ok v

def store (array : Vector Int32 size) (i : Nat) (v : Int32) : Except Wrong (Vector Int32 size) :=
  if within : i < size then .ok (array.set i v) else .error .outside

/-- The branches of `switch (result->band)`: only the first one has the power. -/
def appendFreq (r : FreqInfoResult size) (freq : Int32) (maxTxPower : Option UInt32) : Except Wrong (FreqInfoResult size) :=
  if r.band = NL80211_BAND_2GHZ then
    if 2400 < freq ∧ freq < 2500 then do
      let freqs ← store r.freqs r.nums freq
      let txPower ← store r.txPower r.nums (← nlaGetU32 maxTxPower).toInt32
      return { r with freqs, txPower, nums := r.nums + 1 }
    else .ok r
  else if r.band = NL80211_BAND_5GHZ then
    if 5100 < freq ∧ freq < 5900 then do
      let freqs ← store r.freqs r.nums freq
      return { r with freqs, nums := r.nums + 1 }
    else .ok r
  else .ok r

/-- A channel is left out when it has no frequency but a power. -/
def parseChannel (r : FreqInfoResult size) (channel : Channel) : Except Wrong (FreqInfoResult size) :=
  if channel.freq.isNone ∧ channel.maxTxPower.isSome then .ok r
  else do
    let freq ← nlaGetU32 channel.freq
    appendFreq r freq.toInt32 channel.maxTxPower

def parseBand (r : FreqInfoResult size) (band : Option (List Channel)) : Except Wrong (FreqInfoResult size) :=
  match band with
  | none => .ok r
  | some channels => channels.foldlM parseChannel r

def parseBands (r : FreqInfoResult size) (msg : WiphyMsg) : Except Wrong (FreqInfoResult size) :=
  match msg.bands with
  | none => .ok r
  | some bands => bands.foldlM parseBand r

/-- A handler of `sendCmdSync`. -/
def parserValidFreq (msg : WiphyMsg) (result : Except Wrong (FreqInfoResult size)) : Except Wrong (FreqInfoResult size) × Int :=
  (result >>= fun r => parseBands r msg, NL_SKIP)

/-- `memset_s`, of as many bytes as a pointer has. -/
def memsetS (pointer : Nat) (freqs : Vector Int32 size) : Option (Vector Int32 size) :=
  if 4 * size = 0 ∨ Wlan.SECUREC_MEM_MAX_LEN < 4 * size ∨ 4 * size < pointer then none
  else some (Vector.ofFn fun i => if i.val < pointer / 4 then 0 else freqs.get i)

/-- The code, and what the parser left if it was reached. The exchange gives its code, and the messages that it told the parser. -/
def getValidFreqByBand {ν : Type} (sys : System ν) (pointer : Nat) (ifName : ν) (band : Int32)
    (result : Option (Vector Int32 size × Vector Int32 size)) (exchange : Msg → Int32 × List WiphyMsg) :
    Int32 × Option (Except Wrong (FreqInfoResult size)) :=
  match result with
  | none => (RET_CODE_INVALID_PARAM, none)
  | some (freqs, txPower) =>
    let ifaceId := sys.ifNametoindex ifName
    if ifaceId = 0 then (RET_CODE_INVALID_PARAM, none)
    else if ¬sys.nlmsgAlloc then (RET_CODE_NOMEM, none)
    else
      match memsetS pointer freqs with
      | none => (RET_CODE_FAILURE, none)
      | some freqs =>
        let (ret, told) := exchange (wiphyDump sys ifaceId)
        let left := told.foldl (fun result msg => (parserValidFreq msg result).1) (.ok ⟨band, 0, freqs, txPower⟩)
        (orFailure ret, some left)

def WiphyMsg.channels (msg : WiphyMsg) : List Channel := (msg.bands.getD []).flatMap (·.getD [])

/-- The channels of the messages, one after the other. -/
def channels (dump : List WiphyMsg) : List Channel := dump.flatMap WiphyMsg.channels

def inBand (band : Int32) (channel : Channel) : Bool :=
  channel.freq.any fun freq =>
    if band = NL80211_BAND_2GHZ then 2400 < freq.toInt32 ∧ freq.toInt32 < 2500
    else band = NL80211_BAND_5GHZ ∧ 5100 < freq.toInt32 ∧ freq.toInt32 < 5900

theorem inBand_ghz2 {band : Int32} (ghz2 : band = NL80211_BAND_2GHZ) (freq : UInt32) (power : Option UInt32) :
    inBand band ⟨some freq, power⟩ = true ↔ 2400 < freq.toInt32 ∧ freq.toInt32 < 2500 := by
  simp only [inBand, Option.any_some, if_pos ghz2, decide_eq_true_eq]

theorem inBand_other {band : Int32} (other : band ≠ NL80211_BAND_2GHZ) (freq : UInt32) (power : Option UInt32) :
    inBand band ⟨some freq, power⟩ = true ↔ band = NL80211_BAND_5GHZ ∧ 5100 < freq.toInt32 ∧ freq.toInt32 < 5900 := by
  simp only [inBand, Option.any_some, if_neg other, decide_eq_true_eq]

theorem told_channels (dump : List WiphyMsg) : ∀ result : Except Wrong (FreqInfoResult size),
    dump.foldl (fun result msg => (parserValidFreq msg result).1) result =
      result >>= fun r => (channels dump).foldlM parseChannel r := by
  have band : ∀ (r : FreqInfoResult size) band, parseBand r band = (band.getD []).foldlM parseChannel r := by
    intro r band
    cases band with
    | none => rfl
    | some channels => rfl
  have bands : ∀ (bands : List (Option (List Channel))) (r : FreqInfoResult size),
      bands.foldlM parseBand r = (bands.flatMap (·.getD [])).foldlM parseChannel r := by
    intro bands
    induction bands with
    | nil => exact fun r => rfl
    | cons first bands ih =>
      intro r
      simp only [List.foldlM_cons, List.flatMap_cons, List.foldlM_append, band, ih]
  have msg : ∀ (r : FreqInfoResult size) (msg : WiphyMsg), parseBands r msg = msg.channels.foldlM parseChannel r := by
    intro r msg
    rw [parseBands, WiphyMsg.channels]
    cases msg.bands with
    | none => rfl
    | some all => exact bands all r
  induction dump with
  | nil =>
    intro result
    cases result with
    | ok r => rfl
    | error wrong => rfl
  | cons first dump ih =>
    intro result
    rw [List.foldl_cons, ih]
    cases result with
    | error wrong => rfl
    | ok r =>
      change (parseBands r first >>= fun r => (channels dump).foldlM parseChannel r) =
        (first.channels ++ channels dump).foldlM parseChannel r
      rw [msg, List.foldlM_append]

structure Safe (r : FreqInfoResult size) (coming : List Channel) : Prop where
  named : ∀ channel ∈ coming, channel.freq.isSome ∨ channel.maxTxPower.isSome
  room : r.nums + (coming.filter (inBand r.band)).length ≤ size
  powered : r.band = NL80211_BAND_2GHZ → ∀ channel ∈ coming, inBand r.band channel → channel.maxTxPower.isSome

structure Adds (r : FreqInfoResult size) (found : List Channel) (r' : FreqInfoResult size) : Prop where
  band : r'.band = r.band
  nums : r'.nums = r.nums + found.length
  before : ∀ i < r.nums, r'.freqs[i]? = r.freqs[i]? ∧ r'.txPower[i]? = r.txPower[i]?
  freqs : ∀ i channel, found[i]? = some channel → r'.freqs[r.nums + i]? = channel.freq.map (·.toInt32)
  powers : r.band = NL80211_BAND_2GHZ → ∀ i channel, found[i]? = some channel →
    r'.txPower[r.nums + i]? = channel.maxTxPower.map (·.toInt32)
  same : r.band ≠ NL80211_BAND_2GHZ → r'.txPower = r.txPower

theorem get_set {a : Vector Int32 size} {i : Nat} (v : Int32) (within : i < size) (j : Nat) :
    (a.set i v)[j]? = if i = j then some v else a[j]? := by
  rw [Vector.getElem?_set]

theorem adds_one {r : FreqInfoResult size} {freq : UInt32} {power : Option UInt32} {txPower : Vector Int32 size}
    (within : r.nums < size)
    (powers : r.band = NL80211_BAND_2GHZ ∧ (∃ p, power = some p ∧ txPower = r.txPower.set r.nums p.toInt32) ∨
      r.band ≠ NL80211_BAND_2GHZ ∧ txPower = r.txPower) :
    Adds r [⟨some freq, power⟩] { r with freqs := r.freqs.set r.nums freq.toInt32, txPower, nums := r.nums + 1 } := by
  refine ⟨rfl, rfl, ?_, ?_, ?_, ?_⟩
  · intro i before
    refine ⟨by rw [get_set _ within, if_neg (by omega)], ?_⟩
    rcases powers with ⟨-, p, -, rfl⟩ | ⟨-, rfl⟩
    · rw [get_set _ within, if_neg (by omega)]
    · rfl
  · intro i channel found
    obtain ⟨rfl, rfl⟩ : i = 0 ∧ ⟨some freq, power⟩ = channel := by
      cases i with
      | zero => exact ⟨rfl, Option.some.inj found⟩
      | succ i => cases found
    rw [get_set _ within, if_pos (Nat.add_zero _).symm]
    rfl
  · intro ghz2 i channel found
    obtain ⟨rfl, rfl⟩ : i = 0 ∧ ⟨some freq, power⟩ = channel := by
      cases i with
      | zero => exact ⟨rfl, Option.some.inj found⟩
      | succ i => cases found
    rcases powers with ⟨-, p, rfl, rfl⟩ | ⟨other, -⟩
    · rw [get_set _ within, if_pos (Nat.add_zero _).symm]
      rfl
    · exact absurd ghz2 other
  · intro other
    rcases powers with ⟨ghz2, -⟩ | ⟨-, rfl⟩
    · exact absurd ghz2 other
    · rfl

theorem parseChannel_cases (r : FreqInfoResult size) (channel : Channel) :
    (inBand r.band channel = false ∧ (channel.freq.isSome ∨ channel.maxTxPower.isSome) ∧ parseChannel r channel = .ok r) ∨
    (inBand r.band channel = true ∧ r.nums < size ∧ (r.band = NL80211_BAND_2GHZ → channel.maxTxPower.isSome) ∧
      ∃ r', parseChannel r channel = .ok r' ∧ Adds r [channel] r') ∨
    ((¬(channel.freq.isSome ∨ channel.maxTxPower.isSome) ∨ inBand r.band channel = true ∧
      (size ≤ r.nums ∨ r.band = NL80211_BAND_2GHZ ∧ ¬channel.maxTxPower.isSome)) ∧ ∃ wrong, parseChannel r channel = .error wrong) := by
  obtain ⟨freq, power⟩ := channel
  cases freq with
  | none =>
    cases power with
    | none => exact .inr (.inr ⟨.inl (by simp), .missing, by simp [parseChannel, nlaGetU32, bind, Except.bind]⟩)
    | some power => exact .inl ⟨rfl, by simp, by simp [parseChannel]⟩
  | some freq =>
    have reads : parseChannel r ⟨some freq, power⟩ = appendFreq r freq.toInt32 power := by
      simp [parseChannel, nlaGetU32, bind, Except.bind]
    rw [reads, appendFreq]
    by_cases ghz2 : r.band = NL80211_BAND_2GHZ
    · by_cases lies : 2400 < freq.toInt32 ∧ freq.toInt32 < 2500
      · have inside : inBand r.band ⟨some freq, power⟩ = true := (inBand_ghz2 ghz2 freq power).mpr lies
        rw [if_pos ghz2, if_pos lies]
        by_cases within : r.nums < size
        · cases power with
          | none =>
            refine .inr (.inr ⟨.inr ⟨inside, .inr ⟨ghz2, by simp⟩⟩, .missing, ?_⟩)
            simp [store, within, nlaGetU32, bind, Except.bind]
          | some power =>
            refine .inr (.inl ⟨inside, within, fun _ => rfl, _, ?_, adds_one within (.inl ⟨ghz2, power, rfl, rfl⟩)⟩)
            simp [store, within, nlaGetU32, bind, Except.bind, pure, Except.pure]
        · refine .inr (.inr ⟨.inr ⟨inside, .inl (Nat.not_lt.mp within)⟩, .outside, ?_⟩)
          simp [store, within, bind, Except.bind]
      · rw [if_pos ghz2, if_neg lies]
        exact .inl ⟨Bool.eq_false_iff.mpr (fun inside => lies ((inBand_ghz2 ghz2 freq power).mp inside)), .inl rfl, rfl⟩
    · by_cases lies : r.band = NL80211_BAND_5GHZ ∧ 5100 < freq.toInt32 ∧ freq.toInt32 < 5900
      · have inside : inBand r.band ⟨some freq, power⟩ = true := (inBand_other ghz2 freq power).mpr lies
        rw [if_neg ghz2, if_pos lies.1, if_pos lies.2]
        by_cases within : r.nums < size
        · refine .inr (.inl ⟨inside, within, fun is => absurd is ghz2, _, ?_, adds_one within (.inr ⟨ghz2, rfl⟩)⟩)
          simp [store, within, bind, Except.bind, pure, Except.pure]
        · refine .inr (.inr ⟨.inr ⟨inside, .inl (Nat.not_lt.mp within)⟩, .outside, ?_⟩)
          simp [store, within, bind, Except.bind]
      · refine .inl ⟨Bool.eq_false_iff.mpr (fun inside => lies ((inBand_other ghz2 freq power).mp inside)), .inl rfl, ?_⟩
        rw [if_neg ghz2]
        by_cases ghz5 : r.band = NL80211_BAND_5GHZ
        · rw [if_pos ghz5, if_neg (fun inside => lies ⟨ghz5, inside⟩)]
        · rw [if_neg ghz5]

theorem Adds.nil (r : FreqInfoResult size) : Adds r [] r :=
  ⟨rfl, rfl, fun _ _ => ⟨rfl, rfl⟩, by simp, by simp, fun _ => rfl⟩

theorem Adds.cons {r r' r'' : FreqInfoResult size} {channel : Channel} {found : List Channel} (first : Adds r [channel] r')
    (rest : Adds r' found r'') : Adds r (channel :: found) r'' := by
  have nums : r'.nums = r.nums + 1 := first.nums
  refine ⟨rest.band.trans first.band, ?_, ?_, ?_, ?_, ?_⟩
  · rw [rest.nums, nums, List.length_cons]
    omega
  · intro i before
    obtain ⟨freqs, powers⟩ := rest.before i (by omega)
    obtain ⟨freqs', powers'⟩ := first.before i before
    exact ⟨freqs.trans freqs', powers.trans powers'⟩
  · intro i other at_
    cases i with
    | zero =>
      cases at_
      rw [Nat.add_zero, (rest.before r.nums (by omega)).1]
      exact first.freqs 0 channel rfl
    | succ i =>
      have later := rest.freqs i other at_
      rwa [nums, Nat.add_assoc, Nat.add_comm 1] at later
  · intro ghz2 i other at_
    cases i with
    | zero =>
      cases at_
      rw [Nat.add_zero, (rest.before r.nums (by omega)).2]
      exact first.powers ghz2 0 channel rfl
    | succ i =>
      have later := rest.powers (first.band.trans ghz2) i other at_
      rwa [nums, Nat.add_assoc, Nat.add_comm 1] at later
  · intro other
    exact (rest.same (fun ghz2 => other (first.band.symm.trans ghz2))).trans (first.same other)

/-- The parser goes wrong, or it adds every channel of its band in order. -/
theorem parses (coming : List Channel) : ∀ r : FreqInfoResult size, r.nums ≤ size →
    (Safe r coming ∧ ∃ r', coming.foldlM parseChannel r = .ok r' ∧ Adds r (coming.filter (inBand r.band)) r') ∨
      (¬Safe r coming ∧ ∃ wrong, coming.foldlM parseChannel r = .error wrong) := by
  induction coming with
  | nil =>
    intro r bounded
    exact .inl ⟨⟨by simp, by simpa using bounded, by simp⟩, r, rfl, Adds.nil r⟩
  | cons channel coming ih =>
    intro r bounded
    rw [List.foldlM_cons]
    rcases parseChannel_cases r channel with ⟨elsewhere, named, same⟩ | ⟨inside, within, powered, r', recorded, adds⟩ |
      ⟨bad, wrong, goes⟩
    · rw [same, List.filter_cons_of_neg (by simp [elsewhere])]
      have safe : Safe r (channel :: coming) ↔ Safe r coming := by
        constructor
        · rintro ⟨all, room, power⟩
          rw [List.filter_cons_of_neg (by simp [elsewhere])] at room
          exact ⟨fun c member => all c (List.mem_cons_of_mem _ member), room,
            fun ghz2 c member => power ghz2 c (List.mem_cons_of_mem _ member)⟩
        · rintro ⟨all, room, power⟩
          refine ⟨List.forall_mem_cons.mpr ⟨named, all⟩, ?_, fun ghz2 => List.forall_mem_cons.mpr ⟨?_, power ghz2⟩⟩
          · rwa [List.filter_cons_of_neg (by simp [elsewhere])]
          · intro inside
            rw [elsewhere] at inside
            cases inside
      rw [safe]
      exact ih r bounded
    · rw [recorded, List.filter_cons_of_pos inside]
      have nums : r'.nums = r.nums + 1 := adds.nums
      have safe : Safe r (channel :: coming) ↔ Safe r' coming := by
        constructor
        · rintro ⟨all, room, power⟩
          rw [List.filter_cons_of_pos inside, List.length_cons] at room
          refine ⟨fun c member => all c (List.mem_cons_of_mem _ member), ?_, ?_⟩
          · rw [adds.band, nums]
            omega
          · rw [adds.band]
            exact fun ghz2 c member => power ghz2 c (List.mem_cons_of_mem _ member)
        · rintro ⟨all, room, power⟩
          rw [adds.band, nums] at room
          rw [adds.band] at power
          refine ⟨List.forall_mem_cons.mpr ⟨?_, all⟩, ?_, fun ghz2 => List.forall_mem_cons.mpr ⟨fun _ => powered ghz2, power ghz2⟩⟩
          · cases freq : channel.freq with
            | none => simp [inBand, freq] at inside
            | some freq => exact .inl rfl
          · rw [List.filter_cons_of_pos inside, List.length_cons]
            omega
      rw [safe]
      rcases ih r' (by omega) with ⟨sound, r'', parsed, later⟩ | ⟨unsound, wrong, goes⟩
      · refine .inl ⟨sound, r'', parsed, adds.cons ?_⟩
        rwa [adds.band] at later
      · exact .inr ⟨unsound, wrong, goes⟩
    · rw [goes]
      refine .inr ⟨?_, wrong, rfl⟩
      rintro ⟨all, room, power⟩
      rcases bad with unnamed | ⟨inside, full | ⟨ghz2, unpowered⟩⟩
      · exact unnamed (all channel List.mem_cons_self)
      · rw [List.filter_cons_of_pos inside, List.length_cons] at room
        omega
      · exact unpowered (power ghz2 channel List.mem_cons_self inside)

/-- The parser did not go wrong, and after success the arrays list the channels of the dump that lie in the band. -/
structure FreqsRight (dump : List WiphyMsg) (band : Int32) (o : Int32 × Option (Except Wrong (FreqInfoResult size))) : Prop where
  safe : ∀ wrong, o.2 ≠ some (.error wrong)
  lists : o.1 = RET_CODE_SUCCESS → ∃ r, o.2 = some (.ok r) ∧ r.nums = ((channels dump).filter (inBand band)).length ∧
    ∀ (i : Nat) channel, ((channels dump).filter (inBand band))[i]? = some channel →
      r.freqs[i]? = channel.freq.map (·.toInt32) ∧
        ∀ power, channel.maxTxPower = some power → r.txPower[i]? = some power.toInt32

/-- Outside the band of 2.4 GHz the power is right only if the caller's array has it already. -/
theorem getValidFreqByBand_iff {ν : Type} (sys : System ν) (pointer : Nat) (ifName : ν) (band : Int32) (freqs txPower : Vector Int32 size)
    (exchange : Msg → Int32 × List WiphyMsg) : FreqsRight (exchange (wiphyDump sys (sys.ifNametoindex ifName))).2 band
        (getValidFreqByBand sys pointer ifName band (some (freqs, txPower)) exchange) ↔
      (sys.ifNametoindex ifName ≠ 0 → sys.nlmsgAlloc → (memsetS pointer freqs).isSome →
        Safe ⟨band, 0, freqs, txPower⟩ (channels (exchange (wiphyDump sys (sys.ifNametoindex ifName))).2) ∧
          ((exchange (wiphyDump sys (sys.ifNametoindex ifName))).1 = RET_CODE_SUCCESS → band ≠ NL80211_BAND_2GHZ →
            ∀ (i : Nat) channel, ((channels (exchange (wiphyDump sys (sys.ifNametoindex ifName))).2).filter (inBand band))[i]? = some channel →
              ∀ power, channel.maxTxPower = some power → txPower[i]? = some power.toInt32)) := by
  have early : ∀ (dump : List WiphyMsg) (code : Int32), code ≠ RET_CODE_SUCCESS →
      FreqsRight dump band ((code, none) : Int32 × Option (Except Wrong (FreqInfoResult size))) := by
    intro dump code fails
    exact ⟨fun wrong is => (by cases is), fun success => absurd success fails⟩
  rw [getValidFreqByBand]
  by_cases unnamed : sys.ifNametoindex ifName = 0
  · simp only [unnamed, if_true, ne_eq, not_true_eq_false, false_implies, iff_true]
    exact early _ _ (by decide)
  · simp only [unnamed, if_false, ne_eq, not_false_eq_true, forall_true_left]
    cases alloc : sys.nlmsgAlloc with
    | false =>
      simp only [Bool.false_eq_true, not_false_eq_true, if_true, false_implies, iff_true]
      exact early _ _ (by decide)
    | true =>
      simp only [not_true_eq_false, if_false, forall_true_left]
      cases cleared : memsetS pointer freqs with
      | none =>
        simp only [Option.isSome_none, Bool.false_eq_true, false_implies, iff_true]
        exact early _ _ (by decide)
      | some freqs' =>
        simp only [Option.isSome_some, forall_true_left]
        generalize exchange (wiphyDump sys (sys.ifNametoindex ifName)) = answer
        obtain ⟨ret, told⟩ := answer
        simp only [told_channels]
        change FreqsRight told band (orFailure ret,
          some ((channels told).foldlM parseChannel (⟨band, 0, freqs', txPower⟩ : FreqInfoResult size))) ↔ _
        have either : Safe (⟨band, 0, freqs, txPower⟩ : FreqInfoResult size) (channels told) ↔
            Safe (⟨band, 0, freqs', txPower⟩ : FreqInfoResult size) (channels told) := by
          constructor
          · rintro ⟨named, room, powered⟩
            exact ⟨named, room, powered⟩
          · rintro ⟨named, room, powered⟩
            exact ⟨named, room, powered⟩
        rw [either]
        rcases parses (channels told) (⟨band, 0, freqs', txPower⟩ : FreqInfoResult size) (Nat.zero_le _) with
          ⟨sound, r, parsed, adds⟩ | ⟨unsound, wrong, goes⟩
        · rw [parsed]
          have nums : r.nums = ((channels told).filter (inBand band)).length := by simpa using adds.nums
          have freqs : ∀ (i : Nat) channel, ((channels told).filter (inBand band))[i]? = some channel →
              r.freqs[i]? = channel.freq.map (·.toInt32) := by
            intro i channel at_
            simpa using adds.freqs i channel at_
          constructor
          · intro right
            refine ⟨sound, fun success other i channel at_ power has => ?_⟩
            obtain ⟨r', is, -, lists⟩ := right.lists ((orFailure_success ret).mpr success)
            cases is
            have same : r.txPower = txPower := adds.same other
            rw [← same]
            exact (lists i channel at_).2 power has
          · rintro ⟨-, powers⟩
            refine ⟨fun wrong is => (by cases is), fun success => ⟨r, rfl, nums, fun i channel at_ => ⟨freqs i channel at_, ?_⟩⟩⟩
            intro power has
            by_cases ghz2 : band = NL80211_BAND_2GHZ
            · have written := adds.powers ghz2 i channel at_
              rw [has] at written
              simpa using written
            · have same : r.txPower = txPower := adds.same ghz2
              rw [same]
              exact powers ((orFailure_success ret).mp success) ghz2 i channel at_ power has
        · rw [goes]
          exact iff_of_false (fun right => right.safe wrong rfl) (fun sound => unsound sound.1)

end

def MAX_IFACE_NUM : Nat := 20
def IFNAMSIZ : Nat := 16

/-- The entries of `supportMode` that are ever set. -/
inductive IfType
  | station
  | ap
  | p2pClient
  | p2pGo
  | p2pDevice
  deriving DecidableEq

structure NetworkInfo where
  name : String
  supportMode : List IfType
  deriving DecidableEq

/-- `strncmp` with the length of a text. -/
def begins (name text : String) : Bool := text.toList.isPrefixOf name.toList

def isWifiIface (name : String) : Bool := begins name "wlan" || begins name "p2p"

/-- The entries of the directory one by one: the code, and the names that were recorded. -/
def getAllIfaceInfo : List String → List String → Except Wrong (Int32 × List String)
  | infos, [] => .ok (if infos = [] then RET_CODE_NOT_AVAILABLE else RET_CODE_SUCCESS, infos)
  | infos, name :: rest =>
    if begins name "." then getAllIfaceInfo infos rest
    else if isWifiIface name then
      if MAX_IFACE_NUM ≤ infos.length then .error .outside
      else if IFNAMSIZ ≤ name.utf8ByteSize then .ok (RET_CODE_FAILURE, infos)
      else getAllIfaceInfo (infos ++ [name]) rest
    else getAllIfaceInfo infos rest

def supportMode (name : String) : List IfType :=
  if begins name "wlan0" then [.station, .ap]
  else if begins name "wlan1" then [.station]
  else if begins name "p2p0" then [.p2pDevice]
  else if begins name "p2p0-" then [.p2pClient, .p2pGo]
  else []

def getUsableNetworkInfo (dir : Option (List String)) : Except Wrong (Int32 × List NetworkInfo) :=
  match dir with
  | none => .ok (RET_CODE_FAILURE, [])
  | some entries => do
    let (ret, names) ← getAllIfaceInfo [] entries
    if ret ≠ RET_CODE_SUCCESS then return (ret, [])
    else return (RET_CODE_SUCCESS, names.map fun name => ⟨name, supportMode name⟩)

def ownModes (name : String) : Option (List IfType) :=
  if name = "wlan0" then some [.station, .ap]
  else if name = "wlan1" then some [.station]
  else if name = "p2p0" then some [.p2pDevice]
  else if begins name "p2p0-" then some [.p2pClient, .p2pGo]
  else none

/-- No more interfaces are recorded than there is room for, each of a known name for what it is for. -/
structure IfacesRight (o : Except Wrong (Int32 × List NetworkInfo)) : Prop where
  safe : ∀ wrong, o ≠ .error wrong
  modes : ∀ infos, o = .ok (RET_CODE_SUCCESS, infos) →
    infos.length ≤ MAX_IFACE_NUM ∧ ∀ info ∈ infos, ∀ modes, ownModes info.name = some modes → info.supportMode = modes

def wifiNames (entries : List String) : List String := entries.filter fun name => !begins name "." && isWifiIface name

/-- The names are recorded up to one that is too long, and one that has no room is written outside. -/
theorem getAllIfaceInfo_cases (entries : List String) : ∀ infos, infos.length ≤ MAX_IFACE_NUM →
    ((∃ name ∈ (wifiNames entries).take (MAX_IFACE_NUM - infos.length), IFNAMSIZ ≤ name.utf8ByteSize) ∧
      ∃ infos', getAllIfaceInfo infos entries = .ok (RET_CODE_FAILURE, infos')) ∨
    (¬(∃ name ∈ (wifiNames entries).take (MAX_IFACE_NUM - infos.length), IFNAMSIZ ≤ name.utf8ByteSize) ∧
      (infos.length + (wifiNames entries).length ≤ MAX_IFACE_NUM ∧ getAllIfaceInfo infos entries =
          .ok (if infos ++ wifiNames entries = [] then RET_CODE_NOT_AVAILABLE else RET_CODE_SUCCESS, infos ++ wifiNames entries) ∨
      MAX_IFACE_NUM < infos.length + (wifiNames entries).length ∧ getAllIfaceInfo infos entries = .error .outside)) := by
  induction entries with
  | nil =>
    intro infos bounded
    exact .inr ⟨by simp [wifiNames], .inl ⟨by simpa [wifiNames] using bounded, by simp [getAllIfaceInfo, wifiNames]⟩⟩
  | cons name rest ih =>
    intro infos bounded
    by_cases recorded : (!begins name "." && isWifiIface name) = true
    · have names : wifiNames (name :: rest) = name :: wifiNames rest := List.filter_cons_of_pos recorded
      simp only [Bool.and_eq_true, Bool.not_eq_true'] at recorded
      rw [names]
      by_cases full : MAX_IFACE_NUM ≤ infos.length
      · refine .inr ⟨by simp [show MAX_IFACE_NUM - infos.length = 0 by omega], .inr ⟨?_, ?_⟩⟩
        · rw [List.length_cons]
          omega
        · simp [getAllIfaceInfo, recorded, full]
      · obtain ⟨room, is⟩ : ∃ room, MAX_IFACE_NUM - infos.length = room + 1 := ⟨MAX_IFACE_NUM - infos.length - 1, by omega⟩
        rw [is, List.take_succ_cons]
        by_cases long : IFNAMSIZ ≤ name.utf8ByteSize
        · exact .inl ⟨⟨name, List.mem_cons_self, long⟩, infos, by simp [getAllIfaceInfo, recorded, full, long]⟩
        · have next : getAllIfaceInfo infos (name :: rest) = getAllIfaceInfo (infos ++ [name]) rest := by
            simp [getAllIfaceInfo, recorded, full, long]
          have left : MAX_IFACE_NUM - (infos ++ [name]).length = room := by
            rw [List.length_append, List.length_singleton]
            omega
          have later := ih (infos ++ [name]) (by rw [List.length_append, List.length_singleton]; omega)
          rw [left, List.append_assoc, List.singleton_append, List.length_append, List.length_singleton, Nat.add_assoc,
            Nat.add_comm 1] at later
          simpa only [next, List.mem_cons, exists_eq_or_imp, long, false_or, List.length_cons] using later
    · have names : wifiNames (name :: rest) = wifiNames rest := List.filter_cons_of_neg recorded
      have next : getAllIfaceInfo infos (name :: rest) = getAllIfaceInfo infos rest := by
        simp only [Bool.and_eq_true, Bool.not_eq_true', not_and, Bool.not_eq_true] at recorded
        rw [getAllIfaceInfo]
        split
        · rfl
        · next visible => rw [if_neg (by simp [recorded (by simpa using visible)])]
      rw [names, next]
      exact ih infos bounded

variable {name : String}

/-- A name that begins like `p2p0-` begins like `p2p0`, and is taken for it. -/
theorem supportMode_group (group : begins name "p2p0-") : supportMode name = [.p2pDevice] := by
  obtain ⟨rest, is⟩ := List.isPrefixOf_iff_prefix.mp group
  have first : begins name "wlan0" = false := by simp [begins, ← is, List.isPrefixOf]
  have second : begins name "wlan1" = false := by simp [begins, ← is, List.isPrefixOf]
  have third : begins name "p2p0" = true := by simp [begins, ← is]
  simp [supportMode, first, second, third]

/-- A known name is listed for what it is for, except one that only begins like `p2p0`. -/
theorem supportMode_own {modes : List IfType} (own : ownModes name = some modes) :
    supportMode name = modes ↔ ¬begins name "p2p0-" := by
  rw [ownModes] at own
  split at own
  · next is =>
    cases own
    rw [is]
    exact iff_of_true (by decide) (by decide)
  · split at own
    · next is =>
      cases own
      rw [is]
      exact iff_of_true (by decide) (by decide)
    · split at own
      · next is =>
        cases own
        rw [is]
        exact iff_of_true (by decide) (by decide)
      · split at own
        · next group =>
          cases own
          rw [supportMode_group group]
          exact iff_of_false (by decide) (fun other => other group)
        · cases own

theorem ownModes_group (group : begins name "p2p0-") : ownModes name = some [.p2pClient, .p2pGo] := by
  have other : ∀ known, begins known "p2p0-" = false → name ≠ known := by
    rintro known unlike rfl
    rw [group] at unlike
    cases unlike
  rw [ownModes, if_neg (other "wlan0" (by decide)), if_neg (other "wlan1" (by decide)), if_neg (other "p2p0" (by decide)),
    if_pos group]

theorem getUsableNetworkInfo_iff (entries : List String) : IfacesRight (getUsableNetworkInfo (some entries)) ↔
    (∃ name ∈ (wifiNames entries).take MAX_IFACE_NUM, IFNAMSIZ ≤ name.utf8ByteSize) ∨
      (wifiNames entries).length ≤ MAX_IFACE_NUM ∧ ∀ name ∈ wifiNames entries, ¬begins name "p2p0-" := by
  rcases getAllIfaceInfo_cases entries [] (Nat.zero_le _) with ⟨long, infos, is⟩ | ⟨short, ⟨few, is⟩ | ⟨many, is⟩⟩
  · refine iff_of_true ?_ (.inl long)
    rw [getUsableNetworkInfo, is]
    refine ⟨fun wrong is => (by cases is), fun infos is => ?_⟩
    cases is
  · rw [List.length_nil, Nat.sub_zero] at short
    rw [List.length_nil, Nat.zero_add] at few
    rw [or_iff_right short, and_iff_right few, getUsableNetworkInfo, is]
    by_cases none : wifiNames entries = []
    · simp only [List.nil_append, none, if_true]
      refine iff_of_true ⟨fun wrong is => (by cases is), fun infos is => ?_⟩ (by simp)
      cases is
    · simp only [List.nil_append, none, if_false]
      constructor
      · intro right name member group
        have modes := (right.modes _ rfl).2 ⟨name, supportMode name⟩ (List.mem_map_of_mem member) _ (ownModes_group group)
        exact (supportMode_own (ownModes_group group)).mp modes group
      · intro apart
        refine ⟨fun wrong is => (by cases is), fun infos is => ?_⟩
        cases is
        refine ⟨by rwa [List.length_map], ?_⟩
        intro info member modes own
        obtain ⟨name, listed, rfl⟩ := List.mem_map.mp member
        exact (supportMode_own own).mpr (apart name listed)
  · rw [List.length_nil, Nat.sub_zero] at short
    rw [List.length_nil, Nat.zero_add] at many
    rw [getUsableNetworkInfo, is]
    refine iff_of_false (fun right => right.safe .outside rfl) ?_
    rintro (long | ⟨few, -⟩)
    · exact short long
    · exact absurd many (Nat.not_lt.mpr few)

/-- The lists are right when nothing that they need is missing and they fit. The channels are never counted before they are
    written, those of 5 GHz get no power, and no interface that begins like `p2p0` is told from it. -/
theorem lists_right {ν : Type} {size : Nat} (sys : System ν) (pointer : Nat) (ifName : ν) (band : Int32) (freqs txPower : Vector Int32 size)
    (exchange : Msg → Int32 × List WiphyMsg) (entries : List String) :
    (FreqsRight (exchange (wiphyDump sys (sys.ifNametoindex ifName))).2 band
        (getValidFreqByBand sys pointer ifName band (some (freqs, txPower)) exchange) ↔
      (sys.ifNametoindex ifName ≠ 0 → sys.nlmsgAlloc → (memsetS pointer freqs).isSome →
        Safe ⟨band, 0, freqs, txPower⟩ (channels (exchange (wiphyDump sys (sys.ifNametoindex ifName))).2) ∧
          ((exchange (wiphyDump sys (sys.ifNametoindex ifName))).1 = RET_CODE_SUCCESS → band ≠ NL80211_BAND_2GHZ →
            ∀ (i : Nat) channel, ((channels (exchange (wiphyDump sys (sys.ifNametoindex ifName))).2).filter (inBand band))[i]? =
              some channel → ∀ power, channel.maxTxPower = some power → txPower[i]? = some power.toInt32))) ∧
    (IfacesRight (getUsableNetworkInfo (some entries)) ↔
      (∃ name ∈ (wifiNames entries).take MAX_IFACE_NUM, IFNAMSIZ ≤ name.utf8ByteSize) ∨
        (wifiNames entries).length ≤ MAX_IFACE_NUM ∧ ∀ name ∈ wifiNames entries, ¬begins name "p2p0-") :=
  ⟨getValidFreqByBand_iff sys pointer ifName band freqs txPower exchange, getUsableNetworkInfo_iff entries⟩

/-- Three channels for room of two, a channel without attributes, one of 5 GHz whose power is not written, and `p2p0-0`. -/
theorem lists_wrong : ((getValidFreqByBand roomy 8 () NL80211_BAND_2GHZ (some (Vector.replicate 2 0, Vector.replicate 2 0))
      (fun _ => (0, [⟨some [some [⟨some 2412, some 20⟩, ⟨some 2417, some 20⟩, ⟨some 2422, some 20⟩]]⟩]))).2.map
        (fun left => left.toBool)) = some false ∧
    ((getValidFreqByBand roomy 8 () NL80211_BAND_2GHZ (some (Vector.replicate 2 0, Vector.replicate 2 0))
      (fun _ => (0, [⟨some [some [⟨none, none⟩]]⟩]))).2.map (fun left => left.toBool)) = some false ∧
    ¬FreqsRight [⟨some [some [⟨some 5180, some 20⟩]]⟩] NL80211_BAND_5GHZ
      (getValidFreqByBand roomy 8 () NL80211_BAND_5GHZ (some (Vector.replicate 2 0, Vector.replicate 2 0))
        (fun _ => (0, [⟨some [some [⟨some 5180, some 20⟩]]⟩]))) ∧
    ¬IfacesRight (getUsableNetworkInfo (some ["lo", "wlan0", "p2p0", "p2p0-0"])) := by
  refine ⟨by decide, by decide, ?_, ?_⟩
  · intro right
    have powers := ((getValidFreqByBand_iff roomy 8 () NL80211_BAND_5GHZ (Vector.replicate 2 0) (Vector.replicate 2 0)
      (fun _ => (0, [⟨some [some [⟨some 5180, some 20⟩]]⟩]))).mp right (by decide) rfl rfl).2 rfl (by decide) 0 _ rfl 20 rfl
    exact absurd powers (by decide)
  · intro right
    rcases (getUsableNetworkInfo_iff _).mp right with long | ⟨-, apart⟩
    · exact absurd long (by decide)
    · exact apart "p2p0-0" (by decide) (by decide)

end Peripheral.Netlink
