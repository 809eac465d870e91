import Peripheral.NetlinkLists

/-!
Scanning over netlink: what `CmdScanPutMsg` of `netlink_cmd_adapter.c` puts into a request, and
what `netlink_event_adapter.c` makes of the results and of the event that a scan is done.
-/
namespace Peripheral.Netlink
open Libnl List Option

def Attr.items (type : AttrType) : Attr → List Value
  | .value t v => if t = type then [v] else []
  | .nested t items => if t = type then items.map (·.2) else []

def Msg.items (msg : Msg) (type : AttrType) : List Value := msg.attrs.flatMap (Attr.items type)

def numbered (v : Nat → Value) (count : Nat) : List (Nat × Value) := (range count).map fun i => (i + 1, v i)

variable (lib : Libnl)

structure NestRoom (msg : Msg) (count : Nat) (v : Nat → Value) : Prop where
  start : lib.fits msg 0
  each : ∀ k < count, lib.fits { msg with nest := numbered v k } (v k).length
  keeps : count = 0 ∨ lib.keeps (numbered v count)

def Msg.withNest (msg : Msg) (type : AttrType) (count : Nat) (v : Nat → Value) : Msg :=
  { msg with attrs := msg.attrs ++ (if lib.keeps (numbered v count) then [.nested type (numbered v count)] else []), nest := [] }

def Msg.withBytes (msg : Msg) (type : AttrType) (given : Option (List UInt8)) : Msg :=
  { msg with attrs := msg.attrs ++ (given.map fun data => Attr.value type (.bytes data)).toList }

variable {lib} {msg : Msg} {type : AttrType} {count : Nat} {v : Nat → Value}

theorem numbered_succ (v : Nat → Value) (count : Nat) : numbered v (count + 1) = numbered v count ++ [(count + 1, v count)] := by
  simp [numbered, range_succ]

theorem numbered_values (v : Nat → Value) (count : Nat) : (numbered v count).map (·.2) = (range count).map v := by
  simp [numbered, Function.comp_def]

theorem putNested_each (lib : Libnl) (msg : Msg) (v : Nat → Value) (count : Nat) : ∃ nest,
    (range count).foldl (fun msg i => lib.nlaPutNested msg (i + 1) (v i)) { msg with nest := [] } = { msg with nest } ∧
      ((∀ k < count, lib.fits { msg with nest := numbered v k } (v k).length) ∧ nest = numbered v count ∨
        ¬(∀ k < count, lib.fits { msg with nest := numbered v k } (v k).length) ∧ nest.length < count) := by
  induction count with
  | zero => exact ⟨[], rfl, .inl ⟨fun k less => absurd less (Nat.not_lt_zero k), rfl⟩⟩
  | succ count ih =>
    obtain ⟨nest, is, which⟩ := ih
    rw [range_succ, foldl_append, is, foldl_cons, foldl_nil, nlaPutNested]
    rcases which with ⟨all, rfl⟩ | ⟨some_, short⟩
    · by_cases last : lib.fits { msg with nest := numbered v count } (v count).length
      · rw [if_pos last, ← numbered_succ]
        refine ⟨_, rfl, .inl ⟨fun k less => ?_, rfl⟩⟩
        rcases Nat.lt_succ_iff_lt_or_eq.mp less with less | rfl
        · exact all k less
        · exact last
      · rw [if_neg last]
        refine ⟨_, rfl, .inr ⟨fun all => last (all count (Nat.lt_succ_self _)), ?_⟩⟩
        simp [numbered]
    · have some_' : ¬∀ k < count + 1, lib.fits { msg with nest := numbered v k } (v k).length :=
        fun all => some_ (fun k less => all k (Nat.lt_succ_of_lt less))
      split
      · refine ⟨_, rfl, .inr ⟨some_', ?_⟩⟩
        rw [length_append, length_singleton]
        exact Nat.succ_lt_succ short
      · exact ⟨_, rfl, .inr ⟨some_', by omega⟩⟩

theorem items_append (msg : Msg) (attrs : List Attr) (nest : List (Nat × Value)) (type : AttrType) :
    ({ msg with attrs := msg.attrs ++ attrs, nest } : Msg).items type = msg.items type ++ attrs.flatMap (Attr.items type) := by
  rw [Msg.items, flatMap_append, Msg.items]

theorem putEach_cases (lib : Libnl) (msg : Msg) (type : AttrType) (count : Nat) (v : Nat → Value) :
    (NestRoom lib msg count v ∧ lib.putEach msg type count v = .ok (msg.withNest lib type count v)) ∨
      ¬NestRoom lib msg count v ∧ ∀ msg', lib.putEach msg type count v = .ok msg' →
        (msg'.items type).length < (msg.items type).length + count ∧ ∀ other ≠ type, msg'.items other = msg.items other := by
  have dropped : ∀ (nest : List (Nat × Value)), nest.length < count ∨ count ≠ 0 ∧ ¬lib.keeps nest → ∀ msg',
      Except.ok (ε := Int32) (lib.nlaNestEnd { msg with nest } type) = .ok msg' →
        (msg'.items type).length < (msg.items type).length + count ∧ ∀ other ≠ type, msg'.items other = msg.items other := by
    rintro nest less msg' is
    cases is
    have closed : lib.nlaNestEnd { msg with nest } type =
        { msg with attrs := msg.attrs ++ (if lib.keeps nest then [.nested type nest] else []), nest := [] } := rfl
    rw [closed]
    refine ⟨?_, fun other apart => ?_⟩
    · rw [items_append]
      split
      · next kept =>
        have short : nest.length < count := less.resolve_right (fun both => both.2 kept)
        simp [Attr.items, short]
      · simp only [flatMap_nil, append_nil]
        omega
    · rw [items_append]
      split
      · simp [Attr.items, Ne.symm apart]
      · simp
  rw [putEach, nlaNestStart]
  by_cases start : lib.fits msg 0
  · obtain ⟨nest, is, which⟩ := putNested_each lib msg v count
    rw [if_pos start]
    simp only [is]
    rcases which with ⟨all, rfl⟩ | ⟨some_, short⟩
    · by_cases kept : count = 0 ∨ lib.keeps (numbered v count)
      · exact .inl ⟨⟨start, all, kept⟩, rfl⟩
      · exact .inr ⟨fun room => kept room.keeps, dropped _ (.inr (not_or.mp kept))⟩
    · exact .inr ⟨fun room => some_ room.each, dropped _ (.inl short)⟩
  · rw [if_neg start]
    exact .inr ⟨fun room => start room.start, fun msg' is => by cases is⟩

theorem items_withNest (msg : Msg) (room : NestRoom lib msg count v) : (msg.withNest lib type count v).items type =
    msg.items type ++ (range count).map v := by
  rw [Msg.withNest, items_append]
  split
  · simp [Attr.items, numbered_values]
  · next dropped =>
    rcases room.keeps with zero | kept
    · simp [zero]
    · exact absurd kept dropped

variable {other : AttrType}

theorem items_withNest_other (msg : Msg) (apart : other ≠ type) :
    (msg.withNest lib type count v).items other = msg.items other := by
  rw [Msg.withNest, items_append]
  split
  · simp [Attr.items, Ne.symm apart]
  · simp

theorem putEach_other {msg' : Msg} (put : lib.putEach msg type count v = .ok msg') (apart : other ≠ type) :
    msg'.items other = msg.items other := by
  rcases putEach_cases lib msg type count v with ⟨room, is⟩ | ⟨-, short⟩
  · rw [is] at put
    cases put
    exact items_withNest_other msg apart
  · exact (short msg' put).2 other apart

/-- A nest is put with all its values exactly when there is room for it. -/
theorem putEach_iff (fresh : msg.items type = []) : (∃ msg', lib.putEach msg type count v = .ok msg' ∧
    (msg'.items type).length = count) ↔ NestRoom lib msg count v := by
  rcases putEach_cases lib msg type count v with ⟨room, is⟩ | ⟨none, short⟩
  · refine iff_of_true ⟨_, is, ?_⟩ room
    simp [items_withNest msg room, fresh]
  · refine iff_of_false ?_ none
    rintro ⟨msg', is, whole⟩
    have less := (short msg' is).1
    rw [fresh, length_nil] at less
    omega

def ssidOf (ssids : List ScanSsid) (i : Nat) : Value := .bytes (ssids[i]?.elim [] (·.val))

def freqOf (freqs : List Int32) (i : Nat) : Value := .u32 (freqs[i]?.getD 0).toUInt32

namespace Msg

def withSsids (msg : Msg) (lib : Libnl) (scan : WifiScan) : Msg :=
  match scan.ssids with
  | none => msg
  | some ssids => msg.withNest lib .scanSsids scan.numSsids.toNat (ssidOf ssids)

def withFreqs (msg : Msg) (lib : Libnl) (scan : WifiScan) : Msg :=
  match scan.freqs with
  | none => msg
  | some freqs => msg.withNest lib .scanFrequencies scan.numFreqs.toNat (freqOf freqs)

end Msg

/-- Every network that is asked for is the first one. -/
def SameSsids (scan : WifiScan) : Prop :=
  ∀ ssids ∈ scan.ssids, ∀ ssid ∈ ssids.take scan.numSsids.toNat, ssids.head? = some ssid

structure ScanRoom (lib : Libnl) (msg : Msg) (scan : WifiScan) : Prop where
  ssids : ∀ ssids ∈ scan.ssids, NestRoom lib msg scan.numSsids.toNat (ssidOf ssids)
  freqs : ∀ freqs ∈ scan.freqs, NestRoom lib (msg.withSsids lib scan) scan.numFreqs.toNat (freqOf freqs)
  extraIes : ∀ data ∈ scan.extraIes, lib.fits ((msg.withSsids lib scan).withFreqs lib scan) data.length
  bssid : ∀ mac ∈ scan.bssid, lib.fits (((msg.withSsids lib scan).withFreqs lib scan).withBytes .ie scan.extraIes) mac.toList.length

/-- The message has the networks and frequencies of the scan in order, the other elements and the address. -/
structure CarriesScan (scan : WifiScan) (msg : Msg) : Prop where
  ssids : msg.items .scanSsids = ((scan.ssids.getD []).take scan.numSsids.toNat).map (fun ssid => .bytes ssid.val)
  freqs : msg.items .scanFrequencies = ((scan.freqs.getD []).take scan.numFreqs.toNat).map (fun freq => .u32 freq.toUInt32)
  extraIes : msg.items .ie = (scan.extraIes.map Value.bytes).toList
  bssid : msg.items .mac = (scan.bssid.map fun mac => Value.bytes mac.toList).toList

variable {scan : WifiScan}

theorem ssidOf_values {ssids : List ScanSsid} {n : Nat} (long : n ≤ ssids.length) :
    (range n).map (ssidOf ssids) = (ssids.take n).map (fun ssid => .bytes ssid.val) := by
  apply ext_getElem
  · simp [long]
  · intro i within within'
    have inside : i < ssids.length := by simp at within; omega
    simp [ssidOf, inside]

theorem freqOf_values {freqs : List Int32} {n : Nat} (long : n ≤ freqs.length) :
    (range n).map (freqOf freqs) = (freqs.take n).map (fun freq => .u32 freq.toUInt32) := by
  apply ext_getElem
  · simp [long]
  · intro i within within'
    have inside : i < freqs.length := by simp at within; omega
    simp [freqOf, inside]

variable {v' : Nat → Value}

theorem numbered_congr (same : ∀ i < count, v i = v' i) {k : Nat} (fewer : k ≤ count) : numbered v k = numbered v' k := by
  refine map_congr_left (fun i member => ?_)
  rw [same i (Nat.lt_of_lt_of_le (mem_range.mp member) fewer)]

theorem NestRoom.congr (same : ∀ i < count, v i = v' i) (room : NestRoom lib msg count v) : NestRoom lib msg count v' := by
  refine ⟨room.start, fun k less => ?_, ?_⟩
  · rw [← numbered_congr same (Nat.le_of_lt less), ← same k less]
    exact room.each k less
  · rw [← numbered_congr same (Nat.le_refl _)]
    exact room.keeps

theorem withNest_congr (same : ∀ i < count, v i = v' i) : msg.withNest lib type count v = msg.withNest lib type count v' := by
  rw [Msg.withNest, Msg.withNest, numbered_congr same (Nat.le_refl _)]

theorem first_iff {ssids : List ScanSsid} {n : Nat} (long : n ≤ ssids.length) :
    (∀ i < n, Value.bytes (ssids.head?.elim [] (·.val)) = ssidOf ssids i) ↔ ∀ ssid ∈ ssids.take n, ssids.head? = some ssid := by
  cases ssids with
  | nil =>
    have none : n = 0 := by simpa using long
    simp [none]
  | cons first ssids =>
    simp only [head?_cons, elim_some, ssidOf, Value.bytes.injEq, some.injEq]
    constructor
    · intro same ssid member
      obtain ⟨i, within, rfl⟩ := mem_iff_getElem.mp member
      rw [length_take] at within
      have is := same i (by omega)
      rw [getElem?_eq_getElem (by omega)] at is
      rw [getElem_take]
      exact Subtype.ext is
    · intro same i less
      have inside : i < (first :: ssids).length := by omega
      rw [getElem?_eq_getElem inside, elim_some]
      have is := same (first :: ssids)[i] (mem_take_iff_getElem.mpr ⟨i, by omega, rfl⟩)
      exact congrArg Subtype.val is

/-- The networks are put as they are asked for when they are all the first one and there is room. -/
theorem putSsids_eq (same : SameSsids scan) (room : ∀ ssids ∈ scan.ssids, NestRoom lib msg scan.numSsids.toNat (ssidOf ssids)) :
    lib.putSsids scan msg = .ok (msg.withSsids lib scan) := by
  rw [putSsids, Msg.withSsids]
  cases given : scan.ssids with
  | none => rfl
  | some ssids =>
    have first := (first_iff (scan.ssids_long ssids given)).mpr (same ssids given)
    have const : NestRoom lib msg scan.numSsids.toNat (fun _ => .bytes (ssids.head?.elim [] (·.val))) :=
      (room ssids given).congr (fun i less => (first i less).symm)
    rcases putEach_cases lib msg .scanSsids scan.numSsids.toNat (fun _ => .bytes (ssids.head?.elim [] (·.val))) with
      ⟨-, is⟩ | ⟨none, -⟩
    · simp only [is]
      rw [withNest_congr first]
    · exact absurd const none

theorem putSsids_iff (fresh : msg.items .scanSsids = []) {msg' : Msg} (put : lib.putSsids scan msg = .ok msg') :
    msg'.items .scanSsids = ((scan.ssids.getD []).take scan.numSsids.toNat).map (fun ssid => .bytes ssid.val) ↔
      SameSsids scan ∧ (∀ ssids ∈ scan.ssids, NestRoom lib msg scan.numSsids.toNat (ssidOf ssids)) := by
  constructor
  · intro is
    rw [putSsids] at put
    cases given : scan.ssids with
    | none => simp [SameSsids, given]
    | some ssids =>
      rw [given] at put is
      have long := scan.ssids_long ssids given
      have room : NestRoom lib msg scan.numSsids.toNat (fun _ => .bytes (ssids.head?.elim [] (·.val))) := by
        refine (putEach_iff fresh).mp ⟨msg', put, ?_⟩
        rw [is, getD_some, length_map, length_take, Nat.min_eq_left long]
      have first : ∀ i < scan.numSsids.toNat, Value.bytes (ssids.head?.elim [] (·.val)) = ssidOf ssids i := by
        rcases putEach_cases lib msg .scanSsids scan.numSsids.toNat (fun _ => .bytes (ssids.head?.elim [] (·.val))) with
          ⟨-, is'⟩ | ⟨none, -⟩
        · have both := is'.symm.trans put
          cases both
          rw [items_withNest msg room, fresh, nil_append, getD_some, ← ssidOf_values long] at is
          intro i less
          exact map_inj_left.mp is i (mem_range.mpr less)
        · exact absurd room none
      simp only [SameSsids, given, mem_def, some.injEq, forall_eq']
      exact ⟨(first_iff long).mp first, room.congr first⟩
  · rintro ⟨same, room⟩
    rw [putSsids_eq same room] at put
    cases put
    rw [Msg.withSsids]
    cases given : scan.ssids with
    | none => simp [fresh]
    | some ssids =>
      simp only
      rw [items_withNest msg (room ssids given), fresh, nil_append, ssidOf_values (scan.ssids_long ssids given), getD_some]

theorem putFreqs_eq (room : ∀ freqs ∈ scan.freqs, NestRoom lib msg scan.numFreqs.toNat (freqOf freqs)) :
    lib.putFreqs scan msg = .ok (msg.withFreqs lib scan) := by
  rw [putFreqs, Msg.withFreqs]
  cases given : scan.freqs with
  | none => rfl
  | some freqs =>
    rcases putEach_cases lib msg .scanFrequencies scan.numFreqs.toNat (freqOf freqs) with ⟨-, is⟩ | ⟨none, -⟩
    · exact is
    · exact absurd (room freqs given) none

theorem putFreqs_iff (fresh : msg.items .scanFrequencies = []) {msg' : Msg} (put : lib.putFreqs scan msg = .ok msg') :
    msg'.items .scanFrequencies = ((scan.freqs.getD []).take scan.numFreqs.toNat).map (fun freq => .u32 freq.toUInt32) ↔
      ∀ freqs ∈ scan.freqs, NestRoom lib msg scan.numFreqs.toNat (freqOf freqs) := by
  rw [putFreqs] at put
  cases given : scan.freqs with
  | none =>
    rw [given] at put
    cases put
    simp [fresh]
  | some freqs =>
    rw [given] at put
    have long := scan.freqs_long freqs given
    simp only [mem_def, some.injEq, forall_eq', getD_some]
    constructor
    · intro is
      refine (putEach_iff fresh).mp ⟨msg', put, ?_⟩
      rw [is, length_map, length_take, Nat.min_eq_left long]
    · intro room
      rcases putEach_cases lib msg .scanFrequencies scan.numFreqs.toNat (freqOf freqs) with ⟨-, is⟩ | ⟨none, -⟩
      · have same : msg' = msg.withNest lib .scanFrequencies scan.numFreqs.toNat (freqOf freqs) := by
          have both := is.symm.trans put
          cases both
          rfl
        rw [same, items_withNest msg room, fresh, nil_append, freqOf_values long]
      · exact absurd room none

theorem putBytes_iff (fresh : msg.items type = []) (given : Option (List UInt8)) :
    (lib.putBytes type given msg).items type = (given.map Value.bytes).toList ↔ ∀ data ∈ given, lib.fits msg data.length := by
  cases given with
  | none => simp [putBytes, fresh]
  | some data =>
    rw [putBytes, nlaPut]
    simp only [mem_def, some.injEq, forall_eq']
    by_cases fits : lib.fits msg (Value.bytes data).length
    · rw [if_pos fits, items_append msg _ msg.nest]
      simpa [fresh, Attr.items, Value.length] using fits
    · rw [if_neg fits]
      simpa [fresh, Value.length] using fits

theorem putBytes_eq {given : Option (List UInt8)} (fits : ∀ data ∈ given, lib.fits msg data.length) :
    lib.putBytes type given msg = msg.withBytes type given := by
  cases given with
  | none => simp [putBytes, Msg.withBytes]
  | some data => simp [putBytes, nlaPut, Value.length, fits data rfl, Msg.withBytes]

theorem putBytes_other (given : Option (List UInt8)) (apart : other ≠ type) :
    (lib.putBytes type given msg).items other = msg.items other := by
  cases given with
  | none => rfl
  | some data =>
    simp only [putBytes, nlaPut]
    split
    · rw [items_append msg _ msg.nest]
      simp [Attr.items, Ne.symm apart]
    · rfl

structure Fresh (msg : Msg) : Prop where
  ssids : msg.items .scanSsids = []
  freqs : msg.items .scanFrequencies = []
  ie : msg.items .ie = []
  mac : msg.items .mac = []

/-- The whole scan is put exactly when it asks for one network at most and there is room. -/
theorem cmdScanPutMsg_iff (fresh : Fresh msg) :
    (∃ msg', lib.cmdScanPutMsg msg scan = .ok msg' ∧ CarriesScan scan msg') ↔ SameSsids scan ∧ ScanRoom lib msg scan := by
  have ssidsOther : ∀ {msg msg' : Msg} {other : AttrType}, lib.putSsids scan msg = .ok msg' → other ≠ .scanSsids →
      msg'.items other = msg.items other := by
    intro msg msg' other put apart
    rw [putSsids] at put
    cases given : scan.ssids with
    | none =>
      rw [given] at put
      cases put
      rfl
    | some ssids =>
      rw [given] at put
      exact putEach_other put apart
  have freqsOther : ∀ {msg msg' : Msg} {other : AttrType}, lib.putFreqs scan msg = .ok msg' → other ≠ .scanFrequencies →
      msg'.items other = msg.items other := by
    intro msg msg' other put apart
    rw [putFreqs] at put
    cases given : scan.freqs with
    | none =>
      rw [given] at put
      cases put
      rfl
    | some freqs =>
      rw [given] at put
      exact putEach_other put apart
  have ok : ∀ {e : Except Int32 Msg} {f : Msg → Except Int32 Msg} {m : Msg}, (e >>= f) = .ok m → ∃ m', e = .ok m' ∧ f m' = .ok m := by
    intro e f m is
    cases e with
    | error code => cases is
    | ok m' => exact ⟨m', rfl, is⟩
  constructor
  · rintro ⟨msg', put, carries⟩
    obtain ⟨m1, put1, put⟩ := ok put
    obtain ⟨m2, put2, put⟩ := ok put
    cases put
    have unseen : ∀ other, other ≠ .mac → other ≠ .ie →
        (lib.putBytes .mac (scan.bssid.map (·.toList)) (lib.putBytes .ie scan.extraIes m2)).items other = m2.items other :=
      fun other apart apart' => (putBytes_other _ apart).trans (putBytes_other _ apart')
    have ssids := carries.ssids
    rw [unseen _ (by decide) (by decide), freqsOther put2 (by decide), putSsids_iff fresh.ssids put1] at ssids
    obtain ⟨same, room1⟩ := ssids
    have is1 := (putSsids_eq same room1).symm.trans put1
    cases is1
    have freqs := carries.freqs
    rw [unseen _ (by decide) (by decide), putFreqs_iff ((ssidsOther put1 (by decide)).trans fresh.freqs) put2] at freqs
    have is2 := (putFreqs_eq freqs).symm.trans put2
    cases is2
    have noIe := ((freqsOther put2 (by decide)).trans (ssidsOther put1 (by decide))).trans fresh.ie
    have noMac := ((freqsOther put2 (by decide)).trans (ssidsOther put1 (by decide))).trans fresh.mac
    have ies := carries.extraIes
    rw [putBytes_other _ (by decide), putBytes_iff noIe] at ies
    have bssid := carries.bssid
    rw [show (scan.bssid.map fun mac => Value.bytes mac.toList) = (scan.bssid.map (·.toList)).map Value.bytes by
      simp [Function.comp_def], putBytes_iff ((putBytes_other _ (by decide)).trans noMac), putBytes_eq ies] at bssid
    refine ⟨same, room1, freqs, ies, fun mac given => bssid mac.toList ?_⟩
    rw [given]
    rfl
  · rintro ⟨same, room⟩
    have put1 := putSsids_eq same room.ssids
    have put2 := putFreqs_eq room.freqs
    have ssids := (putSsids_iff fresh.ssids put1).mpr ⟨same, room.ssids⟩
    have freqs := (putFreqs_iff ((ssidsOther put1 (by decide)).trans fresh.freqs) put2).mpr room.freqs
    have noIe := ((freqsOther put2 (by decide)).trans (ssidsOther put1 (by decide))).trans fresh.ie
    have noMac := ((freqsOther put2 (by decide)).trans (ssidsOther put1 (by decide))).trans fresh.mac
    refine ⟨lib.putBytes .mac (scan.bssid.map (·.toList))
      (lib.putBytes .ie scan.extraIes ((msg.withSsids lib scan).withFreqs lib scan)), ?_, ?_, ?_, ?_, ?_⟩
    · rw [cmdScanPutMsg, put1]
      change (lib.putFreqs scan (msg.withSsids lib scan) >>= _) = _
      rw [put2]
      rfl
    · rw [putBytes_other _ (by decide), putBytes_other _ (by decide), freqsOther put2 (by decide)]
      exact ssids
    · rw [putBytes_other _ (by decide), putBytes_other _ (by decide)]
      exact freqs
    · rw [putBytes_other _ (by decide)]
      exact (putBytes_iff noIe _).mpr room.extraIes
    · rw [show (scan.bssid.map fun mac => Value.bytes mac.toList) = (scan.bssid.map (·.toList)).map Value.bytes by
        simp [Function.comp_def], putBytes_iff ((putBytes_other _ (by decide)).trans noMac), putBytes_eq room.extraIes]
      intro data given
      obtain ⟨mac, is, rfl⟩ := map_eq_some_iff.mp given
      exact room.bssid mac is

def SIGNALLEVELCONFFICIENT : UInt32 := 100
def SCAN_QUAL_INVALID : Int32 := 1
def SCAN_LEVEL_INVALID : Int32 := 4
def SCAN_LEVEL_DBM : Int32 := 8

/-- `NL80211_BSS_*`: what `nla_parse_nested` finds of a network. -/
structure BssAttrs where
  informationElements : Option (List UInt8)
  beaconIes : Option (List UInt8)
  bssid : Option (List UInt8)
  frequency : Option UInt32
  beaconInterval : Option UInt16
  capability : Option UInt16
  signalMbm : Option UInt32
  signalUnspec : Option UInt8
  seenMsAgo : Option UInt32
  deriving DecidableEq

/-- What a pointer shows is none for a null pointer. -/
@[ext]
structure WifiScanResult where
  flags : Int32
  bssid : Option (List UInt8)
  caps : Int16
  freq : Int32
  beaconInt : Int16
  qual : Int32
  beaconIeLen : UInt32
  level : Int32
  age : UInt32
  ieLen : UInt32
  variable_ : Option (List UInt8)
  ie : Option (List UInt8)
  beaconIe : Option (List UInt8)
  deriving DecidableEq

/-- The information elements, the beacon's and the address. -/
def putElements (attr : BssAttrs) (r : WifiScanResult) : WifiScanResult :=
  let r := match attr.informationElements with
    | some ie => { r with ie := some ie, ieLen := UInt32.ofNat ie.length }
    | none => r
  let r := match attr.beaconIes with
    | some ie => { r with beaconIe := some ie, beaconIeLen := UInt32.ofNat ie.length }
    | none => r
  match attr.bssid with
  | some bssid => { r with bssid := some bssid }
  | none => r

def putNumbers (attr : BssAttrs) (r : WifiScanResult) : WifiScanResult :=
  let r := match attr.frequency with
    | some freq => { r with freq := freq.toInt32 }
    | none => r
  let r := match attr.beaconInterval with
    | some beaconInt => { r with beaconInt := beaconInt.toInt16 }
    | none => r
  match attr.capability with
  | some caps => { r with caps := caps.toInt16 }
  | none => r

/-- The signal, in one of two units or none. -/
def putSignal (attr : BssAttrs) (r : WifiScanResult) : WifiScanResult :=
  match attr.signalMbm, attr.signalUnspec with
  | some mbm, _ => { r with level := (mbm / SIGNALLEVELCONFFICIENT).toInt32, flags := r.flags ||| (SCAN_LEVEL_DBM ||| SCAN_QUAL_INVALID) }
  | none, some unspec => { r with level := unspec.toUInt32.toInt32, flags := r.flags ||| SCAN_QUAL_INVALID }
  | none, none => { r with flags := r.flags ||| (SCAN_LEVEL_INVALID ||| SCAN_QUAL_INVALID) }

/-- The fields whose attributes are there are written. -/
def doGetScanResult (attr : BssAttrs) (scanResult : WifiScanResult) : WifiScanResult :=
  let r := putSignal attr (putNumbers attr (putElements attr scanResult))
  match attr.seenMsAgo with
  | some age => { r with age := age }
  | none => r

structure BssMsg where
  bss : Option (Except Int BssAttrs)

/-- What is reported, on memory that the caller's frame left. -/
def wifiGetScanResultHandler {ν : Type} (ifName : Option ν) (scanResult : WifiScanResult) (msg : BssMsg) : Option WifiScanResult × Int :=
  match ifName, msg.bss with
  | some _, some (.ok bssAttr) => (some (doGetScanResult bssAttr scanResult), NL_SKIP)
  | _, _ => (none, NL_SKIP)

/-- The result that a message stands for. -/
def resultOf (attr : BssAttrs) : WifiScanResult where
  flags := match attr.signalMbm, attr.signalUnspec with
    | some _, _ => SCAN_LEVEL_DBM ||| SCAN_QUAL_INVALID
    | none, some _ => SCAN_QUAL_INVALID
    | none, none => SCAN_LEVEL_INVALID ||| SCAN_QUAL_INVALID
  bssid := attr.bssid
  caps := (attr.capability.map (·.toInt16)).getD 0
  freq := (attr.frequency.map (·.toInt32)).getD 0
  beaconInt := (attr.beaconInterval.map (·.toInt16)).getD 0
  qual := 0
  beaconIeLen := (attr.beaconIes.map fun ie => UInt32.ofNat ie.length).getD 0
  level := match attr.signalMbm, attr.signalUnspec with
    | some mbm, _ => mbm.toInt32 / 100
    | none, some unspec => unspec.toUInt32.toInt32
    | none, none => 0
  age := attr.seenMsAgo.getD 0
  ieLen := (attr.informationElements.map fun ie => UInt32.ofNat ie.length).getD 0
  variable_ := none
  ie := attr.informationElements
  beaconIe := attr.beaconIes

theorem toInt_toInt32 (v : UInt32) :
    v.toInt32.toInt = if v.toNat < 2147483648 then (v.toNat : Int) else v.toNat - 4294967296 := by
  have bound := v.toNat_lt
  have is : v.toInt32.toInt = (v.toNat : Int).bmod 4294967296 := by
    rw [← UInt32.toNat_toBitVec]
    exact BitVec.toInt_eq_toNat_bmod _
  rw [is, Int.bmod_def, Int.emod_eq_of_lt (by omega) (by omega)]
  split
  · rw [if_pos (by omega)]
  · rw [if_neg (by omega)]
    rfl

theorem div_signed (mbm : UInt32) : (mbm / SIGNALLEVELCONFFICIENT).toInt32 = mbm.toInt32 / 100 ↔ 0 ≤ mbm.toInt32 := by
  have bound := mbm.toNat_lt
  have quotient : (mbm / SIGNALLEVELCONFFICIENT).toInt32.toInt = mbm.toNat / 100 := by
    rw [toInt_toInt32, UInt32.toNat_div, show SIGNALLEVELCONFFICIENT.toNat = 100 from rfl, if_pos (by omega)]
    rfl
  have signed : (mbm.toInt32 / 100).toInt = mbm.toInt32.toInt.tdiv 100 := by
    rw [Int32.toInt_div_of_ne_right _ _ (by decide)]
    rfl
  rw [← Int32.toInt_inj, quotient, signed, Int32.le_iff_toInt_le, Int32.toInt_zero, toInt_toInt32]
  split
  · rw [Int.tdiv_eq_ediv_of_nonneg (by omega)]
    exact iff_of_true rfl (by omega)
  · have below : ((mbm.toNat : Int) - 4294967296).tdiv 100 ≤ 0 := by
      rw [show (mbm.toNat : Int) - 4294967296 = -(4294967296 - mbm.toNat) by omega, Int.neg_tdiv,
        Int.tdiv_eq_ediv_of_nonneg (by omega)]
      omega
    exact iff_of_false (by omega) (by omega)

/-- What the memory under a result has to hold already, and which signals are divided right. -/
structure Clean (attr : BssAttrs) (memory : WifiScanResult) : Prop where
  ie : attr.informationElements = none → memory.ie = none ∧ memory.ieLen = 0
  beaconIe : attr.beaconIes = none → memory.beaconIe = none ∧ memory.beaconIeLen = 0
  bssid : attr.bssid = none → memory.bssid = none
  freq : attr.frequency = none → memory.freq = 0
  beaconInt : attr.beaconInterval = none → memory.beaconInt = 0
  caps : attr.capability = none → memory.caps = 0
  age : attr.seenMsAgo = none → memory.age = 0
  unwritten : memory.qual = 0 ∧ memory.variable_ = none
  flags : memory.flags ||| (resultOf attr).flags = (resultOf attr).flags
  level : attr.signalMbm = none → attr.signalUnspec = none → memory.level = 0
  positive : ∀ mbm ∈ attr.signalMbm, 0 ≤ mbm.toInt32

theorem putElements_eq (attr : BssAttrs) (r : WifiScanResult) : putElements attr r =
    { r with
      ie := attr.informationElements <|> r.ie
      ieLen := (attr.informationElements.map fun ie => UInt32.ofNat ie.length).getD r.ieLen
      beaconIe := attr.beaconIes <|> r.beaconIe
      beaconIeLen := (attr.beaconIes.map fun ie => UInt32.ofNat ie.length).getD r.beaconIeLen
      bssid := attr.bssid <|> r.bssid } := by
  rw [putElements]
  cases attr.informationElements <;> cases attr.beaconIes <;> cases attr.bssid <;> rfl

theorem putNumbers_eq (attr : BssAttrs) (r : WifiScanResult) : putNumbers attr r =
    { r with
      freq := (attr.frequency.map (·.toInt32)).getD r.freq
      beaconInt := (attr.beaconInterval.map (·.toInt16)).getD r.beaconInt
      caps := (attr.capability.map (·.toInt16)).getD r.caps } := by
  rw [putNumbers]
  cases attr.frequency <;> cases attr.beaconInterval <;> cases attr.capability <;> rfl

theorem putSignal_eq (attr : BssAttrs) (r : WifiScanResult) : putSignal attr r =
    { r with
      flags := r.flags ||| (resultOf attr).flags
      level := (attr.signalMbm.map fun mbm => (mbm / SIGNALLEVELCONFFICIENT).toInt32).getD
        ((attr.signalUnspec.map (·.toUInt32.toInt32)).getD r.level) } := by
  rw [putSignal, resultOf]
  cases attr.signalMbm <;> cases attr.signalUnspec <;> rfl

theorem doGetScanResult_eq (attr : BssAttrs) (memory : WifiScanResult) : doGetScanResult attr memory =
    { flags := memory.flags ||| (resultOf attr).flags, bssid := attr.bssid <|> memory.bssid,
      caps := (attr.capability.map (·.toInt16)).getD memory.caps, freq := (attr.frequency.map (·.toInt32)).getD memory.freq,
      beaconInt := (attr.beaconInterval.map (·.toInt16)).getD memory.beaconInt, qual := memory.qual,
      beaconIeLen := (attr.beaconIes.map fun ie => UInt32.ofNat ie.length).getD memory.beaconIeLen,
      level := (attr.signalMbm.map fun mbm => (mbm / SIGNALLEVELCONFFICIENT).toInt32).getD
        ((attr.signalUnspec.map (·.toUInt32.toInt32)).getD memory.level),
      age := attr.seenMsAgo.getD memory.age,
      ieLen := (attr.informationElements.map fun ie => UInt32.ofNat ie.length).getD memory.ieLen,
      variable_ := memory.variable_, ie := attr.informationElements <|> memory.ie, beaconIe := attr.beaconIes <|> memory.beaconIe } := by
  rw [doGetScanResult, putElements_eq, putNumbers_eq, putSignal_eq]
  cases attr.seenMsAgo <;> rfl

/-- A level is that of the signal when the memory under it is zero and the signal is not negative, and only then. -/
theorem level_iff (attr : BssAttrs) (memory : Int32) : (attr.signalMbm.map fun mbm => (mbm / SIGNALLEVELCONFFICIENT).toInt32).getD
    ((attr.signalUnspec.map (·.toUInt32.toInt32)).getD memory) = (resultOf attr).level ↔
      (attr.signalMbm = none → attr.signalUnspec = none → memory = 0) ∧ ∀ mbm ∈ attr.signalMbm, 0 ≤ mbm.toInt32 := by
  rw [resultOf]
  cases attr.signalMbm with
  | some mbm => simpa using div_signed mbm
  | none => cases attr.signalUnspec <;> simp

theorem orElse_iff {α : Type} (given memory : Option α) : (given <|> memory) = given ↔ (given = none → memory = none) := by
  cases given <;> simp

theorem getD_iff {α β : Type} (given : Option α) (f : α → β) (memory zero : β) :
    (given.map f).getD memory = (given.map f).getD zero ↔ (given = none → memory = zero) := by
  cases given <;> simp

/-- The result is that of the message when the memory under it is clean and the signal is not negative, and only then. -/
theorem doGetScanResult_iff (attr : BssAttrs) (memory : WifiScanResult) :
    doGetScanResult attr memory = resultOf attr ↔ Clean attr memory := by
  rw [doGetScanResult_eq, WifiScanResult.ext_iff]
  constructor
  · rintro ⟨flags, bssid, caps, freq, beaconInt, qual, beaconIeLen, level, age, ieLen, unused, ie, beaconIe⟩
    have level' := (level_iff attr memory.level).mp level
    refine ⟨fun none => ⟨(orElse_iff _ _).mp ie none, (getD_iff _ _ _ _).mp ieLen none⟩,
      fun none => ⟨(orElse_iff _ _).mp beaconIe none, (getD_iff _ _ _ _).mp beaconIeLen none⟩, (orElse_iff _ _).mp bssid,
      (getD_iff _ _ _ _).mp freq, (getD_iff _ _ _ _).mp beaconInt, (getD_iff _ _ _ _).mp caps, fun none => ?_, ⟨qual, unused⟩,
      flags, level'.1, level'.2⟩
    change attr.seenMsAgo.getD memory.age = attr.seenMsAgo.getD 0 at age
    simpa [none] using age
  · intro clean
    refine ⟨clean.flags, (orElse_iff _ _).mpr clean.bssid, (getD_iff _ _ _ _).mpr clean.caps, (getD_iff _ _ _ _).mpr clean.freq,
      (getD_iff _ _ _ _).mpr clean.beaconInt, clean.unwritten.1, (getD_iff _ _ _ _).mpr fun none => (clean.beaconIe none).2,
      (level_iff _ _).mpr ⟨clean.level, clean.positive⟩, ?_, (getD_iff _ _ _ _).mpr fun none => (clean.ie none).2,
      clean.unwritten.2, (orElse_iff _ _).mpr fun none => (clean.ie none).1, (orElse_iff _ _).mpr fun none => (clean.beaconIe none).1⟩
    change attr.seenMsAgo.getD memory.age = attr.seenMsAgo.getD 0
    cases given : attr.seenMsAgo with
    | some age => rfl
    | none => exact clean.age given

def OUI_QCA : UInt32 := 0x001374
def NL80211_SCAN_DONE : UInt32 := 107
def SCAN_STATUS_MAX : UInt32 := 2

/-- `WLAN_ATTR_SCAN_*`: whether there is a cookie, and the status if there is one. -/
structure ScanDone where
  cookie : Bool
  status : Option UInt8
  deriving DecidableEq

structure VendorEvent where
  vendorId : Option UInt32
  vendorSubcmd : Option UInt32
  vendorData : Option (Except Int ScanDone)

/-- Nothing is reported or a status, unless an attribute is read that is not there. -/
def qcaWifiEventScanDoneProcess (data : Except Int ScanDone) : Except Wrong (Option UInt32) :=
  match data with
  | .error _ => .ok none
  | .ok attr =>
    if attr.status.isSome ∨ ¬attr.cookie then .ok none
    else
      match attr.status with
      | none => .error .missing
      | some v => if SCAN_STATUS_MAX ≤ v.toUInt32 then .ok none else .ok (some v.toUInt32)

def wifiEventVendorProcess (attr : VendorEvent) : Except Wrong (Option UInt32) :=
  match attr.vendorId, attr.vendorSubcmd with
  | some vendorId, some subcmd =>
    if vendorId ≠ OUI_QCA ∨ subcmd ≠ NL80211_SCAN_DONE then .ok none
    else
      match attr.vendorData with
      | none => .ok none
      | some data => qcaWifiEventScanDoneProcess data
  | _, _ => .ok none

def scanDone (data : Except Int ScanDone) : VendorEvent := ⟨some OUI_QCA, some NL80211_SCAN_DONE, some data⟩

/-- A status that is in order is reported, and nothing is read or reported without one. -/
structure ReportsDone (data : Except Int ScanDone) : Prop where
  reported : ∀ v, data = .ok ⟨true, some v⟩ → v.toUInt32 < SCAN_STATUS_MAX →
    wifiEventVendorProcess (scanDone data) = .ok (some v.toUInt32)
  ignored : ∀ attr, data = .ok attr → attr.status = none → wifiEventVendorProcess (scanDone data) = .ok none

theorem reportsDone_iff (data : Except Int ScanDone) :
    ReportsDone data ↔ ∀ attr, data = .ok attr → attr.cookie → ∃ v ∈ attr.status, SCAN_STATUS_MAX ≤ v.toUInt32 := by
  have is : ∀ attr, wifiEventVendorProcess (scanDone (.ok attr)) =
      if attr.cookie ∧ attr.status = none then .error .missing else .ok none := by
    intro attr
    change qcaWifiEventScanDoneProcess (.ok attr) = _
    obtain ⟨cookie, status⟩ := attr
    cases cookie <;> cases status <;> rfl
  constructor
  · rintro ⟨reported, ignored⟩ attr rfl cookie
    cases given : attr.status with
    | none =>
      have read := ignored attr rfl given
      rw [is, if_pos ⟨cookie, given⟩] at read
      cases read
    | some v =>
      refine ⟨v, rfl, UInt32.not_lt.mp fun below => ?_⟩
      have told := reported v (by rw [← given, ← cookie]) below
      rw [is, if_neg (by simp [given])] at told
      cases told
  · intro status
    constructor
    · rintro v rfl below
      obtain ⟨v', given, above⟩ := status _ rfl rfl
      cases given
      exact absurd below (UInt32.not_lt.mpr above)
    · rintro attr rfl without
      rw [is, if_neg]
      rintro ⟨cookie, -⟩
      obtain ⟨v, given, -⟩ := status attr rfl cookie
      rw [without] at given
      cases given

/-- The message of `WifiCmdScan` before the scan is put into it. -/
def triggerScanMsg (lib : Libnl) (familyId : Int32) (ifaceId : UInt32) : Msg :=
  lib.nlaPut (genlmsgPut familyId false .triggerScan) .ifindex (.u32 ifaceId)

theorem wifiCmdScanMsg_eq {ν : Type} (sys : System ν) (ifName : ν) (scan : WifiScan) (found : sys.ifNametoindex ifName ≠ 0)
    (memory : sys.nlmsgAlloc) : wifiCmdScanMsg sys ifName scan =
      sys.lib.cmdScanPutMsg (triggerScanMsg sys.lib sys.familyId (sys.ifNametoindex ifName)) scan := by
  rw [wifiCmdScanMsg]
  simp [found, memory, triggerScanMsg]

theorem triggerScanMsg_fresh (lib : Libnl) (familyId : Int32) (ifaceId : UInt32) : Fresh (triggerScanMsg lib familyId ifaceId) := by
  have others : ∀ type ≠ AttrType.ifindex, (triggerScanMsg lib familyId ifaceId).items type = [] := by
    intro type apart
    rw [triggerScanMsg, nlaPut]
    split
    · simp [Msg.items, genlmsgPut, Attr.items, Ne.symm apart]
    · rfl
  exact ⟨others _ (by decide), others _ (by decide), others _ (by decide), others _ (by decide)⟩

/-- A request is right when it asks for one network at most and all of it fits; a result, when the memory under it is clean and
    the signal is not negative; and an event, when it has no cookie or a status that is not in order. -/
theorem scan_right {ν : Type} (sys : System ν) (ifName : ν) (scan : WifiScan) (attr : BssAttrs) (memory : WifiScanResult)
    (data : Except Int ScanDone) :
    ((sys.ifNametoindex ifName ≠ 0 → sys.nlmsgAlloc → ∃ msg, wifiCmdScanMsg sys ifName scan = .ok msg ∧ CarriesScan scan msg) ↔
      (sys.ifNametoindex ifName ≠ 0 → sys.nlmsgAlloc →
        SameSsids scan ∧ ScanRoom sys.lib (triggerScanMsg sys.lib sys.familyId (sys.ifNametoindex ifName)) scan)) ∧
    (wifiGetScanResultHandler (some ifName) memory ⟨some (.ok attr)⟩ = (some (resultOf attr), NL_SKIP) ↔ Clean attr memory) ∧
    (ReportsDone data ↔ ∀ attr, data = .ok attr → attr.cookie → ∃ v ∈ attr.status, SCAN_STATUS_MAX ≤ v.toUInt32) := by
  refine ⟨?_, ?_, reportsDone_iff data⟩
  · refine forall_congr' fun found => forall_congr' fun memory => ?_
    rw [wifiCmdScanMsg_eq sys ifName scan found memory]
    exact cmdScanPutMsg_iff (triggerScanMsg_fresh _ _ _)
  · rw [← doGetScanResult_iff]
    simp [wifiGetScanResultHandler]

def twoSsids : WifiScan := ⟨some [⟨[65], by decide⟩, ⟨[66], by decide⟩], none, none, none, 2, 0, by decide, by decide⟩

def dirty : WifiScanResult := ⟨0, some [1], 0, 0, 0, 7, 0, 0, 0, 0, none, none, none⟩

def clean : WifiScanResult := ⟨0, none, 0, 0, 0, 0, 0, 0, 0, 0, none, none, none⟩

def noAttrs : BssAttrs := ⟨none, none, none, none, none, none, none, none, none⟩

/-- The second network is not asked for; −50 dBm in mBm is 42949622, and `qual` and the address are those of the frame; a scan that
    is done in order is not reported, and one without a status is read. -/
theorem scan_wrong :
    (¬∃ msg, wifiCmdScanMsg roomy () twoSsids = .ok msg ∧ CarriesScan twoSsids msg) ∧
    (wifiGetScanResultHandler (some ()) clean ⟨some (.ok { noAttrs with signalMbm := some 4294962296 })⟩).1.map (·.level) =
      some 42949622 ∧
    (resultOf { noAttrs with signalMbm := some 4294962296 }).level = -50 ∧
    wifiGetScanResultHandler (some ()) dirty ⟨some (.ok noAttrs)⟩ ≠ wifiGetScanResultHandler (some ()) clean ⟨some (.ok noAttrs)⟩ ∧
    wifiEventVendorProcess (scanDone (.ok ⟨true, some 0⟩)) = .ok none ∧
    wifiEventVendorProcess (scanDone (.ok ⟨true, none⟩)) = .error .missing := by
  refine ⟨?_, by decide, by decide, by decide, rfl, rfl⟩
  rw [wifiCmdScanMsg_eq roomy () twoSsids (by decide) rfl, cmdScanPutMsg_iff (triggerScanMsg_fresh _ _ _)]
  rintro ⟨same, -⟩
  exact absurd (same _ rfl ⟨[66], by decide⟩ (by decide)) (by decide)

end Peripheral.Netlink
