import Mathlib.Algebra.Order.Ring.Int
import Mathlib.Algebra.Ring.Divisibility.Basic
import Mathlib.Data.List.Basic

/-!
The schedule of the thermal service, from `thermal_zone_manager.cpp` and `thermal_hdf_timer.cpp`:
the intervals of the sensor groups, the timer for their greatest common divisor, and the groups that
are reported when it expires.
-/
namespace Peripheral.Thermal
open List

def MS_PER_SECOND : Int := 1000

structure ReportedThermalData where
  type : String
  tempPath : String

structure SensorInfoConfig where
  groupName : String
  interval : Int
  multiple : Int
  thermalDataList : List ReportedThermalData

def SensorInfoConfig.setMultiple (sensor : SensorInfoConfig) (maxCd : Int) : SensorInfoConfig :=
  { sensor with multiple := sensor.interval.tdiv maxCd }

structure ThermalZoneInfo where
  type : String
  temp : Int

structure ThermalZoneManager where
  sensorTypeMap : List SensorInfoConfig
  maxCd : Int

def getMaxCommonDivisor (a b : Int) : Int :=
  if b = 0 then 0 else if a.tmod b = 0 then b else getMaxCommonDivisor b (a.tmod b)
termination_by b.natAbs
decreasing_by
  rename_i nonzero _
  rw [Int.natAbs_tmod]
  exact Nat.mod_lt _ (Int.natAbs_pos.mpr nonzero)

def getIntervalCommonDivisor : (intervalList : List Int) → Int
  | [] => 0
  | first :: rest => rest.foldl getMaxCommonDivisor first

namespace ThermalZoneManager

variable (mgr : ThermalZoneManager)

def calculateMaxCd : ThermalZoneManager :=
  if mgr.sensorTypeMap = [] then mgr
  else { mgr with maxCd := getIntervalCommonDivisor (mgr.sensorTypeMap.map (·.interval)) }

def setMultiples : ThermalZoneManager :=
  if mgr.maxCd = 0 then mgr
  else { mgr with sensorTypeMap := mgr.sensorTypeMap.map (·.setMultiple mgr.maxCd) }

end ThermalZoneManager

def reportGroups (reportTime : Int) : List SensorInfoConfig → List SensorInfoConfig × List Int
  | [] => ([], [])
  | sensor :: rest =>
    if sensor.multiple = 0 then ([], [0])
    else
      let (reported, multipleList) := reportGroups reportTime rest
      (if reportTime.tmod sensor.multiple = 0 then sensor :: reported else reported, sensor.multiple :: multipleList)

/-- What is read for a group. A file that cannot be read is left out. -/
def SensorInfoConfig.report (sensor : SensorInfoConfig) (temp : String → Option Int) : List ThermalZoneInfo :=
  sensor.thermalDataList.filterMap fun data => (temp data.tempPath).map fun value => ⟨data.type, value⟩

structure Report where
  groups : List SensorInfoConfig
  info : List ThermalZoneInfo

structure Timespec where
  tv_sec : Int
  tv_nsec : Int

def Timespec.nanoseconds (time : Timespec) : Int := time.tv_sec * 1000000000 + time.tv_nsec

structure Itimerspec where
  it_interval : Timespec
  it_value : Timespec

structure ThermalHdfTimer where
  timerInterval : Int
  itval : Itimerspec
  reportTime : Int
  multipleList : List Int

namespace ThermalHdfTimer

variable (timer : ThermalHdfTimer)

def setTimerInterval (interval : Int) : ThermalHdfTimer :=
  let seconds := (if interval < 0 then 0 else interval).tdiv MS_PER_SECOND
  { timer with timerInterval := interval, itval := ⟨⟨seconds, 0⟩, ⟨seconds, 0⟩⟩ }

def resetCount : ThermalHdfTimer :=
  match timer.multipleList with
  | [] => timer
  | first :: rest => if timer.reportTime = rest.foldl max first then { timer with reportTime := 0 } else timer

/-- What is reported at an expiration of the timer, and the timer after it. -/
def timerProviderCallback (mgr : ThermalZoneManager) (temp : String → Option Int) : Report × ThermalHdfTimer :=
  let reportTime := timer.reportTime + 1
  match mgr.sensorTypeMap with
  | [] => (⟨[], []⟩, { timer with reportTime }.resetCount)
  | groups =>
    let (reported, multipleList) := reportGroups reportTime groups
    (⟨reported, reported.flatMap (·.report temp)⟩, { timer with reportTime, multipleList }.resetCount)

end ThermalHdfTimer

def configured (mgr : ThermalZoneManager) : ThermalZoneManager := mgr.calculateMaxCd.setMultiples

def armed (mgr : ThermalZoneManager) (timer : ThermalHdfTimer) : ThermalHdfTimer :=
  { timer with reportTime := 0, multipleList := [] }.setTimerInterval (configured mgr).maxCd

def expired (mgr : ThermalZoneManager) (timer : ThermalHdfTimer) (temp : Nat → String → Option Int) : Nat → ThermalHdfTimer
  | 0 => armed mgr timer
  | n + 1 => ((expired mgr timer temp n).timerProviderCallback (configured mgr) (temp (n + 1))).2

def reported (mgr : ThermalZoneManager) (timer : ThermalHdfTimer) (temp : Nat → String → Option Int) (n : Nat) : Report :=
  ((expired mgr timer temp n).timerProviderCallback (configured mgr) (temp (n + 1))).1

def ThermalZoneManager.due (mgr : ThermalZoneManager) (n : Nat) : List SensorInfoConfig :=
  mgr.sensorTypeMap.filter fun sensor => sensor.interval ∣ n * mgr.maxCd

/-- What is promised of a configuration. -/
structure Scheduled (mgr : ThermalZoneManager) (timer : ThermalHdfTimer) : Prop where
  divides : ∀ sensor ∈ mgr.sensorTypeMap, (configured mgr).maxCd ∣ sensor.interval
  greatest : ∀ d, (∀ sensor ∈ mgr.sensorTypeMap, d ∣ sensor.interval) → d ≤ (configured mgr).maxCd
  within : ∀ sensor ∈ mgr.sensorTypeMap, (configured mgr).maxCd ≤ sensor.interval
  /-- The first expiration and the next ones come after this time. -/
  first : (armed mgr timer).itval.it_value.nanoseconds = (configured mgr).maxCd * 1000000
  period : (armed mgr timer).itval.it_interval.nanoseconds = (configured mgr).maxCd * 1000000
  reports : ∀ temp n, reported mgr timer temp n =
    ⟨(configured mgr).due (n + 1), ((configured mgr).due (n + 1)).flatMap (·.report (temp (n + 1)))⟩

/-- Whole seconds, and an interval that is a multiple of all others. -/
def ThermalZoneManager.Harmonic (mgr : ThermalZoneManager) : Prop :=
  (∀ sensor ∈ mgr.sensorTypeMap, MS_PER_SECOND ∣ sensor.interval) ∧
    ∃ longest ∈ mgr.sensorTypeMap, ∀ sensor ∈ mgr.sensorTypeMap, sensor.interval ∣ longest.interval

/-! ### The greatest common divisor -/

theorem getMaxCommonDivisor_spec (a b : Int) (some_a : 0 ≤ a) (some_b : 0 < b) :
    0 < getMaxCommonDivisor a b ∧ ∀ d, d ∣ getMaxCommonDivisor a b ↔ d ∣ a ∧ d ∣ b := by
  fun_induction getMaxCommonDivisor a b with
  | case1 a => exact absurd some_b (lt_irrefl 0)
  | case2 a b nonzero rest =>
    have divides : b ∣ a := Int.dvd_of_tmod_eq_zero rest
    exact ⟨some_b, fun d => ⟨fun its => ⟨its.trans divides, its⟩, And.right⟩⟩
  | case3 a b nonzero rest ih =>
    have positive : 0 < a.tmod b := lt_of_le_of_ne (Int.tmod_nonneg b some_a) (Ne.symm rest)
    obtain ⟨some_d, divisors⟩ := ih some_b.le positive
    refine ⟨some_d, fun d => (divisors d).trans ?_⟩
    have split : a.tmod b = a - b * a.tdiv b := Int.tmod_def a b
    constructor
    · rintro ⟨left, right⟩
      rw [split] at right
      exact ⟨(dvd_sub_left (left.mul_right _)).mp right, left⟩
    · rintro ⟨left, right⟩
      rw [split]
      exact ⟨right, dvd_sub left (right.mul_right _)⟩

theorem foldl_getMaxCommonDivisor (first : Int) (rest : List Int) (some_first : 0 < first) (some_rest : ∀ x ∈ rest, 0 < x) :
    0 < rest.foldl getMaxCommonDivisor first ∧ ∀ d, d ∣ rest.foldl getMaxCommonDivisor first ↔ d ∣ first ∧
      ∀ x ∈ rest, d ∣ x := by
  induction rest generalizing first with
  | nil => exact ⟨some_first, fun d => ⟨fun its => ⟨its, nofun⟩, And.left⟩⟩
  | cons second rest ih =>
    obtain ⟨positive, divisors⟩ :=
      getMaxCommonDivisor_spec first second some_first.le (some_rest second (mem_cons_self ..))
    obtain ⟨some_d, all⟩ := ih _ positive fun x listed => some_rest x (mem_cons_of_mem _ listed)
    refine ⟨some_d, fun d => (all d).trans ?_⟩
    rw [divisors d, forall_mem_cons, and_assoc]

/-- What is known of a configuration with positive intervals. -/
structure Divided (mgr : ThermalZoneManager) : Prop where
  some : mgr.sensorTypeMap ≠ []
  positive : 0 < mgr.maxCd
  multiples : ∀ sensor ∈ mgr.sensorTypeMap, 0 < sensor.multiple ∧ sensor.multiple * mgr.maxCd = sensor.interval
  divisors : ∀ d, d ∣ mgr.maxCd ↔ ∀ sensor ∈ mgr.sensorTypeMap, d ∣ sensor.interval

variable {mgr : ThermalZoneManager} {timer : ThermalHdfTimer}

theorem configured_maxCd (some : mgr.sensorTypeMap ≠ []) (positive : ∀ sensor ∈ mgr.sensorTypeMap, 0 < sensor.interval) :
    0 < mgr.calculateMaxCd.maxCd ∧ ∀ d, d ∣ mgr.calculateMaxCd.maxCd ↔ ∀ sensor ∈ mgr.sensorTypeMap, d ∣ sensor.interval := by
  simp only [ThermalZoneManager.calculateMaxCd, if_neg some]
  cases groups : mgr.sensorTypeMap with
  | nil => exact absurd groups some
  | cons first rest =>
    rw [groups] at positive
    obtain ⟨head, tail⟩ := forall_mem_cons.mp positive
    obtain ⟨some_d, divisors⟩ :=
      foldl_getMaxCommonDivisor first.interval (rest.map (·.interval)) head (forall_mem_map.mpr tail)
    refine ⟨some_d, fun d => (divisors d).trans ?_⟩
    rw [forall_mem_cons, forall_mem_map]

theorem configured_groups (some : mgr.sensorTypeMap ≠ []) (positive : ∀ sensor ∈ mgr.sensorTypeMap, 0 < sensor.interval) :
    configured mgr = { mgr.calculateMaxCd with
      sensorTypeMap := mgr.sensorTypeMap.map (·.setMultiple mgr.calculateMaxCd.maxCd) } := by
  have nonzero := (configured_maxCd some positive).1.ne'
  simp only [configured, ThermalZoneManager.setMultiples, if_neg nonzero]
  simp only [ThermalZoneManager.calculateMaxCd, if_neg some]

theorem configured_divided (some : mgr.sensorTypeMap ≠ []) (positive : ∀ sensor ∈ mgr.sensorTypeMap, 0 < sensor.interval) :
    Divided (configured mgr) := by
  obtain ⟨some_d, divisors⟩ := configured_maxCd some positive
  rw [configured_groups some positive]
  refine ⟨by simpa using some, some_d, forall_mem_map.mpr fun sensor listed => ?_, fun d => (divisors d).trans ?_⟩
  · have whole : sensor.interval.tdiv mgr.calculateMaxCd.maxCd * mgr.calculateMaxCd.maxCd = sensor.interval :=
      Int.tdiv_mul_cancel ((divisors _).mp dvd_rfl sensor listed)
    have above : 0 < sensor.interval.tdiv mgr.calculateMaxCd.maxCd * mgr.calculateMaxCd.maxCd := by
      rw [whole]
      exact positive sensor listed
    exact ⟨pos_of_mul_pos_left above some_d.le, whole⟩
  · rw [forall_mem_map]
    rfl

theorem reportGroups_eq (reportTime : Int) (groups : List SensorInfoConfig)
    (positive : ∀ sensor ∈ groups, sensor.multiple ≠ 0) : reportGroups reportTime groups =
      (groups.filter fun sensor => sensor.multiple ∣ reportTime, groups.map (·.multiple)) := by
  induction groups with
  | nil => rfl
  | cons sensor rest ih =>
    obtain ⟨nonzero, others⟩ := forall_mem_cons.mp positive
    simp only [reportGroups, if_neg nonzero, ih others, map_cons, filter_cons, Int.dvd_iff_tmod_eq_zero, decide_eq_true_eq]

theorem foldl_max (first : Int) (rest : List Int) :
    rest.foldl max first ∈ first :: rest ∧ ∀ x ∈ first :: rest, x ≤ rest.foldl max first := by
  induction rest generalizing first with
  | nil => exact ⟨mem_singleton_self _, fun x listed => (mem_singleton.mp listed).le⟩
  | cons second rest ih =>
    obtain ⟨listed, bound⟩ := ih (max first second)
    constructor
    · obtain its | later := mem_cons.mp listed
      · obtain same | same := max_choice first second
        · exact mem_cons.mpr (.inl (its.trans same))
        · exact mem_cons_of_mem _ (mem_cons.mpr (.inl (its.trans same)))
      · exact mem_cons_of_mem _ (mem_cons_of_mem _ later)
    · have above := bound _ (mem_cons_self ..)
      intro x within
      obtain rfl | rfl | later := mem_cons.mp within |>.imp_right mem_cons.mp
      · exact (le_max_left _ _).trans above
      · exact (le_max_right _ _).trans above
      · exact bound x (mem_cons_of_mem _ later)

/-- The largest multiple, which is the number of expirations that are counted. -/
structure Longest (mgr : ThermalZoneManager) (most : Int) : Prop where
  reached : ∃ sensor ∈ mgr.sensorTypeMap, sensor.multiple = most
  above : ∀ sensor ∈ mgr.sensorTypeMap, sensor.multiple ≤ most
  counts : ∀ first rest, mgr.sensorTypeMap.map (·.multiple) = first :: rest → rest.foldl max first = most

theorem Divided.longest (divided : Divided mgr) : ∃ most, Longest mgr most := by
  cases groups : mgr.sensorTypeMap with
  | nil => exact absurd groups divided.some
  | cons sensor rest =>
    obtain ⟨listed, bound⟩ := foldl_max sensor.multiple (rest.map (·.multiple))
    rw [← map_cons (f := fun sensor : SensorInfoConfig => sensor.multiple), ← groups] at listed bound
    refine ⟨(rest.map (·.multiple)).foldl max sensor.multiple, mem_map.mp listed, fun other within => ?_,
      fun first others same => ?_⟩
    · exact bound _ (mem_map_of_mem within)
    · rw [groups, map_cons] at same
      cases same
      rfl

variable {most : Int}

theorem Longest.positive (longest : Longest mgr most) (divided : Divided mgr) : 0 < most := by
  obtain ⟨sensor, listed, rfl⟩ := longest.reached
  exact (divided.multiples sensor listed).1

theorem Longest.callback (longest : Longest mgr most) (divided : Divided mgr) (temp : String → Option Int) :
    (timer.timerProviderCallback mgr temp).1.groups =
      mgr.sensorTypeMap.filter (fun sensor => sensor.multiple ∣ timer.reportTime + 1) ∧
    (timer.timerProviderCallback mgr temp).1.info = (timer.timerProviderCallback mgr temp).1.groups.flatMap (·.report temp) ∧
    (timer.timerProviderCallback mgr temp).2.reportTime = if timer.reportTime + 1 = most then 0 else timer.reportTime + 1 := by
  have counts := longest.counts
  have multiples : ∀ sensor ∈ mgr.sensorTypeMap, sensor.multiple ≠ 0 :=
    fun sensor listed => (divided.multiples sensor listed).1.ne'
  cases groups : mgr.sensorTypeMap with
  | nil => exact absurd groups divided.some
  | cons sensor rest =>
    rw [groups] at counts multiples
    have most_eq := counts sensor.multiple (rest.map (·.multiple)) rfl
    simp only [ThermalHdfTimer.timerProviderCallback, groups, reportGroups_eq _ _ multiples, ThermalHdfTimer.resetCount,
      map_cons, most_eq]
    refine ⟨trivial, trivial, ?_⟩
    by_cases last : timer.reportTime + 1 = most
    · rw [if_pos last, if_pos last]
    · rw [if_neg last, if_neg last]

theorem expired_reportTime (divided : Divided (configured mgr)) (longest : Longest (configured mgr) most)
    (temp : Nat → String → Option Int) (n : Nat) : (expired mgr timer temp n).reportTime = n % most := by
  have positive := longest.positive divided
  induction n with
  | zero => exact (Int.zero_emod most).symm
  | succ n ih =>
    have step : ((n + 1 : Nat) : Int) % most = (n % most + 1) % most := by rw [Nat.cast_succ, Int.emod_add_emod]
    have below : (n : Int) % most < most := Int.emod_lt_of_pos _ positive
    have above : 0 ≤ (n : Int) % most := Int.emod_nonneg _ positive.ne'
    rw [expired, (longest.callback divided _).2.2, ih, step]
    by_cases last : (n : Int) % most + 1 = most
    · rw [if_pos last, last, Int.emod_self]
    · rw [if_neg last]
      exact (Int.emod_eq_of_lt (by omega) (by omega)).symm

theorem Divided.due (divided : Divided mgr) (n : Nat) :
    mgr.due n = mgr.sensorTypeMap.filter fun sensor => sensor.multiple ∣ (n : Int) := by
  refine filter_congr fun sensor listed => ?_
  obtain ⟨-, whole⟩ := divided.multiples sensor listed
  rw [← whole]
  exact decide_eq_decide.mpr (Int.mul_dvd_mul_iff_right divided.positive.ne')

theorem filter_same {α : Type} {p q : α → Bool} {l : List α} : l.filter p = l.filter q ↔ ∀ x ∈ l, p x = q x := by
  refine ⟨fun same x listed => ?_, filter_congr⟩
  have both : (x ∈ l ∧ p x = true) ↔ x ∈ l ∧ q x = true := by rw [← mem_filter, ← mem_filter, same]
  exact Bool.eq_iff_iff.mpr ⟨fun its => (both.mp ⟨listed, its⟩).2, fun its => (both.mpr ⟨listed, its⟩).2⟩

/-- All groups are on time exactly if all multiples divide the largest. -/
theorem reports_iff (divided : Divided (configured mgr)) (longest : Longest (configured mgr) most) :
    (∀ temp n, reported mgr timer temp n =
      ⟨(configured mgr).due (n + 1), ((configured mgr).due (n + 1)).flatMap (·.report (temp (n + 1)))⟩) ↔
    ∀ sensor ∈ (configured mgr).sensorTypeMap, sensor.multiple ∣ most := by
  have groups (temp : Nat → String → Option Int) (n : Nat) : (reported mgr timer temp n).groups =
      (configured mgr).sensorTypeMap.filter fun sensor => sensor.multiple ∣ (n : Int) % most + 1 := by
    rw [reported, (longest.callback divided _).1, expired_reportTime divided longest]
  constructor
  · intro exact_ sensor listed
    obtain ⟨some_m, -⟩ := divided.multiples sensor listed
    have within := longest.above sensor listed
    -- The expiration after a whole round and one interval of the group.
    obtain ⟨n, number⟩ : ∃ n : Nat, (n : Int) = most + sensor.multiple - 1 := ⟨_, Int.toNat_of_nonneg (by omega)⟩
    have reports := congrArg Report.groups (exact_ (fun _ _ => none) n)
    rw [groups, divided.due] at reports
    have both := decide_eq_decide.mp (filter_same.mp reports sensor listed)
    have rest : (n : Int) % most = sensor.multiple - 1 := by
      rw [number, add_sub_assoc, Int.add_emod_left]
      exact Int.emod_eq_of_lt (by omega) (by omega)
    rw [rest, sub_add_cancel, Nat.cast_succ, number, sub_add_cancel] at both
    exact (Int.dvd_add_left dvd_rfl).mp (both.mp dvd_rfl)
  · intro divides temp n
    have same : (reported mgr timer temp n).groups = (configured mgr).due (n + 1) := by
      rw [groups, divided.due]
      refine filter_same.mpr fun sensor listed => decide_eq_decide.mpr ?_
      have split : ((n + 1 : Nat) : Int) = most * (n / most) + (n % most + 1) := by
        rw [← add_assoc, Int.mul_ediv_add_emod, Nat.cast_succ]
      rw [split]
      exact (Int.dvd_add_right ((divides sensor listed).mul_right _)).symm
    have info : (reported mgr timer temp n).info = (reported mgr timer temp n).groups.flatMap (·.report (temp (n + 1))) :=
      (longest.callback divided _).2.1
    rw [same] at info
    exact congr (congrArg Report.mk same) info

theorem armed_itval (divided : Divided (configured mgr)) : (armed mgr timer).itval =
    ⟨⟨(configured mgr).maxCd.tdiv MS_PER_SECOND, 0⟩, ⟨(configured mgr).maxCd.tdiv MS_PER_SECOND, 0⟩⟩ := by
  simp only [armed, ThermalHdfTimer.setTimerInterval, if_neg divided.positive.le.not_gt]

theorem nanoseconds_iff (period : Int) :
    (Timespec.mk (period.tdiv MS_PER_SECOND) 0).nanoseconds = period * 1000000 ↔ MS_PER_SECOND ∣ period := by
  rw [Int.dvd_iff_tmod_eq_zero, Int.tmod_def]
  show period.tdiv 1000 * 1000000000 + 0 = period * 1000000 ↔ period - 1000 * period.tdiv 1000 = 0
  omega

theorem Divided.harmonic (divided : Divided mgr) (longest : Longest mgr most) :
    mgr.Harmonic ↔ MS_PER_SECOND ∣ mgr.maxCd ∧ ∀ sensor ∈ mgr.sensorTypeMap, sensor.multiple ∣ most := by
  have scales {sensor other : SensorInfoConfig} (listed : sensor ∈ mgr.sensorTypeMap) (listed' : other ∈ mgr.sensorTypeMap) :
      sensor.interval ∣ other.interval ↔ sensor.multiple ∣ other.multiple := by
    rw [← (divided.multiples sensor listed).2, ← (divided.multiples other listed').2]
    exact Int.mul_dvd_mul_iff_right divided.positive.ne'
  obtain ⟨last, within, reached⟩ := longest.reached
  constructor
  · rintro ⟨seconds, longer, listed, all⟩
    have some_m := (divided.multiples longer listed).1
    have least : most ≤ longer.multiple := reached ▸ Int.le_of_dvd some_m ((scales within listed).mp (all last within))
    have same : longer.multiple = most := le_antisymm (longest.above longer listed) least
    exact ⟨(divided.divisors _).mpr seconds, fun sensor other => same ▸ (scales other listed).mp (all sensor other)⟩
  · rintro ⟨seconds, divides⟩
    refine ⟨(divided.divisors _).mp seconds, last, within, fun sensor listed => (scales listed within).mpr ?_⟩
    exact reached.symm ▸ divides sensor listed

theorem configured_intervals (some : mgr.sensorTypeMap ≠ []) (positive : ∀ sensor ∈ mgr.sensorTypeMap, 0 < sensor.interval)
    {p : Int → Prop} :
    (∀ sensor ∈ (configured mgr).sensorTypeMap, p sensor.interval) ↔ ∀ sensor ∈ mgr.sensorTypeMap, p sensor.interval := by
  rw [configured_groups some positive, forall_mem_map]
  rfl

theorem configured_harmonic (some : mgr.sensorTypeMap ≠ []) (positive : ∀ sensor ∈ mgr.sensorTypeMap, 0 < sensor.interval) :
    (configured mgr).Harmonic ↔ mgr.Harmonic := by
  refine and_congr (configured_intervals some positive) ?_
  rw [configured_groups some positive]
  simp only [mem_map, exists_exists_and_eq_and, forall_exists_index, and_imp, forall_apply_eq_imp_iff₂]
  rfl

/-- A configuration is on schedule exactly if all its intervals are whole seconds and one is a multiple of all. -/
theorem scheduled_iff (mgr : ThermalZoneManager) (timer : ThermalHdfTimer) (some : mgr.sensorTypeMap ≠ [])
    (positive : ∀ sensor ∈ mgr.sensorTypeMap, 0 < sensor.interval) : Scheduled mgr timer ↔ mgr.Harmonic := by
  have divided := configured_divided some positive
  obtain ⟨most, longest⟩ := divided.longest
  rw [← configured_harmonic some positive, divided.harmonic longest, ← reports_iff divided longest, ← nanoseconds_iff]
  constructor
  · intro scheduled
    have period := scheduled.period
    rw [armed_itval divided] at period
    exact ⟨period, scheduled.reports⟩
  · rintro ⟨period, reports⟩
    have divides := (configured_intervals some positive).mp ((divided.divisors _).mp dvd_rfl)
    refine ⟨divides, fun d all => ?_, fun sensor listed => Int.le_of_dvd (positive sensor listed) (divides sensor listed),
      ?_, ?_, reports⟩
    · exact Int.le_of_dvd divided.positive ((divided.divisors d).mpr ((configured_intervals some positive).mpr all))
    · rw [armed_itval divided]
      exact period
    · rw [armed_itval divided]
      exact period

def polled (groupName : String) (interval : Int) : SensorInfoConfig := ⟨groupName, interval, 0, [⟨groupName, groupName⟩]⟩

def shipped : ThermalZoneManager := ⟨[polled "actual" 5000, polled "sim" 10000], 0⟩

def unset : ThermalHdfTimer := ⟨-1, ⟨⟨0, 0⟩, ⟨0, 0⟩⟩, 0, []⟩

theorem shipped_scheduled : Scheduled shipped unset :=
  (scheduled_iff shipped unset (cons_ne_nil _ _) (by decide)).mpr ⟨by decide, polled "sim" 10000,
    mem_cons_of_mem _ (mem_cons_self ..), by decide⟩

def uneven : ThermalZoneManager := ⟨[polled "gpu" 2000, polled "soc" 3000], 0⟩

theorem configured_uneven : configured uneven =
    ⟨[{ polled "gpu" 2000 with multiple := 2 }, { polled "soc" 3000 with multiple := 3 }], 1000⟩ := by
  have maxCd : getMaxCommonDivisor 2000 3000 = 1000 := by simp [getMaxCommonDivisor]
  simp only [configured, ThermalZoneManager.calculateMaxCd, uneven, polled, getIntervalCommonDivisor,
    map_cons, map_nil, foldl_cons, foldl_nil, maxCd]
  rfl

/-- After the third expiration the count begins again, and the first group is not reported at the fourth. -/
theorem uneven_not_scheduled : ¬ Scheduled uneven unset := by
  intro scheduled
  have reports := congrArg (fun report => report.groups.map (·.groupName)) (scheduled.reports (fun _ _ => none) 3)
  simp only [reported, expired, armed, configured_uneven] at reports
  exact absurd reports (by decide)

end Peripheral.Thermal
