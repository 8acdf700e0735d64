import PyAds.Base.Gregorian
import PyAds.Values

/-! Conversion between `datetime` and the filetimes of notifications, which
count steps of 100 nanoseconds. On the way to a filetime the date goes through
the fields of a time tuple, which has no microseconds; on the way back the
fraction of the seconds is kept. -/
namespace PyAds
open Gregorian

/-! ## `datetime` -/

def secondMicroseconds : Int := 1000000

def dayMicroseconds : Int := 86400 * 1000000

/-- The number of the last day of the year 9999. -/
def MAXORDINAL : Int := 3652059

/-- A `datetime`. The offset, in microseconds, is missing if there is no `tzinfo`
or if this gives none. -/
structure Datetime extends Date where
  hour : Nat
  minute : Nat
  second : Nat
  microsecond : Nat
  utcoffset : Option Int
  supported : year ≤ 9999
  clock : hour < 24 ∧ minute < 60 ∧ second < 60 ∧ microsecond < 1000000
  offset : ∀ offset ∈ utcoffset, -dayMicroseconds < offset ∧ offset < dayMicroseconds

namespace Datetime

/-- `timedelta(dt.toordinal(), hours=dt.hour, ..)` -/
def sinceOrdinalZero (dt : Datetime) : Int :=
  dt.ordinal * dayMicroseconds +
    (((dt.hour * 60 + dt.minute) * 60 + dt.second) * 1000000 + dt.microsecond : Nat)

theorem year_le_of_ordinal {ordinal : Nat} (positive : 1 ≤ ordinal) (small : (ordinal : Int) ≤ MAXORDINAL) :
    (ofOrdinal ordinal).year ≤ 9999 := by
  by_contra later
  have begun := daysBeforeYear_mono (show 10000 ≤ (ofOrdinal ordinal).year by omega)
  have inside := (ofOrdinal ordinal).ordinal_bounds.1
  have first : daysBeforeYear 10000 = 3652059 := rfl
  rw [ordinal_ofOrdinal positive] at inside
  unfold MAXORDINAL at small
  omega

theorem zero_offset : ∀ offset ∈ some (0 : Int), -dayMicroseconds < offset ∧ offset < dayMicroseconds := by
  rintro _ ⟨⟩
  unfold dayMicroseconds
  omega

/-- `dt.replace(tzinfo=timezone.utc)` -/
def replaceUtc (dt : Datetime) : Datetime := { dt with utcoffset := some 0, offset := zero_offset }

/-- The date and the time in UTC, unless the date is not supported. -/
def ofMicroseconds (total : Int) : Option Datetime :=
  if range : 0 < total / dayMicroseconds ∧ total / dayMicroseconds ≤ MAXORDINAL then
    let time := (total % dayMicroseconds).toNat
    some { toDate := ofOrdinal (total / dayMicroseconds).toNat
           hour := time / 3600000000
           minute := time / 60000000 % 60
           second := time / 1000000 % 60
           microsecond := time % 1000000
           utcoffset := some 0
           supported := year_le_of_ordinal (by omega) (by omega)
           clock := by unfold time dayMicroseconds; omega
           offset := zero_offset }
  else none

/-- The `datetime` in UTC: as it is, or by `dt.astimezone(timezone.utc)`, which
subtracts the offset. -/
def inUtc (dt : Datetime) : Result Datetime :=
  match dt.utcoffset with
  | none => .ok dt.replaceUtc
  | some offset =>
    match ofMicroseconds (dt.sinceOrdinalZero - offset) with
    | some utc => .ok utc
    | none => .error .overflowError

end Datetime

/-! ## `filetimes.py` -/

/-- January 1, 1970 as MS file time. -/
def EPOCH_AS_FILETIME : Int := 116444736000000000

def HUNDREDS_OF_NANOSECONDS : Int := 10000000

/-- `datetime.date(1970, 1, 1).toordinal()` -/
def EPOCH_ORD : Int := 719163

/-- The part of a `struct_time` that `timegm` reads. -/
structure StructTime where
  tmYear : Nat
  tmMon : Nat
  tmMday : Nat
  tmHour : Nat
  tmMin : Nat
  tmSec : Nat

def Datetime.timetuple (dt : Datetime) : StructTime :=
  ⟨dt.year, dt.month, dt.day, dt.hour, dt.minute, dt.second⟩

/-- `calendar.timegm` -/
def timegm (tuple : StructTime) : Int :=
  let firstOfMonth : Int := daysBeforeYear tuple.tmYear + daysBeforeMonth tuple.tmYear tuple.tmMon + 1
  let days := firstOfMonth - EPOCH_ORD + tuple.tmMday - 1
  let hours := days * 24 + tuple.tmHour
  let minutes := hours * 60 + tuple.tmMin
  minutes * 60 + tuple.tmSec

/-- `dt_to_filetime` -/
def dtToFiletime (dt : Datetime) : Result Int := do
  let dt ← dt.inUtc
  return EPOCH_AS_FILETIME + timegm dt.timetuple * HUNDREDS_OF_NANOSECONDS

/-- The nearest integer to a tenth, the even one of two. -/
def roundTenth (n : Int) : Int :=
  if n % 10 < 5 ∨ (n % 10 = 5 ∧ n / 10 % 2 = 0) then n / 10 else n / 10 + 1

/-- `datetime.fromtimestamp(timestamp, tz=timezone.utc)`, given the microseconds
that the timestamp is rounded to. -/
def fromtimestamp (microseconds : Int) : Result Datetime :=
  match Datetime.ofMicroseconds (microseconds + EPOCH_ORD * dayMicroseconds) with
  | some dt => .ok dt
  | none => .error (.valueError "year is out of range")

/-- `filetime_to_dt`, with an exact division. -/
def filetimeToDt (ft : Int) : Result Datetime := fromtimestamp (roundTenth (ft - EPOCH_AS_FILETIME))

/-! ## Instants -/

namespace Datetime

/-- The microseconds since the epoch, where a `datetime` without an offset is one
in UTC. -/
def instant (dt : Datetime) : Int :=
  dt.sinceOrdinalZero - EPOCH_ORD * dayMicroseconds - dt.utcoffset.getD 0

/-- From 1970 to 2100. -/
def InPeriod (dt : Datetime) : Prop := 1970 ≤ dt.year ∧ dt.year ≤ 2100

/-- The microseconds are those of the offset. -/
def WholeSecond (dt : Datetime) : Prop :=
  ((dt.microsecond : Int) - dt.utcoffset.getD 0) % secondMicroseconds = 0

/-- The second that the instant lies in. -/
def secondOf (dt : Datetime) : Int := dt.instant / secondMicroseconds

theorem ofMicroseconds_eq (total : Int) (low : dayMicroseconds ≤ total) (high : total < (MAXORDINAL + 1) * dayMicroseconds) :
    ∃ dt, ofMicroseconds total = some dt ∧ dt.sinceOrdinalZero = total ∧ dt.utcoffset = some 0 := by
  have range : 0 < total / dayMicroseconds ∧ total / dayMicroseconds ≤ MAXORDINAL := by
    unfold dayMicroseconds MAXORDINAL at *
    omega
  refine ⟨_, dif_pos range, ?_, rfl⟩
  have day : ((ofOrdinal (total / dayMicroseconds).toNat).ordinal : Int) = total / dayMicroseconds := by
    rw [ordinal_ofOrdinal (by omega)]
    omega
  unfold sinceOrdinalZero
  dsimp only
  rw [day]
  unfold dayMicroseconds
  omega

theorem ordinal_of_inPeriod (period : InPeriod dt) : 719163 ≤ dt.ordinal ∧ dt.ordinal ≤ 767009 := by
  have begun := daysBeforeYear_mono period.1
  have ends := daysBeforeYear_mono (show dt.year + 1 ≤ 2101 from Nat.succ_le_succ period.2)
  have first : daysBeforeYear 1970 = 719162 := rfl
  have last : daysBeforeYear 2101 = 767009 := rfl
  have bounds := dt.ordinal_bounds
  omega

/-- The time of the day in whole seconds and microseconds. -/
theorem timeOfDay_lt (dt : Datetime) :
    ((dt.hour * 60 + dt.minute) * 60 + dt.second) * 1000000 + dt.microsecond < 86400 * 1000000 := by
  have clock := dt.clock
  omega

/-- The whole seconds of the instant, and what `timegm` makes of the fields. -/
theorem timegm_timetuple (dt : Datetime) :
    timegm dt.timetuple = (dt.sinceOrdinalZero - EPOCH_ORD * dayMicroseconds) / secondMicroseconds := by
  have clock := dt.clock
  unfold timegm timetuple sinceOrdinalZero Date.ordinal dayMicroseconds secondMicroseconds
  dsimp only
  omega

theorem instant_mod (dt : Datetime) : dt.instant % secondMicroseconds =
    ((dt.microsecond : Int) - dt.utcoffset.getD 0) % secondMicroseconds := by
  unfold instant sinceOrdinalZero dayMicroseconds secondMicroseconds
  omega

/-- A date of the period is supported in UTC, too. -/
theorem inUtc_ok (period : InPeriod dt) : ∃ utc, dt.inUtc = .ok utc ∧ utc.instant = dt.instant ∧
    utc.utcoffset = some 0 := by
  have days := ordinal_of_inPeriod period
  have time := dt.timeOfDay_lt
  cases aware : dt.utcoffset with
  | none =>
    refine ⟨dt.replaceUtc, ?_, ?_, rfl⟩
    · unfold inUtc
      split
      · rfl
      · rename_i offset known
        rw [aware] at known
        cases known
    · rw [instant, instant, aware]
      rfl
  | some offset =>
    have bounds := dt.offset offset aware
    obtain ⟨utc, found, total, zero⟩ := ofMicroseconds_eq (dt.sinceOrdinalZero - offset)
      (by unfold sinceOrdinalZero dayMicroseconds at *; omega)
      (by unfold sinceOrdinalZero dayMicroseconds MAXORDINAL at *; omega)
    refine ⟨utc, ?_, ?_, zero⟩
    · unfold inUtc
      split
      · rename_i missing
        rw [aware] at missing
        cases missing
      · rename_i other known
        obtain rfl := Option.some.inj (aware.symm.trans known)
        rw [found]
    · rw [instant, instant, total, zero, aware, Option.getD_some, Option.getD_some]
      omega

end Datetime

/-! ## The conversions -/

/-- A filetime has the whole seconds of the instant. -/
theorem dtToFiletime_eq (period : dt.InPeriod) :
    dtToFiletime dt = .ok (EPOCH_AS_FILETIME + dt.secondOf * HUNDREDS_OF_NANOSECONDS) := by
  obtain ⟨utc, converted, same, zero⟩ := Datetime.inUtc_ok period
  have seconds : timegm utc.timetuple = dt.secondOf := by
    rw [Datetime.timegm_timetuple, Datetime.secondOf, ← same, Datetime.instant, zero, Option.getD_some, Int.sub_zero]
  rw [dtToFiletime, converted]
  simp only [bind, Except.bind, seconds]
  rfl

theorem roundTenth_exact (n : Int) : roundTenth (n * 10) = n := by
  unfold roundTenth
  split <;> omega

/-- A filetime of whole seconds denotes their instant. -/
theorem filetimeToDt_eq (low : (1 - EPOCH_ORD) * 86400 ≤ seconds)
    (high : seconds < (MAXORDINAL + 1 - EPOCH_ORD) * 86400) :
    ∃ back, filetimeToDt (EPOCH_AS_FILETIME + seconds * HUNDREDS_OF_NANOSECONDS) = .ok back ∧
      back.instant = seconds * secondMicroseconds := by
  have steps : EPOCH_AS_FILETIME + seconds * HUNDREDS_OF_NANOSECONDS - EPOCH_AS_FILETIME =
      seconds * secondMicroseconds * 10 := by
    unfold HUNDREDS_OF_NANOSECONDS secondMicroseconds
    omega
  obtain ⟨back, found, total, zero⟩ :=
    Datetime.ofMicroseconds_eq (seconds * secondMicroseconds + EPOCH_ORD * dayMicroseconds)
      (by unfold EPOCH_ORD dayMicroseconds secondMicroseconds at *; omega)
      (by unfold EPOCH_ORD dayMicroseconds secondMicroseconds MAXORDINAL at *; omega)
  refine ⟨back, ?_, ?_⟩
  · rw [filetimeToDt, steps, roundTenth_exact, fromtimestamp, found]
  · rw [Datetime.instant, total, zero, Option.getD_some]
    omega

/-- The instants of the period are those of supported dates. -/
theorem secondOf_bounds {dt : Datetime} (period : dt.InPeriod) :
    (1 - EPOCH_ORD) * 86400 ≤ dt.secondOf ∧ dt.secondOf < (MAXORDINAL + 1 - EPOCH_ORD) * 86400 := by
  have days := Datetime.ordinal_of_inPeriod period
  have time := dt.timeOfDay_lt
  have offset : -dayMicroseconds < dt.utcoffset.getD 0 ∧ dt.utcoffset.getD 0 < dayMicroseconds := by
    cases aware : dt.utcoffset with
    | none => exact Datetime.zero_offset 0 rfl
    | some offset => exact dt.offset offset aware
  unfold Datetime.secondOf Datetime.instant Datetime.sinceOrdinalZero
  unfold EPOCH_ORD MAXORDINAL dayMicroseconds secondMicroseconds at *
  omega

/-- What comes back is the beginning of the second. -/
theorem roundTrip_eq {dt : Datetime} (period : dt.InPeriod) :
    ∃ ft back, dtToFiletime dt = .ok ft ∧ filetimeToDt ft = .ok back ∧
      back.instant = dt.secondOf * secondMicroseconds := by
  have bounds := secondOf_bounds period
  obtain ⟨back, decoded, instant⟩ := filetimeToDt_eq bounds.1 bounds.2
  exact ⟨_, back, dtToFiletime_eq period, decoded, instant⟩

namespace Datetime

/-- The conversion to a filetime and back denotes the same instant. -/
def Survives (dt : Datetime) : Prop :=
  ∃ ft back, dtToFiletime dt = .ok ft ∧ filetimeToDt ft = .ok back ∧ back.instant = dt.instant

/-- An earlier instant has a smaller filetime. -/
def Increases (early late : Datetime) : Prop :=
  early.instant < late.instant →
    ∃ ft ft', dtToFiletime early = .ok ft ∧ dtToFiletime late = .ok ft' ∧ ft < ft'

theorem survives_iff_wholeSecond (period : InPeriod dt) : dt.Survives ↔ dt.WholeSecond := by
  obtain ⟨ft, back, encoded, decoded, instant⟩ := roundTrip_eq period
  have whole : dt.WholeSecond ↔ dt.secondOf * secondMicroseconds = dt.instant := by
    rw [WholeSecond, ← instant_mod]
    unfold secondOf secondMicroseconds
    omega
  rw [whole, ← instant]
  constructor
  · rintro ⟨ft', back', encoded', decoded', same⟩
    obtain rfl := Except.ok.inj (encoded.symm.trans encoded')
    obtain rfl := Except.ok.inj (decoded.symm.trans decoded')
    exact same
  · intro same
    exact ⟨ft, back, encoded, decoded, same⟩

theorem increases_iff (before : InPeriod early) (after : InPeriod late) :
    early.Increases late ↔ (early.secondOf = late.secondOf → late.instant ≤ early.instant) := by
  have encoded := dtToFiletime_eq before
  have encodedLater := dtToFiletime_eq after
  constructor
  · intro increases same
    by_contra increasing
    obtain ⟨ft, ft', one, two, less⟩ := increases (Int.not_le.mp increasing)
    obtain rfl := Except.ok.inj (encoded.symm.trans one)
    obtain rfl := Except.ok.inj (encodedLater.symm.trans two)
    rw [same] at less
    omega
  · intro condition increasing
    refine ⟨_, _, encoded, encodedLater, ?_⟩
    have seconds : early.secondOf < late.secondOf := by
      have different : early.secondOf ≠ late.secondOf := fun same => Int.not_le.mpr increasing (condition same)
      have ordered : early.secondOf ≤ late.secondOf := Int.ediv_le_ediv (by decide) (Int.le_of_lt increasing)
      omega
    unfold HUNDREDS_OF_NANOSECONDS
    omega

end Datetime

/-- A `datetime` survives the conversion exactly if its microseconds are those of
its offset; the filetimes of two instants increase unless both lie in one
second. -/
theorem timestamps_iff (dt later : Datetime) (period : dt.InPeriod) (laterPeriod : later.InPeriod) :
    (dt.Survives ↔ dt.WholeSecond) ∧
      (dt.Increases later ↔ (dt.secondOf = later.secondOf → later.instant ≤ dt.instant)) := by
  constructor
  · exact Datetime.survives_iff_wholeSecond period
  · exact Datetime.increases_iff period laterPeriod

/-- The thirteenth of October 2017, in the minute of 13:11 three hours east of
Greenwich. -/
def october (second : Fin 60) (microsecond : Fin 1000000) : Datetime where
  year := 2017
  month := 10
  day := 13
  era := by omega
  counted := by omega
  exists_ := ⟨31, by rfl, by omega⟩
  hour := 13
  minute := 11
  second
  microsecond
  utcoffset := some 10800000000
  supported := by omega
  clock := by omega
  offset := by
    rintro _ ⟨⟩
    unfold dayMicroseconds
    omega

theorem october_inPeriod (second : Fin 60) (microsecond : Fin 1000000) : (october second microsecond).InPeriod := by
  have year : (october second microsecond).year = 2017 := rfl
  unfold Datetime.InPeriod
  omega

theorem timestamps_iff_october :
    (october 12 0).Survives ∧ (october 12 0).Increases (october 13 500000) := by
  have both := timestamps_iff (october 12 0) (october 13 500000) (october_inPeriod 12 0) (october_inPeriod 13 500000)
  have different : (october 12 0).secondOf ≠ (october 13 500000).secondOf := by decide
  exact ⟨both.1.mpr (by rfl), both.2.mpr fun same => absurd same different⟩

/-- Half a second is lost, and with it the order of two instants. -/
theorem timestamps_half_second :
    ¬ (october 12 500000).Survives ∧ ¬ (october 12 0).Increases (october 12 500000) := by
  constructor
  · rw [Datetime.survives_iff_wholeSecond (october_inPeriod 12 500000)]
    intro whole
    cases whole
  · rw [Datetime.increases_iff (october_inPeriod 12 0) (october_inPeriod 12 500000)]
    intro condition
    have same : (october 12 0).secondOf = (october 12 500000).secondOf := by decide
    have later : ¬ (october 12 500000).instant ≤ (october 12 0).instant := by decide
    exact later (condition same)

end PyAds
