/-
This file embeds the virtual clock, which reports the up-time as a day of June 2018
and a time of day. The days count from 0 and are cut to a byte. So readings are dates,
and differ by the time between them, exactly if both days are from 1 to 30 and no byte
has wrapped in between.
-/

import PinePhonePkg.Dxe.Status
import PinePhonePkg.Library.Calendar

namespace PinePhonePkg

open Library Library.Calendar

/-! ### The clock -/

/-- `EFI_TIME` -/
structure EfiTime : Type where
  year : BitVec 16
  month : U8
  day : U8
  hour : U8
  minute : U8
  second : U8
  nanosecond : U32
  timeZone : BitVec 16
  daylight : U8

/-- `EFI_TIME_CAPABILITIES` -/
structure EfiTimeCapabilities : Type where
  resolution : U32
  accuracy : U32
  setsToZero : Bool

/-- The seconds of a day, an hour and a minute -/
def secondsPerDay : Ulong := 24 * 60 * 60
def secondsPerHour : Ulong := 60 * 60
def secondsPerMinute : Ulong := 60

/-- The time for the seconds that have elapsed -/
def timeOf (elapsedSeconds : Ulong) : EfiTime :=
  let inDay := elapsedSeconds % secondsPerDay
  let inHour := inDay % secondsPerHour
  { year := 2018
    month := 6
    day := (elapsedSeconds / secondsPerDay).setWidth 8
    hour := (inDay / secondsPerHour).setWidth 8
    minute := (inHour / secondsPerMinute).setWidth 8
    second := (inHour % secondsPerMinute).setWidth 8
    nanosecond := 0
    timeZone := 0
    daylight := 0 }

/-- `LibGetTime` by the frequency and the value of the counter: the status, and what `Time` and
`Capabilities` point to afterwards, where they are not null -/
def libGetTime (freq : U32) (counter : Ulong) (time : Option EfiTime)
    (capabilities : Option EfiTimeCapabilities) :
    Ulong × Option EfiTime × Option EfiTimeCapabilities :=
  match time with
  | none => (efiInvalidParameter, none, capabilities)
  | some time =>
    if freq = 0 then (efiDeviceError, some time, capabilities)
    else
      (efiSuccess, some (timeOf (counter / freq.setWidth 64)),
        capabilities.map fun _ => ⟨freq, 0, false⟩)

/-! ### Right readings -/

/-- All fields are in their ranges, and are those of the moment. -/
structure EfiTime.Shows (time : EfiTime) (moment : Moment) : Prop where
  year : time.year.toNat = moment.year
  month : time.month.toNat = moment.month
  day : time.day.toNat = moment.day
  hour : time.hour.toNat = moment.hour
  minute : time.minute.toNat = moment.minute
  second : time.second.toNat = moment.second
  inYears : 1900 ≤ time.year.toNat ∧ time.year.toNat ≤ 9999
  nanosecond : time.nanosecond.toNat < 1000000000
  timeZone : -1440 ≤ time.timeZone.toInt ∧ time.timeZone.toInt ≤ 1440
  daylight : time.daylight.toNat ≤ 3

/-- The clock succeeds at a counter and gives a moment. -/
def Reads (freq : U32) (counter : Ulong) (moment : Moment) : Prop :=
  ∀ time capabilities, ∃ shown left,
    libGetTime freq counter (some time) capabilities = (efiSuccess, some shown, left) ∧
      shown.Shows moment

/-- The seconds that have elapsed, as a number -/
def elapsed (freq : U32) (counter : Ulong) : Nat := counter.toNat / freq.toNat

/-- Two readings are moments, they differ by the seconds between them, and the later one is not
before the earlier one. -/
def ClockRight (freq : U32) (first second : Ulong) : Prop :=
  ∃ earlier later, Reads freq first earlier ∧ Reads freq second later ∧
    (later.seconds : Int) - earlier.seconds = (elapsed freq second : Int) - elapsed freq first ∧
    (first.toNat ≤ second.toNat → earlier.seconds ≤ later.seconds)

/-- The days of the up-time -/
def upDays (freq : U32) (counter : Ulong) : Nat := elapsed freq counter / 86400

/-- The day is one of June, as a byte. -/
def InJune (days : Nat) : Prop := 1 ≤ days % 256 ∧ days % 256 ≤ 30

/-- Both days are of June, and no byte has wrapped between them. -/
def SameJune (first second : Nat) : Prop :=
  InJune first ∧ InJune second ∧ first / 256 = second / 256

/-! ### When readings are right -/

section Readings

variable {freq : U32} (counter : Ulong)

theorem toNat_elapsed (freq : U32) :
    (counter / (freq.setWidth 64 : Ulong)).toNat = elapsed freq counter := by
  rw [BitVec.toNat_udiv, BitVec.toNat_setWidth_of_le (by decide)]
  rfl

/-- The fields as numbers -/
theorem timeOf_fields (elapsedSeconds : Ulong) :
    (timeOf elapsedSeconds).day.toNat = elapsedSeconds.toNat / 86400 % 256 ∧
      (timeOf elapsedSeconds).hour.toNat = elapsedSeconds.toNat % 86400 / 3600 ∧
      (timeOf elapsedSeconds).minute.toNat = elapsedSeconds.toNat % 86400 % 3600 / 60 ∧
      (timeOf elapsedSeconds).second.toNat = elapsedSeconds.toNat % 86400 % 3600 % 60 := by
  have day : secondsPerDay.toNat = 86400 := rfl
  have hour : secondsPerHour.toNat = 3600 := rfl
  have minute : secondsPerMinute.toNat = 60 := rfl
  unfold timeOf
  simp only [BitVec.toNat_setWidth, BitVec.toNat_udiv, BitVec.toNat_umod, day, hour, minute]
  exact ⟨trivial, Nat.mod_eq_of_lt (by omega), Nat.mod_eq_of_lt (by omega),
    Nat.mod_eq_of_lt (by omega)⟩

theorem libGetTime_eq (positive : 1 ≤ freq.toNat) (time : EfiTime)
    (capabilities : Option EfiTimeCapabilities) :
    libGetTime freq counter (some time) capabilities =
      (efiSuccess, some (timeOf (counter / freq.setWidth 64)),
        capabilities.map fun _ => ⟨freq, 0, false⟩) := by
  have some : freq ≠ 0 := by
    rintro rfl
    exact absurd positive (by decide)
  unfold libGetTime
  exact if_neg some

/-- A clock that gives a moment shows the time for the seconds that have elapsed. -/
theorem Reads.shows {moment : Moment} (positive : 1 ≤ freq.toNat)
    (reads : Reads freq counter moment) :
    (timeOf (counter / freq.setWidth 64)).Shows moment := by
  obtain ⟨shown, left, run, shows⟩ := reads ⟨0, 0, 0, 0, 0, 0, 0, 0, 0⟩ none
  rw [libGetTime_eq counter positive] at run
  obtain ⟨-, same⟩ := Prod.mk.inj run
  obtain ⟨same, -⟩ := Prod.mk.inj same
  rw [Option.some.inj same]
  exact shows

/-- The moment that is shown has its day in the up-time, as a byte. -/
theorem EfiTime.Shows.spec {seconds : Ulong} {moment : Moment}
    (shows : (timeOf seconds).Shows moment) :
    moment.year = 2018 ∧ moment.month = 6 ∧ moment.day = seconds.toNat / 86400 % 256 ∧
      ((moment.day * 24 + moment.hour) * 60 + moment.minute) * 60 + moment.second =
        seconds.toNat / 86400 % 256 * 86400 + seconds.toNat % 86400 := by
  obtain ⟨day, hour, minute, second⟩ := timeOf_fields seconds
  rw [shows.day] at day
  rw [shows.hour] at hour
  rw [shows.minute] at minute
  rw [shows.second] at second
  have year : (timeOf seconds).year.toNat = 2018 := rfl
  have month : (timeOf seconds).month.toNat = 6 := rfl
  exact ⟨shows.year.symm.trans year, shows.month.symm.trans month, day, by omega⟩

/-- On a day of June there is a moment to show. -/
theorem exists_reads (positive : 1 ≤ freq.toNat) (inJune : InJune (upDays freq counter)) :
    ∃ moment, Reads freq counter moment := by
  obtain ⟨day, hour, minute, second⟩ := timeOf_fields (counter / freq.setWidth 64)
  rw [toNat_elapsed] at day hour minute second
  obtain ⟨low, high⟩ := inJune
  unfold upDays at low high
  let moment : Moment :=
    { year := 2018
      month := 6
      day := elapsed freq counter / 86400 % 256
      hour := elapsed freq counter % 86400 / 3600
      minute := elapsed freq counter % 86400 % 3600 / 60
      second := elapsed freq counter % 86400 % 3600 % 60
      isMonth := by decide
      isDay := ⟨low, high⟩
      isHour := by omega
      isMinute := by omega
      isSecond := by omega }
  refine ⟨moment, fun time capabilities => ⟨_, _, libGetTime_eq counter positive time _, ?_⟩⟩
  have fixed : (1900 ≤ (2018 : BitVec 16).toNat ∧ (2018 : BitVec 16).toNat ≤ 9999) ∧
      (0 : U32).toNat < 1000000000 ∧
      (-1440 ≤ (0 : BitVec 16).toInt ∧ (0 : BitVec 16).toInt ≤ 1440) ∧ (0 : U8).toNat ≤ 3 := by
    decide
  obtain ⟨year, nanosecond, timeZone, daylight⟩ := fixed
  exact ⟨rfl, rfl, day, hour, minute, second, year, nanosecond, timeZone, daylight⟩

end Readings

/-- What two moments that are shown differ by -/
theorem seconds_sub_of_reads {freq : U32} {first second : Ulong} {earlier later : Moment}
    (positive : 1 ≤ freq.toNat) (readsFirst : Reads freq first earlier)
    (readsSecond : Reads freq second later) :
    InJune (upDays freq first) ∧ InJune (upDays freq second) ∧
      ((later.seconds : Int) - earlier.seconds = (elapsed freq second : Int) - elapsed freq first ↔
        upDays freq first / 256 = upDays freq second / 256) := by
  obtain ⟨year, month, day, inMonth⟩ := (readsFirst.shows first positive).spec
  obtain ⟨year', month', day', inMonth'⟩ := (readsSecond.shows second positive).spec
  rw [toNat_elapsed] at day inMonth day' inMonth'
  have june : daysInMonth 2018 6 = 30 := rfl
  have isDay := earlier.isDay
  have isDay' := later.isDay
  rw [year, month, june, day] at isDay
  rw [year', month', june, day'] at isDay'
  refine ⟨isDay, isDay', ?_⟩
  rw [Moment.seconds_sub earlier later (year.trans year'.symm) (month.trans month'.symm), inMonth,
    inMonth']
  unfold upDays
  omega

/-- Two readings of the clock are right exactly if both are on a day from 1 to 30 of the up-time,
counted from the same multiple of 256 days. -/
theorem clockRight_iff (freq : U32) (first second : Ulong) (positive : 1 ≤ freq.toNat) :
    ClockRight freq first second ↔ SameJune (upDays freq first) (upDays freq second) := by
  constructor
  · rintro ⟨earlier, later, readsFirst, readsSecond, difference, -⟩
    obtain ⟨inJune, inJune', same⟩ := seconds_sub_of_reads positive readsFirst readsSecond
    exact ⟨inJune, inJune', same.mp difference⟩
  · rintro ⟨inJune, inJune', same⟩
    obtain ⟨earlier, readsFirst⟩ := exists_reads first positive inJune
    obtain ⟨later, readsSecond⟩ := exists_reads second positive inJune'
    have difference := (seconds_sub_of_reads positive readsFirst readsSecond).2.2.mpr same
    refine ⟨earlier, later, readsFirst, readsSecond, difference, fun inOrder => ?_⟩
    have forward : elapsed freq first ≤ elapsed freq second := Nat.div_le_div_right inOrder
    omega

/-- A second apart, at noon of the second day -/
theorem clockRight_iff_noon : ClockRight 24000000 3110400000000 3110424000000 :=
  (clockRight_iff 24000000 3110400000000 3110424000000 (by decide)).mpr
    ⟨by unfold InJune; decide, by unfold InJune; decide, by decide⟩

/-- At the start of the counter there is no date: the day is 0. -/
theorem not_clockRight_start :
    ¬∀ (freq : U32) (first second : Ulong), 1 ≤ freq.toNat → ClockRight freq first second := by
  intro all
  obtain ⟨earlier, later, readsFirst, readsSecond, -⟩ := all 24000000 0 0 (by decide)
  obtain ⟨low, -⟩ := (seconds_sub_of_reads (by decide) readsFirst readsSecond).1
  exact absurd low (by decide)

end PinePhonePkg
