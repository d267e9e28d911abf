import IconAssets.Shell.Octet

/-!
# The calendar

Days are numbered from the first of January 1970 on, and the rules of today hold for all years.
Four hundred years have the same number of days each; to count them, a year starts in March, so
that a leap day is the last one of its year.

A moment is a day with a time on it.  Both may have parts out of their range: a month behind
December lies in the next year, and a day behind the last one of a month in the next month.

Results:

* `number_ofNumber` : the day of a number has this number;
* `time_ofTime` : the moment of a time has this time.
-/

namespace IconAssets
namespace Shell

/-- A day of the calendar. -/
structure Day where
  year : Int
  month : Int
  day : Int
  deriving DecidableEq, Repr

namespace Day

/-- The number of the first day of 1970, counted from the first of March in the year zero. -/
def epoch : Int := 719468

/-- The number of days before a month, counted from March on. -/
def before (month : Int) : Int := (153 * month + 2) / 5

/-- The number of a day. -/
def number (d : Day) : Int :=
  let months := 12 * d.year + d.month - 3
  let year := months / 12
  365 * year + year / 4 - year / 100 + year / 400 + before (months % 12) + (d.day - 1) - epoch

/-- The number of a year, as so many times four hundred years, one hundred, four and one. -/
def yearOf (ages centuries cycles years : Int) : Int :=
  400 * ages + 100 * centuries + 4 * cycles + years

/-- The day of a month and a number of days before it in a year, both counted from March on. -/
def inYear (year month days : Int) : Day :=
  ⟨if month < 10 then year else year + 1, if month < 10 then month + 3 else month - 9, days + 1⟩

/-- The day of a number. -/
def ofNumber (n : Int) : Day :=
  let ofAge := (n + epoch) % 146097
  let centuries := min (ofAge / 36524) 3
  let ofCentury := ofAge - 36524 * centuries
  let years := min (ofCentury % 1461 / 365) 3
  let ofYear := ofCentury % 1461 - 365 * years
  let month := (5 * ofYear + 2) / 153
  inYear (yearOf ((n + epoch) / 146097) centuries (ofCentury / 1461) years) month
    (ofYear - before month)

/-- The day of the week, from Sunday on. -/
def weekday (d : Day) : Int := (d.number + 4) % 7

/-- The number of days since the first one of the year. -/
def ofYear (d : Day) : Int := d.number - (Day.mk d.year 1 1).number

/-- The number of the week of a year whose first week starts with the first day of a kind. -/
def weekFrom (first : Int) (d : Day) : Int := (d.ofYear + 7 - (d.weekday - first) % 7) / 7

/-- The year and the number of a week that starts on Monday and belongs to the year with most of
its days. -/
def week (d : Day) : Int × Int :=
  let thursday := ofNumber (d.number - (d.weekday + 6) % 7 + 3)
  (thursday.year, thursday.ofYear / 7 + 1)

/-- A year has as many leap days before it as there are fourth years, less the hundredth ones that
are no four hundredth ones. -/
theorem leapDays_yearOf (ages : Int) {centuries cycles years : Int}
    (hc : 0 ≤ centuries ∧ centuries ≤ 3) (hf : 0 ≤ cycles ∧ cycles ≤ 24)
    (hy : 0 ≤ years ∧ years ≤ 3) :
    yearOf ages centuries cycles years / 4 - yearOf ages centuries cycles years / 100 +
      yearOf ages centuries cycles years / 400 = 97 * ages + 24 * centuries + cycles := by
  unfold yearOf
  omega

/-- Months behind December belong to the year in which they started to be counted. -/
theorem number_inYear (year : Int) {month : Int} (days : Int) (h : 0 ≤ month ∧ month ≤ 11) :
    (inYear year month days).number =
      365 * year + year / 4 - year / 100 + year / 400 + before month + days - epoch := by
  have hm : 12 * (inYear year month days).year + (inYear year month days).month - 3 =
      12 * year + month := by
    unfold inYear
    split <;> simp <;> omega
  have hy : (12 * year + month) / 12 = year := by omega
  have hr : (12 * year + month) % 12 = month := by omega
  have hd : (inYear year month days).day - 1 = days := Int.add_sub_cancel days 1
  simp only [number, hm, hy, hr, hd]

/-- The day of a number has this number. -/
theorem number_ofNumber (n : Int) : (ofNumber n).number = n := by
  unfold ofNumber
  dsimp only
  have ha : 0 ≤ (n + epoch) % 146097 ∧ (n + epoch) % 146097 ≤ 146096 := by omega
  have hn : n + epoch = 146097 * ((n + epoch) / 146097) + (n + epoch) % 146097 := by omega
  generalize (n + epoch) / 146097 = ages, (n + epoch) % 146097 = ofAge at *
  have hc : 0 ≤ min (ofAge / 36524) 3 ∧ min (ofAge / 36524) 3 ≤ 3 ∧
      0 ≤ ofAge - 36524 * min (ofAge / 36524) 3 ∧
      ofAge - 36524 * min (ofAge / 36524) 3 ≤ 36524 := by omega
  generalize min (ofAge / 36524) 3 = centuries at *
  obtain ⟨hc0, hc3, hr0, hr⟩ := hc
  have hd : ofAge = 36524 * centuries + (ofAge - 36524 * centuries) := by omega
  generalize ofAge - 36524 * centuries = ofCentury at *
  have hy : 0 ≤ min (ofCentury % 1461 / 365) 3 ∧ min (ofCentury % 1461 / 365) 3 ≤ 3 ∧
      0 ≤ ofCentury % 1461 - 365 * min (ofCentury % 1461 / 365) 3 ∧
      ofCentury % 1461 - 365 * min (ofCentury % 1461 / 365) 3 ≤ 365 := by omega
  have hf : 0 ≤ ofCentury / 1461 ∧ ofCentury / 1461 ≤ 24 := by omega
  have he : ofCentury = 1461 * (ofCentury / 1461) + ofCentury % 1461 := by omega
  generalize min (ofCentury % 1461 / 365) 3 = years at *
  generalize ofCentury / 1461 = cycles, ofCentury % 1461 = ofCycle at *
  obtain ⟨hy0, hy3, hs0, hs⟩ := hy
  have hl := leapDays_yearOf ages ⟨hc0, hc3⟩ hf ⟨hy0, hy3⟩
  rw [number_inYear _ _ (by omega)]
  have hv : yearOf ages centuries cycles years =
    400 * ages + 100 * centuries + 4 * cycles + years := rfl
  omega

end Day

/-- A day with a time on it. -/
structure Moment where
  date : Day
  hour : Int
  minute : Int
  second : Int
  /-- A part of a second, as a number of nanoseconds. -/
  fraction : Int
  deriving DecidableEq, Repr

namespace Moment

/-- The number of nanoseconds in a second. -/
def resolution : Int := 1000000000

/-- The number of seconds of a moment. -/
def seconds (m : Moment) : Int :=
  ((m.date.number * 24 + m.hour) * 60 + m.minute) * 60 + m.second

/-- The time of a moment. -/
def time (m : Moment) : Int := m.seconds * resolution + m.fraction

/-- The moment of a time. -/
def ofTime (time : Int) : Moment :=
  let s := time / resolution
  ⟨.ofNumber (s / 86400), s / 3600 % 24, s / 60 % 60, s % 60, time % resolution⟩

/-- Whether all parts of a moment are in their ranges. -/
def isProper (m : Moment) : Bool := ofTime m.time = m

/-- The moment of a time has this time. -/
theorem time_ofTime (t : Int) : (ofTime t).time = t := by
  simp only [ofTime, time, seconds, Day.number_ofNumber, resolution]
  omega

end Moment

end Shell
end IconAssets
