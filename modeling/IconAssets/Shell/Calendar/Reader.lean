import IconAssets.Shell.Calendar.Basic

/-!
# Reading moments

A text tells a moment in parts that may stand in any order: a day, a time of day, a zone, a day of
the week, and steps forward or back.  What is not told is taken from a moment that is given, except
that a day without a time starts at midnight.  No part may be told twice.
-/

namespace IconAssets
namespace Shell

/-- How far one moment is from another. -/
structure Shift where
  months : Int
  days : Int
  nanoseconds : Int
  deriving DecidableEq, Repr

namespace Shift

/-- No step at all. -/
def none : Shift := ⟨0, 0, 0⟩

/-- A step a number of times. -/
def times (n : Int) (s : Shift) : Shift := ⟨n * s.months, n * s.days, n * s.nanoseconds⟩

/-- One step after another. -/
def and (s t : Shift) : Shift :=
  ⟨s.months + t.months, s.days + t.days, s.nanoseconds + t.nanoseconds⟩

/-- A number of seconds. -/
def ofSeconds (n : Int) : Shift := ⟨0, 0, n * Moment.resolution⟩

/-- The units by their names. -/
def units : List (String × Shift) :=
  [("YEAR", ⟨12, 0, 0⟩), ("MONTH", ⟨1, 0, 0⟩), ("FORTNIGHT", ⟨0, 14, 0⟩), ("WEEK", ⟨0, 7, 0⟩),
    ("DAY", ⟨0, 1, 0⟩), ("HOUR", ofSeconds 3600), ("MINUTE", ofSeconds 60), ("MIN", ofSeconds 60),
    ("SECOND", ofSeconds 1), ("SEC", ofSeconds 1)]

end Shift

/-- A word, a number or a mark in what tells a moment. -/
inductive MomentToken where
  | number (value digits : Nat)
  /-- A number with a sign. -/
  | signed (value : Int) (digits : Nat)
  /-- A number of nanoseconds that is told in seconds; whether it has a sign. -/
  | decimal (hasSign : Bool) (value : Int)
  | month (number : Int)
  | weekday (number : Int)
  /-- Whether an hour is behind noon. -/
  | half (isLater : Bool)
  | unit (step : Shift)
  | ordinal (number : Int)
  | away (days : Int)
  /-- The direction of the step in front. -/
  | ago (sign : Int)
  /-- The minutes that a zone is ahead of the middle one. -/
  | zone (minutes : Int)
  | summer
  | mark (c : Char)
  deriving DecidableEq, Repr

namespace MomentToken

/-- The names of the months. -/
def months : List String :=
  ["JANUARY", "FEBRUARY", "MARCH", "APRIL", "MAY", "JUNE", "JULY", "AUGUST", "SEPTEMBER", "OCTOBER",
    "NOVEMBER", "DECEMBER"]

/-- The names of the days of the week. -/
def weekdays : List String :=
  ["SUNDAY", "MONDAY", "TUESDAY", "WEDNESDAY", "THURSDAY", "FRIDAY", "SATURDAY"]

/-- The zones by their names, in minutes. -/
def zones : List (String × Int) :=
  [("GMT", 0), ("UT", 0), ("UTC", 0), ("WET", 0), ("WEST", 60), ("BST", 60), ("ART", -180),
    ("BRT", -180), ("BRST", -120), ("NST", -210), ("NDT", -150), ("AST", -240), ("ADT", -180),
    ("CLT", -240), ("CLST", -180), ("EST", -300), ("EDT", -240), ("CST", -360), ("CDT", -300),
    ("MST", -420), ("MDT", -360), ("PST", -480), ("PDT", -420), ("AKST", -540), ("AKDT", -480),
    ("HST", -600), ("HAST", -600), ("HADT", -540), ("SST", -720), ("WAT", 60), ("CET", 60),
    ("CEST", 120), ("MET", 60), ("MEZ", 60), ("MEST", 120), ("MESZ", 120), ("EET", 120),
    ("EEST", 180), ("CAT", 120), ("SAST", 120), ("EAT", 180), ("MSK", 180), ("MSD", 240),
    ("IST", 330), ("SGT", 480), ("KST", 540), ("JST", 540), ("GST", 600), ("NZST", 720),
    ("NZDT", 780)]

/-- Other words. -/
def words : List (String × MomentToken) :=
  [("AM", .half false), ("A.M.", .half false), ("PM", .half true), ("P.M.", .half true),
    ("SEPT", .month 9), ("TUES", .weekday 2), ("WEDNES", .weekday 3), ("THUR", .weekday 4),
    ("THURS", .weekday 4), ("DST", .summer), ("TOMORROW", .away 1), ("YESTERDAY", .away (-1)),
    ("TODAY", .away 0), ("NOW", .away 0), ("LAST", .ordinal (-1)), ("THIS", .ordinal 0),
    ("NEXT", .ordinal 1), ("FIRST", .ordinal 1), ("THIRD", .ordinal 3), ("FOURTH", .ordinal 4),
    ("FIFTH", .ordinal 5), ("SIXTH", .ordinal 6), ("SEVENTH", .ordinal 7), ("EIGHTH", .ordinal 8),
    ("NINTH", .ordinal 9), ("TENTH", .ordinal 10), ("ELEVENTH", .ordinal 11),
    ("TWELFTH", .ordinal 12), ("AGO", .ago (-1)), ("HENCE", .ago 1)]

/-- The zone of a letter, in hours. -/
def letterZone? (c : Char) : Option Int :=
  if 'A' ≤ c && c ≤ 'I' then some (c.toNat - 64 : Nat)
  else if 'K' ≤ c && c ≤ 'M' then some (c.toNat - 65 : Nat)
  else if 'N' ≤ c && c ≤ 'Y' && c ≠ 'T' then some (-((c.toNat - 77 : Nat) : Int))
  else if c = 'J' || c = 'Z' then some 0
  else none

/-- The place of a name in a list, if a word is the name or its first three letters. -/
def placeOf? (names : List String) (word : String) : Option Nat :=
  let letters := word.toList
  let short := letters.length = 3 || (letters.length = 4 && word.endsWith ".")
  names.findIdx? fun n => n = word || (short && letters.take 3 = n.toList.take 3)

/-- What a word in capital letters means. -/
def ofWord? (word : String) : Option MomentToken :=
  let singular := if word.endsWith "S" then String.ofList word.toList.dropLast else word
  ((words.lookup word).filter fun t => t matches .half _) <|>
    ((placeOf? months word).map fun n => .month (n + 1)) <|>
    ((placeOf? weekdays word).map fun n => .weekday n) <|>
    ((zones.lookup word).map .zone) <|>
    ((Shift.units.lookup word <|> Shift.units.lookup singular).map .unit) <|>
    words.lookup word <|>
    (match word.toList with
    | ['T'] => some (.mark 'T')
    | [c] => (letterZone? c).map fun h => .zone (60 * h)
    | letters => (zones.lookup (String.ofList (letters.filter (· ≠ '.')))).map .zone)

/-- Whether a character is a blank. -/
def isBlank (c : Char) : Bool := c = ' ' || ('\t' ≤ c && c ≤ '\r')

/-- The number of nanoseconds of digits behind a point. -/
def nanoseconds (digits : Text) : Nat :=
  Nat.ofDigitChars 10 ((digits ++ List.replicate 9 '0').take 9) 0

/-- The number at the start of a text, and the rest. -/
def numberAt (sign : Option Int) (t : Text) : MomentToken × Text :=
  let digits := t.takeWhile Char.isDigit
  let behind := t.drop digits.length
  let value := Nat.ofDigitChars 10 digits 0
  let fraction := match behind with
    | c :: more => if c = '.' || c = ',' then more.takeWhile Char.isDigit else []
    | [] => []
  let plain : MomentToken :=
    match sign with
    | none => .number value digits.length
    | some s => .signed (s * value) digits.length
  if fraction = [] then (plain, behind)
  else
    (.decimal sign.isSome (sign.getD 1 * (value * Moment.resolution + nanoseconds fraction)),
      behind.drop (fraction.length + 1))

/-- The text behind a comment in parentheses, which may hold others. -/
def behindComment : Nat → Text → Text
  | _, [] => []
  | depth, '(' :: t => behindComment (depth + 1) t
  | 0, t => t
  | depth + 1, ')' :: t => if depth = 0 then t else behindComment depth t
  | depth + 1, _ :: t => behindComment (depth + 1) t

/-- The parts of a text, unless a word is unknown. -/
def ofText? : Nat → Text → Option (List MomentToken)
  | 0, _ => none
  | _ + 1, [] => some []
  | fuel + 1, c :: t =>
    if isBlank c then ofText? fuel t
    else if c.isDigit then
      let r := numberAt none (c :: t)
      (ofText? fuel r.2).map (r.1 :: ·)
    else if c = '-' || c = '+' then
      let t := t.dropWhile isBlank
      if (t.head?).any Char.isDigit then
        let r := numberAt (some (if c = '-' then -1 else 1)) t
        (ofText? fuel r.2).map (r.1 :: ·)
      else ofText? fuel t
    else if c.isAlpha then
      let word := (c :: t).takeWhile fun x => x.isAlpha || x = '.'
      match ofWord? (String.ofList ((word.take 19).map Char.toUpper)) with
      | none => none
      | some token => (ofText? fuel ((c :: t).drop word.length)).map (token :: ·)
    else if c = '(' then ofText? fuel (behindComment 0 (c :: t))
    else (ofText? fuel t).map (.mark c :: ·)

end MomentToken

/-- The hour of a time of day, as it is told. -/
structure DayTime where
  hour : Int
  minute : Int
  nanoseconds : Int
  /-- Whether the hour is counted from noon on, where it is counted up to twelve. -/
  half : Option Bool
  deriving DecidableEq, Repr

/-- What has been told of a moment. -/
structure Told where
  /-- The year with the number of its digits, if it is told; the month; the day. -/
  dates : List (Option (Int × Nat) × Int × Int)
  /-- A year that is told by itself. -/
  year : Option (Int × Nat)
  times : List DayTime
  zones : List Int
  /-- The number of a day of the week, and which of those days is meant. -/
  weekdays : List (Int × Int)
  steps : List Shift

namespace Told

/-- Nothing. -/
def nothing : Told := ⟨[], none, [], [], [], []⟩

/-- More with a day. -/
def withDate (p : Told) (year : Option (Int × Nat)) (month day : Int) : Told :=
  { p with dates := (year, month, day) :: p.dates }

/-- More with a time of day. -/
def withTime (p : Told) (hour minute nanoseconds : Int) (half : Option Bool) : Told :=
  { p with times := ⟨hour, minute, nanoseconds, half⟩ :: p.times }

/-- More with a zone. -/
def withZone (p : Told) (minutes : Int) : Told := { p with zones := minutes :: p.zones }

/-- More with a step. -/
def withStep (p : Told) (n : Int) (step : Shift) : Told :=
  { p with steps := step.times n :: p.steps }

/-- More with a number that stands by itself: a year, a day or a time, by what has been told. -/
def withNumber (p : Told) (value digits : Nat) : Told :=
  if p.dates ≠ [] && p.year.isNone && (p.dates.all fun d => d.1.isNone) && p.steps = [] &&
      (p.times ≠ [] || 2 < digits) then
    { p with year := some (value, digits) }
  else if 4 < digits then
    p.withDate (some ((value / 10000 : Nat), digits - 4)) (value / 100 % 100 : Nat) (value % 100 : Nat)
  else if digits ≤ 2 then p.withTime value 0 0 none
  else p.withTime (value / 100 : Nat) (value % 100 : Nat) 0 none

/-- The minutes of a zone that is told by a number, and perhaps by minutes behind a colon. -/
def minutesOf (value : Int) (digits : Nat) (minutes : Option Nat) : Int :=
  match minutes with
  | some m => if value < 0 then 60 * value - m else 60 * value + m
  | none => if digits ≤ 2 then 60 * value else 60 * value.tdiv 100 + value.tmod 100

/-- The zone that is told by a number at the start, if there is one, and the rest. -/
def zoneAt (p : Told) : List MomentToken → Told × List MomentToken
  | .signed n digits :: .mark ':' :: .number m _ :: more =>
    (p.withZone (minutesOf n digits (some m)), more)
  | .signed n digits :: more => (p.withZone (minutesOf n digits none), more)
  | more => (p, more)

/-- More with what follows an hour, its minute and its seconds: a half of the day or a zone. -/
def closeTime (p : Told) (hour minute nanoseconds : Int) (more : List MomentToken) :
    Told × List MomentToken :=
  match more with
  | .half h :: more => (p.withTime hour minute nanoseconds (some h), more)
  | more => (p.withTime hour minute nanoseconds none).zoneAt more

/-- More with what an hour and a colon begin. -/
def timeAt (p : Told) (hour : Nat) (more : List MomentToken) : Option (Told × List MomentToken) :=
  match more with
  | .number m _ :: .mark ':' :: .number s _ :: more =>
    some (p.closeTime hour m (s * Moment.resolution) more)
  | .number m _ :: .mark ':' :: .decimal false s :: more => some (p.closeTime hour m s more)
  | .number m _ :: more => some (p.closeTime hour m 0 more)
  | _ => none

/-- A step with its direction behind it. -/
def stepAt (p : Told) (n : Int) (step : Shift) (more : List MomentToken) :
    Told × List MomentToken :=
  match more with
  | .ago sign :: more => (p.withStep (sign * n) step, more)
  | more => (p.withStep n step, more)

/-- A step of seconds. -/
def isSecond (step : Shift) : Bool := step = .ofSeconds 1

/-- More with what a number without a sign begins. -/
def numberAt (p : Told) (n digits : Nat) (more : List MomentToken) :
    Option (Told × List MomentToken) :=
  match more with
  | .half h :: more => some (p.withTime n 0 0 (some h), more)
  | .mark ':' :: more => p.timeAt n more
  | .mark '/' :: .number m _ :: .mark '/' :: .number d k :: more =>
    some (if 4 ≤ digits then p.withDate (some (n, digits)) m d else p.withDate (some (d, k)) n m, more)
  | .mark '/' :: .number d _ :: more => some (p.withDate none n d, more)
  | .month m :: .signed y k :: more => some (p.withDate (some (-y, k)) m n, more)
  | .month m :: .number y k :: more => some (p.withDate (some (y, k)) m n, more)
  | .month m :: more => some (p.withDate none m n, more)
  | .signed m _ :: .signed d _ :: .mark 'T' :: .number h _ :: more =>
    let p := p.withDate (some (n, digits)) (-m) (-d)
    match more with
    | .mark ':' :: more => p.timeAt h more
    | .signed z w :: more => some ((p.withTime h 0 0 none).zoneAt (.signed z w :: more))
    | _ => none
  | .signed _ _ :: .signed _ _ :: .mark 'T' :: _ => none
  | .signed m _ :: .signed d _ :: more => some (p.withDate (some (n, digits)) (-m) (-d), more)
  | .signed s _ :: .unit step :: more => some ((p.withNumber n digits).stepAt s step more)
  | .signed _ _ :: _ => some ((p.withTime n 0 0 none).zoneAt more)
  | .unit step :: more => some (p.stepAt n step more)
  | .weekday w :: more => some ({ p with weekdays := (w, n) :: p.weekdays }, more)
  | more => some (p.withNumber n digits, more)

/-- More with what the first part of a text begins. -/
def itemAt (p : Told) : List MomentToken → Option (Told × List MomentToken)
  | .number n digits :: more => p.numberAt n digits more
  | .signed n _ :: .unit step :: more => some (p.stepAt n step more)
  | .decimal _ n :: .unit step :: more =>
    if isSecond step then some (p.stepAt n ⟨0, 0, 1⟩ more) else none
  | .month m :: .number d _ :: .mark ',' :: .number y k :: more =>
    some (p.withDate (some (y, k)) m d, more)
  | .month m :: .number d _ :: more => some (p.withDate none m d, more)
  | .month m :: .signed d _ :: .signed y k :: more => some (p.withDate (some (-y, k)) m (-d), more)
  | .weekday w :: .mark ',' :: more | .weekday w :: more =>
    some ({ p with weekdays := (w, 0) :: p.weekdays }, more)
  | .ordinal n :: .weekday w :: more => some ({ p with weekdays := (w, n) :: p.weekdays }, more)
  | .ordinal n :: .unit step :: more => some (p.stepAt n step more)
  | .unit step :: more => some (p.stepAt 1 step more)
  | .away n :: more => some (p.withStep n ⟨0, 1, 0⟩, more)
  | .zone z :: .signed n _ :: .unit step :: more => some ((p.withZone z).stepAt n step more)
  | .zone z :: .signed n digits :: .mark ':' :: .number m _ :: more =>
    some (p.withZone (z + minutesOf n digits (some m)), more)
  | .zone z :: .signed n digits :: more => some (p.withZone (z + minutesOf n digits none), more)
  | .zone z :: .summer :: more => some (p.withZone (z + 60), more)
  | .zone z :: more => some (p.withZone z, more)
  | .mark 'T' :: more => some (p.withZone (-420), more)
  | _ => none

/-- What is told by all parts of a text. -/
def ofTokens? : Nat → Told → List MomentToken → Option Told
  | _, p, [] => some p
  | 0, _, _ => none
  | fuel + 1, p, tokens => (p.itemAt tokens).bind fun r => ofTokens? fuel r.1 r.2

/-- A year that is told by two digits lies between 1969 and 2068. -/
def fullYear (year : Int × Nat) : Int :=
  if year.2 = 2 && 0 ≤ year.1 then if year.1 < 69 then year.1 + 2000 else year.1 + 1900 else year.1

/-- The hour of the day. -/
def hour? (t : DayTime) : Option Int :=
  match t.half with
  | none => if t.hour < 24 then some t.hour else none
  | some later =>
    if t.hour = 12 then some (if later then 12 else 0)
    else if 0 < t.hour && t.hour < 12 then some (if later then t.hour + 12 else t.hour)
    else none

/-- The greatest year that can be told. -/
def lastYear : Int := 2147485547

/-- The day of a moment on which the week is as it has been told. -/
def onWeekday (p : Told) (number : Int) : Int :=
  match p.dates, p.weekdays with
  | [], (w, n) :: _ =>
    let today := (number + 4) % 7
    number + (w - today) % 7 + 7 * (n - if 0 < n && today ≠ w then 1 else 0)
  | _, _ => number

/-- The time that is told, where the rest is taken from a moment. -/
def time? (p : Told) (now : Moment) : Option Int := do
  if 1 < p.dates.length || 1 < p.times.length || 1 < p.zones.length || 1 < p.weekdays.length then none
  let date : Day := match p.dates with
    | (year, month, day) :: _ => ⟨((year <|> p.year).map fullYear).getD now.date.year, month, day⟩
    | [] => now.date
  let keepsTime := p.steps ≠ [] && p.dates = [] && p.weekdays = []
  let start : Moment ← match p.times with
    | t :: _ => (hour? t).map fun h =>
      ⟨date, h, t.minute, t.nanoseconds / Moment.resolution, t.nanoseconds % Moment.resolution⟩
    | [] => some (if keepsTime then { now with date } else ⟨date, 0, 0, 0, 0⟩)
  if !start.isProper then none
  let step := p.steps.foldl Shift.and .none
  let day := Day.ofNumber (p.onWeekday date.number)
  let later : Moment :=
    { start with date := { day with month := day.month + step.months, day := day.day + step.days } }
  let zone := p.zones.headD 0
  if 1440 < zone.natAbs || lastYear < date.year.natAbs then none
  return later.time + step.nanoseconds - zone * 60 * Moment.resolution

end Told

namespace Moment

/-- The time that a text tells at a moment. -/
def timeOf? (now : Moment) (t : Text) : Option Int := do
  match ← MomentToken.ofText? (t.length + 1) t with
  | [.mark '@', .number n _] => return n * resolution
  | [.mark '@', .signed n _] => return n * resolution
  | [.mark '@', .decimal _ n] => return n
  | tokens => (← Told.ofTokens? (tokens.length + 1) .nothing tokens).time? now

/-- The time that a row of digits tells: the month, the day, the hour and the minute, with a year of
four or two digits in front or none, and with seconds behind a point, which may be a leap second. -/
def timeOfDigits? (now : Moment) (t : Text) : Option Int := do
  let digits := t.takeWhile Char.isDigit
  let second ← match t.drop digits.length with
    | [] => some 0
    | ['.', a, b] =>
      if a.isDigit && b.isDigit then some (Nat.ofDigitChars 10 [a, b] 0) else none
    | _ => none
  let at? (start : Nat) : Int := Nat.ofDigitChars 10 ((digits.drop start).take 2) 0
  let k := digits.length - 8
  let year : Int ← match digits.length with
    | 8 => some now.date.year
    | 10 => some (Told.fullYear (at? 0, 2))
    | 12 => some (100 * at? 0 + at? 2)
    | _ => none
  let m : Moment := ⟨⟨year, at? k, at? (k + 2)⟩, at? (k + 4), at? (k + 6), min second 59, 0⟩
  if m.isProper && second ≤ 60 then some (m.time + (second - min second 59) * resolution) else none

end Moment

end Shell
end IconAssets
