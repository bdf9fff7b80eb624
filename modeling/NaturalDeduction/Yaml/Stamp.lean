import NaturalDeduction.Number.Digits
import NaturalDeduction.Text.Quoted
import NaturalDeduction.Yaml.Character
import NaturalDeduction.Yaml.Fault

/-!
# Dates in YAML documents

A date is a year, a month and a day, and it may go on with a time of day, fractions of a second and
the distance of the clock from universal time (`Stamp.parse?`). A date must be in the calendar
(`Stamp.check`). Nothing is done with a date but to show it (`Stamp.literal`).
-/

namespace NaturalDeduction.Yaml

/-- The time of day of a date. -/
structure Clock where
  /-- The hour. -/
  hour : Nat
  /-- The minute. -/
  minute : Nat
  /-- The second. -/
  second : Nat
  /-- The fraction in millionths of a second. -/
  fraction : Nat
  /-- The distance from universal time in minutes, if it is given. -/
  offset : Option Int

/-- A date, which may have a time of day. -/
structure Stamp where
  /-- The year. -/
  year : Nat
  /-- The month. -/
  month : Nat
  /-- The day. -/
  day : Nat
  /-- The time of day. -/
  clock : Option Clock

namespace Stamp

/-- A number of at least `least` and at most `most` digits at the front of a text. -/
def number? (least most : Nat) (s : List Char) : Option (Nat × List Char) :=
  let digits := (s.take most).takeWhile Char.isDigit
  if digits.length < least then none
  else some (Digits.ofDigits 10 digits, s.drop digits.length)

/-- A text after a given character. -/
def after? (c : Char) : List Char → Option (List Char)
  | d :: s => if c == d then some s else none
  | [] => none

/-- A fraction in millionths, of which further digits are dropped. -/
def millionths (digits : List Char) : Nat :=
  let kept := digits.take 6
  Digits.ofDigits 10 (kept ++ List.replicate (6 - kept.length) '0')

/-- The minutes of a distance from universal time, up to the end of the text. -/
def offset? (s : List Char) : Option Int :=
  match s with
  | ['Z'] => some 0
  | sign :: t =>
    if sign != '-' && sign != '+' then none
    else do
      let (hours, t) ← number? 1 2 t
      let minutes ←
        match t with
        | [] => some 0
        | ':' :: t =>
          match number? 2 2 t with
          | some (n, []) => some n
          | _ => none
        | _ => none
      let n : Int := hours * 60 + minutes
      some (if sign == '-' then -n else n)
  | [] => none

/-- A time of day up to the end of the text. -/
def clock? (s : List Char) : Option Clock := do
  let (hour, s) ← number? 1 2 s
  let (minute, s) ← number? 2 2 (← after? ':' s)
  let (second, s) ← number? 2 2 (← after? ':' s)
  let (digits, s) :=
    match s with
    | '.' :: t => (t.takeWhile Char.isDigit, t.dropWhile Char.isDigit)
    | t => ([], t)
  let fraction := millionths digits
  if s.isEmpty then some ⟨hour, minute, second, fraction, none⟩
  else
    let s := s.dropWhile fun c => c == ' ' || c == '\t'
    some ⟨hour, minute, second, fraction, some (← offset? s)⟩

/-- The date that a text is, where a line feed at its end does not count. -/
def parse? (s : List Char) : Option Stamp := do
  let (year, s) ← number? 4 4 (withoutFinalBreak s)
  let (month, s) ← number? 1 2 (← after? '-' s)
  let (day, s) ← number? 1 2 (← after? '-' s)
  match s with
  | [] => some ⟨year, month, day, none⟩
  | c :: t =>
    if c == 'T' || c == 't' then some ⟨year, month, day, some (← clock? t)⟩
    else if c == ' ' || c == '\t' then
      some ⟨year, month, day, some (← clock? (t.dropWhile fun c => c == ' ' || c == '\t'))⟩
    else none

/-- Whether a plain text is a date: without a time of day, month and day have two digits each. -/
def isStamp (s : List Char) : Bool :=
  match parse? s with
  | some d => d.clock.isSome || s.length == 10
  | none => false

/-! ## The calendar -/

/-- Whether a year has an intercalary day. -/
def isLeap (year : Nat) : Bool :=
  year % 4 == 0 && (year % 100 != 0 || year % 400 == 0)

/-- The number of days of a month. -/
def daysIn (year month : Nat) : Nat :=
  if month = 2 then (if isLeap year then 29 else 28)
  else if month = 4 ∨ month = 6 ∨ month = 9 ∨ month = 11 then 30
  else 31

/-! ## Text -/

/-- A span of minutes as days and seconds. -/
def spanText (minutes : Int) : String :=
  let days := Int.fdiv minutes 1440
  let seconds := Int.fmod minutes 1440 * 60
  let parts := (if days = 0 then [] else ["days=" ++ toString days]) ++
    (if seconds = 0 then [] else ["seconds=" ++ toString seconds])
  "datetime.timedelta(" ++ (if parts.isEmpty then "0" else ", ".intercalate parts) ++ ")"

/-- The zone of a clock. -/
def zoneText (minutes : Int) : String :=
  if minutes = 0 then "datetime.timezone.utc"
  else "datetime.timezone(" ++ spanText minutes ++ ")"

/-- The parts of a time of day that are shown: seconds and fractions are left out if they are zero
and nothing follows. -/
def clockParts (c : Clock) : List Nat :=
  if c.fraction ≠ 0 then [c.hour, c.minute, c.second, c.fraction]
  else if c.second ≠ 0 then [c.hour, c.minute, c.second]
  else [c.hour, c.minute]

/-- The written form of a date. -/
def literal (d : Stamp) : String :=
  let date := [d.year, d.month, d.day]
  match d.clock with
  | none => "datetime.date(" ++ ", ".intercalate (date.map toString) ++ ")"
  | some c =>
    let zone :=
      match c.offset with
      | some minutes => ", tzinfo=" ++ zoneText minutes
      | none => ""
    "datetime.datetime(" ++ ", ".intercalate ((date ++ clockParts c).map toString) ++ zone ++ ")"

/-- What is out of its range in a time of day, if anything is. -/
def clockFault? (c : Clock) : Option String :=
  if 23 < c.hour then some "hour must be in 0..23"
  else if 59 < c.minute then some "minute must be in 0..59"
  else if 59 < c.second then some "second must be in 0..59"
  else none

/-- What is wrong with the zone of a clock, if anything is. -/
def zoneFault? (c : Clock) : Option String :=
  match c.offset with
  | some minutes =>
    if minutes.natAbs < 1440 then none
    else
      some ("offset must be a timedelta strictly between -timedelta(hours=24) and " ++
        "timedelta(hours=24), not " ++ spanText minutes ++ ".")
  | none => none

/-- What is out of its range in the day of a date, if anything is. -/
def dayFault? (d : Stamp) : Option String :=
  if d.year = 0 then some "year 0 is out of range"
  else if d.month < 1 ∨ 12 < d.month then some "month must be in 1..12"
  else if d.day < 1 ∨ daysIn d.year d.month < d.day then some "day is out of range for month"
  else none

/-- What is out of its range in a date, if anything is. -/
def fault? (d : Stamp) : Option String :=
  (d.clock.bind zoneFault?).orElse fun _ =>
    (dayFault? d).orElse fun _ => d.clock.bind clockFault?

/-- The written form of the date that a text is. -/
def read (s : List Char) : Except Fault String :=
  match parse? s with
  | none => .error .notDate
  | some d =>
    match d.fault? with
    | some reason => .error (.outOfRange reason)
    | none => .ok d.literal

end Stamp

end NaturalDeduction.Yaml
