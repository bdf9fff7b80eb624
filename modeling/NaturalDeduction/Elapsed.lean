import NaturalDeduction.Level

/-!
# Elapsed time in log lines

Log lines tell the time since a reference point. It is rounded to microseconds, a half to the even
neighbour, and written as days, hours, minutes and seconds with six places, or without places when
these are all zero. The last three characters are left off, whatever they are: usually the
microseconds, so that milliseconds remain.
-/

namespace NaturalDeduction.Elapsed

/-- A thousand times a thousand. -/
def million : Int := 1000000

/-- A whole number and a fraction `rest` of one, to the nearest whole number; a half goes to the
even neighbour. -/
def roundRest (n : Int) (rest : Binary64) : Int :=
  let half := Extent.quotient 1 2
  let size := (match rest with
    | .finite _ mantissa exponent => Binary64.finite false mantissa exponent
    | x => x).extent
  let next := if rest.extent.lt (.ofInt 0) then n - 1 else n + 1
  if half.lt size then next
  else if size.same half then (if n % 2 = 0 then n else next)
  else n

/-- A number of seconds in microseconds, if it is finite. The whole seconds are split off first,
since they are exact. -/
def microseconds? (seconds : Binary64) : Option Int := do
  let whole ← seconds.truncate?
  let part := (Binary64.ofInt million).mul (seconds.sub (.ofInt whole))
  let units ← part.truncate?
  return roundRest (whole * million + units) (part.sub (.ofInt units))

/-- A number with at least `width` digits. -/
def padded (width n : Nat) : String :=
  let digits := Nat.toDigits 10 n
  String.ofList (List.replicate (width - digits.length) '0' ++ digits)

/-- A number of microseconds as days and time of day. A negative number has negative days and a
positive time of day. -/
def text (microseconds : Int) : String :=
  let seconds := Int.fdiv microseconds million
  let fraction := (Int.fmod microseconds million).toNat
  let days := Int.fdiv seconds 86400
  let ofDay := (Int.fmod seconds 86400).toNat
  let dayText :=
    if days = 0 then ""
    else toString days ++ (if days.natAbs = 1 then " day, " else " days, ")
  dayText ++ toString (ofDay / 3600) ++ ":" ++ padded 2 (ofDay / 60 % 60) ++ ":" ++
    padded 2 (ofDay % 60) ++ (if fraction = 0 then "" else "." ++ padded 6 fraction)

/-- The text of elapsed time as it stands in a log line. -/
def shortText (microseconds : Int) : String :=
  let full := (text microseconds).toList
  String.ofList (full.take (full.length - 3))

/-- A text filled up to five characters. -/
def column (s : String) : String :=
  s ++ String.ofList (List.replicate (5 - s.length) ' ')

/-- A number of milliseconds in seconds. -/
def seconds? : Value → Option Binary64
  | .float x => some (x.div (.ofInt 1000))
  | v => v.toInt?.map fun n => .ofExtent (.quotient n 1000)

/-- The seconds from a reference point, which is given in seconds, to a time in milliseconds. -/
def since (relativeMs reference : Value) : Except Error Binary64 :=
  match seconds? relativeMs, reference.toFloat? with
  | some s, some r => .ok (s.sub r)
  | _, _ => .error .wrongKind

/-- A log line for a record made `relativeMs` milliseconds after the start, with a reference point
`reference` seconds after the start. -/
def logLine (relativeMs reference level message : Value) : Except Error String := do
  let some n := microseconds? (← since relativeMs reference) | .error .wrongKind
  .ok (column (← Level.nameOf level) ++ " - " ++ shortText n ++ ": " ++ message.display)

end NaturalDeduction.Elapsed
