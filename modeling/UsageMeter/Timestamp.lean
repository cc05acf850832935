import UsageMeter.Decimal.Layout
import UsageMeter.Value.Basic

/-!
Points in time given as seconds since the start of 1970, and their written form in universal time
with microseconds where there are any.
-/
namespace UsageMeter

/-- A point in time; the microseconds are below one million. -/
structure Timestamp where
  seconds : Int
  microseconds : Nat
deriving DecidableEq

/-- A day of the calendar that runs through all years by the same leap year rule. -/
structure CalendarDay where
  year : Int
  month : Nat
  day : Nat
deriving DecidableEq

namespace Timestamp

/-- Why a value is no point in time that can be written. -/
inductive Error where
  | undefined
  | outOfRange
  | tooLarge
  | yearOutOfRange (year : Int)
  | notNumber (kind : String)
deriving DecidableEq

/-- What kind of failure it is. -/
def Error.className : Error → String
  | .undefined | .yearOutOfRange _ => "ValueError"
  | .outOfRange => "OverflowError"
  | .tooLarge => "OSError"
  | .notNumber _ => "TypeError"

def Error.message : Error → String
  | .undefined => "Invalid value NaN (not a number)"
  | .outOfRange => "timestamp out of range for platform time_t"
  | .tooLarge => "[Errno 75] Value too large for defined data type"
  | .yearOutOfRange year => "year " ++ toString year ++ " is out of range"
  | .notNumber kind => "'" ++ kind ++ "' object cannot be interpreted as an integer"

/-- The whole seconds of a double and the rest in microseconds, rounded half to even. -/
def split (x : Float) : Int × Int :=
  let whole := if x < 0.0 then x.ceil else x.floor
  let toInt (y : Float) : Int :=
    match Decimal.Double.ofFloat y with
    | .finite negative m e =>
      let n : Int := (Decimal.Ratio.scaled m 2 e).round
      if negative then -n else n
    | _ => 0
  (toInt whole, toInt ((x - whole) * 1000000.0))

/-- Moves whole seconds out of the microseconds. -/
def carry (seconds microseconds : Int) : Timestamp :=
  if 1000000 ≤ microseconds then ⟨seconds + 1, (microseconds - 1000000).toNat⟩
  else if microseconds < 0 then ⟨seconds - 1, (microseconds + 1000000).toNat⟩
  else ⟨seconds, microseconds.toNat⟩

/-- Seconds are counted in sixty-four bits. -/
def inRange (seconds : Int) : Bool :=
  -Int.pow 2 63 ≤ seconds && seconds < Int.pow 2 63

/-- The seconds of a double may also be the first number above those, since it is what the last one
of them is as a double. -/
def inDoubleRange (seconds : Int) : Bool :=
  -Int.pow 2 63 ≤ seconds && seconds ≤ Int.pow 2 63

/-- The point in time that a value stands for. -/
def ofValue (v : Value) : Except Error Timestamp :=
  match v with
  | .float x =>
    match Decimal.Double.ofFloat x with
    | .nan => .error .undefined
    | .infinite _ => .error .outOfRange
    | .finite _ _ _ =>
      let (seconds, microseconds) := split x
      let t := carry seconds microseconds
      if inDoubleRange t.seconds then .ok t else .error .outOfRange
  | .int i => if inRange i then .ok ⟨i, 0⟩ else .error .outOfRange
  | .bool b => .ok ⟨if b then 1 else 0, 0⟩
  | _ => .error (.notNumber v.kind)

end Timestamp

/-- The day with a number, day zero being the first of 1970; years are counted from March. -/
def CalendarDay.ofNumber (n : Int) : CalendarDay :=
  let z := n + 719468
  let era := z / 146097
  let dayOfEra := (z % 146097).toNat
  let yearOfEra := (dayOfEra - dayOfEra / 1460 + dayOfEra / 36524 - dayOfEra / 146096) / 365
  let dayOfYear := dayOfEra - (365 * yearOfEra + yearOfEra / 4 - yearOfEra / 100)
  let marchMonth := (5 * dayOfYear + 2) / 153
  let day := dayOfYear - (153 * marchMonth + 2) / 5 + 1
  let month := if marchMonth < 10 then marchMonth + 3 else marchMonth - 9
  ⟨(yearOfEra : Int) + era * 400 + (if month ≤ 2 then 1 else 0), month, day⟩

namespace Timestamp

/-- A natural with at least the given number of digits. -/
def field (width n : Nat) : List Char :=
  Decimal.paddedNat width n

/-- The written form; only the years from 1 to 9999 have one. -/
def written (t : Timestamp) : Except Error String :=
  let day := CalendarDay.ofNumber (t.seconds / 86400)
  let clock := (t.seconds % 86400).toNat
  if day.year - 1900 < -Int.pow 2 31 || Int.pow 2 31 ≤ day.year - 1900 then .error .tooLarge
  else if day.year < 1 || 9999 < day.year then
    .error (.yearOutOfRange (Int.bmod day.year (Nat.pow 2 32)))
  else
    let date := field 4 day.year.toNat ++ '-' :: field 2 day.month ++ '-' :: field 2 day.day
    let time := field 2 (clock / 3600) ++ ':' :: field 2 (clock / 60 % 60) ++
      ':' :: field 2 (clock % 60)
    let fraction := if t.microseconds = 0 then [] else '.' :: field 6 t.microseconds
    .ok (String.ofList (date ++ 'T' :: time ++ fraction ++ ['+', '0', '0', ':', '0', '0']))

/-- The written form of the point in time that a value stands for. -/
def writtenOfValue (v : Value) : Except Error String := do
  (← ofValue v).written

end Timestamp
end UsageMeter
