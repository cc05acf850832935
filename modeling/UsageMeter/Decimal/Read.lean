import UsageMeter.Text.Blank
import UsageMeter.Text.Digits

/-!
Reading decimal texts as the doubles nearest to them. White space around a numeral and underscores
in it mean nothing, and the decimal digits of every script count.
-/
namespace UsageMeter.Decimal

/-- The natural that a run of digits writes. -/
def readNat (cs : List Char) : Nat :=
  cs.foldl (fun n c => n * 10 + (c.toNat - '0'.toNat)) 0

/-- The double nearest to an integer divided by a power of ten. -/
def scaled (m : Int) (places : Nat) : Float :=
  let x := Float.ofScientific m.natAbs true places
  if m < 0 then -x else x

def readExponent : List Char → Int
  | _ :: '-' :: cs => -(readNat cs : Int)
  | _ :: '+' :: cs => readNat cs
  | _ :: cs => readNat cs
  | [] => 0

def readMagnitude (cs : List Char) : Float :=
  let whole := cs.takeWhile Char.isDigit
  let rest := cs.dropWhile Char.isDigit
  let (fraction, rest) := match rest with
    | '.' :: r => (r.takeWhile Char.isDigit, r.dropWhile Char.isDigit)
    | r => ([], r)
  let e := readExponent rest - (fraction.length : Int)
  Float.ofScientific (readNat (whole ++ fraction)) (e < 0) e.natAbs

def plainNumeral (cs : List Char) : List Char :=
  ((Text.strip Text.isBlank cs).filter (· ≠ '_')).map fun c =>
    ((Text.decimalDigit? c).map Text.digitChar).getD c

/-- Reads a numeral with an optional sign, or a name of infinity or of what is no number. -/
def read (s : String) : Float :=
  let (negative, cs) := match plainNumeral s.toList with
    | '-' :: r => (true, r)
    | '+' :: r => (false, r)
    | r => (false, r)
  let word := String.ofList (cs.map Char.toLower)
  let x : Float :=
    if word = "nan" then 0.0 / 0.0
    else if word = "inf" || word = "infinity" then 1.0 / 0.0
    else readMagnitude cs
  if negative then -x else x

end UsageMeter.Decimal
