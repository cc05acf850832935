/-!
Double precision numbers as exact dyadic rationals, and the rounding of a quotient of naturals.
-/
namespace UsageMeter.Decimal

/-- What the bits of a double stand for; a finite one is `mantissa * 2 ^ exponent` with a sign. -/
inductive Double where
  | finite (negative : Bool) (mantissa : Nat) (exponent : Int)
  | infinite (negative : Bool)
  | nan
deriving DecidableEq

/-- Reads the sign, exponent and fraction fields. -/
def Double.ofFloat (x : Float) : Double :=
  let bits := x.toBits.toNat
  let negative : Bool := bits / Nat.pow 2 63 == 1
  let exponent : Nat := bits / Nat.pow 2 52 % Nat.pow 2 11
  let fraction := bits % Nat.pow 2 52
  if exponent = 2047 then if fraction = 0 then .infinite negative else .nan
  else if exponent = 0 then .finite negative fraction (-1074)
  else .finite negative (fraction + Nat.pow 2 52) ((exponent : Int) - 1075)

/-- A nonnegative rational as numerator and denominator; the denominator is positive. -/
structure Ratio where
  num : Nat
  den : Nat

/-- The rational `m * b ^ e`. -/
def Ratio.scaled (m b : Nat) (e : Int) : Ratio :=
  match e with
  | .ofNat k => ⟨m * Nat.pow b k, 1⟩
  | .negSucc k => ⟨m, Nat.pow b (k + 1)⟩

/-- The rational times `b ^ e`. -/
def Ratio.shift (r : Ratio) (b : Nat) (e : Int) : Ratio :=
  match e with
  | .ofNat k => ⟨r.num * Nat.pow b k, r.den⟩
  | .negSucc k => ⟨r.num, r.den * Nat.pow b (k + 1)⟩

/-- The nearest natural, a half going to the even neighbour. -/
def Ratio.round (r : Ratio) : Nat :=
  let q := r.num / r.den
  let twice := 2 * (r.num % r.den)
  if twice < r.den then q
  else if r.den < twice then q + 1
  else if q % 2 = 0 then q else q + 1

/-- The number of decimal digits of a natural. -/
def digitCount (n : Nat) : Nat :=
  (Nat.toDigits 10 n).length

/-- The exponent of the first significant decimal digit of a positive rational. -/
def Ratio.leading (r : Ratio) : Int :=
  if r.den ≤ r.num then (digitCount (r.num / r.den) : Int) - 1
  else -(digitCount ((r.den + r.num - 1) / r.num - 1) : Int)

/-- A decimal numeral `coefficient * 10 ^ exponent`. -/
structure Numeral where
  coefficient : Nat
  exponent : Int
deriving DecidableEq

/-- Drops trailing zeros of the coefficient, at most the given number of them. -/
def Numeral.trim : Nat → Numeral → Numeral
  | 0, x => x
  | fuel + 1, x =>
    if x.coefficient = 0 then ⟨0, 0⟩
    else if x.coefficient % 10 = 0 then Numeral.trim fuel ⟨x.coefficient / 10, x.exponent + 1⟩
    else x

/-- The numeral rounded to a count of significant digits. -/
def Ratio.significant (r : Ratio) (count : Nat) : Numeral :=
  if r.num = 0 then ⟨0, 0⟩
  else
    let p := r.leading - ((count : Int) - 1)
    let c := (r.shift 10 (-p)).round
    if c = Nat.pow 10 count then ⟨Nat.pow 10 (count - 1), p + 1⟩ else ⟨c, p⟩

/-- The multiple of `10 ^ (-places)` nearest to a rational. -/
def Ratio.places (r : Ratio) (places : Nat) : Numeral :=
  ⟨(r.shift 10 places).round, -(places : Int)⟩

/-- The double as an exact integer if it has no fraction, its fraction cut off otherwise. -/
def truncate (negative : Bool) (mantissa : Nat) (exponent : Int) : Int :=
  let r := Ratio.scaled mantissa 2 exponent
  if negative then -((r.num / r.den : Nat) : Int) else (r.num / r.den : Nat)

/-- The double nearest to an integer. -/
def ofInt (i : Int) : Float :=
  Float.ofScientific i.natAbs false 0 |> fun x => if i < 0 then -x else x

end UsageMeter.Decimal
