import UsageMeter.Decimal.Shortest

/-!
Written forms of doubles: the plain form with the fewest digits, and the fixed, exponent and general
forms with a given precision.
-/
namespace UsageMeter.Decimal

/-- The digits of a natural with zeros before them up to a width. -/
def paddedNat (width n : Nat) : List Char :=
  let ds := Nat.toDigits 10 n
  List.replicate (width - ds.length) '0' ++ ds

/-- A numeral with the point at its place; `places` digits follow the point. -/
def pointForm (x : Numeral) : List Char × List Char :=
  match x.exponent with
  | .ofNat k => (Nat.toDigits 10 (x.coefficient * Nat.pow 10 k), [])
  | .negSucc k =>
    let ds := paddedNat (k + 2) x.coefficient
    (ds.take (ds.length - (k + 1)), ds.drop (ds.length - (k + 1)))

/-- A decimal exponent with its sign and at least two digits. -/
def exponentForm (mark : Char) (e : Int) : List Char :=
  mark :: (if e < 0 then '-' else '+') :: paddedNat 2 e.natAbs

/-- The digits, the first apart from the rest. -/
def mantissaForm (x : Numeral) : List Char × List Char :=
  match Nat.toDigits 10 x.coefficient with
  | [] => (['0'], [])
  | d :: ds => ([d], ds)

/-- The exponent of a numeral's first digit. -/
def Numeral.leading (x : Numeral) : Int :=
  x.exponent + (digitCount x.coefficient : Int) - 1

/-- The whole part, the point and the fraction; the point is left out before nothing. -/
def joinPoint (keepPoint : Bool) (whole fraction : List Char) : List Char :=
  if fraction.isEmpty && !keepPoint then whole else whole ++ '.' :: fraction

/-- Choices of a plain written form. -/
structure PlainStyle where
  leastPositional : Int
  leastExponent : Int
  infinity : String
  notANumber : String

/-- The plain form is positional from `1e-4` up to below `1e16` and then always has a fraction. -/
def plainStyle : PlainStyle := ⟨-4, 16, "inf", "nan"⟩

/-- A positive or zero finite double in the plain form. -/
def plainMagnitude (style : PlainStyle) (x : Numeral) : List Char :=
  let lead := x.leading
  if style.leastPositional ≤ lead && lead < style.leastExponent then
    let (whole, fraction) := pointForm x
    joinPoint true whole (if fraction.isEmpty then ['0'] else fraction)
  else
    let (whole, fraction) := mantissaForm x
    joinPoint false whole fraction ++ exponentForm 'e' lead

def plain (x : Float) : String :=
  match Double.ofFloat x with
  | .nan => plainStyle.notANumber
  | .infinite negative => (if negative then "-" else "") ++ plainStyle.infinity
  | .finite negative m e =>
    let body := plainMagnitude plainStyle (if m = 0 then ⟨0, 0⟩ else shortest m e)
    String.ofList (if negative then '-' :: body else body)

/-- The three forms with a precision. -/
inductive Form where
  | fixed | exponent | general
deriving DecidableEq

/-- Removes zeros at the end of a fraction. -/
def dropTrailingZeros (ds : List Char) : List Char :=
  (ds.reverse.dropWhile (· = '0')).reverse

/-- The exponent form of a rounded numeral with the given number of fraction digits. -/
def scientific (keepPoint : Bool) (x : Numeral) : List Char :=
  let (whole, fraction) := mantissaForm x
  joinPoint keepPoint whole fraction ++ exponentForm 'e' x.leading

/-- More significant digits than the exact value of any double has. -/
def manyDigits : Nat := 1100

/-- A nonnegative rational in one of the forms; the alternate form keeps point and zeros. Where
zeros are dropped, digits beyond the exact value need not be asked for. -/
def formatRatio (form : Form) (precision : Nat) (alternate : Bool) (r : Ratio) : List Char :=
  match form with
  | .fixed =>
    let (whole, fraction) := pointForm (r.places precision)
    joinPoint alternate whole fraction
  | .exponent =>
    if r.num = 0 then
      joinPoint alternate ['0'] (List.replicate precision '0') ++ exponentForm 'e' 0
    else scientific alternate (r.significant (precision + 1))
  | .general =>
    let count := max 1 (if alternate then precision else min precision manyDigits)
    let x := if r.num = 0 then ⟨0, -((count : Int) - 1)⟩ else r.significant count
    let lead := if r.num = 0 then 0 else x.leading
    let cut := fun ds => if alternate then ds else dropTrailingZeros ds
    if -4 ≤ lead && lead < count then
      let (whole, fraction) := pointForm x
      joinPoint alternate whole (cut fraction)
    else
      let (whole, fraction) := mantissaForm x
      joinPoint alternate whole (cut fraction) ++ exponentForm 'e' lead

/-- A double in one of the forms, with a minus sign if it has one. -/
def formatDouble (form : Form) (precision : Nat) (alternate : Bool) (x : Double) : List Char :=
  match x with
  | .nan => ['n', 'a', 'n']
  | .infinite negative => (if negative then ['-'] else []) ++ ['i', 'n', 'f']
  | .finite negative m e =>
    (if negative then ['-'] else []) ++ formatRatio form precision alternate (Ratio.scaled m 2 e)

end UsageMeter.Decimal
