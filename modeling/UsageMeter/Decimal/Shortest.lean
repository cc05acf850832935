import UsageMeter.Decimal.Binary

/-!
The shortest numeral that reads back as a given double. A double owns the reals that round to it; on
each decimal grid from one significant digit up the two neighbours of the double are tried, and the
first grid with a hit decides, of two hits the nearer.
-/
namespace UsageMeter.Decimal

/-- The reals that round to `mantissa * 2 ^ exponent`, as bounds in quarter units of the last
place. -/
structure Owned where
  low : Nat
  value : Nat
  high : Nat
  closed : Bool
  unit : Int

/-- The bounds lie half way to the neighbours; below a power of two the neighbour is half as far. -/
def Owned.ofDouble (mantissa : Nat) (exponent : Int) : Owned :=
  let narrow := mantissa = Nat.pow 2 52 ∧ exponent ≠ -1074
  ⟨4 * mantissa - (if narrow then 1 else 2), 4 * mantissa, 4 * mantissa + 2, mantissa % 2 = 0,
    exponent - 2⟩

/-- Whether the numeral's value lies in the interval. -/
def Owned.contains (o : Owned) (x : Numeral) : Bool :=
  let unit := Ratio.scaled 1 2 o.unit
  let r := Ratio.scaled x.coefficient 10 x.exponent
  let position := r.num * unit.den
  let scale := r.den * unit.num
  if o.closed then o.low * scale ≤ position && position ≤ o.high * scale
  else o.low * scale < position && position < o.high * scale

/-- The neighbours of the value on the grid of multiples of `10 ^ exponent`. -/
def Owned.neighbours (o : Owned) (exponent : Int) : Nat × Nat :=
  let r := (Ratio.scaled o.value 2 o.unit).shift 10 (-exponent)
  (r.num / r.den, r.num / r.den + 1)

/-- The nearest owned numeral of the grid, if the grid has one. -/
def Owned.hit? (o : Owned) (exponent : Int) : Option Numeral :=
  let (below, above) := o.neighbours exponent
  let nearest := ((Ratio.scaled o.value 2 o.unit).shift 10 (-exponent)).round
  if o.contains ⟨nearest, exponent⟩ then some ⟨nearest, exponent⟩
  else if o.contains ⟨below, exponent⟩ then some ⟨below, exponent⟩
  else if o.contains ⟨above, exponent⟩ then some ⟨above, exponent⟩
  else none

/-- The shortest owned numeral of a positive double, without trailing zeros. -/
def shortest (mantissa : Nat) (exponent : Int) : Numeral :=
  let o := Owned.ofDouble mantissa exponent
  let lead := (Ratio.scaled mantissa 2 exponent).leading
  let grids := (List.range 17).map fun (n : Nat) => lead - (n : Int)
  match grids.findSome? o.hit? with
  | some x => x.trim 20
  | none => ((Ratio.scaled mantissa 2 exponent).significant 17).trim 20

end UsageMeter.Decimal
