import UsageMeter.Template.Directive
import UsageMeter.Template.Error
import UsageMeter.Value.Equality

/-!
Filling in a template. Directives take the arguments in order, or the entry under their key if there
is one mapping instead of a row of arguments, and every argument of a row has to be used.
-/
namespace UsageMeter.Template

/-- The arguments of a template: a row of values, or one value, which may be a mapping. -/
inductive Arguments where
  | row (values : List Value)
  | single (value : Value)

/-- Whether keys can be looked up in the arguments. -/
def Arguments.isMapping : Arguments → Bool
  | .single (.dictionary _) => true
  | .single (.list _) => true
  | _ => false

/-- The arguments that directives without a key take in turn. -/
def Arguments.values : Arguments → List Value
  | .row values => values
  | .single value => [value]

def Arguments.entry (a : Arguments) (key : String) : Except Error Value :=
  match a with
  | .single (.dictionary pairs) =>
    match Value.lookup? (.str key) pairs with
    | some v => .ok v
    | none => .error (.missingKey key)
  | .single (.list _) => .error .listIndex
  | _ => .error .mappingRequired

def next : List Value → Except Error (Value × List Value)
  | [] => .error .tooFewArguments
  | v :: vs => .ok (v, vs)

def sizeArgument (bound : Bound) (v : Value) : Except Error Int :=
  let limit : Int := match bound with
    | .size => Int.pow 2 63
    | .precision => Int.pow 2 31
  match v with
  | .bool b => .ok (if b then 1 else 0)
  | .int i => if -limit ≤ i && i < limit then .ok i else .error (.sizeTooLarge bound)
  | _ => .error .sizeNotInteger

/-- The width and whether it asks for alignment to the left; the arguments that remain. -/
def width (s : Size) (args : List Value) : Except Error (Option Nat × Bool × List Value) :=
  match s with
  | .absent => .ok (none, false, args)
  | .given n => if n < Nat.pow 2 63 then .ok (some n, false, args) else .error .widthTooBig
  | .argument => do
    let (v, rest) ← next args
    let i ← sizeArgument .size v
    return (some i.natAbs, i < 0, rest)

/-- The precision; the arguments that remain. -/
def precision (s : Size) (args : List Value) : Except Error (Option Nat × List Value) :=
  match s with
  | .absent => .ok (none, args)
  | .given n => if n < Nat.pow 2 31 then .ok (some n, args) else .error .precisionTooBig
  | .argument => do
    let (v, rest) ← next args
    let i ← sizeArgument .precision v
    return (some i.toNat, rest)

/-- A converted argument: sign and base mark apart, since padding goes between or before them. -/
structure Converted where
  sign : Option Char
  mark : List Char
  body : List Char

/-- Text has neither sign nor mark. -/
def Converted.text (body : List Char) : Converted :=
  ⟨none, [], body⟩

def shownSign (flags : Flags) (negative : Bool) : Option Char :=
  if negative then some '-'
  else if flags.sign then some '+'
  else if flags.blank then some ' '
  else none

/-- Puts sign, mark and padding around a converted argument. -/
def pad (flags : Flags) (width : Option Nat) (numeric : Bool) (c : Converted) : List Char :=
  let sign := c.sign.toList
  let missing := width.getD 0 - (sign.length + c.mark.length + c.body.length)
  if flags.leftAlign then sign ++ c.mark ++ c.body ++ List.replicate missing ' '
  else if numeric && flags.zero then sign ++ c.mark ++ List.replicate missing '0' ++ c.body
  else List.replicate missing ' ' ++ sign ++ c.mark ++ c.body

/-- The integer of an argument for the decimal conversions, which cut off fractions. -/
def decimalInteger (conversion : Char) (v : Value) : Except Error Int :=
  match v with
  | .bool b => .ok (if b then 1 else 0)
  | .int i => .ok i
  | .float x =>
    match Decimal.Double.ofFloat x with
    | .nan => .error .undefinedInteger
    | .infinite _ => .error .infiniteInteger
    | .finite negative m e => .ok (Decimal.truncate negative m e)
  | _ => .error (.numberRequired conversion v.kind)

/-- The integer of an argument for the other bases. -/
def exactInteger (conversion : Char) (v : Value) : Except Error Int :=
  match v with
  | .bool b => .ok (if b then 1 else 0)
  | .int i => .ok i
  | _ => .error (.integerRequired conversion v.kind)

/-- An integer in a base, with at least as many digits as the precision says. -/
def convertInteger (flags : Flags) (precision : Option Nat) (base : Nat) (mark : List Char)
    (upper : Bool) (i : Int) : Converted :=
  let ds := Text.paddedDigits base (precision.getD 0) i.natAbs
  ⟨shownSign flags (i < 0), if flags.alternate then mark else [],
    if upper then ds.map Char.toUpper else ds⟩

/-- Digits, sign and mark of an integer together are counted in thirty-two bits. -/
def checkPrecision (precision : Option Nat) : Except Error Unit :=
  if precision.getD 0 + 3 < Nat.pow 2 31 then .ok () else .error .precisionTooLarge

def realArgument (v : Value) : Except Error Float :=
  match v with
  | .bool b => .ok (if b then 1.0 else 0.0)
  | .int i =>
    let x := Decimal.ofInt i
    if x.isInf then .error .integerTooLarge else .ok x
  | .float x => .ok x
  | _ => .error (.realRequired v.kind)

/-- The precision of a double. The exponent form has one digit more than the precision says, which
is counted in thirty-two bits; beyond those one digit is left. -/
def realPrecision (form : Decimal.Form) (precision : Option Nat) : Nat :=
  let p := precision.getD 6
  if form = .exponent && p + 1 = Nat.pow 2 31 then 0 else p

/-- A double in one of the forms, its sign apart. -/
def convertReal (flags : Flags) (precision : Option Nat) (form : Decimal.Form) (upper : Bool)
    (x : Float) : Converted :=
  let d := Decimal.Double.ofFloat x
  let negative := match d with
    | .finite negative _ _ => negative
    | .infinite negative => negative
    | .nan => false
  let magnitude := match d with
    | .finite _ m e => .finite false m e
    | .infinite _ => .infinite false
    | .nan => .nan
  let cs := Decimal.formatDouble form (realPrecision form precision) flags.alternate magnitude
  ⟨shownSign flags negative, [], if upper then cs.map Char.toUpper else cs⟩

def characterArgument (v : Value) : Except Error Char :=
  let ofCode (i : Int) : Except Error Char :=
    if 0 ≤ i && i < 0x110000 then .ok (Char.ofNat i.toNat) else .error .characterOutOfRange
  match v with
  | .str s =>
    match s.toList with
    | [c] => .ok c
    | _ => .error .characterRequired
  | .bool b => ofCode (if b then 1 else 0)
  | .int i => ofCode i
  | _ => .error .characterRequired

def cut (precision : Option Nat) (s : String) : List Char :=
  match precision with
  | none => s.toList
  | some n => s.toList.take n

/-- Converts an argument as a directive's last character says. -/
def convert (d : Directive) (conversion : Char) (flags : Flags) (width precision : Option Nat)
    (v : Value) : Except Error (List Char) :=
  let text (s : String) : Except Error (List Char) :=
    .ok (pad flags width false (.text (cut precision s)))
  let decimal : Except Error (List Char) := do
    let i ← decimalInteger conversion v
    checkPrecision precision
    return pad flags width true (convertInteger flags precision 10 [] false i)
  let based (base : Nat) (upper : Bool) : Except Error (List Char) := do
    let i ← exactInteger conversion v
    checkPrecision precision
    return pad flags width true
      (convertInteger flags precision base ['0', conversion] upper i)
  let real (form : Decimal.Form) (upper : Bool) : Except Error (List Char) := do
    let x ← realArgument v
    return pad flags width true (convertReal flags precision form upper x)
  match conversion with
  | 's' => text v.shown
  | 'r' => text v.written
  | 'a' => text (Text.asciiOnly v.written)
  | 'd' => decimal
  | 'i' => decimal
  | 'u' => decimal
  | 'o' => based 8 false
  | 'x' => based 16 false
  | 'X' => based 16 true
  | 'e' => real .exponent false
  | 'E' => real .exponent true
  | 'f' => real .fixed false
  | 'F' => real .fixed true
  | 'g' => real .general false
  | 'G' => real .general true
  | 'c' => do
    let c ← characterArgument v
    return pad flags width false (.text [c])
  | _ => .error (.unsupported conversion d.position)

/-- Fills in one directive; the arguments that remain. -/
def fillDirective (a : Arguments) (d : Directive) (args : List Value) :
    Except Error (List Char × List Value) := do
  let args ← match d.key with
    | .absent => .ok args
    | .unclosed => if a.isMapping then .error .incompleteKey else .error .mappingRequired
    | .named key => (a.entry (String.ofList key)).map fun v => [v]
  let (width, left, args) ← width d.width args
  let (precision, args) ← precision d.precision args
  let flags : Flags :=
    ⟨d.flags.leftAlign || left, d.flags.sign, d.flags.blank, d.flags.alternate, d.flags.zero⟩
  match d.conversion with
  | none => .error .incomplete
  | some c => do
    let (v, rest) ← next args
    let cs ← convert d c flags width precision v
    return (cs, rest)

/-- Fills in the pieces in order; the arguments that remain. -/
def fillPieces (a : Arguments) : List Piece → List Value → Except Error (List Char × List Value)
  | [], args => .ok ([], args)
  | .literal c :: ps, args => do
    let (cs, rest) ← fillPieces a ps args
    return (c :: cs, rest)
  | .directive d :: ps, args => do
    let (here, args) ← fillDirective a d args
    let (cs, rest) ← fillPieces a ps args
    return (here ++ cs, rest)

def fill (template : String) (a : Arguments) : Except Error String := do
  let (cs, rest) ← fillPieces a (pieces template.toList) a.values
  if !a.isMapping && !rest.isEmpty then .error .tooManyArguments
  else return String.ofList cs

end UsageMeter.Template
