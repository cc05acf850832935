import UsageMeter.Decimal.Binary
import UsageMeter.Value.Basic

/-!
Equality of values. Booleans, integers and doubles are equal when they stand for the same number,
lists and tuples item by item, dictionaries when they map equal keys to equal values in any order.
-/
namespace UsageMeter

/-- The number that a value stands for: an odd integer or zero times a power of two. -/
inductive Number where
  | exact (odd : Int) (exponent : Int)
  | infinite (negative : Bool)
  | nan
deriving DecidableEq

/-- Divides by two as often as possible, at most the given number of times. -/
def Number.halve : Nat → Int → Int → Number
  | 0, m, e => .exact m e
  | fuel + 1, m, e =>
    if m = 0 then .exact 0 0
    else if m % 2 = 0 then Number.halve fuel (m / 2) (e + 1)
    else .exact m e

/-- The normal form of `m * 2 ^ e`. -/
def Number.scaled (m e : Int) : Number :=
  Number.halve (Nat.log2 m.natAbs + 1) m e

def Value.number? : Value → Option Number
  | .bool b => some (.scaled (if b then 1 else 0) 0)
  | .int i => some (.scaled i 0)
  | .float x =>
    match Decimal.Double.ofFloat x with
    | .nan => some .nan
    | .infinite negative => some (.infinite negative)
    | .finite negative m e => some (.scaled (if negative then -(m : Int) else m) e)
  | _ => none

/-- Equality of numbers; what is not a number equals nothing. -/
def Number.equal (a b : Number) : Bool :=
  a != .nan && a = b

mutual

def Value.equal : Value → Value → Bool
  | .null, .null => true
  | .str a, .str b => a == b
  | .list as, .list bs => Value.equalItems as bs
  | .tuple as, .tuple bs => Value.equalItems as bs
  | .dictionary ps, .dictionary qs => ps.length == qs.length && Value.equalPairs ps qs
  | a, b =>
    match a.number?, b.number? with
    | some x, some y => x.equal y
    | _, _ => false

def Value.equalItems : List Value → List Value → Bool
  | [], [] => true
  | a :: as, b :: bs => a.equal b && Value.equalItems as bs
  | _, _ => false

/-- Whether each pair has an equal one on the other side. -/
def Value.equalPairs : List (Value × Value) → List (Value × Value) → Bool
  | [], _ => true
  | (k, v) :: ps, qs =>
    (qs.any fun (k', v') => k.equal k' && v.equal v') && Value.equalPairs ps qs

end

/-- The value that a dictionary holds under a key. -/
def Value.lookup? (key : Value) (pairs : List (Value × Value)) : Option Value :=
  (pairs.find? fun (k, _) => k.equal key).map Prod.snd

/-- Sets a key; a key that is there already keeps its place. -/
def Value.insertPair (pairs : List (Value × Value)) (key value : Value) : List (Value × Value) :=
  if pairs.any fun (k, _) => k.equal key then
    pairs.map fun (k, v) => if k.equal key then (k, value) else (k, v)
  else pairs ++ [(key, value)]

/-- The dictionary of a list of pairs, of which a later one with the same key wins. -/
def Value.dictionaryOf (pairs : List (Value × Value)) : Value :=
  .dictionary (pairs.foldl (fun acc (k, v) => Value.insertPair acc k v) [])

end UsageMeter
