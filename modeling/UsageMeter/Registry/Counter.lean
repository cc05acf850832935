import UsageMeter.Value.Written

/-!
Counters: a name and a running total. A total grows by accepted increments and falls only to zero,
when it is drained.
-/
namespace UsageMeter

/-- Why an increment is rejected. -/
inductive IncrementError where
  | notInteger (increment : Value)
  | negative (increment : Int)

def IncrementError.message : IncrementError → String
  | .notInteger v => "Counter delta must be an integer, got " ++ v.written
  | .negative i => "Counter delta must not be negative, got " ++ toString i

/-- The amount by which a value increments: any integer from zero up; booleans are not integers. -/
def increment? : Value → Except IncrementError Nat
  | .int i => if i < 0 then .error (.negative i) else .ok i.toNat
  | v => .error (.notInteger v)

/-- A named running total. -/
structure Counter where
  name : String
  value : Nat
deriving DecidableEq

namespace Counter

def fresh (name : String) : Counter :=
  ⟨name, 0⟩

def add (n : Nat) (c : Counter) : Counter :=
  ⟨c.name, c.value + n⟩

def drained (c : Counter) : Counter :=
  ⟨c.name, 0⟩

/-- The counter after an increment, and whether that was accepted. -/
def increment (c : Counter) (v : Value) : Counter × Except IncrementError Unit :=
  match increment? v with
  | .ok n => (c.add n, .ok ())
  | .error e => (c, .error e)

def written (c : Counter) : String :=
  "Counter(name=" ++ Text.quoted c.name ++ ", value=" ++ toString c.value ++ ")"

end Counter
end UsageMeter
