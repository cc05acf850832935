import UsageMeter.Value.Equality

/-!
The order of values by the numbers that they stand for; values that stand for none come last.
-/
namespace UsageMeter

/-- Whether a number is below another; odd parts are compared at the smaller exponent. -/
def Number.less : Number → Number → Bool
  | .exact m e, .exact n f =>
    m * Int.pow 2 (e - min e f).toNat < n * Int.pow 2 (f - min e f).toNat
  | .infinite negative, .exact _ _ => negative
  | .exact _ _, .infinite negative => !negative
  | .infinite negative, .infinite negative' => negative && !negative'
  | _, _ => false

def Value.less (a b : Value) : Bool :=
  match a.number?, b.number? with
  | some x, some y => x.less y
  | some _, none => true
  | none, _ => false

/-- Puts a value before the first one that comes after it. -/
def Value.place (v : Value) : List Value → List Value
  | [] => [v]
  | x :: xs => if v.less x then v :: x :: xs else x :: Value.place v xs

theorem Value.mem_place {v w : Value} {xs : List Value} :
    w ∈ v.place xs ↔ w = v ∨ w ∈ xs := by
  induction xs with
  | nil => simp [Value.place]
  | cons x xs ih =>
    unfold Value.place
    split
    · simp
    · simp only [List.mem_cons, ih]
      constructor
      · rintro (h | h | h) <;> simp [h]
      · rintro (h | h | h) <;> simp [h]

/-- Adds a value to a list in which no two are equal; an equal one that is there stays. -/
def Value.add (v : Value) (xs : List Value) : List Value :=
  if xs.any v.equal then xs else v.place xs

theorem Value.mem_of_mem_add {v w : Value} {xs : List Value} (h : w ∈ v.add xs) :
    w = v ∨ w ∈ xs := by
  unfold Value.add at h
  split at h
  · exact Or.inr h
  · exact Value.mem_place.1 h

end UsageMeter
