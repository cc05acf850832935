import UsageMeter.Event

/-!
Runs of operations on one registry, by name or on a counter that was taken from it earlier.
-/
namespace UsageMeter.Registry

/-- An operation; the last three act on a counter by its place. -/
inductive Op where
  | register (name : String)
  | increment (name : String) (v : Value)
  | record (name : String)
  | get (name : String)
  | drain (name : String)
  | drainAll
  | snapshot
  | names
  | contains (name : String)
  | size
  | clear
  | incrementAt (i : Nat) (v : Value)
  | getAt (i : Nat)
  | drainAt (i : Nat)

/-- What an operation gives back. -/
inductive Answer where
  | nothing
  | counter (i : Nat)
  | count (n : Nat)
  | counts (t : Table Nat)
  | names (ns : List String)
  | flag (b : Bool)
  | rejected (e : IncrementError)
  | refused (e : NotTracker)

/-- An accepted increment gives nothing back. -/
def Answer.ofIncrement : Except IncrementError Unit → Answer
  | .ok _ => .nothing
  | .error e => .rejected e

/-- A recorded command gives nothing back. -/
def Answer.ofRecord : Except NotTracker Unit → Answer
  | .ok _ => .nothing
  | .error e => .refused e

/-- The registry after an operation, and the answer. -/
def step (op : Op) (r : Registry) : Registry × Answer :=
  match op with
  | .register name => let (r', i) := r.register name; (r', .counter i)
  | .increment name v => let (r', e) := r.increment name v; (r', .ofIncrement e)
  | .record name => let (r', e) := r.record name; (r', .ofRecord e)
  | .get name => (r, .count (r.get name))
  | .drain name => let (r', n) := r.drain name; (r', .count n)
  | .drainAll => let (r', t) := r.drainAll; (r', .counts t)
  | .snapshot => (r, .counts r.snapshot)
  | .names => (r, .names r.names)
  | .contains name => (r, .flag (r.contains name))
  | .size => (r, .count r.size)
  | .clear => (r.clear, .nothing)
  | .incrementAt i v => let (r', e) := r.incrementAt i v; (r', .ofIncrement e)
  | .getAt i => (r, .count (r.valueAt i))
  | .drainAt i => let (r', n) := r.drainAt i; (r', .count n)

def events (op : Op) (r : Registry) : List Event :=
  match op with
  | .register name => r.registering name
  | .increment name _ => r.registering name
  | .record name => if r.tracker then r.registering name else []
  | .clear => [.cleared r.kind]
  | _ => []

/-- The registry after a list of operations. -/
def run : List Op → Registry → Registry
  | [], r => r
  | op :: ops, r => run ops (step op r).1

theorem run_append (u v : List Op) (r : Registry) : run (u ++ v) r = run v (run u r) := by
  induction u generalizing r with
  | nil => rfl
  | cons op ops ih => exact ih (step op r).1

end UsageMeter.Registry
