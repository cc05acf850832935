/-!
Tables: named values in the order in which the names were first set. Setting a name again changes
its value and not its place, and no name occurs twice. Two tables are alike when they hold like
values under the same names, in whatever order.
-/
namespace UsageMeter

/-- Named values in order of first appearance. -/
structure Table (α : Type) where
  entries : List (String × α)
  nodup : (entries.map Prod.fst).Nodup

namespace Table
variable {α β : Type}

def empty : Table α :=
  ⟨[], by simp⟩

def get? (t : Table α) (name : String) : Option α :=
  t.entries.lookup name

def contains (t : Table α) (name : String) : Bool :=
  t.entries.any fun e => e.1 == name

/-- Replaces the value of each entry of a name. -/
def replace (name : String) (value : α) (es : List (String × α)) : List (String × α) :=
  es.map fun e => if e.1 == name then (e.1, value) else e

theorem map_fst_replace (name : String) (value : α) (es : List (String × α)) :
    (replace name value es).map Prod.fst = es.map Prod.fst := by
  simp only [replace, List.map_map]
  apply List.map_congr_left
  intro e _
  simp only [Function.comp_apply]
  split <;> rfl

theorem not_mem_of_contains_eq_false {t : Table α} {name : String}
    (h : t.contains name = false) : name ∉ t.entries.map Prod.fst := by
  intro hm
  obtain ⟨e, he, rfl⟩ := List.mem_map.1 hm
  simp only [contains, List.any_eq_false, beq_iff_eq] at h
  exact h e he rfl

/-- Sets a name: in its place if it is there, at the end otherwise. -/
def insert (t : Table α) (name : String) (value : α) : Table α :=
  if h : t.contains name then
    ⟨replace name value t.entries, by rw [map_fst_replace]; exact t.nodup⟩
  else
    ⟨t.entries ++ [(name, value)], by
      rw [List.map_append, List.nodup_append]
      refine ⟨t.nodup, by simp, ?_⟩
      intro a ha b hb hab
      have hne := not_mem_of_contains_eq_false (by simpa using h : t.contains name = false)
      simp only [List.map_cons, List.map_nil, List.mem_singleton] at hb
      exact hne (hb ▸ hab ▸ ha)⟩

/-- The table of a list of pairs, of which a later one with the same name wins. -/
def ofList (pairs : List (String × α)) : Table α :=
  pairs.foldl (fun t e => t.insert e.1 e.2) empty

/-- Sets every name of another list of pairs, in order. -/
def update (t : Table α) (pairs : List (String × α)) : Table α :=
  pairs.foldl (fun t e => t.insert e.1 e.2) t

def toList (t : Table α) : List (String × α) :=
  t.entries

def names (t : Table α) : List String :=
  t.entries.map Prod.fst

def values (t : Table α) : List α :=
  t.entries.map Prod.snd

def size (t : Table α) : Nat :=
  t.entries.length

/-- Applies a function to every name and its value. -/
def mapNamed (f : String → α → β) (t : Table α) : Table β :=
  ⟨t.entries.map fun e => (e.1, f e.1 e.2), by
    have h : (t.entries.map fun e => (e.1, f e.1 e.2)).map Prod.fst = t.entries.map Prod.fst := by
      simp [List.map_map, Function.comp_def]
    rw [h]
    exact t.nodup⟩

def map (f : α → β) (t : Table α) : Table β :=
  t.mapNamed fun _ => f

/-- Whether two tables hold like values under the same names. -/
def alike (like : α → α → Bool) (a b : Table α) : Bool :=
  a.size == b.size && a.entries.all fun e =>
    match b.get? e.1 with
    | some v => like e.2 v
    | none => false

/-- A digest of the entries that does not depend on their order. -/
def digest (item : String × α → Nat) (combine : List Nat → Nat) (t : Table α) : Nat :=
  combine ((t.entries.map item).mergeSort fun a b => a ≤ b)

end Table
end UsageMeter
