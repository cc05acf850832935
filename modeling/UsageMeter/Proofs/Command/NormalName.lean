import Mathlib.Data.List.TakeWhile
import UsageMeter.Command.Name

/-!
Normal names. Of a name only the last component counts, and an empty one or that of something
anonymous is no name at all; so every name that comes out is its own last component.
-/
namespace UsageMeter

/-- A name that is counted as it is. -/
structure NormalName (name : String) : Prop where
  nonempty : name ≠ ""
  undotted : '.' ∉ name.toList
  named : name ≠ anonymousFunction

theorem takeWhile_append_cons {p : Char → Bool} {c : Char} (hc : p c = false) (xs ys : List Char) :
    (xs ++ c :: ys).takeWhile p = xs.takeWhile p := by
  rw [List.takeWhile_append, List.takeWhile_cons_of_neg (by simp [hc]), List.append_nil]
  split
  · next hlength => exact ((List.takeWhile_prefix p).eq_of_length hlength).symm
  · rfl

theorem lastComponent_dotted (qualifier name : String) :
    lastComponent (qualifier ++ "." ++ name) = lastComponent name := by
  have hchars : (qualifier ++ "." ++ name).toList.reverse =
      name.toList.reverse ++ '.' :: qualifier.toList.reverse := by
    simp
  rw [lastComponent, lastComponent, hchars, takeWhile_append_cons (by decide)]

theorem lastComponent_of_undotted {name : String} (h : '.' ∉ name.toList) :
    lastComponent name = name := by
  have hall : ∀ c ∈ name.toList.reverse, decide (c ≠ '.') = true := by
    intro c hc
    have hne : c ≠ '.' := fun he => h (he ▸ List.mem_reverse.1 hc)
    simpa using hne
  rw [lastComponent, List.takeWhile_eq_self_iff.2 hall, List.reverse_reverse, String.ofList_toList]

theorem not_mem_lastComponent (name : String) : '.' ∉ (lastComponent name).toList := by
  rw [lastComponent, String.toList_ofList, List.mem_reverse]
  intro hm
  simpa using List.mem_takeWhile_imp hm

theorem countedName?_dotted (qualifier name : String) :
    countedName? (qualifier ++ "." ++ name) = countedName? name := by
  rw [countedName?, countedName?, lastComponent_dotted]

theorem normalName_of_countedName? {qualified name : String}
    (h : countedName? qualified = some name) : NormalName name := by
  simp only [countedName?] at h
  split at h
  · cases h
  · next hnot =>
    cases h
    simp only [Bool.or_eq_true, decide_eq_true_eq, not_or] at hnot
    exact ⟨hnot.1, not_mem_lastComponent qualified, hnot.2⟩

theorem countedName?_eq_self_iff {name : String} :
    countedName? name = some name ↔ NormalName name := by
  refine ⟨normalName_of_countedName?, fun h => ?_⟩
  simp only [countedName?, lastComponent_of_undotted h.undotted]
  exact if_neg (by simp [h.nonempty, h.named])

theorem Command.normal_of_name? {c : Command} {name : String} (h : c.name? = some name) :
    NormalName name := by
  rw [name?, named] at h
  cases hq : c.qualifiedName with
  | error e =>
    rw [hq] at h
    cases h
  | ok qualified =>
    rw [hq] at h
    exact normalName_of_countedName? h

/-- No name, or an empty one, was given to a function that counts its calls. -/
def ungiven (explicit : Option String) : Bool :=
  explicit.getD "" = ""

theorem resolvedName_of_ungiven {explicit : Option String} (h : ungiven explicit = true)
    (target : Command) : resolvedName explicit target = target.named := by
  cases explicit with
  | none => rfl
  | some name =>
    have hname : name = "" := of_decide_eq_true h
    rw [hname]
    rfl

theorem resolvedName_of_given {explicit : Option String} (h : ungiven explicit = false)
    (target : Command) : resolvedName explicit target = .ok explicit := by
  unfold resolvedName
  split
  · cases h
  · rfl
  · cases h

theorem resolvedName?_of_ungiven {explicit : Option String} (h : ungiven explicit = true)
    (target : Command) : resolvedName? explicit target = target.name? := by
  rw [resolvedName?, resolvedName_of_ungiven h, Command.name?]

/-- Nothing counts under an empty name. -/
theorem resolvedName?_ne_empty (explicit : Option String) (target : Command) :
    resolvedName? explicit target ≠ some "" := by
  intro he
  cases h : ungiven explicit with
  | true =>
    rw [resolvedName?_of_ungiven h] at he
    exact (Command.normal_of_name? he).nonempty rfl
  | false =>
    rw [resolvedName?, resolvedName_of_given h] at he
    have hsome : explicit = some "" := he
    rw [hsome] at h
    exact absurd h (by decide)

end UsageMeter
