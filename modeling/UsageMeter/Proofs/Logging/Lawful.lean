import UsageMeter.Logging.Standard
import UsageMeter.Proofs.Logging.Body

/-!
What is documented of a library's attributes, as laws, and the library as it comes, which follows
them. What it keeps stays as it is when it is kept again, and of the attributes of a record it
delivers all up to its limit.
-/
namespace UsageMeter

namespace Logging

/-! ## Laws -/

/-- The laws of a library that keeps values in some form, if it can, takes some names for itself and
has room for some number of attributes beside what it tells of an exception. A resource has a name
for the service and the attributes that it was made with, in their kept form; a record is delivered
with its own attributes and with all of them if there is room. -/
structure Sdk.Lawful (sdk : Sdk) (kept : Value → Option Value) (own : List String)
    (room : Value → Nat) : Prop where
  free : instanceAttribute ∉ own
  service : ∀ attributes, (sdk.resource attributes).toList ≠ []
  resource : ∀ (attributes : Table Value) (name : String) (v w : Value), name ∉ own →
    attributes.get? name = some v → kept v = some w →
      (sdk.resource attributes).get? name = some w
  whole : ∀ (attributes : Table Value) (name : String) (w : Value),
    (sdk.resource attributes).get? name = some w → kept w = some w
  told : ∀ (r : Record) (name : String) (v w : Value), name ∉ own →
    r.additions.get? name = some v → kept v = some v →
      (sdk.attributes r).get? name = some w → w = v
  carried : ∀ (r : Record) (name : String) (v : Value), name ∉ own →
    r.additions.get? name = some v → kept v = some v →
      r.additions.size ≤ room (r.get "exc_info") → (sdk.attributes r).get? name = some v

end Logging

/-! ## Keeping twice -/

theorem Decimal.plain_ne_empty (x : Float) : plain x ≠ "" := by
  have hjoin : ∀ whole fraction, joinPoint true whole fraction ≠ [] := by
    intro whole fraction
    simp [joinPoint]
  have hbody : ∀ n, plainMagnitude plainStyle n ≠ [] := by
    intro n
    rw [plainMagnitude]
    split
    · exact hjoin _ _
    · simp [exponentForm]
  rw [plain]
  split
  · decide
  · simp [plainStyle]
  · next negative m e _ =>
    cases negative with
    | false => simpa using hbody _
    | true => simp

theorem Value.shown_ne_empty {v : Value} (h : v.truth = true) : v.shown ≠ "" := by
  cases v with
  | null => cases h
  | bool b => cases b <;> decide
  | int i =>
    rw [shown, written]
    · rw [Int.toString_eq_repr, Int.repr_eq_if]
      split
      · exact Nat.repr_ne_empty
      · simp
    · intro s hs
      cases hs
  | float x =>
    rw [shown, written]
    · exact Decimal.plain_ne_empty x
    · intro s hs
      cases hs
  | str s => simpa [truth, shown] using h
  | list items => simp [shown, written]
  | tuple items =>
    rw [shown]
    · unfold written
      split <;> simp_all
    · intro s hs
      cases hs
  | dictionary pairs => simp [shown, written]

namespace Table
variable {α : Type}

theorem mem_entries_update {t : Table α} {pairs : List (String × α)} {e : String × α}
    (h : e ∈ (t.update pairs).entries) : e ∈ t.entries ∨ e ∈ pairs := by
  induction pairs generalizing t with
  | nil => exact Or.inl h
  | cons first pairs ih =>
    obtain hm | hm := ih (t := t.insert first.1 first.2) h
    · obtain rfl | hm := mem_entries_insert hm
      · exact Or.inr List.mem_cons_self
      · exact Or.inl hm
    · exact Or.inr (List.mem_cons_of_mem _ hm)

end Table

namespace Logging

theorem keptPairs_object {fields : List (String × Value)}
    (h : ∀ e ∈ fields, e.1 ≠ "" ∧ keptValue e.2 = e.2) :
    keptPairs (fields.map fun e => (.str e.1, e.2)) = fields := by
  induction fields with
  | nil => rfl
  | cons e fields ih =>
    obtain ⟨hname, hkept⟩ := h e List.mem_cons_self
    have hrest := ih fun e' he => h e' (List.mem_cons_of_mem _ he)
    rw [List.map_cons, keptPairs, hrest, hkept]
    simp [Value.truth, Value.shown, hname]

mutual

-- A kept dictionary is a table of named, kept values: keeping it again drops and changes nothing.
theorem keptValue_keptValue : ∀ v : Value, keptValue (keptValue v) = keptValue v
  | .list items => by simp only [keptValue, keptItems_keptItems items]
  | .tuple items => by simp only [keptValue, keptItems_keptItems items]
  | .dictionary pairs => by
    have hkept : ∀ e ∈ (Table.ofList (keptPairs pairs)).toList, e.1 ≠ "" ∧ keptValue e.2 = e.2 := by
      intro e he
      obtain hm | hm := Table.mem_entries_update (t := Table.empty) he
      · cases hm
      · exact kept_of_mem_keptPairs pairs e hm
    have hsame := keptPairs_object hkept
    simp only [keptValue, Value.object, hsame]
    rw [Table.ofList_toList]
  | .null | .bool _ | .int _ | .float _ | .str _ => by simp only [keptValue]

theorem keptItems_keptItems : ∀ items : List Value, keptItems (keptItems items) = keptItems items
  | [] => by simp only [keptItems]
  | v :: vs => by simp only [keptItems, keptValue_keptValue v, keptItems_keptItems vs]

theorem kept_of_mem_keptPairs : ∀ (pairs : List (Value × Value)), ∀ e ∈ keptPairs pairs,
    e.1 ≠ "" ∧ keptValue e.2 = e.2
  | [], e, he => by
    simp only [keptPairs] at he
    cases he
  | (k, v) :: ps, e, he => by
    simp only [keptPairs] at he
    split at he
    · next hk =>
      obtain rfl | hm := List.mem_cons.1 he
      · exact ⟨Value.shown_ne_empty hk, keptValue_keptValue v⟩
      · exact kept_of_mem_keptPairs ps e hm
    · exact kept_of_mem_keptPairs ps e he

end

end Logging

namespace Table
variable {α : Type}

theorem get?_update (t : Table α) (pairs : List (String × α)) (name : String) :
    (t.update pairs).get? name = ((ofList pairs).get? name).or (t.get? name) := by
  induction pairs using List.reverseRecOn with
  | nil => rfl
  | append_singleton pairs e ih =>
    have hlast : ∀ u : Table α, u.update (pairs ++ [e]) = (u.update pairs).insert e.1 e.2 :=
      fun u => List.foldl_append
    have hofList : ofList (pairs ++ [e]) = (ofList pairs).insert e.1 e.2 := hlast empty
    rw [hlast, hofList, get?_insert, get?_insert, ih]
    split <;> rfl

theorem get?_ofList_append (u v : List (String × α)) (name : String) :
    (ofList (u ++ v)).get? name = ((ofList v).get? name).or ((ofList u).get? name) := by
  have happend : ofList (u ++ v) = (ofList u).update v := List.foldl_append
  rw [happend, get?_update]

theorem get?_ofList_of_not_mem {pairs : List (String × α)} {name : String}
    (h : name ∉ pairs.map Prod.fst) : (ofList pairs).get? name = none :=
  get?_update_of_not_mem h empty

theorem size_insert_le (t : Table α) (name : String) (value : α) :
    (t.insert name value).size ≤ t.size + 1 := by
  by_cases h : name ∈ t.names
  · rw [size, entries_insert_of_mem h, replace, List.length_map]
    exact Nat.le_succ _
  · rw [size, entries_insert_of_not_mem h, List.length_append]
    exact Nat.le_refl _

theorem size_ofList_le (pairs : List (String × α)) : (ofList pairs).size ≤ pairs.length := by
  induction pairs using List.reverseRecOn with
  | nil => exact Nat.le_refl 0
  | append_singleton pairs e ih =>
    have hlast : ofList (pairs ++ [e]) = (ofList pairs).insert e.1 e.2 := List.foldl_append
    rw [hlast, List.length_append]
    exact ((ofList pairs).size_insert_le e.1 e.2).trans (Nat.succ_le_succ ih)

end Table

namespace Logging

/-! ## Kept and delivered attributes -/

theorem entries_keptAttributes (t : Table Value) : (keptAttributes t).entries =
    (t.entries.filter fun e => e.1 ≠ "").map fun e => (e.1, keptValue e.2) := by
  apply Table.entries_ofList
  rw [List.map_map]
  exact t.nodup.sublist (List.filter_sublist.map Prod.fst)

theorem get?_keptAttributes (t : Table Value) {name : String} (hn : name ≠ "") :
    (keptAttributes t).get? name = (t.get? name).map keptValue := by
  have hp : decide (name ≠ "") = true := decide_eq_true hn
  rw [Table.get?, entries_keptAttributes, lookup_map_named fun _ => keptValue,
    lookup_filter_of_true (p := fun n => n ≠ "") hp]
  rfl

theorem names_keptAttributes (t : Table Value) :
    (keptAttributes t).names = t.names.filter fun name => name ≠ "" := by
  rw [Table.names, entries_keptAttributes, Table.names, List.map_map, List.filter_map]
  rfl

theorem keptValue_of_get? {t : Table Value} {name : String} {w : Value}
    (h : (keptAttributes t).get? name = some w) : keptValue w = w := by
  have hm := Table.mem_entries_of_get? h
  rw [entries_keptAttributes, List.mem_map] at hm
  obtain ⟨e, -, he⟩ := hm
  cases he
  exact keptValue_keptValue e.2

variable {pairs : List (String × Value)}

theorem entries_deliveredAttributes (pairs : List (String × Value)) :
    let all := keptAttributes (Table.ofList pairs)
    (deliveredAttributes pairs).entries = all.entries.drop (all.size - attributeLimit) := by
  intro all
  exact Table.entries_ofList (all.nodup.sublist ((List.drop_sublist _ _).map Prod.fst))

/-- What is delivered was kept. -/
theorem get?_of_get?_deliveredAttributes {name : String} {w : Value}
    (h : (deliveredAttributes pairs).get? name = some w) :
    (keptAttributes (Table.ofList pairs)).get? name = some w := by
  have hm := Table.mem_entries_of_get? h
  rw [entries_deliveredAttributes] at hm
  exact lookup_of_mem (Table.nodup _) (List.mem_of_mem_drop hm)

/-- Up to the limit, all that is kept is delivered. -/
theorem deliveredAttributes_of_length_le (h : pairs.length ≤ attributeLimit) :
    deliveredAttributes pairs = keptAttributes (Table.ofList pairs) := by
  have hle : (keptAttributes (Table.ofList pairs)).size ≤ attributeLimit := by
    rw [Table.size, entries_keptAttributes, List.length_map]
    exact (List.length_filter_le _ _).trans ((Table.size_ofList_le pairs).trans h)
  apply Table.ext_entries
  rw [entries_deliveredAttributes, Nat.sub_eq_zero_of_le hle, List.drop_zero]

/-- Beyond the limit, the first names go. -/
theorem names_deliveredAttributes (hn : (pairs.map Prod.fst).Nodup)
    (he : "" ∉ pairs.map Prod.fst) :
    (deliveredAttributes pairs).names =
      (pairs.map Prod.fst).drop (pairs.length - attributeLimit) := by
  have hofList : (Table.ofList pairs).names = pairs.map Prod.fst := by
    rw [Table.names, Table.entries_ofList hn]
  have hnames : (keptAttributes (Table.ofList pairs)).names = pairs.map Prod.fst := by
    rw [names_keptAttributes, hofList, List.filter_eq_self]
    intro name hm
    exact decide_eq_true fun h => he (h ▸ hm)
  have hsize : (keptAttributes (Table.ofList pairs)).size = pairs.length := by
    rw [← List.length_map Prod.fst, ← hnames, Table.names, List.length_map, Table.size]
  rw [Table.names, entries_deliveredAttributes, List.map_drop, hsize, ← Table.names, hnames]

/-! ## The library as it comes -/

/-- The names that the library takes for itself; a nameless attribute it does not keep. -/
def standardOwn : List String :=
  "" :: serviceAttribute :: originNames ++ exceptionNames

/-- How many attributes there is room for beside an exception and the origin of a record. -/
def standardRoom (excInfo : Value) : Nat :=
  attributeLimit - (originNames.length + (exceptionAttributes excInfo).length)

theorem map_fst_exceptionAttributes (v : Value) :
    ∀ name ∈ (exceptionAttributes v).map Prod.fst, name ∈ exceptionNames := by
  have hknown : ∀ (name other : String) (v : Value),
      other ∈ (knownAttribute name v).map Prod.fst → other = name := by
    intro name other v h
    cases v <;> simp_all [knownAttribute]
  intro name h
  unfold exceptionAttributes at h
  split at h
  · rw [List.map_append, List.map_append, List.mem_append, List.mem_append] at h
    obtain (h | h) | h := h
    · simp [hknown _ _ _ h, exceptionNames]
    · simp [hknown _ _ _ h, exceptionNames]
    · simp [hknown _ _ _ h, exceptionNames]
  · cases h

/-- What the library adds to the attributes of a record, under names of its own. -/
def addedAttributes (r : Record) : List (String × Value) :=
  originAttributes r ++ exceptionAttributes (r.get "exc_info")

theorem attributes_standard (version : String) (r : Record) :
    (Sdk.standard version).attributes r =
      deliveredAttributes (r.additions.toList ++ addedAttributes r) := by
  have hextras : r.extras = r.additions.toList := rfl
  simp only [Sdk.standard, addedAttributes, hextras, List.append_assoc]

theorem not_mem_addedAttributes {name : String} (h : name ∉ standardOwn) (r : Record) :
    name ∉ (addedAttributes r).map Prod.fst := by
  simp only [standardOwn, List.cons_append, List.mem_cons, List.mem_append, not_or] at h
  obtain ⟨-, -, horigin, hexception⟩ := h
  rw [addedAttributes, List.map_append, List.mem_append, not_or]
  exact ⟨horigin, fun hm => hexception (map_fst_exceptionAttributes _ _ hm)⟩

/-- The additions of a record are kept under names that are not the library's own. -/
theorem get?_kept_additions {name : String} (h : name ∉ standardOwn) (r : Record) :
    (keptAttributes (Table.ofList (r.additions.toList ++ addedAttributes r))).get? name =
      (r.additions.get? name).map keptValue := by
  have hne : name ≠ "" := fun he => h (he ▸ List.mem_cons_self)
  rw [get?_keptAttributes _ hne, Table.get?_ofList_append,
    Table.get?_ofList_of_not_mem (not_mem_addedAttributes h r), Option.none_or,
    Table.ofList_toList]

theorem get?_named {name : String} (h : name ≠ serviceAttribute) (resource : Resource) :
    (Resource.named resource).get? name = resource.get? name := by
  unfold Resource.named
  split
  · rfl
  · rw [Table.get?_insert, if_neg h]

theorem service_named (resource : Resource) : (Resource.named resource).toList ≠ [] := by
  have hsome : ∃ v, (Resource.named resource).get? serviceAttribute = some v := by
    unfold Resource.named
    split
    · next h =>
      cases hv : resource.get? serviceAttribute with
      | none => simp [hv, Value.truth] at h
      | some v => exact ⟨v, rfl⟩
    · exact ⟨_, (Table.get?_insert _ _ _ _).trans (if_pos rfl)⟩
  obtain ⟨v, hv⟩ := hsome
  exact List.ne_nil_of_mem (Table.mem_entries_of_get? hv)

/-- The attributes of a resource are all kept already. -/
theorem keptValue_of_get?_named {resource : Resource}
    (h : ∀ name w, resource.get? name = some w → keptValue w = w) {name : String} {w : Value}
    (hw : (Resource.named resource).get? name = some w) : keptValue w = w := by
  unfold Resource.named at hw
  split at hw
  · exact h name w hw
  · rw [Table.get?_insert] at hw
    split at hw
    · cases hw
      simp only [keptValue]
    · exact h name w hw

theorem keptValue_of_get?_library {version name : String} {w : Value}
    (h : (Table.ofList (libraryAttributes version)).get? name = some w) : keptValue w = w := by
  obtain hm | hm := Table.mem_entries_update (t := Table.empty) (Table.mem_entries_of_get? h)
  · cases hm
  · simp only [libraryAttributes, List.mem_cons, Prod.mk.injEq, List.not_mem_nil, or_false] at hm
    obtain ⟨-, rfl⟩ | ⟨-, rfl⟩ | ⟨-, rfl⟩ := hm <;> simp only [keptValue]

theorem Sdk.lawful_standard (version : String) :
    (Sdk.standard version).Lawful (fun v => some (keptValue v)) standardOwn standardRoom where
  free := by decide
  service _ := service_named _
  resource attributes name v w hown hv hw := by
    cases hw
    have hne : name ≠ "" := fun he => hown (he ▸ List.mem_cons_self)
    have hservice : name ≠ serviceAttribute :=
      fun he => hown (he ▸ List.mem_cons_of_mem _ List.mem_cons_self)
    rw [standard, get?_named hservice, Table.get?_update, Table.ofList_toList,
      get?_keptAttributes _ hne, hv]
    rfl
  whole attributes name w hw := by
    refine congrArg some (keptValue_of_get?_named ?_ hw)
    intro name w hw
    rw [Table.get?_update, Table.ofList_toList, Option.or_eq_some_iff] at hw
    obtain hkept | ⟨-, hlibrary⟩ := hw
    · exact keptValue_of_get? hkept
    · exact keptValue_of_get?_library hlibrary
  told r name v w hown hv hkept hw := by
    rw [attributes_standard] at hw
    have hall := get?_of_get?_deliveredAttributes hw
    rw [get?_kept_additions hown, hv, Option.map_some, hkept] at hall
    exact (Option.some.inj hall).symm
  carried r name v hown hv hkept hroom := by
    have hpos : 0 < r.additions.size := List.length_pos_of_mem (Table.mem_entries_of_get? hv)
    have hlength : (r.additions.toList ++ addedAttributes r).length ≤ attributeLimit := by
      have horigin : (originAttributes r).length = originNames.length := rfl
      rw [addedAttributes, List.length_append, List.length_append, horigin]
      rw [standardRoom] at hroom
      have hsize : r.additions.toList.length = r.additions.size := rfl
      omega
    rw [attributes_standard, deliveredAttributes_of_length_le hlength, get?_kept_additions hown, hv,
      Option.map_some, hkept]

end Logging
end UsageMeter
