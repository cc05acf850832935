import Mathlib.Data.List.DropRight
import Mathlib.Data.List.Induction
import UsageMeter.Table

/-!
Listings: names in the order in which they first occur in a history, and the part of a history
after the last item that ends a period. A list of pairs with distinct names is its own table.
-/
namespace UsageMeter

/-- The names with one more, which goes to the end unless it is there. -/
def enlist (names : List String) (name : String) : List String :=
  if name ∈ names then names else names ++ [name]

theorem prefix_enlist (names : List String) (name : String) : names <+: enlist names name := by
  unfold enlist
  split
  · exact List.prefix_rfl
  · exact List.prefix_append names [name]

theorem mem_enlist_iff {names : List String} {a name : String} :
    a ∈ enlist names name ↔ a ∈ names ∨ a = name := by
  unfold enlist
  split
  · next h =>
    constructor
    · exact Or.inl
    · rintro (ha | rfl)
      · exact ha
      · exact h
  · simp

theorem nodup_enlist {names : List String} (h : names.Nodup) (name : String) :
    (enlist names name).Nodup := by
  unfold enlist
  split
  · exact h
  · next hn =>
    refine List.nodup_append.2 ⟨h, by simp, ?_⟩
    rintro a ha b hb rfl
    exact hn (List.mem_singleton.1 hb ▸ ha)

theorem eraseDups_concat (calls : List String) (name : String) :
    (calls ++ [name]).eraseDups = enlist calls.eraseDups name := by
  rw [List.eraseDups_append]
  unfold enlist
  by_cases h : name ∈ calls
  · simp [List.removeAll, h]
  · simp [List.removeAll, h, List.eraseDups_cons]

theorem nodup_eraseDups (calls : List String) : calls.eraseDups.Nodup := by
  induction calls using List.reverseRecOn with
  | nil => simp
  | append_singleton calls name ih =>
    rw [eraseDups_concat]
    exact nodup_enlist ih name

theorem eraseDups_of_nodup {names : List String} (h : names.Nodup) : names.eraseDups = names := by
  induction names using List.reverseRecOn with
  | nil => rfl
  | append_singleton names name ih =>
    obtain ⟨hn, -, hdisjoint⟩ := List.nodup_append.1 h
    have hm : name ∉ names := fun hm => hdisjoint name hm name (by simp) rfl
    rw [eraseDups_concat, ih hn, enlist, if_neg hm]

section Since
variable {α : Type}

/-- What came after the last item that ends a period. -/
def since (ends : α → Bool) (history : List α) : List α :=
  history.rtakeWhile fun x => !ends x

@[simp] theorem since_nil (ends : α → Bool) : since ends [] = [] :=
  List.rtakeWhile_nil _

theorem since_concat_ends {ends : α → Bool} {x : α} (history : List α) (h : ends x = true) :
    since ends (history ++ [x]) = [] :=
  List.rtakeWhile_concat_neg _ _ x (by simp [h])

theorem since_concat {ends : α → Bool} {x : α} (history : List α) (h : ends x = false) :
    since ends (history ++ [x]) = since ends history ++ [x] :=
  List.rtakeWhile_concat_pos _ _ x (by simp [h])

theorem filterMap_since_concat {β : Type} {ends : α → Bool} {x : α} (f : α → Option β)
    (history : List α) (h : ends x = false) :
    (since ends (history ++ [x])).filterMap f =
      (since ends history).filterMap f ++ (f x).toList := by
  rw [since_concat history h, List.filterMap_append]
  cases hx : f x <;> simp [hx]

end Since

theorem lookup_cons_ite {α : Type} (e : String × α) (es : List (String × α)) (name : String) :
    (e :: es).lookup name = if name = e.1 then some e.2 else es.lookup name := by
  obtain ⟨n, v⟩ := e
  rw [List.lookup_cons]
  by_cases h : name = n
  · simp [h]
  · have hb : (name == n) = false := by simpa using h
    simp [h, hb]

theorem lookup_eq_none_iff_not_mem {α : Type} {es : List (String × α)} {name : String} :
    es.lookup name = none ↔ name ∉ es.map Prod.fst := by
  rw [List.lookup_eq_none_iff]
  constructor
  · intro h hm
    obtain ⟨e, he, rfl⟩ := List.mem_map.1 hm
    simpa using h e he
  · intro h e he
    rw [bne_iff_ne]
    rintro rfl
    exact h (List.mem_map_of_mem he)

theorem lookup_of_mem {α : Type} {es : List (String × α)} {name : String} {value : α}
    (h : (es.map Prod.fst).Nodup) (hm : (name, value) ∈ es) : es.lookup name = some value := by
  induction es with
  | nil => simp at hm
  | cons e es ih =>
    obtain ⟨hn, ht⟩ := List.nodup_cons.1 h
    rw [lookup_cons_ite]
    obtain rfl | hm := List.mem_cons.1 hm
    · exact if_pos rfl
    · have hne : name ≠ e.1 := by
        rintro rfl
        exact hn (List.mem_map.2 ⟨_, hm, rfl⟩)
      rw [if_neg hne]
      exact ih ht hm

theorem lookup_filter_of_true {α : Type} {p : String → Bool} {name : String} (hp : p name = true)
    (es : List (String × α)) : (es.filter fun e => p e.1).lookup name = es.lookup name := by
  induction es with
  | nil => rfl
  | cons e es ih =>
    rw [List.filter_cons, lookup_cons_ite]
    by_cases hn : name = e.1
    · rw [hn] at hp
      simp [hp, hn, lookup_cons_ite]
    · by_cases he : p e.1 = true
      · simp [he, hn, lookup_cons_ite, ih]
      · simp [he, hn, ih]

theorem lookup_map_named {α β : Type} (f : String → α → β) (es : List (String × α))
    (name : String) :
    (es.map fun e => (e.1, f e.1 e.2)).lookup name = (es.lookup name).map (f name) := by
  induction es with
  | nil => rfl
  | cons e es ih =>
    rw [List.map_cons, lookup_cons_ite, lookup_cons_ite, ih]
    by_cases h : name = e.1
    · simp [h]
    · simp [h]

namespace Table
variable {α : Type}

theorem entries_insert_of_not_mem {t : Table α} {name : String} {value : α}
    (h : name ∉ t.entries.map Prod.fst) :
    (t.insert name value).entries = t.entries ++ [(name, value)] := by
  have hc : t.contains name = false := by
    simp only [contains, List.any_eq_false, beq_iff_eq]
    rintro e he rfl
    exact h (List.mem_map_of_mem he)
  simp [insert, hc]

theorem entries_update {pairs : List (String × α)} {t : Table α}
    (h : ((t.entries ++ pairs).map Prod.fst).Nodup) :
    (t.update pairs).entries = t.entries ++ pairs := by
  induction pairs generalizing t with
  | nil => simp [update]
  | cons e pairs ih =>
    have hn : e.1 ∉ t.entries.map Prod.fst := by
      rw [List.map_append, List.nodup_append] at h
      intro hm
      exact h.2.2 _ hm _ (by simp) rfl
    have he : (t.insert e.1 e.2).entries = t.entries ++ [(e.1, e.2)] :=
      entries_insert_of_not_mem hn
    have hi := @ih (t.insert e.1 e.2) (by rw [he]; simpa using h)
    rw [he] at hi
    simpa [update] using hi

theorem entries_ofList {pairs : List (String × α)} (h : (pairs.map Prod.fst).Nodup) :
    (ofList pairs).entries = pairs := by
  have hu : (empty.update pairs).entries = empty.entries ++ pairs :=
    entries_update (by simpa [empty] using h)
  simpa [empty, update, ofList] using hu

theorem ext_entries {t u : Table α} (h : t.entries = u.entries) : t = u := by
  cases t
  cases u
  cases h
  rfl

theorem ofList_toList (t : Table α) : ofList t.toList = t :=
  ext_entries (entries_ofList t.nodup)

theorem contains_iff {t : Table α} {name : String} : t.contains name = true ↔ name ∈ t.names := by
  simp [contains, names]

theorem entries_insert_of_mem {t : Table α} {name : String} {value : α} (h : name ∈ t.names) :
    (t.insert name value).entries = replace name value t.entries := by
  rw [insert, dif_pos (contains_iff.2 h)]

theorem names_insert (t : Table α) (name : String) (value : α) :
    (t.insert name value).names = enlist t.names name := by
  unfold enlist
  split
  · next h =>
    rw [names, entries_insert_of_mem h]
    exact map_fst_replace name value t.entries
  · next h =>
    rw [names, entries_insert_of_not_mem h, List.map_append]
    rfl

theorem get?_eq_none_iff {t : Table α} {name : String} : t.get? name = none ↔ name ∉ t.names :=
  lookup_eq_none_iff_not_mem

theorem lookup_replace (name : String) (value : α) (es : List (String × α)) (other : String) :
    (replace name value es).lookup other =
      if other = name then (es.lookup other).map fun _ => value else es.lookup other := by
  induction es with
  | nil => simp [replace]
  | cons e es ih =>
    rw [replace, List.map_cons, ← replace, lookup_cons_ite, lookup_cons_ite, ih]
    by_cases he : e.1 = name
    · by_cases ho : other = name
      · simp [he, ho]
      · simp [he, ho]
    · by_cases ho : other = name
      · have hne : ¬name = e.1 := Ne.symm he
        simp [he, ho, hne]
      · simp [he, ho]

theorem get?_insert (t : Table α) (name : String) (value : α) (other : String) :
    (t.insert name value).get? other = if other = name then some value else t.get? other := by
  by_cases h : name ∈ t.names
  · rw [get?, entries_insert_of_mem h, lookup_replace]
    by_cases ho : other = name
    · obtain ⟨v, hv⟩ := Option.ne_none_iff_exists'.1 fun hnone => get?_eq_none_iff.1 hnone h
      rw [get?] at hv
      simp [ho, hv]
    · simp [ho, get?]
  · rw [get?, entries_insert_of_not_mem h, List.lookup_append]
    by_cases ho : other = name
    · have hnone : t.entries.lookup name = none := get?_eq_none_iff.2 h
      simp [ho, hnone]
    · simp [ho, get?, lookup_cons_ite]

theorem get?_mapNamed {β : Type} (f : String → α → β) (t : Table α) (name : String) :
    (t.mapNamed f).get? name = (t.get? name).map (f name) :=
  lookup_map_named f t.entries name

theorem names_mapNamed {β : Type} (f : String → α → β) (t : Table α) :
    (t.mapNamed f).names = t.names := by
  simp [names, mapNamed, List.map_map, Function.comp_def]

theorem mem_entries_of_get? {t : Table α} {name : String} {value : α}
    (h : t.get? name = some value) : (name, value) ∈ t.entries := by
  obtain ⟨before, after, he, -⟩ := List.lookup_eq_some_iff.1 h
  rw [he]
  simp

theorem mem_entries_insert {t : Table α} {name : String} {value : α}
    {e : String × α} (h : e ∈ (t.insert name value).entries) :
    e = (name, value) ∨ e ∈ t.entries := by
  unfold insert at h
  split at h
  · obtain ⟨e', he', rfl⟩ := List.mem_map.1 h
    by_cases hn : e'.1 = name
    · simp [hn]
    · simp [hn, he']
  · obtain he | he := List.mem_append.1 h
    · exact Or.inr he
    · exact Or.inl (List.mem_singleton.1 he)

/-- The entries of a table are its names, each with its value. -/
theorem entries_eq_filterMap (t : Table α) :
    t.entries = t.names.filterMap fun name => (t.get? name).map fun value => (name, value) := by
  have hentry : ∀ e ∈ t.entries,
      (t.get? e.1).map (fun value => (e.1, value)) = some e := by
    intro e he
    have hvalue : t.get? e.1 = some e.2 := lookup_of_mem t.nodup he
    rw [hvalue]
    rfl
  rw [names, List.filterMap_map]
  exact ((List.filterMap_congr hentry).trans List.filterMap_some).symm

theorem ext_get? {t u : Table α} (hn : t.names = u.names)
    (hv : ∀ name, t.get? name = u.get? name) : t = u := by
  apply ext_entries
  rw [entries_eq_filterMap t, entries_eq_filterMap u, hn]
  simp only [hv]

/-- The table of the names of a history in order of first occurrence, each with a value. -/
def listing (calls : List String) (value : String → α) : Table α :=
  ⟨calls.eraseDups.map fun name => (name, value name), by
    have h : (calls.eraseDups.map fun name => (name, value name)).map Prod.fst =
        calls.eraseDups := by
      simp [List.map_map, Function.comp_def]
    rw [h]
    exact nodup_eraseDups calls⟩

end Table

theorem lookup_map_self {α : Type} (names : List String) (value : String → α) (name : String) :
    (names.map fun n => (n, value n)).lookup name =
      if name ∈ names then some (value name) else none := by
  induction names with
  | nil => simp
  | cons n names ih =>
    rw [List.map_cons, List.lookup_cons, ih]
    by_cases h : name = n
    · subst h
      simp
    · have hb : (name == n) = false := by simpa using h
      simp [hb, h]

/-! ## Places -/

section Places
variable {α : Type} {xs : List α} {i : Nat} {x : α}

/-- Putting back what is at a place changes nothing. -/
theorem set_of_getElem? (h : xs[i]? = some x) : xs.set i x = xs := by
  obtain ⟨hi, rfl⟩ := List.getElem?_eq_some_iff.1 h
  exact List.set_getElem_self hi

theorem modify_of_getElem? (h : xs[i]? = some x) (f : α → α) : xs.modify i f = xs.set i (f x) := by
  rw [List.modify_eq_set_getElem?, h]
  rfl

theorem modify_append_of_lt (hi : i < xs.length) (ys : List α) (f : α → α) :
    (xs ++ ys).modify i f = xs.modify i f ++ ys := by
  have hx : xs[i]? = some xs[i] := List.getElem?_eq_getElem hi
  have hxy : (xs ++ ys)[i]? = some xs[i] := by rw [List.getElem?_append_left hi, hx]
  rw [modify_of_getElem? hxy, modify_of_getElem? hx, List.set_append_left _ _ hi]

end Places

end UsageMeter
