import UsageMeter.Proofs.Listing
import UsageMeter.Report.Rendered

/-!
Dictionaries with texts as keys. The dictionaries of two tables are equal just if the tables are
alike, and those of the same distinct keys just if they are equal field by field. The fields of such
a dictionary can be read back.
-/
namespace UsageMeter.Value

theorem object_eq (fields : List (String × Value)) :
    object fields = .dictionary (fields.map fun e => (.str e.1, e.2)) :=
  rfl

/-! ## Reading -/

theorem entry?_object (fields : List (String × Value)) (name : String) :
    entry? (object fields) name = fields.lookup name := by
  rw [object_eq, entry?]
  induction fields with
  | nil => rfl
  | cons e fields ih =>
    rw [List.map_cons, List.findSome?_cons, lookup_cons_ite, ih]
    by_cases h : e.1 = name
    · simp [h]
    · simp [h, Ne.symm h]

theorem mapM_map_some {α β : Type} {r : β → Option α} {w : α → β} (h : ∀ a, r (w a) = some a)
    (as : List α) : (as.map w).mapM r = some as := by
  induction as with
  | nil => rfl
  | cons a as ih =>
    rw [List.map_cons, List.mapM_cons, h, ih]
    rfl

theorem fields?_object (fields : List (String × Value)) : fields? (object fields) = some fields :=
  mapM_map_some (w := fun e : String × Value => (str e.1, e.2)) (fun _ => rfl) fields

/-! ## Equality -/

@[simp] theorem equal_str (s s' : String) : (str s).equal (str s') = (s == s') := by
  rw [equal]

@[simp] theorem equal_bool (b b' : Bool) : (bool b).equal (bool b') = (b == b') := by
  cases b <;> cases b' <;> rfl

theorem equalPairs_iff {ps qs : List (Value × Value)} :
    equalPairs ps qs = true ↔
      ∀ p ∈ ps, ∃ q ∈ qs, p.1.equal q.1 = true ∧ p.2.equal q.2 = true := by
  induction ps with
  | nil => simp [equalPairs]
  | cons p ps ih =>
    obtain ⟨k, v⟩ := p
    rw [equalPairs, Bool.and_eq_true, ih, List.forall_mem_cons, List.any_eq_true]
    simp only [Bool.and_eq_true]

/-- Dictionaries are equal if each field has an equal one under its key. -/
theorem equal_object_iff {fields others : List (String × Value)}
    (hothers : (others.map Prod.fst).Nodup) :
    (object fields).equal (object others) = true ↔ fields.length = others.length ∧
      ∀ e ∈ fields, ∃ w, others.lookup e.1 = some w ∧ e.2.equal w = true := by
  rw [object_eq, object_eq, equal, List.length_map, List.length_map, Bool.and_eq_true, beq_iff_eq,
    equalPairs_iff, List.forall_mem_map]
  refine and_congr_right fun _ => forall₂_congr fun e _ => ?_
  constructor
  · rintro ⟨q, hq, hname, hequal⟩
    obtain ⟨f, hf, rfl⟩ := List.mem_map.1 hq
    rw [equal_str, beq_iff_eq] at hname
    exact ⟨f.2, lookup_of_mem hothers (hname ▸ hf), hequal⟩
  · rintro ⟨w, hw, hequal⟩
    have hm : (e.1, w) ∈ others := Table.mem_entries_of_get? (t := ⟨others, hothers⟩) hw
    exact ⟨_, List.mem_map_of_mem hm, by simp, hequal⟩

/-- Dictionaries of tables are equal if the tables are alike. -/
theorem equal_object (t u : Table Value) :
    (object t.entries).equal (object u.entries) = t.alike equal u := by
  rw [Bool.eq_iff_iff, equal_object_iff u.nodup, Table.alike, Bool.and_eq_true, beq_iff_eq,
    List.all_eq_true]
  refine and_congr_right fun _ => forall₂_congr fun e _ => ?_
  rw [Table.get?]
  cases u.entries.lookup e.1 <;> simp

/-- Dictionaries of the same keys are equal if they are field by field. -/
theorem equal_object_zip {keys : List String} (hkeys : keys.Nodup) {vs ws : List Value}
    (hvs : vs.length = keys.length) (hws : ws.length = keys.length) :
    (object (keys.zip vs)).equal (object (keys.zip ws)) = equalItems vs ws := by
  have hnodup : ((keys.zip ws).map Prod.fst).Nodup := by
    rwa [List.map_fst_zip hws.ge]
  rw [Bool.eq_iff_iff, equal_object_iff hnodup, List.length_zip, List.length_zip, hvs, hws,
    and_iff_right rfl]
  clear hnodup
  -- By induction on the keys: the first one names no later field, so the rest is looked up there.
  induction keys generalizing vs ws with
  | nil =>
    obtain rfl := List.length_eq_zero_iff.1 hvs
    obtain rfl := List.length_eq_zero_iff.1 hws
    simp [equalItems]
  | cons key keys ih =>
    obtain ⟨v, vs, rfl⟩ := List.exists_cons_of_length_eq_add_one hvs
    obtain ⟨w, ws, rfl⟩ := List.exists_cons_of_length_eq_add_one hws
    obtain ⟨hkey, hkeys⟩ := List.nodup_cons.1 hkeys
    have hlater : ∀ e ∈ keys.zip vs,
        ((key, w) :: keys.zip ws).lookup e.1 = (keys.zip ws).lookup e.1 := by
      intro e he
      have hne : e.1 ≠ key := fun h => hkey (h ▸ (List.of_mem_zip he).1)
      rw [lookup_cons_ite, if_neg hne]
    rw [equalItems, Bool.and_eq_true, ← ih hkeys (Nat.succ.inj hvs) (Nat.succ.inj hws),
      List.zip_cons_cons, List.zip_cons_cons, List.forall_mem_cons]
    refine and_congr (by simp) (forall₂_congr fun e he => ?_)
    rw [hlater e he]

end UsageMeter.Value
