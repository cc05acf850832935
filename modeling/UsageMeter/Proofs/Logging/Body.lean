import UsageMeter.Proofs.Logging.Handing
import UsageMeter.Proofs.Value.Object

/-!
What the body of a record tells: its message, and as attributes those that are not standard. Shown
as a text, a body is longer than the message that it tells.
-/
namespace UsageMeter

/-! ## Lengths of written values -/

theorem Text.escapeChar_ne_nil (quote c : Char) : escapeChar quote c ≠ [] := by
  have hcode : escapeCode c ≠ [] := by
    simp only [escapeCode]
    split
    · exact List.cons_ne_nil _ _
    · split <;> exact List.cons_ne_nil _ _
  unfold escapeChar
  repeat' split
  all_goals first | exact hcode | exact List.cons_ne_nil _ _

theorem Text.length_lt_quoted (s : String) : s.length < (quoted s).length := by
  have hescaped : ∀ (q : Char) (cs : List Char),
      cs.length ≤ (cs.flatMap (escapeChar q)).length := by
    intro q cs
    induction cs with
    | nil => exact Nat.zero_le _
    | cons c cs ih =>
      have hc := List.length_pos_iff.2 (escapeChar_ne_nil q c)
      rw [List.flatMap_cons, List.length_append, List.length_cons]
      omega
  have h := hescaped (quoteFor s.toList) s.toList
  rw [quoted, String.length_ofList, List.length_append, List.length_cons, ← String.length_toList]
  omega

theorem length_le_intercalate {sep part : String} {parts : List String} (h : part ∈ parts) :
    part.length ≤ (sep.intercalate parts).length := by
  induction parts with
  | nil => cases h
  | cons first parts ih =>
    cases parts with
    | nil =>
      obtain rfl := List.mem_singleton.1 h
      rw [String.intercalate_singleton]
    | cons second parts =>
      rw [String.intercalate_cons_cons, String.length_append, String.length_append]
      obtain rfl | hm := List.mem_cons.1 h
      · omega
      · have hi := ih hm
        omega

namespace Value

theorem mem_writtenPairs {k v : Value} {ps : List (Value × Value)} (h : (k, v) ∈ ps) :
    k.written ++ ": " ++ v.written ∈ writtenPairs ps := by
  induction ps with
  | nil => cases h
  | cons p ps ih =>
    obtain ⟨k', v'⟩ := p
    rw [writtenPairs]
    obtain he | hm := List.mem_cons.1 h
    · cases he
      exact List.mem_cons_self
    · exact List.mem_cons_of_mem _ (ih hm)

theorem length_lt_shown_object {fields : List (String × Value)} {name : String} {v : Value}
    (h : (name, v) ∈ fields) : v.written.length < (object fields).shown.length := by
  have hm : (Value.str name, v) ∈ fields.map fun e => (Value.str e.1, e.2) :=
    List.mem_map.2 ⟨_, h, rfl⟩
  have hle : ((Value.str name).written ++ ": " ++ v.written).length ≤ (", ".intercalate
      (writtenPairs (fields.map fun e => (Value.str e.1, e.2)))).length :=
    length_le_intercalate (mem_writtenPairs hm)
  have hopen : ("\x7b" : String).length = 1 := rfl
  rw [object_eq, shown, written]
  · simp only [String.length_append] at hle ⊢
    omega
  · intro s hs
    cases hs

end Value

/-! ## Parts of tables -/

namespace Table
variable {α : Type} {p : String → Bool}

/-- The part of a table under some of its names. -/
def only (p : String → Bool) (t : Table α) : Table α :=
  ⟨t.entries.filter fun e => p e.1, t.nodup.sublist (List.filter_sublist.map Prod.fst)⟩

theorem entries_only (t : Table α) : (t.only p).entries = t.entries.filter fun e => p e.1 :=
  rfl

theorem mem_names_only {t : Table α} {name : String} :
    name ∈ (t.only p).names ↔ name ∈ t.names ∧ p name = true := by
  simp only [names, only, List.mem_map, List.mem_filter]
  constructor
  · rintro ⟨e, ⟨he, hp⟩, rfl⟩
    exact ⟨⟨e, he, rfl⟩, hp⟩
  · rintro ⟨⟨e, he, rfl⟩, hp⟩
    exact ⟨e, ⟨he, hp⟩, rfl⟩

theorem filter_replace (name : String) (value : α) (es : List (String × α)) :
    (replace name value es).filter (fun e => p e.1) =
      replace name value (es.filter fun e => p e.1) := by
  induction es with
  | nil => rfl
  | cons e es ih =>
    rw [replace, List.map_cons, ← replace, List.filter_cons, List.filter_cons, ih]
    by_cases hn : e.1 = name
    · by_cases hp : p name = true <;> simp [hn, hp, replace]
    · by_cases hp : p e.1 = true <;> simp [hn, hp, replace]

theorem replace_of_not_mem {name : String} {value : α} {es : List (String × α)}
    (h : name ∉ es.map Prod.fst) : replace name value es = es := by
  rw [replace, List.map_congr_left, List.map_id]
  intro e he
  have hn : e.1 ≠ name := by
    rintro rfl
    exact h (List.mem_map_of_mem he)
  simp [hn]

/-- Setting a name shows in a part of a table only if the name belongs there. -/
theorem only_insert (t : Table α) (name : String) (value : α) :
    (t.insert name value).only p =
      if p name = true then (t.only p).insert name value else t.only p := by
  apply ext_entries
  by_cases hm : name ∈ t.names
  · have he : ((t.insert name value).only p).entries = replace name value (t.only p).entries := by
      rw [entries_only, entries_insert_of_mem hm]
      exact filter_replace name value t.entries
    rw [he]
    by_cases hp : p name = true
    · rw [if_pos hp, entries_insert_of_mem (mem_names_only.2 ⟨hm, hp⟩)]
    · rw [if_neg hp]
      exact replace_of_not_mem fun h => hp (mem_names_only.1 h).2
  · have he : ((t.insert name value).only p).entries =
        (t.only p).entries ++ [(name, value)].filter fun e => p e.1 := by
      rw [entries_only, entries_insert_of_not_mem hm]
      exact List.filter_append ..
    rw [he]
    by_cases hp : p name = true
    · rw [if_pos hp, entries_insert_of_not_mem fun h => hm (mem_names_only.1 h).1]
      simp [hp]
    · rw [if_neg hp]
      simp [hp]

theorem get?_update_of_not_mem {pairs : List (String × α)} {name : String}
    (h : name ∉ pairs.map Prod.fst) (t : Table α) : (t.update pairs).get? name = t.get? name := by
  induction pairs generalizing t with
  | nil => rfl
  | cons e pairs ih =>
    rw [List.map_cons, List.mem_cons, not_or] at h
    have hi := ih h.2 (t.insert e.1 e.2)
    rw [get?_insert, if_neg h.1] at hi
    exact hi

theorem only_update (t : Table α) (pairs : List (String × α)) :
    (t.update pairs).only p = (t.only p).update (pairs.filter fun e => p e.1) := by
  induction pairs generalizing t with
  | nil => rfl
  | cons e pairs ih =>
    have hi := ih (t.insert e.1 e.2)
    rw [only_insert] at hi
    rw [List.filter_cons]
    refine hi.trans ?_
    by_cases hp : p e.1 = true
    · simp [hp, update]
    · simp [hp]

end Table

namespace Logging

/-! ## Additions -/

/-- The attributes of a record that are not standard. -/
def Record.additions (r : Record) : Table Value :=
  r.attributes.only fun name => !isStandard name

/-- The attributes that a caller adds, each of them once. -/
def Call.additions (c : Call) : Table Value :=
  Table.ofList (c.extras.filter fun e => !isStandard e.1)

theorem Record.setAll_eq {pairs : List (String × Value)} (h : ∀ e ∈ pairs, e.1 ≠ "args")
    (r : Record) : r.setAll pairs = ⟨r.args, r.attributes.update pairs⟩ := by
  induction pairs generalizing r with
  | nil => rfl
  | cons e pairs ih =>
    have hset : r.set e.1 e.2 = ⟨r.args, r.attributes.insert e.1 e.2⟩ := if_neg (h e (by simp))
    have hi := ih (fun e' he => h e' (by simp [he])) (r.set e.1 e.2)
    rw [hset] at hi
    rw [setAll, List.foldl_cons, hset]
    exact hi

/-- A call that adds nothing under reserved names makes a record. -/
theorem Call.record_of_free {c : Call} (h : ∀ e ∈ c.extras, isReserved e.1 = false) :
    c.record = .ok ⟨some (callArguments c.args), c.bare.attributes.update c.extras⟩ := by
  have hfind : c.extras.find? (fun e => isReserved e.1) = none :=
    List.find?_eq_none.2 fun e he => by simp [h e he]
  have hargs : ∀ e ∈ c.extras, e.1 ≠ "args" := by
    intro e he hn
    have hr := h e he
    rw [hn] at hr
    exact absurd hr (by decide)
  simp only [Call.record, hfind, Record.setAll_eq hargs]
  rfl

/-- The attributes of a record that was made: those that all have, and what its caller adds under
names of its own. -/
theorem Call.attributes_record {c : Call} {record : Record} (h : c.record = .ok record) :
    record.attributes = c.bare.attributes.update c.extras ∧
      ∀ e ∈ c.extras, isReserved e.1 = false := by
  have hfree : ∀ e ∈ c.extras, isReserved e.1 = false := by
    cases hf : c.extras.find? fun e => isReserved e.1 with
    | some e => simp [Call.record, hf] at h
    | none => exact fun e he => by simpa using List.find?_eq_none.1 hf e he
  rw [Call.record_of_free hfree] at h
  cases h
  exact ⟨rfl, hfree⟩

/-- A record comes with what its caller adds. -/
theorem Call.additions_record {c : Call} {record : Record} (h : c.record = .ok record) :
    record.additions = c.additions := by
  have hempty : c.bare.additions = Table.empty := by
    apply Table.ext_entries
    rw [Record.additions, Table.entries_only, Call.bare, Record.entries_make]
    simp [isStandard, standardFields, Table.empty]
  rw [Record.additions, (Call.attributes_record h).1, Table.only_update, ← Record.additions, hempty]
  rfl

/-- A caller cannot change the attributes that all records have. -/
theorem Call.get?_record {c : Call} {record : Record} (h : c.record = .ok record) {name : String}
    (hn : isReserved name = true) :
    record.attributes.get? name = c.bare.attributes.get? name := by
  obtain ⟨ha, hfree⟩ := Call.attributes_record h
  rw [ha]
  apply Table.get?_update_of_not_mem
  intro hm
  obtain ⟨e, he, rfl⟩ := List.mem_map.1 hm
  rw [hfree e he] at hn
  cases hn

/-- What marking a record with an installation does to additions. -/
def markAdditions (resource : Resource) (t : Table Value) : Table Value :=
  match resource.get? instanceAttribute with
  | some .null => t
  | some v => t.insert instanceAttribute v
  | none => t

namespace Record

theorem additions_insert (r : Record) (name : String) (v : Value) :
    (⟨r.args, r.attributes.insert name v⟩ : Record).additions =
      if isStandard name = true then r.additions else r.additions.insert name v := by
  rw [additions, Table.only_insert, ← additions]
  cases isStandard name <;> rfl

theorem additions_mark (r : Record) (resource : Resource) :
    (r.mark resource).additions = markAdditions resource r.additions := by
  rw [mark, markAdditions]
  cases resource.get? instanceAttribute with
  | none => rfl
  | some v =>
    have hset := r.additions_insert instanceAttribute v
    cases v with
    | null => rfl
    | _ => exact hset

/-- Structuring a record changes its additions by the mark only. -/
theorem additions_restructured (r : Record) (resource : Resource) (time message : String) :
    (r.restructured resource time message).additions = markAdditions resource r.additions := by
  let told : Record := ⟨r.args, r.attributes.insert "msg" (r.body resource time message)⟩
  have htold : told.additions = r.additions := r.additions_insert "msg" _
  have hmessage : told.additions =
      (⟨told.args, told.attributes.insert "message" (.str message)⟩ : Record).additions :=
    (told.additions_insert "message" _).symm
  rw [restructured, additions_mark, ← htold, hmessage]
  rfl

/-! ## Entries of a body -/

/-- What a body says of additions, if there are any. -/
def toldAdditions (additions : Table Value) : Option Value :=
  if additions.toList.isEmpty then none else some (.object additions.toList)

variable (r : Record) (resource : Resource) (time message : String)

theorem entry?_message_body :
    Value.entry? (r.body resource time message) "message" = some (.str message) := by
  rw [body, Value.entry?_object]
  rfl

theorem lookup_objectField (name : String) (fields : List (String × Value)) (other : String) :
    (objectField name fields).lookup other =
      if other = name then if fields.isEmpty then none else some (.object fields) else none := by
  unfold objectField
  cases fields.isEmpty with
  | true => simp
  | false => simp [lookup_cons_ite]

theorem entry?_attributes_body :
    Value.entry? (r.body resource time message) "attributes" = toldAdditions r.additions := by
  have hplain : ([("timestamp", .str time), ("severity_text", r.get "levelname"),
      ("logger_name", r.get "name"), ("message", .str message)] : List (String × Value)).lookup
        "attributes" = none := rfl
  rw [body, Value.entry?_object, List.lookup_append, List.lookup_append, lookup_objectField,
    lookup_objectField, hplain, if_neg (by decide), if_pos rfl]
  rfl

theorem entry?_resource_body :
    Value.entry? (r.body resource time message) "resource" =
      if resource.toList.isEmpty then none else some (.object resource.toList) := by
  have hplain : ([("timestamp", .str time), ("severity_text", r.get "levelname"),
      ("logger_name", r.get "name"), ("message", .str message)] : List (String × Value)).lookup
        "resource" = none := rfl
  have hname : "resource" ≠ "attributes" := by decide
  rw [body, Value.entry?_object, List.lookup_append, List.lookup_append, lookup_objectField,
    lookup_objectField, hplain, if_pos rfl, if_neg hname, Option.or_none, Option.none_or]

/-- A body is longer than the message that it tells. -/
theorem length_lt_shown_body : message.length < (r.body resource time message).shown.length := by
  have hquoted := Text.length_lt_quoted message
  have hm : ("message", Value.str message) ∈ ([("timestamp", .str time),
      ("severity_text", r.get "levelname"), ("logger_name", r.get "name"),
      ("message", .str message)] ++ objectField "resource" resource.toList ++
        objectField "attributes" r.extras : List (String × Value)) := by
    simp
  have hshown := Value.length_lt_shown_object hm
  rw [Value.written] at hshown
  exact hquoted.trans hshown

end Record
end Logging
end UsageMeter
