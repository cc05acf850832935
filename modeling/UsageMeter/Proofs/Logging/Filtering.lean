import UsageMeter.Proofs.Logging.Body

/-!
What filtering does to a record. Either its message or its time cannot be written, and the record is
as it was; or the record is kept, its body tells what a caller has set on it and the resource, and
nothing else of it changes.
-/
namespace UsageMeter.Logging
namespace Record

/-! ## What is set on a record -/

theorem additions_set (r : Record) (name : String) (v : Value) :
    (r.set name v).additions =
      if isStandard name = true then r.additions else r.additions.insert name v := by
  by_cases hn : name = "args"
  · have hset : r.set name v = ⟨some (givenArguments v), r.attributes⟩ := if_pos hn
    have hstandard : isStandard name = true := by
      rw [hn]
      decide
    rw [hset, if_pos hstandard]
    rfl
  · have hset : r.set name v = ⟨r.args, r.attributes.insert name v⟩ := if_neg hn
    rw [hset, additions_insert]

/-- What is set on a record adds to it in order, unless it is standard. -/
theorem additions_setAll (r : Record) (pairs : List (String × Value)) :
    (r.setAll pairs).additions =
      r.additions.update (pairs.filter fun e => !isStandard e.1) := by
  induction pairs generalizing r with
  | nil => rfl
  | cons e pairs ih =>
    have hrest : (r.setAll (e :: pairs)).additions = ((r.set e.1 e.2).setAll pairs).additions := rfl
    rw [hrest, ih, additions_set, List.filter_cons]
    by_cases hs : isStandard e.1 = true
    · simp [hs]
    · simp [hs, Table.update]

theorem mem_additions_iff {r : Record} {name : String} {v : Value} :
    (name, v) ∈ r.additions.toList ↔
      name ∉ standardFields ∧ r.attributes.get? name = some v := by
  have hm : (name, v) ∈ r.additions.toList ↔
      (name, v) ∈ r.attributes.entries ∧ isStandard name = false := by
    simp [additions, Table.toList, Table.entries_only]
  have hvalue : (name, v) ∈ r.attributes.entries ↔ r.attributes.get? name = some v :=
    ⟨lookup_of_mem r.attributes.nodup, Table.mem_entries_of_get?⟩
  rw [hm, hvalue, and_comm]
  simp [isStandard]

/-! ## What is left of it -/

/-- A record `r` that was filtered to `r'`: arguments, message and body are set, with what the body
tells of the caller's attributes and of the resource; all other attributes but the mark of the
installation are as they were, in their old places. -/
structure FilteredTo (r r' : Record) (resource : Resource) (message : String)
    (told : List (String × Value)) : Prop where
  args : r'.args = none
  message : r'.attributes.get? "message" = some (.str message)
  attributes : Value.entry? (r'.get "msg") "attributes" =
    if told.isEmpty then none else some (.object told)
  resource : Value.entry? (r'.get "msg") "resource" =
    if resource.toList.isEmpty then none else some (.object resource.toList)
  others : ∀ name, name ≠ "msg" → name ≠ "message" → name ≠ instanceAttribute →
    r'.attributes.get? name = r.attributes.get? name
  places : r.attributes.names <+: r'.attributes.names

theorem names_prefix_restructured (r : Record) (resource : Resource) (time message : String) :
    r.attributes.names <+: (r.restructured resource time message).attributes.names := by
  have hinsert : ∀ (t : Table Value) (name : String) (v : Value),
      t.names <+: (t.insert name v).names := by
    intro t name v
    rw [Table.names_insert]
    exact prefix_enlist t.names name
  have hbody := (hinsert r.attributes "msg" (r.body resource time message)).trans
    (hinsert _ "message" (.str message))
  obtain hmark | ⟨v, hmark⟩ := mark_cases ⟨none, (r.attributes.insert "msg"
    (r.body resource time message)).insert "message" (.str message)⟩ resource
  · rw [restructured, hmark]
    exact hbody
  · rw [restructured, hmark]
    exact hbody.trans (hinsert _ instanceAttribute v)

theorem filteredTo_restructured (r : Record) (resource : Resource) (time message : String) :
    r.FilteredTo (r.restructured resource time message) resource message r.additions.toList where
  args := r.args_restructured resource time message
  message := by
    rw [restructured, get?_mark (by decide), Table.get?_insert, if_pos rfl]
  attributes := by
    rw [get_msg_restructured, entry?_attributes_body]
    rfl
  resource := by
    rw [get_msg_restructured, entry?_resource_body]
  others := fun _ hmsg hmessage hmark =>
    get?_restructured hmsg hmessage hmark r resource time message
  places := r.names_prefix_restructured resource time message

end Record

/-- For every record, whatever is set on it in whatever order, and for every resource: if the
message cannot be read, or else the time cannot be written, filtering fails with that error and the
record is as it was. Otherwise the record is kept and filtered, and what its body tells are exactly
the attributes outside the standard ones with their values at entry, each once and in the order in
which they were set. -/
theorem filtering_tells_all_or_fails (start : Record) (pairs : List (String × Value))
    (resource : Resource) :
    let r := start.setAll pairs
    let out := r.filter resource
    (∀ e, r.formatted = .error e → out = (.error e, r)) ∧
    (∀ message e, r.formatted = .ok message → r.written = .error e → out = (.error e, r)) ∧
    ∀ message time, r.formatted = .ok message → r.written = .ok time →
      ∃ r' told, out = (.ok true, r') ∧ r.FilteredTo r' resource message told ∧
        told = (start.additions.update (pairs.filter fun e => !isStandard e.1)).toList ∧
        told.Sublist r.attributes.toList ∧ (told.map Prod.fst).Nodup ∧
        ∀ name v, (name, v) ∈ told ↔
          name ∉ standardFields ∧ r.attributes.get? name = some v := by
  intro r out
  refine ⟨fun e hm => Record.filter_of_formatted_error hm resource,
    fun message e hm ht => Record.filter_of_written_error hm ht resource, ?_⟩
  intro message time hm ht
  refine ⟨r.restructured resource time message, r.additions.toList,
    Record.filter_of_ok hm ht resource, r.filteredTo_restructured resource time message, ?_,
    List.filter_sublist, r.additions.nodup, fun _ _ => Record.mem_additions_iff⟩
  rw [start.additions_setAll pairs]

-- A tuple that is set as the arguments fills the message in as a row of them.
example : let start := Record.make "jobs" 20 (.str "done %s") [] (.int 0) .null .null
    (start.setAll [("args", .tuple [.str "all"])]).formatted = .ok "done all" := by
  decide +kernel

/-- Attributes that a caller sets on a record: standard ones, the mark of an installation, and one
that is set twice. -/
def mixedSettings : List (String × Value) :=
  [("tenant", .str "acme"), ("levelname", .str "NOTE"), (instanceAttribute, .str "own"),
    ("process", .int 7), ("tenant", .str "umbra")]

theorem mixed_settings_told :
    let start := Record.make "jobs" 20 (.str "done %s") [.str "all"] (.int 0) .null .null
    let r := start.setAll mixedSettings
    let late := start.setAll (mixedSettings ++ [("created", .str "noon")])
    let resource : Resource := Table.ofList [(instanceAttribute, .str "e-1")]
    (∃ r', r.filter resource = (.ok true, r') ∧
      r'.attributes.get? "message" = some (.str "done all") ∧
      Value.entry? (r'.get "msg") "attributes" =
        some (.object [("tenant", .str "umbra"), (instanceAttribute, .str "own")]) ∧
      Value.entry? (r'.get "msg") "resource" = some (.object [(instanceAttribute, .str "e-1")]) ∧
      r'.attributes.get? "process" = some (.int 7)) ∧
    late.filter resource = (.error (.timestamp (.notNumber "str")), late) := by
  intro start r late resource
  have hm : r.formatted = .ok "done all" := by decide +kernel
  have ht : r.written = .ok "1970-01-01T00:00:00+00:00" := by decide +kernel
  have hlate : late.formatted = .ok "done all" := by decide +kernel
  have hnoon : late.written = .error (.timestamp (.notNumber "str")) := by decide +kernel
  obtain ⟨-, -, hkept⟩ := filtering_tells_all_or_fails start mixedSettings resource
  obtain ⟨r', told, hout, hfiltered, htold, -⟩ := hkept _ _ hm ht
  obtain ⟨-, hfails, -⟩ := filtering_tells_all_or_fails start
    (mixedSettings ++ [("created", .str "noon")]) resource
  refine ⟨⟨r', hout, hfiltered.message, ?_, hfiltered.resource, ?_⟩, hfails _ _ hlate hnoon⟩
  · rw [hfiltered.attributes, htold]
    rfl
  · rw [hfiltered.others "process" (by decide) (by decide) (by decide)]
    rfl

end UsageMeter.Logging
