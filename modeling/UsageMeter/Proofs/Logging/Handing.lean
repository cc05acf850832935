import UsageMeter.Logging.Routing
import UsageMeter.Proofs.Listing

/-!
What a log call hands over. The handlers that a call reaches work on one record in turn, each on
what the one before it left, and what they hand over depends on the library and on the levels and
resources of the setups alone. What is handed to a setup that still delivers is delivered, in order.
-/
namespace UsageMeter.Logging

/-! ## Structuring a record -/

namespace Record

section Making
variable (logger : String) (level : Int) (msg : Value) (args : List Value)
  (created excInfo stackInfo : Value)

/-- The attributes of a record as a call makes it. -/
theorem entries_make : (make logger level msg args created excInfo stackInfo).attributes.entries =
    [("name", .str logger), ("msg", msg), ("levelname", .str (levelName level)),
      ("levelno", .int level), ("exc_info", excInfo), ("stack_info", stackInfo),
      ("created", created)] := by
  have hnames : ["name", "msg", "levelname", "levelno", "exc_info", "stack_info",
    "created"].Nodup := by decide
  exact Table.entries_ofList hnames

theorem get?_make (name : String) :
    (make logger level msg args created excInfo stackInfo).attributes.get? name =
      List.lookup name [("name", .str logger), ("msg", msg),
        ("levelname", .str (levelName level)), ("levelno", .int level), ("exc_info", excInfo),
        ("stack_info", stackInfo), ("created", created)] := by
  rw [Table.get?, entries_make]

end Making

/-- What structuring leaves of a record with its time and message. -/
def restructured (r : Record) (resource : Resource) (time message : String) : Record :=
  (⟨none, (r.attributes.insert "msg" (r.body resource time message)).insert "message"
    (.str message)⟩ : Record).mark resource

variable {r : Record} {time message : String}

/-- A message that cannot be read ends the work before anything is done to the record. -/
theorem filter_of_formatted_error {e : RecordError} (h : r.formatted = .error e)
    (resource : Resource) : r.filter resource = (.error e, r) := by
  simp only [filter, structuring, Edit.perform_bind, Edit.perform_get, Edit.perform_lift, h]

/-- So does a time that cannot be written. -/
theorem filter_of_written_error {e : RecordError} (hm : r.formatted = .ok message)
    (h : r.written = .error e) (resource : Resource) : r.filter resource = (.error e, r) := by
  simp only [filter, structuring, Edit.perform_bind, Edit.perform_get, Edit.perform_lift, hm, h]

theorem filter_of_ok (hm : r.formatted = .ok message) (ht : r.written = .ok time)
    (resource : Resource) :
    r.filter resource = (.ok true, r.restructured resource time message) := by
  simp only [filter, structuring, Edit.perform_bind, Edit.perform_get, Edit.perform_lift, hm, ht,
    Edit.perform_modify, Edit.perform_pure]
  rfl

theorem structured_of_ok (hm : r.formatted = .ok message) (ht : r.written = .ok time)
    (resource : Resource) :
    r.structured resource = .ok (r.restructured resource time message) := by
  rw [structured, filter_of_ok hm ht]

/-- A record that was structured had a message and a time to write. -/
theorem exists_of_structured_eq_ok {r' : Record} {resource : Resource}
    (h : r.structured resource = .ok r') : ∃ message time, r.formatted = .ok message ∧
      r.written = .ok time ∧ r' = r.restructured resource time message := by
  cases hm : r.formatted with
  | error e =>
    rw [structured, filter_of_formatted_error hm] at h
    cases h
  | ok message =>
    cases ht : r.written with
    | error e =>
      rw [structured, filter_of_written_error hm ht] at h
      cases h
    | ok time =>
      rw [structured_of_ok hm ht] at h
      cases h
      exact ⟨message, time, rfl, rfl, rfl⟩

theorem mark_cases (r : Record) (resource : Resource) :
    r.mark resource = r ∨
      ∃ v, r.mark resource = ⟨r.args, r.attributes.insert instanceAttribute v⟩ := by
  unfold mark
  split
  · exact Or.inl rfl
  · next v _ _ => exact Or.inr ⟨v, rfl⟩
  · exact Or.inl rfl

theorem args_mark (r : Record) (resource : Resource) : (r.mark resource).args = r.args := by
  obtain h | ⟨v, h⟩ := r.mark_cases resource
  · rw [h]
  · rw [h]

theorem get?_mark {name : String} (hn : name ≠ instanceAttribute) (r : Record)
    (resource : Resource) :
    (r.mark resource).attributes.get? name = r.attributes.get? name := by
  obtain h | ⟨v, h⟩ := r.mark_cases resource
  · rw [h]
  · rw [h, Table.get?_insert, if_neg hn]

theorem args_restructured (r : Record) (resource : Resource) (time message : String) :
    (r.restructured resource time message).args = none :=
  args_mark _ resource

theorem get_msg_restructured (r : Record) (resource : Resource) (time message : String) :
    (r.restructured resource time message).get "msg" = r.body resource time message := by
  rw [get, restructured, get?_mark (by decide), Table.get?_insert, if_neg (by decide),
    Table.get?_insert, if_pos rfl]
  rfl

theorem get?_restructured {name : String} (hmsg : name ≠ "msg") (hmessage : name ≠ "message")
    (hinstance : name ≠ instanceAttribute) (r : Record) (resource : Resource)
    (time message : String) :
    (r.restructured resource time message).attributes.get? name = r.attributes.get? name := by
  rw [restructured, get?_mark hinstance, Table.get?_insert, if_neg hmessage, Table.get?_insert,
    if_neg hmsg]

/-- A message that is read is not hidden by an attribute of the caller. -/
theorem get?_formatter (h : r.formatted = .ok message) :
    r.attributes.get? formatterAttribute = none := by
  cases hf : r.attributes.get? formatterAttribute with
  | none => rfl
  | some v => simp [formatted, hf] at h

/-- The next handler takes the body for the message. -/
theorem formatted_restructured (h : r.formatted = .ok message) (resource : Resource) :
    (r.restructured resource time message).formatted =
      .ok (r.body resource time message).shown := by
  have hf : (r.restructured resource time message).attributes.get? formatterAttribute = none := by
    rw [get?_restructured (by decide) (by decide) (by decide)]
    exact get?_formatter h
  have ha := r.args_restructured resource time message
  have hmsg := r.get_msg_restructured resource time message
  simp only [formatted, hf, ha, hmsg]

theorem written_restructured (h : r.written = .ok time) (resource : Resource) :
    (r.restructured resource time message).written = .ok time := by
  rw [← h, written, get, get?_restructured (by decide) (by decide) (by decide)]
  rfl

end Record

/-! ## Handing over -/

/-- What decides how a setup treats a record. -/
def Setup.face (s : Setup) : Int × Resource :=
  (s.level, s.resource)

/-- What handlers hand over to their setups, each structuring what the one before it left. -/
def handed (sdk : Sdk) (faces : List (Int × Resource)) (level : Int) : List Nat → Record →
    List (Nat × Delivered)
  | [], _ => []
  | i :: is, record =>
    match faces[i]? with
    | none => handed sdk faces level is record
    | some (least, resource) =>
      if level < least then handed sdk faces level is record
      else match record.structured resource with
        | .error _ => []
        | .ok record => (i, record.delivered sdk) :: handed sdk faces level is record

variable {sdk : Sdk}

theorem map_fst_handed_sublist (faces : List (Int × Resource)) (level : Int) (is : List Nat)
    (record : Record) : ((handed sdk faces level is record).map Prod.fst).Sublist is := by
  induction is generalizing record with
  | nil => exact List.Sublist.refl _
  | cons i is ih =>
    rw [handed]
    split
    · exact (ih record).cons i
    · split
      · exact (ih record).cons i
      · split
        · exact List.nil_sublist _
        · next record' _ => exact (ih record').cons_cons i

/-- Whatever structuring keeps of a record holds of each state in which the record comes to a
handler. -/
theorem exists_of_mem_handed {P : Record → Prop}
    (hP : ∀ (r r' : Record) (resource : Resource), r.structured resource = .ok r' → P r → P r')
    {faces : List (Int × Resource)} {level : Int} {is : List Nat} {record : Record} {i : Nat}
    {d : Delivered} (h : P record) (hm : (i, d) ∈ handed sdk faces level is record) :
    ∃ face r r', faces[i]? = some face ∧ P r ∧ r.structured face.2 = .ok r' ∧
      d = r'.delivered sdk := by
  induction is generalizing record with
  | nil => cases hm
  | cons j is ih =>
    rw [handed] at hm
    cases hf : faces[j]? with
    | none =>
      simp only [hf] at hm
      exact ih h hm
    | some face =>
      simp only [hf] at hm
      by_cases hl : level < face.1
      · rw [if_pos hl] at hm
        exact ih h hm
      · rw [if_neg hl] at hm
        cases hs : record.structured face.2 with
        | error e =>
          simp only [hs] at hm
          cases hm
        | ok record' =>
          simp only [hs] at hm
          obtain he | hm := List.mem_cons.1 hm
          · cases he
            exact ⟨face, record, record', hf, h, hs, rfl⟩
          · exact ih (hP _ _ _ hs h) hm

namespace Router

section
variable (r : Router) (i : Nat) (d : Delivered)

@[simp]
theorem sdk_deliver : (r.deliver i d).sdk = r.sdk := by
  unfold deliver
  split <;> rfl

@[simp]
theorem loggers_deliver : (r.deliver i d).loggers = r.loggers := by
  unfold deliver
  split <;> rfl

@[simp]
theorem setups_deliver : (r.deliver i d).setups = r.setups := by
  unfold deliver
  split <;> rfl

@[simp]
theorem delivers_deliver (j : Nat) : (r.deliver i d).delivers j = r.delivers j := by
  rw [delivers, delivers, setups_deliver, sdk_deliver]

theorem deliveries_deliver :
    (r.deliver i d).deliveries = r.deliveries ++ [(i, d)].filter fun e => r.delivers e.1 := by
  rw [deliver]
  cases hi : r.delivers i <;> simp [hi]

end

/-- Delivers some things one after the other. -/
def deliverAll (r : Router) (ds : List (Nat × Delivered)) : Router :=
  ds.foldl (fun r e => r.deliver e.1 e.2) r

theorem loggers_deliverAll (r : Router) (ds : List (Nat × Delivered)) :
    (r.deliverAll ds).loggers = r.loggers := by
  induction ds generalizing r with
  | nil => rfl
  | cons e ds ih => exact (ih (r.deliver e.1 e.2)).trans (r.loggers_deliver e.1 e.2)

theorem setups_deliverAll (r : Router) (ds : List (Nat × Delivered)) :
    (r.deliverAll ds).setups = r.setups := by
  induction ds generalizing r with
  | nil => rfl
  | cons e ds ih => exact (ih (r.deliver e.1 e.2)).trans (r.setups_deliver e.1 e.2)

theorem sdk_deliverAll (r : Router) (ds : List (Nat × Delivered)) :
    (r.deliverAll ds).sdk = r.sdk := by
  induction ds generalizing r with
  | nil => rfl
  | cons e ds ih => exact (ih (r.deliver e.1 e.2)).trans (r.sdk_deliver e.1 e.2)

theorem deliveries_deliverAll (r : Router) (ds : List (Nat × Delivered)) :
    (r.deliverAll ds).deliveries = r.deliveries ++ ds.filter fun e => r.delivers e.1 := by
  induction ds generalizing r with
  | nil => simp [deliverAll]
  | cons e ds ih =>
    have hi := ih (r.deliver e.1 e.2)
    simp only [delivers_deliver, deliveries_deliver, List.append_assoc] at hi
    rw [← List.singleton_append, List.filter_append]
    exact hi

theorem deliveredBy_deliverAll (r : Router) (ds : List (Nat × Delivered)) (j : Nat) :
    (r.deliverAll ds).deliveredBy j = r.deliveredBy j ++
      if r.delivers j then (ds.filter fun e => e.1 = j).map Prod.snd else [] := by
  have hown : (ds.filter fun e => r.delivers e.1).filter (fun e => e.1 = j) =
      if r.delivers j then ds.filter fun e => e.1 = j else [] := by
    rw [List.filter_filter]
    cases hj : r.delivers j with
    | false =>
      rw [if_neg Bool.false_ne_true, List.filter_eq_nil_iff]
      rintro e - he
      simp only [Bool.and_eq_true, decide_eq_true_eq] at he
      rw [← he.1, he.2] at hj
      cases hj
    | true =>
      rw [if_pos rfl]
      refine List.filter_congr fun e _ => ?_
      by_cases he : e.1 = j
      · simp [he, hj]
      · simp [he]
  rw [deliveredBy, deliveries_deliverAll, List.filter_append, List.map_append, hown, ← deliveredBy]
  split <;> rfl

theorem pass_fst (level : Int) (is : List Nat) (record : Record) (r : Router) :
    (pass level is record r).1 =
      r.deliverAll (handed r.sdk (r.setups.map Setup.face) level is record) := by
  induction is generalizing record r with
  | nil => rfl
  | cons i is ih =>
    rw [pass, handed, List.getElem?_map]
    cases r.setups[i]? with
    | none => exact ih record r
    | some s =>
      simp only [Option.map_some, Setup.face]
      by_cases hl : level < s.level
      · simp only [hl, if_true]
        exact ih record r
      · simp only [hl, if_false]
        cases record.structured s.resource with
        | error e => rfl
        | ok record =>
          have hi := ih record (r.deliver i (record.delivered r.sdk))
          rwa [sdk_deliver, setups_deliver] at hi

/-- What a log call hands over, if its logger lets it through and its message can be read. -/
def handedBy (r : Router) (c : Call) : List (Nat × Delivered) :=
  let r := r.touch c.logger
  if r.lets c.logger c.level then
    match c.record with
    | .error _ => []
    | .ok record =>
      if (r.hear c.logger record).isOk then
        handed r.sdk (r.setups.map Setup.face) c.level (r.reached c.logger) record
      else []
  else []

theorem log_fst (r : Router) (c : Call) :
    (r.log c).1 = (r.touch c.logger).deliverAll (r.handedBy c) := by
  rw [log, handedBy]
  cases (r.touch c.logger).lets c.logger c.level with
  | false => rfl
  | true =>
    cases c.record with
    | error e => rfl
    | ok record =>
      simp only [Bool.not_true, Bool.false_eq_true, if_false, if_true]
      cases (r.touch c.logger).hear c.logger record with
      | error e => rfl
      | ok _ => exact pass_fst c.level _ record (r.touch c.logger)

theorem deliveredBy_log (r : Router) (c : Call) (i : Nat) :
    (r.log c).1.deliveredBy i = r.deliveredBy i ++
      if r.delivers i then ((r.handedBy c).filter fun e => e.1 = i).map Prod.snd else [] := by
  rw [log_fst, deliveredBy_deliverAll]
  rfl

/-- Who listens does not stop a message that can be read. -/
theorem hear_of_formatted {r : Router} {record : Record} {message : String}
    (h : record.formatted = .ok message) (name : String) : (r.hear name record).isOk = true := by
  rw [hear, h]
  split <;> rfl

theorem handedBy_of_ok {r : Router} {c : Call} {record : Record} {message : String}
    (hl : (r.touch c.logger).lets c.logger c.level = true) (hr : c.record = .ok record)
    (hm : record.formatted = .ok message) :
    r.handedBy c = handed r.sdk (r.setups.map Setup.face) c.level
      ((r.touch c.logger).reached c.logger) record := by
  simp only [handedBy, hl, hr, hear_of_formatted hm, if_true]
  rfl

/-- A call that hands anything over makes a record, which goes to the handlers that it reaches. -/
theorem handedBy_of_mem {r : Router} {c : Call} {e : Nat × Delivered} (h : e ∈ r.handedBy c) :
    ∃ record, c.record = .ok record ∧ r.handedBy c = handed r.sdk (r.setups.map Setup.face) c.level
      ((r.touch c.logger).reached c.logger) record := by
  simp only [handedBy] at h ⊢
  by_cases hl : (r.touch c.logger).lets c.logger c.level = true
  · simp only [hl, if_true] at h ⊢
    cases hr : c.record with
    | error e => simp [hr] at h
    | ok record =>
      refine ⟨record, rfl, ?_⟩
      simp only [hr] at h ⊢
      by_cases hh : ((r.touch c.logger).hear c.logger record).isOk = true
      · rw [if_pos hh]
        rfl
      · simp [hh] at h
  · simp [hl] at h

end Router
end UsageMeter.Logging
