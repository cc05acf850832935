import UsageMeter.Proofs.Logging.Body
import UsageMeter.Proofs.Logging.Delivery

/-!
Sharing of records. All handlers on a logger work on one record, so that the first of them tells the
caller's message and additions, while each later one tells the body before it and takes the marks of
the earlier ones for additions.
-/
namespace UsageMeter.Logging

/-! ## Deliveries of one record -/

/-- What handlers with some resources deliver, each structuring what the one before it left. -/
def Record.deliveries (sdk : Sdk) (time : String) : List Resource → Record → String →
    List Delivered
  | [], _, _ => []
  | resource :: resources, record, message =>
    (record.restructured resource time message).delivered sdk ::
      deliveries sdk time resources (record.restructured resource time message)
        (record.body resource time message).shown

namespace Record
variable {sdk : Sdk} {time message : String} {record : Record} {resources : List Resource}

theorem length_deliveries :
    (record.deliveries sdk time resources message).length = resources.length := by
  induction resources generalizing record message with
  | nil => rfl
  | cons resource resources ih =>
    rw [deliveries, List.length_cons, ih, List.length_cons]

theorem body_delivered_restructured (resource : Resource) :
    ((record.restructured resource time message).delivered sdk).body =
      record.body resource time message :=
  record.get_msg_restructured resource time message

/-- The first body tells the message. -/
theorem entry?_message_of_first {d : Delivered}
    (h : (record.deliveries sdk time resources message)[0]? = some d) :
    d.body.entry? "message" = some (.str message) := by
  cases resources with
  | nil => cases h
  | cons resource resources =>
    cases h
    rw [body_delivered_restructured, entry?_message_body]

/-- Each later body tells the one before it. -/
theorem entry?_message_of_next {k : Nat} {d next : Delivered}
    (hd : (record.deliveries sdk time resources message)[k]? = some d)
    (hnext : (record.deliveries sdk time resources message)[k + 1]? = some next) :
    next.body.entry? "message" = some (.str d.body.shown) := by
  induction resources generalizing record message k with
  | nil => cases hd
  | cons resource resources ih =>
    rw [deliveries, List.getElem?_cons_succ] at hnext
    cases k with
    | zero =>
      cases hd
      rw [body_delivered_restructured]
      exact entry?_message_of_first hnext
    | succ k =>
      rw [deliveries, List.getElem?_cons_succ] at hd
      exact ih hd hnext

theorem length_lt_shown_of_mem {d : Delivered}
    (h : d ∈ record.deliveries sdk time resources message) :
    message.length < d.body.shown.length := by
  induction resources generalizing record message with
  | nil => cases h
  | cons resource resources ih =>
    have hlt := record.length_lt_shown_body resource time message
    obtain rfl | hm := List.mem_cons.1 h
    · rwa [body_delivered_restructured]
    · exact hlt.trans (ih hm)

/-- A body tells the additions of the record with the marks of the handlers before it. -/
theorem entry?_attributes_deliveries {k : Nat} {d : Delivered}
    (h : (record.deliveries sdk time resources message)[k]? = some d) :
    d.body.entry? "attributes" =
      toldAdditions ((resources.take k).foldl (fun t resource => markAdditions resource t)
        record.additions) := by
  induction resources generalizing record message k with
  | nil => cases h
  | cons resource resources ih =>
    cases k with
    | zero =>
      cases h
      rw [body_delivered_restructured, entry?_attributes_body]
      rfl
    | succ k =>
      rw [deliveries, List.getElem?_cons_succ] at h
      rw [ih h, additions_restructured, List.take_succ_cons, List.foldl_cons]

end Record

/-! ## Handlers on one logger -/

namespace Router

/-- The handlers of some setups that pass a level on, with their setups. -/
def hearers (r : Router) (level : Int) (is : List Nat) : List (Nat × Setup) :=
  is.filterMap fun i => r.setups[i]?.bind fun s => if s.level ≤ level then some (i, s) else none

theorem handed_eq_zipWith (r : Router) (level : Int) (is : List Nat) {record : Record}
    {message time : String} (hm : record.formatted = .ok message) (ht : record.written = .ok time) :
    let hearers := r.hearers level is
    handed r.sdk (r.setups.map Setup.face) level is record =
      List.zipWith (fun e d => (e.1, d)) hearers
        (record.deliveries r.sdk time (hearers.map fun e => e.2.resource) message) := by
  induction is generalizing record message with
  | nil => rfl
  | cons i is ih =>
    rw [handed, List.getElem?_map, hearers, List.filterMap_cons, ← hearers]
    cases r.setups[i]? with
    | none => exact ih hm ht
    | some s =>
      simp only [Option.map_some, Setup.face, Option.bind_some]
      by_cases hl : level < s.level
      · have hn : ¬s.level ≤ level := by omega
        simp only [hl, hn, if_true, if_false]
        exact ih hm ht
      · have hn : s.level ≤ level := by omega
        have hnext := ih (Record.formatted_restructured hm s.resource)
          (Record.written_restructured ht s.resource)
        simp only [hl, hn, if_true, if_false, Record.structured_of_ok hm ht s.resource, hnext,
          List.map_cons, Record.deliveries, List.zipWith_cons_cons]

/-- What is handed to a setup is all that a call hands to it. -/
theorem Sound.handedTo_of_mem {r : Router} (h : r.Sound) {c : Call} {i : Nat} {d : Delivered}
    (hm : (i, d) ∈ r.handedBy c) : r.handedTo c i = [d] := by
  have hd : d ∈ r.handedTo c i :=
    List.mem_map.2 ⟨(i, d), List.mem_filter.2 ⟨hm, decide_eq_true rfl⟩, rfl⟩
  have hpos := List.length_pos_of_mem hd
  have hle := h.length_handedTo_le c i
  obtain ⟨e, he⟩ := List.length_eq_one_iff.1 (Nat.le_antisymm hle hpos)
  rw [he] at hd ⊢
  rw [List.mem_singleton.1 hd]

theorem Sound.deliveredBy_log_of_mem {r : Router} (h : r.Sound) {c : Call} {i : Nat}
    {d : Delivered} (hm : (i, d) ∈ r.handedBy c) (ha : r.delivers i = true) :
    (r.log c).1.deliveredBy i = r.deliveredBy i ++ [d] := by
  have hto := h.handedTo_of_mem hm
  rw [handedTo] at hto
  rw [deliveredBy_log, ha, if_pos rfl, hto]

/-- A call that passes is handed to the handlers of the first logger on its way that does not
propagate. -/
theorem Sound.handedBy_of_gate {r : Router} (h : r.Sound) {c : Call} {record : Record}
    {message time name : String} (hr : c.record = .ok record) (hm : record.formatted = .ok message)
    (ht : record.written = .ok time)
    (hlets : (r.touch c.logger).lets c.logger c.level = true)
    (hgate : (r.touch c.logger).gate? ((r.touch c.logger).loggers.lineage c.logger) = some name) :
    let hearers := r.hearers c.level ((r.touch c.logger).logger name).handlers
    r.handedBy c = List.zipWith (fun e d => (e.1, d)) hearers
      (record.deliveries r.sdk time (hearers.map fun e => e.2.resource) message) := by
  intro hearers
  have hreached : (r.touch c.logger).reached c.logger =
      ((r.touch c.logger).logger name).handlers := by
    rw [reached, passed, (h.touch c.logger).flatMap_along, hgate]
    rfl
  rw [handedBy_of_ok hlets hr hm, hreached]
  exact r.handed_eq_zipWith c.level _ hm ht

end Router

/-- A log call that passes hands its record to the handlers on one logger in turn. The first body
tells the caller's message and additions. Each later one tells the body before it, which is longer
than that message, and adds the marks of the handlers before it to the additions. -/
theorem shared_record_told_in_turn {start : Router} (hs : start.Fresh) (ops : List Router.Op)
    {c : Call} {record : Record} {message time name : String} (hr : c.record = .ok record)
    (hm : record.formatted = .ok message) (ht : record.written = .ok time) (hc : 0 < c.level) :
    let r := start.run ops
    let r' := r.touch c.logger
    let walk := r'.loggers.lineage c.logger
    r'.levelAlong walk ≤ c.level → r'.gate? walk = some name →
    let hearers := r'.hearers c.level (r'.logger name).handlers
    ∃ ds : List Delivered, ds.length = hearers.length ∧
      (∀ (k i : Nat) (s : Setup), hearers[k]? = some (i, s) → r.delivers i = true →
        ∃ d, ds[k]? = some d ∧ (r.log c).1.deliveredBy i = r.deliveredBy i ++ [d]) ∧
      (∀ d : Delivered, ds[0]? = some d → d.body.entry? "message" = some (.str message)) ∧
      (∀ (k : Nat) (d next : Delivered), ds[k]? = some d → ds[k + 1]? = some next →
        next.body.entry? "message" = some (.str d.body.shown) ∧
          message.length < d.body.shown.length) ∧
      ∀ (k : Nat) (d : Delivered), ds[k]? = some d → d.body.entry? "attributes" =
        Record.toldAdditions
          ((hearers.take k).foldl (fun t e => markAdditions e.2.resource t) c.additions) := by
  intro r r' walk hlevel hgate hearers
  have h : r.Sound := hs.sound.run ops
  have hlets : r'.lets c.logger c.level = true := (Router.lets_iff _ _ _).2 ⟨hc, hlevel⟩
  have hhanded := h.handedBy_of_gate hr hm ht hlets hgate
  let ds := record.deliveries r.sdk time (hearers.map fun e => e.2.resource) message
  have hlength : ds.length = hearers.length := by
    rw [Record.length_deliveries, List.length_map]
  refine ⟨ds, hlength, ?_, ?_, ?_, ?_⟩
  · intro k i s hk hdelivers
    have hlt : k < ds.length := by
      rw [hlength]
      exact (List.getElem?_eq_some_iff.1 hk).1
    have hd : ds[k]? = some ds[k] := List.getElem?_eq_getElem hlt
    have hzip : (List.zipWith (fun e d => (e.1, d)) hearers ds)[k]? = some (i, ds[k]) := by
      rw [List.getElem?_zipWith, hk, hd]
    have hmem : (i, ds[k]) ∈ r.handedBy c := hhanded ▸ List.mem_of_getElem? hzip
    exact ⟨ds[k], hd, h.deliveredBy_log_of_mem hmem hdelivers⟩
  · exact fun d hd => Record.entry?_message_of_first hd
  · intro k d next hd hnext
    exact ⟨Record.entry?_message_of_next hd hnext,
      Record.length_lt_shown_of_mem (List.mem_of_getElem? hd)⟩
  · intro k d hd
    rw [Record.entry?_attributes_deliveries hd, ← List.map_take, List.foldl_map,
      Call.additions_record hr]

/-- Two setups on one logger. -/
def pairedSetups : List Router.Op :=
  [.configure (some (.exporter (.given 0))) plainInstallation [] 20 "jobs",
    .configure (some (.exporter (.given 1))) plainInstallation [] 20 "jobs"]

theorem second_setup_told_first_body :
    let r := Router.plain.run pairedSetups
    let c : Call := ⟨"jobs", 30, .str "done %s", [.str "all"], [("tenant", .str "acme")], .int 0,
      .null, .null⟩
    ∃ d e, (r.log c).1.deliveredBy 0 = r.deliveredBy 0 ++ [d] ∧
      (r.log c).1.deliveredBy 1 = r.deliveredBy 1 ++ [e] ∧
      d.body.entry? "message" = some (.str "done all") ∧
      d.body.entry? "attributes" = some (.object [("tenant", .str "acme")]) ∧
      e.body.entry? "message" ≠ some (.str "done all") ∧
      e.body.entry? "attributes" =
        some (.object [("tenant", .str "acme"), (instanceAttribute, .str "e-1")]) := by
  intro r c
  let record :=
    (Record.make "jobs" 30 (.str "done %s") [.str "all"] (.int 0) .null .null).setAll c.extras
  have hr : c.record = .ok record := rfl
  have hm : record.formatted = .ok "done all" := by decide +kernel
  have ht : record.written = .ok "1970-01-01T00:00:00+00:00" := by decide +kernel
  have hlevel : (r.touch c.logger).levelAlong
      ((r.touch c.logger).loggers.lineage c.logger) ≤ c.level := by decide +kernel
  have hgate : (r.touch c.logger).gate? ((r.touch c.logger).loggers.lineage c.logger) =
      some "jobs" := by decide +kernel
  have hhandlers : ((r.touch c.logger).logger "jobs").handlers = [0, 1] := by decide +kernel
  let s (i : Nat) : Setup := ⟨20, resourceOf Router.plain.sdk plainInstallation [], "jobs",
    .batching i (.given i), true⟩
  have hhearers : (r.touch c.logger).hearers c.level [0, 1] = [(0, s 0), (1, s 1)] := rfl
  have htold := shared_record_told_in_turn Router.fresh_plain pairedSetups hr hm ht (by decide)
    hlevel hgate
  rw [hhandlers, hhearers] at htold
  obtain ⟨ds, -, hdelivered, hfirst, hnext, hattributes⟩ := htold
  obtain ⟨d, hd, hto0⟩ := hdelivered 0 0 (s 0) rfl (by decide)
  obtain ⟨e, he, hto1⟩ := hdelivered 1 1 (s 1) rfl (by decide)
  obtain ⟨hmessage, hlonger⟩ := hnext 0 d e hd he
  refine ⟨d, e, hto0, hto1, hfirst d hd, hattributes 0 d hd, ?_, hattributes 1 e he⟩
  rw [hmessage]
  intro hsame
  have hshown : d.body.shown = "done all" := by simpa using hsame
  rw [hshown] at hlonger
  exact absurd hlonger (Nat.lt_irrefl _)

end UsageMeter.Logging
