import UsageMeter.Proofs.Logging.Lawful
import UsageMeter.Proofs.Logging.Levels
import UsageMeter.Proofs.Logging.Sharing

/-!
The installation that a delivered record tells. A setup delivers each record with its own resource
and marks it with its own installation, whatever the caller adds under that name; only where the
record has more attributes than the library has room for may the mark be missing.
-/
namespace UsageMeter
namespace Logging

/-! ## The installation of a resource -/

/-- The installation for which a setup is made: the one among further attributes, if there is any,
else the one that the engine knows. -/
def installationOf (static : StaticData) (attributes : List (String × Value)) : Value :=
  ((Table.ofList attributes).get? instanceAttribute).getD static.installation

theorem get?_textAttribute {name other : String} (h : other ≠ name) (text : String) :
    (Table.ofList (textAttribute name text)).get? other = none := by
  unfold textAttribute
  split
  · rfl
  · exact (Table.get?_insert Table.empty name (Value.str text) other).trans (if_neg h)

theorem get?_instance_installationAttributes (static : StaticData)
    (attributes : List (String × Value)) :
    (installationAttributes static attributes).get? instanceAttribute =
      some (installationOf static attributes) := by
  rw [installationAttributes, Table.get?_ofList_append, Table.get?_ofList_append,
    Table.get?_ofList_append, get?_textAttribute (by decide), get?_textAttribute (by decide),
    installationOf]
  cases (Table.ofList attributes).get? instanceAttribute <;> rfl

/-! ## Marks -/

/-- There is room for what a caller adds and for the mark, beside an exception that is told. -/
def Call.Fits (c : Call) (room : Value → Nat) : Prop :=
  (c.additions.insert instanceAttribute .null).size ≤ room c.excInfo

theorem markAdditions_cases (resource : Resource) (t : Table Value) :
    markAdditions resource t = t ∨
      ∃ v, markAdditions resource t = t.insert instanceAttribute v := by
  unfold markAdditions
  split
  · exact Or.inl rfl
  · next v _ _ => exact Or.inr ⟨v, rfl⟩
  · exact Or.inl rfl

theorem markAdditions_of_installation {resource : Resource} {id : Value}
    (hid : resource.get? instanceAttribute = some id) (hne : id ≠ .null) (t : Table Value) :
    markAdditions resource t = t.insert instanceAttribute id := by
  rw [markAdditions, hid]
  cases id with
  | null => exact absurd rfl hne
  | _ => rfl

/-- A record with the additions of a call, marked or not. -/
structure Record.OfCall (c : Call) (r : Record) : Prop where
  excInfo : r.get "exc_info" = c.excInfo
  names : enlist r.additions.names instanceAttribute =
    enlist c.additions.names instanceAttribute

theorem Call.ofCall_record {c : Call} {record : Record} (h : c.record = .ok record) :
    record.OfCall c where
  excInfo := by
    rw [Record.get, Call.get?_record h (by decide), Call.bare, Record.get?_make]
    rfl
  names := by rw [Call.additions_record h]

/-- Marks of handlers on the way add one name at most. -/
theorem Record.OfCall.structured {c : Call} (r r' : Record) (resource : Resource)
    (h : r.structured resource = .ok r') (hr : r.OfCall c) : r'.OfCall c := by
  obtain ⟨message, time, -, -, rfl⟩ := exists_of_structured_eq_ok h
  refine ⟨?_, ?_⟩
  · rw [get, get?_restructured (by decide) (by decide) (by decide)]
    exact hr.excInfo
  · rw [additions_restructured, ← hr.names]
    obtain he | ⟨v, he⟩ := markAdditions_cases resource r.additions
    · rw [he]
    · have hm : instanceAttribute ∈ enlist r.additions.names instanceAttribute :=
        mem_enlist_iff.2 (Or.inr rfl)
      rw [he, Table.names_insert, enlist, if_pos hm]

section
variable {sdk : Sdk} {kept : Value → Option Value} {own : List String} {room : Value → Nat}

/-- What a record is marked with is delivered, unless it is left out for want of room. -/
theorem Record.get?_instance_delivered (hsdk : sdk.Lawful kept own room) {c : Call} {r r' : Record}
    {resource : Resource} {id : Value} (hid : resource.get? instanceAttribute = some id)
    (hne : id ≠ .null) (hkept : kept id = some id) (h : r.structured resource = .ok r')
    (hr : r.OfCall c) :
    ((r'.delivered sdk).attributes.get? instanceAttribute = none ∨
      (r'.delivered sdk).attributes.get? instanceAttribute = some id) ∧
    (c.Fits room → (r'.delivered sdk).attributes.get? instanceAttribute = some id) := by
  have hadditions : r'.additions = r.additions.insert instanceAttribute id := by
    obtain ⟨message, time, -, -, rfl⟩ := exists_of_structured_eq_ok h
    rw [additions_restructured, markAdditions_of_installation hid hne]
  have hget : r'.additions.get? instanceAttribute = some id := by
    rw [hadditions, Table.get?_insert, if_pos rfl]
  refine ⟨?_, fun hfits => ?_⟩
  · cases hw : (r'.delivered sdk).attributes.get? instanceAttribute with
    | none => exact Or.inl rfl
    | some w => exact Or.inr (congrArg some (hsdk.told r' _ id w hsdk.free hget hkept hw))
  · have hsize : r'.additions.size = (c.additions.insert instanceAttribute .null).size := by
      have hlength : ∀ t : Table Value, t.size = t.names.length := fun t =>
        (List.length_map _).symm
      rw [hadditions, hlength, hlength, Table.names_insert, Table.names_insert, hr.names]
    have hroom : r'.additions.size ≤ room (r'.get "exc_info") := by
      rw [hsize, (OfCall.structured r r' resource h hr).excInfo]
      exact hfits
    exact hsdk.carried r' _ id hsdk.free hget hkept hroom

end

/-! ## Deliveries to one setup -/

/-- The additions of a call that made a record are what its caller gave, but for a task name. -/
theorem Call.additions_eq {c : Call} {record : Record} (h : c.record = .ok record) :
    c.additions = Table.ofList (c.extras.filter fun e => e.1 ≠ "taskName") := by
  rw [additions]
  refine congrArg Table.ofList (List.filter_congr fun e he => ?_)
  have hfree := (Call.attributes_record h).2 e he
  rw [isReserved, Bool.or_eq_false_iff, Bool.and_eq_false_iff] at hfree
  by_cases ht : e.1 = "taskName"
  · rw [ht]
    decide
  · obtain hs | hs := hfree.2
    · simp [hs, ht]
    · simp [ht] at hs

namespace Router
variable {r : Router}

/-- The first handler that passes a level on works on the record as the caller made it. -/
theorem head?_handed {level : Int} {is : List Nat} {i : Nat} {s : Setup}
    (h : (r.hearers level is).head? = some (i, s)) (record : Record) :
    handed r.sdk (r.setups.map Setup.face) level is record = [] ∨
      ∃ r', record.structured s.resource = .ok r' ∧
        (i, r'.delivered r.sdk) ∈ handed r.sdk (r.setups.map Setup.face) level is record := by
  induction is with
  | nil => cases h
  | cons j is ih =>
    rw [hearers, List.filterMap_cons, ← hearers] at h
    rw [handed, List.getElem?_map]
    cases hs : r.setups[j]? with
    | none =>
      rw [hs] at h
      exact ih h
    | some t =>
      simp only [hs, Option.bind_some] at h
      simp only [Option.map_some, Setup.face]
      by_cases hl : level < t.level
      · have hn : ¬t.level ≤ level := by omega
        simp only [hn, if_false] at h
        simp only [hl, if_true]
        exact ih h
      · have hn : t.level ≤ level := by omega
        simp only [hn, if_true, List.head?_cons, Option.some.injEq] at h
        cases h
        simp only [hl, if_false]
        cases record.structured s.resource with
        | error e => exact Or.inl rfl
        | ok r' => exact Or.inr ⟨r', rfl, List.mem_cons_self⟩

theorem mem_handedBy_of_deliveredBy {c : Call} {i : Nat} {e : Delivered}
    (h : (r.log c).1.deliveredBy i = r.deliveredBy i ++ [e]) : (i, e) ∈ r.handedBy c := by
  rw [deliveredBy_log, ← handedTo, List.append_cancel_left_eq] at h
  split at h
  · rw [← mem_handedTo_iff, h]
    exact List.mem_singleton_self e
  · cases h

/-- What a setup delivers tells its own resource and installation. -/
theorem told_of_mem_handedBy {kept : Value → Option Value} {own : List String}
    {room : Value → Nat} (hsdk : r.sdk.Lawful kept own room) {c : Call} {i : Nat} {e : Delivered}
    {s : Setup} (hs : r.setups[i]? = some s) (hm : (i, e) ∈ r.handedBy c)
    (hnonempty : s.resource.toList ≠ []) :
    e.body.entry? "resource" = some (.object s.resource.toList) ∧
    ∀ id, s.resource.get? instanceAttribute = some id → id ≠ .null → kept id = some id →
      (e.attributes.get? instanceAttribute = none ∨
        e.attributes.get? instanceAttribute = some id) ∧
      (c.Fits room → e.attributes.get? instanceAttribute = some id) := by
  obtain ⟨record, hr, hall⟩ := handedBy_of_mem hm
  rw [hall] at hm
  -- Handlers before this one may have marked the record with other installations.
  obtain ⟨face, q, q', hface, hq, hstructured, rfl⟩ :=
    exists_of_mem_handed Record.OfCall.structured (Call.ofCall_record hr) hm
  obtain rfl : face = s.face := by
    rw [List.getElem?_map, hs] at hface
    exact (Option.some.inj hface).symm
  refine ⟨?_, fun id hid hne hkept =>
    Record.get?_instance_delivered hsdk hid hne hkept hstructured hq⟩
  obtain ⟨message, time, -, -, rfl⟩ := Record.exists_of_structured_eq_ok hstructured
  rw [Record.body_delivered_restructured, Record.entry?_resource_body]
  simp [Setup.face, hnonempty]

/-- The first handler that a call reaches tells what the caller added. -/
theorem Sound.attributes_of_head {c : Call} {i : Nat} {e : Delivered} {s : Setup} (h : r.Sound)
    (hm : (i, e) ∈ r.handedBy c)
    (hhead : (r.hearers c.level ((r.touch c.logger).reached c.logger)).head? = some (i, s)) :
    e.body.entry? "attributes" =
      Record.toldAdditions (Table.ofList (c.extras.filter fun e => e.1 ≠ "taskName")) := by
  have hone := h.handedTo_of_mem hm
  obtain ⟨record, hr, hall⟩ := handedBy_of_mem hm
  obtain hnone | ⟨first, hstructured, hfirst⟩ := head?_handed hhead record
  · rw [hall, hnone] at hm
    cases hm
  rw [← hall] at hfirst
  obtain rfl : e = first.delivered r.sdk :=
    List.singleton_inj.1 (hone.symm.trans (h.handedTo_of_mem hfirst))
  obtain ⟨message, time, -, -, rfl⟩ := Record.exists_of_structured_eq_ok hstructured
  rw [Record.body_delivered_restructured, Record.entry?_attributes_body, Call.additions_record hr,
    Call.additions_eq hr]

end Router

/-- From loggers without handlers, with any setups made, attached and shut down and any log calls
before and after a setup is made: whatever a caller adds, each record that the setup delivers tells
the resource for which the setup was made, and that names the installation in its kept form. The
record's attribute for the installation is never anything but the installation of that resource, and
it is there if the library has room for it beside the caller's attributes. So two calls that differ
in what the caller adds tell the same installation. The first setup that a call reaches tells all
that the caller adds, except a task name, which is a standard attribute. -/
theorem installation_told_despite_extras {start : Router} {kept : Value → Option Value}
    {own : List String} {room : Value → Nat} (hstart : start.Fresh)
    (hsdk : start.sdk.Lawful kept own room) (before after : List Router.Op) (d : Destination)
    (static : StaticData) (attributes : List (String × Value)) (level : Int)
    (loggerName : String) :
    let r := start.run (before ++ .configure (some d) static attributes level loggerName :: after)
    let i := (start.run before).setups.length
    let resource := resourceOf start.sdk static attributes
    (∀ id, kept (installationOf static attributes) = some id →
      resource.get? instanceAttribute = some id) ∧
    ∀ (c : Call) (e : Delivered), (r.log c).1.deliveredBy i = r.deliveredBy i ++ [e] →
      e.body.entry? "resource" = some (.object resource.toList) ∧
      (∀ id, resource.get? instanceAttribute = some id → id ≠ .null →
        (e.attributes.get? instanceAttribute = none ∨
          e.attributes.get? instanceAttribute = some id) ∧
        (c.Fits room → e.attributes.get? instanceAttribute = some id)) ∧
      (∀ s, (r.hearers c.level ((r.touch c.logger).reached c.logger)).head? = some (i, s) →
        e.body.entry? "attributes" =
          Record.toldAdditions (Table.ofList (c.extras.filter fun e => e.1 ≠ "taskName"))) ∧
      ∀ (extras : List (String × Value)) (e' : Delivered),
        let c' : Call :=
          ⟨c.logger, c.level, c.msg, c.args, extras, c.created, c.excInfo, c.stackInfo⟩
        (r.log c').1.deliveredBy i = r.deliveredBy i ++ [e'] →
          e'.body.entry? "resource" = e.body.entry? "resource" ∧
          ∀ id, resource.get? instanceAttribute = some id → id ≠ .null →
            c.Fits room → c'.Fits room →
              e'.attributes.get? instanceAttribute = e.attributes.get? instanceAttribute := by
  intro r i resource
  have h : r.Sound := hstart.sound.run _
  have hr : r.sdk = start.sdk := start.sdk_run _
  obtain ⟨s, hs, hresource⟩ : ∃ s, r.setups[i]? = some s ∧ s.resource = resource := by
    let made := (start.run before).step (.configure (some d) static attributes level loggerName)
    have hsame : (start.run before).sdk = start.sdk := start.sdk_run before
    have hmade : made.setups[i]? =
        some ⟨level, resource, loggerName, d.processorFor i, true⟩ := by
      rw [Router.setups_configure, List.getElem?_concat_length, hsame]
    obtain ⟨s, hs, hterms⟩ := Router.setup_run hmade after
    have hrun : r = made.run after := Router.run_append before _ start
    exact ⟨s, hrun ▸ hs, congrArg (fun t => t.2.1) hterms⟩
  have htold : ∀ (c : Call) (e : Delivered),
      (r.log c).1.deliveredBy i = r.deliveredBy i ++ [e] →
        e.body.entry? "resource" = some (.object resource.toList) ∧
        ∀ id, resource.get? instanceAttribute = some id → id ≠ .null →
          (e.attributes.get? instanceAttribute = none ∨
            e.attributes.get? instanceAttribute = some id) ∧
          (c.Fits room → e.attributes.get? instanceAttribute = some id) := by
    intro c e he
    have hnonempty : s.resource.toList ≠ [] := hresource ▸ hsdk.service _
    obtain ⟨hbody, hmark⟩ := Router.told_of_mem_handedBy (hr.symm ▸ hsdk) hs
      (Router.mem_handedBy_of_deliveredBy he) hnonempty
    rw [hresource] at hbody hmark
    exact ⟨hbody, fun id hid hne => hmark id hid hne (hsdk.whole _ _ id hid)⟩
  refine ⟨fun id hid => ?_, fun c e he => ?_⟩
  · exact hsdk.resource _ _ _ id hsdk.free (get?_instance_installationAttributes _ _) hid
  obtain ⟨hbody, hmark⟩ := htold c e he
  refine ⟨hbody, hmark, ?_, ?_⟩
  · exact fun s hhead => h.attributes_of_head (Router.mem_handedBy_of_deliveredBy he) hhead
  · intro extras e' c' he'
    obtain ⟨hbody', hmark'⟩ := htold c' e' he'
    refine ⟨hbody'.trans hbody.symm, fun id hid hne hc hc' => ?_⟩
    rw [(hmark id hid hne).2 hc, (hmark' id hid hne).2 hc']

/-! ## Calls to one setup -/

/-- One setup on a logger. -/
def soleSetup : List Router.Op :=
  [.configure (some (.exporter (.given 0))) plainInstallation [] 20 "jobs"]

/-- A call to that logger, with what its caller adds. -/
def jobDone (extras : List (String × Value)) : Call :=
  ⟨"jobs", 20, .str "done", [], extras, .int 0, .null, .null⟩

/-- The resource of that setup. -/
def plainResource : Resource :=
  resourceOf Router.plain.sdk plainInstallation []

theorem delivered_jobDone (extras : List (String × Value))
    (hfree : ∀ e ∈ extras, isReserved e.1 = false)
    (hread : formatterAttribute ∉ extras.map Prod.fst) :
    let r := Router.plain.run soleSetup
    ∃ record r', (jobDone extras).record = .ok record ∧ record.structured plainResource = .ok r' ∧
      (r.log (jobDone extras)).1.deliveredBy 0 = r.deliveredBy 0 ++ [r'.delivered r.sdk] := by
  intro r
  let c := jobDone extras
  let record : Record := ⟨some (callArguments []), c.bare.attributes.update extras⟩
  have hr : c.record = .ok record := Call.record_of_free hfree
  have hm : record.formatted = .ok "done" := by
    have hf : record.attributes.get? formatterAttribute = none := by
      rw [Table.get?_update_of_not_mem hread, Call.bare, Record.get?_make]
      rfl
    have hmsg : record.get "msg" = .str "done" := by
      rw [Record.get, Call.get?_record hr (by decide), Call.bare, Record.get?_make]
      rfl
    simp only [Record.formatted, hf, hmsg]
    rfl
  have ht : record.written = .ok "1970-01-01T00:00:00+00:00" := by
    rw [Call.written_record hr]
    rfl
  have hlets : (r.touch "jobs").lets "jobs" 20 = true := by decide +kernel
  have hreached : (r.touch "jobs").reached "jobs" = [0] := by decide +kernel
  have hhearers : r.hearers 20 [0] =
      [(0, ⟨20, plainResource, "jobs", .batching 0 (.given 0), true⟩)] := rfl
  have hhanded : r.handedBy c =
      handed r.sdk (r.setups.map Setup.face) 20 ((r.touch "jobs").reached "jobs") record :=
    Router.handedBy_of_ok hlets hr hm
  rw [hreached, r.handed_eq_zipWith 20 [0] hm ht, hhearers] at hhanded
  refine ⟨record, _, hr, Record.structured_of_ok hm ht _, ?_⟩
  refine Router.Sound.deliveredBy_log_of_mem (Router.fresh_plain.sound.run soleSetup) ?_ (by decide)
  rw [hhanded]
  exact List.mem_singleton_self _

/-- One setup and a caller who adds an installation of his own. -/
theorem other_installation_not_told :
    let r := Router.plain.run soleSetup
    let c := jobDone [(instanceAttribute, .str "mine"), ("tenant", .str "acme")]
    Router.plain.Fresh ∧
    Router.plain.sdk.Lawful (fun v => some (keptValue v)) standardOwn standardRoom ∧
    plainResource.get? instanceAttribute = some (.str "e-1") ∧
    ∃ e, (r.log c).1.deliveredBy 0 = r.deliveredBy 0 ++ [e] ∧
      e.body.entry? "resource" = some (.object plainResource.toList) ∧
      e.attributes.get? instanceAttribute = some (.str "e-1") ∧
      e.body.entry? "attributes" = some (.object c.extras) := by
  intro r c
  have hlawful : Router.plain.sdk.Lawful (fun v => some (keptValue v)) standardOwn standardRoom :=
    Sdk.lawful_standard _
  obtain ⟨-, r', -, -, he⟩ := delivered_jobDone c.extras (by decide) (by decide)
  obtain ⟨hid, htold⟩ := installation_told_despite_extras Router.fresh_plain hlawful [] []
    (.exporter (.given 0)) plainInstallation [] 20 "jobs"
  have hnamed : plainResource.get? instanceAttribute = some (.str "e-1") := hid _ rfl
  obtain ⟨hresource, hmark, hattributes, -⟩ := htold c _ he
  have hfits : c.Fits standardRoom := by
    rw [Call.Fits]
    decide +kernel
  have hreached : (r.touch "jobs").reached "jobs" = [0] := by decide +kernel
  have hhead : (r.hearers 20 ((r.touch "jobs").reached "jobs")).head? =
      some (0, ⟨20, plainResource, "jobs", .batching 0 (.given 0), true⟩) := by
    rw [hreached]
    rfl
  exact ⟨Router.fresh_plain, hlawful, hnamed, _, he, hresource,
    (hmark _ hnamed Value.noConfusion).2 hfits, hattributes _ hhead⟩

/-! ## Crowds -/

/-- A caller who adds an attribute of the installation's name first, and after it more names of his
own than there is room for, crowds the mark out of what the library as it comes delivers. -/
theorem Record.get?_instance_crowded {version : String} {r r' : Record} {resource : Resource}
    {others : List String} (h : r.structured resource = .ok r')
    (hnames : r.additions.names = instanceAttribute :: others)
    (hn : (r.additions.names ++ originNames).Nodup) (he : "" ∉ r.additions.names)
    (hexcInfo : r.get "exc_info" = .null) (hlength : standardRoom .null ≤ others.length) :
    (r'.delivered (.standard version)).attributes.get? instanceAttribute = none := by
  obtain ⟨message, time, -, -, rfl⟩ := exists_of_structured_eq_ok h
  let marked := r.restructured resource time message
  have hmarked : marked.additions.names = instanceAttribute :: others := by
    rw [additions_restructured]
    obtain hmark | ⟨v, hmark⟩ := markAdditions_cases resource r.additions
    · rw [hmark, hnames]
    · rw [hmark, Table.names_insert, hnames, enlist, if_pos List.mem_cons_self]
  have hnone : marked.get "exc_info" = .null := by
    rw [get, get?_restructured (by decide) (by decide) (by decide)]
    exact hexcInfo
  have hadded : (addedAttributes marked).map Prod.fst = originNames := by
    rw [addedAttributes, hnone]
    rfl
  rw [hnames] at hn he
  have hall : (marked.additions.toList ++ addedAttributes marked).map Prod.fst =
      instanceAttribute :: (others ++ originNames) := by
    rw [List.map_append, hadded]
    exact congrArg (· ++ originNames) hmarked
  obtain ⟨k, hk⟩ : ∃ k, (marked.additions.toList ++ addedAttributes marked).length -
      attributeLimit = k + 1 := by
    have htotal : (marked.additions.toList ++ addedAttributes marked).length =
        others.length + originNames.length + 1 := by
      rw [← List.length_map Prod.fst, hall, List.length_cons, List.length_append]
    have hroom : standardRoom .null + originNames.length = attributeLimit := rfl
    exact ⟨others.length + originNames.length - attributeLimit, by omega⟩
  have hempty : "" ∉ instanceAttribute :: (others ++ originNames) := by
    rw [← List.cons_append, List.mem_append, not_or]
    exact ⟨he, by decide⟩
  have hdelivered : (marked.delivered (.standard version)).attributes =
      deliveredAttributes (marked.additions.toList ++ addedAttributes marked) := by
    rw [attributes_delivered, attributes_standard]
  rw [List.cons_append] at hn
  rw [hdelivered, Table.get?_eq_none_iff, names_deliveredAttributes, hall, hk, List.drop_succ_cons]
  · exact fun hm => (List.nodup_cons.1 hn).1 (List.mem_of_mem_drop hm)
  · rw [hall]
    exact hn
  · rw [hall]
    exact hempty

/-- Some names, each longer than the one before it. -/
def crowdName (k : Nat) : String :=
  String.ofList (List.replicate (k + 1) 'k')

/-- The installation's name and as many others as a record can carry. -/
def crowdNames : List String :=
  instanceAttribute :: (List.range 125).map crowdName

/-- What a caller adds who crowds the mark out. -/
def crowdExtras : List (String × Value) :=
  crowdNames.map fun name => (name, .str "mine")

theorem crowdName_injective : Function.Injective crowdName := by
  intro a b h
  have hlength := congrArg String.length h
  simpa [crowdName] using hlength

theorem head?_of_mem_crowdNames {name : String} (h : name ∈ crowdNames) :
    name = instanceAttribute ∨ name.toList.head? = some 'k' := by
  obtain rfl | hm := List.mem_cons.1 h
  · exact Or.inl rfl
  · obtain ⟨k, -, rfl⟩ := List.mem_map.1 hm
    exact Or.inr (by simp [crowdName, List.replicate_succ])

/-- Names that begin otherwise are not in the crowd. -/
theorem not_mem_crowdNames {names : List String}
    (h : ∀ name ∈ names, name ≠ instanceAttribute ∧ name.toList.head? ≠ some 'k') {name : String}
    (hm : name ∈ crowdNames) : name ∉ names := by
  intro hname
  obtain ⟨hne, hhead⟩ := h name hname
  obtain he | he := head?_of_mem_crowdNames hm
  · exact hne he
  · exact hhead he

theorem nodup_crowdNames : (crowdNames ++ originNames).Nodup := by
  refine List.nodup_append.2 ⟨List.nodup_cons.2 ⟨?_, ?_⟩, by decide, ?_⟩
  · intro hm
    obtain ⟨k, -, hk⟩ := List.mem_map.1 hm
    have hhead : (crowdName k).toList.head? = some 'k' := by
      simp [crowdName, List.replicate_succ]
    rw [hk] at hhead
    exact absurd hhead (by decide)
  · exact List.nodup_range.map crowdName_injective
  · rintro name hm _ ho rfl
    exact not_mem_crowdNames (by decide) hm ho

theorem names_crowdExtras : crowdExtras.map Prod.fst = crowdNames := by
  simp [crowdExtras, Function.comp_def]

theorem name_of_mem_crowdExtras {e : String × Value} (h : e ∈ crowdExtras) : e.1 ∈ crowdNames :=
  names_crowdExtras ▸ List.mem_map_of_mem h

theorem additions_crowd : (jobDone crowdExtras).additions.names = crowdNames := by
  have hown : crowdExtras.filter (fun e => !isStandard e.1) = crowdExtras := by
    rw [List.filter_eq_self]
    intro e he
    have hm : e.1 ∉ standardFields := not_mem_crowdNames (by decide) (name_of_mem_crowdExtras he)
    simpa [isStandard] using hm
  have hentries : (Table.ofList crowdExtras).entries = crowdExtras := by
    apply Table.entries_ofList
    rw [names_crowdExtras]
    exact nodup_crowdNames.sublist (List.sublist_append_left _ _)
  rw [Call.additions, jobDone, hown, Table.names, hentries, names_crowdExtras]

/-- A task name is not told, and a crowd of additions hides the installation. -/
theorem installation_hidden_by_crowd :
    let r := Router.plain.run soleSetup
    plainResource.get? instanceAttribute = some (.str "e-1") ∧
    (∃ e, (r.log (jobDone [("taskName", .str "sweep")])).1.deliveredBy 0 =
      r.deliveredBy 0 ++ [e] ∧ e.body.entry? "attributes" = none) ∧
    ∃ e, (r.log (jobDone crowdExtras)).1.deliveredBy 0 = r.deliveredBy 0 ++ [e] ∧
      e.attributes.get? instanceAttribute = none := by
  intro r
  refine ⟨(Sdk.lawful_standard _).resource _ _ _ _ (by decide)
    (get?_instance_installationAttributes plainInstallation []) rfl, ?_, ?_⟩
  · obtain ⟨record, r', hr, hstructured, he⟩ :=
      delivered_jobDone [("taskName", .str "sweep")] (by decide) (by decide)
    obtain ⟨message, time, -, -, rfl⟩ := Record.exists_of_structured_eq_ok hstructured
    refine ⟨_, he, ?_⟩
    rw [Record.body_delivered_restructured, Record.entry?_attributes_body,
      Call.additions_record hr]
    rfl
  · have hfree : ∀ e ∈ crowdExtras, isReserved e.1 = false := by
      intro e he
      have hm : e.1 ∉ "asctime" :: standardFields :=
        not_mem_crowdNames (by decide) (name_of_mem_crowdExtras he)
      rw [List.mem_cons, not_or] at hm
      simp [isReserved, isStandard, hm.1, hm.2]
    have hread : formatterAttribute ∉ crowdExtras.map Prod.fst := by
      rw [names_crowdExtras]
      exact fun hm => not_mem_crowdNames (by decide) hm (List.mem_singleton_self formatterAttribute)
    have hnamed : "" ∉ crowdNames :=
      fun hm => not_mem_crowdNames (by decide) hm (List.mem_singleton_self "")
    obtain ⟨record, r', hr, hstructured, he⟩ := delivered_jobDone crowdExtras hfree hread
    have hnames : record.additions.names = crowdNames := by
      rw [Call.additions_record hr, additions_crowd]
    refine ⟨_, he, Record.get?_instance_crowded hstructured hnames ?_ ?_
      (Call.ofCall_record hr).excInfo ?_⟩
    · rw [hnames]
      exact nodup_crowdNames
    · rw [hnames]
      exact hnamed
    · rw [List.length_map, List.length_range]
      decide

end Logging
end UsageMeter
