import UsageMeter.Proofs.Report.Alike
import UsageMeter.Proofs.Value.Object
import UsageMeter.Proofs.Value.Simple

/-!
Renderings of reports. Renderings are equal just if the reports are alike, and the report is read
back from its rendering, with all its orders.
-/
namespace UsageMeter

theorem Component.render_ne_null (c : Component) : c.render ≠ .null := by
  intro h
  cases h

theorem License.render_ne_null (l : License) : l.render ≠ .null := by
  intro h
  cases h

/-! ## Equality of renderings -/

theorem Table.alike_map {α β : Type} (f : α → β) (like : β → β → Bool) (t u : Table α) :
    (t.map f).alike like (u.map f) = t.alike (fun v w => like (f v) (f w)) u := by
  have hsize : ∀ t : Table α, (t.map f).size = t.size := fun t => List.length_map _
  have hentries : (t.map f).entries = t.entries.map fun e => (e.1, f e.2) := rfl
  rw [alike, alike, hsize, hsize, hentries, List.all_map]
  congr 2
  funext e
  rw [Function.comp_apply, map, get?_mapNamed]
  cases u.get? e.1 <;> rfl

/-- Named values are rendered to equal dictionaries if their tables are alike. -/
theorem Table.equal_render {α : Type} {f : α → Value} {like : α → α → Bool}
    (hlike : ∀ v w, (f v).equal (f w) = like v w) (t u : Table α) :
    (Value.object (t.map f).entries).equal (.object (u.map f).entries) = t.alike like u := by
  simp only [Value.equal_object, alike_map, hlike]

theorem equal_renderCounts (t u : Table Int) :
    (renderCounts t).equal (renderCounts u) = t.alike (· == ·) u := by
  have hzip : ∀ n : Int, Value.object [("count", .int n)] = .object (["count"].zip [.int n]) :=
    fun _ => rfl
  have hcount : ∀ m n : Int,
      (Value.object [("count", .int m)]).equal (.object [("count", .int n)]) = (m == n) := by
    intro m n
    rw [hzip, hzip, Value.equal_object_zip (by decide) rfl rfl]
    simp [Value.equalItems]
  exact Table.equal_render hcount t u

theorem Component.equal_render (a b : Component) : a.render.equal b.render = (a == b) := by
  have hzip : ∀ c : Component, c.render =
      .object (["vendor", "version"].zip [.str c.vendor, .str c.version]) := fun _ => rfl
  rw [hzip, hzip, Value.equal_object_zip (by decide) rfl rfl, Bool.eq_iff_iff]
  cases a
  cases b
  simp [Value.equalItems]

theorem License.equal_render (a b : License) : a.render.equal b.render = a.alike b := by
  have hzip : ∀ l : License, l.render =
      .object (["customer", "type", "validUntil", "unlimited", "features", "raw"].zip
        [.str l.customer, .str l.type, .str l.validUntil, .bool l.unlimited,
          .object (l.features.map .str).entries, .str l.raw]) := fun _ => rfl
  rw [hzip, hzip, Value.equal_object_zip (by decide) rfl rfl, alike]
  simp [Value.equalItems, Table.equal_render Value.equal_str, Bool.and_assoc]

/-- Optional parts are rendered to equal values if both are absent, or both are there and alike. -/
theorem equal_renderOption {α : Type} {f : α → Value} (hf : ∀ a, f a ≠ .null) (a b : Option α) :
    (renderOption f a).equal (renderOption f b) =
      match a, b with
      | none, none => true
      | some a, some b => (f a).equal (f b)
      | _, _ => false := by
  have hnull : ∀ v : Value, v ≠ .null → v.equal .null = false ∧ Value.null.equal v = false := by
    intro v hv
    cases v <;> simp_all [Value.equal, Value.number?]
  cases a with
  | none =>
    cases b with
    | none => rfl
    | some b => exact (hnull (f b) (hf b)).2
  | some a =>
    cases b with
    | none => exact (hnull (f a) (hf a)).1
    | some b => rfl

theorem Value.equal_str_of_text? {v : Value} (h : v.text? = none) (s : String) :
    (Value.str s).equal v = false ∧ v.equal (.str s) = false := by
  cases v <;> simp_all [text?, equal, number?]

/-- Sets of web applications are listed as equal values if they are alike. -/
theorem Webapps.equalItems_toValues (a b : Webapps) :
    Value.equalItems a.toValues b.toValues = a.alike b := by
  have hlisted : ∀ names names' : List String,
      Value.equalItems (names.map .str ++ a.others) (names'.map .str ++ b.others) =
        (names == names' && Value.equalItems a.others b.others) := by
    -- Where one set has no more names, a name of the other meets a member that is no text.
    intro names
    induction names with
    | nil =>
      intro names'
      cases names' with
      | nil => simp
      | cons name' names' =>
        have hnameless := a.nameless
        cases hothers : a.others with
        | nil => simp [Value.equalItems]
        | cons v vs =>
          rw [hothers] at hnameless
          have hv := (Value.equal_str_of_text? (hnameless v List.mem_cons_self) name').2
          simp [Value.equalItems, hv]
    | cons name names ih =>
      intro names'
      cases names' with
      | nil =>
        have hnameless := b.nameless
        cases hothers : b.others with
        | nil => simp [Value.equalItems]
        | cons w ws =>
          rw [hothers] at hnameless
          have hw := (Value.equal_str_of_text? (hnameless w List.mem_cons_self) name).1
          simp [Value.equalItems, hw]
      | cons name' names' =>
        simp [Value.equalItems, ih, Bool.and_assoc]
  have hnames : (a.names == b.names) = (a.names.names == b.names.names) := by
    rw [Bool.eq_iff_iff, beq_iff_eq, beq_iff_eq, NameSet.mk.injEq]
  rw [alike, hnames]
  exact hlisted a.names.names b.names.names

theorem Internals.equal_render (a b : Internals) : a.render.equal b.render = a.alike b := by
  have hzip : ∀ i : Internals, i.render =
      .object (["database", "applicationServer", "jdk", "licenseKey", "commands", "metrics",
          "webapps", "telemetryEnabled"].zip
        [i.database.render, renderOption Component.render i.server, i.jdk.render,
          renderOption License.render i.license, renderCounts i.commands, renderCounts i.metrics,
          .list i.webapps.toValues, .bool i.enabled]) := fun _ => rfl
  have hserver : (renderOption Component.render a.server).equal
      (renderOption Component.render b.server) = (a.server == b.server) := by
    rw [equal_renderOption Component.render_ne_null]
    cases a.server <;> cases b.server <;> simp [Component.equal_render]
  have hlicense : (renderOption License.render a.license).equal
      (renderOption License.render b.license) = License.alike? a.license b.license := by
    rw [equal_renderOption License.render_ne_null]
    cases a.license <;> cases b.license <;> simp [License.equal_render, License.alike?]
  have hwebapps : (Value.list a.webapps.toValues).equal (.list b.webapps.toValues) =
      a.webapps.alike b.webapps := by
    rw [Value.equal, Webapps.equalItems_toValues]
  rw [hzip, hzip, Value.equal_object_zip (by decide) rfl rfl, alike]
  simp [Value.equalItems, hserver, hlicense, hwebapps, Component.equal_render, equal_renderCounts]
  ac_rfl

theorem Product.equal_render (a b : Product) : a.render.equal b.render = a.alike b := by
  have hzip : ∀ p : Product, p.render = .object (["name", "version", "edition", "internals"].zip
      [.str p.name, .str p.version, .str p.edition, p.internals.render]) := fun _ => rfl
  rw [hzip, hzip, Value.equal_object_zip (by decide) rfl rfl, alike]
  simp [Value.equalItems, Internals.equal_render, Bool.and_assoc]

theorem Report.equal_render (a b : Report) : a.render.equal b.render = a.alike b := by
  have hzip : ∀ r : Report, r.render =
      .object (["installation", "product"].zip [.str r.installation, r.product.render]) :=
    fun _ => rfl
  rw [hzip, hzip, Value.equal_object_zip (by decide) rfl rfl, alike]
  simp [Value.equalItems, Product.equal_render]

/-! ## Reading back -/

/-- Named values are read back from the fields that they were rendered to. -/
theorem Table.mapM_entries_map {α : Type} {f : α → Value} {r : Value → Option α}
    (hr : ∀ a, r (f a) = some a) (t : Table α) :
    ((t.map f).entries.mapM fun e => (r e.2).map fun a => (e.1, a)) = some t.entries := by
  refine Value.mapM_map_some (w := fun e : String × α => (e.1, f e.2)) (fun e => ?_) t.entries
  rw [hr]
  rfl

theorem countsOfRendered?_renderCounts (t : Table Int) :
    countsOfRendered? (renderCounts t) = some t := by
  have hfields : (renderCounts t).fields? =
      some (t.map fun n => .object [("count", .int n)]).entries := Value.fields?_object _
  have hcounts := Table.mapM_entries_map (f := fun n => .object [("count", .int n)])
    (r := fun c => c.entry? "count" >>= Value.int?) (fun _ => rfl) t
  rw [countsOfRendered?, hfields, Option.bind_eq_bind, Option.bind_some, hcounts]
  exact congrArg some t.ofList_toList

theorem Component.ofRendered?_render (c : Component) : ofRendered? c.render = some c :=
  rfl

theorem License.ofRendered?_render (l : License) : ofRendered? l.render = some l := by
  have hfields : (l.render.entry? "features" >>= Value.fields?) =
      some (l.features.map .str).entries := Value.fields?_object _
  have hfeatures := Table.mapM_entries_map (f := .str) (r := Value.text?) (fun _ => rfl) l.features
  have htable : Table.ofList l.features.entries = l.features := l.features.ofList_toList
  rw [ofRendered?, hfields, Option.bind_eq_bind, Option.bind_some, hfeatures, Option.bind_eq_bind,
    Option.bind_some, htable]
  rfl

theorem NameSet.ofList_names (s : NameSet) : ofList s.names = s :=
  ext_mem fun _ => mem_ofList

theorem Webapps.ext_parts {a b : Webapps} (hnames : a.names = b.names)
    (hothers : a.others = b.others) : a = b := by
  cases a
  cases b
  cases hnames
  cases hothers
  rfl

theorem Webapps.ofListed_toValues (w : Webapps) : ofListed w.toValues = w := by
  have htexts : w.toValues.filterMap Value.text? = w.names.names := by
    have hothers : w.others.filterMap Value.text? = [] := List.filterMap_eq_nil_iff.2 w.nameless
    rw [toValues, List.filterMap_append, List.filterMap_map, hothers, List.append_nil]
    exact List.filterMap_some
  have hothers : w.toValues.filter (fun v => v.text? = none) = w.others := by
    have hnames : (w.names.toList.map Value.str).filter (fun v => v.text? = none) = [] := by
      simp [Value.text?]
    rw [toValues, List.filter_append, hnames, List.nil_append, List.filter_eq_self]
    exact fun v hv => decide_eq_true (w.nameless v hv)
  refine ext_parts ?_ hothers
  rw [ofListed, htexts, NameSet.ofList_names]

theorem optionOfRendered?_renderOption {α : Type} {f : α → Value} {r : Value → Option α}
    (hf : ∀ a, f a ≠ .null) (hr : ∀ a, r (f a) = some a) (o : Option α) :
    optionOfRendered? r (renderOption f o) = some o := by
  cases o with
  | none => rfl
  | some a =>
    rw [renderOption, optionOfRendered?, hr]
    · rfl
    · exact hf a

theorem Internals.ofRendered?_render (i : Internals) : ofRendered? i.render = some i := by
  have hserver := optionOfRendered?_renderOption Component.render_ne_null
    Component.ofRendered?_render i.server
  have hlicense := optionOfRendered?_renderOption License.render_ne_null
    License.ofRendered?_render i.license
  have hwebapps : Webapps.ofRendered? (.list i.webapps.toValues) = some i.webapps :=
    congrArg some i.webapps.ofListed_toValues
  simp [ofRendered?, render, Value.entry?_object, lookup_cons_ite, Component.ofRendered?_render,
    hserver, hlicense, countsOfRendered?_renderCounts, hwebapps, Value.bool?]

theorem Product.ofRendered?_render (p : Product) : ofRendered? p.render = some p := by
  simp [ofRendered?, render, Value.textAt?, Value.entry?_object, lookup_cons_ite, Value.text?,
    Internals.ofRendered?_render]

theorem Report.ofRendered?_render (r : Report) : ofRendered? r.render = some r := by
  simp [ofRendered?, render, Value.textAt?, Value.entry?_object, lookup_cons_ite, Value.text?,
    Product.ofRendered?_render]

/-! ## What stands where -/

/-- What a dictionary of dictionaries holds under some keys, the outer ones first. -/
def Value.under? (v : Value) (keys : List String) : Option Value :=
  keys.foldlM entry? v

/-- The keys of the dictionary there, in their order. -/
def Value.keysUnder? (v : Value) (keys : List String) : Option (List String) :=
  (v.under? keys >>= fields?).map (List.map Prod.fst)

theorem keys_renderCounts (t : Table Int) :
    (renderCounts t).fields?.map (List.map Prod.fst) = some t.names := by
  have hcounts : renderCounts t = .object (t.map fun n => .object [("count", .int n)]).entries :=
    rfl
  rw [hcounts, Value.fields?_object]
  exact congrArg some (Table.names_mapNamed _ t)

theorem License.keys_features (l : License) :
    l.render.keysUnder? ["features"] = some l.features.names := by
  have hfeatures : l.render.under? ["features"] = some (.object (l.features.map .str).entries) :=
    rfl
  rw [Value.keysUnder?, hfeatures, Option.bind_eq_bind, Option.bind_some, Value.fields?_object]
  exact congrArg some (Table.names_mapNamed _ l.features)

/-- A set of names is listed as its members, in increasing order. -/
theorem Webapps.toValues_ofNames (names : List String) :
    ∃ listed : List String, (ofNames names).toValues = listed.map .str ∧
      listed.Pairwise (· < ·) ∧ ∀ name, name ∈ listed ↔ name ∈ names :=
  ⟨(NameSet.ofList names).names, List.append_nil _, (NameSet.ofList names).sorted,
    fun _ => NameSet.mem_ofList⟩

/-- The web applications of a report are all names. -/
def Report.Named (r : Report) : Prop :=
  r.product.internals.webapps.others = []

/-- For reports whose web applications are names: renderings are equal just if the reports are
alike, and the report with all its orders is read back from its rendering. Counts and features are
rendered in the order of the report, and names of web applications in increasing order. -/
theorem renderings_faithful :
    (∀ a b : Report, a.Named → b.Named →
      (a.render.equal b.render = true ↔ a.alike b = true)) ∧
    (∀ r : Report, r.Named → Report.ofRendered? r.render = some r) ∧
    (∀ r : Report, r.Named →
      r.render.keysUnder? ["product", "internals", "commands"] =
        some r.product.internals.commands.names ∧
      r.render.keysUnder? ["product", "internals", "metrics"] =
        some r.product.internals.metrics.names ∧
      ∀ l, r.product.internals.license = some l →
        r.render.keysUnder? ["product", "internals", "licenseKey", "features"] =
          some l.features.names) ∧
    ∀ (r : Report) (names : List String), r.product.internals.webapps = .ofNames names →
      ∃ listed : List String,
        r.render.under? ["product", "internals", "webapps"] = some (.list (listed.map .str)) ∧
        listed.Pairwise (· < ·) ∧ ∀ name, name ∈ listed ↔ name ∈ names := by
  refine ⟨fun a b _ _ => by rw [Report.equal_render], fun r _ => r.ofRendered?_render,
    fun r _ => ?_, ?_⟩
  · refine ⟨keys_renderCounts r.product.internals.commands,
      keys_renderCounts r.product.internals.metrics, fun l hl => ?_⟩
    have hfeatures : r.render.under? ["product", "internals", "licenseKey", "features"] =
        (renderOption License.render r.product.internals.license).under? ["features"] := rfl
    rw [Value.keysUnder?, hfeatures, hl]
    exact l.keys_features
  · intro r names hnames
    obtain ⟨listed, hlisted, hsorted, hmem⟩ := Webapps.toValues_ofNames names
    have hwebapps : r.render.under? ["product", "internals", "webapps"] =
        some (.list r.product.internals.webapps.toValues) := rfl
    exact ⟨listed, by rw [hwebapps, hnames, hlisted], hsorted, hmem⟩

/-- Two features, two commands and two web applications, one of them named twice. -/
theorem shop_rendering_faithful :
    let license : License := ⟨"shop", "UNIFIED", "2029-09-01", false,
      .ofList [("tasks", "yes"), ("engine", "true")], "raw"⟩
    let report : Report := ⟨"shop", ⟨"Runtime", "7.14.0", "community",
      ⟨⟨"h2", "2.1"⟩, ⟨"Oracle", "17"⟩, none, some license, .ofList [("ship", 1), ("pay", 2)],
        .empty, .ofNames ["web", "admin", "web"], true⟩⟩⟩
    report.Named ∧ Report.ofRendered? report.render = some report ∧
    report.product.internals.license = some license ∧
    report.render.keysUnder? ["product", "internals", "licenseKey", "features"] =
      some ["tasks", "engine"] ∧
    report.product.internals.webapps = .ofNames ["web", "admin", "web"] ∧
    ∃ listed : List String,
      report.render.under? ["product", "internals", "webapps"] = some (.list (listed.map .str)) ∧
      listed.Pairwise (· < ·) ∧ ∀ name, name ∈ listed ↔ name ∈ ["web", "admin", "web"] := by
  intro license report
  have hnamed : report.Named := rfl
  obtain ⟨-, hback, hkeys, hwebapps⟩ := renderings_faithful
  exact ⟨hnamed, hback report hnamed, rfl, (hkeys report hnamed).2.2 license rfl, rfl,
    hwebapps report _ rfl⟩

end UsageMeter
