import Mathlib.Data.Finset.Dedup
import UsageMeter.Proofs.Report.Alike
import UsageMeter.Proofs.Value.Simple
import UsageMeter.Report.Making

/-!
Equality and digests of reports. Each part of a report has a gist: the part without the order of its
counts, features and web applications. Where all values are simple, parts are alike just if they
have one gist, and parts of one gist have one digest, whatever the digests of texts and numbers
are.
-/
namespace UsageMeter

/-! ## Sets of web applications -/

namespace Webapps

/-- The contents of the members, those of the names first. -/
def contents (w : Webapps) : List Value.Content :=
  w.toValues.map Value.content

/-- Whoever made the set put only simple values in. -/
def Plain (w : Webapps) : Prop :=
  Value.Ordered w.others

section Contents
variable {w a b : Webapps} {v : Value} {c : Value.Content}

theorem contents_eq (w : Webapps) :
    w.contents = w.names.names.map Value.Content.text ++ w.others.map Value.content := by
  rw [contents, toValues, List.map_append, List.map_map]
  rfl

theorem mem_contents_iff :
    c ∈ w.contents ↔ (∃ name ∈ w.names.names, .text name = c) ∨ c ∈ w.others.map Value.content := by
  rw [contents_eq, List.mem_append, List.mem_map]

theorem Plain.text_not_mem (h : w.Plain) (name : String) :
    .text name ∉ w.others.map Value.content := by
  intro hm
  obtain ⟨v, hv, hc⟩ := List.mem_map.1 hm
  exact (h.simple v hv).content_of_text? (h.textless v hv) name hc

theorem Plain.text_mem_iff (h : w.Plain) {name : String} :
    .text name ∈ w.contents ↔ name ∈ w.names.names := by
  rw [mem_contents_iff, or_iff_left (h.text_not_mem name)]
  simp

theorem Plain.simple_of_mem (h : w.Plain) : ∀ v ∈ w.toValues, v.Simple := by
  intro v hv
  obtain hv | hv := List.mem_append.1 hv
  · obtain ⟨name, -, rfl⟩ := List.mem_map.1 hv
    trivial
  · exact h.simple v hv

theorem add_of_text? (h : v.text? = none) :
    (w.add v).names = w.names ∧ (w.add v).others = v.add w.others := by
  cases v with
  | str name => cases h
  | _ => exact ⟨rfl, rfl⟩

theorem mem_contents_insert (w : Webapps) (name : String) (c : Value.Content) :
    c ∈ (w.insert name).contents ↔ c = .text name ∨ c ∈ w.contents := by
  have hm : ∀ a, a ∈ (w.insert name).names.names ↔ a = name ∨ a ∈ w.names.names :=
    fun a => NameSet.mem_place
  have hothers : (w.insert name).others = w.others := rfl
  rw [mem_contents_iff, mem_contents_iff, hothers, ← or_assoc]
  refine or_congr_left ?_
  simp only [hm, or_and_right, exists_or, exists_eq_left]
  exact or_congr_left eq_comm

/-- A member that is no text takes its place among those that are none, unless one of its content is
there. -/
theorem Plain.add_others (h : w.Plain) (hv : v.Simple) (ht : v.text? = none) :
    Value.Ordered (v.add w.others) ∧
      ∀ c, c ∈ (v.add w.others).map Value.content ↔
        c = v.content ∨ c ∈ w.others.map Value.content := by
  have hequal := fun x hx => Value.equal_iff_content hv (h.simple x hx)
  rw [Value.add]
  by_cases hany : w.others.any v.equal = true
  · obtain ⟨x, hx, hvx⟩ := List.any_eq_true.1 hany
    have hm : v.content ∈ w.others.map Value.content :=
      List.mem_map.2 ⟨x, hx, ((hequal x hx).1 hvx).symm⟩
    rw [if_pos hany]
    refine ⟨h, fun c => (or_iff_right_of_imp ?_).symm⟩
    rintro rfl
    exact hm
  · have hnew : ∀ x ∈ w.others, v.content ≠ x.content :=
      fun x hx hsame => hany (List.any_eq_true.2 ⟨x, hx, (hequal x hx).2 hsame⟩)
    rw [if_neg hany]
    refine ⟨Value.Ordered.place h hv ht hnew, fun c => ?_⟩
    simp only [List.mem_map, Value.mem_place, or_and_right, exists_or, exists_eq_left]
    exact or_congr_left eq_comm

theorem Plain.add (h : w.Plain) (hv : v.Simple) :
    (w.add v).Plain ∧ ∀ c, c ∈ (w.add v).contents ↔ c = v.content ∨ c ∈ w.contents := by
  cases ht : v.text? with
  | some name =>
    obtain rfl : v = .str name := by
      cases v <;> simp_all [Value.text?]
    exact ⟨h, w.mem_contents_insert name⟩
  | none =>
    obtain ⟨hnames, hothers⟩ := add_of_text? (w := w) ht
    obtain ⟨hordered, hmem⟩ := h.add_others hv ht
    rw [Plain, hothers]
    refine ⟨hordered, fun c => ?_⟩
    rw [mem_contents_iff, mem_contents_iff, hnames, hothers, hmem]
    exact or_left_comm

/-- A set of simple values has their contents as members. -/
theorem plain_ofValues {vs : List Value} (hvs : ∀ v ∈ vs, v.Simple) :
    (ofValues vs).Plain ∧ ∀ c, c ∈ (ofValues vs).contents ↔ c ∈ vs.map Value.content := by
  have hfold : ∀ (vs : List Value) (w : Webapps), (∀ v ∈ vs, v.Simple) → w.Plain →
      (vs.foldl add w).Plain ∧
        ∀ c, c ∈ (vs.foldl add w).contents ↔ c ∈ w.contents ∨ c ∈ vs.map Value.content := by
    intro vs
    induction vs with
    | nil => exact fun w _ hw => ⟨hw, by simp⟩
    | cons v vs ih =>
      intro w hvs hw
      rw [List.forall_mem_cons] at hvs
      obtain ⟨hplain, hadd⟩ := hw.add hvs.1
      obtain ⟨hrest, hmem⟩ := ih (w.add v) hvs.2 hplain
      refine ⟨hrest, fun c => ?_⟩
      rw [List.foldl_cons, hmem, hadd, List.map_cons, List.mem_cons]
      tauto
  have hempty : empty.Plain := ⟨by simp [empty], by simp [empty], by simp [empty]⟩
  obtain ⟨hplain, hmem⟩ := hfold vs empty hvs hempty
  exact ⟨hplain, fun c => (hmem c).trans (by simp [contents, empty, toValues, NameSet.toList,
    NameSet.empty])⟩

theorem Plain.alike_iff_eq (ha : a.Plain) (hb : b.Plain) :
    a.alike b = true ↔
      a.names = b.names ∧ a.others.map Value.content = b.others.map Value.content := by
  rw [alike, Bool.and_eq_true, beq_iff_eq, Value.equalItems_iff_content ha.simple hb.simple]

theorem Plain.alike_iff (ha : a.Plain) (hb : b.Plain) :
    a.alike b = true ↔ a.contents.toFinset = b.contents.toFinset := by
  rw [ha.alike_iff_eq hb, Finset.ext_iff]
  simp only [List.mem_toFinset]
  constructor
  · rintro ⟨hnames, hothers⟩ c
    rw [contents_eq, contents_eq, hnames, hothers]
  -- No content is that of a name and of another member, so both parts are read off the union.
  · intro hmem
    have hnames : a.names = b.names := by
      refine NameSet.ext_mem fun name => ?_
      rw [← ha.text_mem_iff, ← hb.text_mem_iff, hmem]
    have hothers : ∀ c, c ∈ a.others.map Value.content ↔ c ∈ b.others.map Value.content := by
      intro c
      cases c with
      | text name => exact iff_of_false (ha.text_not_mem name) (hb.text_not_mem name)
      | integer i => simpa [mem_contents_iff] using hmem (.integer i)
      | nothing => simpa [mem_contents_iff] using hmem .nothing
    exact ⟨hnames, (List.pairwise_map.2 ha.before).eq_of_mem_iff (List.pairwise_map.2 hb.before)
      hothers⟩

end Contents
end Webapps

/-! ## Gists -/

/-- Simple values under names. -/
def Table.Plain (t : Table Value) : Prop :=
  ∀ v ∈ t.values, v.Simple

/-- The contents of the values, in no order. -/
def Table.gist (t : Table Value) : Multiset (String × Value.Content) :=
  (t.map Value.content).entries

/-- A licence without the order of its features. -/
structure License.Gist where
  customer : String
  type : String
  validUntil : String
  unlimited : Bool
  features : Multiset (String × String)
  raw : String

def License.gist (l : License) : License.Gist :=
  ⟨l.customer, l.type, l.validUntil, l.unlimited, l.features.entries, l.raw⟩

/-- Internals without the order of counts, features and web applications. -/
structure Internals.Gist where
  database : Component
  jdk : Component
  server : Option Component
  license : Option License.Gist
  commands : Multiset (String × Int)
  metrics : Multiset (String × Int)
  webapps : Finset Value.Content
  enabled : Bool

def Internals.gist (i : Internals) : Internals.Gist :=
  ⟨i.database, i.jdk, i.server, i.license.map License.gist, i.commands.entries, i.metrics.entries,
    i.webapps.contents.toFinset, i.enabled⟩

/-- A product with the gist of its internals. -/
structure Product.Gist where
  name : String
  version : String
  edition : String
  internals : Internals.Gist

def Product.gist (p : Product) : Product.Gist :=
  ⟨p.name, p.version, p.edition, p.internals.gist⟩

/-- A report with the gist of its product. -/
structure Report.Gist where
  installation : String
  product : Product.Gist

def Report.gist (r : Report) : Report.Gist :=
  ⟨r.installation, r.product.gist⟩

theorem Table.alike_iff_gist {t u : Table Value} (ht : t.Plain) (hu : u.Plain) :
    t.alike Value.equal u = true ↔ t.gist = u.gist := by
  rw [gist, gist, Multiset.coe_eq_coe]
  exact alike_iff_perm Value.content fun v hv w hw => Value.equal_iff_content (ht v hv) (hu w hw)

theorem License.alike_iff_gist {a b : License} : a.alike b = true ↔ a.gist = b.gist := by
  simp [alike, gist, Table.alike_beq_iff_perm, and_assoc]

theorem License.alike?_iff_gist {a b : Option License} :
    License.alike? a b = true ↔ a.map gist = b.map gist := by
  cases a <;> cases b <;> simp [alike?, License.alike_iff_gist]

theorem Internals.alike_iff_gist {a b : Internals} (ha : a.webapps.Plain) (hb : b.webapps.Plain) :
    a.alike b = true ↔ a.gist = b.gist := by
  simp [alike, gist, Table.alike_beq_iff_perm, License.alike?_iff_gist, ha.alike_iff hb, and_assoc]

theorem Product.alike_iff_gist {a b : Product} (ha : a.internals.webapps.Plain)
    (hb : b.internals.webapps.Plain) : a.alike b = true ↔ a.gist = b.gist := by
  simp [alike, gist, Internals.alike_iff_gist ha hb, and_assoc]

theorem Report.alike_iff_gist {a b : Report} (ha : a.product.internals.webapps.Plain)
    (hb : b.product.internals.webapps.Plain) : a.alike b = true ↔ a.gist = b.gist := by
  simp [alike, gist, Product.alike_iff_gist ha hb]

/-! ## Digests -/

namespace Hashing
variable (h : Hashing)

/-- The digest of a content. -/
def content : Value.Content → Nat
  | .text s => h.text s
  | .integer i => h.int i
  | .nothing => h.nothing

theorem value_of_simple {v : Value} (hv : v.Simple) : h.value v = .ok (h.content v.content) := by
  cases v <;> simp only [Value.Simple] at hv <;> rfl

theorem webapps_of_plain {w : Webapps} (hw : w.Plain) :
    h.webapps w = h.combine (w.contents.map h.content) := by
  rw [webapps, Webapps.contents, List.map_map]
  congr 1
  refine List.map_congr_left fun v hv => ?_
  rw [h.value_of_simple (hw.simple_of_mem v hv)]
  rfl

/-- The digest of an entry with the content of a value. -/
def entry (e : String × Value.Content) : Nat :=
  h.combine [h.text e.1, h.content e.2]

theorem table_of_plain {t : Table Value} (ht : t.Plain) :
    h.table t = .ok ((t.map Value.content).digest h.entry h.combine) := by
  have hhashable : t.unhashable? = none := by
    refine List.findSome?_eq_none_iff.2 fun v hv => ?_
    have hsimple := ht v hv
    cases v <;> simp only [Value.Simple] at hsimple <;> rfl
  have hitems : t.entries.map (fun e => h.combine [h.text e.1, (h.value e.2).toOption.getD 0]) =
      (t.map Value.content).entries.map h.entry := by
    rw [Table.map, Table.mapNamed, List.map_map]
    refine List.map_congr_left fun e he => ?_
    rw [h.value_of_simple (ht e.2 (List.mem_map_of_mem he))]
    rfl
  rw [table, hhashable, Table.digest, hitems]
  rfl

variable {h}

theorem table_eq_of_gist {t u : Table Value} (ht : t.Plain) (hu : u.Plain)
    (hgist : t.gist = u.gist) : h.table t = h.table u := by
  rw [h.table_of_plain ht, h.table_of_plain hu,
    Table.digest_of_perm (Multiset.coe_eq_coe.1 hgist)]

theorem license_eq_of_gist {a b : License} (hgist : a.gist = b.gist) :
    h.license a = h.license b := by
  simp only [License.gist, License.Gist.mk.injEq, Multiset.coe_eq_coe] at hgist
  obtain ⟨hcustomer, htype, huntil, hunlimited, hfeatures, hraw⟩ := hgist
  rw [license, license, hcustomer, htype, huntil, hunlimited, hraw, Table.digest_of_perm hfeatures]

theorem internals_eq_of_gist {a b : Internals} (ha : a.webapps.Plain) (hb : b.webapps.Plain)
    (hgist : a.gist = b.gist) : h.internals a = h.internals b := by
  simp only [Internals.gist, Internals.Gist.mk.injEq, Multiset.coe_eq_coe] at hgist
  obtain ⟨hdatabase, hjdk, hserver, hlicense, hcommands, hmetrics, hwebapps, henabled⟩ := hgist
  have hlicense' : h.optional h.license a.license = h.optional h.license b.license := by
    cases hla : a.license <;> cases hlb : b.license <;> simp_all [optional]
    exact license_eq_of_gist hlicense
  have hwebapps' : h.webapps a.webapps = h.webapps b.webapps := by
    obtain ⟨hnames, hothers⟩ := (ha.alike_iff_eq hb).1 ((ha.alike_iff hb).2 hwebapps)
    rw [h.webapps_of_plain ha, h.webapps_of_plain hb, Webapps.contents_eq, Webapps.contents_eq,
      hnames, hothers]
  rw [internals, internals, hdatabase, hjdk, hserver, hlicense', hwebapps', henabled,
    Table.digest_of_perm hcommands, Table.digest_of_perm hmetrics]

theorem product_eq_of_gist {a b : Product} (ha : a.internals.webapps.Plain)
    (hb : b.internals.webapps.Plain) (hgist : a.gist = b.gist) : h.product a = h.product b := by
  simp only [Product.gist, Product.Gist.mk.injEq] at hgist
  obtain ⟨hname, hversion, hedition, hinternals⟩ := hgist
  rw [product, product, hname, hversion, hedition, internals_eq_of_gist ha hb hinternals]

theorem report_eq_of_gist {a b : Report} (ha : a.product.internals.webapps.Plain)
    (hb : b.product.internals.webapps.Plain) (hgist : a.gist = b.gist) :
    h.report a = h.report b := by
  simp only [Report.gist, Report.Gist.mk.injEq] at hgist
  rw [report, report, hgist.1, product_eq_of_gist ha hb hgist.2]

end Hashing

/-! ## What is made from mappings -/

namespace Mapping
variable {α : Type}

theorem entries_copied (m : Mapping α) : m.copied.entries = m.items := by
  have hnodup : (m.items.map Prod.fst).Nodup := by
    cases m with
    | plain t => exact t.nodup
    | frozen t => exact t.nodup
  exact Table.entries_ofList hnodup

theorem entries_settled (m : Mapping α) : m.settled.entries = m.items := by
  cases m with
  | plain t => exact entries_copied (.plain t)
  | frozen t => rfl

/-- The contents of the items, in no order. -/
def gist (m : Mapping Value) : Multiset (String × Value.Content) :=
  m.items.map fun e => (e.1, e.2.content)

theorem plain_copied {m : Mapping Value} (hm : ∀ e ∈ m.items, e.2.Simple) : m.copied.Plain := by
  intro v hv
  rw [Table.values, entries_copied] at hv
  obtain ⟨e, he, rfl⟩ := List.mem_map.1 hv
  exact hm e he

theorem gist_copied (m : Mapping Value) : m.copied.gist = m.gist := by
  rw [gist, ← entries_copied]
  rfl

end Mapping

theorem License.gist_made (customer type validUntil : String) (unlimited : Bool)
    (features : Mapping String) (raw : String) :
    (made customer type validUntil unlimited features raw).gist =
      ⟨customer, type, validUntil, unlimited, features.items, raw⟩ := by
  rw [made, gist, Mapping.entries_copied]

theorem Internals.gist_made (database jdk : Component) (server : Option Component)
    (license : Option License) (commands metrics : Mapping Int) {webapps : List Value}
    (hwebapps : ∀ v ∈ webapps, v.Simple) (enabled : Bool) :
    (made database jdk server license commands metrics (.ofValues webapps) enabled).gist =
      ⟨database, jdk, server, license.map License.gist, commands.items, metrics.items,
        (webapps.map Value.content).toFinset, enabled⟩ := by
  have hset : (Webapps.ofValues webapps).contents.toFinset =
      (webapps.map Value.content).toFinset := by
    ext c
    rw [List.mem_toFinset, List.mem_toFinset, (Webapps.plain_ofValues hwebapps).2]
  rw [made, gist, Mapping.entries_settled, Mapping.entries_settled, hset]

/-! ## Coherence -/

/-- Being alike is an equivalence: it is having one gist. What is alike has one digest, whatever the
digests of texts and numbers are. -/
structure Coherent {α β δ : Type} (plain : α → Prop) (like : α → α → Bool) (gist : α → β)
    (digest : Hashing → α → δ) : Prop where
  refl : ∀ a, plain a → like a a = true
  symm : ∀ a b, plain a → plain b → like a b = true → like b a = true
  trans : ∀ a b c, plain a → plain b → plain c → like a b = true → like b c = true →
    like a c = true
  like_iff : ∀ a b, plain a → plain b → (like a b = true ↔ gist a = gist b)
  digest_eq : ∀ a b, plain a → plain b → like a b = true → ∀ h, digest h a = digest h b

theorem Coherent.of_gist {α β δ : Type} {plain : α → Prop} {like : α → α → Bool} {gist : α → β}
    {digest : Hashing → α → δ}
    (hlike : ∀ {a b}, plain a → plain b → (like a b = true ↔ gist a = gist b))
    (hdigest : ∀ {h a b}, plain a → plain b → gist a = gist b → digest h a = digest h b) :
    Coherent plain like gist digest where
  refl _ ha := (hlike ha ha).2 rfl
  symm _ _ ha hb hab := (hlike hb ha).2 ((hlike ha hb).1 hab).symm
  trans _ _ _ ha hb hc hab hbc :=
    (hlike ha hc).2 (((hlike ha hb).1 hab).trans ((hlike hb hc).1 hbc))
  like_iff _ _ := hlike
  digest_eq _ _ ha hb hab _ := hdigest ha hb ((hlike ha hb).1 hab)

/-- Tables, licences, internals, products and reports of simple values are coherent, each up to the
order of its counts, features and web applications. Of a mapping only the items matter, and of the
web applications only which there are. Features are declared to be texts and counts to be integers,
so that booleans and `null` do not occur there and the tables of licences and internals have these
types; a table by itself, like a set of web applications, may hold any simple value. -/
theorem reports_coherent :
    (Coherent Table.Plain (Table.alike Value.equal) Table.gist Hashing.table ∧
      ∀ t : Table Value, t.Plain → ∀ h : Hashing, ∃ digest, h.table t = .ok digest) ∧
    Coherent (fun _ => True) License.alike License.gist Hashing.license ∧
    Coherent (fun i => i.webapps.Plain) Internals.alike Internals.gist Hashing.internals ∧
    Coherent (fun p => p.internals.webapps.Plain) Product.alike Product.gist Hashing.product ∧
    Coherent (fun r => r.product.internals.webapps.Plain) Report.alike Report.gist Hashing.report ∧
    (∀ m m' : Mapping Value, (∀ e ∈ m.items, e.2.Simple) → (∀ e ∈ m'.items, e.2.Simple) →
      (m.copied.alike Value.equal m'.copied = true ↔ m.gist = m'.gist)) ∧
    (∀ (customer type validUntil : String) (unlimited : Bool) (m m' : Mapping String)
      (raw : String),
      (License.made customer type validUntil unlimited m raw).alike
          (License.made customer type validUntil unlimited m' raw) = true ↔
        m.items.Perm m'.items) ∧
    (∀ ws : List Value, (∀ v ∈ ws, v.Simple) → (Webapps.ofValues ws).Plain) ∧
    ∀ (database jdk : Component) (server : Option Component) (l l' : Option License)
      (c c' m m' : Mapping Int) (ws ws' : List Value) (enabled : Bool),
      (∀ v ∈ ws, v.Simple) → (∀ v ∈ ws', v.Simple) →
      ((Internals.made database jdk server l c m (.ofValues ws) enabled).alike
          (Internals.made database jdk server l' c' m' (.ofValues ws') enabled) = true ↔
        License.alike? l l' = true ∧ c.items.Perm c'.items ∧ m.items.Perm m'.items ∧
          (ws.map Value.content).toFinset = (ws'.map Value.content).toFinset) := by
  refine ⟨⟨.of_gist Table.alike_iff_gist Hashing.table_eq_of_gist,
      fun t ht h => ⟨_, h.table_of_plain ht⟩⟩,
    .of_gist (fun _ _ => License.alike_iff_gist) fun _ _ => Hashing.license_eq_of_gist,
    .of_gist Internals.alike_iff_gist Hashing.internals_eq_of_gist,
    .of_gist Product.alike_iff_gist Hashing.product_eq_of_gist,
    .of_gist Report.alike_iff_gist Hashing.report_eq_of_gist, ?_, ?_,
    fun ws hws => (Webapps.plain_ofValues hws).1, ?_⟩
  · intro m m' hm hm'
    rw [Table.alike_iff_gist (Mapping.plain_copied hm) (Mapping.plain_copied hm'),
      Mapping.gist_copied, Mapping.gist_copied]
  · intro customer type validUntil unlimited m m' raw
    rw [License.alike_iff_gist, License.gist_made, License.gist_made]
    simp
  · intro database jdk server l l' c c' m m' ws ws' enabled hws hws'
    rw [Internals.alike_iff_gist (Webapps.plain_ofValues hws).1 (Webapps.plain_ofValues hws').1,
      Internals.gist_made _ _ _ _ _ _ hws, Internals.gist_made _ _ _ _ _ _ hws',
      License.alike?_iff_gist]
    simp

/-- The internals of a shop with some commands counted and some web applications. -/
def shopInternals (commands : Mapping Int) (webapps : List Value) : Internals :=
  .made ⟨"h2", "2.1"⟩ ⟨"Oracle", "17"⟩ none
    (some (.made "shop" "UNIFIED" "2029-09-01" false (.plain (.ofList [("engine", "true")])) "raw"))
    commands (.plain .empty) (.ofValues webapps) true

/-- Commands counted in another order, in a mapping or in a table, and web applications in another
order, one of them twice and another as the number that a truth value stands for. -/
theorem shop_reports_alike :
    let paid := shopInternals (.plain (.ofList [("pay", 2), ("ship", 1)])) [.str "web", .bool true]
    let shipped := shopInternals (.frozen (.ofList [("ship", 1), ("pay", 2)]))
      [.int 1, .str "web", .str "web"]
    let paidReport := Report.mk "shop" ⟨"Runtime", "7.14.0", "community", paid⟩
    let shippedReport := Report.mk "shop" ⟨"Runtime", "7.14.0", "community", shipped⟩
    (paid.webapps.Plain ∧ shipped.webapps.Plain) ∧ paidReport.alike shippedReport = true ∧
      ∀ h : Hashing, h.report paidReport = h.report shippedReport := by
  intro paid shipped paidReport shippedReport
  obtain ⟨-, -, -, -, hreport, -, -, hset, hmade⟩ := reports_coherent
  have hpaid : ∀ v ∈ [Value.str "web", .bool true], v.Simple := by simp [Value.Simple]
  have hshipped : ∀ v ∈ [Value.int 1, .str "web", .str "web"], v.Simple := by simp [Value.Simple]
  have hinternals : paid.alike shipped = true :=
    (hmade _ _ _ _ _ _ _ _ _ _ _ _ hpaid hshipped).2 ⟨by decide, by decide, by decide, by decide⟩
  have hreports : paidReport.alike shippedReport = true := by
    simp [Report.alike, Product.alike, paidReport, shippedReport, hinternals]
  exact ⟨⟨hset _ hpaid, hset _ hshipped⟩, hreports,
    hreport.digest_eq _ _ (hset _ hpaid) (hset _ hshipped) hreports⟩

end UsageMeter
