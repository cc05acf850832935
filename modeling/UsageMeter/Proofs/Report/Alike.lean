import Mathlib.Data.List.Perm.Subperm
import Mathlib.Data.List.Sort
import UsageMeter.Proofs.Listing
import UsageMeter.Report.Digest
import UsageMeter.Service.Static

/-!
What the order of listing does not change. Tables of the same entries are alike and have one digest,
a set of names is its members, and reports of the same counts are alike and have one digest.
-/
namespace UsageMeter

/-! ## Tables -/

namespace Table
variable {α : Type} {t u : Table α}

theorem alike_of_perm {like : α → α → Bool} (hlike : ∀ v, like v v = true)
    (h : t.entries.Perm u.entries) : t.alike like u = true := by
  rw [alike, Bool.and_eq_true, beq_iff_eq, List.all_eq_true]
  refine ⟨h.length_eq, fun e he => ?_⟩
  have hget : u.get? e.1 = some e.2 := lookup_of_mem u.nodup (h.mem_iff.1 he)
  simp only [hget, hlike]

theorem nodup_entries (t : Table α) : t.entries.Nodup :=
  t.nodup.of_map Prod.fst

/-- Tables are alike when they have the same entries, where alike values have the same image. -/
theorem alike_iff_perm {β : Type} {like : α → α → Bool} (f : α → β)
    (hlike : ∀ v ∈ t.values, ∀ w ∈ u.values, like v w = true ↔ f v = f w) :
    t.alike like u = true ↔ (t.map f).entries.Perm (u.map f).entries := by
  have hlength : ∀ t : Table α, (t.map f).entries.length = t.entries.length :=
    fun t => List.length_map _
  rw [alike, Bool.and_eq_true, beq_iff_eq, List.all_eq_true]
  constructor
  · rintro ⟨hsize, hall⟩
    refine (List.subperm_of_subset (t.map f).nodup_entries fun e he => ?_).perm_of_length_le ?_
    · obtain ⟨⟨name, v⟩, hv, rfl⟩ := List.mem_map.1 he
      have hfound := hall _ hv
      cases hget : u.get? name with
      | none => simp [hget] at hfound
      | some w =>
        have hw := mem_entries_of_get? hget
        simp only [hget] at hfound
        have hsame := (hlike v (List.mem_map_of_mem hv) w (List.mem_map_of_mem hw)).1 hfound
        exact List.mem_map.2 ⟨_, hw, Prod.ext rfl hsame.symm⟩
    · rw [hlength, hlength]
      exact hsize.ge
  · intro hperm
    refine ⟨by simpa [size, hlength] using hperm.length_eq, fun e he => ?_⟩
    obtain ⟨⟨name, w⟩, hw, hsame⟩ := List.mem_map.1 (hperm.mem_iff.1 (List.mem_map_of_mem he))
    obtain ⟨rfl, hf⟩ := Prod.mk.inj hsame
    have hget : u.get? e.1 = some w := lookup_of_mem u.nodup hw
    simp only [hget]
    exact (hlike e.2 (List.mem_map_of_mem he) w (List.mem_map_of_mem hw)).2 hf.symm

theorem map_id (t : Table α) : t.map id = t :=
  ext_entries (List.map_id t.entries)

/-- Where values are alike just if they are equal, alike tables have the same entries. -/
theorem alike_beq_iff_perm [BEq α] [LawfulBEq α] :
    t.alike (· == ·) u = true ↔ t.entries.Perm u.entries := by
  have h : t.alike (· == ·) u = true ↔ (t.map id).entries.Perm (u.map id).entries :=
    alike_iff_perm id fun _ _ _ _ => beq_iff_eq
  rwa [map_id, map_id] at h

/-- A digest depends on the digests of the entries only, in any order. -/
theorem digest_of_perm_map {item : String × α → Nat}
    (h : (t.entries.map item).Perm (u.entries.map item)) (combine : List Nat → Nat) :
    t.digest item combine = u.digest item combine := by
  have hsorted : ∀ ns : List Nat,
      (ns.mergeSort fun a b => a ≤ b).Pairwise fun a b => decide (a ≤ b) = true :=
    List.pairwise_mergeSort (by simpa using fun _ _ _ => Nat.le_trans) (by simpa using Nat.le_total)
  have hperm : ((t.entries.map item).mergeSort fun a b => a ≤ b).Perm
      ((u.entries.map item).mergeSort fun a b => a ≤ b) :=
    ((List.mergeSort_perm _ _).trans h).trans (List.mergeSort_perm _ _).symm
  rw [digest, digest, hperm.eq_of_pairwise ?_ (hsorted _) (hsorted _)]
  intro a b _ _ hab hba
  exact Nat.le_antisymm (of_decide_eq_true hab) (of_decide_eq_true hba)

theorem digest_of_perm (h : t.entries.Perm u.entries) (item : String × α → Nat)
    (combine : List Nat → Nat) : t.digest item combine = u.digest item combine :=
  digest_of_perm_map (h.map item) combine

end Table

/-! ## Sets of names -/

namespace NameSet

theorem mem_foldl_insert {a : String} (names : List String) (s : NameSet) :
    a ∈ (names.foldl insert s).names ↔ a ∈ s.names ∨ a ∈ names := by
  induction names generalizing s with
  | nil => simp
  | cons name names ih =>
    have hi : a ∈ (s.insert name).names ↔ a = name ∨ a ∈ s.names := mem_place
    rw [List.foldl_cons, ih, hi, List.mem_cons]
    tauto

theorem mem_ofList {a : String} {names : List String} :
    a ∈ (ofList names).names ↔ a ∈ names := by
  have h := mem_foldl_insert (a := a) names empty
  simpa [ofList, empty] using h

/-- A set is its members. -/
theorem ext_mem {s t : NameSet} (h : ∀ a, a ∈ s.names ↔ a ∈ t.names) : s = t := by
  have hnames : s.names = t.names := s.sorted.eq_of_mem_iff t.sorted h
  cases s
  cases t
  cases hnames
  rfl

end NameSet

/-! ## Reports -/

theorem License.alike?_self (l : Option License) : License.alike? l l = true := by
  cases l with
  | none => rfl
  | some l =>
    have hfeatures : l.features.alike (· == ·) l.features = true :=
      Table.alike_of_perm (fun _ => beq_self_eq_true _) (List.Perm.refl _)
    simp [License.alike?, License.alike, hfeatures]

/-- Web applications are alike to themselves, unless one of them does not equal itself. -/
theorem Webapps.alike_self {w : Webapps} (h : ∀ v ∈ w.others, v.equal v = true) :
    w.alike w = true := by
  have hitems : ∀ vs : List Value, (∀ v ∈ vs, v.equal v = true) →
      Value.equalItems vs vs = true := by
    intro vs
    induction vs with
    | nil => exact fun _ => by simp [Value.equalItems]
    | cons v vs ih =>
      intro hvs
      have hrest := ih fun v hv => hvs v (List.mem_cons_of_mem _ hv)
      simp [Value.equalItems, hvs v List.mem_cons_self, hrest]
  simp [alike, hitems w.others h]

/-- In what order counts are listed does not show in reports: they fail alike, or are alike and have
one digest. -/
theorem StaticData.report_of_perm (s : StaticData) {c c' m m' : Table Nat}
    (hc : c.entries.Perm c'.entries) (hm : m.entries.Perm m'.entries) (f : Facts) :
    (∃ e, s.report c m f = .error e ∧ s.report c' m' f = .error e) ∨
    ∃ r r', s.report c m f = .ok r ∧ s.report c' m' f = .ok r' ∧
      ((∀ v ∈ r.product.internals.webapps.others, v.equal v = true) → r.alike r' = true) ∧
      ∀ h : Hashing, h.report r = h.report r' := by
  have hcommands : c.counts.entries.Perm c'.counts.entries := hc.map _
  have hmetrics : m.counts.entries.Perm m'.counts.entries := hm.map _
  rw [report, report]
  cases requireText .installation s.installation with
  | error e => exact Or.inl ⟨e, rfl, rfl⟩
  | ok installation =>
    cases requireText .productName s.productName with
    | error e => exact Or.inl ⟨e, rfl, rfl⟩
    | ok name =>
      refine Or.inr ⟨_, _, rfl, rfl, fun hself => ?_, fun h => ?_⟩
      · have hc' := Table.alike_of_perm (fun v : Int => beq_self_eq_true v) hcommands
        have hm' := Table.alike_of_perm (fun v : Int => beq_self_eq_true v) hmetrics
        simp [Report.alike, Product.alike, Internals.alike, License.alike?_self, hc', hm',
          Webapps.alike_self hself]
      · simp only [Hashing.report, Hashing.product, Hashing.internals,
          Table.digest_of_perm hcommands, Table.digest_of_perm hmetrics]

end UsageMeter
