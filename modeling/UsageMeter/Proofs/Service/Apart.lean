import UsageMeter.Proofs.Service.Deeds

/-!
Static data apart. What is set on one service stays with it: everything else is done, and gives what
it gives, as if it had not been set.
-/
namespace UsageMeter

def Site.Op.on? (k : Nat) : Op → Option Service.Op
  | .service j op => if j = k then some op else none
  | _ => none

namespace Deed

/-- The operation that a deed performs on the service with a number. -/
def on? (k : Nat) : Deed → Option Service.Op
  | .shared (.service j) op => Site.Op.on? k (.service j op)
  | .other op => op.on? k
  | _ => none

def setsStatic (k : Nat) (d : Deed) : Bool :=
  (d.on? k).any Service.Op.setsStatic

/-- The deed sets the static data of the service, or its answer may depend on that. -/
def isPrivate (k : Nat) (d : Deed) : Bool :=
  (d.on? k).any fun op => !op.isShared

/-- What a deed gave. -/
def Done.given (e : Done) : Deed × Option Site.Answer :=
  (e.deed, e.answer)

/-- What the deeds gave that are not for the service alone. -/
def givenBeside (p : Parts) (k : Nat) (deeds : List Deed) (site : Site) :
    List (Deed × Option Site.Answer) :=
  ((trace p deeds site).filter fun e => !e.deed.isPrivate k).map Done.given

end Deed

theorem Service.step_withStatic {op : Op} (ho : op.isShared = true) (h : Hub) (s : Service)
    (d : StaticData) :
    (step op h (s.withStatic d)).hub = (step op h s).hub ∧
      (step op h (s.withStatic d)).answer = (step op h s).answer := by
  cases op with
  | setLicense _ | setServer _ | setStatic _ | report => simp [Op.isShared] at ho
  | _ => exact ⟨rfl, rfl⟩

namespace Site

/-- The site with other static data for one service. -/
def withStatic (site : Site) (k : Nat) (d : StaticData) : Site :=
  ⟨site.hub, site.services.modify k fun s => s.withStatic d⟩

variable {site : Site} {k : Nat}

theorem withStatic_self {s : Service} (hs : site.services[k]? = some s) :
    site.withStatic k s.static = site := by
  rw [withStatic, modify_of_getElem? hs]
  exact congrArg (Site.mk site.hub) (set_of_getElem? hs)

theorem services_withStatic_of_ne {j : Nat} (hj : j ≠ k) (d : StaticData) :
    (site.withStatic k d).services[j]? = site.services[j]? :=
  List.getElem?_modify_ne _ _ hj.symm

theorem static_withStatic (hk : k < site.services.length) (d : StaticData) :
    ((site.withStatic k d).services[k]?).map Service.static = some d := by
  simp [withStatic, hk, Service.withStatic]

/-- To any operation that is not for it alone, the static data of a service is nothing. -/
theorem step_withStatic (site : Site) (k : Nat) (d : StaticData) (op : Op)
    (ho : ∀ sop, op.on? k = some sop → sop.isShared = true) :
    (step op (site.withStatic k d)).answer = (step op site).answer ∧
      (step op (site.withStatic k d)).after = (step op site).after.withStatic k d := by
  cases op with
  | service j sop =>
    by_cases hj : k = j
    · subst hj
      have hsop : sop.isShared = true := ho sop (by simp [Op.on?])
      have hget : (site.withStatic k d).services[k]? =
          (site.services[k]?).map fun s => s.withStatic d := by
        simp [withStatic]
      rw [step, step, hget]
      cases hs : site.services[k]? with
      | none => exact ⟨rfl, rfl⟩
      | some s =>
        obtain ⟨hhub, hanswer⟩ := Service.step_withStatic hsop site.hub s d
        refine ⟨congrArg Answer.service hanswer, ?_⟩
        simp only [Option.map_some, Service.step_of_isShared hsop, hhub, withStatic,
          List.set_eq_modify, List.modify_modify_eq]
        rfl
    · rw [step, step, services_withStatic_of_ne (Ne.symm hj)]
      cases site.services[j]? with
      | none => exact ⟨rfl, rfl⟩
      | some s =>
        refine ⟨rfl, ?_⟩
        simp only [withStatic, List.set_eq_modify, List.modify_modify_ne _ _ _ hj]
  | registry _ _ | facts _ _ | collect _ | observe _ => exact ⟨rfl, rfl⟩

theorem run_withStatic {ops : List Op} (ho : ∀ op ∈ ops, op.on? k = none) (site : Site)
    (d : StaticData) :
    (trace ops (site.withStatic k d)).map Performed.answer =
        (trace ops site).map Performed.answer ∧
      run ops (site.withStatic k d) = (run ops site).withStatic k d := by
  induction ops generalizing site with
  | nil => exact ⟨rfl, rfl⟩
  | cons op ops ih =>
    have hop : op.on? k = none := ho op (by simp)
    obtain ⟨hanswer, hafter⟩ := step_withStatic site k d op (by simp [hop])
    obtain ⟨hanswers, hrun⟩ := ih (fun o hm => ho o (by simp [hm])) (step op site).after
    rw [run, run, trace, trace, List.map_cons, List.map_cons, hanswer, hafter, hanswers, hrun]
    exact ⟨rfl, rfl⟩

theorem addService_withStatic (hk : k < site.services.length) (d static : StaticData)
    (commands metrics facts : Option Nat) :
    (site.withStatic k d).addService static commands metrics facts =
      (site.addService static commands metrics facts).withStatic k d := by
  rw [addService, addService]
  simp only [withStatic, modify_append_of_lt hk]

/-- An operation for one service alone sets its static data at most. -/
theorem step_not_isShared (hk : k < site.services.length) (d : StaticData) {sop : Service.Op}
    (ho : sop.isShared = false) :
    (step (.service k sop) (site.withStatic k d)).after =
      site.withStatic k (sop.onStatic d) := by
  obtain ⟨s, hs⟩ : ∃ s, site.services[k]? = some s := ⟨_, List.getElem?_eq_getElem hk⟩
  have hget : (site.withStatic k d).services[k]? = some (s.withStatic d) := by
    simp [withStatic, hs]
  have hhub : (Service.step sop site.hub (s.withStatic d)).hub = site.hub := by
    cases sop with
    | setLicense _ | setServer _ | setStatic _ => rfl
    | report => exact (Service.step_report site.hub _).1
    | _ => simp [Service.Op.isShared] at ho
  rw [step, hget]
  change Site.mk (Service.step sop site.hub (s.withStatic d)).hub
    ((site.services.modify k fun s => s.withStatic d).set k
      (Service.step sop site.hub (s.withStatic d)).service) = _
  rw [hhub, Service.step_service, modify_of_getElem? hs, List.set_set, withStatic,
    modify_of_getElem? hs]
  rfl

end Site

namespace Deed
variable {p : Parts} {k : Nat}

theorem on?_direct (op : Service.Op) : ∀ o ∈ op.direct p, o.on? k = none := by
  cases op <;> simp [Service.Op.direct, Site.Op.on?]

/-- To a deed that is not for one service alone, the static data of that is nothing. -/
theorem perform_withStatic {d : Deed} {site : Site} (hk : k < site.services.length)
    (hd : d.isPrivate k = false) (static : StaticData) :
    (d.perform p (site.withStatic k static)).given = (d.perform p site).given ∧
      (d.perform p (site.withStatic k static)).after =
        (d.perform p site).after.withStatic k static := by
  have hshared : ∀ sop, d.on? k = some sop → sop.isShared = true := by
    intro sop hsop
    simpa [isPrivate, hsop] using hd
  cases d with
  | shared door op =>
    cases door with
    | service j =>
      obtain ⟨hanswer, hafter⟩ := Site.step_withStatic site k static (.service j op) hshared
      exact ⟨by simp only [perform, Done.given, hanswer], hafter⟩
    | direct =>
      obtain ⟨hanswers, hrun⟩ := Site.run_withStatic (on?_direct (p := p) op) site static
      exact ⟨by simp only [perform, Done.given, Site.lastTold, hanswers], hrun⟩
  | other op =>
    obtain ⟨hanswer, hafter⟩ := Site.step_withStatic site k static op hshared
    exact ⟨by simp only [perform, Done.given, hanswer], hafter⟩
  | make made commands metrics facts =>
    refine ⟨rfl, ?_⟩
    exact Site.addService_withStatic hk static made commands metrics facts

theorem after_of_on? {d : Deed} {sop : Service.Op} (hd : d.on? k = some sop) (site : Site) :
    (d.perform p site).after = (site.step (.service k sop)).after := by
  have hservice : ∀ {j : Nat} {op : Service.Op}, Site.Op.on? k (.service j op) = some sop →
      j = k ∧ op = sop := by
    intro j op h
    by_cases hj : j = k <;> simp_all [Site.Op.on?]
  cases d with
  | shared door op =>
    cases door with
    | service j =>
      obtain ⟨rfl, rfl⟩ := hservice hd
      rfl
    | direct => simp [on?] at hd
  | other op =>
    cases op with
    | service j op =>
      obtain ⟨rfl, rfl⟩ := hservice hd
      rfl
    | _ => simp [on?, Site.Op.on?] at hd
  | make _ _ _ _ => simp [on?] at hd

theorem length_services_perform (p : Parts) (d : Deed) {site : Site}
    (hk : k < site.services.length) : k < (d.perform p site).after.services.length := by
  have hle := (d.prefix_parts p site).length_le
  rw [List.length_map, List.length_map] at hle
  exact Nat.lt_of_lt_of_le hk hle

theorem length_services_after (deeds : List Deed) {site : Site} (hk : k < site.services.length) :
    k < (after p deeds site).services.length := by
  induction deeds generalizing site with
  | nil => exact hk
  | cons d deeds ih => exact ih (length_services_perform p d hk)

theorem onStatic_of_isShared {op : Service.Op} (ho : op.isShared = true) (d : StaticData) :
    op.onStatic d = d := by
  cases op with
  | setLicense _ | setServer _ | setStatic _ => simp [Service.Op.isShared] at ho
  | _ => rfl

theorem deed_perform (p : Parts) (d : Deed) (site : Site) : (d.perform p site).deed = d := by
  cases d with
  | shared door op => cases door <;> rfl
  | other _ | make _ _ _ _ => rfl

theorem givenBeside_cons (d : Deed) (deeds : List Deed) (site : Site) :
    givenBeside p k (d :: deeds) site =
      if d.isPrivate k then givenBeside p k deeds (d.perform p site).after
      else (d.perform p site).given :: givenBeside p k deeds (d.perform p site).after := by
  rw [givenBeside, trace, List.filter_cons, deed_perform]
  cases d.isPrivate k <;> rfl

/-- A deed that is for one service alone sets its static data or asks it for a report. -/
theorem private_cases {d : Deed} (hd : d.isPrivate k = true) :
    ∃ sop, d.on? k = some sop ∧ sop.isShared = false ∧
      (d.setsStatic k = true ∨ d.setsStatic k = false ∧ sop = .report) := by
  rw [isPrivate, Option.any_eq_true] at hd
  obtain ⟨sop, hsop, hns⟩ := hd
  have hns' : sop.isShared = false := by simpa using hns
  refine ⟨sop, hsop, hns', ?_⟩
  rw [setsStatic, hsop]
  cases sop <;> simp_all [Service.Op.isShared, Service.Op.setsStatic]

theorem setsStatic_of_not_isPrivate {d : Deed} (hd : d.isPrivate k = false) :
    d.setsStatic k = false ∧
      ∀ static, (d.on? k).toList.foldl Service.Op.onStatic static = static := by
  rw [isPrivate] at hd
  rw [setsStatic]
  cases hsop : d.on? k with
  | none => exact ⟨rfl, fun _ => rfl⟩
  | some sop =>
    have hs : sop.isShared = true := by simpa [hsop] using hd
    refine ⟨?_, fun static => onStatic_of_isShared hs static⟩
    cases sop <;> simp_all [Service.Op.isShared, Service.Op.setsStatic]

/-- Deeds among which some set the static data of a service are the same deeds without these, beside
the service's own static data. The induction carries two sites that differ in that alone. -/
theorem splits_static (deeds : List Deed) {site : Site} (hk : k < site.services.length)
    (static : StaticData) :
    let kept := deeds.filter fun d => !d.setsStatic k
    after p deeds (site.withStatic k static) =
      (after p kept site).withStatic k
        ((deeds.filterMap (on? k)).foldl Service.Op.onStatic static) ∧
    givenBeside p k deeds (site.withStatic k static) = givenBeside p k kept site := by
  induction deeds generalizing site static with
  | nil => exact ⟨rfl, rfl⟩
  | cons d deeds ih =>
    intro kept
    have hown : (d :: deeds).filterMap (on? k) = (d.on? k).toList ++ deeds.filterMap (on? k) := by
      cases h : d.on? k <;> simp [h]
    rw [hown, List.foldl_append, after, givenBeside_cons]
    cases hp : d.isPrivate k with
    | false =>
      obtain ⟨hgiven, hafter⟩ := perform_withStatic (p := p) hk hp static
      obtain ⟨hsets, hfold⟩ := setsStatic_of_not_isPrivate hp
      obtain ⟨hrun, hbeside⟩ := ih (length_services_perform p d hk) static
      have hkept : kept = d :: deeds.filter fun d => !d.setsStatic k :=
        List.filter_cons_of_pos (by simp [hsets])
      rw [hkept, after, givenBeside_cons, hp, hfold, hgiven, hafter, hrun, hbeside]
      exact ⟨rfl, rfl⟩
    | true =>
      obtain ⟨sop, hsop, hns, hcases⟩ := private_cases hp
      have hafter : (d.perform p (site.withStatic k static)).after =
          site.withStatic k (sop.onStatic static) := by
        rw [after_of_on? hsop]
        exact Site.step_not_isShared hk static hns
      obtain ⟨hrun, hbeside⟩ := ih hk (sop.onStatic static)
      rw [hafter, hrun, hsop, if_pos rfl, hbeside]
      obtain hsets | ⟨hsets, rfl⟩ := hcases
      · have hkept : kept = deeds.filter fun d => !d.setsStatic k :=
          List.filter_cons_of_neg (by simp [hsets])
        rw [hkept]
        exact ⟨rfl, rfl⟩
      · have hsame : (d.perform p site).after = site := by
          rw [after_of_on? hsop]
          exact (Site.step_of_isRead rfl site).1
        have hkept : kept = d :: deeds.filter fun d => !d.setsStatic k :=
          List.filter_cons_of_pos (by simp [hsets])
        rw [hkept, after, givenBeside_cons, hp, hsame]
        exact ⟨rfl, rfl⟩

end Deed
end UsageMeter
