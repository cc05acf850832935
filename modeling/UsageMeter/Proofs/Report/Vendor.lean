import UsageMeter.Proofs.Text.Strip
import UsageMeter.Report.Basic

/-!
The vendor of a server. It is meant to be the run of letters and white space with which the
information text begins, but the first such run is taken wherever it begins. The two differ on the
texts that begin with something else and have a letter in the first run that follows.
-/
namespace UsageMeter
open UsageMeter.Text

theorem Component.version_ofServerInfo (info : String) :
    (Component.ofServerInfo info).version = info := by
  simp only [Component.ofServerInfo]
  split
  · rfl
  · split <;> rfl

theorem occursIn_iff {part cs : List Char} : occursIn part cs = true ↔ part <:+: cs := by
  induction cs with
  | nil => simp [occursIn]
  | cons c cs ih =>
    rw [occursIn, Bool.or_eq_true, List.isPrefixOf_iff_prefix, ih, List.infix_cons_iff]

/-- The first run of vendor characters, with what comes before and after it. A text without vendor
characters comes before an empty run. -/
structure FirstRun (cs before run after : List Char) : Prop where
  whole : cs = before ++ (run ++ after)
  others : ∀ c ∈ before, isVendorChar c = false
  vendorChars : ∀ c ∈ run, isVendorChar c = true
  longest : ∀ c ∈ after.head?, isVendorChar c = false
  absent : run = [] → after = []

theorem firstRun_iff {cs before run after : List Char} :
    FirstRun cs before run after ↔
      cs = before ++ (run ++ after) ∧ (before.all fun c => !isVendorChar c) = true ∧
        run.all isVendorChar = true ∧ (after.head?.all fun c => !isVendorChar c) = true ∧
        (run = [] → after = []) := by
  simp only [List.all_eq_true, Option.all_eq_true, Bool.not_eq_true']
  exact ⟨fun ⟨hw, ho, hv, hl, ha⟩ => ⟨hw, ho, hv, hl, ha⟩,
    fun ⟨hw, ho, hv, hl, ha⟩ => ⟨hw, ho, hv, hl, ha⟩⟩

instance {cs before run after : List Char} : Decidable (FirstRun cs before run after) :=
  decidable_of_iff' _ firstRun_iff

theorem exists_firstRun (cs : List Char) : ∃ before run after, FirstRun cs before run after := by
  have hstart : ∀ c ∈ (cs.dropWhile fun c => !isVendorChar c).head?, isVendorChar c = true := by
    intro c hc
    simpa [Option.mem_def.1 hc] using List.head?_dropWhile_not (fun c => !isVendorChar c) cs
  generalize hd : (cs.dropWhile fun c => !isVendorChar c) = start at hstart
  refine ⟨cs.takeWhile fun c => !isVendorChar c, start.takeWhile isVendorChar,
    start.dropWhile isVendorChar, ?_, ?_, fun c => List.mem_takeWhile_imp, ?_, ?_⟩
  · rw [List.takeWhile_append_dropWhile, ← hd, List.takeWhile_append_dropWhile]
  · intro c hc
    simpa using List.mem_takeWhile_imp hc
  · intro c hc
    simpa [Option.mem_def.1 hc] using List.head?_dropWhile_not isVendorChar start
  · cases start with
    | nil => simp
    | cons c cs => simp [hstart c rfl]

section Runs
variable {info : String} {cs before run after : List Char}

theorem FirstRun.dropWhile (h : FirstRun cs before run after) :
    (cs.dropWhile fun c => !isVendorChar c) = run ++ after := by
  have hbefore : ∀ c ∈ before, (!isVendorChar c) = true := fun c hc => by simp [h.others c hc]
  rw [h.whole, List.dropWhile_append_of_pos hbefore]
  cases hr : run with
  | nil => simp [h.absent hr]
  | cons c run => simp [h.vendorChars c (by simp [hr])]

theorem FirstRun.takeWhile (h : FirstRun cs before run after) :
    (run ++ after).takeWhile isVendorChar = run := by
  rw [List.takeWhile_append_of_pos h.vendorChars]
  cases ha : after with
  | nil => simp
  | cons c after => simp [h.longest c (by simp [ha])]

/-- The run with which the text begins is the first run, or there is none. -/
theorem FirstRun.leading (h : FirstRun cs before run after) :
    cs.takeWhile isVendorChar = if before = [] then run else [] := by
  cases hb : before with
  | nil =>
    rw [h.whole, hb, List.nil_append, h.takeWhile, if_pos rfl]
  | cons c before => simp [h.whole, hb, h.others c (by simp [hb])]

/-- Every text that names WildFly has vendor characters. -/
theorem FirstRun.not_wildFly (h : FirstRun cs before [] after) : ¬"WildFly".toList <:+: cs := by
  intro hw
  have hm : 'W' ∈ before := by
    have hcs : cs = before := by simp [h.whole, h.absent rfl]
    exact hcs ▸ hw.subset (by decide)
  exact absurd (h.others _ hm) (by decide)

theorem FirstRun.ofServerInfo_of_wildFly (h : FirstRun info.toList before run after)
    (hw : "WildFly".toList <:+: info.toList) :
    Component.ofServerInfo info = ⟨"WildFly", info⟩ := by
  have hne : run ≠ [] := by
    rintro rfl
    exact h.not_wildFly hw
  simp only [Component.ofServerInfo, h.dropWhile]
  rw [if_neg (by simp [hne]), if_pos (occursIn_iff.2 hw)]

theorem FirstRun.ofServerInfo (h : FirstRun info.toList before run after)
    (hw : ¬"WildFly".toList <:+: info.toList) :
    Component.ofServerInfo info = ⟨trim (String.ofList run), info⟩ := by
  simp only [Component.ofServerInfo, h.dropWhile, h.takeWhile]
  by_cases hrun : run = []
  · rw [hrun, h.absent hrun]
    rfl
  · rw [if_neg (by simp [hrun]), if_neg fun ho => hw (occursIn_iff.1 ho)]

end Runs

/-- The vendor that is meant: a text that does not begin with a vendor character has none. -/
inductive MeantVendor (info : String) : String → Prop
  | wildFly (h : "WildFly".toList <:+: info.toList) : MeantVendor info "WildFly"
  | leading (h : ¬"WildFly".toList <:+: info.toList) :
      MeantVendor info (trim (String.ofList (info.toList.takeWhile isVendorChar)))

theorem MeantVendor.eq {info vendor : String} (h : MeantVendor info vendor)
    (hw : ¬"WildFly".toList <:+: info.toList) :
    vendor = trim (String.ofList (info.toList.takeWhile isVendorChar)) := by
  cases h with
  | wildFly h => exact absurd h hw
  | leading _ => rfl

theorem trim_ofList_eq_empty_iff {cs : List Char} :
    trim (String.ofList cs) = "" ↔ ∀ c ∈ cs, isBlank c = true := by
  rw [← strip_eq_nil_iff, trim, String.toList_ofList, ← String.toList_inj, String.toList_ofList]
  rfl

theorem FirstRun.meantVendor_iff {info : String} {before run after : List Char}
    (h : FirstRun info.toList before run after) :
    MeantVendor info (Component.ofServerInfo info).vendor ↔
      "WildFly".toList <:+: info.toList ∨ before = [] ∨ ∀ c ∈ run, isBlank c = true := by
  by_cases hw : "WildFly".toList <:+: info.toList
  · rw [h.ofServerInfo_of_wildFly hw]
    exact iff_of_true (.wildFly hw) (Or.inl hw)
  · have hmeant : MeantVendor info (Component.ofServerInfo info).vendor ↔
        trim (String.ofList run) = trim (String.ofList (if before = [] then run else [])) := by
      rw [h.ofServerInfo hw, ← h.leading]
      constructor
      · intro hm
        exact hm.eq hw
      · intro he
        rw [he]
        exact .leading hw
    rw [hmeant, or_iff_right hw]
    by_cases hb : before = []
    · rw [if_pos hb]
      exact iff_of_true rfl (Or.inl hb)
    · have hempty : trim (String.ofList []) = "" := rfl
      rw [if_neg hb, or_iff_right hb, hempty, trim_ofList_eq_empty_iff]

/-- The version of a server is its whole information text, and its vendor is WildFly if the text
names it, and otherwise the first run of vendor characters without surrounding white space. This is
the vendor that is meant exactly if WildFly is named, the run comes first in the text, or there are
no letters in it. -/
theorem vendor_is_first_run (info : String) :
    (∃ before run after, FirstRun info.toList before run after) ∧
    ∀ before run after, FirstRun info.toList before run after →
      (Component.ofServerInfo info).version = info ∧
      ("WildFly".toList <:+: info.toList → (Component.ofServerInfo info).vendor = "WildFly") ∧
      (¬"WildFly".toList <:+: info.toList →
        (Component.ofServerInfo info).vendor = trim (String.ofList run)) ∧
      (MeantVendor info (Component.ofServerInfo info).vendor ↔
        "WildFly".toList <:+: info.toList ∨ before = [] ∨ ∀ c ∈ run, isBlank c = true) := by
  refine ⟨exists_firstRun info.toList, fun before run after h => ?_⟩
  refine ⟨Component.version_ofServerInfo info, ?_, ?_, h.meantVendor_iff⟩
  · intro hw
    rw [h.ofServerInfo_of_wildFly hw]
  · intro hw
    rw [h.ofServerInfo hw]

theorem tomcat_found_after_version :
    FirstRun "10.0.1 Tomcat".toList "10.0.1".toList " Tomcat".toList [] ∧
    Component.ofServerInfo "10.0.1 Tomcat" = ⟨"Tomcat", "10.0.1 Tomcat"⟩ ∧
    MeantVendor "10.0.1 Tomcat" "" ∧
    ¬MeantVendor "10.0.1 Tomcat" (Component.ofServerInfo "10.0.1 Tomcat").vendor := by
  have hrun : FirstRun "10.0.1 Tomcat".toList "10.0.1".toList " Tomcat".toList [] := by
    decide
  have hw : ¬"WildFly".toList <:+: "10.0.1 Tomcat".toList := by
    rw [← occursIn_iff]
    decide
  obtain ⟨-, hall⟩ := vendor_is_first_run "10.0.1 Tomcat"
  obtain ⟨-, -, -, hmeant⟩ := hall _ _ _ hrun
  refine ⟨hrun, by decide +kernel, .leading hw, fun hm => ?_⟩
  obtain hnamed | hfirst | hblank := hmeant.1 hm
  · exact hw hnamed
  · exact absurd hfirst (by decide)
  · exact absurd (hblank 'T' (by decide)) (by decide)

end UsageMeter
