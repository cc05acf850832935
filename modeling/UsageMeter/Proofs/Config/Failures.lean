import UsageMeter.Proofs.Config.Settings

/-!
When settings cannot be read. There are four causes, and an earlier one hides the later ones: no
installation id, a text that is none, no product name, a switch without a truth word. Nothing else
that an environment says can make reading fail.
-/
namespace UsageMeter.Config
open UsageMeter.Text

/-! ## What a variable says -/

/-- The variable is absent or has no value, or there is only white space in its text. -/
def Environment.Lacks (env : Environment) (v : Variable) : Prop :=
  ∀ s, env v.name = some s → ∀ c ∈ s.toList, isBlank c = true

section Variables
variable {env : Environment} {v : Variable} {s t : String}

theorem text?_eq_none_iff : env.text? v = none ↔ env.Lacks v := by
  unfold Environment.text? Environment.Lacks
  cases env v.name with
  | none => simp
  | some s => simp [isBlankText]

theorem text?_eq_some_iff :
    env.text? v = some t ↔ ¬env.Lacks v ∧ ∃ s, env v.name = some s ∧ trim s = t := by
  rw [← text?_eq_none_iff]
  unfold Environment.text?
  cases env v.name with
  | none => simp
  | some s =>
    by_cases hb : isBlankText s = true
    · simp [hb]
    · simp [hb]

theorem require_of_lacks (h : env.Lacks v) : env.require v = .error (.missing v) := by
  rw [Environment.require, text?_eq_none_iff.2 h]

theorem require_of_text? (h : env.text? v = some t) : env.require v = .ok t :=
  require_eq_ok_iff.2 h

end Variables

/-! ## Truth words -/

def onWords : List String :=
  ["true", "1", "yes", "y", "on"]

def offWords : List String :=
  ["false", "0", "no", "n", "off"]

/-- The ten words that the switch knows. -/
def truthWords : List String :=
  onWords ++ offWords

/-- Every letter is that of the word or its capital. -/
def SameButCase (s word : String) : Prop :=
  List.Forall₂ (fun c w => c = w ∨ c = w.toUpper) s.toList word.toList

theorem toNat_toLower (c : Char) :
    c.toLower.toNat = if 65 ≤ c.toNat ∧ c.toNat ≤ 90 then c.toNat + 32 else c.toNat := by
  have hu : 'A'.val ≤ c.val ∧ c.val ≤ 'Z'.val ↔ 65 ≤ c.toNat ∧ c.toNat ≤ 90 := by
    simp only [UInt32.le_iff_toNat_le]
    rfl
  unfold Char.toLower
  by_cases h : 65 ≤ c.toNat ∧ c.toNat ≤ 90
  · rw [dif_pos (hu.2 h), if_pos h]
    change (c.val + 32).toNat = c.val.toNat + 32
    have hc : c.val.toNat ≤ 90 := h.2
    rw [UInt32.toNat_add]
    change (c.val.toNat + 32) % 2 ^ 32 = _
    omega
  · rw [dif_neg (fun hv => h (hu.1 hv)), if_neg h]

theorem toNat_toUpper (c : Char) :
    c.toUpper.toNat = if 97 ≤ c.toNat ∧ c.toNat ≤ 122 then c.toNat - 32 else c.toNat := by
  have hl : 'a'.val ≤ c.val ∧ c.val ≤ 'z'.val ↔ 97 ≤ c.toNat ∧ c.toNat ≤ 122 := by
    simp only [UInt32.le_iff_toNat_le]
    rfl
  unfold Char.toUpper
  by_cases h : 97 ≤ c.toNat ∧ c.toNat ≤ 122
  · rw [dif_pos (hl.2 h), if_pos h]
    change (c.val + 4294967264).toNat = c.val.toNat - 32
    have hc : 97 ≤ c.val.toNat := h.1
    have hc' : c.val.toNat ≤ 122 := h.2
    rw [UInt32.toNat_add]
    change (c.val.toNat + 4294967264) % 2 ^ 32 = _
    omega
  · rw [dif_neg (fun hv => h (hl.1 hv)), if_neg h]

theorem toLower_eq_iff {c w : Char} (hw : w.toLower = w) :
    c.toLower = w ↔ c = w ∨ c = w.toUpper := by
  have hn := congrArg Char.toNat hw
  simp only [← Char.toNat_inj, toNat_toLower, toNat_toUpper] at hn ⊢
  split_ifs at hn ⊢ <;> omega

theorem map_toLower_eq_iff {cs ws : List Char} (hw : ∀ w ∈ ws, w.toLower = w) :
    cs.map Char.toLower = ws ↔ List.Forall₂ (fun c w => c = w ∨ c = w.toUpper) cs ws := by
  induction cs generalizing ws with
  | nil => simp [eq_comm]
  | cons c cs ih =>
    cases ws with
    | nil => simp
    | cons w ws =>
      obtain ⟨hfirst, hrest⟩ := List.forall_mem_cons.1 hw
      rw [List.map_cons, List.cons.injEq, List.forall₂_cons, toLower_eq_iff hfirst, ih hrest]

theorem lower_of_mem_truthWords : ∀ word ∈ truthWords, ∀ w ∈ word.toList, w.toLower = w := by
  have hall : ∀ word ∈ truthWords, (word.toList.all fun w => w.toLower == w) = true := by decide
  intro word hm w hw
  simpa using List.all_eq_true.1 (hall word hm) w hw

/-- The trimmed text in lower case. -/
def lowered (s : String) : String :=
  String.ofList ((trim s).toList.map Char.toLower)

theorem truthWord?_eq (s : String) :
    truthWord? s = if lowered s ∈ onWords then some true
      else if lowered s ∈ offWords then some false else none :=
  rfl

theorem lowered_eq_iff {s word : String} (h : word ∈ truthWords) :
    lowered s = word ↔ SameButCase (trim s) word := by
  rw [SameButCase, ← map_toLower_eq_iff (lower_of_mem_truthWords word h), lowered,
    ← String.toList_inj, String.toList_ofList]

theorem truthWord?_eq_none_iff {s : String} :
    truthWord? s = none ↔ ∀ word ∈ truthWords, ¬SameButCase (trim s) word := by
  have hlisted : truthWord? s = none ↔ lowered s ∉ truthWords := by
    rw [truthWord?_eq, truthWords, List.mem_append]
    generalize lowered s = w
    by_cases hon : w ∈ onWords
    · simp [hon]
    · by_cases hoff : w ∈ offWords
      · simp [hon, hoff]
      · simp [hon, hoff]
  rw [hlisted]
  constructor
  · intro h word hm hs
    exact h ((lowered_eq_iff hm).2 hs ▸ hm)
  · intro h hm
    exact h _ hm ((lowered_eq_iff hm).1 rfl)

section Switch
variable {env env' : Environment} {e : SettingsError}

theorem switch_congr (h : env' Variable.enabled.name = env Variable.enabled.name) :
    env'.switch = env.switch := by
  rw [Environment.switch, Environment.switch, h]

theorem switch_of_empty (h : env Variable.enabled.name = some "") : env.switch = .ok false := by
  simp [Environment.switch, h]

theorem switch_of_none (h : env Variable.enabled.name = none) : env.switch = .ok false := by
  simp [Environment.switch, h]

/-- What the text of the switch has to be, if there is one. -/
theorem switch_eq_error_iff :
    env.switch = .error e ↔ ∃ s, env Variable.enabled.name = some s ∧ s ≠ "" ∧
      (∀ word ∈ truthWords, ¬SameButCase (trim s) word) ∧ e = .notTruthWord s := by
  unfold Environment.switch
  cases env Variable.enabled.name with
  | none => simp
  | some s =>
    by_cases hs : s = ""
    · simp [hs]
    · cases hw : truthWord? s with
      | none =>
        have hall := truthWord?_eq_none_iff.1 hw
        simpa [hs, hw, eq_comm] using fun _ => hall
      | some b =>
        have hno : ¬∀ word ∈ truthWords, ¬SameButCase (trim s) word := by
          rw [← truthWord?_eq_none_iff, hw]
          simp
        simp [hs, hw, hno]

end Switch

/-! ## The order of the causes -/

section Order
variable {env : Environment} {t name : String}

theorem settings_of_lacks_id (h : env.Lacks .installationId) :
    env.settings = .error (.missing .installationId) := by
  rw [Environment.settings, require_of_lacks h]
  rfl

theorem ok_bind {ε α β : Type} (a : α) (f : α → Except ε β) : (.ok a : Except ε α) >>= f = f a :=
  rfl

theorem settings_of_not_id (h : env.text? .installationId = some t)
    (ht : isInstallationId t = false) : env.settings = .error (.notInstallationId t) := by
  rw [Environment.settings, require_of_text? h, ok_bind, if_pos (by simp [ht])]
  rfl

theorem settings_of_lacks_name (h : env.text? .installationId = some t)
    (ht : isInstallationId t = true) (hn : env.Lacks .productName) :
    env.settings = .error (.missing .productName) := by
  rw [Environment.settings, require_of_text? h, require_of_lacks hn, ok_bind,
    if_neg (by simp [ht])]
  rfl

theorem settings_of_identity (h : env.text? .installationId = some t)
    (ht : isInstallationId t = true) (hn : env.text? .productName = some name) :
    env.settings = env.switch.map (env.settingsWith t name) := by
  rw [Environment.settings, require_of_text? h, require_of_text? hn, ok_bind,
    if_neg (by simp [ht])]
  cases env.switch <;> rfl

/-- How far reading comes before it gets to the switch. -/
theorem identity_cases (env : Environment) :
    env.Lacks .installationId ∨
    (∃ t, env.text? .installationId = some t ∧ isInstallationId t = false) ∨
    (∃ t, env.text? .installationId = some t ∧ isInstallationId t = true ∧
      env.Lacks .productName) ∨
    ∃ t name, env.text? .installationId = some t ∧ isInstallationId t = true ∧
      env.text? .productName = some name := by
  cases hid : env.text? .installationId with
  | none => exact Or.inl (text?_eq_none_iff.1 hid)
  | some t =>
    cases hvalid : isInstallationId t with
    | false => exact Or.inr (Or.inl ⟨t, rfl, hvalid⟩)
    | true =>
      cases hname : env.text? .productName with
      | none => exact Or.inr (Or.inr (Or.inl ⟨t, rfl, hvalid, text?_eq_none_iff.1 hname⟩))
      | some name => exact Or.inr (Or.inr (Or.inr ⟨t, name, rfl, hvalid, rfl⟩))

end Order

/-- The variable of the installation id has one, with or without white space around it. -/
def Environment.Identified (env : Environment) : Prop :=
  ¬env.Lacks .installationId ∧
    ∃ s, env Variable.installationId.name = some s ∧ isInstallationId (trim s) = true

theorem identified_iff {env : Environment} :
    env.Identified ↔ ∃ t, env.text? .installationId = some t ∧ isInstallationId t = true := by
  simp only [Environment.Identified, text?_eq_some_iff]
  constructor
  · rintro ⟨hid, s, hs, ht⟩
    exact ⟨trim s, ⟨hid, s, hs, rfl⟩, ht⟩
  · rintro ⟨t, ⟨hid, s, hs, rfl⟩, ht⟩
    exact ⟨hid, s, hs, ht⟩

/-- What makes reading fail, and with which error. Each cause counts only where none of those before
it does. -/
inductive Environment.Fails (env : Environment) : SettingsError → Prop
  | noInstallationId (h : env.Lacks .installationId) : env.Fails (.missing .installationId)
  | badInstallationId {s : String} (hid : ¬env.Lacks .installationId)
      (hs : env Variable.installationId.name = some s) (h : isInstallationId (trim s) = false) :
      env.Fails (.notInstallationId (trim s))
  | noProductName (hid : env.Identified) (h : env.Lacks .productName) :
      env.Fails (.missing .productName)
  | badSwitch {s : String} (hid : env.Identified) (hname : ¬env.Lacks .productName)
      (hs : env Variable.enabled.name = some s) (hne : s ≠ "")
      (h : ∀ word ∈ truthWords, ¬SameButCase (trim s) word) : env.Fails (.notTruthWord s)

theorem settings_of_fails {env : Environment} {e : SettingsError} (h : env.Fails e) :
    env.settings = .error e := by
  cases h with
  | noInstallationId h => exact settings_of_lacks_id h
  | badInstallationId hid hs h => exact settings_of_not_id (text?_eq_some_iff.2 ⟨hid, _, hs, rfl⟩) h
  | noProductName hid h =>
    obtain ⟨t, ht, hvalid⟩ := identified_iff.1 hid
    exact settings_of_lacks_name ht hvalid h
  | badSwitch hid hname hs hne h =>
    obtain ⟨t, ht, hvalid⟩ := identified_iff.1 hid
    obtain ⟨name, hn⟩ := Option.ne_none_iff_exists'.1 (fun hn => hname (text?_eq_none_iff.1 hn))
    rw [settings_of_identity ht hvalid hn, switch_eq_error_iff.2 ⟨_, hs, hne, h, rfl⟩]
    rfl

theorem fails_of_settings {env : Environment} {e : SettingsError} (h : env.settings = .error e) :
    env.Fails e := by
  obtain hid | ⟨t, ht, hvalid⟩ | ⟨t, ht, hvalid, hname⟩ | ⟨t, name, ht, hvalid, hname⟩ :=
    identity_cases env
  · rw [settings_of_lacks_id hid] at h
    cases h
    exact .noInstallationId hid
  · rw [settings_of_not_id ht hvalid] at h
    cases h
    obtain ⟨hid, s, hs, rfl⟩ := text?_eq_some_iff.1 ht
    exact .badInstallationId hid hs hvalid
  · rw [settings_of_lacks_name ht hvalid hname] at h
    cases h
    exact .noProductName (identified_iff.2 ⟨t, ht, hvalid⟩) hname
  · rw [settings_of_identity ht hvalid hname] at h
    cases hswitch : env.switch with
    | ok b =>
      rw [hswitch] at h
      cases h
    | error e' =>
      rw [hswitch] at h
      cases h
      obtain ⟨s, hs, hne, hw, rfl⟩ := switch_eq_error_iff.1 hswitch
      exact .badSwitch (identified_iff.2 ⟨t, ht, hvalid⟩) (text?_eq_some_iff.1 hname).1 hs hne hw

theorem settings_eq_error_iff {env : Environment} {e : SettingsError} :
    env.settings = .error e ↔ env.Fails e :=
  ⟨fails_of_settings, settings_of_fails⟩

/-- Three variables decide what fails. -/
theorem fails_of_agree {env env' : Environment} {e : SettingsError}
    (h : ∀ v ∈ [Variable.installationId, .productName, .enabled], env' v.name = env v.name)
    (he : env.Fails e) : env'.Fails e := by
  have hlacks : ∀ v ∈ [Variable.installationId, .productName, .enabled],
      (env'.Lacks v ↔ env.Lacks v) := by
    intro v hv
    rw [Environment.Lacks, h v hv]
    rfl
  have hidentified : env'.Identified ↔ env.Identified := by
    rw [Environment.Identified, hlacks _ (by simp), h _ (by simp)]
    rfl
  cases he with
  | noInstallationId hl => exact .noInstallationId ((hlacks _ (by simp)).2 hl)
  | badInstallationId hid hs hi =>
    exact .badInstallationId (fun hl => hid ((hlacks _ (by simp)).1 hl))
      ((h _ (by simp)).trans hs) hi
  | noProductName hid hl => exact .noProductName (hidentified.2 hid) ((hlacks _ (by simp)).2 hl)
  | badSwitch hid hname hs hne hw =>
    exact .badSwitch (hidentified.2 hid) (fun hl => hname ((hlacks _ (by simp)).1 hl))
      ((h _ (by simp)).trans hs) hne hw

/-! ## What the errors say -/

/-- The variable that an error is about or, for the switch, its text. -/
def SettingsError.subject : SettingsError → String
  | .missing v => v.name
  | .notInstallationId _ => Variable.installationId.name
  | .notTruthWord text => text

theorem exists_message_eq (e : SettingsError) :
    ∃ before after, e.message = before ++ e.subject ++ after := by
  cases e with
  | missing v => exact ⟨_, _, rfl⟩
  | notInstallationId t =>
    -- The name of the variable is kept closed, so that no step spells it out.
    have hquoted : ∀ name : String, "'" ++ name ++ "' must be a UUID, got '" ++ t ++ "'" =
        "'" ++ name ++ ("' must be a UUID, got '" ++ t ++ "'") := by
      intro name
      simp only [String.append_assoc]
    exact ⟨_, _, hquoted Variable.installationId.name⟩
  | notTruthWord t => exact ⟨_, _, rfl⟩

/-- Reading settings fails with an error exactly where that error's cause is the first one there is,
and otherwise succeeds; the message says which variable, or which text, is to blame. Whatever else
the environment says, in the other eight variables or elsewhere, makes no difference to this. -/
theorem settings_fail_in_order (env : Environment) :
    (∀ e, env.settings = .error e ↔ env.Fails e) ∧
    ((∃ c, env.settings = .ok c) ↔ ∀ e, ¬env.Fails e) ∧
    (∀ e : SettingsError, ∃ before after, e.message = before ++ e.subject ++ after) ∧
    ∀ env' : Environment,
      (∀ v ∈ [Variable.installationId, .productName, .enabled], env' v.name = env v.name) →
      ∀ e, env'.settings = .error e ↔ env.settings = .error e := by
  refine ⟨fun e => settings_eq_error_iff, ?_, exists_message_eq, ?_⟩
  · simp only [← settings_eq_error_iff]
    cases env.settings with
    | ok c => simp
    | error e => simp
  · intro env' h e
    rw [settings_eq_error_iff, settings_eq_error_iff]
    exact ⟨fails_of_agree fun v hv => (h v hv).symm, fails_of_agree h⟩

/-- Variables with two faults, of which the later one does not show. -/
def namelessEnvironment : Environment :=
  fun name =>
    [(Variable.installationId.name, " 12345678-1234-1234-1234-123456789abc"),
      (Variable.productName.name, "\t "), (Variable.enabled.name, "maybe")].lookup name

theorem nameless_environment_fails :
    let env' : Environment := fun name =>
      if name = Variable.webapps.name then some "cockpit" else namelessEnvironment name
    (∀ v ∈ [Variable.installationId, .productName, .enabled],
      env' v.name = namelessEnvironment v.name) ∧
    namelessEnvironment.Fails (.missing .productName) ∧
    env'.settings = .error (.missing .productName) := by
  intro env'
  have hagree : ∀ v ∈ [Variable.installationId, .productName, .enabled],
      env' v.name = namelessEnvironment v.name := by
    decide
  have hfails : namelessEnvironment.settings = .error (.missing .productName) := by
    rfl
  obtain ⟨hcause, -, -, hothers⟩ := settings_fail_in_order namelessEnvironment
  exact ⟨hagree, (hcause _).1 hfails, (hothers env' hagree _).2 hfails⟩

end UsageMeter.Config
