import UsageMeter.Proofs.Config.Failures

/-!
White space around what variables say. It makes no difference to any text, and a blank text counts
as none at all. The switch is the exception: it is missing when its text is empty, and white space
alone is taken for a truth word that is not known.
-/
namespace UsageMeter.Config
open UsageMeter.Text

/-! ## Changes to one variable -/

/-- The environment in which the text of one variable stands between two others. -/
def Environment.pad (env : Environment) (v : Variable) (before after : String) : Environment :=
  fun name => if name = v.name then (env name).map fun s => before ++ s ++ after else env name

/-- The environment in which one variable is missing. -/
def Environment.without (env : Environment) (v : Variable) : Environment :=
  fun name => if name = v.name then none else env name

def Variable.ofName? (name : String) : Option Variable :=
  [.installationId, .productName, .productVersion, .productEdition, .databaseVendor,
    .databaseVersion, .server, .jdkVendor, .jdkVersion, .enabled, .webapps].find? fun v =>
    v.name = name

theorem Variable.ofName?_name (v : Variable) : Variable.ofName? v.name = some v := by
  cases v <;> rfl

theorem Variable.name_inj {u v : Variable} : u.name = v.name ↔ u = v := by
  refine ⟨fun h => ?_, congrArg _⟩
  rw [← Option.some_inj, ← u.ofName?_name, ← v.ofName?_name, h]

section Texts
variable {env env' : Environment} {u v : Variable} {before after s : String}

theorem pad_name (env : Environment) (v : Variable) (before after : String) :
    env.pad v before after v.name = (env v.name).map fun s => before ++ s ++ after :=
  if_pos rfl

theorem pad_name_of_ne (h : u ≠ v) : env.pad v before after u.name = env u.name :=
  if_neg fun he => h (Variable.name_inj.1 he)

theorem without_name (env : Environment) (v : Variable) : env.without v v.name = none :=
  if_pos rfl

theorem without_name_of_ne (h : u ≠ v) : env.without v u.name = env u.name :=
  if_neg fun he => h (Variable.name_inj.1 he)

theorem trim_padded (hb : isBlankText before = true) (ha : isBlankText after = true) (s : String) :
    trim (before ++ s ++ after) = trim s := by
  rw [isBlankText, List.all_eq_true] at hb ha
  rw [trim, trim, String.toList_append, String.toList_append, strip_padded hb ha]

/-- The trimmed text is all that counts. -/
theorem text?_congr (h : (env' u.name).map trim = (env u.name).map trim) :
    env'.text? u = env.text? u := by
  have htext : ∀ env : Environment, env.text? u =
      ((env u.name).map trim).bind fun t => if t = "" then none else some t := by
    intro env
    unfold Environment.text?
    cases env u.name with
    | none => rfl
    | some s => simp [isBlankText_eq_true_iff]
  rw [htext env', htext env, h]

theorem text?_pad (hb : isBlankText before = true) (ha : isBlankText after = true) :
    (env.pad v before after).text? u = env.text? u := by
  refine text?_congr ?_
  by_cases h : u = v
  · subst h
    rw [pad_name, Option.map_map]
    exact Option.map_congr fun s _ => trim_padded hb ha s
  · rw [pad_name_of_ne h]

theorem text?_without (hs : env v.name = some s) (hb : isBlankText s = true) :
    (env.without v).text? u = env.text? u := by
  by_cases h : u = v
  · subst h
    have hlacks : env.Lacks u := by
      intro t ht
      rw [hs] at ht
      cases ht
      exact List.all_eq_true.1 hb
    have hmissing : (env.without u).Lacks u := by
      intro t ht
      rw [without_name] at ht
      cases ht
    rw [text?_eq_none_iff.2 hlacks, text?_eq_none_iff.2 hmissing]
  · rw [text?_congr (by rw [without_name_of_ne h])]

end Texts

/-! ## What reading makes of the texts -/

/-- Every variable says the same text, or none, in both environments. -/
def SameTexts (env env' : Environment) : Prop :=
  ∀ v, env'.text? v = env.text? v

theorem settingsWith_of_sameTexts {env env' : Environment} (h : SameTexts env env') :
    env'.settingsWith = env.settingsWith := by
  funext id name enabled
  simp only [Environment.settingsWith, Environment.nameList, h _]

/-- The texts decide whether reading fails before it comes to the switch, and what the settings are
but for the switch. -/
theorem settings_of_texts (env : Environment) :
    (∃ e, ∀ env', SameTexts env env' → env'.settings = .error e) ∨
    ∃ f : Bool → Settings, ∀ env', SameTexts env env' → env'.settings = env'.switch.map f := by
  have hlacks : ∀ {env'}, SameTexts env env' → ∀ {v}, env.Lacks v → env'.Lacks v := by
    intro env' h v hl
    rw [← text?_eq_none_iff] at hl ⊢
    rw [h v, hl]
  obtain hid | ⟨t, ht, hvalid⟩ | ⟨t, ht, hvalid, hname⟩ | ⟨t, name, ht, hvalid, hname⟩ :=
    identity_cases env
  · exact Or.inl ⟨_, fun env' h => settings_of_lacks_id (hlacks h hid)⟩
  · exact Or.inl ⟨_, fun env' h => settings_of_not_id ((h _).trans ht) hvalid⟩
  · exact Or.inl ⟨_, fun env' h =>
      settings_of_lacks_name ((h _).trans ht) hvalid (hlacks h hname)⟩
  · refine Or.inr ⟨env.settingsWith t name, fun env' h => ?_⟩
    rw [settings_of_identity ((h _).trans ht) hvalid ((h _).trans hname),
      settingsWith_of_sameTexts h]

/-- The same settings, or errors of the same kind. -/
def SameOutcome (x y : Except SettingsError Settings) : Prop :=
  x.mapError SettingsError.kind = y.mapError SettingsError.kind

section Outcomes
variable {env env' : Environment} {s : String}

theorem settings_eq_of_switch (h : SameTexts env env') (hs : env'.switch = env.switch) :
    env'.settings = env.settings := by
  obtain ⟨e, he⟩ | ⟨f, hf⟩ := settings_of_texts env
  · rw [he env' h, he env fun _ => rfl]
  · rw [hf env' h, hf env fun _ => rfl, hs]

theorem sameOutcome_of_switch (h : SameTexts env env')
    (hs : env'.switch.mapError SettingsError.kind = env.switch.mapError SettingsError.kind) :
    SameOutcome env'.settings env.settings := by
  have hmap : ∀ (f : Bool → Settings) (x : Except SettingsError Bool),
      (x.map f).mapError SettingsError.kind = (x.mapError SettingsError.kind).map f := by
    intro f x
    cases x <;> rfl
  obtain ⟨e, he⟩ | ⟨f, hf⟩ := settings_of_texts env
  · rw [SameOutcome, he env' h, he env fun _ => rfl]
  · rw [SameOutcome, hf env' h, hf env fun _ => rfl, hmap, hmap, hs]

/-- Where the switch is wrong in one environment and right in the other, reading the one fails at
the switch unless reading the other fails before that. -/
theorem settings_of_bad_switch (h : SameTexts env env') {e : SettingsError} {b : Bool}
    (hs' : env'.switch = .error e) (hs : env.switch = .ok b) :
    env'.settings = env.settings >>= fun _ => .error e := by
  obtain ⟨e', he⟩ | ⟨f, hf⟩ := settings_of_texts env
  · rw [he env' h, he env fun _ => rfl]
    rfl
  · rw [hf env' h, hf env fun _ => rfl, hs, hs']
    rfl

end Outcomes

/-! ## The switch -/

section Switch
variable {env env' : Environment} {before after s : String}

theorem toList_ne_nil_of_mem_truthWords : ∀ word ∈ truthWords, word.toList ≠ [] := by
  decide

theorem switch_of_blank (h : env Variable.enabled.name = some s) (hb : isBlankText s = true)
    (hne : s ≠ "") : env.switch = .error (.notTruthWord s) := by
  have hw : ∀ word ∈ truthWords, ¬SameButCase (trim s) word := by
    intro word hm hsame
    rw [isBlankText_eq_true_iff.1 hb] at hsame
    exact toList_ne_nil_of_mem_truthWords word hm (List.forall₂_nil_left_iff.1 hsame)
  exact switch_eq_error_iff.2 ⟨s, h, hne, hw, rfl⟩

/-- Where there is a text, white space around it changes at most the text of the error. -/
theorem mapError_switch_pad_text (hb : isBlankText before = true) (ha : isBlankText after = true)
    (hs : env Variable.enabled.name = some s) (hne : s ≠ "") :
    (env.pad .enabled before after).switch.mapError SettingsError.kind =
      env.switch.mapError SettingsError.kind := by
  have hs' : env.pad .enabled before after Variable.enabled.name = some (before ++ s ++ after) := by
    rw [pad_name, hs]
    rfl
  have hne' : before ++ s ++ after ≠ "" := by
    simp [hne]
  have hword : truthWord? (before ++ s ++ after) = truthWord? s := by
    rw [truthWord?_eq, truthWord?_eq, lowered, trim_padded hb ha, lowered]
  simp only [Environment.switch, hs, hs', if_neg hne, if_neg hne', hword]
  cases truthWord? s <;> rfl

/-- The one text whose meaning white space changes. -/
def Environment.EmptySwitch (env : Environment) (v : Variable) : Prop :=
  v = .enabled ∧ env v.name = some ""

theorem mapError_switch_pad {v : Variable} (hb : isBlankText before = true)
    (ha : isBlankText after = true) (h : ¬(env.EmptySwitch v ∧ before ++ after ≠ "")) :
    (env.pad v before after).switch.mapError SettingsError.kind =
      env.switch.mapError SettingsError.kind := by
  by_cases hv : v = .enabled
  · subst hv
    cases hs : env Variable.enabled.name with
    | none =>
      have hsame : env.pad .enabled before after Variable.enabled.name =
          env Variable.enabled.name := by
        rw [pad_name, hs]
        rfl
      rw [switch_congr hsame]
    | some s =>
      by_cases hne : s = ""
      · subst hne
        have hnone : before ++ after = "" := not_not.1 fun hne => h ⟨⟨rfl, hs⟩, hne⟩
        have hsame : env.pad .enabled before after Variable.enabled.name =
            env Variable.enabled.name := by
          rw [pad_name, hs]
          simpa using hnone
        rw [switch_congr hsame]
      · exact mapError_switch_pad_text hb ha hs hne
  · rw [switch_congr (pad_name_of_ne (Ne.symm hv))]

end Switch

/-! ## Reading -/

section Reading
variable {env : Environment} {v : Variable} {before after s : String}

theorem sameOutcome_pad (hb : isBlankText before = true) (ha : isBlankText after = true)
    (h : ¬(env.EmptySwitch v ∧ before ++ after ≠ "")) :
    SameOutcome (env.pad v before after).settings env.settings :=
  sameOutcome_of_switch (fun _ => text?_pad hb ha) (mapError_switch_pad hb ha h)

theorem settings_pad_emptySwitch (hb : isBlankText before = true) (ha : isBlankText after = true)
    (h : env.EmptySwitch v) (hne : before ++ after ≠ "") :
    (env.pad v before after).settings =
      env.settings >>= fun _ => .error (.notTruthWord (before ++ after)) := by
  obtain ⟨rfl, hs⟩ := h
  have hs' : env.pad .enabled before after Variable.enabled.name = some (before ++ after) := by
    rw [pad_name, hs]
    simp
  have hblank : isBlankText (before ++ after) = true := by
    rw [isBlankText, String.toList_append, List.all_append, ← isBlankText, ← isBlankText, hb, ha]
    rfl
  exact settings_of_bad_switch (fun _ => text?_pad hb ha) (switch_of_blank hs' hblank hne)
    (switch_of_empty hs)

theorem settings_of_blank (hs : env v.name = some s) (hb : isBlankText s = true)
    (h : ¬(v = .enabled ∧ s ≠ "")) : env.settings = (env.without v).settings := by
  refine settings_eq_of_switch (fun _ => (text?_without hs hb).symm) ?_
  by_cases hv : v = .enabled
  · subst hv
    have he : s = "" := not_not.1 fun hne => h ⟨rfl, hne⟩
    subst he
    rw [switch_of_empty hs, switch_of_none (without_name env .enabled)]
  · exact switch_congr (without_name_of_ne (Ne.symm hv)).symm

theorem settings_of_blank_switch (hs : env Variable.enabled.name = some s)
    (hb : isBlankText s = true) (hne : s ≠ "") :
    env.settings = (env.without .enabled).settings >>= fun _ => .error (.notTruthWord s) :=
  settings_of_bad_switch (fun _ => (text?_without hs hb).symm) (switch_of_blank hs hb hne)
    (switch_of_none (without_name env .enabled))

end Reading

/-- White space around the text of a variable makes no difference to the settings, or to the kind of
error, but for one case: an empty switch, which counts as missing, turns into a truth word that is
not known. In general a blank text counts as missing, and a switch with white space alone makes
reading fail, unless it fails before that. -/
theorem padding_matters_to_empty_switch_only (env : Environment) (v : Variable)
    {before after : String} (hb : isBlankText before = true) (ha : isBlankText after = true) :
    (¬(env.EmptySwitch v ∧ before ++ after ≠ "") →
      SameOutcome (env.pad v before after).settings env.settings) ∧
    (env.EmptySwitch v → before ++ after ≠ "" →
      (env.pad v before after).settings =
        env.settings >>= fun _ => .error (.notTruthWord (before ++ after))) ∧
    ∀ s, env v.name = some s → isBlankText s = true →
      (¬(v = .enabled ∧ s ≠ "") → env.settings = (env.without v).settings) ∧
      (v = .enabled → s ≠ "" →
        env.settings = (env.without v).settings >>= fun _ => .error (.notTruthWord s)) := by
  refine ⟨sameOutcome_pad hb ha, settings_pad_emptySwitch hb ha, fun s hs hblank => ?_⟩
  refine ⟨settings_of_blank hs hblank, ?_⟩
  rintro rfl hne
  exact settings_of_blank_switch hs hblank hne

/-- Variables of an engine whose switch was left empty. -/
def halfFilledEnvironment : Environment :=
  fun name =>
    [(Variable.installationId.name, "12345678-1234-1234-1234-123456789abc"),
      (Variable.productName.name, "Engine"), (Variable.server.name, ""),
      (Variable.enabled.name, "")].lookup name

theorem padded_switch_fails :
    isBlankText " " = true ∧ halfFilledEnvironment.EmptySwitch .enabled ∧
    (∃ c, halfFilledEnvironment.settings = .ok c ∧ c.enabled = false) ∧
    (halfFilledEnvironment.pad .enabled " " "").settings = .error (.notTruthWord " ") ∧
    SameOutcome (halfFilledEnvironment.pad .server " " "\u2003").settings
      halfFilledEnvironment.settings := by
  have hc : halfFilledEnvironment.settings = .ok ⟨"12345678-1234-1234-1234-123456789abc", "Engine",
      "", "community", "", "", none, "", "", false, []⟩ := by
    rfl
  have hempty : halfFilledEnvironment.EmptySwitch .enabled := ⟨rfl, rfl⟩
  have hblank : isBlankText " " = true := by decide
  obtain ⟨-, hswitch, -⟩ := padding_matters_to_empty_switch_only halfFilledEnvironment .enabled
    hblank (rfl : isBlankText "" = true)
  obtain ⟨hserver, -, -⟩ := padding_matters_to_empty_switch_only halfFilledEnvironment .server
    hblank (by decide : isBlankText "\u2003" = true)
  refine ⟨hblank, hempty, ⟨_, hc, rfl⟩, ?_, hserver fun h => ?_⟩
  · rw [hswitch hempty (by decide), hc]
    rfl
  · exact absurd h.1.1 (by decide)

end UsageMeter.Config
