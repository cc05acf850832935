import Mathlib.Data.List.Nodup
import UsageMeter.Config.Settings
import UsageMeter.Proofs.Text.Split

/-!
Settings written back to variables. Whatever was read is trimmed, split and without repetitions, and
settings in this form are read back from the variables that say what they say.
-/
namespace UsageMeter.Config
open UsageMeter.Text

/-! ## Texts -/

/-- Trimming leaves the text as it is, and it is not empty. -/
def Trimmed (s : String) : Prop :=
  s ≠ "" ∧ Bare isBlank s.toList

/-- The text of a variable that may be missing. -/
def EmptyOrTrimmed (s : String) : Prop :=
  s = "" ∨ Trimmed s

theorem isBlankText_eq_true_iff {s : String} : isBlankText s = true ↔ trim s = "" := by
  rw [isBlankText, List.all_eq_true, ← strip_eq_nil_iff, trim, ← String.toList_inj,
    String.toList_ofList]
  rfl

theorem bare_trim (s : String) : Bare isBlank (trim s).toList := by
  rw [trim, String.toList_ofList]
  exact bare_strip isBlank s.toList

theorem Trimmed.trim_eq {s : String} (h : Trimmed s) : trim s = s := by
  rw [trim, strip_eq_self_iff.2 h.2, String.ofList_toList]

section Variables
variable {env : Environment} {v : Variable} {s : String}

theorem trimmed_of_text? (h : env.text? v = some s) : Trimmed s := by
  unfold Environment.text? at h
  split at h
  · cases h
  · split at h
    · cases h
    · next hb =>
      cases h
      exact ⟨fun he => hb (isBlankText_eq_true_iff.2 he), bare_trim _⟩

theorem text?_of_trimmed (h : env v.name = some s) (hs : Trimmed s) : env.text? v = some s := by
  have hb : ¬isBlankText s = true := by
    rw [isBlankText_eq_true_iff, hs.trim_eq]
    exact hs.1
  simp only [Environment.text?, h]
  rw [if_neg hb, hs.trim_eq]

theorem text?_of_empty (h : env v.name = some "") : env.text? v = none := by
  simp only [Environment.text?, h]
  rfl

theorem emptyOrTrimmed_getD_text? : EmptyOrTrimmed ((env.text? v).getD "") := by
  cases h : env.text? v with
  | none => exact Or.inl rfl
  | some s => exact Or.inr (trimmed_of_text? h)

theorem getD_text?_of_emptyOrTrimmed (h : env v.name = some s) (hs : EmptyOrTrimmed s) :
    (env.text? v).getD "" = s := by
  cases hs with
  | inl he =>
    subst he
    rw [text?_of_empty h]
    rfl
  | inr ht =>
    rw [text?_of_trimmed h ht]
    rfl

theorem switch_of_written {b : Bool}
    (h : env Variable.enabled.name = some (if b then "true" else "false")) :
    env.switch = .ok b := by
  cases b with
  | true =>
    have hw : truthWord? "true" = some true := by decide
    simp [Environment.switch, h, hw]
  | false =>
    have hw : truthWord? "false" = some false := by decide
    simp [Environment.switch, h, hw]

end Variables

/-! ## Lists of names -/

theorem mem_of_mem_firsts {x : String} {xs : List String} (h : x ∈ firsts xs) : x ∈ xs := by
  induction xs with
  | nil => exact h
  | cons y ys ih =>
    rw [firsts] at h
    obtain rfl | hm := List.mem_cons.1 h
    · exact List.mem_cons_self
    · exact List.mem_cons_of_mem y (ih (List.mem_of_mem_filter hm))

theorem nodup_firsts (xs : List String) : (firsts xs).Nodup := by
  induction xs with
  | nil => exact List.nodup_nil
  | cons x xs ih =>
    rw [firsts, List.nodup_cons]
    refine ⟨?_, ih.filter _⟩
    simp

theorem firsts_of_nodup {xs : List String} (h : xs.Nodup) : firsts xs = xs := by
  induction xs with
  | nil => rfl
  | cons x xs ih =>
    obtain ⟨hx, hxs⟩ := List.nodup_cons.1 h
    have hall : ∀ y ∈ xs, decide (y ≠ x) = true := by
      intro y hy
      have hne : y ≠ x := fun he => hx (he ▸ hy)
      simpa using hne
    rw [firsts, ih hxs, List.filter_eq_self.2 hall]

/-- A name that can stand between commas. -/
structure Segment (s : String) : Prop where
  trimmed : Trimmed s
  no_comma : ',' ∉ s.toList

theorem segment_of_mem_segments {s t : String} (h : s ∈ segments t) : Segment s := by
  obtain ⟨hm, hne⟩ := List.mem_filter.1 h
  obtain ⟨piece, hp, rfl⟩ := List.mem_map.1 hm
  refine ⟨⟨by simpa using hne, bare_trim _⟩, ?_⟩
  rw [trim, String.toList_ofList, String.toList_ofList, mem_strip_iff (by decide)]
  exact not_mem_of_mem_splitOn hp

section Names
variable {names : List String}

theorem toList_intercalate_comma (names : List String) :
    (String.intercalate "," names).toList = [','].intercalate (names.map String.toList) :=
  String.toList_intercalate

theorem segments_intercalate (h : ∀ s ∈ names, Segment s) (hne : names ≠ []) :
    segments (String.intercalate "," names) = names := by
  have hcommas : ∀ piece ∈ names.map String.toList, ',' ∉ piece := by
    intro piece hp
    obtain ⟨s, hs, rfl⟩ := List.mem_map.1 hp
    exact (h s hs).no_comma
  have htrim : names.map ((fun cs => trim (String.ofList cs)) ∘ String.toList) = names := by
    refine (List.map_congr_left fun s hs => ?_).trans (List.map_id names)
    simp [(h s hs).trimmed.trim_eq]
  have hkept : ∀ s ∈ names, decide (s ≠ "") = true := by
    intro s hs
    simpa using (h s hs).trimmed.1
  rw [segments, toList_intercalate_comma, splitOn_intercalate hcommas (by simpa using hne),
    List.map_map, htrim, List.filter_eq_self.2 hkept]

theorem trimmed_intercalate (h : ∀ s ∈ names, Segment s) (hne : names ≠ []) :
    Trimmed (String.intercalate "," names) := by
  have hpieces : ∀ piece ∈ names.map String.toList, piece ≠ [] ∧ Bare isBlank piece := by
    intro piece hp
    obtain ⟨s, hs, rfl⟩ := List.mem_map.1 hp
    obtain ⟨hs0, hb⟩ := (h s hs).trimmed
    exact ⟨fun he => hs0 (String.toList_eq_nil_iff.1 he), hb⟩
  refine ⟨?_, ?_⟩
  · intro he
    have hs := segments_intercalate h hne
    rw [he] at hs
    exact hne hs.symm
  · rw [toList_intercalate_comma]
    exact bare_intercalate hpieces

variable {env : Environment} {v : Variable}

theorem segment_of_mem_nameList {s : String} (h : s ∈ env.nameList v) : Segment s := by
  unfold Environment.nameList at h
  split at h
  · cases h
  · exact segment_of_mem_segments (mem_of_mem_firsts h)

theorem nodup_nameList : (env.nameList v).Nodup := by
  unfold Environment.nameList
  split
  · exact List.nodup_nil
  · exact nodup_firsts _

theorem nameList_of_written (h : env v.name = some (String.intercalate "," names))
    (hs : ∀ s ∈ names, Segment s) (hd : names.Nodup) : env.nameList v = names := by
  cases names with
  | nil =>
    have hn : env.text? v = none := text?_of_empty h
    rw [Environment.nameList, hn]
  | cons s rest =>
    have ht := text?_of_trimmed h (trimmed_intercalate hs (by simp))
    rw [Environment.nameList, ht]
    exact (congrArg firsts (segments_intercalate hs (by simp))).trans (firsts_of_nodup hd)

end Names

/-! ## Settings -/

/-- The form of settings that were read. -/
structure Settings.WellFormed (c : Settings) : Prop where
  installationId : Trimmed c.installationId ∧ isInstallationId c.installationId = true
  productName : Trimmed c.productName
  productVersion : EmptyOrTrimmed c.productVersion
  productEdition : Trimmed c.productEdition
  databaseVendor : EmptyOrTrimmed c.databaseVendor
  databaseVersion : EmptyOrTrimmed c.databaseVersion
  server : ∀ s, c.server = some s → Trimmed s
  jdkVendor : EmptyOrTrimmed c.jdkVendor
  jdkVersion : EmptyOrTrimmed c.jdkVersion
  segments : ∀ s ∈ c.webapps, Segment s
  nodup : c.webapps.Nodup

/-- The settings of an environment whose required texts and switch are these. -/
def Environment.settingsWith (env : Environment) (id name : String) (enabled : Bool) : Settings :=
  ⟨id, name, (env.text? .productVersion).getD "", (env.text? .productEdition).getD defaultEdition,
    (env.text? .databaseVendor).getD "", (env.text? .databaseVersion).getD "",
    env.text? .server, (env.text? .jdkVendor).getD "", (env.text? .jdkVersion).getD "", enabled,
    env.nameList .webapps⟩

theorem bind_eq_ok_iff {ε α β : Type} {x : Except ε α} {f : α → Except ε β} {b : β} :
    x >>= f = .ok b ↔ ∃ a, x = .ok a ∧ f a = .ok b := by
  cases x with
  | error e => simp [bind, Except.bind]
  | ok a => simp [bind, Except.bind]

theorem require_eq_ok_iff {env : Environment} {v : Variable} {s : String} :
    env.require v = .ok s ↔ env.text? v = some s := by
  unfold Environment.require
  cases env.text? v <;> simp

/-- When reading succeeds, and with what. -/
theorem settings_eq_ok_iff {env : Environment} {c : Settings} :
    env.settings = .ok c ↔
      ∃ id name enabled, env.text? .installationId = some id ∧ isInstallationId id = true ∧
        env.text? .productName = some name ∧ env.switch = .ok enabled ∧
        c = env.settingsWith id name enabled := by
  constructor
  · intro h
    rw [Environment.settings, bind_eq_ok_iff] at h
    obtain ⟨id, hid, h⟩ := h
    by_cases hvalid : isInstallationId id = true
    · rw [if_neg (by simp [hvalid]), bind_eq_ok_iff] at h
      obtain ⟨name, hname, h⟩ := h
      obtain ⟨enabled, hswitch, hc⟩ := bind_eq_ok_iff.1 h
      cases hc
      exact ⟨id, name, enabled, require_eq_ok_iff.1 hid, hvalid, require_eq_ok_iff.1 hname,
        hswitch, rfl⟩
    · rw [if_pos (by simpa using hvalid)] at h
      cases h
  · rintro ⟨id, name, enabled, hid, hvalid, hname, hswitch, rfl⟩
    rw [Environment.settings, bind_eq_ok_iff]
    refine ⟨id, require_eq_ok_iff.2 hid, ?_⟩
    rw [if_neg (by simp [hvalid]), bind_eq_ok_iff]
    refine ⟨name, require_eq_ok_iff.2 hname, ?_⟩
    exact bind_eq_ok_iff.2 ⟨enabled, hswitch, rfl⟩

theorem wellFormed_of_settings {env : Environment} {c : Settings} (h : env.settings = .ok c) :
    c.WellFormed := by
  obtain ⟨id, name, enabled, hid, hvalid, hname, -, rfl⟩ := settings_eq_ok_iff.1 h
  have hedition : Trimmed ((env.text? .productEdition).getD defaultEdition) := by
    cases he : env.text? .productEdition with
    | none => exact ⟨by decide, by decide⟩
    | some s => exact trimmed_of_text? he
  exact
    { installationId := ⟨trimmed_of_text? hid, hvalid⟩
      productName := trimmed_of_text? hname
      productVersion := emptyOrTrimmed_getD_text?
      productEdition := hedition
      databaseVendor := emptyOrTrimmed_getD_text?
      databaseVersion := emptyOrTrimmed_getD_text?
      server := fun _ => trimmed_of_text?
      jdkVendor := emptyOrTrimmed_getD_text?
      jdkVersion := emptyOrTrimmed_getD_text?
      segments := fun _ => segment_of_mem_nameList
      nodup := nodup_nameList }

/-- What the variables of some settings say. -/
def Settings.written? (c : Settings) : Variable → Option String
  | .installationId => some c.installationId
  | .productName => some c.productName
  | .productVersion => some c.productVersion
  | .productEdition => some c.productEdition
  | .databaseVendor => some c.databaseVendor
  | .databaseVersion => some c.databaseVersion
  | .server => c.server
  | .jdkVendor => some c.jdkVendor
  | .jdkVersion => some c.jdkVersion
  | .enabled => some (if c.enabled then "true" else "false")
  | .webapps => some (String.intercalate "," c.webapps)

/-- No two of the written variables have the same name. -/
theorem environment_name (c : Settings) (v : Variable) :
    c.environment v.name = c.written? v := by
  obtain ⟨_, _, _, _, _, _, server, _, _, _, _⟩ := c
  cases server <;> cases v <;> rfl

theorem text?_server_environment {c : Settings} (h : ∀ s, c.server = some s → Trimmed s) :
    c.environment.text? .server = c.server := by
  have hs : c.environment Variable.server.name = c.server := environment_name c .server
  cases hc : c.server with
  | none => simp only [Environment.text?, hs, hc]
  | some s => exact text?_of_trimmed (hs.trans hc) (h s hc)

theorem settings_environment {c : Settings} (h : c.WellFormed) :
    c.environment.settings = .ok c := by
  have hw := environment_name c
  refine settings_eq_ok_iff.2 ⟨c.installationId, c.productName, c.enabled,
    text?_of_trimmed (hw .installationId) h.installationId.1, h.installationId.2,
    text?_of_trimmed (hw .productName) h.productName, switch_of_written (hw .enabled), ?_⟩
  have hedition : c.environment.text? .productEdition = some c.productEdition :=
    text?_of_trimmed (hw .productEdition) h.productEdition
  rw [Environment.settingsWith, hedition, text?_server_environment h.server,
    getD_text?_of_emptyOrTrimmed (hw .productVersion) h.productVersion,
    getD_text?_of_emptyOrTrimmed (hw .databaseVendor) h.databaseVendor,
    getD_text?_of_emptyOrTrimmed (hw .databaseVersion) h.databaseVersion,
    getD_text?_of_emptyOrTrimmed (hw .jdkVendor) h.jdkVendor,
    getD_text?_of_emptyOrTrimmed (hw .jdkVersion) h.jdkVersion,
    nameList_of_written (hw .webapps) h.segments h.nodup]
  rfl

/-- Settings that were read from some variables are read again, the same in every field, from the
variables that say what they say. -/
theorem settings_read_back {env : Environment} {c : Settings} (h : env.settings = .ok c) :
    c.environment.settings = .ok c :=
  settings_environment (wellFormed_of_settings h)

/-- Variables with white space of several kinds, an odd truth word and repeated names. -/
def oddEnvironment : Environment :=
  fun name =>
    [(Variable.installationId.name, " \x7b12345678-1234-1234-1234-123456789abc\x7d\t"),
      (Variable.productName.name, "\u2003Engine "), (Variable.productVersion.name, "  "),
      (Variable.enabled.name, " yEs"), (Variable.webapps.name, " b, a ,,b\u00a0,c d,")].lookup name

theorem odd_settings_read_back :
    ∃ c, oddEnvironment.settings = .ok c ∧ c.productName = "Engine" ∧ c.enabled = true ∧
      c.webapps = ["b", "a", "c d"] ∧ c.environment.settings = .ok c := by
  have h : oddEnvironment.settings = .ok ⟨"\x7b12345678-1234-1234-1234-123456789abc\x7d",
      "Engine", "", "community", "", "", none, "", "", true, ["b", "a", "c d"]⟩ := by
    rfl
  exact ⟨_, h, rfl, rfl, rfl, settings_read_back h⟩

end UsageMeter.Config
