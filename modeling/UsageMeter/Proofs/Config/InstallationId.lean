import UsageMeter.Proofs.Config.Failures
import UsageMeter.Proofs.Config.HexNumber

/-!
Installation ids. An id is told by what is left of its text without scheme names, braces and
hyphens: thirty-two characters that are a number of base sixteen, by a grammar in which white space,
a plus sign, a base mark and underscores count among the thirty-two.
-/
namespace UsageMeter.Config
open UsageMeter.Text

/-! ## What is left of a text -/

/-- The text without the occurrences of a word, which are found from the left. -/
inductive Deleted (word : List Char) : List Char → List Char → Prop
  | nil : Deleted word [] []
  | occurrence {cs out : List Char} (h : Deleted word cs out) : Deleted word (word ++ cs) out
  | other {c : Char} {cs out : List Char} (hc : ¬word <+: c :: cs) (h : Deleted word cs out) :
      Deleted word (c :: cs) (c :: out)

section Words
variable {word cs out : List Char} {c : Char}

theorem deleteWord_skip (word before cs : List Char) :
    deleteWord word (before ++ cs) before.length = deleteWord word cs 0 := by
  induction before with
  | nil => rfl
  | cons c before ih => exact ih

theorem deleteWord_append (hne : word ≠ []) (cs : List Char) :
    deleteWord word (word ++ cs) 0 = deleteWord word cs 0 := by
  obtain ⟨w, ws, rfl⟩ := List.exists_cons_of_ne_nil hne
  have hp : (w :: ws).isPrefixOf (w :: (ws ++ cs)) = true :=
    List.isPrefixOf_iff_prefix.2 (List.prefix_append (w :: ws) cs)
  rw [List.cons_append, deleteWord, if_pos hp]
  exact deleteWord_skip (w :: ws) ws cs

theorem deleteWord_cons_of_not_begins (h : ¬word <+: c :: cs) :
    deleteWord word (c :: cs) 0 = c :: deleteWord word cs 0 := by
  rw [deleteWord, if_neg fun hp => h (List.isPrefixOf_iff_prefix.1 hp)]

theorem deleted_deleteWord (hne : word ≠ []) (cs : List Char) :
    Deleted word cs (deleteWord word cs 0) := by
  -- What follows an occurrence is shorter by the whole word, so the induction is on the length.
  induction hl : cs.length using Nat.strong_induction_on generalizing cs with
  | _ n ih =>
    subst hl
    cases cs with
    | nil => exact .nil
    | cons c cs =>
      by_cases hp : word <+: c :: cs
      · obtain ⟨rest, hrest⟩ := hp
        have hpos : 0 < word.length := List.length_pos_iff.2 hne
        have hlt : rest.length < (c :: cs).length := by
          rw [← hrest, List.length_append]
          omega
        rw [← hrest, deleteWord_append hne]
        exact .occurrence (ih _ hlt rest rfl)
      · rw [deleteWord_cons_of_not_begins hp]
        exact .other hp (ih _ (by simp) cs rfl)

theorem deleted_iff (hne : word ≠ []) : Deleted word cs out ↔ out = deleteWord word cs 0 := by
  constructor
  · intro h
    induction h with
    | nil => rfl
    | occurrence _ ih => rw [deleteWord_append hne, ih]
    | other hc _ ih => rw [deleteWord_cons_of_not_begins hc, ih]
  · rintro rfl
    exact deleted_deleteWord hne cs

/-- A text that lacks a letter of the word has nothing to lose. -/
theorem Deleted.self (hw : c ∈ word) (hc : c ∉ cs) : Deleted word cs cs := by
  induction cs with
  | nil => exact .nil
  | cons d cs ih =>
    exact .other (fun hp => hc (hp.subset hw)) (ih fun hm => hc (List.mem_cons_of_mem d hm))

end Words

def isBrace (c : Char) : Bool :=
  c == '\x7b' || c == '\x7d'

/-- What is left of a text without scheme names, braces around it and hyphens. -/
def Bared (cs bare : List Char) : Prop :=
  ∃ unmarked unnamed, Deleted "urn:".toList cs unmarked ∧ Deleted "uuid:".toList unmarked unnamed ∧
    bare = (strip isBrace unnamed).filter (· != '-')

theorem bared_iff {cs bare : List Char} : Bared cs bare ↔ bare = bareId cs := by
  have hurn : "urn:".toList ≠ [] := by decide
  have huuid : "uuid:".toList ≠ [] := by decide
  simp only [Bared, deleted_iff hurn, deleted_iff huuid]
  constructor
  · rintro ⟨_, _, rfl, rfl, rfl⟩
    rfl
  · rintro rfl
    exact ⟨_, _, rfl, rfl, rfl⟩

/-! ## Reading an id -/

/-- What reading a text comes to: the range refuses nothing, as thirty-two characters never write a
number of more than 128 bits. -/
theorem readId_cases (cs : List Char) :
    ((bareId cs).length ≠ 32 ∧ readId cs = .error .length) ∨
    ((bareId cs).length = 32 ∧ hexNumber? (bareId cs) = none ∧ readId cs = .error .notNumber) ∨
    ∃ n, (bareId cs).length = 32 ∧ hexNumber? (bareId cs) = some n ∧ readId cs = .ok n := by
  by_cases hl : (bareId cs).length = 32
  · cases hn : hexNumber? (bareId cs) with
    | none => exact Or.inr (Or.inl ⟨hl, rfl, by simp [readId, hl, hn]⟩)
    | some n =>
      have hlt : n < Nat.pow 2 128 := by
        have hpow : Nat.pow 16 (bareId cs).length = Nat.pow 2 128 := by rw [hl]
        exact hpow ▸ hexNumber?_lt hn
      refine Or.inr (Or.inr ⟨n, hl, rfl, ?_⟩)
      simp only [readId, hl, hn, if_pos hlt]
      rfl
  · exact Or.inl ⟨hl, by simp [readId, hl]⟩

theorem readId_ne_range (cs : List Char) : readId cs ≠ .error .range := by
  obtain ⟨-, hr⟩ | ⟨-, -, hr⟩ | ⟨n, -, -, hr⟩ := readId_cases cs
  · simp [hr]
  · simp [hr]
  · simp [hr]

theorem isInstallationId_iff {s : String} :
    isInstallationId s = true ↔
      (bareId s.toList).length = 32 ∧ HexNumber IsZero (bareId s.toList) := by
  rw [isInstallationId, ← isSome_hexNumber?_iff]
  obtain ⟨hl, hr⟩ | ⟨hl, hn, hr⟩ | ⟨n, hl, hn, hr⟩ := readId_cases s.toList
  · simp [hr, hl, Except.isOk, Except.toBool]
  · simp [hr, hn, Except.isOk, Except.toBool]
  · simp [hr, hl, hn, Except.isOk, Except.toBool]

/-! ## Common forms -/

/-- Thirty-two digits in either case with hyphens anywhere. -/
structure Hyphened (cs : List Char) : Prop where
  digits : ∀ c ∈ cs, HexDigit c ∨ c = '-'
  length : (cs.filter (· != '-')).length = 32

instance {cs : List Char} : Decidable (Hyphened cs) :=
  decidable_of_iff
    ((cs.all fun c => decide (HexDigit c ∨ c = '-')) = true ∧
      (cs.filter (· != '-')).length = 32)
    ⟨fun h => ⟨fun c hc => of_decide_eq_true (List.all_eq_true.1 h.1 c hc), h.2⟩,
      fun h => ⟨List.all_eq_true.2 fun c hc => decide_eq_true (h.digits c hc), h.length⟩⟩

inductive PlainForm : List Char → Prop
  | unbraced {cs : List Char} (h : Hyphened cs) : PlainForm cs
  | braced {cs : List Char} (h : Hyphened cs) : PlainForm (['\x7b'] ++ cs ++ ['\x7d'])

inductive CommonForm : List Char → Prop
  | unnamed {cs : List Char} (h : PlainForm cs) : CommonForm cs
  | named {cs : List Char} (h : PlainForm cs) : CommonForm ("urn:uuid:".toList ++ cs)

section Forms
variable {cs : List Char}

theorem Hyphened.not_isBrace (h : Hyphened cs) : ∀ c ∈ cs, isBrace c = false := by
  intro c hc
  refine Bool.eq_false_iff.2 fun hb => ?_
  have hbrace : c = '\x7b' ∨ c = '\x7d' := by simpa [isBrace] using hb
  obtain rfl | rfl := hbrace
  · exact absurd (h.digits _ hc) (by decide)
  · exact absurd (h.digits _ hc) (by decide)

theorem Hyphened.hexNumber (h : Hyphened cs) : HexNumber IsZero (cs.filter (· != '-')) := by
  have hrun : DigitRun BaseDigit (cs.filter (· != '-')) := by
    refine .of_forall (fun he => ?_) fun c hc => ?_
    · have hl := h.length
      rw [he] at hl
      cases hl
    · obtain ⟨hm, hne⟩ := List.mem_filter.1 hc
      exact Or.inl ((h.digits c hm).resolve_right (by simpa using hne))
  exact ⟨[], _, [], by simp, by simp, by simp, .unsigned (.unmarked hrun)⟩

theorem PlainForm.hyphened (h : PlainForm cs) : Hyphened (strip isBrace cs) := by
  cases h with
  | unbraced h =>
    rw [strip_eq_self_iff.2 (bare_of_forall h.not_isBrace)]
    exact h
  | braced h =>
    rw [strip_padded_of_bare (by simp [isBrace]) (by simp [isBrace])
      (bare_of_forall h.not_isBrace)]
    exact h

/-- The letters of the scheme names that are no digits stand in no plain form. -/
theorem PlainForm.not_mem (h : PlainForm cs) : 'r' ∉ cs ∧ 'i' ∉ cs := by
  have hdigits : ∀ {ds}, Hyphened ds → 'r' ∉ ds ∧ 'i' ∉ ds := fun h =>
    ⟨fun hm => absurd (h.digits _ hm) (by decide), fun hm => absurd (h.digits _ hm) (by decide)⟩
  cases h with
  | unbraced h => exact hdigits h
  | braced h => simpa using hdigits h

theorem CommonForm.bared (h : CommonForm cs) :
    ∃ digits, Hyphened digits ∧ Bared cs (digits.filter (· != '-')) := by
  cases h with
  | unnamed h =>
    obtain ⟨hr, hi⟩ := h.not_mem
    exact ⟨_, h.hyphened, cs, cs, .self (by decide) hr, .self (by decide) hi, rfl⟩
  | @named cs h =>
    obtain ⟨hr, hi⟩ := h.not_mem
    have hurn : Deleted "urn:".toList ("urn:".toList ++ ("uuid:".toList ++ cs))
        ("uuid:".toList ++ cs) :=
      .occurrence (.self (c := 'r') (by decide) (by simpa using hr))
    have huuid : Deleted "uuid:".toList ("uuid:".toList ++ cs) cs :=
      .occurrence (.self (c := 'i') (by decide) hi)
    exact ⟨_, h.hyphened, _, _, hurn, huuid, rfl⟩

end Forms

/-! ## Settings -/

theorem isInstallationId_iff_bared {t : String} {bare : List Char} (h : Bared t.toList bare) :
    isInstallationId t = true ↔ bare.length = 32 ∧ HexNumber IsZero bare := by
  rw [isInstallationId_iff, bared_iff.1 h]

theorem CommonForm.isInstallationId {t : String} (h : CommonForm t.toList) :
    isInstallationId t = true := by
  obtain ⟨digits, hd, hb⟩ := h.bared
  exact (isInstallationId_iff_bared hb).2 ⟨hd.length, hd.hexNumber⟩

/-- Given a product name and no switch, settings can be read exactly if what is left of the text of
the installation id has thirty-two characters and is a number of base sixteen, in whose base mark
any script's zero can stand. This holds of all common forms, the range of the number refuses
nothing, and the settings have the text as it was. -/
theorem installation_id_grammar {env : Environment} {t name : String}
    (hid : env.text? .installationId = some t) (hname : env.text? .productName = some name)
    (hswitch : env Variable.enabled.name = none) :
    (∃ bare, (∀ cs, Bared t.toList cs ↔ cs = bare) ∧
      ((∃ c, env.settings = .ok c) ↔ bare.length = 32 ∧ HexNumber IsZero bare)) ∧
    (CommonForm t.toList → ∃ c, env.settings = .ok c) ∧
    readId t.toList ≠ .error .range ∧
    ∀ c, env.settings = .ok c → c.installationId = t := by
  have hread : (∃ c, env.settings = .ok c) ↔ isInstallationId t = true := by
    constructor
    · rintro ⟨c, hc⟩
      obtain ⟨id, _, _, hid', hvalid, -, -, -⟩ := settings_eq_ok_iff.1 hc
      rw [hid] at hid'
      cases hid'
      exact hvalid
    · intro hvalid
      rw [settings_of_identity hid hvalid hname, switch_of_none hswitch]
      exact ⟨_, rfl⟩
  refine ⟨⟨bareId t.toList, fun cs => bared_iff, hread.trans isInstallationId_iff⟩,
    fun h => hread.2 h.isInstallationId, readId_ne_range t.toList, ?_⟩
  intro c hc
  obtain ⟨id, _, _, hid', -, -, -, rfl⟩ := settings_eq_ok_iff.1 hc
  rw [hid] at hid'
  cases hid'
  rfl

/-- An environment with an installation id and a product name. -/
def environmentOf (id : String) : Environment :=
  fun name =>
    [(Variable.installationId.name, id), (Variable.productName.name, "Engine")].lookup name

def namedId : String :=
  "urn:uuid:\x7bCB07CE31-c8e3-4f5f-94c2-1b28175c2022\x7d"

theorem scheme_and_braces_accepted :
    let env := environmentOf ("\t" ++ namedId ++ " ")
    env.text? .installationId = some namedId ∧ env.text? .productName = some "Engine" ∧
      env Variable.enabled.name = none ∧ CommonForm namedId.toList ∧
      ∃ c, env.settings = .ok c ∧ c.installationId = namedId := by
  intro env
  have hid : env.text? .installationId = some namedId := by decide +kernel
  have hname : env.text? .productName = some "Engine" := by decide +kernel
  have hform : CommonForm namedId.toList := by
    have he : namedId.toList = "urn:uuid:".toList ++
        (['\x7b'] ++ "CB07CE31-c8e3-4f5f-94c2-1b28175c2022".toList ++ ['\x7d']) := by
      decide
    rw [he]
    exact .named (.braced (by decide))
  obtain ⟨-, hcommon, -, hkept⟩ := installation_id_grammar hid hname rfl
  obtain ⟨c, hc⟩ := hcommon hform
  exact ⟨hid, hname, rfl, hform, c, hc, hkept c hc⟩

theorem not_baseDigit_x : ¬BaseDigit 'x' := by
  rintro (h | ⟨n, hn⟩)
  · exact absurd h (by decide)
  · rw [decimalDigit?_sign 'x' (by simp)] at hn
    cases hn

/-- With no zero but the ASCII one for base marks, another character before the mark's letter cannot
be told apart from the first digit of a number. -/
theorem not_hexNumber_of_foreign {z : Char} (hz : z ≠ '0') (hsign : z ≠ '+')
    (hblank : isNumberBlank z = false) (rest : List Char) :
    ¬HexNumber (· = '0') (z :: 'x' :: rest) := by
  rintro ⟨before, body, after, he, hb, ha, h⟩
  have hbefore : before = [] := by
    cases before with
    | nil => rfl
    | cons b before =>
      obtain ⟨rfl, -⟩ := List.cons.inj he
      exact absurd (hb z (by simp)) (by simp [hblank])
  subst hbefore
  cases h with
  | plus h => exact hsign (List.cons.inj he).1
  | unsigned h =>
    cases h with
    | marked hzero _ _ => exact hz ((List.cons.inj he).1.trans hzero)
    | apart hzero _ _ => exact hz ((List.cons.inj he).1.trans hzero)
    | unmarked h =>
      cases h with
      | last hc =>
        obtain ⟨-, he⟩ := List.cons.inj he
        have hafter : after = 'x' :: rest := he.symm
        exact absurd (ha 'x' (by simp [hafter])) (by decide)
      | next hc hcs =>
        obtain ⟨d, more, rfl, hd⟩ := hcs.exists_cons
        obtain ⟨-, he⟩ := List.cons.inj he
        exact not_baseDigit_x ((List.cons.inj he).1 ▸ hd)
      | apart hc hcs =>
        obtain ⟨-, he⟩ := List.cons.inj he
        exact absurd (List.cons.inj he).1 (by decide)

def fullWidthId : String :=
  "\uff10x111111111111111111111111111111"

/-- An id with the full-width zero in its base mark is read, although `0x` does not stand in it. -/
theorem foreign_zero_marks_base :
    let env := environmentOf fullWidthId
    env.text? .installationId = some fullWidthId ∧ env.text? .productName = some "Engine" ∧
      env Variable.enabled.name = none ∧ (∃ c, env.settings = .ok c) ∧
      ∀ bare, Bared fullWidthId.toList bare → ¬(bare.length = 32 ∧ HexNumber (· = '0') bare) := by
  intro env
  have hok : env.settings =
      .ok ⟨fullWidthId, "Engine", "", "community", "", "", none, "", "", false, []⟩ := by
    decide +kernel
  refine ⟨by decide +kernel, by decide +kernel, rfl, ⟨_, hok⟩, ?_⟩
  rintro bare hbare ⟨-, h⟩
  have he : bareId fullWidthId.toList = '\uff10' :: 'x' :: List.replicate 30 '1' := by decide
  rw [bared_iff.1 hbare, he] at h
  exact not_hexNumber_of_foreign (by decide) (by decide) (by decide) _ h

end UsageMeter.Config
