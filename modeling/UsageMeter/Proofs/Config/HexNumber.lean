import Mathlib.Data.List.Forall2
import UsageMeter.Config.InstallationId
import UsageMeter.Proofs.Text.Strip

/-!
Numbers of base sixteen in texts. They are told by a grammar, and so is what reading takes for one;
each character of the text adds at most four bits to the number.
-/
namespace UsageMeter.Config
open UsageMeter.Text

/-! ## Digits -/

theorem exists_zero_of_decimalDigit? {c : Char} {n : Nat} (h : decimalDigit? c = some n) :
    ∃ z ∈ zeroDigits, c.toNat = z + n ∧ n < 10 := by
  unfold decimalDigit? at h
  have h0 : '0'.toNat = 48 := rfl
  have h9 : '9'.toNat = 57 := rfl
  split at h
  · split at h
    · next hc =>
      simp only [h0, h9, Bool.and_eq_true, decide_eq_true_eq] at hc
      cases h
      exact ⟨48, by decide, by omega, by omega⟩
    · cases h
  · obtain ⟨z, hz, rfl⟩ := Option.map_eq_some_iff.1 h
    have hin := List.find?_some hz
    simp only [Bool.and_eq_true, decide_eq_true_eq] at hin
    exact ⟨z, List.mem_of_find?_eq_some hz, by omega, by omega⟩

theorem isBlank_zeroDigits : ∀ z ∈ zeroDigits, ∀ n < 10, isBlank (Char.ofNat (z + n)) = false := by
  decide +kernel

theorem decimalDigit?_digitChar : ∀ n < 10, decimalDigit? (digitChar n) = some n := by
  decide

/-- A digit of base sixteen in either case. -/
def HexDigit (c : Char) : Prop :=
  ('0' ≤ c ∧ c ≤ '9') ∨ ('a' ≤ c ∧ c ≤ 'f') ∨ ('A' ≤ c ∧ c ≤ 'F')

instance : DecidablePred HexDigit :=
  fun _ => inferInstanceAs (Decidable (_ ∨ _ ∨ _))

theorem hexDigit_iff_toNat {c : Char} :
    HexDigit c ↔ (48 ≤ c.toNat ∧ c.toNat ≤ 57) ∨ (97 ≤ c.toNat ∧ c.toNat ≤ 102) ∨
      (65 ≤ c.toNat ∧ c.toNat ≤ 70) := by
  simp only [HexDigit, Char.le_def, UInt32.le_iff_toNat_le]
  rfl

theorem isSome_hexDigit?_iff {c : Char} : (hexDigit? c).isSome = true ↔ HexDigit c := by
  unfold hexDigit? HexDigit
  split_ifs <;> simp_all

theorem hexDigit?_lt {c : Char} {n : Nat} (h : hexDigit? c = some n) : n < 16 := by
  have h0 : '0'.val.toNat = 48 := rfl
  have h9 : '9'.val.toNat = 57 := rfl
  have ha : 'a'.val.toNat = 97 := rfl
  have hf : 'f'.val.toNat = 102 := rfl
  have hA : 'A'.val.toNat = 65 := rfl
  have hF : 'F'.val.toNat = 70 := rfl
  unfold hexDigit? at h
  simp only [Bool.and_eq_true, decide_eq_true_eq, Char.le_def, UInt32.le_iff_toNat_le,
    Char.toNat] at h
  split_ifs at h <;> cases h <;> omega

theorem hexDigit_digitChar : ∀ n < 10, HexDigit (digitChar n) := by
  decide

/-- A digit of base sixteen, or a decimal digit of any script. -/
def BaseDigit (c : Char) : Prop :=
  HexDigit c ∨ ∃ n, decimalDigit? c = some n

def IsZero (c : Char) : Prop :=
  decimalDigit? c = some 0

section Digits
variable {c w : Char}

theorem plainDigit_cases (c : Char) :
    (∃ n < 10, decimalDigit? c = some n ∧ plainDigit c = digitChar n) ∨
      (decimalDigit? c = none ∧ plainDigit c = c) := by
  unfold plainDigit
  cases h : decimalDigit? c with
  | none => exact Or.inr ⟨rfl, rfl⟩
  | some n =>
    obtain ⟨z, -, -, hn⟩ := exists_zero_of_decimalDigit? h
    exact Or.inl ⟨n, hn, rfl, rfl⟩

theorem decimalDigit?_sign : ∀ w ∈ ['_', '+', 'x', 'X'], decimalDigit? w = none := by
  have hall : (['_', '+', 'x', 'X'].all fun w => decimalDigit? w == none) = true := by decide
  simpa using hall

theorem hexDigit_plainDigit_iff : HexDigit (plainDigit c) ↔ BaseDigit c := by
  obtain ⟨n, hn, hd, hp⟩ | ⟨hd, hp⟩ := plainDigit_cases c
  · simp [BaseDigit, hd, hp, hexDigit_digitChar n hn]
  · simp [BaseDigit, hd, hp]

theorem plainDigit_eq_zero_iff : plainDigit c = '0' ↔ IsZero c := by
  obtain ⟨n, hn, hd, hp⟩ | ⟨hd, hp⟩ := plainDigit_cases c
  · rw [hp, IsZero, hd, ← decimalDigit?_digitChar n hn]
    refine ⟨fun h => by rw [h]; decide, fun h => ?_⟩
    rw [decimalDigit?_digitChar n hn] at h
    cases h
    rfl
  · rw [hp, IsZero, hd]
    refine ⟨fun h => ?_, fun h => by cases h⟩
    rw [h] at hd
    exact absurd hd (by decide)

/-- No sign is taken for a digit, and no digit for a sign. -/
theorem plainDigit_eq_iff (hw : decimalDigit? w = none) : plainDigit c = w ↔ c = w := by
  obtain ⟨n, hn, hd, hp⟩ | ⟨hd, hp⟩ := plainDigit_cases c
  · have hdigit : digitChar n ≠ w := by
      rintro rfl
      rw [decimalDigit?_digitChar n hn] at hw
      cases hw
    have hself : c ≠ w := by
      rintro rfl
      rw [hd] at hw
      cases hw
    simp [hp, hdigit, hself]
  · rw [hp]

theorem isNumberBlank_of_baseDigit (h : BaseDigit c) : isNumberBlank c = false := by
  have hblank : isBlank c = false := by
    obtain h | ⟨n, hn⟩ := h
    · have hc := hexDigit_iff_toNat.1 h
      simp only [isBlank, Bool.or_eq_false_iff, Bool.and_eq_false_iff, decide_eq_false_iff_not,
        beq_eq_false_iff_ne]
      omega
    · obtain ⟨z, hz, hc, hn⟩ := exists_zero_of_decimalDigit? hn
      rw [← isBlank_zeroDigits z hz n hn, ← hc, Char.ofNat_toNat]
  rw [isNumberBlank, hblank]
  rfl

end Digits

/-! ## Numbers of base sixteen -/

/-- Digits with single underscores between them. -/
inductive DigitRun (digit : Char → Prop) : List Char → Prop
  | last {c : Char} (hc : digit c) : DigitRun digit [c]
  | next {c : Char} {cs : List Char} (hc : digit c) (hcs : DigitRun digit cs) :
      DigitRun digit (c :: cs)
  | apart {c : Char} {cs : List Char} (hc : digit c) (hcs : DigitRun digit cs) :
      DigitRun digit (c :: '_' :: cs)

/-- Digits after a mark of base sixteen or none; one underscore may follow the mark. -/
inductive Marked (zero digit : Char → Prop) : List Char → Prop
  | unmarked {cs : List Char} (h : DigitRun digit cs) : Marked zero digit cs
  | marked {z x : Char} {cs : List Char} (hz : zero z) (hx : x = 'x' ∨ x = 'X')
      (h : DigitRun digit cs) : Marked zero digit (z :: x :: cs)
  | apart {z x : Char} {cs : List Char} (hz : zero z) (hx : x = 'x' ∨ x = 'X')
      (h : DigitRun digit cs) : Marked zero digit (z :: x :: '_' :: cs)

/-- A number with a plus sign or none. -/
inductive Numeral (zero digit : Char → Prop) : List Char → Prop
  | unsigned {cs : List Char} (h : Marked zero digit cs) : Numeral zero digit cs
  | plus {cs : List Char} (h : Marked zero digit cs) : Numeral zero digit ('+' :: cs)

/-- A number of base sixteen between white space, with the characters that can be the zero of its
base mark. -/
def HexNumber (zero : Char → Prop) (cs : List Char) : Prop :=
  ∃ before body after, cs = before ++ body ++ after ∧ (∀ c ∈ before, isNumberBlank c = true) ∧
    (∀ c ∈ after, isNumberBlank c = true) ∧ Numeral zero BaseDigit body

section Runs
variable {digit digit' zero zero' : Char → Prop} {f : Char → Char} {cs : List Char}

theorem DigitRun.exists_cons (h : DigitRun digit cs) : ∃ c rest, cs = c :: rest ∧ digit c := by
  cases h with
  | last hc => exact ⟨_, _, rfl, hc⟩
  | next hc _ => exact ⟨_, _, rfl, hc⟩
  | apart hc _ => exact ⟨_, _, rfl, hc⟩

theorem DigitRun.of_forall (hne : cs ≠ []) (h : ∀ c ∈ cs, digit c) : DigitRun digit cs := by
  induction cs with
  | nil => exact absurd rfl hne
  | cons c cs ih =>
    obtain ⟨hc, hcs⟩ := List.forall_mem_cons.1 h
    cases cs with
    | nil => exact .last hc
    | cons d cs => exact .next hc (ih (by simp) hcs)

theorem DigitRun.mem (h : DigitRun digit cs) {c : Char} (hc : c ∈ cs) : digit c ∨ c = '_' := by
  induction h with
  | last hd => simp_all
  | next hd _ ih =>
    obtain rfl | hc := List.mem_cons.1 hc
    · exact Or.inl hd
    · exact ih hc
  | apart hd _ ih =>
    obtain rfl | hc := List.mem_cons.1 hc
    · exact Or.inl hd
    · obtain rfl | hc := List.mem_cons.1 hc
      · exact Or.inr rfl
      · exact ih hc

theorem Marked.mem (h : Marked zero digit cs) {c : Char} (hc : c ∈ cs) :
    zero c ∨ digit c ∨ c ∈ ['_', '+', 'x', 'X'] := by
  have hrun : ∀ {ds}, DigitRun digit ds → c ∈ ds → zero c ∨ digit c ∨ c ∈ ['_', '+', 'x', 'X'] := by
    intro ds h hc
    obtain hd | rfl := h.mem hc
    · exact Or.inr (Or.inl hd)
    · exact Or.inr (Or.inr (by simp))
  cases h with
  | unmarked h => exact hrun h hc
  | marked hz hx h =>
    obtain rfl | hc := List.mem_cons.1 hc
    · exact Or.inl hz
    · obtain rfl | hc := List.mem_cons.1 hc
      · exact Or.inr (Or.inr (by simpa using Or.inr (Or.inr hx)))
      · exact hrun h hc
  | apart hz hx h =>
    obtain rfl | hc := List.mem_cons.1 hc
    · exact Or.inl hz
    · obtain rfl | hc := List.mem_cons.1 hc
      · exact Or.inr (Or.inr (by simpa using Or.inr (Or.inr hx)))
      · obtain rfl | hc := List.mem_cons.1 hc
        · exact Or.inr (Or.inr (by simp))
        · exact hrun h hc

theorem Numeral.mem (h : Numeral zero digit cs) {c : Char} (hc : c ∈ cs) :
    zero c ∨ digit c ∨ c ∈ ['_', '+', 'x', 'X'] := by
  cases h with
  | unsigned h => exact h.mem hc
  | plus h =>
    obtain rfl | hc := List.mem_cons.1 hc
    · exact Or.inr (Or.inr (by simp))
    · exact h.mem hc

theorem isDigitRun_iff : isDigitRun cs = true ↔ DigitRun HexDigit cs := by
  constructor
  · intro h
    fun_induction isDigitRun cs with
    | case1 => cases h
    | case2 c => exact .last (isSome_hexDigit?_iff.1 h)
    | case3 c cs ih =>
      obtain ⟨hc, hcs⟩ := Bool.and_eq_true_iff.1 h
      exact .apart (isSome_hexDigit?_iff.1 hc) (ih hcs)
    | case4 c cs _ _ ih =>
      obtain ⟨hc, hcs⟩ := Bool.and_eq_true_iff.1 h
      exact .next (isSome_hexDigit?_iff.1 hc) (ih hcs)
  · intro h
    induction h with
    | last hc => exact isSome_hexDigit?_iff.2 hc
    | apart hc _ ih => rw [isDigitRun, isSome_hexDigit?_iff.2 hc, ih, Bool.and_self]
    | next hc hcs ih =>
      obtain ⟨d, rest, rfl, hd⟩ := hcs.exists_cons
      have hne : d ≠ '_' := by
        rintro rfl
        exact absurd hd (by decide)
      rw [isDigitRun, isSome_hexDigit?_iff.2 hc, ih, Bool.and_self]
      · simp
      · intro cs h
        exact hne (List.cons.inj h).1

end Runs

/-- Characters go over into characters of the same use, and signs into themselves. -/
structure Carries (R : Char → Char → Prop) (zero digit zero' digit' : Char → Prop) : Prop where
  zero : ∀ {c d}, R c d → zero c → zero' d
  digit : ∀ {c d}, R c d → digit c → digit' d
  sign : ∀ w ∈ ['_', '+', 'x', 'X'], ∀ {d}, R w d → d = w

section Carries
variable {R : Char → Char → Prop} {zero digit zero' digit' : Char → Prop} {cs ds : List Char}

theorem Carries.digitRun (hR : Carries R zero digit zero' digit') (h : DigitRun digit cs)
    (hcs : List.Forall₂ R cs ds) : DigitRun digit' ds := by
  induction h generalizing ds with
  | last hc =>
    obtain ⟨d, rest, hd, hrest, rfl⟩ := List.forall₂_cons_left_iff.1 hcs
    rw [List.forall₂_nil_left_iff.1 hrest]
    exact .last (hR.digit hd hc)
  | next hc _ ih =>
    obtain ⟨d, rest, hd, hrest, rfl⟩ := List.forall₂_cons_left_iff.1 hcs
    exact .next (hR.digit hd hc) (ih hrest)
  | apart hc _ ih =>
    obtain ⟨d, us, hd, hus, rfl⟩ := List.forall₂_cons_left_iff.1 hcs
    obtain ⟨u, rest, hu, hrest, rfl⟩ := List.forall₂_cons_left_iff.1 hus
    rw [hR.sign '_' (by simp) hu]
    exact .apart (hR.digit hd hc) (ih hrest)

theorem Carries.marked (hR : Carries R zero digit zero' digit') (h : Marked zero digit cs)
    (hcs : List.Forall₂ R cs ds) : Marked zero' digit' ds := by
  have hletter : ∀ {x y}, R x y → x = 'x' ∨ x = 'X' → y = 'x' ∨ y = 'X' := by
    rintro x y hxy (rfl | rfl)
    · exact Or.inl (hR.sign 'x' (by simp) hxy)
    · exact Or.inr (hR.sign 'X' (by simp) hxy)
  cases h with
  | unmarked h => exact .unmarked (hR.digitRun h hcs)
  | marked hz hx h =>
    obtain ⟨z, xs, hz', hxs, rfl⟩ := List.forall₂_cons_left_iff.1 hcs
    obtain ⟨x, rest, hx', hrest, rfl⟩ := List.forall₂_cons_left_iff.1 hxs
    exact .marked (hR.zero hz' hz) (hletter hx' hx) (hR.digitRun h hrest)
  | apart hz hx h =>
    obtain ⟨z, xs, hz', hxs, rfl⟩ := List.forall₂_cons_left_iff.1 hcs
    obtain ⟨x, us, hx', hus, rfl⟩ := List.forall₂_cons_left_iff.1 hxs
    obtain ⟨u, rest, hu, hrest, rfl⟩ := List.forall₂_cons_left_iff.1 hus
    rw [hR.sign '_' (by simp) hu]
    exact .apart (hR.zero hz' hz) (hletter hx' hx) (hR.digitRun h hrest)

theorem Carries.numeral (hR : Carries R zero digit zero' digit') (h : Numeral zero digit cs)
    (hcs : List.Forall₂ R cs ds) : Numeral zero' digit' ds := by
  cases h with
  | unsigned h => exact .unsigned (hR.marked h hcs)
  | plus h =>
    obtain ⟨d, rest, hd, hrest, rfl⟩ := List.forall₂_cons_left_iff.1 hcs
    rw [hR.sign '+' (by simp) hd]
    exact .plus (hR.marked h hrest)

end Carries

/-! ## Reading a number -/

section Reading
variable {cs : List Char}

theorem DigitRun.head_ne_underscore (h : DigitRun HexDigit cs) (rest : List Char) :
    cs ≠ '_' :: rest := by
  rintro rfl
  obtain ⟨c, more, he, hc⟩ := h.exists_cons
  obtain ⟨rfl, -⟩ := List.cons.inj he
  exact absurd hc (by decide)

theorem DigitRun.not_mem_letter (h : DigitRun HexDigit cs) {x : Char} (hx : x = 'x' ∨ x = 'X') :
    x ∉ cs := by
  intro hm
  obtain rfl | rfl := hx
  · exact absurd (h.mem hm) (by decide)
  · exact absurd (h.mem hm) (by decide)

theorem afterBaseMark_of_digitRun (h : DigitRun HexDigit cs) : afterBaseMark cs = cs := by
  have hx := h.not_mem_letter (Or.inl rfl)
  have hX := h.not_mem_letter (Or.inr rfl)
  fun_cases afterBaseMark cs with
  | case5 => rfl
  | _ => simp at hx hX

theorem afterBaseMark_marked {x : Char} (hx : x = 'x' ∨ x = 'X') (h : DigitRun HexDigit cs) :
    afterBaseMark ('0' :: x :: cs) = cs := by
  obtain rfl | rfl := hx
  · rw [afterBaseMark]
    exact h.head_ne_underscore
  · rw [afterBaseMark]
    exact h.head_ne_underscore

theorem isDigitRun_afterBaseMark_iff :
    isDigitRun (afterBaseMark cs) = true ↔ Marked (· = '0') HexDigit cs := by
  rw [isDigitRun_iff]
  constructor
  · intro h
    unfold afterBaseMark at h
    split at h
    · exact .apart rfl (Or.inl rfl) h
    · exact .apart rfl (Or.inr rfl) h
    · exact .marked rfl (Or.inl rfl) h
    · exact .marked rfl (Or.inr rfl) h
    · exact .unmarked h
  · intro h
    cases h with
    | unmarked h =>
      rw [afterBaseMark_of_digitRun h]
      exact h
    | marked hz hx h =>
      rw [hz, afterBaseMark_marked hx h]
      exact h
    | apart hz hx h =>
      rw [hz]
      obtain rfl | rfl := hx
      · exact h
      · exact h

theorem Marked.head_ne_plus (h : Marked (· = '0') HexDigit cs) (rest : List Char) :
    cs ≠ '+' :: rest := by
  have hdigit : ∃ c more, cs = c :: more ∧ HexDigit c := by
    cases h with
    | unmarked h => exact h.exists_cons
    | marked hz _ _ => exact ⟨_, _, rfl, hz ▸ by decide⟩
    | apart hz _ _ => exact ⟨_, _, rfl, hz ▸ by decide⟩
  rintro rfl
  obtain ⟨c, more, he, hc⟩ := hdigit
  obtain ⟨rfl, -⟩ := List.cons.inj he
  exact absurd hc (by decide)

theorem isDigitRun_afterSign_iff :
    isDigitRun (afterBaseMark (afterSign cs)) = true ↔ Numeral (· = '0') HexDigit cs := by
  rw [isDigitRun_afterBaseMark_iff]
  constructor
  · intro h
    unfold afterSign at h
    split at h
    · exact .plus h
    · exact .unsigned h
  · intro h
    cases h with
    | unsigned h =>
      rw [afterSign]
      · exact h
      · exact h.head_ne_plus
    | plus h => exact h

theorem carries_plainDigit :
    Carries (fun c d => d = plainDigit c) IsZero BaseDigit (· = '0') HexDigit := by
  refine ⟨?_, ?_, ?_⟩
  · rintro c _ rfl hc
    exact plainDigit_eq_zero_iff.2 hc
  · rintro c _ rfl hc
    exact hexDigit_plainDigit_iff.2 hc
  · rintro w hw _ rfl
    exact (plainDigit_eq_iff (decimalDigit?_sign w hw)).2 rfl

theorem carries_plainDigit_back :
    Carries (fun c d => c = plainDigit d) (· = '0') HexDigit IsZero BaseDigit := by
  refine ⟨?_, ?_, ?_⟩
  · rintro _ c rfl hc
    exact plainDigit_eq_zero_iff.1 hc
  · rintro _ c rfl hc
    exact hexDigit_plainDigit_iff.1 hc
  · rintro w hw c hc
    exact (plainDigit_eq_iff (decimalDigit?_sign w hw)).1 hc.symm

theorem numeral_map_plainDigit_iff :
    Numeral (· = '0') HexDigit (cs.map plainDigit) ↔ Numeral IsZero BaseDigit cs := by
  constructor
  · intro h
    refine carries_plainDigit_back.numeral h ?_
    exact List.forall₂_map_left_iff.2 (List.forall₂_same.2 fun _ _ => rfl)
  · intro h
    refine carries_plainDigit.numeral h ?_
    exact List.forall₂_map_right_iff.2 (List.forall₂_same.2 fun _ _ => rfl)

theorem isNumberBlank_sign : ∀ w ∈ ['_', '+', 'x', 'X'], isNumberBlank w = false := by
  have hall : (['_', '+', 'x', 'X'].all fun w => !isNumberBlank w) = true := by decide
  simpa using hall

theorem Numeral.bare (h : Numeral IsZero BaseDigit cs) : Bare isNumberBlank cs := by
  refine bare_of_forall fun c hc => ?_
  obtain hz | hd | hw := h.mem hc
  · exact isNumberBlank_of_baseDigit (Or.inr ⟨0, hz⟩)
  · exact isNumberBlank_of_baseDigit hd
  · exact isNumberBlank_sign c hw

theorem numeral_strip_iff :
    Numeral IsZero BaseDigit (strip isNumberBlank cs) ↔ HexNumber IsZero cs := by
  constructor
  · intro h
    obtain ⟨before, after, hb, ha, he⟩ := exists_padded_strip isNumberBlank cs
    exact ⟨before, _, after, he, hb, ha, h⟩
  · rintro ⟨before, body, after, rfl, hb, ha, h⟩
    rw [strip_padded_of_bare hb ha h.bare]
    exact h

theorem isSome_hexNumber?_iff : (hexNumber? cs).isSome = true ↔ HexNumber IsZero cs := by
  rw [← numeral_strip_iff, ← numeral_map_plainDigit_iff, ← isDigitRun_afterSign_iff, hexNumber?]
  split_ifs with h
  · simp [h]
  · simp [h]

/-! ## The range -/

theorem length_afterSign_le (cs : List Char) : (afterSign cs).length ≤ cs.length := by
  unfold afterSign
  split <;> simp

theorem length_afterBaseMark_le (cs : List Char) : (afterBaseMark cs).length ≤ cs.length := by
  unfold afterBaseMark
  split <;> simp <;> omega

/-- Each digit takes four bits. -/
theorem foldl_digits_lt {ds : List Nat} (h : ∀ d ∈ ds, d < 16) (n : Nat) :
    ds.foldl (fun n d => 16 * n + d) n < (n + 1) * Nat.pow 16 ds.length := by
  induction ds generalizing n with
  | nil => simp
  | cons d ds ih =>
    obtain ⟨hd, hds⟩ := List.forall_mem_cons.1 h
    have hpow : Nat.pow 16 (d :: ds).length = Nat.pow 16 ds.length * 16 := rfl
    calc (d :: ds).foldl (fun n d => 16 * n + d) n
        = ds.foldl (fun n d => 16 * n + d) (16 * n + d) := rfl
      _ < (16 * n + d + 1) * Nat.pow 16 ds.length := ih hds _
      _ ≤ (16 * (n + 1)) * Nat.pow 16 ds.length := Nat.mul_le_mul_right _ (by omega)
      _ = (n + 1) * Nat.pow 16 (d :: ds).length := by
        rw [hpow, Nat.mul_comm 16, Nat.mul_assoc, Nat.mul_comm 16]

theorem hexValue_lt (cs : List Char) : hexValue cs < Nat.pow 16 cs.length := by
  have hdigits : ∀ d ∈ cs.filterMap hexDigit?, d < 16 := by
    intro d hd
    obtain ⟨c, -, hc⟩ := List.mem_filterMap.1 hd
    exact hexDigit?_lt hc
  calc hexValue cs < (0 + 1) * Nat.pow 16 (cs.filterMap hexDigit?).length :=
        foldl_digits_lt hdigits 0
    _ = Nat.pow 16 (cs.filterMap hexDigit?).length := by rw [Nat.zero_add, Nat.one_mul]
    _ ≤ Nat.pow 16 cs.length := Nat.pow_le_pow_right (by decide) (List.length_filterMap_le _ _)

theorem hexNumber?_lt {n : Nat} (h : hexNumber? cs = some n) : n < Nat.pow 16 cs.length := by
  rw [hexNumber?] at h
  split_ifs at h
  cases h
  refine (hexValue_lt _).trans_le (Nat.pow_le_pow_right (by decide) ?_)
  calc _ ≤ (afterSign ((strip isNumberBlank cs).map plainDigit)).length :=
        length_afterBaseMark_le _
    _ ≤ ((strip isNumberBlank cs).map plainDigit).length := length_afterSign_le _
    _ = (strip isNumberBlank cs).length := List.length_map _
    _ ≤ cs.length := length_strip_le _ _

end Reading

end UsageMeter.Config
