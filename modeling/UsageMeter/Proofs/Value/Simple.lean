import Mathlib.Algebra.Order.Ring.Int
import Mathlib.Tactic.Ring
import UsageMeter.Report.Digest

/-!
Simple values: texts, truth values, integers and nothing. Each has a content, and a truth value has
that of an integer. Two of them are equal when they have one content, and then they have one digest.
What is no text is in order by the integers, with nothing after them all.
-/
namespace UsageMeter

/-! ## Integers as numbers -/

namespace Number

/-- Halving keeps the product of the odd part and the power of two. -/
theorem exists_halve (fuel : Nat) {m : Int} (hm : m ≠ 0) (e : Int) :
    ∃ (odd : Int) (k : Nat), halve fuel m e = .exact odd (e + k) ∧ m = odd * 2 ^ k := by
  induction fuel generalizing m e with
  | zero => exact ⟨m, 0, by simp [halve], by simp⟩
  | succ fuel ih =>
    rw [halve, if_neg hm]
    by_cases he : m % 2 = 0
    · have hhalf : m / 2 ≠ 0 := by omega
      obtain ⟨odd, k, hk, hodd⟩ := ih hhalf (e + 1)
      refine ⟨odd, k + 1, ?_, ?_⟩
      · rw [if_pos he, hk]
        congr 1
        push_cast
        ring
      · have hm2 : m = 2 * (m / 2) := by omega
        rw [hm2, hodd]
        ring
    · exact ⟨m, 0, by simp [he], by simp⟩

theorem exists_scaled (i : Int) :
    ∃ (odd : Int) (k : Nat), scaled i 0 = .exact odd k ∧ i = odd * 2 ^ k := by
  by_cases hi : i = 0
  · subst hi
    exact ⟨0, 0, rfl, by simp⟩
  · obtain ⟨odd, k, hk, hodd⟩ := exists_halve (Nat.log2 i.natAbs + 1) hi 0
    exact ⟨odd, k, by rw [scaled, hk, Int.zero_add], hodd⟩

theorem scaled_inj {i j : Int} : scaled i 0 = scaled j 0 ↔ i = j := by
  refine ⟨fun h => ?_, fun h => by rw [h]⟩
  obtain ⟨odd, k, hi, rfl⟩ := exists_scaled i
  obtain ⟨odd', k', hj, rfl⟩ := exists_scaled j
  rw [hi, hj, exact.injEq, Int.natCast_inj] at h
  rw [h.1, h.2]

theorem equal_scaled {i j : Int} : (scaled i 0).equal (scaled j 0) = true ↔ i = j := by
  have hnan : (scaled i 0 != .nan) = true := by
    obtain ⟨odd, k, hi, -⟩ := exists_scaled i
    rw [hi]
    simp
  rw [equal, hnan, Bool.true_and, decide_eq_true_eq, scaled_inj]

theorem less_scaled {i j : Int} : (scaled i 0).less (scaled j 0) = true ↔ i < j := by
  obtain ⟨odd, k, hi, hk⟩ := exists_scaled i
  obtain ⟨odd', k', hj, hk'⟩ := exists_scaled j
  have hpow : ∀ n : Nat, Int.pow 2 n = 2 ^ n := fun _ => rfl
  have hsub : ((k : Int) - min (k : Int) k').toNat = k - min k k' := by omega
  have hsub' : ((k' : Int) - min (k : Int) k').toNat = k' - min k k' := by omega
  have hpos : (0 : Int) < 2 ^ min k k' := Int.pow_pos (by decide)
  have hi2 : odd * 2 ^ (k - min k k') * 2 ^ min k k' = i := by
    rw [hk, mul_assoc, ← pow_add, Nat.sub_add_cancel (Nat.min_le_left k k')]
  have hj2 : odd' * 2 ^ (k' - min k k') * 2 ^ min k k' = j := by
    rw [hk', mul_assoc, ← pow_add, Nat.sub_add_cancel (Nat.min_le_right k k')]
  rw [hi, hj, less, decide_eq_true_eq, hpow, hpow, hsub, hsub', ← hi2, ← hj2]
  exact (mul_lt_mul_iff_left₀ hpos).symm

end Number

namespace Value

/-! ## Contents -/

/-- What a simple value is the same for. -/
inductive Content where
  | text (s : String)
  | integer (i : Int)
  | nothing
deriving DecidableEq

/-- A text, a truth value, an integer or nothing. -/
def Simple : Value → Prop
  | .null | .bool _ | .int _ | .str _ => True
  | _ => False

def content : Value → Content
  | .str s => .text s
  | .bool b => .integer (if b then 1 else 0)
  | .int i => .integer i
  | _ => .nothing

section Contents
variable {v w : Value}

theorem equal_iff_content (hv : v.Simple) (hw : w.Simple) :
    v.equal w = true ↔ v.content = w.content := by
  cases v <;> simp only [Simple] at hv <;> cases w <;> simp only [Simple] at hw <;>
    simp [equal, number?, content, Number.equal_scaled]

@[simp] theorem equal_int (i j : Int) : (int i).equal (int j) = (i == j) := by
  have h : (int i).equal (int j) = true ↔ Content.integer i = .integer j :=
    equal_iff_content (v := .int i) (w := .int j) trivial trivial
  rw [Bool.eq_iff_iff, h, Content.integer.injEq, beq_iff_eq]

theorem equalItems_iff_content {vs ws : List Value} (hvs : ∀ v ∈ vs, v.Simple)
    (hws : ∀ w ∈ ws, w.Simple) :
    equalItems vs ws = true ↔ vs.map content = ws.map content := by
  induction vs generalizing ws with
  | nil => cases ws <;> simp [equalItems]
  | cons v vs ih =>
    cases ws with
    | nil => simp [equalItems]
    | cons w ws =>
      rw [List.forall_mem_cons] at hvs hws
      rw [equalItems, Bool.and_eq_true, equal_iff_content hvs.1 hws.1, ih hvs.2 hws.2,
        List.map_cons, List.map_cons, List.cons.injEq]

theorem Simple.content_of_text? (hv : v.Simple) (h : v.text? = none) (s : String) :
    v.content ≠ .text s := by
  cases v <;> simp only [Simple] at hv <;> simp_all [text?, content]

end Contents

/-! ## Order -/

namespace Content

/-- Smaller integers come before larger ones, and all of them before nothing. -/
def Before : Content → Content → Prop
  | .integer i, .integer j => i < j
  | .integer _, .nothing => True
  | _, _ => False

instance : Std.Irrefl Before where
  irrefl c h := by
    cases c with
    | integer i => exact Int.lt_irrefl i h
    | _ => exact h

instance : Std.Antisymm Before where
  antisymm c d hcd hdc := by
    cases c <;> cases d <;> simp only [Before] at hcd hdc
    omega

theorem Before.trans {c d e : Content} (hcd : c.Before d) (hde : d.Before e) : c.Before e := by
  cases c <;> cases d <;> cases e <;> simp only [Before] at hcd hde ⊢
  omega

end Content

section Order
variable {v w : Value} (hv : v.Simple) (hw : w.Simple) (htv : v.text? = none)
  (htw : w.text? = none)
include hv hw htv htw

theorem less_iff_before : v.less w = true ↔ v.content.Before w.content := by
  cases v <;> simp only [Simple, text?, reduceCtorEq] at hv htv <;> cases w <;>
    simp only [Simple, text?, reduceCtorEq] at hw htw <;>
    simp [less, number?, content, Content.Before, Number.less_scaled]

theorem before_of_not_less (h : ¬v.less w = true) (hne : v.content ≠ w.content) :
    w.content.Before v.content := by
  rw [less_iff_before hv hw htv htw] at h
  cases v <;> simp only [Simple, text?, reduceCtorEq] at hv htv <;> cases w <;>
    simp only [Simple, text?, reduceCtorEq] at hw htw <;>
    simp_all [content, Content.Before]
  all_goals omega

end Order

/-- Simple values in strict order, none of them a text. -/
structure Ordered (vs : List Value) : Prop where
  simple : ∀ v ∈ vs, v.Simple
  textless : ∀ v ∈ vs, v.text? = none
  before : vs.Pairwise fun v w => v.content.Before w.content

theorem Ordered.place {v : Value} {vs : List Value} (h : Ordered vs) (hv : v.Simple)
    (ht : v.text? = none) (hnew : ∀ w ∈ vs, v.content ≠ w.content) : Ordered (v.place vs) := by
  refine ⟨?_, ?_, ?_⟩
  · intro w hw
    obtain rfl | hw := mem_place.1 hw
    · exact hv
    · exact h.simple w hw
  · intro w hw
    obtain rfl | hw := mem_place.1 hw
    · exact ht
    · exact h.textless w hw
  · obtain ⟨hsimple, htextless, hbefore⟩ := h
    induction vs with
    | nil => simp [Value.place]
    | cons w ws ih =>
      rw [List.forall_mem_cons] at hsimple htextless hnew
      rw [List.pairwise_cons] at hbefore
      rw [Value.place]
      by_cases hless : v.less w = true
      · have hvw := (less_iff_before hv hsimple.1 ht htextless.1).1 hless
        rw [if_pos hless, List.pairwise_cons, List.forall_mem_cons]
        exact ⟨⟨hvw, fun x hx => hvw.trans (hbefore.1 x hx)⟩, List.pairwise_cons.2 hbefore⟩
      · have hwv := before_of_not_less hv hsimple.1 ht htextless.1 hless hnew.1
        rw [if_neg hless, List.pairwise_cons]
        refine ⟨fun x hx => ?_, ih hnew.2 hsimple.2 htextless.2 hbefore.2⟩
        obtain rfl | hx := mem_place.1 hx
        · exact hwv
        · exact hbefore.1 x hx

end Value
end UsageMeter
