/-
Rounding depends on the value alone.

The shift at which a ratio is rounded is the one that its value asks for (`IsShift`), however the
ratio is written; hence a ratio and any multiple of it are rounded to the same rank.  A magnitude is
rounded to itself, and a ratio past the finite magnitudes to an infinity.
-/
import JsonRpc.Binary64.Decimal
import JsonRpc.Proofs.Text.Digits
import Mathlib.Tactic.Ring
import Mathlib.Tactic.NormNum

namespace JsonRpc

/-! ## The shift of a ratio -/

/-- At this shift the ratio has a significand of no more than 53 bits, and of no fewer unless the
shift is zero. -/
def IsShift (num den s : Nat) : Prop :=
  num < den * 2 ^ (s + 53) ∧ (s = 0 ∨ den * 2 ^ (s + 52) ≤ num)

theorem isShift_shiftOf (num : Nat) {den : Nat} (hd : 0 < den) :
    IsShift num den (shiftOf num den) := by
  rcases Nat.eq_zero_or_pos num with rfl | hn
  · simp [IsShift, shiftOf, hd]
  have hn₁ := Nat.log2_self_le (Nat.pos_iff_ne_zero.mp hn)
  have hn₂ := Nat.lt_log2_self (n := num)
  have hd₁ := Nat.log2_self_le (Nat.pos_iff_ne_zero.mp hd)
  have hd₂ := Nat.lt_log2_self (n := den)
  rw [shiftOf]
  simp only [Nat.pow_eq]
  generalize num.log2 = a at *
  generalize den.log2 = b at *
  rcases Nat.le_total a (b + 52) with hab | hab
  · -- few enough bits at shift zero
    have hg : a - b - 52 = 0 := by omega
    have hs : (if num < den * 2 ^ (a - b - 52 + 52) then a - b - 52 - 1 else a - b - 52) = 0 := by
      rw [hg]; split <;> rfl
    rw [hs]
    refine ⟨?_, .inl rfl⟩
    calc num < 2 ^ (a + 1) := hn₂
      _ ≤ 2 ^ (b + 53) := Nat.pow_le_pow_right (by decide) (by omega)
      _ = 2 ^ b * 2 ^ 53 := Nat.pow_add ..
      _ ≤ den * 2 ^ (0 + 53) := Nat.mul_le_mul_right _ hd₁
  · -- the logarithms leave two shifts open, and one comparison tells which it is
    obtain ⟨g, rfl⟩ := Nat.exists_eq_add_of_le hab
    have hg : b + 52 + g - b - 52 = g := by omega
    rw [hg]
    have hlow : den * 2 ^ (g + 51) ≤ num := by
      calc den * 2 ^ (g + 51) ≤ 2 ^ (b + 1) * 2 ^ (g + 51) :=
            Nat.mul_le_mul_right _ (Nat.le_of_lt hd₂)
        _ = 2 ^ (b + 52 + g) := by rw [← Nat.pow_add]; congr 1; omega
        _ ≤ num := hn₁
    have hhigh : num < den * 2 ^ (g + 53) := by
      calc num < 2 ^ (b + 52 + g + 1) := hn₂
        _ = 2 ^ b * 2 ^ (g + 53) := by rw [← Nat.pow_add]; congr 1; omega
        _ ≤ den * 2 ^ (g + 53) := Nat.mul_le_mul_right _ hd₁
    split
    · rename_i hlt
      rcases Nat.eq_zero_or_pos g with rfl | hg
      · exact ⟨hhigh, .inl rfl⟩
      · obtain ⟨g, rfl⟩ := Nat.exists_eq_add_one.mpr hg
        exact ⟨hlt, .inr hlow⟩
    · rename_i hge
      exact ⟨hhigh, .inr (Nat.le_of_not_lt hge)⟩

theorem IsShift.le {num den s s' : Nat} (h : IsShift num den s) (h' : IsShift num den s') :
    s' ≤ s := by
  rcases h'.2 with rfl | hlow
  · exact Nat.zero_le s
  have hlt := Nat.lt_of_mul_lt_mul_left (Nat.lt_of_le_of_lt hlow h.1)
  have := (Nat.pow_lt_pow_iff_right (by decide : 1 < 2)).mp hlt
  omega

theorem shiftOf_eq {num den s : Nat} (hd : 0 < den) (h : IsShift num den s) :
    shiftOf num den = s :=
  Nat.le_antisymm (h.le (isShift_shiftOf num hd)) ((isShift_shiftOf num hd).le h)

/-! ## Ranks of ratios -/

theorem roundDiv_scale (num den : Nat) {c : Nat} (hc : 0 < c) :
    roundDiv (num * c) (den * c) = roundDiv num den := by
  have hlt : 2 * (num % den * c) < den * c ↔ 2 * (num % den) < den := by
    rw [← Nat.mul_assoc]
    exact Nat.mul_lt_mul_right hc
  have heq : 2 * (num % den * c) = den * c ↔ 2 * (num % den) = den := by
    rw [← Nat.mul_assoc]
    exact Nat.mul_left_inj (Nat.pos_iff_ne_zero.mp hc)
  simp only [roundDiv, Nat.mul_div_mul_right _ _ hc, Nat.mul_mod_mul_right, hlt, heq]

theorem roundDiv_mul (n : Nat) {den : Nat} (hd : 0 < den) : roundDiv (n * den) den = n := by
  simp [roundDiv, Nat.mul_div_cancel _ hd, hd]

theorem rankOf_scale (num : Nat) {den c : Nat} (hd : 0 < den) (hc : 0 < c) :
    rankOf (num * c) (den * c) = rankOf num den := by
  have hs : shiftOf (num * c) (den * c) = shiftOf num den := by
    refine shiftOf_eq (Nat.mul_pos hd hc) ?_
    obtain ⟨h₁, h₂⟩ := isShift_shiftOf num hd
    refine ⟨?_, h₂.imp_right fun h => ?_⟩
    · rw [Nat.mul_right_comm]
      exact Nat.mul_lt_mul_of_pos_right h₁ hc
    · rw [Nat.mul_right_comm]
      exact Nat.mul_le_mul_right c h
  rw [rankOf, rankOf, hs, Nat.mul_right_comm, roundDiv_scale _ _ hc]

/-- Equal ratios have the same rank. -/
theorem rankOf_congr {a b c d : Nat} (hb : 0 < b) (hd : 0 < d) (h : a * d = c * b) :
    rankOf a b = rankOf c d := by
  rw [← rankOf_scale a hb hd, ← rankOf_scale c hd hb, h, Nat.mul_comm b d]

/-- A ratio of at least 2^2099 multiples of the least positive magnitude is past the finite ones. -/
theorem finiteRanks_le_rankOf {num den m : Nat} (hd : 0 < den) (hm : 2099 ≤ m)
    (h : den * 2 ^ m ≤ num) :
    finiteRanks ≤ rankOf num den := by
  have hs : 2047 ≤ shiftOf num den := by
    by_contra hlt
    have h₁ := Nat.lt_of_mul_lt_mul_left (Nat.lt_of_le_of_lt h (isShift_shiftOf num hd).1)
    have := (Nat.pow_lt_pow_iff_right (by decide : 1 < 2)).mp h₁
    omega
  have hm := Nat.mul_le_mul_right (Nat.pow 2 52) hs
  exact Nat.le_trans hm (Nat.le_add_right _ _)

namespace Magnitude

theorem multiple_pos {k : Magnitude} (hk : k.val ≠ 0) : 0 < k.multiple := by
  refine Nat.mul_pos ?_ (Nat.pow_pos (by decide))
  rw [significand]
  simp only [Nat.pow_eq]
  split <;> omega

/-- A magnitude has its own rank. -/
theorem rankOf_multiple (k : Magnitude) : rankOf k.multiple 1 = k.val := by
  by_cases hk : k.val < 2 ^ 52
  · have hm : k.multiple = k.val := by
      have hdiv : k.val / 2 ^ 52 = 0 := Nat.div_eq_of_lt hk
      simp only [multiple, significand, shift, Nat.pow_eq, if_pos hk, hdiv]
      simp
    have hs : shiftOf k.val 1 = 0 :=
      shiftOf_eq (by decide) ⟨by omega, .inl rfl⟩
    rw [hm, rankOf, hs]
    simpa using roundDiv_mul k.val (by decide : 0 < 1)
  · obtain ⟨j, hj⟩ : ∃ j, k.val / 2 ^ 52 = j + 1 :=
      Nat.exists_eq_add_one.mpr (Nat.div_pos (by omega) (by decide))
    have hm : k.multiple = (2 ^ 52 + k.val % 2 ^ 52) * 2 ^ j := by
      simp only [multiple, significand, shift, Nat.pow_eq, if_neg hk, hj]
      simp
    have hs : shiftOf k.multiple 1 = j := by
      rw [hm]
      refine shiftOf_eq (by decide) ⟨?_, .inr ?_⟩
      · rw [Nat.one_mul, Nat.add_comm j, Nat.pow_add]
        exact Nat.mul_lt_mul_of_pos_right (by omega) (Nat.pow_pos (by decide))
      · rw [Nat.one_mul, Nat.add_comm j, Nat.pow_add]
        exact Nat.mul_le_mul_right _ (by omega)
    rw [rankOf, hs, hm, Nat.one_mul]
    simp only [Nat.pow_eq]
    rw [roundDiv_mul _ (Nat.pow_pos (by decide))]
    omega

end Magnitude

end JsonRpc
