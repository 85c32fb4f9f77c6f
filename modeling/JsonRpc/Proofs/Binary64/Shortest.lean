/-
The shortest decimal of a magnitude is read as the magnitude.

A decimal is read as a number by its value: digits may be moved across the exponent, as they are when
zeros at the end are left out or a point is set, and the number stays the same
(`ofDecimal_of_isReadFrom`).
-/
import JsonRpc.Proofs.Binary64.Rounding

namespace JsonRpc

theorem pow_mul_le_pow_mul {a b m n : Nat} (h : a ^ m ≤ b ^ n) (k : Nat) :
    a ^ (m * k) ≤ b ^ (n * k) := by
  rw [Nat.pow_mul, Nat.pow_mul]
  exact Nat.pow_le_pow_left h k

namespace Binary64

theorem ofRank_eq_finite_iff {s : Bool} {r : Nat} {k : Magnitude} :
    ofRank s r = .finite s k ↔ r = k.val := by
  rw [ofRank]
  split
  · rw [Binary64.finite.injEq, Fin.ext_iff]
    simp
  · rename_i h
    have := k.isLt
    simp
    omega

/-- Equal ratios are rounded to the same number. -/
theorem ofRatio_congr (s : Bool) {a b c d : Nat} (hb : 0 < b) (hd : 0 < d)
    (h : a * d = c * b) : ofRatio s a b = ofRatio s c d := by
  rw [ofRatio, ofRatio, roundMultiple, roundMultiple,
    rankOf_congr hb hd (by rw [Nat.mul_right_comm, h, Nat.mul_right_comm])]

/-- A decimal that is neither zero nor far out of range is the ratio that it denotes. -/
theorem ofDecimal_eq_ofRatio (s : Bool) {length : Nat} {d : Decimal} (h₀ : d.digits ≠ 0)
    (hhigh : d.exponent < 310) (hlow : -330 ≤ d.exponent + length) :
    ofDecimal s length d =
      ofRatio s (d.digits * 10 ^ d.exponent.toNat) (10 ^ (-d.exponent).toNat) := by
  have h₁ : ¬ 310 ≤ d.exponent := by omega
  have h₂ : ¬ d.exponent + length < -330 := by omega
  simp only [ofDecimal, if_neg h₀, if_neg h₁, if_neg h₂, Nat.pow_eq]
  split
  · have he : (-d.exponent).toNat = 0 := by omega
    rw [he, Nat.pow_zero]
  · have he : d.exponent.toNat = 0 := by omega
    rw [he, Nat.pow_zero, Nat.mul_one]

/-- A ratio that is no less than 2^1025 is past the finite magnitudes. -/
theorem ofRatio_large {s : Bool} {m n : Nat} (hm : 1025 ≤ m) (h : 2 ^ m ≤ n) (k : Magnitude) :
    ofRatio s n 1 ≠ .finite s k := by
  intro hr
  rw [ofRatio, roundMultiple, ofRank_eq_finite_iff] at hr
  have hscaled : 1 * 2 ^ (m + subnormalShift) ≤ n * Nat.pow 2 subnormalShift := by
    rw [Nat.one_mul, Nat.pow_add, Nat.pow_eq]
    gcongr
  have hle : finiteRanks ≤ rankOf (n * Nat.pow 2 subnormalShift) 1 :=
    finiteRanks_le_rankOf (by decide) (Nat.add_le_add_right hm 1074) hscaled
  have hlt := k.isLt
  rw [← hr] at hlt
  exact Nat.not_lt_of_le hle hlt

end Binary64

namespace Magnitude

open Binary64

/-- A decimal that is read as a magnitude denotes a ratio that is rounded to it. -/
theorem ofRatio_of_isReadFrom {k : Magnitude} (hk : k.val ≠ 0) {d : Decimal}
    (h : k.isReadFrom d = true) :
    d.digits ≠ 0 ∧ d.exponent < 310 ∧ -330 ≤ d.exponent + (digits d.digits).length ∧
      ofRatio false (d.digits * 10 ^ d.exponent.toNat) (10 ^ (-d.exponent).toNat)
        = .finite false k := by
  have hz : Magnitude.zero ≠ k := fun he => hk (he ▸ rfl)
  have h : ofDecimal false (digits d.digits).length d = .finite false k := by
    simpa [isReadFrom] using h
  have h₀ : d.digits ≠ 0 := by
    intro h₀
    simp [ofDecimal, h₀, hz] at h
  have h₁ : ¬ 310 ≤ d.exponent := by
    intro h₁
    simp [ofDecimal, h₀, h₁] at h
  have h₂ : ¬ d.exponent + (digits d.digits).length < -330 := by
    intro h₂
    simp [ofDecimal, h₀, h₁, h₂, hz] at h
  have hhigh := Int.lt_of_not_ge h₁
  have hlow := Int.le_of_not_gt h₂
  exact ⟨h₀, hhigh, hlow, (ofDecimal_eq_ofRatio false h₀ hhigh hlow).symm.trans h⟩

/-- Reading does not depend on how the value of a decimal is shared between digits and exponent: if
`n * 10 ^ z` with the exponent `e - z` is read as a magnitude, so is `n * 10 ^ x` with `e - x`, of
either sign. -/
theorem ofDecimal_of_isReadFrom {k : Magnitude} (hk : k.val ≠ 0) {n z x length : Nat} {e : Int}
    (h : k.isReadFrom ⟨n * 10 ^ z, e - z⟩ = true) (hlow : -330 ≤ e - x + length) (s : Bool) :
    ofDecimal s length ⟨n * 10 ^ x, e - x⟩ = .finite s k := by
  obtain ⟨h₀, _, _, hr⟩ := ofRatio_of_isReadFrom hk h
  have hn : n ≠ 0 := by
    rintro rfl
    simp at h₀
  have hsame : ofRatio false (n * 10 ^ x * 10 ^ (e - x).toNat) (10 ^ (-(e - x)).toNat)
      = .finite false k := by
    rw [← hr]
    refine ofRatio_congr false (Nat.pow_pos (by decide)) (Nat.pow_pos (by decide)) ?_
    have hexp : x + (e - x).toNat + (-(e - z)).toNat = z + (e - z).toNat + (-(e - x)).toNat := by
      omega
    simp only [Nat.mul_assoc, ← Nat.pow_add, hexp]
  have hhigh : e - x < 310 := by
    by_contra hge
    have he : (-(e - x)).toNat = 0 := by omega
    rw [he, Nat.pow_zero] at hsame
    generalize hj : (e - x).toNat = j at hsame
    refine ofRatio_large (m := 205 * (j / 62)) (by omega) ?_ k hsame
    calc 2 ^ (205 * (j / 62)) ≤ 10 ^ (62 * (j / 62)) :=
          pow_mul_le_pow_mul (by norm_num : 2 ^ 205 ≤ 10 ^ 62) _
      _ ≤ 10 ^ j := Nat.pow_le_pow_right (by decide) (Nat.mul_div_le j 62)
      _ ≤ n * 10 ^ x * 10 ^ j :=
        Nat.le_mul_of_pos_left _ (Nat.mul_pos (Nat.pos_of_ne_zero hn) (Nat.pow_pos (by decide)))
  have hx : n * 10 ^ x ≠ 0 := Nat.mul_ne_zero hn (Nat.ne_of_gt (Nat.pow_pos (by decide)))
  rw [ofDecimal_eq_ofRatio s hx hhigh hlow]
  simp only [ofRatio, roundMultiple, ofRank_eq_finite_iff] at hsame ⊢
  exact hsame

/-! ## The shortest decimal -/

theorem isReadFrom_of_decimalAt? {k : Magnitude} {e : Int} {d : Decimal}
    (h : k.decimalAt? e = some d) : k.isReadFrom d = true := by
  simp only [decimalAt?] at h
  generalize k.scaled e = r at h
  obtain ⟨num, den⟩ := r
  simp only at h
  split at h
  · rename_i hb ha
    obtain rfl := Option.some.inj h
    -- the rounded quotient is one of the two neighbours
    rw [roundDiv]
    split
    · exact hb
    · exact ha
  · rename_i hb _
    obtain rfl := Option.some.inj h
    exact hb
  · rename_i _ ha
    obtain rfl := Option.some.inj h
    exact ha
  · exact absurd h (by simp)

theorem digits_exactDecimal (k : Magnitude) :
    k.exactDecimal.digits = k.multiple * 5 ^ subnormalShift := by
  rw [exactDecimal, Nat.pow_eq]

theorem isReadFrom_exactDecimal {k : Magnitude} (hk : k.val ≠ 0) :
    k.isReadFrom k.exactDecimal = true := by
  have hpos := multiple_pos hk
  obtain ⟨q, hq, hshift⟩ : ∃ q, q = 6 ∧ subnormalShift = 179 * q := ⟨6, rfl, rfl⟩
  have hdigits : 125 * q < (digits k.exactDecimal.digits).length := by
    rw [digits_exactDecimal]
    refine lt_length_digits ?_
    calc 10 ^ (125 * q) ≤ 5 ^ (179 * q) :=
          pow_mul_le_pow_mul (by norm_num : 10 ^ 125 ≤ 5 ^ 179) q
      _ = 5 ^ subnormalShift := by rw [hshift]
      _ ≤ k.multiple * 5 ^ subnormalShift := Nat.le_mul_of_pos_left _ hpos
  have hne : k.exactDecimal.digits ≠ 0 := by
    rw [digits_exactDecimal]
    exact Nat.mul_ne_zero (Nat.ne_of_gt hpos) (Nat.ne_of_gt (Nat.pow_pos (by decide)))
  have hexp : k.exactDecimal.exponent = -(subnormalShift : Int) := rfl
  rw [isReadFrom, decide_eq_true_eq, ofDecimal_eq_ofRatio false hne (by omega) (by omega), hexp]
  simp only [ofRatio, roundMultiple, ofRank_eq_finite_iff]
  have hup : (-(subnormalShift : Int)).toNat = 0 := by omega
  have hdown : (- -(subnormalShift : Int)).toNat = subnormalShift := by omega
  rw [hup, hdown]
  calc rankOf (k.exactDecimal.digits * 10 ^ 0 * Nat.pow 2 subnormalShift) (10 ^ subnormalShift)
      = rankOf k.multiple 1 := by
        refine rankOf_congr (Nat.pow_pos (by decide)) (by decide) ?_
        rw [exactDecimal, Nat.pow_zero, Nat.mul_one, Nat.mul_one, Nat.pow_eq, Nat.pow_eq,
          Nat.mul_assoc, ← Nat.mul_pow]
    _ = k.val := rankOf_multiple k

theorem isReadFrom_shortest {k : Magnitude} (hk : k.val ≠ 0) :
    k.isReadFrom k.shortest = true := by
  rw [shortest]
  generalize hh : (List.range 17).findSome? _ = hit
  cases hit with
  | none => exact isReadFrom_exactDecimal hk
  | some d =>
      obtain ⟨i, _, hi⟩ := List.exists_of_findSome?_eq_some hh
      exact isReadFrom_of_decimalAt? hi

end Magnitude

end JsonRpc
