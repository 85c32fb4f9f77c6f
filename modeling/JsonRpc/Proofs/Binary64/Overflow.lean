/-
Where whole numbers become too large.

Rounding leaves the finite magnitudes at the point halfway between the greatest of them and what would be
the next one, and at this point itself, since the greatest one has an odd significand
(`finiteRanks_le_rankOf_iff`).  For whole numbers the point is `Binary64.overflowBound`: those that reach it
are the ones that have no nearest finite number (`Binary64.ofInt?_eq_none_iff`).
-/
import JsonRpc.Proofs.Binary64.Rounding

namespace JsonRpc

/-- A quotient is rounded to more than an odd number from the half above it on. -/
theorem lt_roundDiv_iff {num den k : Nat} (hd : 0 < den) (hk : k % 2 = 1) :
    k < roundDiv num den ↔ (2 * k + 1) * den ≤ 2 * num := by
  have hmod := Nat.mod_lt num hd
  have hdiv := Nat.div_add_mod num den
  rw [roundDiv]
  generalize num / den = q at *
  generalize num % den = r at *
  have hodd : (2 * k + 1) * den = 2 * (den * k) + den := by ring
  rw [hodd]
  rcases Nat.lt_trichotomy q k with hlt | rfl | hlt
  · have hle : den * (q + 1) ≤ den * k := Nat.mul_le_mul_left den hlt
    rw [Nat.mul_add, Nat.mul_one] at hle
    refine iff_of_false ?_ (by omega)
    split <;> omega
  · -- the tie goes up, as the quotient below it is odd
    split <;> omega
  · have hle : den * (k + 1) ≤ den * q := Nat.mul_le_mul_left den hlt
    rw [Nat.mul_add, Nat.mul_one] at hle
    refine iff_of_true ?_ (by omega)
    split <;> omega

/-- A multiple of the least positive magnitude is rounded past the finite magnitudes from halfway above
the greatest one on. -/
theorem finiteRanks_le_rankOf_iff {num : Nat} :
    finiteRanks ≤ rankOf num 1 ↔ (2 ^ 54 - 1) * 2 ^ 2044 ≤ num := by
  obtain ⟨hhigh, hlow⟩ := isShift_shiftOf num (by decide : 0 < 1)
  rw [rankOf, finiteRanks]
  simp only [Nat.pow_eq, Nat.one_mul] at *
  generalize shiftOf num 1 = s at *
  rw [Nat.pow_add] at hhigh hlow
  have hpos : 0 < 2 ^ s := Nat.pow_pos (by decide)
  rcases Nat.lt_trichotomy s 2045 with hlt | hs | hlt
  · -- the quotient has few enough bits, rounded or not
    have hround : ¬ 2 ^ 53 + 1 < roundDiv num (2 ^ s) := by
      rw [lt_roundDiv_iff hpos (by decide)]
      omega
    have hsmall : 2 ^ s ≤ 2 ^ 2044 := Nat.pow_le_pow_right (by decide) (by omega)
    generalize 2 ^ 2044 = p at *
    omega
  · have hround : 2 ^ 53 - 1 < roundDiv num (2 ^ s) ↔ (2 * (2 ^ 53 - 1) + 1) * 2 ^ s ≤ 2 * num :=
      lt_roundDiv_iff hpos (by decide)
    have hhalf : 2 ^ s = 2 * 2 ^ 2044 := by rw [hs, Nat.pow_succ']
    generalize 2 ^ 2044 = p at *
    omega
  · have hround : 2 ^ 52 - 1 < roundDiv num (2 ^ s) := by
      rw [lt_roundDiv_iff hpos (by decide)]
      omega
    have hlarge : 2 ^ 2 * 2 ^ 2044 ≤ 2 ^ s := by
      rw [← Nat.pow_add]
      exact Nat.pow_le_pow_right (by decide) hlt
    generalize 2 ^ 2044 = p at *
    omega

namespace Binary64

theorem isFinite_ofRank {s : Bool} {k : Nat} : (ofRank s k).isFinite = true ↔ k < finiteRanks := by
  rw [ofRank]
  split
  · rename_i hk
    exact iff_of_true rfl hk
  · rename_i hk
    exact iff_of_false (by simp [isFinite]) hk

/-- The least magnitude of a whole number that is too large: halfway between the greatest finite number,
`2 ^ 1024 - 2 ^ 971`, and `2 ^ 1024`. -/
def overflowBound : Nat := (2 ^ 54 - 1) * 2 ^ 970

theorem ofInt?_eq_none_iff {n : Int} : ofInt? n = none ↔ overflowBound ≤ n.natAbs := by
  have hbound : (2 ^ 54 - 1) * 2 ^ 2044 = overflowBound * 2 ^ subnormalShift := by
    have hshift : 2044 = 970 + subnormalShift := rfl
    rw [overflowBound, hshift, Nat.pow_add, Nat.mul_assoc]
  simp only [ofInt?]
  rw [ite_eq_right_iff, ofRatio, roundMultiple, isFinite_ofRank, Nat.pow_eq, ← Nat.not_le,
    finiteRanks_le_rankOf_iff, hbound, Nat.mul_le_mul_right_iff (Nat.pow_pos (by decide))]
  simp

end Binary64

end JsonRpc
