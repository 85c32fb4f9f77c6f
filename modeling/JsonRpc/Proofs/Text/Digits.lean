/-
Digits and the numbers they denote.

Writing a number and reading the digits gives the number back, and the digits that are written are
the fewest there are: a number of at least `10 ^ k` has more than `k` digits, and a run of digits
that denotes the number is no shorter than its own.
-/
import JsonRpc.Text.Decimal
import Mathlib.Data.List.Induction
import Mathlib.Tactic.Ring

namespace JsonRpc

theorem CodePoint.digit?_eq_some {c : CodePoint} {d : Fin 10} (h : c.digit? = some d) :
    c = .ofDigit d := by
  simp only [digit?] at h
  split at h
  · rename_i hc
    obtain rfl := Option.some.inj h
    cases c
    simp only [ofDigit, mk.injEq]
    simp only at hc
    omega
  · exact absurd h (by simp)

theorem CodePoint.isDigit_iff {c : CodePoint} : c.isDigit = true ↔ ∃ d, ofDigit d = c := by
  rw [isDigit, Option.isSome_iff_exists]
  constructor
  · rintro ⟨d, hd⟩
    exact ⟨d, (digit?_eq_some hd).symm⟩
  · rintro ⟨d, rfl⟩
    exact ⟨d, digit?_ofDigit d⟩

/-! ## What a run of digits denotes -/

/-- Digits that follow a number shift it to the left. -/
theorem foldl_digits (ds : List (Fin 10)) (n : Nat) :
    ds.foldl (fun n d => 10 * n + d.val) n = n * 10 ^ ds.length + ofDigits ds := by
  induction ds generalizing n with
  | nil => simp [ofDigits]
  | cons d ds ih =>
      have first : ofDigits (d :: ds) = d.val * 10 ^ ds.length + ofDigits ds := by
        rw [ofDigits, List.foldl_cons, ih, Nat.mul_zero, Nat.zero_add]
      rw [List.foldl_cons, ih, first, List.length_cons, Nat.pow_succ]
      ring

theorem ofDigits_cons (d : Fin 10) (ds : List (Fin 10)) :
    ofDigits (d :: ds) = d.val * 10 ^ ds.length + ofDigits ds := by
  rw [ofDigits, List.foldl_cons, foldl_digits, Nat.mul_zero, Nat.zero_add]

theorem ofDigits_append (ds es : List (Fin 10)) :
    ofDigits (ds ++ es) = ofDigits ds * 10 ^ es.length + ofDigits es := by
  induction ds with
  | nil => simp [ofDigits]
  | cons d ds ih =>
      simp only [List.cons_append, ofDigits_cons, ih, List.length_append, Nat.pow_add]
      ring

theorem ofDigits_zeros (n : Nat) : ofDigits (List.replicate n 0) = 0 := by
  induction n with
  | zero => rfl
  | succ n ih => simp [List.replicate_succ, ofDigits_cons, ih]

theorem ofDigits_lt (ds : List (Fin 10)) : ofDigits ds < 10 ^ ds.length := by
  induction ds with
  | nil => simp [ofDigits]
  | cons d ds ih =>
      have hd : d.val * 10 ^ ds.length ≤ 9 * 10 ^ ds.length :=
        Nat.mul_le_mul_right _ (by omega)
      simp only [ofDigits_cons, List.length_cons, Nat.pow_succ]
      omega

/-- A run of digits with no zero in front denotes a number that needs all of them. -/
theorem pow_le_ofDigits_cons {d : Fin 10} (hd : d ≠ 0) (ds : List (Fin 10)) :
    10 ^ ds.length ≤ ofDigits (d :: ds) := by
  have h : 1 * 10 ^ ds.length ≤ d.val * 10 ^ ds.length :=
    Nat.mul_le_mul_right _ (by omega)
  rw [ofDigits_cons]
  omega

/-! ## The digits of a number -/

theorem digitsOnto_of_lt {n : Nat} (h : n < 10) (tail : List (Fin 10)) :
    digitsOnto n tail = ⟨n, h⟩ :: tail := by
  rw [digitsOnto, dif_pos h]

theorem digitsOnto_of_ge {n : Nat} (h : 10 ≤ n) (tail : List (Fin 10)) :
    digitsOnto n tail = digitsOnto (n / 10) (⟨n % 10, Nat.mod_lt n (by decide)⟩ :: tail) := by
  rw [digitsOnto, dif_neg (by omega)]

theorem digitsOnto_eq (n : Nat) (tail : List (Fin 10)) :
    digitsOnto n tail = digits n ++ tail := by
  induction n using Nat.strongRecOn generalizing tail with
  | ind n ih =>
      by_cases h : n < 10
      · rw [digits, digitsOnto_of_lt h, digitsOnto_of_lt h, List.cons_append, List.nil_append]
      · have h : 10 ≤ n := Nat.le_of_not_lt h
        rw [digits, digitsOnto_of_ge h tail, digitsOnto_of_ge h [], ih (n / 10) (by omega),
          ih (n / 10) (by omega), List.append_assoc, List.cons_append, List.nil_append]

theorem digits_of_lt {n : Nat} (h : n < 10) : digits n = [⟨n, h⟩] := by
  rw [digits, digitsOnto_of_lt h]

theorem digits_of_ge {n : Nat} (h : 10 ≤ n) :
    digits n = digits (n / 10) ++ [⟨n % 10, Nat.mod_lt n (by decide)⟩] := by
  rw [digits, digitsOnto_of_ge h, digitsOnto_eq]

theorem ofDigits_digits (n : Nat) : ofDigits (digits n) = n := by
  induction n using Nat.strongRecOn with
  | ind n ih =>
      by_cases h : n < 10
      · simp [digits_of_lt h, ofDigits]
      · rw [digits_of_ge (by omega), ofDigits_append, ih (n / 10) (by omega)]
        simp [ofDigits]
        omega

/-- The digits of a positive number start with another digit than zero. -/
theorem digits_eq_cons {n : Nat} (h : 0 < n) : ∃ d ds, digits n = d :: ds ∧ d ≠ 0 := by
  induction n using Nat.strongRecOn with
  | ind n ih =>
      by_cases h₁ : n < 10
      · exact ⟨⟨n, h₁⟩, [], digits_of_lt h₁, by simp [Fin.ext_iff]; omega⟩
      · obtain ⟨d, ds, hds, hd⟩ := ih (n / 10) (by omega) (by omega)
        refine ⟨d, ds ++ [⟨n % 10, Nat.mod_lt n (by decide)⟩], ?_, hd⟩
        rw [digits_of_ge (by omega), hds, List.cons_append]

theorem digits_ne_nil (n : Nat) : digits n ≠ [] := by
  by_cases h : n < 10
  · simp [digits_of_lt h]
  · simp [digits_of_ge (Nat.le_of_not_lt h)]

/-- A number of at least `10 ^ k` has more than `k` digits. -/
theorem lt_length_digits {n k : Nat} (h : 10 ^ k ≤ n) : k < (digits n).length := by
  have hn := ofDigits_lt (digits n)
  rw [ofDigits_digits] at hn
  exact (Nat.pow_lt_pow_iff_right (by decide)).mp (Nat.lt_of_le_of_lt h hn)

/-- A number below `10 ^ k` has at most `k` digits. -/
theorem length_digits_le {n k : Nat} (hk : 0 < k) (h : n < 10 ^ k) : (digits n).length ≤ k := by
  rcases Nat.eq_zero_or_pos n with rfl | hn
  · rw [digits_of_lt (by decide)]
    exact hk
  · obtain ⟨d, ds, hds, hd⟩ := digits_eq_cons hn
    have hle : 10 ^ ds.length ≤ n := by
      rw [← ofDigits_digits n, hds]
      exact pow_le_ofDigits_cons hd ds
    rw [hds]
    exact (Nat.pow_lt_pow_iff_right (by decide)).mp (Nat.lt_of_le_of_lt hle h)

/-- No run of digits is shorter than the digits of the number that it denotes, unless it is empty. -/
theorem length_digits_ofDigits_le {ds : List (Fin 10)} (h : ds ≠ []) :
    (digits (ofDigits ds)).length ≤ ds.length := by
  by_cases h₀ : ofDigits ds = 0
  · rw [h₀, digits_of_lt (by decide)]
    exact List.length_pos_iff.mpr h
  · obtain ⟨d, es, hes, hd⟩ := digits_eq_cons (Nat.pos_of_ne_zero h₀)
    have hle : 10 ^ es.length ≤ ofDigits ds := by
      calc 10 ^ es.length ≤ ofDigits (d :: es) := pow_le_ofDigits_cons hd es
        _ = ofDigits ds := by rw [← hes, ofDigits_digits]
    have hlt := Nat.lt_of_le_of_lt hle (ofDigits_lt ds)
    rw [hes]
    exact (Nat.pow_lt_pow_iff_right (by decide)).mp hlt

/-- A run of digits is the digits of the number that it denotes, but for zeros in front. -/
theorem eq_zeros_append_digits {ds : List (Fin 10)} (h : ds ≠ []) :
    ∃ k, ds = List.replicate k 0 ++ digits (ofDigits ds) := by
  induction ds using List.reverseRecOn with
  | nil => exact absurd rfl h
  | append_singleton ds d ih =>
      have hvalue : ofDigits (ds ++ [d]) = 10 * ofDigits ds + d.val := by
        rw [ofDigits_append, Nat.mul_comm]
        simp [ofDigits]
      by_cases hds : ds = []
      · subst hds
        exact ⟨0, by simp [ofDigits, digits_of_lt d.isLt]⟩
      obtain ⟨k, hk⟩ := ih hds
      rw [hvalue]
      by_cases hzero : ofDigits ds = 0
      · rw [hzero, digits_of_lt (by decide)] at hk
        refine ⟨k + 1, ?_⟩
        simp only [hzero, Nat.mul_zero, Nat.zero_add, digits_of_lt d.isLt]
        rw [hk, List.replicate_succ']
        rfl
      · refine ⟨k, ?_⟩
        have hdiv : (10 * ofDigits ds + d.val) / 10 = ofDigits ds := by omega
        have hmod : (10 * ofDigits ds + d.val) % 10 = d.val := by omega
        rw [digits_of_ge (by omega), hdiv, ← List.append_assoc, ← hk]
        simp only [hmod]

end JsonRpc
