/-
Numbers are read as they are written.

The text of a whole number is a number without fraction and exponent.  The text of a finite
double-precision number has one or the other, and denotes the decimal that it lays out: a point may
be set between the digits, zeros may be added at either end and left out at the far one, but the
value stays (`Denotes`).  As reading depends on the value alone, the shortest decimal is read as the
number that was written.
-/
import JsonRpc.Proofs.Json.Grammar
import JsonRpc.Proofs.Binary64.Shortest
import Mathlib.Data.List.TakeWhile

namespace JsonRpc.Json.Grammar

open Magnitude

/-! ## Runs of digits -/

theorem digits_map (ds : List (Fin 10)) (rest : Text) :
    Digits (ds.map CodePoint.ofDigit ++ rest) ds rest := by
  induction ds with
  | nil => exact .nil rest
  | cons d ds ih => exact .cons (CodePoint.digit?_ofDigit d) ih

theorem whole_map {d : Fin 10} (hd : d ≠ 0) (ds : List (Fin 10)) (rest : Text) :
    Whole ((d :: ds).map CodePoint.ofDigit ++ rest) (d :: ds) rest :=
  .digits (CodePoint.digit?_ofDigit d) hd (digits_map ds rest)

theorem fraction_map {ds : List (Fin 10)} (hds : ds ≠ []) (rest : Text) :
    Fraction (.ofChar '.' :: (ds.map CodePoint.ofDigit ++ rest)) ds rest :=
  .present (digits_map ds rest) hds

theorem replicate_zero (n : Nat) :
    List.replicate n (CodePoint.ofChar '0')
      = (List.replicate n (0 : Fin 10)).map CodePoint.ofDigit := by
  rw [List.map_replicate]
  rfl

/-! ## Whole numbers -/

theorem whole_ofNat (n : Nat) (rest : Text) : Whole (Text.ofNat n ++ rest) (digits n) rest := by
  rcases Nat.eq_zero_or_pos n with rfl | hn
  · rw [Text.ofNat, digits_of_lt (by decide)]
    exact .zero rfl
  · obtain ⟨d, ds, hds, hd⟩ := digits_eq_cons hn
    rw [Text.ofNat, hds]
    exact whole_map hd ds rest

/-- The text of a whole number spells its sign and its digits. -/
theorem number_ofInt (n : Int) (rest : Text) :
    Number (Text.ofInt n ++ rest) ⟨decide (n < 0), digits n.natAbs, [], none⟩ rest := by
  cases n with
  | ofNat n =>
      have hs : decide (Int.ofNat n < 0) = false :=
        decide_eq_false (Int.not_lt.mpr (Int.natCast_nonneg n))
      rw [hs]
      exact .mk (.absent _) (whole_ofNat n rest) (.absent rest) (.absent rest)
  | negSucc n =>
      have hs : decide (Int.negSucc n < 0) = true := decide_eq_true (Int.negSucc_lt_zero n)
      rw [hs]
      exact .mk (.present _) (whole_ofNat (n + 1) rest) (.absent rest) (.absent rest)

theorem signed_natAbs (n : Int) : Text.signed (decide (n < 0)) n.natAbs = n := by
  rw [Text.signed]
  split
  · rename_i h
    have := of_decide_eq_true h
    omega
  · rename_i h
    have : ¬ n < 0 := fun hn => h (decide_eq_true hn)
    omega

theorem denoted_ofInt (n : Int) :
    denoted ⟨decide (n < 0), digits n.natAbs, [], none⟩ = .int n := by
  simp [denoted, IsWhole, ofDigits_digits, signed_natAbs]

/-! ## The digits that a decimal is laid out with -/

/-- A run of digits without the zeros at its end. -/
theorem append_zeros (ds : List (Fin 10)) :
    ∃ z, ds = (ds.reverse.dropWhile (· = 0)).reverse ++ List.replicate z 0 := by
  have hz : ∀ e ∈ ds.reverse.takeWhile (· = 0), e = 0 := by
    intro e he
    simpa using List.mem_takeWhile_imp he
  refine ⟨(ds.reverse.takeWhile (· = 0)).length, ?_⟩
  rw [← List.reverse_replicate, ← List.reverse_append, ← List.eq_replicate_of_mem hz,
    List.takeWhile_append_dropWhile, List.reverse_reverse]

/-- The digits of a positive number are some that start with another digit than zero, and zeros. -/
theorem significant_digits {n : Nat} (hn : n ≠ 0) :
    ∃ d ds z, d ≠ 0 ∧ ((digits n).reverse.dropWhile (· = 0)).reverse = d :: ds ∧
      (digits n).length = (d :: ds).length + z ∧ n = ofDigits (d :: ds) * 10 ^ z := by
  obtain ⟨d, es, hes, hd⟩ := digits_eq_cons (Nat.pos_of_ne_zero hn)
  obtain ⟨z, hz⟩ := append_zeros (digits n)
  generalize ((digits n).reverse.dropWhile (· = 0)).reverse = ds at hz
  have hvalue : n = ofDigits ds * 10 ^ z := by
    rw [← ofDigits_digits n, hz, ofDigits_append, ofDigits_zeros, List.length_replicate,
      Nat.add_zero]
  cases ds with
  | nil => exact absurd (by simpa [ofDigits] using hvalue) hn
  | cons d' ds =>
      obtain ⟨rfl, _⟩ := List.cons.inj (hes.symm.trans hz)
      exact ⟨d, ds, z, hd, rfl, by rw [hz, List.length_append, List.length_replicate], hvalue⟩

/-- The number with these parts, without a sign, stands before `rest`. -/
def Unsigned (t : Text) (w f : List (Fin 10)) (e : Option (Bool × List (Fin 10))) (rest : Text) :
    Prop :=
  ∃ t₁ t₂, Whole t w t₁ ∧ Fraction t₁ f t₂ ∧ Exponent t₂ e rest

/-- The digits `w` and `f` around a point and the exponent `e` write the decimal `n * 10 ^ p`: they
have `x` zeros more at the end, and do not reach further down than the least position `low`. -/
def Writes (n : Nat) (p low : Int) (w f : List (Fin 10)) (e : Option (Bool × List (Fin 10))) :
    Prop :=
  ∃ x : Nat, ofDigits (w ++ f) = n * 10 ^ x ∧ (Numeral.mk false w f e).scale = p - x ∧
    (low ≤ p - x + (w ++ f).length ∨ 0 ≤ p - x + (w ++ f).length)

section
variable {d : Fin 10} (hd : d ≠ 0) (ds : List (Fin 10)) (rest : Text)

/-- With the point before all digits. -/
theorem unsigned_below (m : Nat) :
    Unsigned (Text.of "0." ++ List.replicate m (.ofChar '0')
        ++ (d :: ds).map CodePoint.ofDigit ++ rest)
      [0] (List.replicate m 0 ++ d :: ds) none rest := by
  have hf : List.replicate m (0 : Fin 10) ++ d :: ds ≠ [] := by simp
  have h := fraction_map hf rest
  rw [List.map_append, ← replicate_zero, List.append_assoc] at h
  have htext : Text.of "0." = [.ofChar '0', .ofChar '.'] := rfl
  rw [htext, List.append_assoc, List.append_assoc]
  exact ⟨_, rest, .zero rfl, h, .absent rest⟩

include hd in
/-- With the point between two digits. -/
theorem unsigned_between {p : Nat} (h₀ : 0 < p) (hp : p < (d :: ds).length) :
    Unsigned (((d :: ds).map CodePoint.ofDigit).take p ++ Text.of "."
        ++ ((d :: ds).map CodePoint.ofDigit).drop p ++ rest)
      ((d :: ds).take p) ((d :: ds).drop p) none rest := by
  obtain ⟨q, rfl⟩ := Nat.exists_eq_add_one.mpr h₀
  have hf : (d :: ds).drop (q + 1) ≠ [] := by
    rw [ne_eq, List.drop_eq_nil_iff]
    exact Nat.not_le_of_lt hp
  refine ⟨_, _, ?_, fraction_map hf rest, .absent rest⟩
  have hw := whole_map hd (ds.take q)
    (.ofChar '.' :: (((d :: ds).drop (q + 1)).map CodePoint.ofDigit ++ rest))
  simpa [List.map_take, List.map_drop, Text.of] using hw

include hd in
/-- With the point behind all digits. -/
theorem unsigned_above (m : Nat) :
    Unsigned ((d :: ds).map CodePoint.ofDigit ++ List.replicate m (.ofChar '0') ++ Text.of ".0"
        ++ rest)
      (d :: ds ++ List.replicate m 0) [0] none rest := by
  refine ⟨_, _, ?_, fraction_map (List.cons_ne_nil 0 []) rest, .absent rest⟩
  have hw := whole_map hd (ds ++ List.replicate m 0)
    (.ofChar '.' :: (([0] : List (Fin 10)).map CodePoint.ofDigit ++ rest))
  rw [List.map_cons, List.map_append, ← replicate_zero] at hw
  have hzero : CodePoint.ofDigit 0 = .ofChar '0' := rfl
  simpa [Text.of, hzero] using hw

/-- The digits of an exponent. -/
theorem digits_padZeros (n : Nat) :
    Digits (padZeros 2 (Text.ofNat n) ++ rest)
      (List.replicate (2 - (digits n).length) 0 ++ digits n) rest := by
  have h := digits_map (List.replicate (2 - (digits n).length) 0 ++ digits n) rest
  rw [List.map_append, ← replicate_zero] at h
  simpa [padZeros, Text.ofNat] using h

theorem exponent_text (e : Int) :
    ∃ es, ofDigits es = e.natAbs ∧
      Exponent (Text.of "e" ++ (if e < 0 then Text.of "-" else Text.of "+")
          ++ padZeros 2 (Text.ofNat e.natAbs) ++ rest)
        (some (decide (e < 0), es)) rest := by
  refine ⟨List.replicate (2 - (digits e.natAbs).length) 0 ++ digits e.natAbs, ?_, ?_⟩
  · rw [ofDigits_append, ofDigits_zeros, ofDigits_digits, Nat.zero_mul, Nat.zero_add]
  · have hne : List.replicate (2 - (digits e.natAbs).length) 0 ++ digits e.natAbs ≠ [] := by
      simp [digits_ne_nil]
    by_cases he : e < 0
    · rw [if_pos he, decide_eq_true he]
      exact .present (.inl rfl) (.minus _) (digits_padZeros rest _) hne
    · rw [if_neg he, decide_eq_false he]
      exact .present (.inl rfl) (.plus _) (digits_padZeros rest _) hne

include hd in
/-- With an exponent. -/
theorem unsigned_scientific (e : Int) :
    ∃ es, ofDigits es = e.natAbs ∧
      Unsigned (((d :: ds).map CodePoint.ofDigit).take 1
          ++ (if ((d :: ds).map CodePoint.ofDigit).length ≤ 1 then []
              else Text.of "." ++ ((d :: ds).map CodePoint.ofDigit).drop 1)
          ++ Text.of "e" ++ (if e < 0 then Text.of "-" else Text.of "+")
          ++ padZeros 2 (Text.ofNat e.natAbs) ++ rest)
        [d] ds (some (decide (e < 0), es)) rest := by
  obtain ⟨es, hes, he⟩ := exponent_text rest e
  refine ⟨es, hes, ?_⟩
  generalize ht : Text.of "e" ++ (if e < 0 then Text.of "-" else Text.of "+")
    ++ padZeros 2 (Text.ofNat e.natAbs) ++ rest = t at he
  have hw (after : Text) := whole_map hd [] after
  cases ds with
  | nil =>
      refine ⟨_, _, ?_, .absent t, he⟩
      simpa [← ht] using hw t
  | cons d₁ ds =>
      refine ⟨_, _, ?_, fraction_map (List.cons_ne_nil d₁ ds) t, he⟩
      simpa [← ht, Text.of] using hw (.ofChar '.' :: ((d₁ :: ds).map CodePoint.ofDigit ++ t))

end

/-- A decimal is laid out as a number that writes it, with a fraction or an exponent. -/
theorem unsigned_layOut {dec : Decimal} (h₀ : dec.digits ≠ 0) (rest : Text) :
    ∃ (n z : Nat) (w f : List (Fin 10)) (e : Option (Bool × List (Fin 10))),
      dec.digits = n * 10 ^ z ∧ Unsigned (layOut dec ++ rest) w f e rest ∧ (f ≠ [] ∨ e ≠ none) ∧
      Writes n (dec.exponent + z) (dec.exponent + (digits dec.digits).length) w f e := by
  obtain ⟨d, ds, z, hd, hds, hlen, hn⟩ := significant_digits h₀
  refine ⟨ofDigits (d :: ds), z, ?_⟩
  have hsum : ∀ m, ofDigits (d :: ds ++ List.replicate m 0) = ofDigits (d :: ds) * 10 ^ m := by
    intro m
    rw [ofDigits_append, ofDigits_zeros, List.length_replicate, Nat.add_zero]
  rw [List.length_cons] at hlen
  have hcount : ((d :: ds).map CodePoint.ofDigit).length = ds.length + 1 := by simp
  rw [layOut, hds]
  generalize hp : dec.exponent + ((digits dec.digits).length : Int) = point
  split
  · split
    · rename_i hle
      -- the point stands in front of all digits, between two of them or behind the last
      refine ⟨_, _, _, hn, unsigned_below ds rest _, .inl (by simp), 0, ?_, ?_, .inr ?_⟩
      · rw [List.cons_append, List.nil_append, ofDigits_cons, ofDigits_append, ofDigits_zeros]
        simp
      · simp only [Numeral.scale, List.length_append, List.length_replicate, List.length_cons]
        omega
      · simp only [List.length_append, List.length_replicate, List.length_cons, List.length_nil]
        omega
    · split
      · rename_i hlt
        rw [hcount] at hlt
        refine ⟨_, _, _, hn, unsigned_between hd ds rest (by omega) hlt, .inl ?_, 0, ?_, ?_,
          .inr ?_⟩
        · rw [ne_eq, List.drop_eq_nil_iff]
          exact Nat.not_le_of_lt hlt
        · rw [List.take_append_drop, Nat.pow_zero, Nat.mul_one]
        · simp only [Numeral.scale, List.length_drop, List.length_cons]
          omega
        · rw [List.take_append_drop, List.length_cons]
          omega
      · rename_i hge
        rw [hcount] at hge
        rw [hcount]
        refine ⟨_, _, _, hn, unsigned_above hd ds rest _, .inl (by simp),
          point.toNat - (ds.length + 1) + 1, ?_, ?_, .inr ?_⟩
        · have h := hsum (point.toNat - (ds.length + 1) + 1)
          rw [List.replicate_succ'] at h
          rw [List.append_assoc]
          exact h
        · simp only [Numeral.scale, List.length_cons, List.length_nil]
          omega
        · simp only [List.length_append, List.length_replicate, List.length_cons, List.length_nil]
          omega
  · -- one digit in front of the point and an exponent that makes up for it
    obtain ⟨es, hes, hu⟩ := unsigned_scientific hd ds rest (point - 1)
    refine ⟨_, _, _, hn, hu, .inr (by simp), 0, ?_, ?_, .inl ?_⟩
    · simp
    · simp only [Numeral.scale, hes, signed_natAbs]
      omega
    · simp only [List.length_append, List.length_cons, List.length_nil]
      omega

/-! ## Finite double-precision numbers -/

theorem Unsigned.number {t rest : Text} {w f : List (Fin 10)} {e : Option (Bool × List (Fin 10))}
    (h : Unsigned t w f e rest) (s : Bool) :
    Number ((if s then Text.of "-" else []) ++ t) ⟨s, w, f, e⟩ rest := by
  obtain ⟨t₁, t₂, hw, hf, he⟩ := h
  cases s with
  | false => exact .mk (.absent t) hw hf he
  | true => exact .mk (.present t) hw hf he

theorem unsigned_zero (rest : Text) : Unsigned (Text.of "0.0" ++ rest) [0] [0] none rest :=
  ⟨.ofChar '.' :: .ofChar '0' :: rest, rest, .zero rfl, fraction_map (List.cons_ne_nil 0 []) rest,
    .absent rest⟩

theorem not_isWhole {n : Numeral} (h : n.fraction ≠ [] ∨ n.exponent ≠ none) : ¬ IsWhole n := by
  rintro ⟨hf, he⟩
  rcases h with h | h
  · exact h hf
  · exact h he

/-- A number that writes the shortest decimal of a magnitude denotes the magnitude. -/
theorem denoted_of_writes {k : Magnitude} (hk : k.val ≠ 0) {n z : Nat} {w f : List (Fin 10)}
    {e : Option (Bool × List (Fin 10))} (hn : k.shortest.digits = n * 10 ^ z)
    (hfe : f ≠ [] ∨ e ≠ none)
    (h : Writes n (k.shortest.exponent + z)
      (k.shortest.exponent + (digits k.shortest.digits).length) w f e) (s : Bool) :
    denoted ⟨s, w, f, e⟩ = .float (.finite s k) := by
  obtain ⟨x, hx, hscale, hlow⟩ := h
  have hread := isReadFrom_shortest hk
  obtain ⟨_, _, hleast, _⟩ := ofRatio_of_isReadFrom hk hread
  have hd : k.shortest = ⟨n * 10 ^ z, k.shortest.exponent + z - z⟩ := by
    rw [← hn, Int.add_sub_cancel]
  rw [hd] at hread
  rw [denoted, if_neg (not_isWhole hfe)]
  have hs : (Numeral.mk s w f e).scale = k.shortest.exponent + z - x := hscale
  simp only
  rw [hx, hs, ofDecimal_of_isReadFrom hk hread (by omega) s]

/-- The text of a finite number is a number that denotes it. -/
theorem number_writeFloat (s : Bool) (k : Magnitude) (rest : Text) :
    ∃ n, Number (writeFloat (.finite s k) ++ rest) n rest ∧ ¬ IsWhole n ∧
      denoted n = .float (.finite s k) := by
  by_cases hk : k.val = 0
  · refine ⟨_, ?_, not_isWhole (n := ⟨s, [0], [0], none⟩) (.inl (by simp)), ?_⟩
    · rw [writeFloat, if_pos hk, List.append_assoc]
      exact (unsigned_zero rest).number s
    · have hz : k = Magnitude.zero := Fin.ext hk
      rw [hz]
      rfl
  · have h₀ := (ofRatio_of_isReadFrom hk (isReadFrom_shortest hk)).1
    obtain ⟨n, z, w, f, e, hn, hu, hfe, hwrites⟩ := unsigned_layOut h₀ rest
    refine ⟨⟨s, w, f, e⟩, ?_, not_isWhole hfe, denoted_of_writes hk hn hfe hwrites s⟩
    rw [writeFloat, if_neg hk, List.append_assoc]
    exact hu.number s

end JsonRpc.Json.Grammar
