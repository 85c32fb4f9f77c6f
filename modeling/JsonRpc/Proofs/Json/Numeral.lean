/-
Numbers are scanned as the grammar has them.

What the scanner makes of a text is a number of the grammar, for every part of a number and for the
whole.  The other way round the grammar may stop before the last digit and the scanner does not, so a
number of the grammar is scanned as it is only if what follows cannot carry it on.
-/
import JsonRpc.Proofs.Chain
import JsonRpc.Proofs.Json.Grammar
import JsonRpc.Proofs.Text.Digits

namespace JsonRpc

namespace Json.Grammar

/-- The text does not carry on a run of digits. -/
def NoDigit (t : Text) : Prop := ∀ c ∈ t.head?, c.digit? = none

/-- The text does not carry on a number. -/
def EndsNumber (t : Text) : Prop :=
  ∀ c ∈ t.head?, c.digit? = none ∧ c ≠ '.' ∧ c ≠ 'e' ∧ c ≠ 'E'

theorem EndsNumber.noDigit {t : Text} (h : EndsNumber t) : NoDigit t := fun c hc => (h c hc).1

theorem EndsNumber.nil : EndsNumber [] := by intro c hc; simp at hc

/-! ## Runs of digits -/

theorem digits_spanDigits (t : Text) :
    Digits t (Text.spanDigits t).1 (Text.spanDigits t).2 := by
  induction t with
  | nil => exact .nil []
  | cons c t ih =>
      rw [Text.spanDigits]
      split
      · rename_i d hd
        exact .cons hd ih
      · exact .nil _

theorem spanDigits_eq {t rest : Text} {ds : List (Fin 10)} (h : Digits t ds rest)
    (hn : NoDigit rest) : Text.spanDigits t = (ds, rest) := by
  induction h with
  | nil t =>
      cases t with
      | nil => rfl
      | cons c t => simp [Text.spanDigits, hn c rfl]
  | cons hd _ ih => simp [Text.spanDigits, hd, ih hn]

theorem Digits.head {t rest : Text} {ds : List (Fin 10)} (h : Digits t ds rest) (hds : ds ≠ []) :
    ∃ c t', t = c :: t' ∧ c.digit?.isSome := by
  cases h with
  | nil => exact absurd rfl hds
  | cons hd _ => exact ⟨_, _, rfl, by simp [hd]⟩

theorem Digits.length_le {t rest : Text} {ds : List (Fin 10)} (h : Digits t ds rest) :
    rest.length ≤ t.length := by
  induction h with
  | nil => exact Nat.le_refl _
  | cons _ _ ih => exact Nat.le_succ_of_le ih

/-! ## The parts of a number -/

theorem minus_splitMinus (t : Text) : Minus t (Text.splitMinus t).1 (Text.splitMinus t).2 := by
  cases t with
  | nil => exact .absent []
  | cons c t =>
      rw [Text.splitMinus]
      split
      · rename_i hc
        subst hc
        exact .present t
      · exact .absent _

theorem splitMinus_eq {t rest : Text} {s : Bool} (h : Minus t s rest)
    (hr : ∃ c t', rest = c :: t' ∧ c.digit?.isSome) : Text.splitMinus t = (s, rest) := by
  obtain ⟨c, t', rfl, hc⟩ := hr
  cases h with
  | absent =>
      have hne : c ≠ '-' := by rintro rfl; exact absurd hc (by decide)
      simp [Text.splitMinus, hne]
  | present => simp [Text.splitMinus]

theorem whole_of_scanWhole? {t rest : Text} {w : List (Fin 10)}
    (h : Numeral.scanWhole? t = some (w, rest)) : Whole t w rest := by
  cases t with
  | nil => exact absurd h (by simp [Numeral.scanWhole?])
  | cons c t =>
      simp only [Numeral.scanWhole?] at h
      split at h
      · exact absurd h (by simp)
      · rename_i hc
        simp only [Option.some.injEq, Prod.mk.injEq] at h
        obtain ⟨rfl, rfl⟩ := h
        exact .zero hc
      · rename_i d hd hc
        simp only [Text.spanDigits, hc, Option.some.injEq, Prod.mk.injEq] at h
        obtain ⟨rfl, rfl⟩ := h
        exact .digits hc hd (digits_spanDigits t)

theorem scanWhole?_eq {t rest : Text} {w : List (Fin 10)} (h : Whole t w rest)
    (hn : NoDigit rest) : Numeral.scanWhole? t = some (w, rest) := by
  cases h with
  | zero hc => simp [Numeral.scanWhole?, hc]
  | digits hc hd hds =>
      rw [Numeral.scanWhole?, hc]
      split
      · rename_i heq
        exact absurd heq (by simp)
      · rename_i heq
        exact absurd (Option.some.inj heq) hd
      · simp [Text.spanDigits, hc, spanDigits_eq hds hn]

theorem Whole.head {t rest : Text} {w : List (Fin 10)} (h : Whole t w rest) :
    ∃ c t', t = c :: t' ∧ c.digit?.isSome := by
  cases h with
  | zero hc => exact ⟨_, _, rfl, by simp [hc]⟩
  | digits hc _ _ => exact ⟨_, _, rfl, by simp [hc]⟩

theorem fraction_scanFraction (t : Text) :
    Fraction t (Numeral.scanFraction t).1 (Numeral.scanFraction t).2 := by
  cases t with
  | nil => exact .absent []
  | cons c t =>
      simp only [Numeral.scanFraction]
      split
      · rename_i hc
        subst hc
        have hd := digits_spanDigits t
        split
        · exact .absent _
        · rename_i ds rest hne heq
          rw [heq] at hd
          exact .present hd hne
      · exact .absent _

theorem scanFraction_eq {t rest : Text} {f : List (Fin 10)} (h : Fraction t f rest)
    (hn : NoDigit rest) (hp : ∀ c ∈ rest.head?, c ≠ '.') :
    Numeral.scanFraction t = (f, rest) := by
  cases h with
  | absent =>
      cases t with
      | nil => rfl
      | cons c t => simp [Numeral.scanFraction, hp c rfl]
  | present hd hne =>
      simp only [Numeral.scanFraction, if_true, spanDigits_eq hd hn]

theorem sign_splitSign (t : Text) : Sign t (Text.splitSign t).1 (Text.splitSign t).2 := by
  cases t with
  | nil => exact .absent []
  | cons c t =>
      rw [Text.splitSign]
      split
      · rename_i hc
        subst hc
        exact .minus t
      · split
        · rename_i hc
          subst hc
          exact .plus t
        · exact .absent _

theorem splitSign_eq {t rest : Text} {s : Bool} (h : Sign t s rest)
    (hr : ∃ c t', rest = c :: t' ∧ c.digit?.isSome) : Text.splitSign t = (s, rest) := by
  obtain ⟨c, t', rfl, hc⟩ := hr
  cases h with
  | absent =>
      have hm : c ≠ '-' := by rintro rfl; exact absurd hc (by decide)
      have hp : c ≠ '+' := by rintro rfl; exact absurd hc (by decide)
      simp [Text.splitSign, hm, hp]
  | plus =>
      have hm : CodePoint.ofChar '+' ≠ .ofChar '-' := by decide
      simp [Text.splitSign, hm]
  | minus => simp [Text.splitSign]

theorem exponent_scanExponent (t : Text) :
    Exponent t (Numeral.scanExponent t).1 (Numeral.scanExponent t).2 := by
  cases t with
  | nil => exact .absent []
  | cons c t =>
      simp only [Numeral.scanExponent]
      split
      · rename_i hc
        have hs := sign_splitSign t
        have hd := digits_spanDigits (Text.splitSign t).2
        split
        · exact .absent _
        · rename_i ds rest hne heq
          rw [heq] at hd
          exact .present hc hs hd hne
      · exact .absent _

theorem scanExponent_eq {t rest : Text} {e : Option (Bool × List (Fin 10))}
    (h : Exponent t e rest) (hr : EndsNumber rest) : Numeral.scanExponent t = (e, rest) := by
  cases h with
  | absent =>
      cases t with
      | nil => rfl
      | cons c t =>
          have hc := (hr c rfl).2.2
          simp [Numeral.scanExponent, hc.1, hc.2]
  | present hc hs hd hne =>
      simp only [Numeral.scanExponent, if_pos hc, splitSign_eq hs (hd.head hne),
        spanDigits_eq hd hr.noDigit]

/-! ## Numbers -/

theorem number_of_scan? {t rest : Text} {n : Numeral} (h : Numeral.scan? t = some (n, rest)) :
    Number t n rest := by
  have hm := minus_splitMinus t
  simp only [Numeral.scan?, Option.bind_eq_bind, Option.bind_eq_some_iff] at h
  obtain ⟨⟨w, t₂⟩, hw, h⟩ := h
  simp only [pure, Option.some.injEq, Prod.mk.injEq] at h
  obtain ⟨rfl, rfl⟩ := h
  exact .mk hm (whole_of_scanWhole? hw) (fraction_scanFraction t₂) (exponent_scanExponent _)

/-- What follows the fraction of a number does not carry the fraction or the whole part on. -/
theorem Exponent.head {t rest : Text} {e : Option (Bool × List (Fin 10))}
    (h : Exponent t e rest) (hr : EndsNumber rest) :
    NoDigit t ∧ ∀ c ∈ t.head?, c ≠ '.' := by
  cases h with
  | absent => exact ⟨hr.noDigit, fun c hc => (hr c hc).2.1⟩
  | present hc _ _ _ =>
      rcases hc with rfl | rfl <;>
        exact ⟨by rintro c hc; obtain rfl := Option.some.inj hc; decide,
          by rintro c hc; obtain rfl := Option.some.inj hc; decide⟩

/-- What follows the whole part of a number does not carry it on. -/
theorem Fraction.noDigit {t rest : Text} {f : List (Fin 10)} (h : Fraction t f rest)
    (hr : NoDigit rest) : NoDigit t := by
  cases h with
  | absent => exact hr
  | present _ _ =>
      rintro c hc
      obtain rfl := Option.some.inj hc
      decide

theorem scan?_eq {t rest : Text} {n : Numeral} (h : Number t n rest) (hr : EndsNumber rest) :
    Numeral.scan? t = some (n, rest) := by
  cases h with
  | mk hm hw hf he =>
      obtain ⟨hn, hp⟩ := he.head hr
      simp only [Numeral.scan?, splitMinus_eq hm hw.head, scanWhole?_eq hw (hf.noDigit hn),
        scanFraction_eq hf hn hp, scanExponent_eq he hr, Option.bind_eq_bind, Option.bind_some]
      rfl

/-- A number starts with a digit or with a minus sign and a digit. -/
theorem Number.head {t rest : Text} {n : Numeral} (h : Number t n rest) :
    ∃ c t', (t = c :: t' ∨ t = .ofChar '-' :: c :: t') ∧ c.digit?.isSome := by
  cases h with
  | mk hm hw _ _ =>
      obtain ⟨c, t', rfl, hc⟩ := hw.head
      cases hm with
      | absent => exact ⟨c, t', .inl rfl, hc⟩
      | present => exact ⟨c, t', .inr rfl, hc⟩

theorem Minus.length_le {t rest : Text} {s : Bool} (h : Minus t s rest) :
    rest.length ≤ t.length := by
  cases h with
  | absent => exact Nat.le_refl _
  | present => exact Nat.le_succ _

theorem Whole.length_lt {t rest : Text} {w : List (Fin 10)} (h : Whole t w rest) :
    rest.length < t.length := by
  cases h with
  | zero _ => exact Nat.lt_succ_self _
  | digits _ _ hd => exact Nat.lt_succ_of_le hd.length_le

theorem Fraction.length_le {t rest : Text} {f : List (Fin 10)} (h : Fraction t f rest) :
    rest.length ≤ t.length := by
  cases h with
  | absent => exact Nat.le_refl _
  | present hd _ => exact Nat.le_succ_of_le hd.length_le

theorem Sign.length_le {t rest : Text} {s : Bool} (h : Sign t s rest) :
    rest.length ≤ t.length := by
  cases h with
  | absent => exact Nat.le_refl _
  | plus => exact Nat.le_succ _
  | minus => exact Nat.le_succ _

theorem Exponent.length_le {t rest : Text} {e : Option (Bool × List (Fin 10))}
    (h : Exponent t e rest) : rest.length ≤ t.length := by
  cases h with
  | absent => exact Nat.le_refl _
  | present _ hs hd _ =>
      exact Nat.le_succ_of_le (Nat.le_trans hd.length_le hs.length_le)

theorem Number.length_lt {t rest : Text} {n : Numeral} (h : Number t n rest) :
    rest.length < t.length := by
  cases h with
  | mk hm hw hf he =>
      calc rest.length ≤ _ := Nat.le_trans he.length_le hf.length_le
        _ < _ := hw.length_lt
        _ ≤ t.length := hm.length_le

/-- A number has the value that it denotes unless it is too long. -/
theorem value_eq (n : Numeral) :
    n.value = if IsLong n then .error (.reading n.whole.length) else .ok (denoted n) := by
  obtain ⟨s, w, f, e⟩ := n
  cases f with
  | cons d f => simp [Numeral.value, IsLong, IsWhole, denoted]
  | nil =>
      cases e with
      | some e => simp [Numeral.value, IsLong, IsWhole, denoted]
      | none =>
          by_cases h : w.length ≤ digitLimit
          · have h' : ¬ digitLimit < w.length := Nat.not_lt_of_le h
            simp [Numeral.value, IsLong, IsWhole, denoted, readDigits, h, h']
          · have h' : digitLimit < w.length := Nat.lt_of_not_le h
            simp [Numeral.value, IsLong, IsWhole, readDigits, h, h']

end Json.Grammar

end JsonRpc
