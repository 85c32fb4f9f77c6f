/-
Strings are read as they are written, but for surrogates.

Written in ASCII, a code point becomes one character or escape of a literal, or two escapes if it is
past 0xFFFF: a surrogate pair.  Reading joins such a pair to the code point it stands for, and it
cannot tell it from two lone surrogates that happened to stand side by side.  So a text comes back
with all its surrogates joined (`joined`), which is the text itself unless a high surrogate is followed
by a low one (`hasPair`).
-/
import JsonRpc.Proofs.Json.Grammar

namespace JsonRpc

namespace Text

/-- A high surrogate with a low one behind it is in the text. -/
def hasPair : Text → Bool
  | c :: d :: t => (c.isHighSurrogate && d.isLowSurrogate) || hasPair (d :: t)
  | _ => false

/-- A text with the pairs of surrogates in it as single code points. -/
def joined : Text → Text
  | c :: d :: t =>
    if c.isHighSurrogate && d.isLowSurrogate then .ofPair c d :: joined t else c :: joined (d :: t)
  | t => t

theorem joined_of_hasPair {t : Text} (h : t.hasPair = false) : t.joined = t := by
  fun_induction joined t with
  | case1 c d t hp => simp [hasPair, hp] at h
  | case2 c d t hp ih =>
      rw [hasPair, Bool.or_eq_false_iff] at h
      rw [ih h.2]
  | case3 t ht => rfl

end Text

namespace Json.Grammar

open StringLiteral

/-! ## Escapes -/

theorem hexDigit?_map (a b c d : Fin 16) :
    unit? (.ofHexDigit a) (.ofHexDigit b) (.ofHexDigit c) (.ofHexDigit d)
      = some (.ofNat (((a.val * 16 + b.val) * 16 + c.val) * 16 + d.val)) := by
  simp [unit?, CodePoint.hexDigit?_ofHexDigit]

/-- The escape of a unit names it. -/
theorem pieces_unitEscape {n : Nat} (hn : n < 0x10000) {ps : List Piece} {t rest : Text}
    (h : Pieces t ps rest) : Pieces (unitEscape n ++ t) (.unit (.ofNat n) :: ps) rest := by
  have hu := hexDigit?_map ⟨n / 16 / 16 / 16 % 16, Nat.mod_lt _ (by decide)⟩
    ⟨n / 16 / 16 % 16, Nat.mod_lt _ (by decide)⟩ ⟨n / 16 % 16, Nat.mod_lt _ (by decide)⟩
    ⟨n % 16, Nat.mod_lt _ (by decide)⟩
  have hsum : ((n / 16 / 16 / 16 % 16 * 16 + n / 16 / 16 % 16) * 16 + n / 16 % 16) * 16 + n % 16
      = n := by omega
  simp only [hsum] at hu
  exact .unit hu h

/-! ## The pieces of a written code point -/

/-- The units of a code point past 0xFFFF. -/
def units (c : CodePoint) : List Piece :=
  [.unit (.ofNat (0xD800 + (c.val - 0x10000) / 0x400)),
    .unit (.ofNat (0xDC00 + (c.val - 0x10000) % 0x400))]

/-- What a code point is written as. No surrogate is a character of its own. -/
inductive Written (c : CodePoint) : List Piece → Prop
  | char : c.val < 0x7F → Written c [.char c]
  | unit : c.val < 0x10000 → Written c [.unit c]
  | units : 0x10000 ≤ c.val → Written c (units c)

/-- The code points that have an escape by letter. -/
def IsNamed (c : CodePoint) : Prop :=
  c = '"' ∨ c = '\\' ∨ c = '\n' ∨ c = '\r' ∨ c = '\t' ∨ c = '\x08' ∨ c = '\x0c'

theorem writeChar_named {c : CodePoint} (h : IsNamed c) :
    c.val < 0x7F ∧ ∃ l, escaped? l = some c ∧ writeChar true c = [.ofChar '\\', l] := by
  rcases h with rfl | rfl | rfl | rfl | rfl | rfl | rfl
  · exact ⟨by decide, .ofChar '"', rfl, rfl⟩
  · exact ⟨by decide, .ofChar '\\', rfl, rfl⟩
  · exact ⟨by decide, .ofChar 'n', rfl, rfl⟩
  · exact ⟨by decide, .ofChar 'r', rfl, rfl⟩
  · exact ⟨by decide, .ofChar 't', rfl, rfl⟩
  · exact ⟨by decide, .ofChar 'b', rfl, rfl⟩
  · exact ⟨by decide, .ofChar 'f', rfl, rfl⟩

theorem writeChar_unnamed {c : CodePoint} (h : ¬ IsNamed c) :
    writeChar true c =
      if c.val < 0x20 then unitEscape c.val
      else if c.val < 0x7F then [c]
      else if c.val < 0x10000 then unitEscape c.val
      else unitEscape (0xD800 + (c.val - 0x10000) / 0x400)
        ++ unitEscape (0xDC00 + (c.val - 0x10000) % 0x400) := by
  simp only [IsNamed, not_or] at h
  obtain ⟨h₁, h₂, h₃, h₄, h₅, h₆, h₇⟩ := h
  rw [writeChar, if_neg h₁, if_neg h₂, if_neg h₃, if_neg h₄, if_neg h₅, if_neg h₆, if_neg h₇]
  simp only [Bool.not_true, Bool.or_false, decide_eq_true_eq]

/-- A written code point is read as its pieces, whatever follows it. -/
theorem pieces_writeChar (c : CodePoint) :
    ∃ qs, Written c qs ∧ ∀ {ps t rest}, Pieces t ps rest →
      Pieces (writeChar true c ++ t) (qs ++ ps) rest := by
  by_cases hn : IsNamed c
  · obtain ⟨hlt, l, hl, hw⟩ := writeChar_named hn
    refine ⟨_, .char hlt, fun h => ?_⟩
    rw [hw]
    exact .escape hl h
  rw [writeChar_unnamed hn]
  have hself : CodePoint.ofNat c.val = c := by simp [CodePoint.ofNat, c.isLt]
  have hunit (hlt : c.val < 0x10000) {ps t rest} (h : Pieces t ps rest) :
      Pieces (unitEscape c.val ++ t) ([.unit c] ++ ps) rest := by
    have hu := pieces_unitEscape hlt h
    rwa [hself] at hu
  by_cases hcontrol : c.val < 0x20
  · rw [if_pos hcontrol]
    have hlt : c.val < 0x10000 := by omega
    exact ⟨_, .unit hlt, hunit hlt⟩
  rw [if_neg hcontrol]
  by_cases hplain : c.val < 0x7F
  · rw [if_pos hplain]
    have hquote : c ≠ '"' := fun hc => hn (.inl hc)
    have hslash : c ≠ '\\' := fun hc => hn (.inr (.inl hc))
    exact ⟨_, .char hplain, fun h => .char hquote hslash (Nat.le_of_not_lt hcontrol) h⟩
  rw [if_neg hplain]
  by_cases hlt : c.val < 0x10000
  · rw [if_pos hlt]
    exact ⟨_, .unit hlt, hunit hlt⟩
  · rw [if_neg hlt]
    have hc := c.isLt
    refine ⟨_, .units (Nat.le_of_not_lt hlt), fun h => ?_⟩
    rw [List.append_assoc]
    exact pieces_unitEscape (by omega) (pieces_unitEscape (by omega) h)

/-- What a text is written as. -/
inductive WrittenText : Text → List Piece → Prop
  | nil : WrittenText [] []
  | cons {c : CodePoint} {t : Text} {qs ps : List Piece} :
      Written c qs → WrittenText t ps → WrittenText (c :: t) (qs ++ ps)

theorem pieces_flatMap (t rest : Text) :
    ∃ ps, WrittenText t ps ∧ Pieces (t.flatMap (writeChar true) ++ .ofChar '"' :: rest) ps rest := by
  induction t with
  | nil => exact ⟨[], .nil, .close rest⟩
  | cons c t ih =>
      obtain ⟨ps, hps, h⟩ := ih
      obtain ⟨qs, hqs, hc⟩ := pieces_writeChar c
      refine ⟨qs ++ ps, .cons hqs hps, ?_⟩
      rw [List.flatMap_cons, List.append_assoc]
      exact hc h

/-! ## Assembling -/

/-- A unit stays one if nothing follows that it pairs with. -/
theorem assemble_unit {u : CodePoint} {ps : List Piece}
    (h : ∀ v qs, ps = .unit v :: qs → (u.isHighSurrogate && v.isLowSurrogate) = false) :
    assemble (.unit u :: ps) = u :: assemble ps := by
  cases ps with
  | nil => rfl
  | cons p qs =>
      cases p with
      | char d => rfl
      | unit v => rw [assemble, h v qs rfl]; rfl

theorem isHighSurrogate_iff {c : CodePoint} :
    c.isHighSurrogate = true ↔ 0xD800 ≤ c.val ∧ c.val < 0xDC00 := by
  simp [CodePoint.isHighSurrogate]

theorem isLowSurrogate_iff {c : CodePoint} :
    c.isLowSurrogate = true ↔ 0xDC00 ≤ c.val ∧ c.val < 0xE000 := by
  simp [CodePoint.isLowSurrogate]

section
variable {c : CodePoint} (hc : 0x10000 ≤ c.val)
include hc

theorem val_firstUnit :
    (CodePoint.ofNat (0xD800 + (c.val - 0x10000) / 0x400)).val
      = 0xD800 + (c.val - 0x10000) / 0x400 := by
  have hlt := c.isLt
  exact CodePoint.val_ofNat (by omega)

/-- The two units of a code point past 0xFFFF make it up again. -/
theorem assemble_units (ps : List Piece) : assemble (units c ++ ps) = c :: assemble ps := by
  have hlt := c.isLt
  have hhigh := val_firstUnit hc
  have hlow : (CodePoint.ofNat (0xDC00 + (c.val - 0x10000) % 0x400)).val
      = 0xDC00 + (c.val - 0x10000) % 0x400 := CodePoint.val_ofNat (by omega)
  have hpair : CodePoint.ofPair (.ofNat (0xD800 + (c.val - 0x10000) / 0x400))
      (.ofNat (0xDC00 + (c.val - 0x10000) % 0x400)) = c := by
    have hsum : 0x10000 + (0xD800 + (c.val - 0x10000) / 0x400 - 0xD800) * 0x400
        + (0xDC00 + (c.val - 0x10000) % 0x400 - 0xDC00) = c.val := by omega
    rw [CodePoint.ofPair, hhigh, hlow, hsum, CodePoint.ofNat, dif_pos hlt]
  have h₁ : (CodePoint.ofNat (0xD800 + (c.val - 0x10000) / 0x400)).isHighSurrogate = true := by
    rw [isHighSurrogate_iff, hhigh]
    omega
  have h₂ : (CodePoint.ofNat (0xDC00 + (c.val - 0x10000) % 0x400)).isLowSurrogate = true := by
    rw [isLowSurrogate_iff, hlow]
    omega
  rw [units, List.cons_append, List.cons_append, List.nil_append, assemble, h₁, h₂, hpair]
  rfl

theorem not_low_firstUnit :
    (CodePoint.ofNat (0xD800 + (c.val - 0x10000) / 0x400)).isLowSurrogate = false := by
  have hlt := c.isLt
  rw [← Bool.not_eq_true, isLowSurrogate_iff, val_firstUnit hc]
  omega

end

/-- A surrogate is written as a unit. -/
theorem Written.eq_unit {c : CodePoint} {qs : List Piece} (h : Written c qs)
    (hc : 0xD800 ≤ c.val ∧ c.val < 0xE000) : qs = [.unit c] := by
  cases h with
  | char hlt => omega
  | unit _ => rfl
  | units hge => omega

/-- The first piece of a text is a low surrogate only if its first code point is that one. -/
theorem WrittenText.head_low {t : Text} {ps : List Piece} (h : WrittenText t ps)
    {v : CodePoint} {qs : List Piece} (hps : ps = .unit v :: qs) (hv : v.isLowSurrogate = true) :
    t.head? = some v := by
  cases h with
  | nil => exact absurd hps (by simp)
  | cons hc ht =>
      cases hc with
      | char _ => exact absurd hps (by simp)
      | unit _ => simp at hps; simp [hps.1]
      | units hge =>
          simp only [units, List.cons_append, List.cons.injEq, Piece.unit.injEq] at hps
          rw [← hps.1, not_low_firstUnit hge] at hv
          exact absurd hv (by simp)

/-- The pieces of a written text make the text with its surrogates joined. -/
theorem assemble_written {t : Text} {ps : List Piece} (h : WrittenText t ps) :
    assemble ps = t.joined := by
  fun_induction Text.joined t generalizing ps with
  | case1 c d t hp ih =>
      rw [Bool.and_eq_true] at hp
      cases h with
      | cons hc h =>
        cases h with
        | cons hd ht =>
            have hhigh := isHighSurrogate_iff.mp hp.1
            have hlow := isLowSurrogate_iff.mp hp.2
            obtain rfl := hc.eq_unit (by omega)
            obtain rfl := hd.eq_unit (by omega)
            rw [List.cons_append, List.nil_append, List.cons_append, List.nil_append, assemble,
              hp.1, hp.2, ih ht]
            rfl
  | case2 c d t hp ih =>
      cases h with
      | cons hc ht =>
          rw [← ih ht]
          cases hc with
          | char _ => rfl
          | units hge => exact assemble_units hge _
          | unit _ =>
              refine assemble_unit fun v qs hps => ?_
              -- what pairs with `c` would be `d`
              rw [← Bool.not_eq_true, Bool.and_eq_true]
              intro hv
              obtain rfl := Option.some.inj (ht.head_low hps hv.2)
              exact hp (Bool.and_eq_true_iff.mpr hv)
  | case3 t ht =>
      cases h with
      | nil => rfl
      | cons hc h =>
          cases h with
          | nil =>
              cases hc with
              | char _ => rfl
              | unit _ => rfl
              | units hge => exact assemble_units hge []
          | cons hd _ => exact absurd rfl (ht _ _ _)

/-- A written string is a literal of the text with its surrogates joined. -/
theorem literal_write (t rest : Text) :
    Literal (StringLiteral.write true t ++ rest) t.joined rest := by
  obtain ⟨ps, hps, h⟩ := pieces_flatMap t rest
  rw [← assemble_written hps]
  have htext : StringLiteral.write true t ++ rest
      = .ofChar '"' :: (t.flatMap (writeChar true) ++ .ofChar '"' :: rest) := by
    simp [StringLiteral.write, Text.of]
  rw [htext]
  exact .mk h

end Json.Grammar

end JsonRpc
