/-
String literals are scanned as the grammar has them, and nothing else is.

Pieces end at the first quote that stands for itself, so unlike a number a literal of the grammar is
scanned as it is whatever follows.
-/
import JsonRpc.Proofs.Chain
import JsonRpc.Proofs.Json.Grammar

namespace JsonRpc.Json.Grammar

open StringLiteral (Piece)

theorem Pieces.length_lt {t rest : Text} {ps : List Piece} (h : Pieces t ps rest) :
    rest.length < t.length := by
  induction h with
  | close => exact Nat.lt_succ_self _
  | char _ _ _ _ ih => exact Nat.lt_succ_of_lt ih
  | escape _ _ ih => exact Nat.lt_succ_of_lt (Nat.lt_succ_of_lt ih)
  | unit _ _ ih => simp only [List.length_cons]; omega

theorem Literal.length_lt {s t rest : Text} (h : Literal t s rest) : rest.length < t.length := by
  cases h with
  | mk hp => exact Nat.lt_succ_of_lt hp.length_lt

/-- A piece in front of the pieces that a scan came to. -/
theorem cons_of_scan {p : Piece} {rest : Text} {ps : List Piece}
    {x : Except (ReadError Text) (List Piece × Text)}
    (h : (do let (qs, after) ← x; return (p :: qs, after)) = .ok (ps, rest)) :
    ∃ qs, ps = p :: qs ∧ x = .ok (qs, rest) := by
  obtain ⟨⟨qs, after⟩, hx, h⟩ := bind_eq_ok_iff.mp h
  simp only [pure_eq_ok, Except.ok.injEq, Prod.mk.injEq] at h
  obtain ⟨rfl, rfl⟩ := h
  exact ⟨qs, rfl, hx⟩

theorem pieces_of_scan {opening t rest : Text} {ps : List Piece}
    (h : StringLiteral.pieces opening t = .ok (ps, rest)) : Pieces t ps rest := by
  fun_induction StringLiteral.pieces opening t generalizing ps rest with
  | case2 =>
      obtain ⟨rfl, rfl⟩ := Prod.mk.inj (Except.ok.inj h)
      exact .close _
  | case4 h₁ h₂ h₃ h₄ next t u hu _ ih =>
      obtain ⟨qs, rfl, hx⟩ := cons_of_scan h
      exact .unit hu (ih hx)
  | case7 l t _ e he _ ih =>
      obtain ⟨qs, rfl, hx⟩ := cons_of_scan h
      exact .escape he (ih hx)
  | case10 c t hq hb hc ih =>
      obtain ⟨qs, rfl, hx⟩ := cons_of_scan h
      exact .char hq hb (Nat.le_of_not_lt hc) (ih hx)
  | case1 | case3 | case5 | case6 | case8 | case9 => exact absurd h (by simp)

theorem escaped?_ne_unit {l e : CodePoint} (h : StringLiteral.escaped? l = some e) : l ≠ 'u' := by
  rintro rfl
  have hn : StringLiteral.escaped? (.ofChar 'u') = none := by decide
  exact absurd (hn.symm.trans h) (by simp)

theorem scan_pieces (opening : Text) {t rest : Text} {ps : List Piece} (h : Pieces t ps rest) :
    StringLiteral.pieces opening t = .ok (ps, rest) := by
  have hb : CodePoint.ofChar '\\' ≠ .ofChar '"' := by decide
  induction h with
  | close =>
      rw [StringLiteral.pieces.eq_def]
      simp
  | char hq hb hc _ ih =>
      rw [StringLiteral.pieces.eq_def]
      simp [hq, hb, Nat.not_lt_of_le hc, ih]
  | escape he _ ih =>
      rw [StringLiteral.pieces.eq_def]
      simp [hb, escaped?_ne_unit he, he, ih]
  | unit hu hp ih =>
      -- the closing quote is still to come, so something follows the digits
      obtain ⟨c, t', ht⟩ := List.exists_cons_of_length_pos (Nat.zero_lt_of_lt hp.length_lt)
      subst ht
      rw [StringLiteral.pieces.eq_def]
      simp [hb, hu, ih]

theorem literal_of_read {t rest s : Text} (hq : t.head? = some (.ofChar '"'))
    (h : StringLiteral.read t = .ok (s, rest)) : Literal t s rest := by
  obtain ⟨t', rfl⟩ : ∃ t', t = .ofChar '"' :: t' := by
    cases t with
    | nil => exact absurd hq (by simp)
    | cons c t' => exact ⟨t', by rw [Option.some.inj hq]⟩
  obtain ⟨⟨ps, after⟩, hp, h⟩ := bind_eq_ok_iff.mp h
  obtain ⟨rfl, rfl⟩ := Prod.mk.inj (Except.ok.inj h)
  exact .mk (pieces_of_scan hp)

theorem read_literal {t rest s : Text} (h : Literal t s rest) :
    StringLiteral.read t = .ok (s, rest) := by
  cases h with
  | mk hp => simp [StringLiteral.read, scan_pieces _ hp]

theorem Literal.head {t rest s : Text} (h : Literal t s rest) :
    ∃ t', t = .ofChar '"' :: t' := by
  cases h with
  | mk hp => exact ⟨_, rfl⟩

end JsonRpc.Json.Grammar
