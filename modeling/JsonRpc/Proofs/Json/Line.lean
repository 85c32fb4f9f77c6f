/-
A document is one line of ASCII.

Whatever a value holds, its text on the wire has no other characters than the printable ones of ASCII, the
space among them: no line ends in it, and no byte order mark begins it.  Where other code points could
come from are the strings and the names, and a code point in a literal is written as itself only if it is
printable (`isLine_writeChar`).  Everything else a document is made of is digits, words and punctuation.
The proof for a whole value goes by its parts (`isLine_writeNested`).
-/
import JsonRpc.Proofs.Json.ValueText

namespace JsonRpc

/-! ## Lines -/

/-- A printable character of ASCII. -/
def CodePoint.IsGraphic (c : CodePoint) : Prop := 0x20 ≤ c.val ∧ c.val < 0x7F

@[simp] theorem CodePoint.isGraphic_ofChar {c : Char} :
    (ofChar c).IsGraphic ↔ 0x20 ≤ c.toNat ∧ c.toNat < 0x7F :=
  Iff.rfl

theorem CodePoint.isGraphic_ofDigit (d : Fin 10) : (ofDigit d).IsGraphic := by
  simp only [IsGraphic, ofDigit]
  omega

theorem CodePoint.isGraphic_ofHexDigit (d : Fin 16) : (ofHexDigit d).IsGraphic := by
  rw [ofHexDigit]
  split
  · simp only [IsGraphic]
    omega
  · simp only [IsGraphic]
    omega

namespace Text

/-- The text has nothing but printable characters of ASCII. -/
def IsLine (t : Text) : Prop := ∀ c ∈ t, c.IsGraphic

variable {s t : Text}

@[simp] theorem isLine_nil : IsLine [] := by
  intro c hc
  exact absurd hc List.not_mem_nil

@[simp] theorem isLine_cons {c : CodePoint} : IsLine (c :: t) ↔ c.IsGraphic ∧ t.IsLine :=
  List.forall_mem_cons

@[simp] theorem isLine_append : (s ++ t).IsLine ↔ s.IsLine ∧ t.IsLine := List.forall_mem_append

@[simp] theorem isLine_of {s : String} :
    (of s).IsLine ↔ ∀ c ∈ s.toList, 0x20 ≤ c.toNat ∧ c.toNat < 0x7F := List.forall_mem_map

theorem IsLine.mono (h : t.IsLine) (hs : s ⊆ t) : s.IsLine := fun c hc => h c (hs hc)

theorem isLine_replicate {c : CodePoint} (hc : c.IsGraphic) (n : Nat) :
    IsLine (List.replicate n c) := by
  intro d hd
  rw [List.eq_of_mem_replicate hd]
  exact hc

theorem isLine_map {α : Type} {f : α → CodePoint} (hf : ∀ a, (f a).IsGraphic) (l : List α) :
    IsLine (l.map f) := by
  intro c hc
  obtain ⟨a, -, rfl⟩ := List.mem_map.mp hc
  exact hf a

@[simp] theorem isLine_ofNat (n : Nat) : (ofNat n).IsLine := isLine_map CodePoint.isGraphic_ofDigit _

theorem isLine_ofInt (n : Int) : (ofInt n).IsLine := by
  cases n with
  | ofNat n => exact isLine_ofNat n
  | negSucc n => exact isLine_cons.mpr ⟨by simp, isLine_ofNat (n + 1)⟩

theorem isLine_hex (width n : Nat) : (hex width n).IsLine := by
  induction width generalizing n with
  | zero => exact isLine_nil
  | succ width ih =>
      rw [hex, isLine_append, isLine_cons]
      exact ⟨ih _, CodePoint.isGraphic_ofHexDigit _, isLine_nil⟩

end Text

namespace Json

open Text Grammar StringLiteral

/-! ## Strings -/

theorem isLine_unitEscape (n : Nat) : (unitEscape n).IsLine :=
  isLine_append.mpr ⟨by simp, isLine_hex 4 n⟩

/-- An escape is named by a printable character. -/
theorem isGraphic_of_escaped? {l c : CodePoint} (h : escaped? l = some c) : l.IsGraphic := by
  by_contra hl
  have hne {k : Char} (hk : (CodePoint.ofChar k).IsGraphic) : l ≠ .ofChar k := by
    rintro rfl
    exact hl hk
  simp [escaped?, hne] at h

/-- A code point that is not printable is escaped, and its escape is. -/
theorem isLine_writeChar (c : CodePoint) : (writeChar true c).IsLine := by
  by_cases hn : IsNamed c
  · obtain ⟨-, l, hl, hw⟩ := writeChar_named hn
    rw [hw]
    simp [isGraphic_of_escaped? hl]
  rw [writeChar_unnamed hn]
  split
  · exact isLine_unitEscape _
  split
  · exact isLine_cons.mpr ⟨⟨by omega, by assumption⟩, isLine_nil⟩
  split
  · exact isLine_unitEscape _
  · exact isLine_append.mpr ⟨isLine_unitEscape _, isLine_unitEscape _⟩

theorem isLine_literal (t : Text) : (StringLiteral.write true t).IsLine := by
  have hquote : (Text.of "\"").IsLine := by simp
  rw [StringLiteral.write, isLine_append, isLine_append]
  refine ⟨⟨hquote, ?_⟩, hquote⟩
  intro c hc
  obtain ⟨d, -, hd⟩ := List.mem_flatMap.mp hc
  exact isLine_writeChar d c hd

/-! ## Numbers -/

theorem isLine_layOut (d : Decimal) : (layOut d).IsLine := by
  have hzeros (n : Nat) : IsLine (List.replicate n (.ofChar '0')) := isLine_replicate (by simp) n
  rw [layOut]
  generalize hds : List.map CodePoint.ofDigit _ = ds
  have hline : IsLine ds := hds ▸ isLine_map CodePoint.isGraphic_ofDigit _
  have htake (n : Nat) : IsLine (ds.take n) := hline.mono (List.take_subset n ds)
  have hdrop (n : Nat) : IsLine (ds.drop n) := hline.mono (List.drop_subset n ds)
  -- every way to lay digits out puts the same few kinds of text together
  simp only [padZeros]
  repeat' split
  all_goals simp [-List.drop_one, hzeros, hline, htake, hdrop]

theorem isLine_writeFloat (x : Binary64) : (writeFloat x).IsLine := by
  cases x with
  | nan => simp [writeFloat, Constant.word]
  | infinite s => cases s <;> simp [writeFloat, Constant.word]
  | finite s k =>
      rw [writeFloat, isLine_append]
      constructor
      · cases s <;> simp
      · split
        · simp
        · exact isLine_layOut _

/-! ## Values -/

section
variable {constants : Bool} {n : Nat} {t : Text}

theorem isLine_writeAtom {v : Json} (h : writeAtom (.wire constants) v = .ok t) : t.IsLine := by
  cases v with
  | null | arr _ | obj _ =>
      obtain rfl := Except.ok.inj h
      simp
  | bool b =>
      cases b with
      | false =>
          obtain rfl := Except.ok.inj h
          simp
      | true =>
          obtain rfl := Except.ok.inj h
          simp
  | int n =>
      rw [writeAtom, mapError_eq_ok_iff, writeInt_eq_ok_iff] at h
      obtain ⟨-, rfl⟩ := h
      exact isLine_ofInt n
  | float x =>
      rw [writeAtom] at h
      split at h
      · obtain rfl := Except.ok.inj h
        exact isLine_writeFloat x
      · exact absurd h (by simp)
  | str s =>
      obtain rfl := Except.ok.inj h
      exact isLine_literal s

theorem isLine_writeItems {vs : List Json}
    (ih : ∀ v ∈ vs, ∀ {t}, writeNested (.wire constants) n v = .ok t → t.IsLine)
    (h : writeItems (.wire constants) n vs = .ok t) : t.IsLine := by
  induction vs generalizing t with
  | nil =>
      obtain rfl := Except.ok.inj h
      exact isLine_nil
  | cons v vs ihs =>
      obtain ⟨first, others, hv, hvs, htext⟩ := writeItems_cons h
      have hfirst : first.IsLine := ih v List.mem_cons_self hv
      have hothers : others.IsLine := ihs (fun w hw => ih w (List.mem_cons_of_mem _ hw)) hvs
      rw [← List.append_nil t, htext]
      simp [hfirst, hothers]

theorem isLine_writeMembers {ms : List (Text × Json)}
    (ih : ∀ m ∈ ms, ∀ {t}, writeNested (.wire constants) n m.2 = .ok t → t.IsLine)
    (h : writeMembers (.wire constants) n ms = .ok t) : t.IsLine := by
  induction ms generalizing t with
  | nil =>
      obtain rfl := Except.ok.inj h
      exact isLine_nil
  | cons m ms ihs =>
      obtain ⟨first, others, hm, hms, htext⟩ := writeMembers_cons h
      have hfirst : first.IsLine := ih m List.mem_cons_self hm
      have hothers : others.IsLine := ihs (fun w hw => ih w (List.mem_cons_of_mem _ hw)) hms
      rw [← List.append_nil t, htext]
      simp [hfirst, hothers, isLine_literal]

/-- What is written of a value is one line, whatever its strings and names hold. -/
theorem isLine_writeNested {v : Json} (h : writeNested (.wire constants) n v = .ok t) :
    t.IsLine := by
  induction v using ind generalizing n t with
  | null | bool _ | int _ | float _ | str _ =>
      rw [writeNested_atom _ _ (by simp) (by simp)] at h
      exact isLine_writeAtom h
  | arr vs ih =>
      cases n with
      | zero => exact absurd h (by simp [writeNested])
      | succ n =>
          cases vs with
          | nil =>
              obtain rfl := Except.ok.inj h
              simp
          | cons v vs =>
              obtain ⟨first, others, hv, hvs, htext⟩ := writeNested_arr_cons h
              have hfirst : first.IsLine := ih v List.mem_cons_self hv
              have hothers : others.IsLine :=
                isLine_writeItems (fun w hw => ih w (List.mem_cons_of_mem _ hw)) hvs
              rw [← List.append_nil t, htext]
              simp [hfirst, hothers]
  | obj ms ih =>
      cases n with
      | zero => exact absurd h (by simp [writeNested])
      | succ n =>
          cases ms with
          | nil =>
              obtain rfl := Except.ok.inj h
              simp
          | cons m ms =>
              obtain ⟨first, others, hm, hms, htext⟩ := writeNested_obj_cons h
              have hfirst : first.IsLine := ih m List.mem_cons_self hm
              have hothers : others.IsLine :=
                isLine_writeMembers (fun w hw => ih w (List.mem_cons_of_mem _ hw)) hms
              rw [← List.append_nil t, htext]
              simp [hfirst, hothers, isLine_literal]

theorem isLine_write {v : Json} (h : v.write = .ok t) : t.IsLine := by
  have hnested : writeNested (.wire true) nestingLimit v = .ok t := h
  exact isLine_writeNested hnested

end

end Json

end JsonRpc
