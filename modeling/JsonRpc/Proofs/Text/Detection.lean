/-
Bytes whose encoding has to be found.

A client goes by the first bytes of a message and lets encoded surrogates pass.  To a text without
surrogates the latter makes no difference: what the strict decoder takes, the keeping one takes for the
same text (`decodeKeeping_of_decode`).  So the text comes back from its bytes if they are found to be in
UTF-8, without a mark (`ofBytes_encode`).
-/
import JsonRpc.Proofs.Text.Utf8
import JsonRpc.Text.Detection

namespace JsonRpc

namespace Utf8

variable {pos : Nat} {b : UInt8} {bytes : Bytes} {t : Text}

/-- Where no encoded surrogate begins, a lead byte is read as it is by the strict decoder. -/
theorem decodeFrom_true_none {l : Lead} (hl : lead? b.toNat = some l)
    (h : ∀ b₂ b₃ rest, bytes = b₂ :: b₃ :: rest → surrogate? b b₂ b₃ = none) :
    decodeFrom true pos none (b :: bytes) =
      if l.owed = 0 then (decodeFrom true (pos + 1) none bytes).map (.ofNat l.bits :: ·)
      else decodeFrom true (pos + 1) (some (l.begin b pos)) bytes := by
  match bytes, h with
  | [], _ => simp only [decodeFrom, hl]
  | [_], _ => simp only [decodeFrom, hl]
  | b₂ :: b₃ :: rest, h =>
      have hnone := h b₂ b₃ rest rfl
      simp only [decodeFrom, hl, hnone]

/-- The strict decoder does not get past the first two bytes of an encoded surrogate. -/
theorem surrogate?_of_decodeFrom {b₂ b₃ : UInt8} {rest : Bytes}
    (h : decodeFrom false pos none (b :: b₂ :: b₃ :: rest) = .ok t) : surrogate? b b₂ b₃ = none := by
  rw [surrogate?, if_neg]
  rintro ⟨hb, hlow, -⟩
  obtain ⟨l, hl, h⟩ := decodeFrom_none_eq_ok_iff.mp h
  rw [hb] at hl
  obtain rfl := Option.some.inj hl
  obtain ⟨⟨-, hhigh⟩, -⟩ := decodeFrom_some_eq_ok_iff.mp h
  have hle : 0xA0 ≤ 0x9F := Nat.le_trans hlow hhigh
  exact absurd hle (by decide)

theorem decodeFrom_true_of_false {begun : Option Begun}
    (h : decodeFrom false pos begun bytes = .ok t) : decodeFrom true pos begun bytes = .ok t := by
  induction bytes generalizing pos begun t with
  | nil => cases begun <;> exact h
  | cons b bytes ih =>
      have hresume {p : Begun} (h : resume p (pos + 1) bytes = .ok t) :
          (if p.owed = 0 then (decodeFrom true (pos + 1) none bytes).map (.ofNat p.bits :: ·)
            else decodeFrom true (pos + 1) (some p) bytes) = .ok t := by
        rw [resume] at h
        split at h
        · obtain ⟨t', ht', rfl⟩ := map_eq_ok_iff.mp h
          rw [if_pos (by assumption), ih ht']
          rfl
        · rw [if_neg (by assumption)]
          exact ih h
      cases begun with
      | none =>
          have hnone : ∀ b₂ b₃ rest, bytes = b₂ :: b₃ :: rest → surrogate? b b₂ b₃ = none := by
            rintro b₂ b₃ rest rfl
            exact surrogate?_of_decodeFrom h
          obtain ⟨l, hl, h⟩ := decodeFrom_none_eq_ok_iff.mp h
          rw [decodeFrom_true_none hl hnone]
          exact hresume h
      | some p =>
          obtain ⟨hrange, h⟩ := decodeFrom_some_eq_ok_iff.mp h
          rw [decodeFrom, if_pos hrange]
          exact hresume h

theorem decodeKeeping_of_decode (h : decode bytes = .ok t) : decodeKeeping bytes = .ok t :=
  decodeFrom_true_of_false h

end Utf8

theorem Text.ofBytes_encode {t : Text} (ht : t.hasSurrogate = false)
    (h : Encoding.detect (Utf8.encode t) = (.utf8, 0)) : ofBytes (Utf8.encode t) = .ok t := by
  have hdecode : Utf8.decode (Utf8.encode t) = .ok t := Utf8.decodeFrom_eq_ok_iff.mpr ⟨ht, rfl⟩
  rw [ofBytes, h]
  exact Utf8.decodeKeeping_of_decode hdecode

end JsonRpc
