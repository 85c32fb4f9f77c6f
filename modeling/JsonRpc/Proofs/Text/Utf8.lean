/-
Bytes decode to the text that encodes to them, and to no other.

The decoder keeps the character that it is in, and the encoder works from the number of a character.
`CanBe` stands between the two: the numbers that a begun character can still become, which is to say
those whose upper bits have been read and whose next six bits lie in the range that is asked for.  A
lead byte begins exactly the numbers that are encoded with it (`Announces.canBe_iff`), and a
continuation byte leaves those that have its bits next (`Begun.canBe_push_iff`).

So a decoded character is an encoded one, and `decode_eq_ok_iff` is the result: bytes that no text
encodes to are refused, whatever is wrong with them.
-/
import JsonRpc.Proofs.Chain
import JsonRpc.Text.Utf8
import Mathlib.Data.List.TakeWhile
import Mathlib.Tactic.Ring

namespace JsonRpc.Utf8

/-! ## Encoded characters -/

/-- A code point that is no surrogate. -/
def IsScalar (n : Nat) : Prop := n < 0xD800 ∨ 0xE000 ≤ n ∧ n < 0x110000

/-- The number of continuation bytes of a code point. -/
def owedOf (n : Nat) : Nat :=
  if n < 0x80 then 0 else if n < 0x800 then 1 else if n < 0x10000 then 2 else 3

/-- The lead byte of a code point. -/
def leadOf (n : Nat) : Nat :=
  if n < 0x80 then n
  else if n < 0x800 then 0xC0 + n / 64
  else if n < 0x10000 then 0xE0 + n / 4096
  else 0xF0 + n / 262144

/-- The last `k` continuation bytes of a code point, six bits in each. -/
def tails : (k : Nat) → Nat → Bytes
  | 0, _ => []
  | k + 1, n => .ofNat (0x80 + n / 64 ^ k % 64) :: tails k n

theorem encodeCodePoint_eq (c : CodePoint) :
    encodeCodePoint c = .ofNat (leadOf c.val) :: tails (owedOf c.val) c.val := by
  simp only [encodeCodePoint, leadOf, owedOf]
  split
  · rfl
  split
  · simp [tails]
  split
  · simp [tails]
  · simp [tails]

/-- The four widths of an encoded code point. -/
theorem width_cases (n : Nat) :
    owedOf n = 0 ∧ leadOf n = n ∧ n < 0x80 ∨
    owedOf n = 1 ∧ leadOf n = 0xC0 + n / 64 ∧ 0x80 ≤ n ∧ n < 0x800 ∨
    owedOf n = 2 ∧ leadOf n = 0xE0 + n / 4096 ∧ 0x800 ≤ n ∧ n < 0x10000 ∨
    owedOf n = 3 ∧ leadOf n = 0xF0 + n / 262144 ∧ 0x10000 ≤ n := by
  simp only [owedOf, leadOf]
  split
  · omega
  split
  · omega
  split <;> omega

theorem IsScalar.lt {n : Nat} (h : IsScalar n) : n < 0x110000 := by
  rcases h with h | h <;> omega

theorem isSurrogate_eq_false_iff {c : CodePoint} : c.isSurrogate = false ↔ IsScalar c.val := by
  have hlt := c.isLt
  simp only [CodePoint.isSurrogate, CodePoint.isHighSurrogate, CodePoint.isLowSurrogate, IsScalar,
    Bool.or_eq_false_iff, Bool.and_eq_false_iff, decide_eq_false_iff_not]
  omega

theorem leadOf_range {n : Nat} (h : IsScalar n) :
    leadOf n < 0x80 ∨ 0xC2 ≤ leadOf n ∧ leadOf n ≤ 0xF4 := by
  simp only [IsScalar] at h
  have hwidth := width_cases n
  omega

/-! ## Lead bytes -/

/-- The lead bytes and what they announce. -/
inductive Announces : Nat → Lead → Prop
  | one {x : Nat} : x < 0x80 → Announces x ⟨x, 0, 0x80, 0xBF⟩
  | two {x : Nat} : 0xC2 ≤ x → x < 0xE0 → Announces x ⟨x - 0xC0, 1, 0x80, 0xBF⟩
  | threeFirst : Announces 0xE0 ⟨0, 2, 0xA0, 0xBF⟩
  | three {x : Nat} : 0xE0 < x → x < 0xF0 → x ≠ 0xED → Announces x ⟨x - 0xE0, 2, 0x80, 0xBF⟩
  | threeBeforeSurrogates : Announces 0xED ⟨0xD, 2, 0x80, 0x9F⟩
  | fourFirst : Announces 0xF0 ⟨0, 3, 0x90, 0xBF⟩
  | four {x : Nat} : 0xF0 < x → x < 0xF4 → Announces x ⟨x - 0xF0, 3, 0x80, 0xBF⟩
  | fourLast : Announces 0xF4 ⟨4, 3, 0x80, 0x8F⟩

theorem announces_of_lead? {x : Nat} {l : Lead} (h : lead? x = some l) : Announces x l := by
  simp only [lead?] at h
  split at h
  · obtain rfl := Option.some.inj h
    exact .one (by assumption)
  split at h
  · exact absurd h (by simp)
  split at h
  · obtain rfl := Option.some.inj h
    exact .two (by omega) (by assumption)
  split at h
  · rename_i hx
    subst hx
    obtain rfl := Option.some.inj h
    exact .threeFirst
  split at h
  · rename_i hx
    subst hx
    obtain rfl := Option.some.inj h
    exact .threeBeforeSurrogates
  split at h
  · obtain rfl := Option.some.inj h
    exact .three (by omega) (by assumption) (by assumption)
  split at h
  · rename_i hx
    subst hx
    obtain rfl := Option.some.inj h
    exact .fourFirst
  split at h
  · obtain rfl := Option.some.inj h
    exact .four (by omega) (by assumption)
  split at h
  · rename_i hx
    subst hx
    obtain rfl := Option.some.inj h
    exact .fourLast
  · exact absurd h (by simp)

theorem exists_announces {x : Nat} (h : x < 0x80 ∨ 0xC2 ≤ x ∧ x ≤ 0xF4) :
    ∃ l, lead? x = some l ∧ Announces x l := by
  have hsome : (lead? x).isSome := by
    simp only [lead?]
    repeat' split
    all_goals first | rfl | omega
  obtain ⟨l, hl⟩ := Option.isSome_iff_exists.mp hsome
  exact ⟨l, hl, announces_of_lead? hl⟩

/-! ## Begun characters -/

/-- The numbers with the bits that were read and a next byte in the range. -/
def Begun.CanBe (p : Begun) (n : Nat) : Prop :=
  n / 64 ^ p.owed = p.bits ∧ p.low ≤ 0x80 + n / 64 ^ (p.owed - 1) % 64 ∧
    0x80 + n / 64 ^ (p.owed - 1) % 64 ≤ p.high

/-- The character has `k` bytes to come, and asks for continuation bytes. -/
structure Begun.Awaits (p : Begun) (k : Nat) : Prop where
  owed : p.owed = k
  low : 0x80 ≤ p.low
  high : p.high ≤ 0xBF
  complete : k = 0 → p.low = 0x80 ∧ p.high = 0xBF

section
variable {p : Begun} {k n x pos : Nat} {l : Lead} {b : UInt8}

theorem Announces.awaits (h : Announces x l) (b : UInt8) (pos : Nat) :
    (l.begin b pos).Awaits l.owed := by
  cases h <;> exact ⟨rfl, by simp [Lead.begin], by simp [Lead.begin], by simp [Lead.begin]⟩

/-- A lead byte begins the scalars that are encoded with it. -/
theorem Announces.canBe_iff (h : Announces x l) :
    (l.begin b pos).CanBe n ↔ IsScalar n ∧ leadOf n = x := by
  have hwidth := width_cases n
  cases h <;> simp only [Begun.CanBe, Lead.begin, IsScalar, Nat.reducePow, Nat.reduceSub] <;> omega

theorem Announces.owed_eq (h : Announces (leadOf n) l) : owedOf n = l.owed := by
  have hwidth := width_cases n
  generalize leadOf n = x at h hwidth
  cases h <;> simp only <;> omega

theorem Begun.Awaits.push (h : p.Awaits (k + 1)) (b : UInt8) : (p.push b).Awaits k where
  owed := by rw [Begun.push, h.owed, Nat.add_sub_cancel]
  low := Nat.le_refl _
  high := Nat.le_refl _
  complete := fun _ => ⟨rfl, rfl⟩

/-- Without a byte to come the number is fixed. -/
theorem Begun.Awaits.canBe_iff (h : p.Awaits 0) : p.CanBe n ↔ n = p.bits := by
  obtain ⟨hlow, hhigh⟩ := h.complete rfl
  simp only [Begun.CanBe, h.owed, hlow, hhigh, Nat.pow_zero, Nat.div_one]
  omega

/-- A continuation byte that is asked for leaves the numbers that have its bits next. -/
theorem Begun.canBe_push_iff (hp : p.Awaits (k + 1)) :
    (p.low ≤ b.toNat ∧ b.toNat ≤ p.high) ∧ (p.push b).CanBe n ↔
      p.CanBe n ∧ b = .ofNat (0x80 + n / 64 ^ k % 64) := by
  have hbyte : b = .ofNat (0x80 + n / 64 ^ k % 64) ↔ b.toNat = 0x80 + n / 64 ^ k % 64 := by
    rw [← UInt8.toNat_inj, UInt8.toNat_ofNat_of_lt' (by show _ < 256; omega)]
  have hnext : n / 64 ^ (k + 1) = n / 64 ^ k / 64 := by
    rw [Nat.pow_succ, Nat.div_div_eq_div_mul]
  have hlow := hp.low
  have hhigh := hp.high
  rw [hbyte]
  simp only [CanBe, Begun.push, hp.owed, hnext, Nat.add_sub_cancel]
  omega

end

/-! ## Decoding -/

/-- What is decoded from where a character stands, which may be complete. -/
def resume (p : Begun) (pos : Nat) (bytes : Bytes) : Except DecodeError Text :=
  if p.owed = 0 then (decodeFrom false pos none bytes).map (.ofNat p.bits :: ·)
  else decodeFrom false pos (some p) bytes

variable {pos : Nat} {b : UInt8} {bytes : Bytes} {t : Text}

theorem decodeFrom_some_eq_ok_iff {p : Begun} :
    decodeFrom false pos (some p) (b :: bytes) = .ok t ↔
      (p.low ≤ b.toNat ∧ b.toNat ≤ p.high) ∧ resume (p.push b) (pos + 1) bytes = .ok t := by
  rw [decodeFrom, resume]
  by_cases hrange : p.low ≤ b.toNat ∧ b.toNat ≤ p.high <;> simp [hrange]

theorem decodeFrom_none_eq_ok_iff :
    decodeFrom false pos none (b :: bytes) = .ok t ↔
      ∃ l, lead? b.toNat = some l ∧ resume (l.begin b pos) (pos + 1) bytes = .ok t := by
  rw [decodeFrom]
  · cases hl : lead? b.toNat with
    | none => simp
    | some l =>
        simp only [Option.some.injEq, exists_eq_left']
        rfl
  · intro _ _ _ h
    exact absurd h (by simp)

/-- A begun character is decoded if the bytes that follow complete a number that it can be. -/
theorem resume_eq_ok_iff {p : Begun} {k : Nat} (hp : p.Awaits k) :
    resume p pos bytes = .ok t ↔
      ∃ n rest t', p.CanBe n ∧ bytes = tails k n ++ rest ∧
        decodeFrom false (pos + k) none rest = .ok t' ∧ t = .ofNat n :: t' := by
  induction k generalizing p pos bytes with
  | zero =>
      rw [resume, if_pos hp.owed, map_eq_ok_iff]
      simp only [hp.canBe_iff]
      constructor
      · rintro ⟨t', ht', rfl⟩
        exact ⟨_, bytes, t', rfl, rfl, ht', rfl⟩
      · rintro ⟨_, _, t', rfl, rfl, ht', rfl⟩
        exact ⟨t', ht', rfl⟩
  | succ k ih =>
      have hpos : pos + 1 + k = pos + (k + 1) := by omega
      have howed : p.owed ≠ 0 := by
        rw [hp.owed]
        exact Nat.succ_ne_zero k
      rw [resume, if_neg howed]
      cases bytes with
      | nil => simp [decodeFrom, tails]
      | cons b bytes =>
          rw [decodeFrom_some_eq_ok_iff, ih (hp.push b), hpos]
          constructor
          · rintro ⟨hrange, n, rest, t', hbits, rfl, ht', rfl⟩
            obtain ⟨hn, hb⟩ := (Begun.canBe_push_iff hp).mp ⟨hrange, hbits⟩
            exact ⟨n, rest, t', hn, by rw [hb]; rfl, ht', rfl⟩
          · rintro ⟨n, rest, t', hn, hbytes, ht', rfl⟩
            obtain ⟨hb, rfl⟩ := List.cons.inj hbytes
            obtain ⟨hrange, hbits⟩ := (Begun.canBe_push_iff hp).mpr ⟨hn, hb⟩
            exact ⟨hrange, n, rest, t', hbits, rfl, ht', rfl⟩

/-- One character is decoded at a time, and it is the one that the bytes in front encode. -/
theorem decodeFrom_cons_eq_ok_iff :
    decodeFrom false pos none (b :: bytes) = .ok t ↔
      ∃ (c : CodePoint) (rest : Bytes) (t' : Text), c.isSurrogate = false ∧
        b :: bytes = encodeCodePoint c ++ rest ∧
        decodeFrom false (pos + 1 + owedOf c.val) none rest = .ok t' ∧ t = c :: t' := by
  rw [decodeFrom_none_eq_ok_iff]
  constructor
  · rintro ⟨l, hl, h⟩
    have hlead := announces_of_lead? hl
    rw [resume_eq_ok_iff (hlead.awaits b pos)] at h
    obtain ⟨n, rest, t', hn, rfl, ht', rfl⟩ := h
    obtain ⟨hscalar, hbyte⟩ := hlead.canBe_iff.mp hn
    rw [← hbyte] at hlead
    have howed := hlead.owed_eq
    have hval : (CodePoint.ofNat n).val = n := CodePoint.val_ofNat hscalar.lt
    refine ⟨.ofNat n, rest, t', ?_, ?_, ?_, rfl⟩
    · rwa [isSurrogate_eq_false_iff, hval]
    · rw [encodeCodePoint_eq, hval, howed, hbyte, UInt8.ofNat_toNat]
      rfl
    · rwa [hval, howed]
  · rintro ⟨c, rest, t', hc, hbytes, ht', rfl⟩
    have hscalar := isSurrogate_eq_false_iff.mp hc
    have hrange := leadOf_range hscalar
    have hbyte : (UInt8.ofNat (leadOf c.val)).toNat = leadOf c.val :=
      UInt8.toNat_ofNat_of_lt' (by show _ < 256; omega)
    obtain ⟨l, hl, hlead⟩ := exists_announces hrange
    rw [encodeCodePoint_eq, hlead.owed_eq] at hbytes
    obtain ⟨rfl, rfl⟩ := List.cons.inj hbytes
    refine ⟨l, by rwa [hbyte], ?_⟩
    rw [resume_eq_ok_iff (hlead.awaits _ pos)]
    refine ⟨c.val, rest, t', hlead.canBe_iff.mpr ⟨hscalar, rfl⟩, rfl, ?_, ?_⟩
    · rwa [← hlead.owed_eq]
    · rw [CodePoint.ofNat, dif_pos c.isLt]

/-- What is decoded from the beginning of a character on is the text that the bytes encode. -/
theorem decodeFrom_eq_ok_iff :
    decodeFrom false pos none bytes = .ok t ↔ t.hasSurrogate = false ∧ encode t = bytes := by
  induction t generalizing pos bytes with
  | nil =>
      cases bytes with
      | nil => exact iff_of_true rfl ⟨rfl, rfl⟩
      | cons b bytes =>
          rw [decodeFrom_cons_eq_ok_iff]
          simp [encode]
  | cons c t ih =>
      cases bytes with
      | nil => simp [decodeFrom, encode, encodeCodePoint_eq]
      | cons b bytes =>
          rw [decodeFrom_cons_eq_ok_iff, Text.hasSurrogate, List.any_cons, Bool.or_eq_false_iff,
            encode, List.flatMap_cons]
          constructor
          · rintro ⟨c', rest, t', hc, hbytes, ht, heq⟩
            obtain ⟨rfl, rfl⟩ := List.cons.inj heq
            obtain ⟨hsurrogate, rfl⟩ := ih.mp ht
            exact ⟨⟨hc, hsurrogate⟩, hbytes.symm⟩
          · rintro ⟨⟨hc, ht⟩, hbytes⟩
            exact ⟨c, encode t, t, hc, hbytes.symm, ih.mpr ⟨ht, rfl⟩, rfl⟩

theorem unencodable?_eq_none_iff : unencodable? t = none ↔ t.hasSurrogate = false := by
  have hdrop : t.drop (t.takeWhile fun c => !c.isSurrogate).length =
      t.dropWhile fun c => !c.isSurrogate := by
    calc t.drop (t.takeWhile fun c => !c.isSurrogate).length
        = ((t.takeWhile fun c => !c.isSurrogate) ++ t.dropWhile fun c => !c.isSurrogate).drop
            (t.takeWhile fun c => !c.isSurrogate).length := by
          rw [List.takeWhile_append_dropWhile]
      _ = t.dropWhile fun c => !c.isSurrogate := List.drop_left
  have hnone : unencodable? t = none ↔ (t.dropWhile fun c => !c.isSurrogate) = [] := by
    rw [unencodable?, hdrop]
    cases t.dropWhile fun c => !c.isSurrogate <;> simp
  rw [hnone, List.dropWhile_eq_nil_iff, Text.hasSurrogate, List.any_eq_false]
  simp

theorem encodeStrict_eq_ok_iff :
    encodeStrict t = .ok bytes ↔ t.hasSurrogate = false ∧ encode t = bytes := by
  rw [encodeStrict, ← unencodable?_eq_none_iff]
  cases unencodable? t <;> simp

/-- Bytes are read as the text that they encode, and not at all if there is none. -/
theorem decode_eq_ok_iff : decode bytes = .ok t ↔ encodeStrict t = .ok bytes :=
  decodeFrom_eq_ok_iff.trans encodeStrict_eq_ok_iff.symm

end JsonRpc.Utf8
