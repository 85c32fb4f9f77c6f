/-
What a text can carry.

A value comes back from its document as it was if it is plain, has no whole number past the digit limit
and is nested no deeper than may be read (`IsPortable`).  Inside of an array or an object there is one
level less for it; apart from that an object is portable if its parts are (`isPortable_obj`).

Whether a text that is put together from others has a pair of surrogates is a matter of those that have
surrogates at all, and neither digits nor what the library itself says has any.
-/
import JsonRpc.Proofs.Json.Bounds

namespace JsonRpc

/-! ## Texts without surrogates -/

theorem CodePoint.isSurrogate_ofDigit (d : Fin 10) : (ofDigit d).isSurrogate = false := by
  revert d
  decide

/-- A character is never a surrogate. -/
theorem CodePoint.isSurrogate_ofChar (c : Char) : (ofChar c).isSurrogate = false := by
  have hvalid := c.valid
  simp only [UInt32.isValidChar, Nat.isValidChar] at hvalid
  have hval : (ofChar c).val = c.val.toNat := rfl
  simp only [isSurrogate, isHighSurrogate, isLowSurrogate, hval]
  grind

namespace Text

variable {s t : Text}

theorem hasPair_cons {c : CodePoint} (hc : c.isHighSurrogate = false) (t : Text) :
    hasPair (c :: t) = hasPair t := by
  cases t with
  | nil => rfl
  | cons d t => rw [hasPair, hc, Bool.false_and, Bool.false_or]

theorem hasSurrogate_cons {c : CodePoint} :
    hasSurrogate (c :: t) = false ↔ c.isSurrogate = false ∧ t.hasSurrogate = false := by
  rw [hasSurrogate, List.any_cons, Bool.or_eq_false_iff]
  exact Iff.rfl

@[simp] theorem hasSurrogate_append :
    (s ++ t).hasSurrogate = false ↔ s.hasSurrogate = false ∧ t.hasSurrogate = false := by
  rw [hasSurrogate, List.any_append, Bool.or_eq_false_iff]
  exact Iff.rfl

theorem hasSurrogate_map {α : Type} {f : α → CodePoint} (hf : ∀ a, (f a).isSurrogate = false)
    (l : List α) : hasSurrogate (l.map f) = false := by
  rw [hasSurrogate, List.any_eq_false]
  intro c hc
  obtain ⟨a, -, rfl⟩ := List.mem_map.mp hc
  rw [hf]
  exact Bool.false_ne_true

@[simp] theorem hasSurrogate_of (s : String) : (of s).hasSurrogate = false :=
  hasSurrogate_map CodePoint.isSurrogate_ofChar s.toList

theorem hasPair_append_left (hs : s.hasSurrogate = false) (t : Text) :
    (s ++ t).hasPair = t.hasPair := by
  induction s with
  | nil => rfl
  | cons c s ih =>
      obtain ⟨hc, hs⟩ := hasSurrogate_cons.mp hs
      rw [CodePoint.isSurrogate, Bool.or_eq_false_iff] at hc
      rw [List.cons_append, hasPair_cons hc.1]
      exact ih hs

theorem hasPair_of_hasSurrogate (ht : t.hasSurrogate = false) : t.hasPair = false := by
  have h := hasPair_append_left ht []
  rw [List.append_nil] at h
  exact h

/-- A text of characters has no pair. -/
theorem hasPair_of (s : String) : (of s).hasPair = false :=
  hasPair_of_hasSurrogate (hasSurrogate_of s)

theorem hasPair_append_right (s : Text) (ht : t.hasSurrogate = false) :
    (s ++ t).hasPair = s.hasPair := by
  induction s with
  | nil => exact hasPair_of_hasSurrogate ht
  | cons c s ih =>
      cases s with
      | cons d s =>
          rw [List.cons_append, List.cons_append, hasPair, hasPair]
          rw [List.cons_append] at ih
          rw [ih]
      | nil =>
          cases t with
          | nil => rfl
          | cons d t =>
              obtain ⟨hd, _⟩ := hasSurrogate_cons.mp ht
              rw [CodePoint.isSurrogate, Bool.or_eq_false_iff] at hd
              show (c.isHighSurrogate && d.isLowSurrogate || hasPair (d :: t)) = false
              rw [hd.2, Bool.and_false, Bool.false_or]
              exact hasPair_of_hasSurrogate ht

@[simp] theorem hasSurrogate_ofNat (n : Nat) : (ofNat n).hasSurrogate = false :=
  hasSurrogate_map CodePoint.isSurrogate_ofDigit (digits n)

@[simp] theorem hasSurrogate_ofInt (n : Int) : (ofInt n).hasSurrogate = false := by
  cases n with
  | ofNat n => exact hasSurrogate_ofNat n
  | negSucc n =>
      exact hasSurrogate_cons.mpr ⟨CodePoint.isSurrogate_ofChar '-', hasSurrogate_ofNat (n + 1)⟩

end Text

/-- What the library says of a number that is too long has no surrogates. -/
theorem LongNumber.hasSurrogate_message (e : LongNumber) : e.message.hasSurrogate = false := by
  cases e with
  | reading count => simp [message]
  | writing => exact Text.hasSurrogate_of _

namespace Json

theorem WriteError.hasSurrogate_message (e : WriteError) : e.message.hasSurrogate = false := by
  cases e with
  | nonFinite => exact Text.hasSurrogate_of _
  | longNumber e => exact e.hasSurrogate_message
  | tooDeep => exact Text.hasSurrogate_of _

/-! ## Portable values -/

/-- A text can carry the value where so many levels are left. -/
structure IsPortable (levels : Nat) (v : Json) : Prop where
  plain : v.isPlain = true
  short : v.HasShortInts
  nesting : v.nesting ≤ levels

variable {n : Nat}

/-- More levels do no harm. -/
theorem IsPortable.mono {m : Nat} {v : Json} (h : v.IsPortable m) (hmn : m ≤ n) : v.IsPortable n :=
  ⟨h.plain, h.short, Nat.le_trans h.nesting hmn⟩

theorem isPortable_null (n : Nat) : null.IsPortable n :=
  ⟨rfl, by simp [HasShortInts, atoms], Nat.zero_le n⟩

theorem isPortable_str {t : Text} : (str t).IsPortable n ↔ t.hasPair = false := by
  constructor
  · intro h
    exact Bool.not_eq_true' _ ▸ h.plain
  · intro h
    exact ⟨by rw [isPlain, h]; rfl, by simp [HasShortInts, atoms], Nat.zero_le n⟩

theorem isPortable_int {k : Int} :
    (int k).IsPortable n ↔ (digits k.natAbs).length ≤ digitLimit := by
  constructor
  · intro h
    exact h.short (int k) List.mem_cons_self k rfl
  · intro h
    refine ⟨rfl, ?_, Nat.zero_le n⟩
    intro a ha k' hk
    obtain rfl := List.mem_singleton.mp ha
    obtain rfl := int.inj hk
    exact h

theorem isPortable_obj {ms : List (Text × Json)} :
    (obj ms).IsPortable (n + 1) ↔
      (ms.map Prod.fst).Nodup ∧ ∀ m ∈ ms, m.1.hasPair = false ∧ m.2.IsPortable n := by
  constructor
  · intro h
    obtain ⟨hnames, hplain⟩ := isPlain_obj.mp h.plain
    refine ⟨hnames, ?_⟩
    intro m hm
    exact ⟨(hplain m hm).1, (hplain m hm).2, (forall_atoms_obj.mp h.short m hm).2,
      nesting_obj_le.mp h.nesting m hm⟩
  · rintro ⟨hnames, hms⟩
    refine ⟨isPlain_obj.mpr ⟨hnames, fun m hm => ⟨(hms m hm).1, (hms m hm).2.plain⟩⟩, ?_, ?_⟩
    · refine forall_atoms_obj.mpr ?_
      intro m hm
      exact ⟨fun _ h => absurd h (by simp), (hms m hm).2.short⟩
    · exact nesting_obj_le.mpr fun m hm => (hms m hm).2.nesting

/-- Of the atoms in a value it is the whole numbers that may not be written on the wire or in a log. -/
theorem hasShortInts_iff {v : Json} :
    v.HasShortInts ↔ ∀ a ∈ v.atoms, Style.spaced.writes a = true := by
  refine forall₂_congr fun a _ => ?_
  cases a with
  | int n => simp [Style.writes]
  | float x => simp [Style.writes, Style.spaced]
  | _ => simp [Style.writes]

theorem exists_write_iff {v : Json} :
    (∃ t, writeNested .spaced n v = .ok t) ↔ v.nesting ≤ n ∧ v.HasShortInts := by
  rw [hasShortInts_iff]
  exact exists_writeNested_iff

/-- Without whole numbers past the digit limit, what keeps a value from being written is depth. -/
theorem write_eq_tooDeep_iff {v : Json} (h : v.HasShortInts) :
    writeNested .spaced n v = .error .tooDeep ↔ n < v.nesting := by
  constructor
  · intro hdeep
    by_contra hle
    obtain ⟨t, ht⟩ := exists_write_iff.mpr ⟨Nat.le_of_not_lt hle, h⟩
    exact absurd (ht.symm.trans hdeep) (by simp)
  · intro hlt
    cases hwrite : writeNested .spaced n v with
    | ok t => exact absurd (exists_write_iff.mp ⟨t, hwrite⟩).1 (Nat.not_le_of_lt hlt)
    | error e => rw [eq_tooDeep_of_writeNested (hasShortInts_iff.mp h) hwrite]

/-- What a reader took is written. -/
theorem exists_write_of_document {constants : Bool} {t : Text} {v : Json}
    (h : Grammar.Document (.read constants) nestingLimit t v) : ∃ s, v.write = .ok s := by
  obtain ⟨_, _, _, hv, _⟩ := h
  exact exists_write_iff.mpr ⟨hv.nesting_le, hv.hasShortInts⟩

/-- A portable value is written, and read back by who takes constants. -/
theorem IsPortable.read_write {v : Json} (h : v.IsPortable nestingLimit) :
    ∃ t, v.write = .ok t ∧ read t = .ok v := by
  obtain ⟨t, ht⟩ := exists_write_iff.mpr ⟨h.nesting, h.short⟩
  have hread : readWith true nestingLimit t = .ok v.settled := readWith_write ht
  rw [settled_of_isPlain h.plain] at hread
  exact ⟨t, ht, hread⟩

/-- A portable value of finite numbers is read back by the strict reader too, also further down. -/
theorem IsPortable.readStrict_write {v : Json} (h : v.IsPortable n) (hn : n ≤ nestingLimit)
    (hv : v.isFinite = true) : ∃ t, v.write = .ok t ∧ readStrict n t = .ok v := by
  obtain ⟨t, ht⟩ := exists_write_iff.mpr ⟨h.nesting, h.short⟩
  have hread := readWith_write ((writeNested_of_finite true hv).symm.trans ht)
  rw [settled_of_isPlain h.plain] at hread
  exact ⟨t, writeNested_mono hn ht, hread⟩

end Json

end JsonRpc
