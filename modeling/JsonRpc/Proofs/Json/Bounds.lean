/-
Bounds on what is read and written.

`HasText` says of a value that it has a document with finite numbers only; an array or an object has
one, with one level more, if all in it have.  The wire carries exactly these to a strict reader
(`readStrict_write_iff_hasText`).

The reader takes no whole number of more digits than the writer puts out
(`hasShortInts_of_readWith`), and nothing nested deeper than it goes (`Grammar.Value.nesting_le`), so of
what was read it is infinities and NaN that may keep a value off the wire, and depth once it stands inside
of something else.
-/
import JsonRpc.Proofs.Json.RoundTrip

namespace JsonRpc.Json

open Grammar

/-- The value is written without constants, nested at most so deep. -/
def HasText (n : Nat) (v : Json) : Prop := ∃ t, writeNested .finite n v = .ok t

/-- More levels do no harm. -/
theorem HasText.mono {m n : Nat} {v : Json} (h : v.HasText m) (hmn : m ≤ n) : v.HasText n := by
  obtain ⟨t, ht⟩ := h
  exact ⟨t, writeNested_mono hmn ht⟩

theorem hasText_obj {n : Nat} {ms : List (Text × Json)} :
    (obj ms).HasText (n + 1) ↔ ∀ m ∈ ms, m.2.HasText n :=
  exists_writeNested_obj

theorem hasText_iff {n : Nat} {v : Json} :
    v.HasText n ↔ v.nesting ≤ n ∧ ∀ a ∈ v.atoms, Style.finite.writes a = true :=
  exists_writeNested_iff

@[simp] theorem hasText_null (n : Nat) : null.HasText n := by
  rw [hasText_iff]
  exact ⟨Nat.zero_le n, by simp [atoms, Style.writes]⟩

@[simp] theorem hasText_str (n : Nat) (t : Text) : (str t).HasText n := by
  rw [hasText_iff]
  exact ⟨Nat.zero_le n, by simp [atoms, Style.writes]⟩

theorem hasText_int {n : Nat} {k : Int} :
    (int k).HasText n ↔ (digits k.natAbs).length ≤ digitLimit := by
  rw [hasText_iff]
  simp [atoms, Style.writes, nesting]

/-- The whole numbers in the value are within the digit limit. -/
def HasShortInts (v : Json) : Prop :=
  ∀ a ∈ v.atoms, ∀ n, a = int n → (digits n.natAbs).length ≤ digitLimit

/-- What keeps a value from having a text is a number that is not finite, one that is too long, or
depth. -/
theorem hasText_iff_isFinite {n : Nat} {v : Json} :
    v.HasText n ↔ v.nesting ≤ n ∧ v.isFinite = true ∧ v.HasShortInts := by
  rw [hasText_iff, isFinite, List.all_eq_true, HasShortInts, ← forall₂_and]
  refine and_congr_right fun _ => forall₂_congr fun a _ => ?_
  cases a <;> simp [Style.writes, Style.finite]

/-- A value is written on the wire and taken by the strict reader if it has a text. -/
theorem readStrict_write_iff_hasText {v : Json} :
    (∃ t w, v.write = .ok t ∧ readStrict nestingLimit t = .ok w) ↔ v.HasText nestingLimit := by
  constructor
  · rintro ⟨t, w, ht, hw⟩
    have hv := (readStrict_write_iff ht).mp ⟨w, hw⟩
    exact ⟨t, (writeNested_of_finite true hv).symm.trans ht⟩
  · intro h
    obtain ⟨_, hv, _⟩ := hasText_iff_isFinite.mp h
    obtain ⟨t, ht⟩ := h
    have ht : v.write = .ok t := (writeNested_of_finite true hv).trans ht
    obtain ⟨w, hw⟩ := (readStrict_write_iff ht).mpr hv
    exact ⟨t, w, ht, hw⟩

/-! ## Values that were read -/

theorem natAbs_signed (s : Bool) (n : Nat) : (Text.signed s n).natAbs = n := by
  rw [Text.signed]
  split <;> omega

/-- The members of an object are among the pairs that set them. -/
theorem mem_of_mem_ofPairs {pairs : List (Text × Json)} {m : Text × Json}
    (h : m ∈ ofPairs pairs) : m ∈ pairs := by
  rcases mem_of_mem_foldl_setEntry h with h | h
  · exact absurd h List.not_mem_nil
  · exact h

namespace Grammar

theorem Whole.ne_nil {t rest : Text} {w : List (Fin 10)} (h : Whole t w rest) : w ≠ [] := by
  cases h <;> simp

theorem Atom.hasShortInts {constants : Bool} {t rest : Text} {v : Json}
    (h : Atom (.read constants) t v rest) : v.HasShortInts := by
  cases h with
  | null | true | false | constant | string => simp [HasShortInts, atoms]
  | @number n _ _ hn hl =>
      have hl : ¬ IsLong n := hl.resolve_left (by simp [Dialect.read])
      rw [denoted]
      split
      · rename_i hw
        have hle : n.whole.length ≤ digitLimit := Nat.le_of_not_lt fun h => hl ⟨hw, h⟩
        simp only [HasShortInts, atoms, List.mem_singleton]
        rintro _ rfl k hk
        obtain rfl := Json.int.inj hk
        rw [natAbs_signed]
        cases hn with
        | mk _ hwhole _ _ => exact Nat.le_trans (length_digits_ofDigits_le hwhole.ne_nil) hle
      · simp [HasShortInts, atoms]

section
variable {part : Text → Json → Text → Prop} {p : Json → Prop}
  (hpart : ∀ t v rest, part t v rest → p v)
include hpart

theorem Items.forall {t rest : Text} {vs : List Json} (h : Items part t vs rest) :
    ∀ v ∈ vs, p v := by
  induction h with
  | last hv _ => exact List.forall_mem_singleton.mpr (hpart _ _ _ hv)
  | more hv _ _ _ ih => exact List.forall_mem_cons.mpr ⟨hpart _ _ _ hv, ih⟩

theorem Members.forall {t rest : Text} {ms : List (Text × Json)} (h : Members part t ms rest) :
    ∀ m ∈ ms, p m.2 := by
  induction h with
  | last _ hv _ => exact List.forall_mem_singleton.mpr (hpart _ _ _ hv)
  | more _ hv _ _ _ ih => exact List.forall_mem_cons.mpr ⟨hpart _ _ _ hv, ih⟩

end

/-- The whole numbers that are read are within the limit. -/
theorem Value.hasShortInts {constants : Bool} {n : Nat} {t rest : Text} {v : Json}
    (h : Value (.read constants) n t v rest) : v.HasShortInts := by
  induction n generalizing t v rest with
  | zero => exact Atom.hasShortInts h
  | succ n ih =>
      rcases h with h | h
      · exact h.hasShortInts
      · cases h with
        | emptyArray | emptyObject => simp [HasShortInts, atoms, atomsOfItems, atomsOfMembers]
        | array _ hvs =>
            have hall := hvs.forall (p := HasShortInts) fun _ _ _ => ih
            exact forall_atoms_arr.mpr hall
        | object _ hms =>
            have hall := hms.forall (p := HasShortInts) fun _ _ _ => ih
            exact forall_atoms_obj.mpr fun m hm => ⟨by simp, hall m (mem_of_mem_ofPairs hm)⟩

theorem Atom.nesting_eq {d : Dialect} {t rest : Text} {v : Json} (h : Atom d t v rest) :
    v.nesting = 0 := by
  cases h with
  | null | true | false | constant | string => rfl
  | number =>
      rw [denoted]
      split <;> rfl

/-- A value is read as deep as it is nested. -/
theorem Value.nesting_le {d : Dialect} {n : Nat} {t rest : Text} {v : Json}
    (h : Value d n t v rest) : v.nesting ≤ n := by
  induction n generalizing t v rest with
  | zero => exact Nat.le_of_eq (Atom.nesting_eq h)
  | succ n ih =>
      rcases h with h | h
      · rw [h.nesting_eq]
        exact Nat.zero_le _
      · cases h with
        | emptyArray => exact nesting_arr_le.mpr (by simp)
        | emptyObject => exact nesting_obj_le.mpr (by simp)
        | array _ hvs =>
            exact nesting_arr_le.mpr (hvs.forall (p := fun v => v.nesting ≤ n) fun _ _ _ => ih)
        | object _ hms =>
            have hall := hms.forall (p := fun v => v.nesting ≤ n) fun _ _ _ => ih
            exact nesting_obj_le.mpr fun m hm => hall m (mem_of_mem_ofPairs hm)

end Grammar

theorem hasShortInts_of_readWith {constants : Bool} {n : Nat} {t : Text} {v : Json}
    (h : readWith constants n t = .ok v) : v.HasShortInts := by
  obtain ⟨_, _, _, hv, _⟩ := readWith_eq_ok_iff.mp h
  exact hv.hasShortInts

end JsonRpc.Json
