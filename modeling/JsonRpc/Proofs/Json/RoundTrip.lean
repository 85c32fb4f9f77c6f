/-
Written documents, read again.

What is written with constants or without is read with them or without as what the value becomes
(`readWith_write`).  The wire is written with constants and read without.  Its reader takes exactly
the documents in which no number is infinite or NaN (`readStrict_write_iff`): of finite numbers the
two styles write the same, and where they differ a constant stands in the text, with nothing but
complete values before it.
-/
import JsonRpc.Proofs.Json.ValueText

namespace JsonRpc.Json

open Grammar

/-! ## Finite values -/

theorem isFinite_arr {vs : List Json} :
    (arr vs).isFinite = true ↔ ∀ v ∈ vs, v.isFinite = true := by
  simp only [isFinite, List.all_eq_true]
  exact forall_atoms_arr

theorem isFinite_obj {ms : List (Text × Json)} :
    (obj ms).isFinite = true ↔ ∀ m ∈ ms, m.2.isFinite = true := by
  simp only [isFinite, List.all_eq_true]
  rw [forall_atoms_obj]
  simp

section
variable {n : Nat}

theorem writeItems_of_finite (constants : Bool) {vs : List Json}
    (h : ∀ v ∈ vs, writeNested (.wire constants) n v = writeNested (.wire false) n v) :
    writeItems (.wire constants) n vs = writeItems (.wire false) n vs := by
  induction vs with
  | nil => rfl
  | cons v vs ih =>
      rw [List.forall_mem_cons] at h
      rw [writeItems, writeItems, h.1, ih h.2]
      rfl

theorem writeMembers_of_finite (constants : Bool) {ms : List (Text × Json)}
    (h : ∀ m ∈ ms, writeNested (.wire constants) n m.2 = writeNested (.wire false) n m.2) :
    writeMembers (.wire constants) n ms = writeMembers (.wire false) n ms := by
  induction ms with
  | nil => rfl
  | cons m ms ih =>
      rw [List.forall_mem_cons] at h
      rw [writeMembers, writeMembers, h.1, ih h.2]
      rfl

end

/-- Without constants to write, it makes no difference whether they may be. -/
theorem writeNested_of_finite (constants : Bool) {n : Nat} {v : Json} (h : v.isFinite = true) :
    writeNested (.wire constants) n v = writeNested (.wire false) n v := by
  induction v using ind generalizing n with
  | null | int _ | str _ => cases n <;> rfl
  | bool b => cases b <;> cases n <;> rfl
  | float x =>
      have hx : x.isFinite = true := by simpa [isFinite, atoms] using h
      rw [writeNested_atom _ _ (by simp) (by simp), writeNested_atom _ _ (by simp) (by simp)]
      simp [writeAtom, hx]
  | arr vs ih =>
      rw [isFinite_arr] at h
      cases n with
      | zero => rfl
      | succ n =>
          cases vs with
          | nil => rfl
          | cons v vs =>
              rw [List.forall_mem_cons] at h
              rw [writeNested, writeNested, ih v List.mem_cons_self h.1,
                writeItems_of_finite constants
                  fun w hw => ih w (List.mem_cons_of_mem _ hw) (h.2 w hw)]
  | obj ms ih =>
      rw [isFinite_obj] at h
      cases n with
      | zero => rfl
      | succ n =>
          cases ms with
          | nil => rfl
          | cons m ms =>
              rw [List.forall_mem_cons] at h
              rw [writeNested, writeNested, ih m List.mem_cons_self h.1,
                writeMembers_of_finite constants
                  fun w hw => ih w (List.mem_cons_of_mem _ hw) (h.2 w hw)]
              rfl

theorem value_of_write_finite {n : Nat} {v : Json} {t : Text} (rest : Text)
    (h : writeNested (.wire true) n v = .ok t) (hv : v.isFinite = true) :
    Value (.read false) n (t ++ rest) v.settled rest :=
  value_of_write rest ((writeNested_of_finite true hv).symm.trans h)

/-! ## Constants in the text -/

section
variable {n : Nat}

/-- Among written values that follow a first one there is a constant if not all are finite. -/
theorem itemsBefore_of_write {vs : List Json}
    (ih : ∀ v ∈ vs, ∀ {t} rest, writeNested (.wire true) n v = .ok t → v.isFinite = false →
      ∃ k, Reaches (.read false) (IsConstant k) n (t ++ rest))
    {t : Text} (h : writeItems (.wire true) n vs = .ok t) (hvs : ∃ v ∈ vs, v.isFinite = false)
    {v : Json} {first : Text} (hv : ∀ rest, Value (.read false) n (first ++ rest) v rest)
    (rest : Text) :
    ∃ k t', ItemsBefore (Value (.read false) n) (first ++ (t ++ rest)) t' ∧
      Reaches (.read false) (IsConstant k) n t' := by
  induction vs generalizing t v first with
  | nil =>
      obtain ⟨v, hv, _⟩ := hvs
      exact absurd hv List.not_mem_nil
  | cons w ws ihs =>
      obtain ⟨t₁, t₂, hw, hws, htext⟩ := writeItems_cons h
      rw [htext]
      cases hfin : w.isFinite with
      | false =>
          obtain ⟨k, hk⟩ := ih w List.mem_cons_self (t₂ ++ rest) hw hfin
          exact ⟨k, _, .skip (hv _) (.nil _) (spaces_space _) (.here _), hk⟩
      | true =>
          have hrest : ∃ v ∈ ws, v.isFinite = false := by
            obtain ⟨v, hv, hinf⟩ := hvs
            rcases List.mem_cons.mp hv with rfl | hv
            · exact absurd (hfin.symm.trans hinf) (by simp)
            · exact ⟨v, hv, hinf⟩
          obtain ⟨k, t', hb, hk⟩ := ihs (fun v hv => ih v (List.mem_cons_of_mem _ hv)) hws hrest
            (fun rest => value_of_write_finite rest hw hfin)
          exact ⟨k, t', .skip (hv _) (.nil _) (spaces_space _) hb, hk⟩

theorem membersBefore_of_write {ms : List (Text × Json)}
    (ih : ∀ m ∈ ms, ∀ {t} rest, writeNested (.wire true) n m.2 = .ok t → m.2.isFinite = false →
      ∃ k, Reaches (.read false) (IsConstant k) n (t ++ rest))
    {t : Text} (h : writeMembers (.wire true) n ms = .ok t)
    (hms : ∃ m ∈ ms, m.2.isFinite = false) (name : Text) {v : Json} {first : Text}
    (hv : ∀ rest, Value (.read false) n (first ++ rest) v rest) (rest : Text) :
    ∃ k t', MembersBefore (Value (.read false) n)
        (StringLiteral.write true name
          ++ (.ofChar ':' :: .ofChar ' ' :: (first ++ (t ++ rest)))) t' ∧
      Reaches (.read false) (IsConstant k) n t' := by
  induction ms generalizing t v first name with
  | nil =>
      obtain ⟨m, hm, _⟩ := hms
      exact absurd hm List.not_mem_nil
  | cons m ms ihs =>
      obtain ⟨t₁, t₂, hm, hrest, htext⟩ := writeMembers_cons h
      rw [htext]
      cases hfin : m.2.isFinite with
      | false =>
          obtain ⟨k, hk⟩ := ih m List.mem_cons_self (t₂ ++ rest) hm hfin
          exact ⟨k, _, .skip (name_of_write name _) (hv _) (.nil _) (spaces_space _)
            (.here (name_of_write m.1 _)), hk⟩
      | true =>
          have hinf : ∃ m ∈ ms, m.2.isFinite = false := by
            obtain ⟨w, hw, hinf⟩ := hms
            rcases List.mem_cons.mp hw with rfl | hw
            · exact absurd (hfin.symm.trans hinf) (by simp)
            · exact ⟨w, hw, hinf⟩
          obtain ⟨k, t', hb, hk⟩ := ihs (fun w hw => ih w (List.mem_cons_of_mem _ hw)) hrest hinf
            m.1 (fun rest => value_of_write_finite rest hm hfin)
          exact ⟨k, t', .skip (name_of_write name _) (hv _) (.nil _) (spaces_space _) hb, hk⟩

end

theorem reaches_constant_float {n : Nat} {x : Binary64} {t : Text} (rest : Text)
    (h : writeAtom (.wire true) (.float x) = .ok t) (hx : x.isFinite = false) :
    ∃ k, Reaches (.read false) (IsConstant k) n (t ++ rest) := by
  cases x with
  | finite s k => exact absurd hx (by simp [Binary64.isFinite])
  | nan =>
      obtain rfl := Except.ok.inj h
      exact ⟨.nan, .here ⟨rest, rfl⟩⟩
  | infinite s =>
      cases s with
      | false =>
          obtain rfl := Except.ok.inj h
          exact ⟨.infinity, .here ⟨rest, rfl⟩⟩
      | true =>
          obtain rfl := Except.ok.inj h
          exact ⟨.negativeInfinity, .here ⟨rest, rfl⟩⟩

/-- The text of a value with an infinity or NaN in it leads to a constant. -/
theorem reaches_constant {n : Nat} {v : Json} {t : Text} (rest : Text)
    (h : writeNested (.wire true) n v = .ok t) (hv : v.isFinite = false) :
    ∃ k, Reaches (.read false) (IsConstant k) n (t ++ rest) := by
  induction v using ind generalizing n t rest with
  | null | bool _ | int _ | str _ => exact absurd hv (by simp [isFinite, atoms])
  | float x =>
      rw [writeNested_atom _ _ (by simp) (by simp)] at h
      exact reaches_constant_float rest h (by simpa [isFinite, atoms] using hv)
  | arr vs ih =>
      rw [← Bool.not_eq_true, isFinite_arr] at hv
      cases n with
      | zero => exact absurd h (by simp [writeNested])
      | succ n =>
          cases vs with
          | nil => exact absurd (fun _ hm => absurd hm List.not_mem_nil) hv
          | cons v vs =>
              -- the reader stops in the first value that is not finite
              obtain ⟨t₁, t₂, hw, hvs, htext⟩ := writeNested_arr_cons h
              rw [htext]
              cases hfin : v.isFinite with
              | false =>
                  obtain ⟨k, hk⟩ := ih v List.mem_cons_self (t₂ ++ .ofChar ']' :: rest) hw hfin
                  exact ⟨k, .array (.nil _) (.here _) hk⟩
              | true =>
                  rw [List.forall_mem_cons, not_and] at hv
                  obtain ⟨k, t', hb, hk⟩ := itemsBefore_of_write
                    (fun w hw _ rest h => ih w (List.mem_cons_of_mem _ hw) rest h) hvs
                    (by simpa using hv hfin)
                    (fun rest => value_of_write_finite rest hw hfin) (.ofChar ']' :: rest)
                  exact ⟨k, .array (.nil _) hb hk⟩
  | obj ms ih =>
      rw [← Bool.not_eq_true, isFinite_obj] at hv
      cases n with
      | zero => exact absurd h (by simp [writeNested])
      | succ n =>
          cases ms with
          | nil => exact absurd (fun _ hm => absurd hm List.not_mem_nil) hv
          | cons m ms =>
              obtain ⟨t₁, t₂, hm, hms, htext⟩ := writeNested_obj_cons h
              rw [htext]
              cases hfin : m.2.isFinite with
              | false =>
                  obtain ⟨k, hk⟩ := ih m List.mem_cons_self (t₂ ++ .ofChar '}' :: rest) hm hfin
                  exact ⟨k, .object (.nil _) (.here (name_of_write m.1 _)) hk⟩
              | true =>
                  rw [List.forall_mem_cons, not_and] at hv
                  obtain ⟨k, t', hb, hk⟩ := membersBefore_of_write
                    (fun w hw _ rest h => ih w (List.mem_cons_of_mem _ hw) rest h) hms
                    (by simpa using hv hfin) m.1
                    (fun rest => value_of_write_finite rest hm hfin) (.ofChar '}' :: rest)
                  exact ⟨k, .object (.nil _) hb hk⟩

/-! ## Reading what was written -/

theorem readWith_write {constants : Bool} {n : Nat} {v : Json} {t : Text}
    (h : writeNested (.wire constants) n v = .ok t) : readWith constants n t = .ok v.settled := by
  have hv := value_of_write [] h
  rw [List.append_nil] at hv
  exact readWith_eq_ok_iff.mpr ⟨t, [], .nil t, hv, .nil []⟩

/-- The strict reader takes a document of the wire exactly if its numbers are finite. -/
theorem readStrict_write_iff {n : Nat} {v : Json} {t : Text}
    (h : writeNested .spaced n v = .ok t) :
    (∃ w, readStrict n t = .ok w) ↔ v.isFinite = true := by
  constructor
  · rintro ⟨w, hw⟩
    by_contra hv
    obtain ⟨k, hk⟩ := reaches_constant [] h (Bool.not_eq_true _ ▸ hv)
    rw [List.append_nil] at hk
    have hok := scanDocument_eq_ok_iff.mpr (readWith_eq_ok_iff.mp hw)
    rw [scanDocument_of_constant hk] at hok
    exact absurd hok (by simp)
  · intro hv
    exact ⟨_, readWith_write ((writeNested_of_finite true hv).symm.trans h)⟩

end JsonRpc.Json
