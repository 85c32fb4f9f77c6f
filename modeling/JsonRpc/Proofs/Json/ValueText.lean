/-
Documents are read as they are written.

A value is written if it is not nested too deep, its whole numbers are within the digit limit and,
unless constants may be written, its other numbers finite (`exists_writeNested_iff`).  Its document is
then in the grammar, as a document of what the value becomes (`value_of_write`); for a plain value that
is the value.  On the wire constants may be written, but the strict reader stops at the first of
them, so what it reads is exactly what is written of finite numbers (`readStrict_write_iff`).
-/
import JsonRpc.Proofs.Json.NumberText
import JsonRpc.Proofs.Json.Refusal
import JsonRpc.Proofs.Json.Value
import JsonRpc.Json.Writer

namespace JsonRpc.Json

open Grammar

/-- The style of the wire, with or without constants. -/
def Style.wire (constants : Bool) : Style := { Style.spaced with constants := constants }

/-! ## Atoms -/

theorem writeInt_eq_ok_iff {n : Int} {t : Text} :
    writeInt n = .ok t ↔ (digits n.natAbs).length ≤ digitLimit ∧ t = Text.ofInt n := by
  rw [writeInt]
  split
  · rename_i h
    constructor
    · intro ht
      exact ⟨h, (Except.ok.inj ht).symm⟩
    · rintro ⟨_, rfl⟩
      rfl
  · rename_i h
    refine iff_of_false (by simp) ?_
    rintro ⟨hlength, _⟩
    exact h hlength

theorem atom_int {d : Dialect} {n : Int} (hn : (digits n.natAbs).length ≤ digitLimit) (rest : Text) :
    Atom d (Text.ofInt n ++ rest) (.int n) rest := by
  have h := Atom.number (d := d) (number_ofInt n rest)
    (.inr fun hl => absurd hl.2 (Nat.not_lt.mpr hn))
  rwa [denoted_ofInt] at h

theorem atom_float {x : Binary64} {constants : Bool} (hx : (x.isFinite || constants) = true)
    (rest : Text) : Atom (.read constants) (writeFloat x ++ rest) (.float x) rest := by
  have hconstant (k : Constant) (hc : constants = true) :
      Atom (.read constants) (k.word ++ rest) (.float k.value) rest := .constant k rest hc
  cases x with
  | nan => exact hconstant .nan hx
  | infinite s =>
      cases s with
      | false => exact hconstant .infinity hx
      | true => exact hconstant .negativeInfinity hx
  | finite s k =>
      obtain ⟨n, hn, hw, hk⟩ := number_writeFloat s k rest
      rw [← hk]
      exact .number hn (.inr fun hl => hw hl.1)

/-- A written atom is read as what it becomes. -/
theorem atom_of_write {constants : Bool} {v : Json} {t : Text} (rest : Text)
    (harr : ∀ vs, v ≠ .arr vs) (hobj : ∀ ms, v ≠ .obj ms)
    (h : writeAtom (.wire constants) v = .ok t) :
    Atom (.read constants) (t ++ rest) v.settled rest := by
  cases v with
  | null =>
      obtain rfl := Except.ok.inj h
      exact .null rest
  | bool b =>
      cases b with
      | false =>
          obtain rfl := Except.ok.inj h
          exact .false rest
      | true =>
          obtain rfl := Except.ok.inj h
          exact .true rest
  | int n =>
      rw [writeAtom, mapError_eq_ok_iff, writeInt_eq_ok_iff] at h
      obtain ⟨hn, rfl⟩ := h
      exact atom_int hn rest
  | float x =>
      rw [writeAtom] at h
      split at h
      · rename_i hx
        obtain rfl := Except.ok.inj h
        exact atom_float hx rest
      · exact absurd h (by simp)
  | str s =>
      obtain rfl := Except.ok.inj h
      exact .string (literal_write s rest)
  | arr vs => exact absurd rfl (harr vs)
  | obj ms => exact absurd rfl (hobj ms)

theorem writeNested_atom (style : Style) (n : Nat) {v : Json} (harr : ∀ vs, v ≠ .arr vs)
    (hobj : ∀ ms, v ≠ .obj ms) : writeNested style n v = writeAtom style v := by
  cases v with
  | arr vs => exact absurd rfl (harr vs)
  | obj ms => exact absurd rfl (hobj ms)
  | null | bool _ | int _ | float _ | str _ => cases n <;> rfl

/-! ## Arrays and objects -/

theorem spaces_space (t : Text) : Spaces (.ofChar ' ' :: t) t := .cons rfl (.nil t)

section
variable {constants : Bool} {n : Nat} {t : Text}

/-! The parts that the text of an array or an object is made of, and how they stand in front of what
follows it. -/

theorem writeItems_cons {v : Json} {vs : List Json}
    (h : writeItems (.wire constants) n (v :: vs) = .ok t) :
    ∃ first others, writeNested (.wire constants) n v = .ok first ∧
      writeItems (.wire constants) n vs = .ok others ∧
      ∀ rest, t ++ rest = .ofChar ',' :: .ofChar ' ' :: (first ++ (others ++ rest)) := by
  rw [writeItems] at h
  obtain ⟨first, hv, h⟩ := bind_eq_ok_iff.mp h
  obtain ⟨others, hvs, h⟩ := bind_eq_ok_iff.mp h
  obtain rfl := Except.ok.inj h
  refine ⟨first, others, hv, hvs, ?_⟩
  intro rest
  simp [Style.wire, Style.spaced, Text.of]

theorem writeMembers_cons {m : Text × Json} {ms : List (Text × Json)}
    (h : writeMembers (.wire constants) n (m :: ms) = .ok t) :
    ∃ first others, writeNested (.wire constants) n m.2 = .ok first ∧
      writeMembers (.wire constants) n ms = .ok others ∧
      ∀ rest, t ++ rest = .ofChar ',' :: .ofChar ' ' :: (StringLiteral.write true m.1
        ++ (.ofChar ':' :: .ofChar ' ' :: (first ++ (others ++ rest)))) := by
  rw [writeMembers] at h
  obtain ⟨first, hm, h⟩ := bind_eq_ok_iff.mp h
  obtain ⟨others, hms, h⟩ := bind_eq_ok_iff.mp h
  obtain rfl := Except.ok.inj h
  refine ⟨first, others, hm, hms, ?_⟩
  intro rest
  simp [Style.wire, Style.spaced, Text.of]

theorem writeNested_arr_cons {v : Json} {vs : List Json}
    (h : writeNested (.wire constants) (n + 1) (.arr (v :: vs)) = .ok t) :
    ∃ first others, writeNested (.wire constants) n v = .ok first ∧
      writeItems (.wire constants) n vs = .ok others ∧
      ∀ rest, t ++ rest = .ofChar '[' :: (first ++ (others ++ .ofChar ']' :: rest)) := by
  rw [writeNested] at h
  obtain ⟨first, hv, h⟩ := bind_eq_ok_iff.mp h
  obtain ⟨others, hvs, h⟩ := bind_eq_ok_iff.mp h
  obtain rfl := Except.ok.inj h
  refine ⟨first, others, hv, hvs, ?_⟩
  intro rest
  simp [Text.of]

theorem writeNested_obj_cons {m : Text × Json} {ms : List (Text × Json)}
    (h : writeNested (.wire constants) (n + 1) (.obj (m :: ms)) = .ok t) :
    ∃ first others, writeNested (.wire constants) n m.2 = .ok first ∧
      writeMembers (.wire constants) n ms = .ok others ∧
      ∀ rest, t ++ rest = .ofChar '{' :: (StringLiteral.write true m.1
        ++ (.ofChar ':' :: .ofChar ' ' :: (first ++ (others ++ .ofChar '}' :: rest)))) := by
  rw [writeNested] at h
  obtain ⟨first, hm, h⟩ := bind_eq_ok_iff.mp h
  obtain ⟨others, hms, h⟩ := bind_eq_ok_iff.mp h
  obtain rfl := Except.ok.inj h
  refine ⟨first, others, hm, hms, ?_⟩
  intro rest
  simp [Style.wire, Style.spaced, Text.of]

/-- Written values in an array, from the first one on, which is already known to be one. -/
theorem items_of_write {vs : List Json}
    (ih : ∀ v ∈ vs, ∀ {t} rest, writeNested (.wire constants) n v = .ok t →
      Value (.read constants) n (t ++ rest) v.settled rest)
    (h : writeItems (.wire constants) n vs = .ok t) {v : Json} {first : Text}
    (hv : ∀ rest, Value (.read constants) n (first ++ rest) v rest) (rest : Text) :
    Items (Value (.read constants) n) (first ++ (t ++ .ofChar ']' :: rest))
      (v :: vs.map settled) rest := by
  induction vs generalizing t v first with
  | nil =>
      obtain rfl := Except.ok.inj h
      exact .last (hv _) (.nil _)
  | cons w ws ihs =>
      obtain ⟨t₁, t₂, hw, hws, htext⟩ := writeItems_cons h
      have hrest := ihs (fun v hv => ih v (List.mem_cons_of_mem _ hv)) hws
        (fun rest => ih w List.mem_cons_self rest hw)
      rw [htext]
      exact .more (hv _) (.nil _) (spaces_space _) hrest

theorem name_of_write (name rest : Text) :
    Name (StringLiteral.write true name ++ (.ofChar ':' :: .ofChar ' ' :: rest)) name.joined rest :=
  .mk (literal_write name _) (.nil _) (spaces_space rest)

theorem members_of_write {ms : List (Text × Json)}
    (ih : ∀ m ∈ ms, ∀ {t} rest, writeNested (.wire constants) n m.2 = .ok t →
      Value (.read constants) n (t ++ rest) m.2.settled rest)
    (h : writeMembers (.wire constants) n ms = .ok t) (name : Text) {v : Json}
    {first : Text} (hv : ∀ rest, Value (.read constants) n (first ++ rest) v rest) (rest : Text) :
    Members (Value (.read constants) n)
      (StringLiteral.write true name
        ++ (.ofChar ':' :: .ofChar ' ' :: (first ++ (t ++ .ofChar '}' :: rest))))
      ((name.joined, v) :: ms.map fun m => (m.1.joined, m.2.settled)) rest := by
  induction ms generalizing t v first name with
  | nil =>
      obtain rfl := Except.ok.inj h
      exact .last (name_of_write name _) (hv _) (.nil _)
  | cons m ms ihs =>
      obtain ⟨t₁, t₂, hm, hms, htext⟩ := writeMembers_cons h
      have hrest := ihs (fun m hm => ih m (List.mem_cons_of_mem _ hm)) hms m.1
        (fun rest => ih m List.mem_cons_self rest hm)
      rw [htext]
      exact .more (name_of_write name _) (hv _) (.nil _) (spaces_space _) hrest

end

/-- What is written of a value is read as what the value becomes. -/
theorem value_of_write {constants : Bool} {n : Nat} {v : Json} {t : Text} (rest : Text)
    (h : writeNested (.wire constants) n v = .ok t) :
    Value (.read constants) n (t ++ rest) v.settled rest := by
  induction v using ind generalizing n t rest with
  | null | bool _ | int _ | float _ | str _ =>
      rw [writeNested_atom _ _ (by simp) (by simp)] at h
      exact .atom (atom_of_write rest (by simp) (by simp) h) n
  | arr vs ih =>
      cases n with
      | zero => exact absurd h (by simp [writeNested])
      | succ n =>
          refine .inr ?_
          cases vs with
          | nil =>
              obtain rfl := Except.ok.inj h
              exact .emptyArray (.nil _)
          | cons v vs =>
              obtain ⟨t₁, t₂, hv, hvs, htext⟩ := writeNested_arr_cons h
              have hitems := items_of_write
                (fun w hw _ rest h => ih w (List.mem_cons_of_mem _ hw) rest h) hvs
                (fun rest => ih v List.mem_cons_self rest hv) rest
              rw [settled, settledItems_eq, List.map_cons, htext]
              exact .array (.nil _) hitems
  | obj ms ih =>
      cases n with
      | zero => exact absurd h (by simp [writeNested])
      | succ n =>
          refine .inr ?_
          cases ms with
          | nil =>
              obtain rfl := Except.ok.inj h
              exact .emptyObject (.nil _)
          | cons m ms =>
              obtain ⟨t₁, t₂, hm, hms, htext⟩ := writeNested_obj_cons h
              have hmembers := members_of_write
                (fun w hw _ rest h => ih w (List.mem_cons_of_mem _ hw) rest h) hms m.1
                (fun rest => ih m List.mem_cons_self rest hm) rest
              rw [settled, settledMembers_eq, List.map_cons, htext]
              exact .object (.nil _) hmembers

/-! ## Which values are written -/

/-- A style can write this atom. -/
def Style.writes (style : Style) : Json → Bool
  | int n => decide ((digits n.natAbs).length ≤ digitLimit)
  | float x => x.isFinite || style.constants
  | _ => true

theorem exists_writeAtom_iff {style : Style} {v : Json} :
    (∃ t, writeAtom style v = .ok t) ↔ style.writes v = true := by
  cases v with
  | null | str _ | arr _ | obj _ => exact ⟨fun _ => rfl, fun _ => ⟨_, rfl⟩⟩
  | bool b => cases b <;> exact ⟨fun _ => rfl, fun _ => ⟨_, rfl⟩⟩
  | int n =>
      rw [Style.writes, decide_eq_true_eq]
      simp only [writeAtom, mapError_eq_ok_iff, writeInt_eq_ok_iff]
      constructor
      · rintro ⟨_, h, _⟩
        exact h
      · intro h
        exact ⟨_, h, rfl⟩
  | float x =>
      simp only [writeAtom, Style.writes]
      split
      · rename_i hx
        exact ⟨fun _ => hx, fun _ => ⟨_, rfl⟩⟩
      · rename_i hx
        refine iff_of_false ?_ hx
        rintro ⟨_, h⟩
        exact absurd h (by simp)

section
variable {style : Style} {n : Nat}

theorem exists_writeItems_iff {vs : List Json} :
    (∃ t, writeItems style n vs = .ok t) ↔ ∀ v ∈ vs, ∃ t, writeNested style n v = .ok t := by
  induction vs with
  | nil => simp [writeItems]
  | cons v vs ih => rw [List.forall_mem_cons, ← ih, writeItems, exists_bind_ok_iff]

theorem exists_writeMembers_iff {ms : List (Text × Json)} :
    (∃ t, writeMembers style n ms = .ok t) ↔ ∀ m ∈ ms, ∃ t, writeNested style n m.2 = .ok t := by
  induction ms with
  | nil => simp [writeMembers]
  | cons m ms ih => rw [List.forall_mem_cons, ← ih, writeMembers, exists_bind_ok_iff]

theorem exists_writeNested_arr {vs : List Json} :
    (∃ t, writeNested style (n + 1) (.arr vs) = .ok t) ↔
      ∀ v ∈ vs, ∃ t, writeNested style n v = .ok t := by
  cases vs with
  | nil => simp [writeNested]
  | cons v vs =>
      rw [List.forall_mem_cons, ← exists_writeItems_iff, writeNested, exists_bind_ok_iff]

theorem exists_writeNested_obj {ms : List (Text × Json)} :
    (∃ t, writeNested style (n + 1) (.obj ms) = .ok t) ↔
      ∀ m ∈ ms, ∃ t, writeNested style n m.2 = .ok t := by
  cases ms with
  | nil => simp [writeNested]
  | cons m ms =>
      rw [List.forall_mem_cons, ← exists_writeMembers_iff, writeNested, exists_bind_ok_iff]

end

/-- A value is written if there are levels enough for it and the style can write all its atoms. -/
theorem exists_writeNested_iff {style : Style} {n : Nat} {v : Json} :
    (∃ t, writeNested style n v = .ok t) ↔
      v.nesting ≤ n ∧ ∀ a ∈ v.atoms, style.writes a = true := by
  induction v using ind generalizing n with
  | null | bool _ | int _ | float _ | str _ =>
      rw [writeNested_atom _ _ (by simp) (by simp), exists_writeAtom_iff]
      simp [nesting, atoms]
  | arr vs ih =>
      cases n with
      | zero => simp [writeNested, nesting]
      | succ n =>
          rw [exists_writeNested_arr, nesting_arr_le, forall_atoms_arr]
          constructor
          · intro h
            have hparts : ∀ v ∈ vs, v.nesting ≤ n ∧ ∀ a ∈ v.atoms, style.writes a = true :=
              fun v hv => (ih v hv).mp (h v hv)
            exact ⟨fun v hv => (hparts v hv).1, fun v hv => (hparts v hv).2⟩
          · rintro ⟨hnesting, hatoms⟩ v hv
            exact (ih v hv).mpr ⟨hnesting v hv, hatoms v hv⟩
  | obj ms ih =>
      cases n with
      | zero => simp [writeNested, nesting]
      | succ n =>
          rw [exists_writeNested_obj, nesting_obj_le, forall_atoms_obj]
          constructor
          · intro h
            have hparts : ∀ m ∈ ms, m.2.nesting ≤ n ∧ ∀ a ∈ m.2.atoms, style.writes a = true :=
              fun m hm => (ih m hm).mp (h m hm)
            exact ⟨fun m hm => (hparts m hm).1, fun m hm => ⟨rfl, (hparts m hm).2⟩⟩
          · rintro ⟨hnesting, hatoms⟩ m hm
            exact (ih m hm).mpr ⟨hnesting m hm, (hatoms m hm).2⟩

/-! ## Levels -/

section
variable {style : Style} {m n : Nat} {t : Text}

theorem writeItems_mono {vs : List Json}
    (ih : ∀ v ∈ vs, ∀ {t}, writeNested style m v = .ok t → writeNested style n v = .ok t)
    (h : writeItems style m vs = .ok t) : writeItems style n vs = .ok t := by
  induction vs generalizing t with
  | nil => exact h
  | cons v vs ihs =>
      rw [writeItems] at h ⊢
      obtain ⟨first, hv, h⟩ := bind_eq_ok_iff.mp h
      obtain ⟨others, hvs, h⟩ := bind_eq_ok_iff.mp h
      rw [ih v List.mem_cons_self hv, ok_bind, ihs (fun w hw => ih w (List.mem_cons_of_mem _ hw)) hvs]
      exact h

theorem writeMembers_mono {ms : List (Text × Json)}
    (ih : ∀ p ∈ ms, ∀ {t}, writeNested style m p.2 = .ok t → writeNested style n p.2 = .ok t)
    (h : writeMembers style m ms = .ok t) : writeMembers style n ms = .ok t := by
  induction ms generalizing t with
  | nil => exact h
  | cons p ms ihs =>
      rw [writeMembers] at h ⊢
      obtain ⟨first, hp, h⟩ := bind_eq_ok_iff.mp h
      obtain ⟨others, hms, h⟩ := bind_eq_ok_iff.mp h
      rw [ih p List.mem_cons_self hp, ok_bind, ihs (fun q hq => ih q (List.mem_cons_of_mem _ hq)) hms]
      exact h

/-- What is written of a value does not depend on the levels that are left over. -/
theorem writeNested_mono {v : Json} (hmn : m ≤ n) (h : writeNested style m v = .ok t) :
    writeNested style n v = .ok t := by
  induction v using ind generalizing m n t with
  | null | bool _ | int _ | float _ | str _ =>
      rw [writeNested_atom _ _ (by simp) (by simp)] at h ⊢
      exact h
  | arr vs ih =>
      cases m with
      | zero => exact absurd h (by simp [writeNested])
      | succ m =>
          obtain ⟨n, rfl⟩ := Nat.exists_eq_add_one_of_ne_zero (Nat.ne_zero_of_lt hmn)
          have hmn := Nat.le_of_succ_le_succ hmn
          cases vs with
          | nil => exact h
          | cons v vs =>
              rw [writeNested] at h ⊢
              obtain ⟨first, hv, h⟩ := bind_eq_ok_iff.mp h
              obtain ⟨others, hvs, h⟩ := bind_eq_ok_iff.mp h
              have hrest := writeItems_mono (fun w hw _ => ih w (List.mem_cons_of_mem _ hw) hmn) hvs
              rw [ih v List.mem_cons_self hmn hv, ok_bind, hrest]
              exact h
  | obj ms ih =>
      cases m with
      | zero => exact absurd h (by simp [writeNested])
      | succ m =>
          obtain ⟨n, rfl⟩ := Nat.exists_eq_add_one_of_ne_zero (Nat.ne_zero_of_lt hmn)
          have hmn := Nat.le_of_succ_le_succ hmn
          cases ms with
          | nil => exact h
          | cons p ms =>
              rw [writeNested] at h ⊢
              obtain ⟨first, hp, h⟩ := bind_eq_ok_iff.mp h
              obtain ⟨others, hms, h⟩ := bind_eq_ok_iff.mp h
              have hrest := writeMembers_mono (fun q hq _ => ih q (List.mem_cons_of_mem _ hq) hmn) hms
              rw [ih p List.mem_cons_self hmn hp, ok_bind, hrest]
              exact h

/-! What is not written, though the style can write all its atoms, is nested too deep. -/

variable {e : WriteError}

theorem exists_of_writeItems_error {vs : List Json} (h : writeItems style n vs = .error e) :
    ∃ v ∈ vs, writeNested style n v = .error e := by
  induction vs with
  | nil => exact absurd h (by simp [writeItems])
  | cons v vs ih =>
      rw [writeItems] at h
      rcases bind_eq_error_iff.mp h with hv | ⟨_, _, h⟩
      · exact ⟨v, List.mem_cons_self, hv⟩
      rcases bind_eq_error_iff.mp h with hvs | ⟨_, _, h⟩
      · obtain ⟨w, hw, herror⟩ := ih hvs
        exact ⟨w, List.mem_cons_of_mem _ hw, herror⟩
      · exact absurd h (by simp)

theorem exists_of_writeMembers_error {ms : List (Text × Json)}
    (h : writeMembers style n ms = .error e) : ∃ p ∈ ms, writeNested style n p.2 = .error e := by
  induction ms with
  | nil => exact absurd h (by simp [writeMembers])
  | cons p ms ih =>
      rw [writeMembers] at h
      rcases bind_eq_error_iff.mp h with hp | ⟨_, _, h⟩
      · exact ⟨p, List.mem_cons_self, hp⟩
      rcases bind_eq_error_iff.mp h with hms | ⟨_, _, h⟩
      · obtain ⟨q, hq, herror⟩ := ih hms
        exact ⟨q, List.mem_cons_of_mem _ hq, herror⟩
      · exact absurd h (by simp)

theorem exists_of_writeNested_arr_error {vs : List Json}
    (h : writeNested style (n + 1) (.arr vs) = .error e) :
    ∃ v ∈ vs, writeNested style n v = .error e := by
  cases vs with
  | nil => exact absurd h (by simp [writeNested])
  | cons v vs =>
      rw [writeNested] at h
      rcases bind_eq_error_iff.mp h with hv | ⟨_, _, h⟩
      · exact ⟨v, List.mem_cons_self, hv⟩
      rcases bind_eq_error_iff.mp h with hvs | ⟨_, _, h⟩
      · obtain ⟨w, hw, herror⟩ := exists_of_writeItems_error hvs
        exact ⟨w, List.mem_cons_of_mem _ hw, herror⟩
      · exact absurd h (by simp)

theorem exists_of_writeNested_obj_error {ms : List (Text × Json)}
    (h : writeNested style (n + 1) (.obj ms) = .error e) :
    ∃ p ∈ ms, writeNested style n p.2 = .error e := by
  cases ms with
  | nil => exact absurd h (by simp [writeNested])
  | cons p ms =>
      rw [writeNested] at h
      rcases bind_eq_error_iff.mp h with hp | ⟨_, _, h⟩
      · exact ⟨p, List.mem_cons_self, hp⟩
      rcases bind_eq_error_iff.mp h with hms | ⟨_, _, h⟩
      · obtain ⟨q, hq, herror⟩ := exists_of_writeMembers_error hms
        exact ⟨q, List.mem_cons_of_mem _ hq, herror⟩
      · exact absurd h (by simp)

theorem eq_tooDeep_of_writeNested {v : Json} (hatoms : ∀ a ∈ v.atoms, style.writes a = true)
    (h : writeNested style n v = .error e) : e = .tooDeep := by
  induction v using ind generalizing n with
  | null | bool _ | int _ | float _ | str _ =>
      rw [writeNested_atom _ _ (by simp) (by simp)] at h
      obtain ⟨t, ht⟩ := exists_writeAtom_iff.mpr (hatoms _ List.mem_cons_self)
      exact absurd (ht.symm.trans h) (by simp)
  | arr vs ih =>
      cases n with
      | zero => exact (Except.error.inj h).symm
      | succ n =>
          obtain ⟨v, hv, herror⟩ := exists_of_writeNested_arr_error h
          exact ih v hv (forall_atoms_arr.mp hatoms v hv) herror
  | obj ms ih =>
      cases n with
      | zero => exact (Except.error.inj h).symm
      | succ n =>
          obtain ⟨p, hp, herror⟩ := exists_of_writeNested_obj_error h
          exact ih p hp (forall_atoms_obj.mp hatoms p hp).2 herror

end

end JsonRpc.Json
