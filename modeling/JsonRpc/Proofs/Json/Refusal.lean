/-
Which documents are refused inside a value, and where.

An error inside a container is handed out as it is, whatever stands behind the place where it came
up: so a text that reaches a place with an error (`Reaches`) is refused with that error.  For the
depth of a document the converse is shown too.  `scanDocument_eq_tooDeep_iff` says when the reader
gives up for it: exactly when as many containers as may be nested are open, each holding complete
parts only up to the next, and one more opens.  A document with any other fault before that bracket
is refused for that fault.

The proof runs beside the one for documents that are read: what stands before the place is read as
values, so it is in the grammar.
-/
import JsonRpc.Proofs.Json.Reading

namespace JsonRpc.Json.Grammar

theorem pieces_ne_tooDeep (opening t : Text) (kind : Container) :
    StringLiteral.pieces opening t ≠ .error (.tooDeep kind) := by
  intro h
  fun_induction StringLiteral.pieces opening t with
  | case1 | case2 | case3 | case5 | case6 | case8 | case9 => exact absurd h (by simp)
  | case4 h₁ h₂ h₃ h₄ next t u hu _ ih =>
      rcases bind_eq_error_iff.mp h with h | ⟨_, _, h⟩
      · exact ih h
      · exact absurd h (by simp)
  | case7 l t _ e he _ ih =>
      rcases bind_eq_error_iff.mp h with h | ⟨_, _, h⟩
      · exact ih h
      · exact absurd h (by simp)
  | case10 c t hq hb hc ih =>
      rcases bind_eq_error_iff.mp h with h | ⟨_, _, h⟩
      · exact ih h
      · exact absurd h (by simp)

theorem read_ne_tooDeep (t : Text) (kind : Container) :
    StringLiteral.read t ≠ .error (.tooDeep kind) := by
  intro h
  rcases bind_eq_error_iff.mp h with h | ⟨_, _, h⟩
  · exact pieces_ne_tooDeep _ _ kind h
  · exact absurd h (by simp)

theorem scanName_ne_tooDeep (t : Text) (kind : Container) :
    scanName t ≠ .error (.tooDeep kind) := by
  intro h
  cases t with
  | nil => exact absurd h (by simp [scanName])
  | cons c t =>
      simp only [scanName] at h
      split at h
      · rcases bind_eq_error_iff.mp h with h | ⟨⟨s, after⟩, _, h⟩
        · exact read_ne_tooDeep _ kind h
        · simp only at h
          split at h
          · exact absurd h (by simp)
          · split at h <;> exact absurd h (by simp)
      · exact absurd h (by simp)

/-- Depth is only refused further in. -/
theorem scanFirst_tooDeep {constants : Bool} {inner : Container → Text → Scan (Json × Text)}
    {t : Text} {kind : Container} (h : scanFirst constants inner t = .error (.tooDeep kind)) :
    ∃ k t', t = opening k :: t' ∧ inner k t' = .error (.tooDeep kind) := by
  cases t with
  | nil => exact absurd h (by simp [scanFirst])
  | cons c t =>
      simp only [scanFirst] at h
      split at h
      · rcases bind_eq_error_iff.mp h with h | ⟨_, _, h⟩
        · exact absurd h (read_ne_tooDeep _ kind)
        · exact absurd h (by simp)
      split at h
      · rename_i hc
        subst hc
        exact ⟨.array, t, rfl, h⟩
      split at h
      · rename_i hc
        subst hc
        exact ⟨.object, t, rfl, h⟩
      split at h
      · exact absurd h (by simp)
      split at h
      · split at h <;> exact absurd h (by simp)
      split at h
      · exact absurd h (by simp)
      · split at h <;> exact absurd h (by simp)

section
variable {part : Text → Json → Text → Prop} {item : Text → Scan (Json × Text)}
  {e : ReadError Text}

theorem itemsBefore_of_scan (hitem : ∀ {t v rest}, item t = .ok (v, rest) → part t v rest)
    {bound : Nat} {t : Text} {kind : Container}
    (h : scanItems item bound t = .error (.tooDeep kind)) :
    ∃ t', ItemsBefore part t t' ∧ item t' = .error (.tooDeep kind) := by
  induction bound generalizing t with
  | zero => exact absurd h (by simp [scanItems])
  | succ bound ih =>
      rcases bind_eq_error_iff.mp h with h | ⟨⟨v, after⟩, hv, h⟩
      · exact ⟨t, .here t, h⟩
      have hs := spaces_skipSpace after
      simp only at h
      split at h
      · exact absurd h (by simp)
      · rename_i c t₂ heq
        rw [heq] at hs
        split at h
        · exact absurd h (by simp)
        split at h
        · rename_i hc
          subst hc
          rcases bind_eq_error_iff.mp h with h | ⟨_, _, h⟩
          · obtain ⟨t', hb, ht'⟩ := ih h
            exact ⟨t', .skip (hitem hv) hs (spaces_skipSpace t₂) hb, ht'⟩
          · exact absurd h (by simp)
        · exact absurd h (by simp)

theorem ItemsBefore.starts (hp : IsPart part) {t t' : Text} (h : ItemsBefore part t t')
    (ht' : Starts t') : Starts t := by
  cases h with
  | here => exact ht'
  | skip hv _ _ _ => exact hp.starts hv

theorem scan_itemsBefore (hp : IsPart part) {bound : Nat}
    (hitem : ∀ {t v rest}, part t v rest → t.length ≤ bound → Follows rest →
      item t = .ok (v, rest))
    {t t' : Text} (h : ItemsBefore part t t') (ht' : Starts t')
    (herror : t'.length ≤ bound → item t' = .error e) {b : Nat}
    (hb : t.length ≤ b) (hbound : t.length ≤ bound) :
    scanItems item b t = .error e := by
  induction h generalizing b with
  | here t =>
      obtain ⟨c, t', rfl, _⟩ := ht'
      obtain ⟨b, rfl⟩ := Nat.exists_eq_add_one.mpr (Nat.lt_of_lt_of_le (Nat.succ_pos _) hb)
      rw [scanItems, herror hbound]
      rfl
  | skip hv hs hs' hrest ih =>
      have hlt := Nat.lt_of_le_of_lt hs'.length_le
        (Nat.lt_of_lt_of_le (Nat.lt_succ_self _) (Nat.le_trans hs.length_le (hp.length_le hv)))
      obtain ⟨b, rfl⟩ := Nat.exists_eq_add_one.mpr (Nat.lt_of_lt_of_le (Nat.zero_lt_of_lt hlt) hb)
      have hrec := ih ht' herror (Nat.le_of_lt_succ (Nat.lt_of_lt_of_le hlt hb))
        (Nat.le_trans (Nat.le_of_lt hlt) hbound)
      rw [scanItems, hitem hv hbound (.of_spaces hs (.cons _ (by decide)))]
      simp +decide [skipSpace_cons hs, skipSpace_eq hs' (hrest.starts hp ht').noSpace, hrec]

theorem membersBefore_of_scan (hitem : ∀ {t v rest}, item t = .ok (v, rest) → part t v rest)
    {bound : Nat} {t : Text} {kind : Container}
    (h : scanMembers item bound t = .error (.tooDeep kind)) :
    ∃ t', MembersBefore part t t' ∧ item t' = .error (.tooDeep kind) := by
  induction bound generalizing t with
  | zero => exact absurd h (by simp [scanMembers])
  | succ bound ih =>
      rcases bind_eq_error_iff.mp h with h | ⟨⟨s, t₁⟩, hn, h⟩
      · exact absurd h (scanName_ne_tooDeep t kind)
      rcases bind_eq_error_iff.mp h with h | ⟨⟨v, t₂⟩, hv, h⟩
      · exact ⟨t₁, .here (name_of_scan hn), h⟩
      have hs := spaces_skipSpace t₂
      simp only at h
      split at h
      · exact absurd h (by simp)
      · rename_i c t₃ heq
        rw [heq] at hs
        split at h
        · exact absurd h (by simp)
        split at h
        · rename_i hc
          subst hc
          rcases bind_eq_error_iff.mp h with h | ⟨_, _, h⟩
          · obtain ⟨t', hb, ht'⟩ := ih h
            exact ⟨t', .skip (name_of_scan hn) (hitem hv) hs (spaces_skipSpace t₃) hb, ht'⟩
          · exact absurd h (by simp)
        · exact absurd h (by simp)

theorem MembersBefore.head {t t' : Text} (h : MembersBefore part t t') :
    ∃ u, t = .ofChar '"' :: u := by
  cases h with
  | here hn => exact hn.head
  | skip hn _ _ _ _ => exact hn.head

theorem MembersBefore.noSpace {t t' : Text} (h : MembersBefore part t t') : NoSpace t := by
  obtain ⟨u, rfl⟩ := h.head
  rintro _ hd
  obtain rfl := Option.some.inj hd
  decide

theorem scan_membersBefore (hp : IsPart part) {bound : Nat}
    (hitem : ∀ {t v rest}, part t v rest → t.length ≤ bound → Follows rest →
      item t = .ok (v, rest))
    {t t' : Text} (h : MembersBefore part t t') (ht' : Starts t')
    (herror : t'.length ≤ bound → item t' = .error e) {b : Nat}
    (hb : t.length ≤ b) (hbound : t.length ≤ bound) :
    scanMembers item b t = .error e := by
  induction h generalizing b with
  | here hn =>
      have hlt := hn.length_lt
      obtain ⟨b, rfl⟩ := Nat.exists_eq_add_one.mpr (Nat.lt_of_lt_of_le (Nat.zero_lt_of_lt hlt) hb)
      rw [scanMembers, scan_name hn ht'.noSpace]
      simp [herror (Nat.le_trans (Nat.le_of_lt hlt) hbound)]
  | skip hn hv hs hs' hrest ih =>
      have hlt := Nat.lt_of_le_of_lt hs'.length_le
        (Nat.lt_trans (Nat.lt_of_lt_of_le (Nat.lt_succ_self _)
          (Nat.le_trans hs.length_le (hp.length_le hv))) hn.length_lt)
      obtain ⟨b, rfl⟩ := Nat.exists_eq_add_one.mpr (Nat.lt_of_lt_of_le (Nat.zero_lt_of_lt hlt) hb)
      have hbv := Nat.le_trans (Nat.le_of_lt hn.length_lt) hbound
      have hrec := ih ht' herror (Nat.le_of_lt_succ (Nat.lt_of_lt_of_le hlt hb))
        (Nat.le_trans (Nat.le_of_lt hlt) hbound)
      rw [scanMembers, scan_name hn (hp.starts hv).noSpace]
      simp +decide [hitem hv hbv (.of_spaces hs (.cons _ (by decide))), skipSpace_cons hs,
        skipSpace_eq hs' hrest.noSpace, hrec]

end

/-! ## Places with an error -/

section
variable {constants : Bool} {bound : Nat} {stop : Nat → Text → Prop} {e : ReadError Text}

theorem Reaches.starts {d : Dialect} (hstop : ∀ {n t}, stop n t → Starts t) {n : Nat} {t : Text}
    (h : Reaches d stop n t) : Starts t := by
  cases h with
  | here h => exact hstop h
  | array _ _ _ => exact .cons rfl _
  | object _ _ _ => exact .cons rfl _

/-- An error at a place that is reached is the error of the whole. -/
theorem scan_reaches (hstart : ∀ {n t}, stop n t → Starts t)
    (herror : ∀ {n t}, stop n t → scanValue constants bound n t = .error e) {n : Nat} {t : Text}
    (h : Reaches (.read constants) stop n t) (hb : t.length ≤ bound) :
    scanValue constants bound n t = .error e := by
  -- what stands before the place is scanned as a whole, so no other error comes first
  induction h with
  | here h => exact herror h
  | @array n t t₁ t₂ hs hbefore hreach ih =>
      have hle := Nat.le_trans (Nat.le_succ_of_le hs.length_le) hb
      have hst := hbefore.starts (isPart_value _ n) (hreach.starts hstart)
      obtain ⟨c, t', rfl, hc⟩ := hst
      obtain ⟨-, -, hc⟩ := isStart_iff.mp hc
      have hscan :=
        scan_itemsBefore (isPart_value _ n) scan_value hbefore (hreach.starts hstart) ih hle hle
      rw [scanValue]
      refine (scanFirst_opening .array t).trans ?_
      simp [scanContainer, skipSpace_eq hs
        (hbefore.starts (isPart_value _ n) (hreach.starts hstart)).noSpace, hc, hscan]
  | @object n t t₁ t₂ hs hbefore hreach ih =>
      have hle := Nat.le_trans (Nat.le_succ_of_le hs.length_le) hb
      obtain ⟨t', rfl⟩ := hbefore.head
      have hscan :=
        scan_membersBefore (isPart_value _ n) scan_value hbefore (hreach.starts hstart) ih hle hle
      rw [scanValue]
      refine (scanFirst_opening .object t).trans ?_
      simp +decide [scanContainer, skipSpace_eq hs hbefore.noSpace, hscan]

theorem scanDocument_of_reaches (hstart : ∀ {n t}, stop n t → Starts t)
    (herror : ∀ {bound n t}, stop n t → scanValue constants bound n t = .error e) {n : Nat}
    {t t' : Text} (hs : Spaces t t') (h : Reaches (.read constants) stop n t') :
    scanDocument constants n t = .error e := by
  simp only [scanDocument, skipSpace_eq hs (h.starts hstart).noSpace,
    scan_reaches hstart herror h hs.length_le, error_bind]

end

/-! ## Depth -/

theorem OpensTooDeep.starts {kind : Container} {n : Nat} {t : Text}
    (h : OpensTooDeep kind n t) : Starts t := by
  obtain ⟨_, rest, rfl⟩ := h
  cases kind <;> exact .cons rfl _

theorem OpensTooDeep.scan {constants : Bool} {bound n : Nat} {kind : Container} {t : Text}
    (h : OpensTooDeep kind n t) : scanValue constants bound n t = .error (.tooDeep kind) := by
  obtain ⟨rfl, rest, rfl⟩ := h
  rw [scanValue, scanFirst_opening]

theorem reaches_of_scan_tooDeep {constants : Bool} {bound n : Nat} {t : Text} {kind : Container}
    (h : scanValue constants bound n t = .error (.tooDeep kind)) :
    Reaches (.read constants) (OpensTooDeep kind) n t := by
  induction n generalizing t with
  | zero =>
      obtain ⟨k, t', rfl, h'⟩ := scanFirst_tooDeep h
      obtain rfl := ReadError.tooDeep.inj (Except.error.inj h')
      exact .here ⟨rfl, t', rfl⟩
  | succ n ih =>
      obtain ⟨k, t', rfl, h'⟩ := scanFirst_tooDeep h
      have hs := spaces_skipSpace t'
      cases k with
      | array =>
          simp only [scanContainer] at h'
          split at h'
          · exact absurd h' (by simp)
          · rcases bind_eq_error_iff.mp h' with h' | ⟨_, _, h'⟩
            · obtain ⟨t₂, hb, ht₂⟩ := itemsBefore_of_scan value_of_scan h'
              exact .array hs hb (ih ht₂)
            · exact absurd h' (by simp)
      | object =>
          simp only [scanContainer] at h'
          split at h'
          · exact absurd h' (by simp)
          · rcases bind_eq_error_iff.mp h' with h' | ⟨_, _, h'⟩
            · obtain ⟨t₂, hb, ht₂⟩ := membersBefore_of_scan value_of_scan h'
              exact .object hs hb (ih ht₂)
            · exact absurd h' (by simp)

/-- A document in which one container more opens than the levels there are. -/
def OverNested (constants : Bool) (levels : Nat) (kind : Container) (t : Text) : Prop :=
  ∃ t', Spaces t t' ∧ Reaches (.read constants) (OpensTooDeep kind) levels t'

theorem scanDocument_eq_tooDeep_iff {constants : Bool} {n : Nat} {t : Text} {kind : Container} :
    scanDocument constants n t = .error (.tooDeep kind) ↔ OverNested constants n kind t := by
  constructor
  · intro h
    rcases bind_eq_error_iff.mp h with h | ⟨⟨v, t₂⟩, _, h⟩
    · exact ⟨_, spaces_skipSpace t, reaches_of_scan_tooDeep h⟩
    · simp only at h
      split at h <;> exact absurd h (by simp)
  · rintro ⟨t', hs, hreach⟩
    exact scanDocument_of_reaches OpensTooDeep.starts OpensTooDeep.scan hs hreach

theorem locate_eq_tooDeep_iff {document : Text} {e : ReadError Text} {kind : Container} :
    e.locate document = .tooDeep kind ↔ e = .tooDeep kind := by
  cases e <;> simp [ReadError.locate]

theorem readWith_eq_tooDeep_iff {constants : Bool} {n : Nat} {t : Text} {kind : Container} :
    readWith constants n t = .error (.tooDeep kind) ↔ OverNested constants n kind t := by
  rw [readWith]
  split
  · rename_i hm
    refine ⟨fun h => absurd h (by simp), ?_⟩
    rintro ⟨t', hs, hreach⟩
    exact absurd hm (head_ne_byteOrderMark hs (hreach.starts OpensTooDeep.starts))
  · rw [readUnmarked, mapError_eq_error_iff, ← scanDocument_eq_tooDeep_iff]
    simp only [locate_eq_tooDeep_iff, exists_eq_right]

/-- A text that opens more arrays than may be nested is refused, whatever else is in it. -/
theorem overNested_brackets {constants : Bool} {levels n : Nat} (h : levels < n) (rest : Text) :
    OverNested constants levels .array (List.replicate n (.ofChar '[') ++ rest) := by
  have hreach : ∀ m rest, Reaches (.read constants) (OpensTooDeep .array) m
      (List.replicate (m + 1) (.ofChar '[') ++ rest) := by
    intro m rest
    induction m with
    | zero => exact .here ⟨rfl, rest, rfl⟩
    | succ m ih => exact .array (.nil _) (.here _) ih
  obtain ⟨k, rfl⟩ := Nat.exists_eq_add_of_lt h
  have hsplit : List.replicate (levels + k + 1) (CodePoint.ofChar '[') ++ rest
      = List.replicate (levels + 1) (.ofChar '[')
        ++ (List.replicate k (.ofChar '[') ++ rest) := by
    rw [← List.append_assoc, List.replicate_append_replicate]
    congr 2
    omega
  rw [hsplit]
  exact ⟨_, .nil _, hreach levels _⟩

/-! ## Constants -/

theorem IsConstant.starts {k : Constant} {n : Nat} {t : Text} (h : IsConstant k n t) :
    Starts t := by
  obtain ⟨rest, rfl⟩ := h
  cases k <;> exact .cons rfl _

/-- The strict reader stops at a constant. -/
theorem IsConstant.scan {bound n : Nat} {k : Constant} {t : Text} (h : IsConstant k n t) :
    scanValue false bound n t = .error (.constant k) := by
  obtain ⟨rest, rfl⟩ := h
  have hfirst (inner : Container → Text → Scan (Json × Text)) :
      scanFirst false inner (k.word ++ rest) = .error (.constant k) := by
    cases k <;> simp +decide [scanFirst, Text.of, word?, constant?, Constant.word, after?]
  cases n <;> exact hfirst _

/-- A document is refused by the strict reader if a constant is reached in it. -/
theorem scanDocument_of_constant {k : Constant} {n : Nat} {t : Text}
    (h : Reaches (.read false) (IsConstant k) n t) :
    scanDocument false n t = .error (.constant k) :=
  scanDocument_of_reaches IsConstant.starts IsConstant.scan (.nil t) h

end JsonRpc.Json.Grammar
