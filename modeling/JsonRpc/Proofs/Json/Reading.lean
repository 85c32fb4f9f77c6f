/-
The reader takes the documents of the grammar and no others.

`scanDocument_eq_ok_iff` is the result: a text is read as a value if and only if the grammar has it as
a document of that value, nested no deeper than the limit.  Both halves go down the levels of
nesting, and on each level along the parts of one array or object.

From the grammar to the reader three things have to be seen to at every step: the scanner skips all
spaces where the grammar may leave some, it goes on with a number as far as it can, and it gives up
after as many parts as the document has characters.  The first two are no danger because a value
starts with no space (`Starts`) and is followed by something that carries no number on (`Follows`);
the third because every part takes at least one character.
-/
import JsonRpc.Proofs.Json.Literal
import JsonRpc.Proofs.Json.Numeral

namespace JsonRpc.Json.Grammar

/-! ## Spaces -/

/-- The text does not start with a space. -/
def NoSpace (t : Text) : Prop := ∀ c ∈ t.head?, isSpace c = false

theorem spaces_skipSpace (t : Text) : Spaces t (skipSpace t) := by
  induction t with
  | nil => exact .nil []
  | cons c t ih =>
      by_cases hc : isSpace c = true
      · rw [skipSpace, List.dropWhile_cons_of_pos hc]
        exact .cons hc ih
      · rw [skipSpace, List.dropWhile_cons_of_neg hc]
        exact .nil _

theorem skipSpace_eq {t rest : Text} (h : Spaces t rest) (hn : NoSpace rest) :
    skipSpace t = rest := by
  induction h with
  | nil t =>
      cases t with
      | nil => rfl
      | cons c t => rw [skipSpace, List.dropWhile_cons_of_neg (by simp [hn c rfl])]
  | cons hc _ ih => rw [skipSpace, List.dropWhile_cons_of_pos hc]; exact ih hn

theorem skipSpace_cons {t rest : Text} {c : CodePoint} (h : Spaces t (c :: rest))
    (hc : isSpace c = false) : skipSpace t = c :: rest :=
  skipSpace_eq h (by rintro _ hd; obtain rfl := Option.some.inj hd; exact hc)

theorem Spaces.length_le {t rest : Text} (h : Spaces t rest) : rest.length ≤ t.length := by
  induction h with
  | nil => exact Nat.le_refl _
  | cons _ _ ih => exact Nat.le_succ_of_le ih

/-! ## What a value starts with and what follows it -/

/-- A character of ASCII that is no space and closes no array. -/
def isStart (c : CodePoint) : Bool := c.isAscii && !isSpace c && c ≠ .ofChar ']'

/-- The text starts with a character that a value could start with. -/
def Starts (t : Text) : Prop := ∃ c t', t = c :: t' ∧ isStart c = true

theorem Starts.cons {c : CodePoint} (h : isStart c = true) (t : Text) : Starts (c :: t) :=
  ⟨c, t, rfl, h⟩

theorem isStart_iff {c : CodePoint} :
    isStart c = true ↔ c.isAscii = true ∧ isSpace c = false ∧ c ≠ .ofChar ']' := by
  simp [isStart, and_assoc]

theorem Starts.noSpace {t : Text} (h : Starts t) : NoSpace t := by
  obtain ⟨c, t', rfl, hc⟩ := h
  obtain ⟨-, hc, -⟩ := isStart_iff.mp hc
  rintro _ hd
  obtain rfl := Option.some.inj hd
  exact hc

/-- The text can follow a value: it is at its end, or a space, a comma or a closing bracket comes
first. -/
def Follows (t : Text) : Prop :=
  ∀ c ∈ t.head?, isSpace c = true ∨ c = ',' ∨ c = ']' ∨ c = '}'

theorem isSpace_cases {c : CodePoint} (h : isSpace c = true) :
    c = ' ' ∨ c = '\t' ∨ c = '\n' ∨ c = '\r' := by
  simpa [isSpace, or_assoc] using h

theorem Follows.endsNumber {t : Text} (h : Follows t) : EndsNumber t := by
  intro c hc
  rcases h c hc with hs | rfl | rfl | rfl
  · rcases isSpace_cases hs with rfl | rfl | rfl | rfl <;> decide
  all_goals decide

theorem Follows.of_spaces {t rest : Text} (h : Spaces t rest) (hr : Follows rest) : Follows t := by
  cases h with
  | nil => exact hr
  | cons hc _ =>
      rintro _ hd
      obtain rfl := Option.some.inj hd
      exact .inl hc

theorem Follows.cons {c : CodePoint} (t : Text) (hc : c = ',' ∨ c = ']' ∨ c = '}') :
    Follows (c :: t) := by
  rintro _ hd
  obtain rfl := Option.some.inj hd
  exact .inr hc

theorem Follows.nil : Follows [] := by intro c hc; simp at hc

/-! ## Words -/

theorem after?_eq_some_iff {w t rest : Text} : after? w t = some rest ↔ t = w ++ rest := by
  induction w generalizing t with
  | nil => simp [after?]
  | cons c w ih =>
      cases t with
      | nil => simp [after?]
      | cons e t =>
          by_cases hc : c = e
          · subst hc
            simp [after?, ih]
          · simp [after?, hc, Ne.symm hc]

theorem word?_cases {t rest : Text} {v : Json} (h : word? t = some (v, rest)) :
    (t = Text.of "null" ++ rest ∧ v = .null) ∨ (t = Text.of "true" ++ rest ∧ v = .bool true)
      ∨ (t = Text.of "false" ++ rest ∧ v = .bool false) := by
  simp only [word?, Option.orElse_eq_orElse, Option.orElse_eq_or, Option.or_eq_some_iff,
    Option.map_eq_some_iff, after?_eq_some_iff] at h
  rcases h with ⟨r, hr, h⟩ | ⟨_, ⟨r, hr, h⟩ | ⟨_, r, hr, h⟩⟩ <;> obtain ⟨rfl, rfl⟩ := Prod.mk.inj h
  · exact .inl ⟨hr, rfl⟩
  · exact .inr (.inl ⟨hr, rfl⟩)
  · exact .inr (.inr ⟨hr, rfl⟩)

theorem constant?_eq_some {t rest : Text} {k : Constant} (h : constant? t = some (k, rest)) :
    t = k.word ++ rest := by
  obtain ⟨k', _, hk⟩ := List.exists_of_findSome?_eq_some h
  obtain ⟨rest', hr, he⟩ := Option.map_eq_some_iff.mp hk
  obtain ⟨rfl, rfl⟩ := Prod.mk.inj he
  exact after?_eq_some_iff.mp hr

/-- No word and no constant starts with a digit, nor with a minus sign and a digit. -/
theorem no_word_of_number {t rest : Text} {n : Numeral} (h : Number t n rest) :
    word? t = none ∧ constant? t = none := by
  obtain ⟨c, t', ht, hc⟩ := h.head
  have hne : ∀ e : CodePoint, e.digit? = none → e ≠ c := by
    rintro e he rfl
    simp [he] at hc
  rcases ht with rfl | rfl
  · simp [word?, constant?, Text.of, Constant.word, after?, hne (.ofChar 'n') (by decide),
      hne (.ofChar 't') (by decide), hne (.ofChar 'f') (by decide), hne (.ofChar 'N') (by decide),
      hne (.ofChar 'I') (by decide), hne (.ofChar '-') (by decide)]
  · simp +decide [word?, constant?, Text.of, Constant.word, after?,
      hne (.ofChar 'I') (by decide)]

/-! ## Values that hold no others -/

section
variable {constants : Bool} {inner : Container → Text → Scan (Json × Text)}

/-- A value is scanned as an atom, or what follows its opening bracket is scanned further in. -/
theorem scanFirst_cases {t rest : Text} {v : Json}
    (h : scanFirst constants inner t = .ok (v, rest)) :
    Atom (.read constants) t v rest ∨
      ∃ kind t', t = opening kind :: t' ∧ inner kind t' = .ok (v, rest) := by
  cases t with
  | nil => exact absurd h (by simp [scanFirst])
  | cons c t =>
      simp only [scanFirst] at h
      split at h
      · rename_i hc
        subst hc
        obtain ⟨⟨s, after⟩, hs, h⟩ := bind_eq_ok_iff.mp h
        obtain ⟨rfl, rfl⟩ := Prod.mk.inj (Except.ok.inj h)
        exact .inl (.string (literal_of_read rfl hs))
      split at h
      · rename_i hc
        subst hc
        exact .inr ⟨.array, t, rfl, h⟩
      split at h
      · rename_i hc
        subst hc
        exact .inr ⟨.object, t, rfl, h⟩
      refine .inl ?_
      split at h
      · rename_i hw
        obtain ⟨rfl, rfl⟩ := Prod.mk.inj (Except.ok.inj h)
        rcases word?_cases hw with ⟨ht, rfl⟩ | ⟨ht, rfl⟩ | ⟨ht, rfl⟩ <;> rw [ht]
        · exact .null _
        · exact .true _
        · exact .false _
      split at h
      · rename_i hk
        split at h
        · rename_i hc
          obtain ⟨rfl, rfl⟩ := Prod.mk.inj (Except.ok.inj h)
          rw [constant?_eq_some hk]
          exact .constant _ _ hc
        · exact absurd h (by simp)
      split at h
      · exact absurd h (by simp)
      · rename_i n after hn
        rw [value_eq] at h
        split at h
        · rename_i v' hv
          obtain ⟨rfl, rfl⟩ := Prod.mk.inj (Except.ok.inj h)
          split at hv
          · exact absurd hv (by simp)
          · rename_i hl
            obtain rfl := Except.ok.inj hv
            exact .number (number_of_scan? hn) (.inr hl)
        · exact absurd h (by simp)

theorem scanFirst_opening (kind : Container) (t : Text) :
    scanFirst constants inner (opening kind :: t) = inner kind t := by
  cases kind <;> simp +decide [scanFirst]

/-- A number is scanned to its end, and has no value if it is too long. -/
theorem scanFirst_number {t rest : Text} {n : Numeral} (h : Number t n rest)
    (hr : EndsNumber rest) :
    scanFirst constants inner t =
      if IsLong n then .error (.longNumber (.reading n.whole.length))
      else .ok (denoted n, rest) := by
  obtain ⟨hw, hk⟩ := no_word_of_number h
  have hs := scan?_eq h hr
  obtain ⟨c, t', ht, hc⟩ := h.head
  have hne : ∀ e : CodePoint, e.digit? = none → c ≠ e := by
    rintro e he rfl
    simp [he] at hc
  rcases ht with rfl | rfl
  · by_cases hl : IsLong n <;>
      simp [scanFirst, hne (.ofChar '"') (by decide), hne (.ofChar '[') (by decide),
        hne (.ofChar '{') (by decide), hw, hk, hs, value_eq, hl]
  · by_cases hl : IsLong n <;> simp +decide [scanFirst, hw, hk, hs, value_eq, hl]

theorem scanFirst_atom {t rest : Text} {v : Json} (h : Atom (.read constants) t v rest)
    (hr : EndsNumber rest) : scanFirst constants inner t = .ok (v, rest) := by
  cases h with
  | null => simp +decide [scanFirst, Text.of, word?, after?]
  | true => simp +decide [scanFirst, Text.of, word?, after?]
  | false => simp +decide [scanFirst, Text.of, word?, after?]
  | constant k _ hc =>
      have hc : constants = true := hc
      cases k <;>
        simp +decide [scanFirst, Text.of, word?, constant?, Constant.word, after?, hc]
  | number hn hl =>
      have hl := hl.resolve_left (by simp [Dialect.read])
      rw [scanFirst_number hn hr, if_neg hl]
  | string hl =>
      obtain ⟨t', rfl⟩ := hl.head
      simp [scanFirst, read_literal hl]

end

/-! ## Arrays and objects -/

/-- What the parts of an array or an object have to be for the scanner to find them. -/
structure IsPart (part : Text → Json → Text → Prop) : Prop where
  starts : ∀ {t v rest}, part t v rest → Starts t
  length_le : ∀ {t v rest}, part t v rest → rest.length ≤ t.length

section
variable {part : Text → Json → Text → Prop} {item : Text → Scan (Json × Text)}

theorem items_of_scan (hitem : ∀ {t v rest}, item t = .ok (v, rest) → part t v rest)
    {bound : Nat} {t rest : Text} {vs : List Json}
    (h : scanItems item bound t = .ok (vs, rest)) : Items part t vs rest := by
  induction bound generalizing t vs with
  | zero => exact absurd h (by simp [scanItems])
  | succ bound ih =>
      obtain ⟨⟨v, after⟩, hv, h⟩ := bind_eq_ok_iff.mp h
      have hs := spaces_skipSpace after
      simp only at h
      split at h
      · exact absurd h (by simp)
      · rename_i c t₂ heq
        rw [heq] at hs
        split at h
        · rename_i hc
          subst hc
          obtain ⟨rfl, rfl⟩ := Prod.mk.inj (Except.ok.inj h)
          exact .last (hitem hv) hs
        split at h
        · rename_i hc
          subst hc
          obtain ⟨⟨vs', after'⟩, hvs, h⟩ := bind_eq_ok_iff.mp h
          obtain ⟨rfl, rfl⟩ := Prod.mk.inj (Except.ok.inj h)
          exact .more (hitem hv) hs (spaces_skipSpace t₂) (ih hvs)
        · exact absurd h (by simp)

theorem Items.starts (hp : IsPart part) {t rest : Text} {vs : List Json}
    (h : Items part t vs rest) : Starts t := by
  cases h with
  | last hv _ => exact hp.starts hv
  | more hv _ _ _ => exact hp.starts hv

theorem Items.length_lt (hp : IsPart part) {t rest : Text} {vs : List Json}
    (h : Items part t vs rest) : rest.length < t.length := by
  induction h with
  | last hv hs => exact Nat.lt_of_lt_of_le hs.length_le (hp.length_le hv)
  | more hv hs hs' _ ih =>
      exact Nat.lt_trans (Nat.lt_of_lt_of_le ih hs'.length_le)
        (Nat.lt_of_lt_of_le hs.length_le (hp.length_le hv))

theorem scan_items (hp : IsPart part) {bound : Nat}
    (hitem : ∀ {t v rest}, part t v rest → t.length ≤ bound → Follows rest →
      item t = .ok (v, rest))
    {t rest : Text} {vs : List Json} (h : Items part t vs rest) {b : Nat} (hb : t.length ≤ b)
    (hbound : t.length ≤ bound) : scanItems item b t = .ok (vs, rest) := by
  induction h generalizing b with
  | last hv hs =>
      have hlt := (Items.last hv hs).length_lt hp
      obtain ⟨b, rfl⟩ := Nat.exists_eq_add_one.mpr (Nat.lt_of_lt_of_le (Nat.zero_lt_of_lt hlt) hb)
      rw [scanItems, hitem hv hbound (.of_spaces hs (.cons _ (by decide)))]
      simp [skipSpace_cons hs (by decide)]
  | more hv hs hs' hvs ih =>
      have hlt := Nat.lt_of_le_of_lt hs'.length_le
        (Nat.lt_of_lt_of_le (Nat.lt_succ_self _) (Nat.le_trans hs.length_le (hp.length_le hv)))
      obtain ⟨b, rfl⟩ := Nat.exists_eq_add_one.mpr (Nat.lt_of_lt_of_le (Nat.zero_lt_of_lt hlt) hb)
      have hrec := ih (Nat.le_of_lt_succ (Nat.lt_of_lt_of_le hlt hb))
        (Nat.le_trans (Nat.le_of_lt hlt) hbound)
      rw [scanItems, hitem hv hbound (.of_spaces hs (.cons _ (by decide)))]
      simp +decide [skipSpace_cons hs, skipSpace_eq hs' (hvs.starts hp).noSpace, hrec]

/-! The same for the members of an object, where a name comes before every value. -/

theorem name_of_scan {t rest s : Text} (h : scanName t = .ok (s, rest)) : Name t s rest := by
  cases t with
  | nil => exact absurd h (by simp [scanName])
  | cons c t =>
      simp only [scanName] at h
      split at h
      · rename_i hc
        subst hc
        obtain ⟨⟨s', after⟩, hs, h⟩ := bind_eq_ok_iff.mp h
        have hsp := spaces_skipSpace after
        simp only at h
        split at h
        · exact absurd h (by simp)
        · rename_i c t₂ heq
          rw [heq] at hsp
          split at h
          · rename_i hc
            subst hc
            obtain ⟨rfl, rfl⟩ := Prod.mk.inj (Except.ok.inj h)
            exact .mk (literal_of_read rfl hs) hsp (spaces_skipSpace t₂)
          · exact absurd h (by simp)
      · exact absurd h (by simp)

theorem scan_name {t rest s : Text} (h : Name t s rest) (hr : NoSpace rest) :
    scanName t = .ok (s, rest) := by
  cases h with
  | mk hl hs hs' =>
      obtain ⟨t', rfl⟩ := hl.head
      simp +decide [scanName, read_literal hl, skipSpace_cons hs, skipSpace_eq hs' hr]

theorem Name.length_lt {t rest s : Text} (h : Name t s rest) : rest.length < t.length := by
  cases h with
  | mk hl hs hs' =>
      calc rest.length ≤ _ := hs'.length_le
        _ < _ := Nat.lt_succ_self _
        _ ≤ _ := hs.length_le
        _ < t.length := hl.length_lt

theorem Name.head {t rest s : Text} (h : Name t s rest) : ∃ t', t = .ofChar '"' :: t' := by
  cases h with
  | mk hl _ _ => exact hl.head

theorem members_of_scan (hitem : ∀ {t v rest}, item t = .ok (v, rest) → part t v rest)
    {bound : Nat} {t rest : Text} {ms : List (Text × Json)}
    (h : scanMembers item bound t = .ok (ms, rest)) : Members part t ms rest := by
  induction bound generalizing t ms with
  | zero => exact absurd h (by simp [scanMembers])
  | succ bound ih =>
      obtain ⟨⟨s, t₁⟩, hn, h⟩ := bind_eq_ok_iff.mp h
      obtain ⟨⟨v, t₂⟩, hv, h⟩ := bind_eq_ok_iff.mp h
      have hs := spaces_skipSpace t₂
      simp only at h
      split at h
      · exact absurd h (by simp)
      · rename_i c t₃ heq
        rw [heq] at hs
        split at h
        · rename_i hc
          subst hc
          obtain ⟨rfl, rfl⟩ := Prod.mk.inj (Except.ok.inj h)
          exact .last (name_of_scan hn) (hitem hv) hs
        split at h
        · rename_i hc
          subst hc
          obtain ⟨⟨ms', after⟩, hms, h⟩ := bind_eq_ok_iff.mp h
          obtain ⟨rfl, rfl⟩ := Prod.mk.inj (Except.ok.inj h)
          exact .more (name_of_scan hn) (hitem hv) hs (spaces_skipSpace t₃) (ih hms)
        · exact absurd h (by simp)

theorem Members.head {t rest : Text} {ms : List (Text × Json)} (h : Members part t ms rest) :
    ∃ t', t = .ofChar '"' :: t' := by
  cases h with
  | last hn _ _ => exact hn.head
  | more hn _ _ _ _ => exact hn.head

theorem Members.starts {t rest : Text} {ms : List (Text × Json)} (h : Members part t ms rest) :
    Starts t := by
  obtain ⟨t', rfl⟩ := h.head
  exact .cons rfl t'

theorem Members.length_lt (hp : IsPart part) {t rest : Text} {ms : List (Text × Json)}
    (h : Members part t ms rest) : rest.length < t.length := by
  induction h with
  | last hn hv hs =>
      exact Nat.lt_trans (Nat.lt_of_lt_of_le hs.length_le (hp.length_le hv)) hn.length_lt
  | more hn hv hs hs' _ ih =>
      exact Nat.lt_trans (Nat.lt_of_lt_of_le ih hs'.length_le)
        (Nat.lt_trans (Nat.lt_of_lt_of_le hs.length_le (hp.length_le hv)) hn.length_lt)

theorem scan_members (hp : IsPart part) {bound : Nat}
    (hitem : ∀ {t v rest}, part t v rest → t.length ≤ bound → Follows rest →
      item t = .ok (v, rest))
    {t rest : Text} {ms : List (Text × Json)} (h : Members part t ms rest) {b : Nat}
    (hb : t.length ≤ b) (hbound : t.length ≤ bound) : scanMembers item b t = .ok (ms, rest) := by
  induction h generalizing b with
  | last hn hv hs =>
      have hlt := (Members.last hn hv hs).length_lt hp
      obtain ⟨b, rfl⟩ := Nat.exists_eq_add_one.mpr (Nat.lt_of_lt_of_le (Nat.zero_lt_of_lt hlt) hb)
      have hbv := Nat.le_trans (Nat.le_of_lt hn.length_lt) hbound
      rw [scanMembers, scan_name hn (hp.starts hv).noSpace]
      simp [hitem hv hbv (.of_spaces hs (.cons _ (by decide))), skipSpace_cons hs (by decide)]
  | more hn hv hs hs' hms ih =>
      have hlt := Nat.lt_of_le_of_lt hs'.length_le
        (Nat.lt_trans (Nat.lt_of_lt_of_le (Nat.lt_succ_self _)
          (Nat.le_trans hs.length_le (hp.length_le hv))) hn.length_lt)
      obtain ⟨b, rfl⟩ := Nat.exists_eq_add_one.mpr (Nat.lt_of_lt_of_le (Nat.zero_lt_of_lt hlt) hb)
      have hbv := Nat.le_trans (Nat.le_of_lt hn.length_lt) hbound
      have hrec := ih (Nat.le_of_lt_succ (Nat.lt_of_lt_of_le hlt hb))
        (Nat.le_trans (Nat.le_of_lt hlt) hbound)
      rw [scanMembers, scan_name hn (hp.starts hv).noSpace]
      simp +decide [hitem hv hbv (.of_spaces hs (.cons _ (by decide))), skipSpace_cons hs,
        skipSpace_eq hs' hms.starts.noSpace, hrec]

theorem compound_of_scan (hitem : ∀ {t v rest}, item t = .ok (v, rest) → part t v rest)
    {bound : Nat} {kind : Container} {t rest : Text} {v : Json}
    (h : scanContainer item bound kind t = .ok (v, rest)) :
    Compound part (opening kind :: t) v rest := by
  have hs := spaces_skipSpace t
  cases kind with
  | array =>
      simp only [scanContainer] at h
      split at h
      · rename_i hc
        obtain ⟨rfl, rfl⟩ := Prod.mk.inj (Except.ok.inj h)
        obtain ⟨t', ht⟩ := List.head?_eq_some_iff.mp hc
        rw [ht] at hs ⊢
        exact .emptyArray hs
      · obtain ⟨⟨vs, after⟩, hvs, h⟩ := bind_eq_ok_iff.mp h
        obtain ⟨rfl, rfl⟩ := Prod.mk.inj (Except.ok.inj h)
        exact .array hs (items_of_scan hitem hvs)
  | object =>
      simp only [scanContainer] at h
      split at h
      · rename_i hc
        obtain ⟨rfl, rfl⟩ := Prod.mk.inj (Except.ok.inj h)
        obtain ⟨t', ht⟩ := List.head?_eq_some_iff.mp hc
        rw [ht] at hs ⊢
        exact .emptyObject hs
      · obtain ⟨⟨ms, after⟩, hms, h⟩ := bind_eq_ok_iff.mp h
        obtain ⟨rfl, rfl⟩ := Prod.mk.inj (Except.ok.inj h)
        exact .object hs (members_of_scan hitem hms)

theorem scan_compound (hp : IsPart part) {bound : Nat}
    (hitem : ∀ {t v rest}, part t v rest → t.length ≤ bound → Follows rest →
      item t = .ok (v, rest))
    {t rest : Text} {v : Json} (h : Compound part t v rest) (hbound : t.length ≤ bound) :
    ∃ kind t', t = opening kind :: t' ∧
      scanContainer item bound kind t' = .ok (v, rest) := by
  cases h with
  | emptyArray hs =>
      exact ⟨.array, _, rfl, by simp [scanContainer, skipSpace_cons hs (by decide)]⟩
  | @array vs t t₁ rest hs hvs =>
      have hle := Nat.le_trans (Nat.le_succ_of_le hs.length_le) hbound
      obtain ⟨c, t', rfl, hc⟩ := hvs.starts hp
      obtain ⟨-, -, hc⟩ := isStart_iff.mp hc
      refine ⟨.array, _, rfl, ?_⟩
      simp [scanContainer, skipSpace_eq hs (hvs.starts hp).noSpace, hc,
        scan_items hp hitem hvs hle hle]
  | emptyObject hs =>
      exact ⟨.object, _, rfl, by simp [scanContainer, skipSpace_cons hs (by decide)]⟩
  | @object ms t t₁ rest hs hms =>
      have hle := Nat.le_trans (Nat.le_succ_of_le hs.length_le) hbound
      obtain ⟨t', rfl⟩ := hms.head
      refine ⟨.object, _, rfl, ?_⟩
      simp +decide [scanContainer, skipSpace_eq hs hms.starts.noSpace,
        scan_members hp hitem hms hle hle]

theorem Compound.length_lt (hp : IsPart part) {t rest : Text} {v : Json}
    (h : Compound part t v rest) : rest.length < t.length := by
  cases h with
  | emptyArray hs => exact Nat.lt_trans (Nat.lt_succ_self _) (Nat.lt_succ_of_le hs.length_le)
  | array hs hvs => exact Nat.lt_succ_of_lt (Nat.lt_of_lt_of_le (hvs.length_lt hp) hs.length_le)
  | emptyObject hs => exact Nat.lt_trans (Nat.lt_succ_self _) (Nat.lt_succ_of_le hs.length_le)
  | object hs hms => exact Nat.lt_succ_of_lt (Nat.lt_of_lt_of_le (hms.length_lt hp) hs.length_le)

theorem Compound.starts {t rest : Text} {v : Json} (h : Compound part t v rest) : Starts t := by
  cases h <;> exact .cons rfl _

end

/-! ## Values and documents -/

theorem starts_of_digit {c : CodePoint} (t : Text) (hc : c.digit?.isSome) : Starts (c :: t) := by
  obtain ⟨d, hd⟩ := Option.isSome_iff_exists.mp hc
  obtain rfl := CodePoint.digit?_eq_some hd
  refine .cons ?_ t
  revert d
  decide

theorem Atom.starts {d : Dialect} {t rest : Text} {v : Json} (h : Atom d t v rest) :
    Starts t := by
  cases h with
  | null | true | false => exact .cons rfl _
  | constant k => cases k <;> exact .cons rfl _
  | number hn _ =>
      obtain ⟨c, t', rfl | rfl, hc⟩ := hn.head
      · exact starts_of_digit t' hc
      · exact .cons rfl _
  | string hl =>
      obtain ⟨t', rfl⟩ := hl.head
      exact .cons rfl t'

theorem Atom.length_le {d : Dialect} {t rest : Text} {v : Json} (h : Atom d t v rest) :
    rest.length ≤ t.length := by
  cases h with
  | null | true | false | constant => simp
  | number hn _ => exact Nat.le_of_lt hn.length_lt
  | string hl => exact Nat.le_of_lt hl.length_lt

theorem Value.atom {d : Dialect} {t rest : Text} {v : Json} (h : Atom d t v rest) (n : Nat) :
    Value d n t v rest := by
  cases n with
  | zero => exact h
  | succ n => exact .inl h

theorem isPart_value (d : Dialect) (n : Nat) : IsPart (Value d n) := by
  induction n with
  | zero => exact ⟨Atom.starts, Atom.length_le⟩
  | succ n ih =>
      constructor
      · intro t v rest h
        exact h.elim Atom.starts Compound.starts
      · intro t v rest h
        exact h.elim Atom.length_le fun h => Nat.le_of_lt (h.length_lt ih)

theorem value_of_scan {constants : Bool} {bound n : Nat} {t rest : Text} {v : Json}
    (h : scanValue constants bound n t = .ok (v, rest)) :
    Value (.read constants) n t v rest := by
  induction n generalizing t v rest with
  | zero =>
      rcases scanFirst_cases h with h | ⟨kind, t', _, h⟩
      · exact h
      · exact absurd h (by simp)
  | succ n ih =>
      rcases scanFirst_cases h with h | ⟨kind, t', rfl, h'⟩
      · exact .inl h
      · exact .inr (compound_of_scan ih h')

theorem scan_value {constants : Bool} {bound n : Nat} {t rest : Text} {v : Json}
    (h : Value (.read constants) n t v rest) (hb : t.length ≤ bound) (hr : Follows rest) :
    scanValue constants bound n t = .ok (v, rest) := by
  induction n generalizing t v rest with
  | zero => exact scanFirst_atom h hr.endsNumber
  | succ n ih =>
      rcases h with h | h
      · exact scanFirst_atom h hr.endsNumber
      · obtain ⟨kind, t', rfl, hc⟩ := scan_compound (isPart_value _ n) ih h hb
        rw [scanValue, scanFirst_opening]
        exact hc

theorem scanDocument_eq_ok_iff {constants : Bool} {n : Nat} {t : Text} {v : Json} :
    scanDocument constants n t = .ok v ↔ Document (.read constants) n t v := by
  constructor
  · intro h
    obtain ⟨⟨v', t₂⟩, hv, h⟩ := bind_eq_ok_iff.mp h
    have hs := spaces_skipSpace t₂
    simp only at h
    split at h
    · rename_i heq
      obtain rfl := Except.ok.inj h
      rw [heq] at hs
      exact ⟨_, t₂, spaces_skipSpace t, value_of_scan hv, hs⟩
    · exact absurd h (by simp)
  · rintro ⟨t₁, t₂, hs, hv, hs'⟩
    have hr : Follows t₂ := .of_spaces hs' .nil
    have hst := ((isPart_value _ _).starts hv).noSpace
    simp only [scanDocument, skipSpace_eq hs hst, scan_value hv hs.length_le hr, ok_bind,
      skipSpace_eq hs' (by intro c hc; simp at hc)]
    rfl

/-- Neither a space nor the beginning of a value is the byte order mark. -/
theorem head_ne_byteOrderMark {t t₁ : Text} (hs : Spaces t t₁) (hst : Starts t₁) :
    t.head? ≠ some byteOrderMark := by
  have hascii : ∃ c t', t = c :: t' ∧ c.isAscii = true := by
    cases hs with
    | nil =>
        obtain ⟨c, t', ht, hc⟩ := hst
        exact ⟨c, t', ht, (isStart_iff.mp hc).1⟩
    | cons hc _ =>
        refine ⟨_, _, rfl, ?_⟩
        rcases isSpace_cases hc with rfl | rfl | rfl | rfl <;> decide
  obtain ⟨c, t', rfl, hc⟩ := hascii
  intro hm
  obtain rfl := Option.some.inj hm
  exact absurd hc (by decide)

theorem Document.head_ne {d : Dialect} {n : Nat} {t : Text} {v : Json} (h : Document d n t v) :
    t.head? ≠ some byteOrderMark := by
  obtain ⟨t₁, t₂, hs, hv, _⟩ := h
  exact head_ne_byteOrderMark hs ((isPart_value d n).starts hv)

theorem readUnmarked_eq_ok_iff {constants : Bool} {n : Nat} {t : Text} {v : Json} :
    readUnmarked constants n t = .ok v ↔ Document (.read constants) n t v := by
  rw [readUnmarked, mapError_eq_ok_iff, scanDocument_eq_ok_iff]

theorem readWith_eq_ok_iff {constants : Bool} {n : Nat} {t : Text} {v : Json} :
    readWith constants n t = .ok v ↔ Document (.read constants) n t v := by
  rw [readWith]
  split
  · rename_i hm
    refine iff_of_false (by simp) ?_
    intro h
    exact h.head_ne hm
  · exact readUnmarked_eq_ok_iff

end JsonRpc.Json.Grammar
