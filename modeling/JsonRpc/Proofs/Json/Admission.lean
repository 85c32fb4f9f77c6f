/-
Which documents of the grammar proper are read.

The reader departs from the grammar proper by two limits: on the levels of nesting and on the digits of a
whole number.  A value of the grammar is within both, or else reading it comes to the first place that
is not (`Value.restrict`).  So a text is refused for one of three reasons: it is no document, it has a
whole number that is too long, or it is nested too deep (`readStrict_eq_ok_iff`).

A text may have its long number behind a place that is nested too deep, or the other way round; which of
the two is reported depends on which comes first.  This is why the limits are applied together.
-/
import JsonRpc.Proofs.Json.Refusal

namespace JsonRpc.Json.Grammar

/-- The grammar proper: no constants, and whole numbers of any length. -/
def Dialect.proper : Dialect := ⟨false, true⟩

/-- The text is a document of this value. -/
def Denotes (t : Text) (v : Json) : Prop := ∃ n, Document .proper n t v

/-- A whole number of too many digits stands here. -/
def StartsLong (e : LongNumber) (_ : Nat) (t : Text) : Prop :=
  ∃ num rest, Number t num rest ∧ EndsNumber rest ∧ IsLong num ∧ e = .reading num.whole.length

/-- A whole number of too many digits stands in the text where a value should. -/
def HasLongNumber (t : Text) : Prop :=
  ∃ n t' e, Spaces t t' ∧ Reaches .proper (StartsLong e) n t'

/-- What the reader refuses here although the grammar has it. -/
inductive Obstacle : ReadError Text → Nat → Text → Prop
  | tooDeep {kind : Container} {n : Nat} {t : Text} :
      OpensTooDeep kind n t → Obstacle (.tooDeep kind) n t
  | longNumber {e : LongNumber} {n : Nat} {t : Text} :
      StartsLong e n t → Obstacle (.longNumber e) n t

/-! ## Parts

Each part of one grammar is one of the other, or fails there.  So the parts of a container are, or they
are up to the first that fails. -/

section
variable {part part' : Text → Json → Text → Prop} {fails : Text → Prop}

theorem Items.restrict {t rest : Text} {vs : List Json} (h : Items part t vs rest)
    (hpart : ∀ {t v rest}, part t v rest → Follows rest → part' t v rest ∨ fails t) :
    Items part' t vs rest ∨ ∃ t', ItemsBefore part' t t' ∧ fails t' := by
  induction h with
  | last hv hs =>
      rcases hpart hv (.of_spaces hs (.cons _ (by decide))) with hv | hfails
      · exact .inl (.last hv hs)
      · exact .inr ⟨_, .here _, hfails⟩
  | more hv hs hs' _ ih =>
      rcases hpart hv (.of_spaces hs (.cons _ (by decide))) with hv | hfails
      · rcases ih with hvs | ⟨t', hbefore, hfails⟩
        · exact .inl (.more hv hs hs' hvs)
        · exact .inr ⟨t', .skip hv hs hs' hbefore, hfails⟩
      · exact .inr ⟨_, .here _, hfails⟩

theorem ItemsBefore.restrict {t rest : Text} (h : ItemsBefore part t rest)
    (hpart : ∀ {t v rest}, part t v rest → Follows rest → part' t v rest ∨ fails t) :
    ItemsBefore part' t rest ∨ ∃ t', ItemsBefore part' t t' ∧ fails t' := by
  induction h with
  | here t => exact .inl (.here t)
  | skip hv hs hs' _ ih =>
      rcases hpart hv (.of_spaces hs (.cons _ (by decide))) with hv | hfails
      · rcases ih with hrest | ⟨t', hbefore, hfails⟩
        · exact .inl (.skip hv hs hs' hrest)
        · exact .inr ⟨t', .skip hv hs hs' hbefore, hfails⟩
      · exact .inr ⟨_, .here _, hfails⟩

theorem Members.restrict {t rest : Text} {ms : List (Text × Json)} (h : Members part t ms rest)
    (hpart : ∀ {t v rest}, part t v rest → Follows rest → part' t v rest ∨ fails t) :
    Members part' t ms rest ∨ ∃ t', MembersBefore part' t t' ∧ fails t' := by
  induction h with
  | last hn hv hs =>
      rcases hpart hv (.of_spaces hs (.cons _ (by decide))) with hv | hfails
      · exact .inl (.last hn hv hs)
      · exact .inr ⟨_, .here hn, hfails⟩
  | more hn hv hs hs' _ ih =>
      rcases hpart hv (.of_spaces hs (.cons _ (by decide))) with hv | hfails
      · rcases ih with hms | ⟨t', hbefore, hfails⟩
        · exact .inl (.more hn hv hs hs' hms)
        · exact .inr ⟨t', .skip hn hv hs hs' hbefore, hfails⟩
      · exact .inr ⟨_, .here hn, hfails⟩

theorem MembersBefore.restrict {t rest : Text} (h : MembersBefore part t rest)
    (hpart : ∀ {t v rest}, part t v rest → Follows rest → part' t v rest ∨ fails t) :
    MembersBefore part' t rest ∨ ∃ t', MembersBefore part' t t' ∧ fails t' := by
  induction h with
  | here hn => exact .inl (.here hn)
  | skip hn hv hs hs' _ ih =>
      rcases hpart hv (.of_spaces hs (.cons _ (by decide))) with hv | hfails
      · rcases ih with hrest | ⟨t', hbefore, hfails⟩
        · exact .inl (.skip hn hv hs hs' hrest)
        · exact .inr ⟨t', .skip hn hv hs hs' hbefore, hfails⟩
      · exact .inr ⟨_, .here hn, hfails⟩

end

/-! ## The grammar within the limits -/

theorem Compound.head {part : Text → Json → Text → Prop} {t rest : Text} {v : Json}
    (h : Compound part t v rest) : ∃ kind t', t = opening kind :: t' := by
  cases h with
  | emptyArray | array => exact ⟨.array, _, rfl⟩
  | emptyObject | object => exact ⟨.object, _, rfl⟩

theorem Atom.restrict {t rest : Text} {v : Json} (h : Atom .proper t v rest) (hr : Follows rest)
    (m : Nat) :
    Value (.read Bool.false) m t v rest ∨ ∃ e, Reaches (.read Bool.false) (Obstacle e) m t := by
  cases h with
  | null => exact .inl (.atom (.null _) m)
  | true => exact .inl (.atom (.true _) m)
  | false => exact .inl (.atom (.false _) m)
  | constant _ _ hc => exact absurd hc (by decide)
  | @number num t rest hn _ =>
      by_cases hl : IsLong num
      · exact .inr ⟨_, .here (.longNumber ⟨num, rest, hn, hr.endsNumber, hl, rfl⟩)⟩
      · exact .inl (.atom (.number hn (.inr hl)) m)
  | string hl => exact .inl (.atom (.string hl) m)

/-- A value of the grammar is within the limits, or an obstacle comes up in it. -/
theorem Value.restrict {n m : Nat} {t rest : Text} {v : Json} (h : Value .proper n t v rest)
    (hr : Follows rest) :
    Value (.read false) m t v rest ∨ ∃ e, Reaches (.read false) (Obstacle e) m t := by
  -- by induction on the depth in the grammar, for all numbers of levels that the reader has left
  induction n generalizing m t v rest with
  | zero => exact Atom.restrict h hr m
  | succ n ih =>
      rcases h with h | h
      · exact h.restrict hr m
      cases m with
      | zero =>
          obtain ⟨kind, t', rfl⟩ := h.head
          exact .inr ⟨_, .here (.tooDeep ⟨rfl, t', rfl⟩)⟩
      | succ m =>
          cases h with
          | emptyArray hs => exact .inl (.inr (.emptyArray hs))
          | array hs hvs =>
              rcases hvs.restrict ih with hvs | ⟨t', hbefore, e, hreach⟩
              · exact .inl (.inr (.array hs hvs))
              · exact .inr ⟨e, .array hs hbefore hreach⟩
          | emptyObject hs => exact .inl (.inr (.emptyObject hs))
          | object hs hms =>
              rcases hms.restrict ih with hms | ⟨t', hbefore, e, hreach⟩
              · exact .inl (.inr (.object hs hms))
              · exact .inr ⟨e, .object hs hbefore hreach⟩

/-- Where a long number is reached, an obstacle is reached within the limits. -/
theorem Reaches.restrict {long : LongNumber} {n m : Nat} {t : Text}
    (h : Reaches .proper (StartsLong long) n t) :
    ∃ e, Reaches (.read false) (Obstacle e) m t := by
  -- what stands before the long number may have an obstacle of its own, which then comes first
  induction h generalizing m with
  | here h => exact ⟨_, .here (.longNumber h)⟩
  | array hs hbefore _ ih =>
      cases m with
      | zero => exact ⟨.tooDeep .array, .here (.tooDeep ⟨rfl, _, rfl⟩)⟩
      | succ m =>
          rcases hbefore.restrict Value.restrict with hbefore | ⟨t', hbefore, e, hreach⟩
          · obtain ⟨e, hreach⟩ := ih
            exact ⟨e, .array hs hbefore hreach⟩
          · exact ⟨e, .array hs hbefore hreach⟩
  | object hs hbefore _ ih =>
      cases m with
      | zero => exact ⟨.tooDeep .object, .here (.tooDeep ⟨rfl, _, rfl⟩)⟩
      | succ m =>
          rcases hbefore.restrict Value.restrict with hbefore | ⟨t', hbefore, e, hreach⟩
          · obtain ⟨e, hreach⟩ := ih
            exact ⟨e, .object hs hbefore hreach⟩
          · exact ⟨e, .object hs hbefore hreach⟩

/-! ## What is within the limits is in the grammar -/

theorem Atom.proper {t rest : Text} {v : Json} (h : Atom (.read Bool.false) t v rest) :
    Atom .proper t v rest := by
  cases h with
  | null => exact .null _
  | true => exact .true _
  | false => exact .false _
  | constant _ _ hc => exact absurd hc (by decide)
  | number hn _ => exact .number hn (.inl rfl)
  | string hl => exact .string hl

theorem Value.proper {n : Nat} {t rest : Text} {v : Json} (h : Value (.read false) n t v rest)
    (hr : Follows rest) : Value .proper n t v rest := by
  induction n generalizing t v rest with
  | zero => exact Atom.proper h
  | succ n ih =>
      have hpart {t v rest} (h : Value (.read false) n t v rest) (hr : Follows rest) :
          Value .proper n t v rest ∨ False := .inl (ih h hr)
      rcases h with h | h
      · exact .inl h.proper
      cases h with
      | emptyArray hs => exact .inr (.emptyArray hs)
      | array hs hvs => exact .inr (.array hs ((hvs.restrict hpart).resolve_right (by simp)))
      | emptyObject hs => exact .inr (.emptyObject hs)
      | object hs hms => exact .inr (.object hs ((hms.restrict hpart).resolve_right (by simp)))

theorem Reaches.proper {stop stop' : Nat → Text → Prop}
    (hstop : ∀ {n t}, stop n t → stop' n t) {n : Nat} {t : Text}
    (h : Reaches (.read false) stop n t) : Reaches .proper stop' n t := by
  have hpart {n t v rest} (h : Value (.read false) n t v rest) (hr : Follows rest) :
      Value .proper n t v rest ∨ False := .inl (h.proper hr)
  induction h with
  | here h => exact .here (hstop h)
  | array hs hbefore _ ih =>
      exact .array hs ((hbefore.restrict hpart).resolve_right (by simp)) ih
  | object hs hbefore _ ih =>
      exact .object hs ((hbefore.restrict hpart).resolve_right (by simp)) ih

/-! ## Obstacles are refused -/

theorem Reaches.stops {d : Dialect} {stop : Nat → Text → Prop} {n : Nat} {t : Text}
    (h : Reaches d stop n t) : ∃ n' t', stop n' t' := by
  induction h with
  | here h => exact ⟨_, _, h⟩
  | array _ _ _ ih | object _ _ _ ih => exact ih

theorem Obstacle.starts {e : ReadError Text} {n : Nat} {t : Text} (h : Obstacle e n t) :
    Starts t := by
  cases h with
  | tooDeep h => exact h.starts
  | longNumber h =>
      obtain ⟨num, rest, hn, -, -, -⟩ := h
      exact (Atom.number (d := .proper) hn (.inl rfl)).starts

theorem Obstacle.scan {e : ReadError Text} {bound n : Nat} {t : Text} (h : Obstacle e n t) :
    scanValue false bound n t = .error e := by
  cases h with
  | tooDeep h => exact h.scan
  | longNumber h =>
      obtain ⟨num, rest, hn, hr, hl, rfl⟩ := h
      have hfirst (inner : Container → Text → Scan (Json × Text)) :
          scanFirst false inner t = .error (.longNumber (.reading num.whole.length)) := by
        rw [scanFirst_number hn hr, if_pos hl]
      cases n with
      | zero => exact hfirst _
      | succ n => exact hfirst _

theorem scanDocument_of_obstacle {e : ReadError Text} {n : Nat} {t t' : Text} (hs : Spaces t t')
    (h : Reaches (.read false) (Obstacle e) n t') : scanDocument false n t = .error e :=
  scanDocument_of_reaches Obstacle.starts Obstacle.scan hs h

/-! ## Short texts -/

theorem Digits.length_eq {t rest : Text} {ds : List (Fin 10)} (h : Digits t ds rest) :
    t.length = ds.length + rest.length := by
  induction h with
  | nil => simp
  | cons _ _ ih => rw [List.length_cons, List.length_cons, ih, Nat.add_right_comm]

theorem Number.whole_length_le {t rest : Text} {n : Numeral} (h : Number t n rest) :
    n.whole.length ≤ t.length := by
  cases h with
  | @mk s w f e t t₁ t₂ t₃ rest hm hw _ _ =>
      have hwhole : w.length ≤ t₁.length := by
        cases hw with
        | zero _ => simp
        | digits _ _ hd => simp [hd.length_eq]
      exact Nat.le_trans hwhole hm.length_le

section
variable {part : Text → Json → Text → Prop}

theorem ItemsBefore.length_le (hp : IsPart part) {t t' : Text} (h : ItemsBefore part t t') :
    t'.length ≤ t.length := by
  induction h with
  | here => exact Nat.le_refl _
  | skip hv hs hs' _ ih =>
      calc _ ≤ _ := ih
        _ ≤ _ := hs'.length_le
        _ ≤ _ := Nat.le_succ _
        _ ≤ _ := hs.length_le
        _ ≤ _ := hp.length_le hv

theorem MembersBefore.length_le (hp : IsPart part) {t t' : Text} (h : MembersBefore part t t') :
    t'.length ≤ t.length := by
  induction h with
  | here hn => exact Nat.le_of_lt hn.length_lt
  | skip hn hv hs hs' _ ih =>
      calc _ ≤ _ := ih
        _ ≤ _ := hs'.length_le
        _ ≤ _ := Nat.le_succ _
        _ ≤ _ := hs.length_le
        _ ≤ _ := hp.length_le hv
        _ ≤ _ := Nat.le_of_lt hn.length_lt

end

theorem Reaches.lt_length {d : Dialect} {stop : Nat → Text → Prop} {k n : Nat} {t : Text}
    (h : Reaches d stop n t) (hstop : ∀ {n t}, stop n t → k < t.length) : k < t.length := by
  induction h with
  | here h => exact hstop h
  | array hs hbefore _ ih =>
      calc k < _ := ih
        _ ≤ _ := hbefore.length_le (isPart_value _ _)
        _ ≤ _ := hs.length_le
        _ ≤ _ := Nat.le_succ _
  | object hs hbefore _ ih =>
      calc k < _ := ih
        _ ≤ _ := hbefore.length_le (isPart_value _ _)
        _ ≤ _ := hs.length_le
        _ ≤ _ := Nat.le_succ _

/-- Only a text of more characters than a whole number may have digits has one that is too long. -/
theorem HasLongNumber.lt_length {t : Text} (h : HasLongNumber t) : digitLimit < t.length := by
  obtain ⟨n, t', e, hs, hreach⟩ := h
  refine Nat.lt_of_lt_of_le (hreach.lt_length ?_) hs.length_le
  rintro n t ⟨num, rest, hn, -, hl, -⟩
  exact Nat.lt_of_lt_of_le hl.2 hn.whole_length_le

/-! ## The reader -/

theorem Document.proper {n : Nat} {t : Text} {v : Json} (h : Document (.read false) n t v) :
    Denotes t v := by
  obtain ⟨t₁, t₂, hs, hv, hs'⟩ := h
  exact ⟨n, t₁, t₂, hs, hv.proper (.of_spaces hs' .nil), hs'⟩

theorem Denotes.restrict {t : Text} {v : Json} (h : Denotes t v) (m : Nat) :
    Document (.read false) m t v ∨ HasLongNumber t ∨ ∃ kind, OverNested false m kind t := by
  obtain ⟨n, t₁, t₂, hs, hv, hs'⟩ := h
  rcases hv.restrict (m := m) (.of_spaces hs' .nil) with hv | ⟨e, hreach⟩
  · exact .inl ⟨t₁, t₂, hs, hv, hs'⟩
  · have hscan := scanDocument_of_obstacle hs hreach
    obtain ⟨_, _, hstop⟩ := hreach.stops
    cases hstop with
    | @tooDeep kind =>
        exact .inr (.inr ⟨kind, scanDocument_eq_tooDeep_iff.mp hscan⟩)
    | @longNumber long =>
        have hlong {n : Nat} {t : Text} (h : Obstacle (.longNumber long) n t) :
            StartsLong long n t := by
          cases h with
          | longNumber h => exact h
        exact .inr (.inl ⟨_, t₁, long, hs, hreach.proper hlong⟩)

theorem readStrict_eq_ok_iff {levels : Nat} {t : Text} {v : Json} :
    Json.readStrict levels t = .ok v ↔
      Denotes t v ∧ ¬ HasLongNumber t ∧ ∀ kind, ¬ OverNested false levels kind t := by
  have hread : Json.readStrict levels t = .ok v ↔ Document (.read false) levels t v :=
    readWith_eq_ok_iff
  constructor
  · intro hv
    have hscan := scanDocument_eq_ok_iff.mpr (hread.mp hv)
    refine ⟨(hread.mp hv).proper, ?_, ?_⟩
    · rintro ⟨n, t', long, hs, hreach⟩
      obtain ⟨e, hreach⟩ := hreach.restrict (m := levels)
      exact absurd (hscan.symm.trans (scanDocument_of_obstacle hs hreach)) (by simp)
    · intro kind hdeep
      exact absurd (hv.symm.trans (readWith_eq_tooDeep_iff.mpr hdeep)) (by simp)
  · rintro ⟨hdenotes, hshort, hflat⟩
    refine hread.mpr ?_
    rcases hdenotes.restrict levels with hdoc | hlong | ⟨kind, hdeep⟩
    · exact hdoc
    · exact absurd hlong hshort
    · exact absurd hdeep (hflat kind)

end JsonRpc.Json.Grammar
