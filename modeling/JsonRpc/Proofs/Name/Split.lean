/-
Taking a qualified name apart and putting it together again.

A text is taken apart into parts that it is made of (`isMadeOf_of_parts?`), and a text that is made of
parts is taken apart into these (`IsMadeOf.parts?_eq`), so there is one way at most to make a text of
parts.  What is left of splitting is to read the version, which fails if it has too many digits and
forgets how many zeros it has in front.  `QualifiedName.split_exact` puts this together.
-/
import JsonRpc.Proofs.Name.Pattern

namespace JsonRpc

namespace Text

theorem map_spanDigits (t : Text) :
    (spanDigits t).1.map CodePoint.ofDigit ++ (spanDigits t).2 = t := by
  induction t with
  | nil => rfl
  | cons c t ih =>
      rw [spanDigits]
      split
      · rename_i d hd
        rw [CodePoint.digit?_eq_some hd, List.map_cons, List.cons_append, ih]
      · rfl

theorem allDigits?_eq_some {t : Text} {ds : List (Fin 10)} (h : allDigits? t = some ds) :
    ds ≠ [] ∧ t = ds.map CodePoint.ofDigit := by
  have ht := map_spanDigits t
  rw [allDigits?] at h
  split at h
  · rename_i d ds' hspan
    obtain rfl := Option.some.inj h
    rw [hspan, List.append_nil] at ht
    exact ⟨by simp, ht.symm⟩
  · exact absurd h (by simp)

theorem ofSegments_append {ss ss' : List Text} (h : ss ≠ []) (h' : ss' ≠ []) :
    ofSegments (ss ++ ss') = ofSegments ss ++ .ofChar '.' :: ofSegments ss' := by
  induction ss with
  | nil => exact absurd rfl h
  | cons s ss ih =>
      cases ss with
      | nil => exact ofSegments_cons s h'
      | cons s' ss =>
          rw [List.cons_append, ofSegments_cons s (by simp), ih (by simp),
            ofSegments_cons s (by simp), List.append_assoc, List.cons_append]

end Text

namespace QualifiedName

open Text

variable {t space name : Text} {ds : List (Fin 10)}

/-! ## Parts -/

theorem isMadeOf_of_parts? {s : Namespace} {m : MethodName} (h : parts? t = some (s, ds, m)) :
    IsMadeOf t s.text ds m.text := by
  rw [parts?] at h
  split at h
  · rename_i last version before hrev
    obtain ⟨m', hm, h⟩ := Option.bind_eq_some_iff.mp h
    obtain ⟨ds', hds, h⟩ := Option.bind_eq_some_iff.mp h
    obtain ⟨s', hs, h⟩ := Option.bind_eq_some_iff.mp h
    obtain ⟨rfl, rfl, rfl⟩ : s' = s ∧ ds' = ds ∧ m' = m := by simpa using h
    obtain ⟨hne, rfl⟩ := allDigits?_eq_some hds
    -- the segments are those of the namespace, the version and the name; the first are not missing,
    -- since nothing at all is no namespace
    have hsegments : segments t = before.reverse ++ [ds'.map .ofDigit, last] := by
      rw [← List.reverse_reverse (segments t), hrev]
      simp
    have hbefore : before.reverse ≠ [] := by
      intro hnil
      have hempty : Namespace.ofText? (ofSegments []) = none := by decide
      rw [hnil, hempty] at hs
      exact absurd hs (by simp)
    refine ⟨s'.isNamespace, hne, m'.isMethodName, ?_⟩
    rw [MethodName.text_of_ofText? hm, Namespace.text_of_ofText? hs, ← ofSegments_segments t,
      hsegments, ofSegments_append hbefore (by simp), ofSegments_cons _ (by simp)]
    simp [joinParts, of, ofSegments, intercalate]
  · exact absurd h (by simp)

theorem IsMadeOf.parts?_eq (h : IsMadeOf t space ds name) :
    parts? t = some (⟨space, h.isNamespace⟩, ds, ⟨name, h.isMethodName⟩) := by
  obtain ⟨hspace, hne, hname, rfl⟩ := h
  rw [QualifiedName.parts?_eq hne, MethodName.ofText?, dif_pos hname, Namespace.ofText?,
    dif_pos hspace]
  rfl

/-- A text is made of parts in one way only. -/
theorem IsMadeOf.unique {space' name' : Text} {ds' : List (Fin 10)} (h : IsMadeOf t space ds name)
    (h' : IsMadeOf t space' ds' name') : space = space' ∧ ds = ds' ∧ name = name' := by
  simpa using h.parts?_eq.symm.trans h'.parts?_eq

theorem parts?_eq_none_iff : parts? t = none ↔ t ∉ Pattern.qualified := by
  rw [Pattern.mem_qualified_iff]
  constructor
  · rintro hnone ⟨space, ds, name, h⟩
    exact absurd (hnone.symm.trans h.parts?_eq) (by simp)
  · intro hnone
    cases hparts : parts? t with
    | none => rfl
    | some p =>
        obtain ⟨s, ds, m⟩ := p
        exact absurd ⟨_, _, _, isMadeOf_of_parts? hparts⟩ hnone

/-! ## Splitting -/

theorem IsMadeOf.split_eq (h : IsMadeOf t space ds name) :
    split t = if ds.length ≤ digitLimit then
      .ok (some ⟨⟨space, h.isNamespace⟩, ofDigits ds, ⟨name, h.isMethodName⟩⟩) else
      .error (.reading ds.length) := by
  rw [split, h.parts?_eq]
  simp only [readDigits]
  split <;> rfl

theorem split_eq_none_iff : split t = .ok none ↔ t ∉ Pattern.qualified := by
  rw [← parts?_eq_none_iff]
  constructor
  · intro h
    cases hparts : parts? t with
    | none => rfl
    | some p =>
        obtain ⟨s, ds, m⟩ := p
        rw [(isMadeOf_of_parts? hparts).split_eq] at h
        split at h <;> exact absurd h (by simp)
  · intro h
    rw [split, h]

theorem isMadeOf_render (q : QualifiedName) :
    IsMadeOf q.render q.space.text (digits q.version) q.method.text :=
  ⟨q.space.isNamespace, digits_ne_nil _, q.method.isMethodName, rfl⟩

theorem split_render_eq_iff (q : QualifiedName) :
    split q.render = .ok (some q) ↔ (digits q.version).length ≤ digitLimit := by
  rw [q.isMadeOf_render.split_eq, ofDigits_digits]
  split
  · rename_i hlimit
    exact iff_of_true rfl hlimit
  · rename_i hlimit
    exact iff_of_false (by simp) hlimit

theorem split_eq_some_iff {q : QualifiedName} :
    split t = .ok (some q) ↔
      ∃ ds, IsMadeOf t q.space.text ds q.method.text ∧ ds.length ≤ digitLimit ∧
        ofDigits ds = q.version := by
  constructor
  · intro h
    have hmem : t ∈ Pattern.qualified := by
      by_contra hnone
      exact absurd (h.symm.trans (split_eq_none_iff.mpr hnone)) (by simp)
    obtain ⟨space, ds, name, hparts⟩ := Pattern.mem_qualified_iff.mp hmem
    rw [hparts.split_eq] at h
    split at h
    · rename_i hlimit
      obtain rfl := Option.some.inj (Except.ok.inj h)
      exact ⟨ds, hparts, hlimit, rfl⟩
    · exact absurd h (by simp)
  · rintro ⟨ds, hparts, hlimit, hvalue⟩
    rw [hparts.split_eq, if_pos hlimit, hvalue]

/-- A name that was taken apart is the one that its parts are put together to, but for zeros in front of
the version. -/
theorem eq_joinParts_of_split {q : QualifiedName} (h : split t = .ok (some q)) :
    ∃ k, t = joinParts q.space.text (List.replicate k 0 ++ digits q.version) q.method.text := by
  obtain ⟨ds, hparts, -, hvalue⟩ := split_eq_some_iff.mp h
  obtain ⟨k, hk⟩ := eq_zeros_append_digits hparts.ne_nil
  refine ⟨k, ?_⟩
  rw [← hvalue, ← hk]
  exact hparts.eq_joinParts

/-- A text is split into a namespace, a version and a method name if it is made of these and the
version is not too long; it is made of parts in one way only, and any other text is no name.  A name
that is put together is split again, and a name that is split is put together again but for zeros in
front of the version. -/
theorem split_exact (t : Text) :
    (∀ space version name,
      (∃ q : QualifiedName, split t = .ok (some q) ∧
        q.space.text = space ∧ q.version = version ∧ q.method.text = name) ↔
      ∃ ds, IsMadeOf t space ds name ∧ ds.length ≤ digitLimit ∧ ofDigits ds = version) ∧
    (∀ space ds name space' ds' name',
      IsMadeOf t space ds name → IsMadeOf t space' ds' name' →
        space = space' ∧ ds = ds' ∧ name = name') ∧
    (split t = .ok none ↔ ∀ space ds name, ¬ IsMadeOf t space ds name) ∧
    (split t = .ok none ↔ t ∉ Pattern.qualified) ∧
    (∀ q, split t = .ok (some q) → ∃ k,
      t = joinParts q.space.text (List.replicate k 0 ++ digits q.version) q.method.text) ∧
    ∀ q : QualifiedName, split q.render = .ok (some q) ↔
      (digits q.version).length ≤ digitLimit := by
  refine ⟨?_, fun _ _ _ _ _ _ h h' => h.unique h', ?_, split_eq_none_iff,
    fun _ => eq_joinParts_of_split, split_render_eq_iff⟩
  · intro space version name
    constructor
    · rintro ⟨q, hq, rfl, rfl, rfl⟩
      exact split_eq_some_iff.mp hq
    · rintro ⟨ds, hparts, hlimit, hvalue⟩
      exact ⟨⟨⟨space, hparts.isNamespace⟩, version, ⟨name, hparts.isMethodName⟩⟩,
        split_eq_some_iff.mpr ⟨ds, hparts, hlimit, hvalue⟩, rfl, rfl, rfl⟩
  · rw [split_eq_none_iff, Pattern.mem_qualified_iff]
    simp only [not_exists]

/-- A version is read with a zero in front, and a line feed behind a name makes it none. -/
theorem split_exact_zero :
    (∃ k, Text.of "a.b.01.f" =
      joinParts (Text.of "a.b") (List.replicate k 0 ++ digits 1) (Text.of "f")) ∧
    Text.of "a.b.01.f\n" ∉ Pattern.qualified := by
  have hzero : split (Text.of "a.b.01.f") =
      .ok (some ⟨⟨Text.of "a.b", by decide⟩, 1, ⟨Text.of "f", by decide⟩⟩) := rfl
  have hfeed : split (Text.of "a.b.01.f\n") = .ok none := rfl
  obtain ⟨-, -, -, -, hzeros, -⟩ := split_exact (Text.of "a.b.01.f")
  obtain ⟨-, -, -, hnone, -, -⟩ := split_exact (Text.of "a.b.01.f\n")
  exact ⟨hzeros _ hzero, hnone.mp hfeed⟩

end QualifiedName

end JsonRpc
