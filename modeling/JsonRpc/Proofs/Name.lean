/-
How a qualified name is taken apart.

A text is its segments with dots between them, and two texts with a dot between them have the segments
of both.  So of a namespace, a run of digits and a method name put together, the segment of digits
stands where the version is looked for unless the last text has dots in it; and if it has, that
segment stands inside of what would have to be a namespace, and a namespace has no segment that
starts with a digit.  Hence a name is taken apart where it was put together, or not at all
(`QualifiedName.parts?_eq`).
-/
import JsonRpc.Name
import JsonRpc.Proofs.Chain

namespace JsonRpc

namespace Text

/-! ## Segments -/

theorem segments_cons_dot (t : Text) : segments (.ofChar '.' :: t) = [] :: segments t := by
  simp [segments, split]

theorem segments_ne_nil (t : Text) : segments t ≠ [] := by
  cases t with
  | nil => simp [segments, split]
  | cons c t =>
      simp only [segments, split]
      split
      · simp
      · split <;> simp

theorem segments_cons {c : CodePoint} (hc : c ≠ '.') (t : Text) :
    ∃ s ss, segments t = s :: ss ∧ segments (c :: t) = (c :: s) :: ss := by
  obtain ⟨s, ss, hs⟩ := List.exists_cons_of_ne_nil (segments_ne_nil t)
  refine ⟨s, ss, hs, ?_⟩
  have hsplit : split (fun c => decide (c = CodePoint.ofChar '.')) t = s :: ss := hs
  simp [segments, split, hc, hsplit]

theorem segments_append (a b : Text) :
    segments (a ++ .ofChar '.' :: b) = segments a ++ segments b := by
  induction a with
  | nil => exact segments_cons_dot b
  | cons c a ih =>
      by_cases hc : c = '.'
      · subst hc
        rw [List.cons_append, segments_cons_dot, segments_cons_dot, ih, List.cons_append]
      · obtain ⟨s, ss, hs, hcons⟩ := segments_cons hc a
        obtain ⟨s', ss', hs', hcons'⟩ := segments_cons hc (a ++ .ofChar '.' :: b)
        rw [ih, hs, List.cons_append] at hs'
        obtain ⟨rfl, rfl⟩ := List.cons.inj hs'
        rw [List.cons_append, hcons', hcons, List.cons_append]

theorem ofSegments_cons (s : Text) {ss : List Text} (h : ss ≠ []) :
    ofSegments (s :: ss) = s ++ .ofChar '.' :: ofSegments ss := by
  cases ss with
  | nil => exact absurd rfl h
  | cons s' ss => simp [ofSegments, intercalate, of]

theorem ofSegments_segments (t : Text) : ofSegments (segments t) = t := by
  induction t with
  | nil => rfl
  | cons c t ih =>
      by_cases hc : c = '.'
      · subst hc
        rw [segments_cons_dot, ofSegments_cons _ (segments_ne_nil t), ih, List.nil_append]
      · obtain ⟨s, ss, hs, hcons⟩ := segments_cons hc t
        rw [hcons]
        rw [hs] at ih
        cases ss with
        | nil => rw [← ih]; rfl
        | cons s' ss =>
            rw [ofSegments_cons _ (by simp)] at ih ⊢
            rw [List.cons_append, ih]

/-- A text without a dot is its only segment. -/
theorem segments_of_not_mem {t : Text} (h : CodePoint.ofChar '.' ∉ t) : segments t = [t] := by
  induction t with
  | nil => rfl
  | cons c t ih =>
      rw [List.mem_cons, not_or] at h
      obtain ⟨s, ss, hs, hcons⟩ := segments_cons (Ne.symm h.1) t
      obtain ⟨rfl, rfl⟩ := List.cons.inj (hs.symm.trans (ih h.2))
      exact hcons

theorem not_mem_of_mem_segments {s t : Text} (h : s ∈ segments t) : CodePoint.ofChar '.' ∉ s := by
  induction t generalizing s with
  | nil =>
      obtain rfl := List.mem_singleton.mp h
      exact List.not_mem_nil
  | cons c t ih =>
      by_cases hc : c = '.'
      · subst hc
        rw [segments_cons_dot] at h
        rcases List.mem_cons.mp h with rfl | h
        · exact List.not_mem_nil
        · exact ih h
      · obtain ⟨s', ss, hs, hcons⟩ := segments_cons hc t
        rw [hcons] at h
        rw [hs] at ih
        rcases List.mem_cons.mp h with rfl | h
        · rw [List.mem_cons, not_or]
          exact ⟨Ne.symm hc, ih List.mem_cons_self⟩
        · exact ih (List.mem_cons_of_mem _ h)

/-- Segments without dots are those of their text. -/
theorem segments_ofSegments {ss : List Text} (hne : ss ≠ [])
    (h : ∀ s ∈ ss, CodePoint.ofChar '.' ∉ s) : segments (ofSegments ss) = ss := by
  induction ss with
  | nil => exact absurd rfl hne
  | cons s ss ih =>
      rw [List.forall_mem_cons] at h
      cases ss with
      | nil => exact segments_of_not_mem h.1
      | cons s' ss =>
          rw [ofSegments_cons _ (by simp), segments_append, segments_of_not_mem h.1,
            ih (by simp) h.2, List.cons_append, List.nil_append]

/-! ## Identifiers and versions -/

theorem isIdentifier_cons {t : Text} (h : t.isIdentifier = true) :
    ∃ c rest, t = c :: rest ∧ isIdentifierStart c = true ∧
      ∀ d ∈ rest, isIdentifierPart d = true := by
  cases t with
  | nil => exact absurd h (by simp [isIdentifier])
  | cons c rest =>
      rw [isIdentifier, Bool.and_eq_true, List.all_eq_true] at h
      exact ⟨c, rest, rfl, h.1, h.2⟩

theorem not_mem_of_isIdentifier {t : Text} (h : t.isIdentifier = true) :
    CodePoint.ofChar '.' ∉ t := by
  obtain ⟨c, rest, rfl, hc, hrest⟩ := isIdentifier_cons h
  intro hm
  rcases List.mem_cons.mp hm with rfl | hm
  · exact absurd hc (by decide)
  · exact absurd (hrest _ hm) (by decide)

variable {ds : List (Fin 10)}

theorem not_mem_digits (ds : List (Fin 10)) :
    CodePoint.ofChar '.' ∉ ds.map CodePoint.ofDigit := by
  intro h
  obtain ⟨d, -, hd⟩ := List.mem_map.mp h
  revert d
  decide

theorem not_isIdentifier_digits (ds : List (Fin 10)) :
    isIdentifier (ds.map CodePoint.ofDigit) = false := by
  cases ds with
  | nil => rfl
  | cons d ds =>
      have hd : isIdentifierStart (.ofDigit d) = false := by
        revert d
        decide
      rw [List.map_cons, isIdentifier, hd, Bool.false_and]

theorem spanDigits_map (ds : List (Fin 10)) :
    spanDigits (ds.map CodePoint.ofDigit) = (ds, []) := by
  induction ds with
  | nil => rfl
  | cons d ds ih => simp [spanDigits, CodePoint.digit?_ofDigit, ih]

theorem allDigits?_map (hds : ds ≠ []) : allDigits? (ds.map CodePoint.ofDigit) = some ds := by
  obtain ⟨d, ds, rfl⟩ := List.exists_cons_of_ne_nil hds
  rw [allDigits?, spanDigits_map]

end Text

/-! ## Namespaces and method names -/

theorem Namespace.ext {m n : Namespace} (h : m.text = n.text) : m = n := by
  cases m
  cases n
  exact Namespace.mk.injEq .. ▸ h

theorem MethodName.ext {m n : MethodName} (h : m.text = n.text) : m = n := by
  cases m
  cases n
  exact MethodName.mk.injEq .. ▸ h

theorem Namespace.ofText?_text (n : Namespace) : Namespace.ofText? n.text = some n :=
  dif_pos n.isNamespace

theorem MethodName.ofText?_text (n : MethodName) : MethodName.ofText? n.text = some n :=
  dif_pos n.isMethodName

theorem Namespace.text_of_ofText? {t : Text} {n : Namespace} (h : Namespace.ofText? t = some n) :
    n.text = t := by
  rw [ofText?] at h
  split at h
  · exact Option.some.inj h ▸ rfl
  · exact absurd h (by simp)

theorem MethodName.text_of_ofText? {t : Text} {n : MethodName}
    (h : MethodName.ofText? t = some n) : n.text = t := by
  rw [ofText?] at h
  split at h
  · exact Option.some.inj h ▸ rfl
  · exact absurd h (by simp)

/-! ## Qualified names -/

namespace QualifiedName

open Text

/-- A namespace, a version and a method name put together, whatever the first and the last are. -/
def joinParts (space : Text) (version : List (Fin 10)) (name : Text) : Text :=
  space ++ of "." ++ version.map CodePoint.ofDigit ++ of "." ++ name

/-- The text is a namespace, a version of these digits and a method name, with dots between them. -/
structure IsMadeOf (t space : Text) (version : List (Fin 10)) (name : Text) : Prop where
  isNamespace : space.isNamespace = true
  ne_nil : version ≠ []
  isMethodName : name.isMethodName = true
  eq_joinParts : t = joinParts space version name

variable {space name : Text} {ds : List (Fin 10)}

theorem segments_joinParts (space : Text) (ds : List (Fin 10)) (name : Text) :
    segments (joinParts space ds name) =
      segments space ++ ds.map CodePoint.ofDigit :: segments name := by
  have htext : joinParts space ds name
      = space ++ .ofChar '.' :: (ds.map CodePoint.ofDigit ++ .ofChar '.' :: name) := by
    simp [joinParts, of]
  rw [htext, segments_append, segments_append, segments_of_not_mem (not_mem_digits ds),
    List.cons_append, List.nil_append]

/-- Without a dot in the method name, the parts are found where they were put together. -/
theorem parts?_of_segments (hds : ds ≠ []) (hname : segments name = [name]) :
    parts? (joinParts space ds name) =
      (MethodName.ofText? name).bind fun method =>
        (Namespace.ofText? space).map fun space => (space, ds, method) := by
  have hrev : (segments (joinParts space ds name)).reverse
      = name :: ds.map CodePoint.ofDigit :: (segments space).reverse := by
    rw [segments_joinParts, hname]
    simp
  rw [parts?, hrev]
  simp only [allDigits?_map hds, List.reverse_reverse, ofSegments_segments]
  cases MethodName.ofText? name with
  | none => rfl
  | some method => cases Namespace.ofText? space <;> rfl

/-- Segments of which one is a run of digits are no namespace. -/
theorem ofText?_of_digits {ss : List Text} (hdots : ∀ s ∈ ss, CodePoint.ofChar '.' ∉ s)
    (hds : ds.map CodePoint.ofDigit ∈ ss) : Namespace.ofText? (ofSegments ss) = none := by
  have hne : ss ≠ [] := List.ne_nil_of_mem hds
  have hspace : ¬ (ofSegments ss).isNamespace = true := by
    rw [isNamespace, segments_ofSegments hne hdots, List.all_eq_true]
    intro h
    exact absurd (h _ hds) (by rw [not_isIdentifier_digits]; simp)
  rw [Namespace.ofText?, dif_neg hspace]

/-- With one, the version would be part of the namespace. -/
theorem parts?_of_dots {s s' : Text} {ss : List Text} (hname : segments name = s :: s' :: ss) :
    parts? (joinParts space ds name) = none := by
  have hrev : (segments (joinParts space ds name)).reverse
      = (segments name).reverse ++ ds.map CodePoint.ofDigit :: (segments space).reverse := by
    rw [segments_joinParts]
    simp
  have hlength : (segments name).reverse.length = ss.length + 2 := by
    rw [List.length_reverse, hname]
    rfl
  have hmem : ∀ t ∈ (segments name).reverse, t ∈ segments name := fun t ht => List.mem_reverse.mp ht
  -- the method name alone fills the last two places, so the version is left among the rest
  generalize (segments name).reverse = parts at hrev hlength hmem
  match parts, hlength with
  | last :: version :: before, _ =>
    have hversion : ds.map CodePoint.ofDigit ∈
        (before ++ ds.map CodePoint.ofDigit :: (segments space).reverse).reverse := by
      simp
    have hspace : Namespace.ofText?
        (ofSegments (before ++ ds.map CodePoint.ofDigit :: (segments space).reverse).reverse)
        = none := by
      refine ofText?_of_digits ?_ hversion
      intro t ht
      rw [List.mem_reverse, List.mem_append, List.mem_cons, List.mem_reverse] at ht
      rcases ht with ht | rfl | ht
      · exact not_mem_of_mem_segments (hmem t (by simp [ht]))
      · exact not_mem_digits ds
      · exact not_mem_of_mem_segments ht
    rw [parts?, hrev]
    simp only [List.cons_append, hspace]
    cases MethodName.ofText? last with
    | none => rfl
    | some method => cases allDigits? version <;> rfl

theorem parts?_eq (hds : ds ≠ []) :
    parts? (joinParts space ds name) =
      (MethodName.ofText? name).bind fun method =>
        (Namespace.ofText? space).map fun space => (space, ds, method) := by
  obtain ⟨s, ss, hs⟩ := List.exists_cons_of_ne_nil (segments_ne_nil name)
  cases ss with
  | nil =>
      refine parts?_of_segments hds ?_
      have hname := ofSegments_segments name
      rw [hs] at hname
      rw [hs, ← hname]
      rfl
  | cons s' ss =>
      have hdot : ¬ name.isMethodName = true := by
        intro h
        rw [segments_of_not_mem (not_mem_of_isIdentifier h)] at hs
        exact absurd hs (by simp)
      rw [parts?_of_dots hs, MethodName.ofText?, dif_neg hdot]
      rfl

/-- A qualified name is split where it was put together, if its ends are a namespace and a method
name. -/
theorem split_joinParts (hds : ds ≠ []) (hlimit : ds.length ≤ digitLimit) :
    split (joinParts space ds name) = .ok
      ((MethodName.ofText? name).bind fun method =>
        (Namespace.ofText? space).map fun space => ⟨space, ofDigits ds, method⟩) := by
  rw [split, parts?_eq hds]
  cases MethodName.ofText? name with
  | none => rfl
  | some method =>
      cases Namespace.ofText? space with
      | none => rfl
      | some space =>
          simp only [Option.bind_some, Option.map_some, readDigits, if_pos hlimit]
          rfl

end QualifiedName

end JsonRpc
