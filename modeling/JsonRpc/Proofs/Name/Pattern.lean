/-
Names as languages.

An identifier, a namespace and a qualified name are put together from classes of characters by
concatenation and repetition, as a regular expression would do it.  A text is one of them if the whole
of it is in the language.  `Text.isIdentifier` and `Text.isNamespace` decide the first two; for qualified
names it is shown that a text in the language has the parts that one would expect, and the module that
takes names apart goes on from there.

A language does not say which characters of a text belong to which part.  For a dotted name this comes
out as follows: the repeated part contributes any number of segments, each with its dot in front
(`mem_dotted_iff`), and these are the segments that the text has between its dots.
-/
import JsonRpc.Proofs.Name
import JsonRpc.Proofs.Text.Digits
import Mathlib.Computability.Language

namespace JsonRpc

open scoped Computability

namespace Pattern

/-- One character of a class. -/
def oneOf (p : CodePoint → Bool) : Language CodePoint := {t | ∃ c, p c = true ∧ t = [c]}

def dot : Language CodePoint := {Text.of "."}

/-- A letter or an underscore, and any number of these and of digits behind it. -/
def identifier : Language CodePoint :=
  oneOf Text.isIdentifierStart * (oneOf Text.isIdentifierPart)∗

/-- Identifiers with dots between them. -/
def dotted : Language CodePoint := identifier * (dot * identifier)∗

/-- One digit or more. -/
def version : Language CodePoint := oneOf CodePoint.isDigit * (oneOf CodePoint.isDigit)∗

/-- Identifiers, a version and one more identifier, with dots between them. -/
def qualified : Language CodePoint := dotted * dot * version * dot * identifier

/-! ## Classes -/

theorem mem_oneOf_mul_iff {p : CodePoint → Bool} {l : Language CodePoint} {t : Text} :
    t ∈ oneOf p * l ↔ ∃ c rest, t = c :: rest ∧ p c = true ∧ rest ∈ l := by
  rw [Language.mem_mul]
  constructor
  · rintro ⟨_, ⟨c, hc, rfl⟩, rest, hrest, rfl⟩
    exact ⟨c, rest, rfl, hc, hrest⟩
  · rintro ⟨c, rest, rfl, hc, hrest⟩
    exact ⟨[c], ⟨c, hc, rfl⟩, rest, hrest, rfl⟩

theorem mem_oneOf_kstar_iff {p : CodePoint → Bool} {t : Text} :
    t ∈ (oneOf p)∗ ↔ ∀ c ∈ t, p c = true := by
  rw [Language.mem_kstar]
  constructor
  · rintro ⟨pieces, rfl, hpieces⟩ c hc
    obtain ⟨piece, hpiece, hc⟩ := List.mem_flatten.mp hc
    obtain ⟨e, he, rfl⟩ := hpieces piece hpiece
    exact List.mem_singleton.mp hc ▸ he
  · intro h
    refine ⟨t.map fun c => [c], ?_, ?_⟩
    · rw [← List.flatMap_def, List.flatMap_singleton']
    intro piece hpiece
    obtain ⟨c, hc, rfl⟩ := List.mem_map.mp hpiece
    exact ⟨c, h c hc, rfl⟩

theorem mem_mul_dot_iff {l m : Language CodePoint} {t : Text} :
    t ∈ l * dot * m ↔ ∃ a ∈ l, ∃ b ∈ m, t = a ++ .ofChar '.' :: b := by
  rw [Language.mem_mul]
  constructor
  · rintro ⟨_, ⟨a, ha, _, rfl, rfl⟩, b, hb, rfl⟩
    exact ⟨a, ha, b, hb, by simp [Text.of]⟩
  · rintro ⟨a, ha, b, hb, rfl⟩
    exact ⟨_, ⟨a, ha, Text.of ".", rfl, rfl⟩, b, hb, by simp [Text.of]⟩

/-! ## Names -/

theorem isIdentifier_iff {t : Text} : t.isIdentifier = true ↔ t ∈ identifier := by
  rw [identifier, mem_oneOf_mul_iff]
  simp only [mem_oneOf_kstar_iff]
  constructor
  · intro h
    obtain ⟨c, rest, ht, hc, hrest⟩ := Text.isIdentifier_cons h
    exact ⟨c, rest, ht, hc, hrest⟩
  · rintro ⟨c, rest, rfl, hc, hrest⟩
    rw [Text.isIdentifier, Bool.and_eq_true, List.all_eq_true]
    exact ⟨hc, hrest⟩

/-- Any number of identifiers, each with a dot in front. -/
theorem mem_dot_mul_kstar_iff {t : Text} :
    t ∈ (dot * identifier)∗ ↔
      ∃ ss : List Text, (∀ s ∈ ss, s.isIdentifier = true) ∧ t = ss.flatMap (.ofChar '.' :: ·) := by
  rw [Language.mem_kstar]
  constructor
  · rintro ⟨pieces, rfl, hpieces⟩
    induction pieces with
    | nil => exact ⟨[], by simp, rfl⟩
    | cons piece pieces ih =>
        rw [List.forall_mem_cons] at hpieces
        obtain ⟨⟨_, rfl, s, hs, rfl⟩, hpieces⟩ := hpieces
        obtain ⟨ss, hss, hflatten⟩ := ih hpieces
        refine ⟨s :: ss, List.forall_mem_cons.mpr ⟨isIdentifier_iff.mpr hs, hss⟩, ?_⟩
        rw [List.flatten_cons, hflatten, List.flatMap_cons]
        rfl
  · rintro ⟨ss, hss, rfl⟩
    refine ⟨ss.map (.ofChar '.' :: ·), List.flatMap_def .., ?_⟩
    intro piece hpiece
    obtain ⟨s, hs, rfl⟩ := List.mem_map.mp hpiece
    exact ⟨Text.of ".", rfl, s, isIdentifier_iff.mp (hss s hs), rfl⟩

theorem ofSegments_eq_append (s : Text) (ss : List Text) :
    Text.ofSegments (s :: ss) = s ++ ss.flatMap (.ofChar '.' :: ·) := by
  induction ss generalizing s with
  | nil => exact (List.append_nil s).symm
  | cons s' ss ih => rw [Text.ofSegments_cons s (by simp), ih, List.flatMap_cons, List.cons_append]

theorem mem_dotted_iff {t : Text} :
    t ∈ dotted ↔
      ∃ s ss, (∀ x ∈ s :: ss, x.isIdentifier = true) ∧ t = Text.ofSegments (s :: ss) := by
  rw [dotted, Language.mem_mul]
  simp only [mem_dot_mul_kstar_iff, List.forall_mem_cons, ofSegments_eq_append]
  constructor
  · rintro ⟨s, hs, _, ⟨ss, hss, rfl⟩, rfl⟩
    exact ⟨s, ss, ⟨isIdentifier_iff.mpr hs, hss⟩, rfl⟩
  · rintro ⟨s, ss, ⟨hs, hss⟩, rfl⟩
    exact ⟨s, isIdentifier_iff.mp hs, _, ⟨ss, hss, rfl⟩, rfl⟩

theorem isNamespace_iff {t : Text} : t.isNamespace = true ↔ t ∈ dotted := by
  rw [mem_dotted_iff, Text.isNamespace, List.all_eq_true]
  constructor
  · intro h
    obtain ⟨s, ss, hs⟩ := List.exists_cons_of_ne_nil (Text.segments_ne_nil t)
    refine ⟨s, ss, hs ▸ h, ?_⟩
    rw [← hs, Text.ofSegments_segments]
  · rintro ⟨s, ss, hss, rfl⟩
    rw [Text.segments_ofSegments (by simp) fun x hx => Text.not_mem_of_isIdentifier (hss x hx)]
    exact hss

theorem isMethodName_iff {t : Text} : t.isMethodName = true ↔ t ∈ identifier := isIdentifier_iff

theorem mem_digits_iff {t : Text} :
    t ∈ (oneOf CodePoint.isDigit)∗ ↔ ∃ ds : List (Fin 10), ds.map .ofDigit = t := by
  rw [mem_oneOf_kstar_iff]
  simp only [CodePoint.isDigit_iff]
  exact (Set.ext_iff.mp (Set.range_list_map CodePoint.ofDigit) t).symm

theorem mem_version_iff {t : Text} :
    t ∈ version ↔ ∃ ds : List (Fin 10), ds ≠ [] ∧ t = ds.map .ofDigit := by
  rw [version, mem_oneOf_mul_iff]
  simp only [mem_digits_iff, CodePoint.isDigit_iff]
  constructor
  · rintro ⟨_, _, rfl, ⟨d, rfl⟩, ds, rfl⟩
    exact ⟨d :: ds, by simp, rfl⟩
  · rintro ⟨ds, hds, rfl⟩
    obtain ⟨d, ds, rfl⟩ := List.exists_cons_of_ne_nil hds
    exact ⟨.ofDigit d, ds.map .ofDigit, rfl, ⟨d, rfl⟩, ds, rfl⟩

theorem mem_qualified_iff {t : Text} :
    t ∈ qualified ↔ ∃ space ds name, QualifiedName.IsMadeOf t space ds name := by
  simp only [qualified, mem_mul_dot_iff, mem_version_iff]
  constructor
  · rintro ⟨_, ⟨space, hspace, _, ⟨ds, hds, rfl⟩, rfl⟩, name, hname, rfl⟩
    refine ⟨space, ds, name, isNamespace_iff.mpr hspace, hds, isMethodName_iff.mpr hname, ?_⟩
    simp [QualifiedName.joinParts, Text.of]
  · rintro ⟨space, ds, name, hspace, hds, hname, rfl⟩
    refine ⟨_, ⟨space, isNamespace_iff.mp hspace, _, ⟨ds, hds, rfl⟩, rfl⟩, name,
      isMethodName_iff.mp hname, ?_⟩
    simp [QualifiedName.joinParts, Text.of]

end Pattern

end JsonRpc
