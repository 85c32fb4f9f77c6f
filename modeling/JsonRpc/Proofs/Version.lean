/-
The version in the name of a method.

A method is looked up by its namespace and its name.  The version between them is read as a number and
then forgotten, so it makes no difference which one is given, nor how many zeros it has in front.  But
it is read first, and a version of too many digits cannot be.  A name with such a version
(`QualifiedName.HasLongVersion`) is not reported as missing, whether or not there is a method for it:
the request is refused for a wrong value, as if one of its parameters had been wrong.

`Dispatcher.version_irrelevant` says what becomes of every method string, with long versions set apart.
-/
import JsonRpc.Proofs.Invocation
import JsonRpc.Proofs.Name.Split

namespace JsonRpc

namespace QualifiedName

variable {t space name : Text} {ds : List (Fin 10)}

/-- The text is a qualified name whose version has too many digits to be read. -/
def HasLongVersion (t : Text) : Prop :=
  ∃ space ds name, IsMadeOf t space ds name ∧ digitLimit < ds.length

theorem hasShortVersion_iff : HasShortVersion t ↔ ¬ HasLongVersion t := by
  constructor
  · rintro hshort ⟨space, ds, name, hparts, hlong⟩
    exact absurd (hshort _ _ _ hparts.parts?_eq) (Nat.not_le_of_lt hlong)
  · intro hshort s ds m hparts
    by_contra hlimit
    exact hshort ⟨_, ds, _, isMadeOf_of_parts? hparts, Nat.lt_of_not_le hlimit⟩

theorem IsMadeOf.hasLongVersion_iff (h : IsMadeOf t space ds name) :
    HasLongVersion t ↔ digitLimit < ds.length := by
  constructor
  · rintro ⟨_, ds', _, h', hlong⟩
    obtain ⟨-, rfl, -⟩ := h.unique h'
    exact hlong
  · intro hlong
    exact ⟨space, ds, name, h, hlong⟩

/-- Without a long version, a text put together from any parts is split as far as these are names. -/
theorem split_of_short (hds : ds ≠ []) (hshort : ¬ HasLongVersion (joinParts space ds name)) :
    split (joinParts space ds name) = .ok
      ((MethodName.ofText? name).bind fun method =>
        (Namespace.ofText? space).map fun space => ⟨space, ofDigits ds, method⟩) := by
  cases hm : MethodName.ofText? name with
  | none =>
      rw [split, parts?_eq hds, hm]
      rfl
  | some m =>
      cases hs : Namespace.ofText? space with
      | none =>
          rw [split, parts?_eq hds, hm, hs]
          rfl
      | some s =>
          -- only between two names does the length of the version matter
          obtain rfl := MethodName.text_of_ofText? hm
          obtain rfl := Namespace.text_of_ofText? hs
          have hparts : IsMadeOf (joinParts s.text ds m.text) s.text ds m.text :=
            ⟨s.isNamespace, hds, m.isMethodName, rfl⟩
          have hlimit := Nat.le_of_not_lt (mt hparts.hasLongVersion_iff.mpr hshort)
          rw [split_joinParts hds hlimit, hm, hs]

theorem IsMadeOf.split_of_long (h : IsMadeOf t space ds name) (hlong : digitLimit < ds.length) :
    split t = .error (.reading ds.length) := by
  rw [h.split_eq, if_neg (Nat.not_le_of_lt hlong)]

end QualifiedName

namespace Catalog

open QualifiedName

variable {H : Type} {c : Catalog H} {method space name : Text} {ds ds' : List (Fin 10)}

theorem resolve_of_long (h : IsMadeOf method space ds name) (hlong : digitLimit < ds.length) :
    c.resolve method = .error (.longVersion (.reading ds.length)) := by
  rw [resolve, h.split_of_long hlong]

/-- The namespace and the name decide which method is found. -/
theorem resolve_of_short (hds : ds ≠ []) (hshort : ¬ HasLongVersion (joinParts space ds name)) :
    c.resolve (joinParts space ds name) =
      match (MethodName.ofText? name).bind fun m => (Namespace.ofText? space).bind fun s =>
        (c.published? s.text).bind (·.method? m.text) with
      | none => .error (.notFound (joinParts space ds name))
      | some method => .ok method := by
  rw [resolve, split_of_short hds hshort]
  cases MethodName.ofText? name with
  | none => rfl
  | some m =>
      cases Namespace.ofText? space with
      | none => rfl
      | some s => rfl

/-- Names that differ in the version stand for the same method, or for none. -/
theorem resolve_version (hds : ds ≠ []) (hds' : ds' ≠ [])
    (hshort : ¬ HasLongVersion (joinParts space ds name))
    (hshort' : ¬ HasLongVersion (joinParts space ds' name)) :
    (∃ method, c.resolve (joinParts space ds name) = .ok method ∧
      c.resolve (joinParts space ds' name) = .ok method) ∨
    c.resolve (joinParts space ds name) = .error (.notFound (joinParts space ds name)) ∧
      c.resolve (joinParts space ds' name) = .error (.notFound (joinParts space ds' name)) := by
  rw [resolve_of_short hds hshort, resolve_of_short hds' hshort']
  cases (MethodName.ofText? name).bind fun m => (Namespace.ofText? space).bind fun s =>
      (c.published? s.text).bind (·.method? m.text) with
  | none => exact .inr ⟨rfl, rfl⟩
  | some method => exact .inl ⟨method, rfl, rfl⟩

theorem resolve_cases_of_short (hshort : ¬ HasLongVersion method) :
    (∃ m, c.resolve method = .ok m) ∨ c.resolve method = .error (.notFound method) := by
  by_cases h : ∃ m, c.resolve method = .ok m
  · exact .inl h
  · exact .inr (resolve_eq_notFound (hasShortVersion_iff.mpr hshort) (not_exists.mp h))

end Catalog

namespace Dispatcher

open QualifiedName

variable {H : Type}

theorem refusesAtOnce_of_longVersion {d : Dispatcher H} {r : Request} {e : LongNumber}
    (h : d.catalog.resolve r.method = .error (.longVersion e)) :
    d.RefusesAtOnce r ⟨-32602, e.message, .null⟩ := by
  refine ⟨[], fun m _ invoke => ?_⟩
  rw [(Requested.longVersion h).eq]
  rfl

/-- A method string without a long version stands for a method or is not found, and which of both does
not depend on the version.  A request is accordingly taken to its method or refused as one that is not
found.  With a long version, and only then, it is refused for a wrong value, even if there is a method
that the namespace and the name lead to. -/
theorem version_irrelevant (d : Dispatcher H) :
    (∀ method, ¬ HasLongVersion method →
      (∃ m, d.catalog.resolve method = .ok m) ∨
        d.catalog.resolve method = .error (.notFound method)) ∧
    (∀ space name ds ds', ds ≠ [] → ds' ≠ [] →
      ¬ HasLongVersion (joinParts space ds name) → ¬ HasLongVersion (joinParts space ds' name) →
        (∃ m, d.catalog.resolve (joinParts space ds name) = .ok m ∧
          d.catalog.resolve (joinParts space ds' name) = .ok m) ∨
        d.catalog.resolve (joinParts space ds name) =
            .error (.notFound (joinParts space ds name)) ∧
          d.catalog.resolve (joinParts space ds' name) =
            .error (.notFound (joinParts space ds' name))) ∧
    (∀ r : Request, ¬ HasLongVersion r.method →
      (∃ m, d.catalog.resolve r.method = .ok m) ∨
        d.RefusesAtOnce r ⟨-32601, Text.of "Method not found: " ++ r.method, .null⟩) ∧
    ∀ (r : Request) space ds name, IsMadeOf r.method space ds name → digitLimit < ds.length →
      d.catalog.resolve r.method = .error (.longVersion (.reading ds.length)) ∧
        d.RefusesAtOnce r ⟨-32602, (LongNumber.reading ds.length).message, .null⟩ := by
  refine ⟨fun _ => Catalog.resolve_cases_of_short,
    fun _ _ _ _ => Catalog.resolve_version, ?_, ?_⟩
  · intro r hshort
    rcases Catalog.resolve_cases_of_short hshort with hm | hnone
    · exact .inl hm
    · exact .inr (refusesAtOnce_of_refuse (.notFound hnone))
  · intro r space ds name hparts hlong
    have hresolve := d.catalog.resolve_of_long hparts hlong
    exact ⟨hresolve, refusesAtOnce_of_longVersion hresolve⟩

/-- The name of a registered method with a version of these digits. -/
def versioned (ds : List (Fin 10)) : Text := joinParts (Text.of "b") ds (Text.of "g")

theorem version_irrelevant_versioned :
    pair.catalog.resolve (versioned [1]) = .ok ⟨1, true, false⟩ ∧
    pair.catalog.resolve (versioned [0, 2]) = .ok ⟨1, true, false⟩ ∧
    pair.RefusesAtOnce ⟨versioned (List.replicate 4301 1), [.null], .int 1⟩
      ⟨-32602, (LongNumber.reading 4301).message, .null⟩ := by
  have hparts {ds : List (Fin 10)} (hds : ds ≠ []) :
      IsMadeOf (versioned ds) (Text.of "b") ds (Text.of "g") := ⟨by decide, hds, by decide, rfl⟩
  have hshort {ds : List (Fin 10)} (hds : ds ≠ []) (hlimit : ds.length ≤ digitLimit) :
      ¬ HasLongVersion (versioned ds) :=
    mt (hparts hds).hasLongVersion_iff.mp (Nat.not_lt_of_le hlimit)
  have hone : pair.catalog.resolve (versioned [1]) = .ok ⟨1, true, false⟩ := rfl
  obtain ⟨-, hsame, -, hrefused⟩ := version_irrelevant pair
  refine ⟨hone, ?_, ?_⟩
  · rcases hsame _ _ [1] [0, 2] (by simp) (by simp) (hshort (by simp) (by decide))
      (hshort (by simp) (by decide)) with ⟨m, hm, hm'⟩ | ⟨hnone, -⟩
    · exact hm'.trans (hm.symm.trans hone)
    · exact absurd (hone.symm.trans hnone) (by simp)
  · have hlength : (List.replicate 4301 (1 : Fin 10)).length = 4301 := List.length_replicate
    have hlong : digitLimit < (List.replicate 4301 (1 : Fin 10)).length := by
      rw [hlength]
      decide
    have hne := List.ne_nil_of_length_pos (Nat.zero_lt_of_lt hlong)
    have hrefuse := (hrefused ⟨versioned (List.replicate 4301 1), [.null], .int 1⟩ _ _ _
      (hparts hne) hlong).2
    rwa [hlength] at hrefuse

end Dispatcher

end JsonRpc
