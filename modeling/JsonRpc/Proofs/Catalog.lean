/-
The catalog as tables.

All that resolving asks of a catalog is which number is published under a namespace (`numberOf`) and
which method a numbered service has under a name (`methodOf`).  Publishing asks for the namespace of a
number (`spaceOf`).  Each operation on the catalog changes one of the three tables at one place.
-/
import JsonRpc.Catalog
import JsonRpc.Proofs.Chain
import JsonRpc.Proofs.Entries
import JsonRpc.Proofs.Name

namespace JsonRpc

variable {H : Type}

theorem Service.method?_setEntry (s : Service H) (name : MethodName) (m : Method H) (t : Text) :
    { s with methods := setEntry name m s.methods }.method? t =
      if name.text = t then some m else s.method? t :=
  find?_setEntry (fun _ _ => MethodName.ext) t

namespace Catalog

/-! ## The tables -/

/-- The namespace of a numbered service. -/
def spaceOf (c : Catalog H) (number : Nat) : Option Text :=
  (c.services[number]?).map fun s => s.space.text

/-- The number of the service published under a namespace. -/
def numberOf (c : Catalog H) (space : Text) : Option Nat :=
  (c.published.find? fun e => e.1.text = space).map Prod.snd

/-- The method of a name in a numbered service. -/
def methodOf (c : Catalog H) (number : Nat) (name : Text) : Option (Method H) :=
  (c.services[number]?).bind fun s => s.method? name

theorem published?_eq (c : Catalog H) (space : Text) :
    c.published? space = (c.numberOf space).bind fun k => c.services[k]? := by
  rw [published?, numberOf]
  cases c.published.find? fun e => e.1.text = space <;> rfl

theorem exists_of_numberOf {c : Catalog H} {space : Text} {k : Nat}
    (h : c.numberOf space = some k) : ∃ n : Namespace, n.text = space := by
  rw [numberOf, Option.map_eq_some_iff] at h
  obtain ⟨e, he, -⟩ := h
  exact ⟨e.1, by simpa using List.find?_some he⟩

theorem exists_of_methodOf {c : Catalog H} {k : Nat} {name : Text} {m : Method H}
    (h : c.methodOf k name = some m) : ∃ n : MethodName, n.text = name := by
  rw [methodOf, Option.bind_eq_some_iff] at h
  obtain ⟨s, -, h⟩ := h
  rw [Service.method?, Option.map_eq_some_iff] at h
  obtain ⟨e, he, -⟩ := h
  exact ⟨e.1, by simpa using List.find?_some he⟩

/-! ## A new service -/

theorem getElem?_add (c : Catalog H) (s : Service H) (k : Nat) :
    (c.add s).1.services[k]? = if k = (c.add s).2 then some s else c.services[k]? :=
  getElem?_concat c.services s k

/-- A new service has a number that was nobody's, and everybody else the one from before. -/
theorem spaceOf_add_eq_some_iff {c : Catalog H} {s : Service H} {k : Nat} {t : Text} :
    (c.add s).1.spaceOf k = some t ↔
      k = (c.add s).2 ∧ t = s.space.text ∨ c.spaceOf k = some t := by
  rw [spaceOf, getElem?_add]
  by_cases hk : k = (c.add s).2
  · have hnone : c.spaceOf k = none := by
      subst hk
      show (c.services[c.services.length]?).map _ = none
      rw [List.getElem?_eq_none (Nat.le_refl _)]
      rfl
    rw [if_pos hk, hnone, Option.map_some, Option.some.injEq]
    simp [hk, eq_comm]
  · rw [if_neg hk]
    show c.spaceOf k = some t ↔ _
    simp [hk]

theorem methodOf_add (c : Catalog H) (space : Namespace) (k : Nat) (name : Text) :
    (c.add ⟨space, []⟩).1.methodOf k name = c.methodOf k name := by
  rw [methodOf, getElem?_add]
  split
  · rename_i hk
    subst hk
    have hnone : c.services[(c.add ⟨space, []⟩).2]? = none := List.getElem?_eq_none (Nat.le_refl _)
    rw [methodOf, hnone]
    rfl
  · rfl

/-! ## A method registered -/

/-- What a registration that went well leaves. -/
theorem register_eq_ok {c : Catalog H} {k : Nat} {s : Service H} {name : Text} {m : Method H}
    {r : Registration (Catalog H)} (hs : c.services[k]? = some s)
    (h : c.register k name m = .ok r) :
    ∃ n : MethodName, n.text = name ∧
      r.holder = { c with
        services := c.services.set k { s with methods := setEntry n m s.methods } } ∧
      (r.fault = none ↔ (digits m.arity.natAbs).length ≤ digitLimit) := by
  simp only [register, hs] at h
  obtain ⟨r', hr', h⟩ := bind_eq_ok_iff.mp h
  obtain rfl := Except.ok.inj h
  rw [Service.register] at hr'
  cases hn : MethodName.ofText? name with
  | none =>
      rw [hn] at hr'
      exact absurd hr' (by simp)
  | some n =>
      refine ⟨n, MethodName.text_of_ofText? hn, ?_⟩
      by_cases hlimit : (digits m.arity.natAbs).length ≤ digitLimit
      · simp only [hn, writeInt, if_pos hlimit] at hr'
        obtain rfl := Except.ok.inj hr'
        exact ⟨rfl, iff_of_true rfl hlimit⟩
      · simp only [hn, writeInt, if_neg hlimit] at hr'
        obtain rfl := Except.ok.inj hr'
        exact ⟨rfl, iff_of_false (by simp) hlimit⟩

section Register

variable {c : Catalog H} {k : Nat} {name : Text} {m : Method H} {s : Service H}
  {r : Registration (Catalog H)}

theorem getElem?_register {n : MethodName} (hs : c.services[k]? = some s) (k' : Nat) :
    (c.services.set k { s with methods := setEntry n m s.methods })[k']? =
      if k = k' then some { s with methods := setEntry n m s.methods } else c.services[k']? := by
  obtain ⟨hk, -⟩ := List.getElem?_eq_some_iff.mp hs
  rw [List.getElem?_set, if_pos hk]

theorem spaceOf_register (hs : c.services[k]? = some s) (h : c.register k name m = .ok r)
    (k' : Nat) : r.holder.spaceOf k' = c.spaceOf k' := by
  obtain ⟨n, -, hr, -⟩ := register_eq_ok hs h
  rw [hr, spaceOf, getElem?_register hs]
  split
  · rename_i hk
    subst hk
    rw [spaceOf, hs]
    rfl
  · rfl

theorem numberOf_register (hs : c.services[k]? = some s) (h : c.register k name m = .ok r)
    (space : Text) : r.holder.numberOf space = c.numberOf space := by
  obtain ⟨n, -, hr, -⟩ := register_eq_ok hs h
  rw [hr]
  rfl

theorem methodOf_register (hs : c.services[k]? = some s) (h : c.register k name m = .ok r)
    (k' : Nat) (t : Text) :
    r.holder.methodOf k' t = if k = k' ∧ name = t then some m else c.methodOf k' t := by
  obtain ⟨n, rfl, hr, -⟩ := register_eq_ok hs h
  rw [hr, methodOf, getElem?_register hs]
  by_cases hk : k = k'
  · subst hk
    rw [if_pos rfl, Option.bind_some, methodOf, hs, Option.bind_some]
    rw [Service.method?_setEntry]
    by_cases ht : n.text = t
    · rw [if_pos ht, if_pos ⟨rfl, ht⟩]
    · rw [if_neg ht, if_neg fun hand => ht hand.2]
  · rw [if_neg hk, if_neg fun hand => hk hand.1]
    rfl

end Register

/-! ## A service published -/

section Publish

variable {c : Catalog H} {k : Nat} {s : Service H}

theorem services_publish (c : Catalog H) (k : Nat) : (c.publish k).1.services = c.services := by
  rw [publish]
  split
  · rfl
  · rfl

theorem numberOf_publish (hs : c.services[k]? = some s) (space : Text) :
    (c.publish k).1.numberOf space =
      if c.spaceOf k = some space then some k else c.numberOf space := by
  simp only [publish, hs, spaceOf, Option.map_some, Option.some.injEq]
  exact find?_setEntry (fun _ _ => Namespace.ext) space

end Publish

/-! ## Resolving -/

open QualifiedName

/-- A name put together from a namespace, a version and a method name stands for the method that the
tables lead to. -/
theorem resolve_joinParts (c : Catalog H) (space name : Text) {version : List (Fin 10)}
    (hne : version ≠ []) (hlimit : version.length ≤ digitLimit) :
    c.resolve (joinParts space version name) =
      match (c.numberOf space).bind fun k => c.methodOf k name with
      | none => .error (.notFound (joinParts space version name))
      | some m => .ok m := by
  rw [resolve, split_joinParts hne hlimit]
  cases hfound : (c.numberOf space).bind fun k => c.methodOf k name with
  | some m =>
      -- what the tables have entries for is a namespace and a method name
      obtain ⟨k, hk, hm⟩ := Option.bind_eq_some_iff.mp hfound
      obtain ⟨s, rfl⟩ := exists_of_numberOf hk
      obtain ⟨n, rfl⟩ := exists_of_methodOf hm
      have hpublished : (c.published? s.text).bind (·.method? n.text) = some m := by
        rw [published?_eq, Option.bind_assoc]
        exact hfound
      simp only [MethodName.ofText?_text, Namespace.ofText?_text, Option.bind_some,
        Option.map_some, hpublished]
  | none =>
      cases hn : MethodName.ofText? name with
      | none => rfl
      | some n =>
          cases hs : Namespace.ofText? space with
          | none => rfl
          | some s =>
              have hpublished : (c.published? s.text).bind (·.method? n.text) = none := by
                rw [MethodName.text_of_ofText? hn, Namespace.text_of_ofText? hs, published?_eq,
                  Option.bind_assoc]
                exact hfound
              simp only [Option.bind_some, Option.map_some, hpublished]

/-- A name that stands for nothing is named as it was given. -/
theorem eq_of_resolve_eq_notFound {c : Catalog H} {method name : Text}
    (h : c.resolve method = .error (.notFound name)) : name = method := by
  rw [resolve] at h
  split at h
  · exact absurd h (by simp)
  · exact (ResolveError.notFound.inj (Except.error.inj h)).symm
  · split at h
    · exact (ResolveError.notFound.inj (Except.error.inj h)).symm
    · exact absurd h (by simp)

end Catalog

end JsonRpc
