/-
What a table holds after a key is given a value, and a list with one more entry.
-/
import JsonRpc.Entries

namespace JsonRpc

/-- The new entry of a list is behind the others. -/
theorem getElem?_concat {A : Type} (as : List A) (a : A) (k : Nat) :
    (as ++ [a])[k]? = if k = as.length then some a else as[k]? := by
  rw [List.getElem?_append]
  by_cases hlt : k < as.length
  · rw [if_pos hlt, if_neg (Nat.ne_of_lt hlt)]
  · rw [if_neg hlt, List.getElem?_singleton, List.getElem?_eq_none (Nat.not_lt.mp hlt)]
    by_cases heq : k = as.length
    · rw [if_pos (by omega), if_pos heq]
    · rw [if_neg (by omega), if_neg heq]

variable {K V : Type} [DecidableEq K] {key : K} {value : V} {es before pairs : List (K × V)}
  {e : K × V}

theorem mem_of_mem_setEntry (h : e ∈ setEntry key value es) : e = (key, value) ∨ e ∈ es := by
  induction es with
  | nil => exact .inl (List.mem_singleton.mp h)
  | cons e' es ih =>
      rw [setEntry] at h
      split at h
      · rcases List.mem_cons.mp h with h | h
        · exact .inl h
        · exact .inr (List.mem_cons_of_mem _ h)
      · rcases List.mem_cons.mp h with rfl | h
        · exact .inr List.mem_cons_self
        · rcases ih h with h | h
          · exact .inl h
          · exact .inr (List.mem_cons_of_mem _ h)

theorem mem_of_mem_foldl_setEntry
    (h : e ∈ pairs.foldl (fun es p => setEntry p.1 p.2 es) before) : e ∈ before ∨ e ∈ pairs := by
  induction pairs generalizing before with
  | nil => exact .inl h
  | cons p pairs ih =>
      rcases ih h with h | h
      · rcases mem_of_mem_setEntry h with rfl | h
        · exact .inr List.mem_cons_self
        · exact .inl h
      · exact .inr (List.mem_cons_of_mem _ h)

/-- A new key is put behind the others. -/
theorem setEntry_of_not_mem (h : key ∉ es.map Prod.fst) :
    setEntry key value es = es ++ [(key, value)] := by
  induction es with
  | nil => rfl
  | cons e es ih =>
      rw [List.map_cons, List.mem_cons, not_or] at h
      rw [setEntry, if_neg (Ne.symm h.1), ih h.2, List.cons_append]

theorem foldl_setEntry_of_nodup (h : ((before ++ pairs).map Prod.fst).Nodup) :
    pairs.foldl (fun es p => setEntry p.1 p.2 es) before = before ++ pairs := by
  induction pairs generalizing before with
  | nil => rw [List.foldl_nil, List.append_nil]
  | cons p pairs ih =>
      have hnew : p.1 ∉ before.map Prod.fst := by
        rw [List.map_append, List.map_cons, List.nodup_append] at h
        intro hp
        exact h.2.2 _ hp _ List.mem_cons_self rfl
      have hassoc : before ++ p :: pairs = before ++ [p] ++ pairs := by simp
      -- the key is new, so it goes behind the ones before, and the others stay new
      rw [hassoc] at h ⊢
      rw [List.foldl_cons, setEntry_of_not_mem hnew]
      exact ih h

/-- Where keys are looked up by a text of theirs, only the text of the key that was given the value
leads elsewhere than before. -/
theorem find?_setEntry {T : Type} [DecidableEq T] {text : K → T}
    (htext : ∀ k k', text k = text k' → k = k') (t : T) :
    ((setEntry key value es).find? fun e => text e.1 = t).map Prod.snd =
      if text key = t then some value else (es.find? fun e => text e.1 = t).map Prod.snd := by
  induction es with
  | nil =>
      rw [setEntry, List.find?_cons]
      by_cases ht : text key = t <;> simp [ht]
  | cons e es ih =>
      rw [setEntry]
      by_cases he : e.1 = key
      · rw [if_pos he, List.find?_cons, List.find?_cons, he]
        by_cases ht : text key = t <;> simp [ht]
      · rw [if_neg he, List.find?_cons, List.find?_cons]
        by_cases ht : text e.1 = t
        · have hne : text key ≠ t := fun hn => he (htext _ _ (ht.trans hn.symm))
          simp [ht, hne]
        · simpa [ht] using ih

end JsonRpc
