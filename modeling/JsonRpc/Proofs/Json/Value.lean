/-
Values as trees.

An induction over a value has a case for each kind of value that holds no others, and for arrays and
objects the hypothesis for all that stands in them (`ind`).

Not every value comes back as it was when its document is written and read.  A pair of surrogates is
read as one code point, and of members with the same name the last one counts; `settled` is what a
value becomes.  A value that is as it becomes is plain (`isPlain`).  A dictionary never has two
members of one name.
-/
import JsonRpc.Proofs.Entries
import JsonRpc.Proofs.Json.StringText

namespace JsonRpc.Json

mutual

theorem ind {motive : Json → Prop} (null : motive .null) (bool : ∀ b, motive (.bool b))
    (int : ∀ n, motive (.int n)) (float : ∀ x, motive (.float x)) (str : ∀ t, motive (.str t))
    (arr : ∀ vs, (∀ v ∈ vs, motive v) → motive (.arr vs))
    (obj : ∀ ms, (∀ m ∈ ms, motive m.2) → motive (.obj ms)) : ∀ v, motive v
  | .null => null
  | .bool b => bool b
  | .int n => int n
  | .float x => float x
  | .str t => str t
  | .arr vs => arr vs (indItems null bool int float str arr obj vs)
  | .obj ms => obj ms (indMembers null bool int float str arr obj ms)

theorem indItems {motive : Json → Prop} (null : motive .null) (bool : ∀ b, motive (.bool b))
    (int : ∀ n, motive (.int n)) (float : ∀ x, motive (.float x)) (str : ∀ t, motive (.str t))
    (arr : ∀ vs, (∀ v ∈ vs, motive v) → motive (.arr vs))
    (obj : ∀ ms, (∀ m ∈ ms, motive m.2) → motive (.obj ms)) :
    ∀ vs : List Json, ∀ v ∈ vs, motive v
  | [] => fun _ h => absurd h List.not_mem_nil
  | w :: ws => List.forall_mem_cons.mpr
      ⟨ind null bool int float str arr obj w, indItems null bool int float str arr obj ws⟩

theorem indMembers {motive : Json → Prop} (null : motive .null) (bool : ∀ b, motive (.bool b))
    (int : ∀ n, motive (.int n)) (float : ∀ x, motive (.float x)) (str : ∀ t, motive (.str t))
    (arr : ∀ vs, (∀ v ∈ vs, motive v) → motive (.arr vs))
    (obj : ∀ ms, (∀ m ∈ ms, motive m.2) → motive (.obj ms)) :
    ∀ ms : List (Text × Json), ∀ m ∈ ms, motive m.2
  | [] => fun _ h => absurd h List.not_mem_nil
  | (_, w) :: ms => List.forall_mem_cons.mpr
      ⟨ind null bool int float str arr obj w, indMembers null bool int float str arr obj ms⟩

end

/-! ## Atoms -/

theorem atomsOfItems_eq (vs : List Json) : atomsOfItems vs = vs.flatMap atoms := by
  induction vs with
  | nil => rfl
  | cons v vs ih => rw [atomsOfItems, ih, List.flatMap_cons]

theorem atomsOfMembers_eq (ms : List (Text × Json)) :
    atomsOfMembers ms = ms.flatMap fun m => .str m.1 :: m.2.atoms := by
  induction ms with
  | nil => rfl
  | cons m ms ih => rw [atomsOfMembers, ih, List.flatMap_cons, List.cons_append]

theorem forall_atoms_arr {p : Json → Prop} {vs : List Json} :
    (∀ a ∈ (arr vs).atoms, p a) ↔ ∀ v ∈ vs, ∀ a ∈ v.atoms, p a := by
  rw [atoms, atomsOfItems_eq]
  simp only [List.mem_flatMap]
  constructor
  · intro h v hv a ha
    exact h a ⟨v, hv, ha⟩
  · rintro h a ⟨v, hv, ha⟩
    exact h v hv a ha

theorem forall_atoms_obj {p : Json → Prop} {ms : List (Text × Json)} :
    (∀ a ∈ (obj ms).atoms, p a) ↔ ∀ m ∈ ms, p (.str m.1) ∧ ∀ a ∈ m.2.atoms, p a := by
  rw [atoms, atomsOfMembers_eq]
  simp only [List.mem_flatMap]
  constructor
  · intro h m hm
    exact ⟨h _ ⟨m, hm, List.mem_cons_self⟩, fun a ha => h a ⟨m, hm, List.mem_cons_of_mem _ ha⟩⟩
  · rintro h a ⟨m, hm, ha⟩
    rcases List.mem_cons.mp ha with rfl | ha
    · exact (h m hm).1
    · exact (h m hm).2 a ha

/-! ## Nesting -/

mutual

/-- How many arrays and objects stand in each other, those with nothing in them included. -/
def nesting : Json → Nat
  | arr vs => nestingOfItems vs + 1
  | obj ms => nestingOfMembers ms + 1
  | null | bool _ | int _ | float _ | str _ => 0

def nestingOfItems : List Json → Nat
  | [] => 0
  | v :: vs => max (nesting v) (nestingOfItems vs)

def nestingOfMembers : List (Text × Json) → Nat
  | [] => 0
  | (_, v) :: ms => max (nesting v) (nestingOfMembers ms)

end

theorem nestingOfItems_le {vs : List Json} {n : Nat} :
    nestingOfItems vs ≤ n ↔ ∀ v ∈ vs, v.nesting ≤ n := by
  induction vs with
  | nil => simp [nestingOfItems]
  | cons v vs ih => rw [nestingOfItems, Nat.max_le, ih, List.forall_mem_cons]

theorem nestingOfMembers_le {ms : List (Text × Json)} {n : Nat} :
    nestingOfMembers ms ≤ n ↔ ∀ m ∈ ms, m.2.nesting ≤ n := by
  induction ms with
  | nil => simp [nestingOfMembers]
  | cons m ms ih => rw [nestingOfMembers, Nat.max_le, ih, List.forall_mem_cons]

theorem nesting_arr_le {vs : List Json} {n : Nat} :
    (arr vs).nesting ≤ n + 1 ↔ ∀ v ∈ vs, v.nesting ≤ n := by
  rw [nesting, Nat.add_le_add_iff_right, nestingOfItems_le]

theorem nesting_obj_le {ms : List (Text × Json)} {n : Nat} :
    (obj ms).nesting ≤ n + 1 ↔ ∀ m ∈ ms, m.2.nesting ≤ n := by
  rw [nesting, Nat.add_le_add_iff_right, nestingOfMembers_le]

/-! ## Plain values -/

mutual

/-- What a value becomes when it is written and read. -/
def settled : Json → Json
  | arr vs => arr (settledItems vs)
  | obj ms => obj (ofPairs (settledMembers ms))
  | str t => str t.joined
  | null => null
  | bool b => bool b
  | int n => int n
  | float x => float x

def settledItems : List Json → List Json
  | [] => []
  | v :: vs => settled v :: settledItems vs

def settledMembers : List (Text × Json) → List (Text × Json)
  | [] => []
  | (name, v) :: ms => (name.joined, settled v) :: settledMembers ms

end

mutual

/-- No string and no name in the value has a pair of surrogates, and no object two members of one
name. -/
def isPlain : Json → Bool
  | arr vs => isPlainItems vs
  | obj ms => decide (ms.map Prod.fst).Nodup && isPlainMembers ms
  | str t => !t.hasPair
  | null | bool _ | int _ | float _ => true

def isPlainItems : List Json → Bool
  | [] => true
  | v :: vs => isPlain v && isPlainItems vs

def isPlainMembers : List (Text × Json) → Bool
  | [] => true
  | (name, v) :: ms => !name.hasPair && isPlain v && isPlainMembers ms

end

theorem settledItems_eq (vs : List Json) : settledItems vs = vs.map settled := by
  induction vs with
  | nil => rfl
  | cons v vs ih => rw [settledItems, ih, List.map_cons]

theorem settledMembers_eq (ms : List (Text × Json)) :
    settledMembers ms = ms.map fun m => (m.1.joined, m.2.settled) := by
  induction ms with
  | nil => rfl
  | cons m ms ih => rw [settledMembers, ih, List.map_cons]

theorem isPlain_arr {vs : List Json} : (arr vs).isPlain = true ↔ ∀ v ∈ vs, v.isPlain = true := by
  rw [isPlain]
  induction vs with
  | nil => simp [isPlainItems]
  | cons v vs ih => rw [isPlainItems, Bool.and_eq_true, ih, List.forall_mem_cons]

theorem isPlainMembers_iff {ms : List (Text × Json)} :
    isPlainMembers ms = true ↔ ∀ m ∈ ms, m.1.hasPair = false ∧ m.2.isPlain = true := by
  induction ms with
  | nil => simp [isPlainMembers]
  | cons m ms ih =>
      rw [isPlainMembers, Bool.and_eq_true, Bool.and_eq_true, Bool.not_eq_true', ih,
        List.forall_mem_cons]

theorem isPlain_obj {ms : List (Text × Json)} :
    (obj ms).isPlain = true ↔
      (ms.map Prod.fst).Nodup ∧ ∀ m ∈ ms, m.1.hasPair = false ∧ m.2.isPlain = true := by
  rw [isPlain, Bool.and_eq_true, decide_eq_true_eq, isPlainMembers_iff]

/-- Pairs of different names are the members that they set. -/
theorem ofPairs_of_nodup {ms : List (Text × Json)} (h : (ms.map Prod.fst).Nodup) :
    ofPairs ms = ms :=
  foldl_setEntry_of_nodup (List.nil_append ms ▸ h)

/-- Of pairs with the same name the last one counts. -/
theorem member?_ofPairs (name : Text) (pairs : List (Text × Json)) :
    member? name (ofPairs pairs) = member? name pairs.reverse := by
  have hfold : ofPairs pairs = pairs.reverse.foldr (fun p ms => setEntry p.1 p.2 ms) [] :=
    List.foldr_reverse.symm
  rw [hfold]
  induction pairs.reverse with
  | nil => rfl
  | cons p ps ih =>
      have hset (ms : List (Text × Json)) : member? name (setEntry p.1 p.2 ms) =
          if p.1 = name then some p.2 else member? name ms :=
        find?_setEntry (fun _ _ => id) name
      rw [List.foldr_cons, hset, ih]
      by_cases hname : p.1 = name <;> simp [member?, hname]

theorem settled_of_isPlain {v : Json} (h : v.isPlain = true) : v.settled = v := by
  induction v using ind with
  | null | bool _ | int _ | float _ => rfl
  | str t =>
      rw [isPlain, Bool.not_eq_true'] at h
      rw [settled, Text.joined_of_hasPair h]
  | arr vs ih =>
      rw [isPlain_arr] at h
      have hvs : vs.map settled = vs :=
        (List.map_congr_left fun v hv => ih v hv (h v hv)).trans (List.map_id vs)
      rw [settled, settledItems_eq, hvs]
  | obj ms ih =>
      rw [isPlain_obj] at h
      obtain ⟨hnames, hms⟩ := h
      have hmap : ms.map (fun m => (m.1.joined, m.2.settled)) = ms := by
        refine (List.map_congr_left fun m hm => ?_).trans (List.map_id ms)
        rw [Text.joined_of_hasPair (hms m hm).1, ih m hm (hms m hm).2]
        rfl
      rw [settled, settledMembers_eq, hmap, ofPairs_of_nodup hnames]

end JsonRpc.Json
