/-
Which operands the calculator refuses.

`add` looks at a parameter when its turn comes, and by then the numbers in front of it have been summed
(`Calculator.foldlM_accumulate`).  Their sum may fail: a sum of whole numbers that is too large cannot meet
a double-precision number, nor can what has become one meet a whole number that is too large
(`Calculator.Overflows`).  So a parameter that is no number is refused if the numbers in front of it have a
sum.  `sub` looks at both of its operands before it takes one from the other, and refuses all that are no
numbers.

Depth comes before all that.  Parameters that are nested too deep for the line in the log are not looked at
(`Calculator.call_of_deep`), and one may be too deep to be named in the error of `add`, which is made further
down.
-/
import JsonRpc.Calculator
import JsonRpc.Proofs.Chain
import JsonRpc.Proofs.Binary64.Overflow
import JsonRpc.Proofs.Json.Portable

namespace JsonRpc.Calculator

open Json

/-! ## Numbers among the parameters -/

/-- The number that a value is, if it is one. -/
def Number.ofJson? : Json → Option Number
  | .int n => some (.int n)
  | .float x => some (.float x)
  | _ => none

/-- The value is no number. -/
def isOther (v : Json) : Bool := (Number.ofJson? v).isNone

/-- The numbers in front of the first parameter that is none. -/
def leading : List Json → List Number
  | [] => []
  | v :: vs =>
    match Number.ofJson? v with
    | some n => n :: leading vs
    | none => []

variable {v : Json} {n : Number} {params : List Json}

theorem operand_of_number (h : Number.ofJson? v = some n) (levels : Nat) :
    operand levels v = .ok n := by
  cases v with
  | int | float => exact congrArg Except.ok (Option.some.inj h)
  | null | bool | str | arr | obj => exact absurd h (by simp [Number.ofJson?])

theorem operand_of_isOther (h : isOther v = true) (levels : Nat) :
    operand levels v = .error (notNumber levels v) := by
  cases v with
  | int | float => exact absurd h (by simp [isOther, Number.ofJson?])
  | null | bool | str | arr | obj => rfl

/-- What is said of a parameter that is no number and has this text. -/
def refusal (v : Json) (t : Text) : RpcError :=
  ⟨.invalidParams, Text.of "Expected a number, got " ++ t, .obj [(Text.of "value", v)]⟩

/-- A parameter that is no number is refused with its text, if there is room for it. -/
theorem notNumber_of_le {levels : Nat} (hlimit : levels ≤ nestingLimit) (hshort : v.HasShortInts)
    (h : v.nesting ≤ levels) : ∃ t, v.write = .ok t ∧ notNumber levels v = .refused (refusal v t) := by
  obtain ⟨t, ht⟩ := exists_write_iff.mpr ⟨h, hshort⟩
  refine ⟨t, writeNested_mono hlimit ht, ?_⟩
  rw [notNumber, ht]
  rfl

theorem notNumber_of_lt {levels : Nat} (hshort : v.HasShortInts) (h : levels < v.nesting) :
    notNumber levels v = .unwritable .tooDeep := by
  rw [notNumber, (write_eq_tooDeep_iff hshort).mpr h]

/-! ## Sums -/

/-- Numbers are added to a running total, from left to right. -/
def sumFrom (total : Number) (ns : List Number) : Except Error Number :=
  ns.foldlM (combine (· + ·) Binary64.add) total

theorem sumFrom_cons (total n : Number) (ns : List Number) :
    sumFrom total (n :: ns) = combine (· + ·) Binary64.add total n >>= (sumFrom · ns) :=
  List.foldlM_cons

theorem sumFrom_append (total : Number) (ns ns' : List Number) :
    sumFrom total (ns ++ ns') = sumFrom total ns >>= (sumFrom · ns') :=
  List.foldlM_append

/-- The numbers in front of the first parameter that is none are summed before it is refused. -/
theorem foldlM_accumulate (total : Number) (params : List Json) :
    params.foldlM accumulate total = sumFrom total (leading params) >>= fun sum =>
      match params.find? isOther with
      | none => .ok sum
      | some v => .error (notNumber addLimit v) := by
  induction params generalizing total with
  | nil => rfl
  | cons v vs ih =>
      rw [List.foldlM_cons, accumulate, List.find?_cons, leading]
      cases hv : Number.ofJson? v with
      | none =>
          -- nothing behind this parameter is looked at, on either side
          have hother : isOther v = true := by rw [isOther, hv]; rfl
          rw [operand_of_isOther hother, hother]
          rfl
      | some n =>
          have hother : isOther v = false := by rw [isOther, hv]; rfl
          rw [operand_of_number hv, hother, ok_bind]
          dsimp only
          rw [sumFrom_cons, bind_assoc]
          exact bind_congr ih

/-- Whole numbers have an exact sum. -/
theorem sumFrom_ints (m : Int) (ints : List Int) :
    sumFrom (.int m) (ints.map .int) = .ok (.int (m + ints.sum)) := by
  induction ints generalizing m with
  | nil => exact congrArg (fun k => Except.ok (Number.int k)) (Int.add_zero m).symm
  | cons k ints ih =>
      rw [List.map_cons, sumFrom_cons, List.sum_cons, ← Int.add_assoc]
      exact ih (m + k)

/-- The whole number is too large for a double-precision one. -/
def IsLarge (n : Int) : Prop := Binary64.overflowBound ≤ n.natAbs

instance (n : Int) : Decidable (IsLarge n) := inferInstanceAs (Decidable (_ ≤ _))

theorem toFloat_of_isLarge {n : Int} (h : IsLarge n) : toFloat n = .error .overflow := by
  rw [IsLarge, ← Binary64.ofInt?_eq_none_iff] at h
  rw [toFloat, h, Option.elim_none]

theorem exists_toFloat {n : Int} (h : ¬ IsLarge n) : ∃ x, toFloat n = .ok x := by
  rw [IsLarge, ← Binary64.ofInt?_eq_none_iff] at h
  obtain ⟨x, hx⟩ := Option.ne_none_iff_exists'.mp h
  exact ⟨x, by rw [toFloat, hx, Option.elim_some]⟩

/-- Once the total is a double-precision number, only a whole number that is too large fails. -/
theorem sumFrom_float (x : Binary64) (ns : List Number) :
    (∃ sum, sumFrom (.float x) ns = .ok sum) ∧ (∀ n, .int n ∈ ns → ¬ IsLarge n) ∨
      sumFrom (.float x) ns = .error .overflow ∧ ∃ n, .int n ∈ ns ∧ IsLarge n := by
  induction ns generalizing x with
  | nil => exact .inl ⟨⟨.float x, rfl⟩, by simp⟩
  | cons m ns ih =>
      rw [sumFrom_cons]
      -- the total stays a double-precision number, so only this number and the ones behind it matter
      cases m with
      | float y =>
          rw [combine, ok_bind]
          simpa only [List.mem_cons, reduceCtorEq, false_or] using ih (x.add y)
      | int k =>
          rw [combine]
          by_cases hk : IsLarge k
          · rw [toFloat_of_isLarge hk]
            exact .inr ⟨rfl, k, List.mem_cons_self, hk⟩
          · obtain ⟨y, hy⟩ := exists_toFloat hk
            rw [hy]
            refine (ih (x.add y)).imp (And.imp_right fun h n hn => ?_)
              (And.imp_right fun ⟨n, hn, hlarge⟩ => ⟨n, List.mem_cons_of_mem _ hn, hlarge⟩)
            rcases List.mem_cons.mp hn with heq | hn
            · exact Number.int.inj heq ▸ hk
            · exact h n hn

/-- In the sum of these numbers a whole number that is too large would have to be converted: what the ones
in front of the first double-precision number come to, or one behind it. -/
def Overflows (ns : List Number) : Prop :=
  ∃ (ints : List Int) (x : Binary64) (rest : List Number), ns = ints.map .int ++ .float x :: rest ∧
    (IsLarge ints.sum ∨ ∃ n, .int n ∈ rest ∧ IsLarge n)

/-- Numbers are all whole, or there is a first one that is not. -/
theorem exists_ints (ns : List Number) :
    ∃ ints : List Int, ns = ints.map .int ∨ ∃ x rest, ns = ints.map .int ++ .float x :: rest := by
  induction ns with
  | nil => exact ⟨[], .inl rfl⟩
  | cons m ns ih =>
      cases m with
      | float x => exact ⟨[], .inr ⟨x, ns, rfl⟩⟩
      | int k =>
          obtain ⟨ints, rfl | ⟨x, rest, rfl⟩⟩ := ih
          · exact ⟨k :: ints, .inl rfl⟩
          · exact ⟨k :: ints, .inr ⟨x, rest, rfl⟩⟩

theorem sumFrom_mixed (ints : List Int) (x : Binary64) (rest : List Number) :
    sumFrom (.int 0) (ints.map .int ++ .float x :: rest) =
      toFloat ints.sum >>= fun y => sumFrom (.float (y.add x)) rest := by
  rw [sumFrom_append, sumFrom_ints, ok_bind, sumFrom_cons, Int.zero_add, combine, bind_assoc]
  rfl

/-- Numbers have a sum, or a whole number that is too large stands in its way. -/
theorem sumFrom_cases (ns : List Number) :
    (∃ sum, sumFrom (.int 0) ns = .ok sum) ∧ ¬ Overflows ns ∨
      sumFrom (.int 0) ns = .error .overflow ∧ Overflows ns := by
  have hfails : Overflows ns → sumFrom (.int 0) ns = .error .overflow := by
    rintro ⟨ints, x, rest, rfl, h⟩
    rw [sumFrom_mixed]
    by_cases hsum : IsLarge ints.sum
    · rw [toFloat_of_isLarge hsum]
      rfl
    · obtain ⟨y, hy⟩ := exists_toFloat hsum
      obtain ⟨n, hn, hlarge⟩ := h.resolve_left hsum
      rw [hy]
      rcases sumFrom_float (y.add x) rest with ⟨-, hsmall⟩ | ⟨herror, -⟩
      · exact absurd hlarge (hsmall n hn)
      · exact herror
  -- without such a number each conversion on the way goes well
  by_cases hns : Overflows ns
  · exact .inr ⟨hfails hns, hns⟩
  · refine .inl ⟨?_, hns⟩
    obtain ⟨ints, rfl | ⟨x, rest, rfl⟩⟩ := exists_ints ns
    · exact ⟨_, sumFrom_ints 0 ints⟩
    · have hsum : ¬ IsLarge ints.sum := fun h => hns ⟨ints, x, rest, rfl, .inl h⟩
      obtain ⟨y, hy⟩ := exists_toFloat hsum
      rw [sumFrom_mixed, hy]
      rcases sumFrom_float (y.add x) rest with ⟨hok, -⟩ | ⟨-, hlarge⟩
      · exact hok
      · exact absurd ⟨ints, x, rest, rfl, .inr hlarge⟩ hns

/-! ## Refusals -/

/-- What there is in the parameters can be written, as a log line wants it. -/
structure Loggable (params : List Json) : Prop where
  nesting_le : (arr params).nesting ≤ handlerLimit
  hasShortInts : (arr params).HasShortInts

theorem Loggable.call (h : Loggable params) (op : Operation) :
    (op.call params).2 = op.apply params := by
  obtain ⟨t, ht⟩ := exists_write_iff.mpr ⟨h.nesting_le, h.hasShortInts⟩
  rw [Operation.call, ht]

/-- Parameters that are nested too deep for the log are not looked at. -/
theorem call_of_deep (hshort : (arr params).HasShortInts) (h : handlerLimit < (arr params).nesting)
    (op : Operation) : op.call params = ([], .error (.unwritable .tooDeep)) := by
  rw [Operation.call, (write_eq_tooDeep_iff hshort).mpr h]

theorem Loggable.hasShortInts_of_mem (h : Loggable params) (hv : v ∈ params) : v.HasShortInts :=
  forall_atoms_arr.mp h.hasShortInts v hv

/-- There is always room for a parameter in the error of `sub`. -/
theorem Loggable.nesting_le_of_mem (h : Loggable params) (hv : v ∈ params) :
    v.nesting ≤ subLimit := by
  have hlimit : handlerLimit = subLimit + 1 := rfl
  have hnesting := h.nesting_le
  rw [hlimit, nesting_arr_le] at hnesting
  exact hnesting v hv

/-- What `add` comes to. -/
inductive Added (params : List Json) : Except Error Number → Prop
  | sum {n : Number} : (∀ v ∈ params, isOther v = false) → ¬ Overflows (leading params) →
      Added params (.ok n)
  | overflow : Overflows (leading params) → Added params (.error .overflow)
  | refused {v : Json} {t : Text} : params.find? isOther = some v → v.nesting ≤ addLimit →
      v.write = .ok t → ¬ Overflows (leading params) → Added params (.error (.refused (refusal v t)))
  | deep {v : Json} : params.find? isOther = some v → addLimit < v.nesting →
      ¬ Overflows (leading params) → Added params (.error (.unwritable .tooDeep))

theorem Loggable.added (h : Loggable params) : Added params (add params) := by
  rw [add, foldlM_accumulate]
  rcases sumFrom_cases (leading params) with ⟨⟨n, hn⟩, hfits⟩ | ⟨herror, hlarge⟩
  · rw [hn, ok_bind]
    cases hv : params.find? isOther with
    | none =>
        have hnumbers := List.find?_eq_none.mp hv
        exact .sum (fun v hv => Bool.eq_false_iff.mpr (hnumbers v hv)) hfits
    | some v =>
        have hshort := h.hasShortInts_of_mem (List.mem_of_find?_eq_some hv)
        dsimp only
        rcases Nat.lt_or_ge addLimit v.nesting with hdeep | hroom
        · rw [notNumber_of_lt hshort hdeep]
          exact .deep hv hdeep hfits
        · obtain ⟨t, ht, hrefused⟩ := notNumber_of_le (by decide) hshort hroom
          rw [hrefused]
          exact .refused hv hroom ht hfits
  · rw [herror]
    exact .overflow hlarge

/-- What `sub` comes to. -/
inductive Subtracted (params : List Json) : Except Error Number → Prop
  | few : params.length < 2 → Subtracted params (.error (tooFew params.length))
  | refused {v : Json} {t : Text} : 2 ≤ params.length → (params.take 2).find? isOther = some v →
      v.write = .ok t → Subtracted params (.error (.refused (refusal v t)))
  | computed {m n : Number} : 2 ≤ params.length → (∀ v ∈ params.take 2, isOther v = false) →
      Subtracted params (combine (· - ·) Binary64.sub m n)

theorem exists_number (h : isOther v = false) : ∃ n, ∀ levels, operand levels v = .ok n := by
  obtain ⟨n, hn⟩ := Option.isSome_iff_exists.mp (Option.isNone_eq_false_iff.mp h)
  exact ⟨n, fun levels => operand_of_number hn levels⟩

theorem Loggable.subtracted (h : Loggable params) : Subtracted params (sub params) := by
  match params, h with
  | [], _ | [_], _ => exact .few (by simp)
  | a :: b :: rest, h =>
      have hlength : 2 ≤ (a :: b :: rest).length := by simp
      have hnotNumber (v : Json) (hv : v ∈ a :: b :: rest) :
          ∃ t, v.write = .ok t ∧ notNumber subLimit v = .refused (refusal v t) :=
        notNumber_of_le (by decide) (h.hasShortInts_of_mem hv) (h.nesting_le_of_mem hv)
      rw [sub]
      cases ha : isOther a with
      | true =>
          obtain ⟨t, ht, hrefused⟩ := hnotNumber a List.mem_cons_self
          rw [operand_of_isOther ha, hrefused]
          exact .refused hlength (by simp [ha]) ht
      | false =>
          obtain ⟨m, hm⟩ := exists_number ha
          rw [hm, ok_bind]
          cases hb : isOther b with
          | true =>
              obtain ⟨t, ht, hrefused⟩ := hnotNumber b (List.mem_cons_of_mem a List.mem_cons_self)
              rw [operand_of_isOther hb, hrefused]
              exact .refused hlength (by simp [ha, hb]) ht
          | false =>
              obtain ⟨n, hn⟩ := exists_number hb
              rw [hn, ok_bind]
              exact .computed hlength (by simp [ha, hb])

theorem toFloat_ne_refused (n : Int) (e : RpcError) : toFloat n ≠ .error (.refused e) := by
  by_cases hn : IsLarge n
  · rw [toFloat_of_isLarge hn]
    simp
  · obtain ⟨x, hx⟩ := exists_toFloat hn
    rw [hx]
    simp

/-- Two numbers that are combined are not refused. -/
theorem combine_ne_refused (exact : Int → Int → Int) (rounded : Binary64 → Binary64 → Binary64)
    (m n : Number) (e : RpcError) : combine exact rounded m n ≠ .error (.refused e) := by
  intro h
  cases m with
  | int m =>
      cases n with
      | int n => exact absurd h (by simp [combine])
      | float y =>
          rcases bind_eq_error_iff.mp h with h | ⟨x, -, h⟩
          · exact toFloat_ne_refused m e h
          · exact absurd h (by simp)
  | float x =>
      cases n with
      | int n =>
          rcases bind_eq_error_iff.mp h with h | ⟨y, -, h⟩
          · exact toFloat_ne_refused n e h
          · exact absurd h (by simp)
      | float y => exact absurd h (by simp [combine])

theorem exists_other_iff {vs : List Json} :
    (∃ v ∈ vs, isOther v = true) ↔ ∃ v, vs.find? isOther = some v := by
  rw [← Option.isSome_iff_exists, List.find?_isSome]

section
variable {result : Except Error Number} {e : RpcError}

theorem Added.refused_iff (h : Added params result) :
    (∃ e, result = .error (.refused e)) ↔
      (∃ v, params.find? isOther = some v ∧ v.nesting ≤ addLimit) ∧ ¬ Overflows (leading params) := by
  cases h with
  | sum hnumbers _ =>
      refine iff_of_false (by simp) ?_
      rintro ⟨⟨v, hv, -⟩, -⟩
      have hother := hnumbers v (List.mem_of_find?_eq_some hv)
      exact Bool.false_ne_true (hother.symm.trans (List.find?_some hv))
  | overflow hlarge => exact iff_of_false (by simp) fun h => h.2 hlarge
  | refused hv hroom _ hfits => exact iff_of_true ⟨_, rfl⟩ ⟨⟨_, hv, hroom⟩, hfits⟩
  | deep hv hdeep _ =>
      refine iff_of_false (by simp) ?_
      rintro ⟨⟨w, hw, hroom⟩, -⟩
      obtain rfl := Option.some.inj (hv.symm.trans hw)
      exact absurd hroom (Nat.not_le_of_lt hdeep)

theorem Added.overflow_iff (h : Added params result) :
    result = .error .overflow ↔ Overflows (leading params) := by
  cases h with
  | sum _ hfits => exact iff_of_false (by simp) hfits
  | overflow hlarge => exact iff_of_true rfl hlarge
  | refused _ _ _ hfits | deep _ _ hfits => exact iff_of_false (by simp) hfits

theorem Added.refusal (h : Added params result) (he : result = .error (.refused e)) :
    ∃ v t, params.find? isOther = some v ∧ v.write = .ok t ∧ e = refusal v t := by
  cases h with
  | sum | overflow | deep => exact absurd he (by simp)
  | refused hv _ ht _ => exact ⟨_, _, hv, ht, (Error.refused.inj (Except.error.inj he)).symm⟩

theorem Subtracted.refused_iff (h : Subtracted params result) :
    (∃ e, result = .error (.refused e)) ↔
      params.length < 2 ∨ ∃ v ∈ params.take 2, isOther v = true := by
  cases h with
  | few hlength => exact iff_of_true ⟨_, rfl⟩ (.inl hlength)
  | refused _ hv _ => exact iff_of_true ⟨_, rfl⟩ (.inr (exists_other_iff.mpr ⟨_, hv⟩))
  | computed hlength hnumbers =>
      refine iff_of_false (fun ⟨e, he⟩ => combine_ne_refused _ _ _ _ e he) ?_
      rintro (hfew | ⟨v, hv, hother⟩)
      · omega
      · exact Bool.false_ne_true ((hnumbers v hv).symm.trans hother)

theorem Subtracted.refusal (h : Subtracted params result) (he : result = .error (.refused e)) :
    params.length < 2 ∧ Error.refused e = tooFew params.length ∨
      2 ≤ params.length ∧ ∃ v t, (params.take 2).find? isOther = some v ∧ v.write = .ok t ∧
        e = refusal v t := by
  cases h with
  | few hlength => exact .inl ⟨hlength, (Except.error.inj he).symm⟩
  | refused hlength hv ht =>
      exact .inr ⟨hlength, _, _, hv, ht, (Error.refused.inj (Except.error.inj he)).symm⟩
  | computed => exact absurd he (combine_ne_refused _ _ _ _ e)

end

/-- The method refuses the parameters for this reason. -/
def Operation.Refuses (op : Operation) (params : List Json) (e : RpcError) : Prop :=
  (op.call params).2 = .error (.refused e)

theorem Loggable.refuses_iff (h : Loggable params) {op : Operation} {e : RpcError} :
    op.Refuses params e ↔ op.apply params = .error (.refused e) := by
  rw [Operation.Refuses, h.call op]

/-- `add` refuses parameters exactly if there is one that is no number, the first of these can be named, and
the numbers in front of it have a sum; if they have none, it fails without a word about the parameter.
`sub` refuses parameters exactly if there are fewer than two or one of the first two is no number.  Either
says which is the first that it refuses.  Parameters that are nested too deep for the log are refused by
neither. -/
theorem refuses_exactly {params : List Json} (hshort : (arr params).HasShortInts) :
    ((∃ e, Operation.add.Refuses params e) ↔ (arr params).nesting ≤ handlerLimit ∧
      (∃ v, params.find? isOther = some v ∧ v.nesting ≤ addLimit) ∧ ¬ Overflows (leading params)) ∧
    ((Operation.add.call params).2 = .error .overflow ↔ (arr params).nesting ≤ handlerLimit ∧
      Overflows (leading params)) ∧
    (∀ e, Operation.add.Refuses params e →
      ∃ v t, params.find? isOther = some v ∧ v.write = .ok t ∧ e = refusal v t) ∧
    ((∃ e, Operation.sub.Refuses params e) ↔ (arr params).nesting ≤ handlerLimit ∧
      (params.length < 2 ∨ ∃ v ∈ params.take 2, isOther v = true)) ∧
    ∀ e, Operation.sub.Refuses params e →
      params.length < 2 ∧ Error.refused e = tooFew params.length ∨
      2 ≤ params.length ∧ ∃ v t, (params.take 2).find? isOther = some v ∧ v.write = .ok t ∧
        e = refusal v t := by
  by_cases hnesting : (arr params).nesting ≤ handlerLimit
  · have h : Loggable params := ⟨hnesting, hshort⟩
    have hadd := h.added
    have hsub := h.subtracted
    simp only [h.refuses_iff, h.call, Operation.apply, hnesting, true_and]
    exact ⟨hadd.refused_iff, hadd.overflow_iff, fun _ => hadd.refusal, hsub.refused_iff,
      fun _ => hsub.refusal⟩
  · have hdeep := call_of_deep hshort (Nat.lt_of_not_le hnesting)
    simp only [Operation.Refuses, hdeep, hnesting, false_and, exists_false, reduceCtorEq,
      Except.error.injEq, false_imp_iff, implies_true, and_self]

/-- A whole number that is too large meets a fraction before the string behind them is looked at. -/
theorem refuses_exactly_unseen :
    let params := [.int Binary64.overflowBound, .float (.ofRatio false 1 2), .str (Text.of "x")]
    (∃ v ∈ params, isOther v = true) ∧ (¬ ∃ e, Operation.add.Refuses params e) ∧
      (Operation.add.call params).2 = .error .overflow := by
  intro params
  have hdigits : (digits (Binary64.overflowBound : Int).natAbs).length ≤ digitLimit :=
    length_digits_le (by decide) (by decide +kernel)
  have hfirst : HasShortInts (.int Binary64.overflowBound) :=
    ((isPortable_int (n := 0)).mpr hdigits).short
  have hshort : (arr params).HasShortInts :=
    forall_atoms_arr.mpr (List.forall_mem_cons.mpr ⟨hfirst, by simp [atoms]⟩)
  have hsum : IsLarge [(Binary64.overflowBound : Int)].sum := by
    rw [List.sum_singleton]
    exact Nat.le_refl _
  have hoverflows : Overflows (leading params) :=
    ⟨[(Binary64.overflowBound : Int)], .ofRatio false 1 2, [], rfl, .inl hsum⟩
  obtain ⟨hrefused, hoverflow, -⟩ := refuses_exactly hshort
  have hstr : Json.str (Text.of "x") ∈ params :=
    List.mem_cons_of_mem _ (List.mem_cons_of_mem _ List.mem_cons_self)
  refine ⟨⟨_, hstr, rfl⟩, ?_, ?_⟩
  · rw [hrefused]
    exact fun h => h.2.2 hoverflows
  · exact hoverflow.mpr ⟨by decide, hoverflows⟩

end JsonRpc.Calculator
