/-
Whole numbers in the calculator.

A request for `add` on whole numbers is answered with their sum, and one for `sub` with the difference of
the first two parameters if these are whole numbers.  Both are exact, and neither the order of the summands
nor the version in the name of the method makes a difference.  Only the result has a say in whether there is
one: it is not put on the wire if it has too many digits (`Calculator.reportOf`).

On the way the parameters are written to the log, and those of `sub` that are ignored are among them.  If one
of these is nested too deep for that, an internal error is reported (`Calculator.reportOfDifference`).  A
message that is nested deeper still is not read at all, and has no answer.
-/
import JsonRpc.Handler
import JsonRpc.Proofs.Calculator
import JsonRpc.Proofs.StrictReply
import JsonRpc.Proofs.Version
import Mathlib.Algebra.BigOperators.Group.List.Basic

namespace JsonRpc

open Json

namespace Calculator

/-- The whole number has a text. -/
def IsShort (n : Int) : Prop := (digits n.natAbs).length ≤ digitLimit

instance (n : Int) : Decidable (IsShort n) := inferInstanceAs (Decidable (_ ≤ _))

theorem isShort_of_lt {n : Int} (h : n.natAbs < 10) : IsShort n := by
  rw [IsShort, digits_of_lt h]
  show 1 ≤ digitLimit
  decide

/-! ## The service -/

section
variable {H : Type}

/-- The name of an operation, as one that a method can have. -/
def Operation.methodName (op : Operation) : MethodName := ⟨op.name, by cases op <;> decide⟩

/-- The method that an operation is registered as. -/
def Operation.method (handler : Operation → H) (op : Operation) : Method H := ⟨1, handler op, true⟩

theorem exists_register (s : Service H) (handler : Operation → H) (op : Operation) :
    ∃ log, s.register op.name (op.method handler) =
      .ok ⟨{ s with methods := setEntry op.methodName (op.method handler) s.methods }, log, none⟩ := by
  have hone : IsShort 1 := isShort_of_lt (by decide)
  have hwrite : writeInt 1 = .ok (Text.ofInt 1) := if_pos hone
  have hname : MethodName.ofText? op.name = some op.methodName := op.methodName.ofText?_text
  refine ⟨s.replacementLog op.methodName ++ [s.registrationLine op.methodName (Text.ofInt 1)], ?_⟩
  simp only [Service.register, hname, Operation.method, hwrite]

theorem method?_service (handler : Operation → H) (op : Operation) :
    (service handler).1.method? op.name = some (op.method handler) := by
  obtain ⟨log, hadd⟩ := exists_register ⟨space, []⟩ handler .add
  obtain ⟨log', hsub⟩ := exists_register
    ⟨space, setEntry Operation.add.methodName (Operation.add.method handler) []⟩ handler .sub
  have hservice : (service handler).1 = ⟨space, setEntry Operation.sub.methodName
      (Operation.sub.method handler)
        (setEntry Operation.add.methodName (Operation.add.method handler) [])⟩ := by
    simp only [Operation.method] at hadd hsub
    simp only [service, List.foldl_cons, List.foldl_nil, hadd, hsub, Operation.method]
  rw [hservice]
  cases op <;> rfl

end

end Calculator

open Calculator

/-- The dispatcher has the calculator, and takes any number of parameters. -/
structure Dispatcher.HasCalculator (d : Dispatcher Handler) : Prop where
  published : ∃ handler : Operation → Handler,
    (∀ op, (handler op).behaviour = .calculate op) ∧
      d.catalog.published? space.text = some (service handler).1
  lenient : d.strictArity = false

namespace Calculator

/-! ## Requests -/

/-- The name of an operation in requests, with a version of these digits. -/
def Operation.qualified (op : Operation) (version : List (Fin 10)) : Text :=
  QualifiedName.joinParts space.text version op.name

variable {d : Dispatcher Handler} {op : Operation} {version : List (Fin 10)} {r : Request}

/-- With a version that can be read, the name stands for the operation. -/
theorem exists_admits (hd : d.HasCalculator) (hne : version ≠ [])
    (hlimit : version.length ≤ digitLimit) (hr : r.method = op.qualified version) :
    ∃ method, d.Admits r method ∧ method.handler.behaviour = .calculate op := by
  obtain ⟨handler, hhandler, hpublished⟩ := hd.published
  have hparts : QualifiedName.IsMadeOf (op.qualified version) space.text version op.name :=
    ⟨space.isNamespace, hne, op.methodName.isMethodName, rfl⟩
  have hshort := mt hparts.hasLongVersion_iff.mp (Nat.not_lt_of_le hlimit)
  have hname : MethodName.ofText? op.name = some op.methodName := op.methodName.ofText?_text
  have hresolve : d.catalog.resolve r.method = .ok (op.method handler) := by
    have hmethod : (service handler).1.method? op.methodName.text = some (op.method handler) :=
      method?_service handler op
    rw [hr, Operation.qualified, Catalog.resolve_of_short hne hshort, hname,
      Namespace.ofText?_text, Option.bind_some, Option.bind_some, hpublished, Option.bind_some, hmethod]
  refine ⟨op.method handler, ⟨hresolve, ?_⟩, hhandler op⟩
  rw [hd.lenient]
  simp

theorem run_calculate {handler : Handler} (h : handler.behaviour = .calculate op) (levels : Nat)
    (params : List Json) (w : Handler.World) :
    ∃ w', (Handler.run d levels handler params).run w = pure (outcome (op.call params).2, w') := by
  cases levels with
  | zero =>
      simp only [Handler.run, Handler.runWith, h]
      exact ⟨_, rfl⟩
  | succ levels =>
      simp only [Handler.run, Handler.runWith, h]
      exact ⟨_, rfl⟩

theorem serve_calculate {method : Method Handler} (hadmits : d.Admits r method)
    (hmethod : method.handler.behaviour = .calculate op) (w : Handler.World) :
    ((d.serve r).run w).1 = (r.finish (outcome (op.call r.params).2)).map Answer.response := by
  obtain ⟨w', hrun⟩ := run_calculate (d := d) hmethod (Handler.levels r.params) r.params w
  rw [Dispatcher.serve, (Dispatcher.Requested.admitted hadmits).eq]
  -- the log of the reply goes into the world, and its response is what is asked for
  cases hfinish : r.finish (outcome (op.call r.params).2) <;>
    simp only [Dispatched.complete, Dispatched.run, StateT.run_bind, hrun, pure_bind, StateT.run_pure,
      hfinish] <;>
    rfl

/-! ## Replies -/

/-- What a reply reports of a whole number: the number, unless it has no text. -/
def reportOf (n : Int) : Report :=
  if IsShort n then .result (.int n) else .error (internalError LongNumber.writing.message)

theorem finish_int (r : Request) (n : Int) :
    (r.finish (outcome (.ok (.int n)))).map Answer.response = .ok ⟨some r.id, reportOf n⟩ := by
  rw [outcome, Number.toJson, reportOf]
  by_cases hn : IsShort n
  · rw [if_pos hn, r.finish_of_hasText (hasText_int.mpr hn)]
    rfl
  · have hwrite : (Json.int n).writeNested .finite resultLimit = .error (.longNumber .writing) := by
      have hlong : writeInt n = .error .writing := if_neg hn
      rw [writeNested_atom _ _ (by simp) (by simp), writeAtom, hlong, mapError_error]
    rw [if_neg hn, Request.finish, hwrite]
    rfl

/-- What a reply reports of the difference of the first two parameters, with these behind them: the
difference, unless they are nested too deep for the log. -/
def reportOfDifference (a b : Int) (rest : List Json) : Report :=
  if (arr rest).nesting ≤ handlerLimit then reportOf (a - b)
  else .error (internalError (WriteError.message .tooDeep))

/-- A message is served as the request that it carries. -/
theorem serveMessage_of_carries {m : Message} (h : m.Carries r) : d.serveMessage m = d.serve r := by
  rw [Dispatcher.serveMessage, (Dispatcher.Received.request h).eq]
  rfl

/-- A message that is nested too deep to be read is not served. -/
theorem serveMessage_of_overNested {m : Message} {t : Text} {kind : Container} (ht : m.decode = .ok t)
    (hdeep : Grammar.OverNested false messageLimit kind t) :
    d.serveMessage m = pure (.error (.tooDeep kind)) := by
  rw [Dispatcher.serveMessage, (Dispatcher.Received.tooDeep ht hdeep).eq]

/-! ## Whole numbers among the parameters -/

section
variable {n : Int} {vs : List Json}

theorem hasShortInts_int : (Json.int n).HasShortInts ↔ IsShort n :=
  ⟨fun h => h (.int n) List.mem_cons_self n rfl, fun h => ((isPortable_int (n := 0)).mpr h).short⟩

theorem hasShortInts_cons_int :
    (arr (.int n :: vs)).HasShortInts ↔ IsShort n ∧ (arr vs).HasShortInts := by
  simp only [HasShortInts, forall_atoms_arr, List.forall_mem_cons]
  exact and_congr_left fun _ => hasShortInts_int

@[simp] theorem nesting_cons_int : (arr (.int n :: vs)).nesting = (arr vs).nesting := by
  simp only [nesting, nestingOfItems, Nat.zero_max]

end

theorem hasShortInts_ints {ns : List Int} :
    (arr (ns.map .int)).HasShortInts ↔ ∀ n ∈ ns, IsShort n := by
  induction ns with
  | nil => simp [HasShortInts, atoms, atomsOfItems]
  | cons n ns ih => rw [List.map_cons, hasShortInts_cons_int, ih, List.forall_mem_cons]

theorem nesting_ints (ns : List Int) : (arr (ns.map .int)).nesting = 1 := by
  induction ns with
  | nil => rfl
  | cons n ns ih => rw [List.map_cons, nesting_cons_int, ih]

theorem add_ints (ns : List Int) : add (ns.map .int) = .ok (.int ns.sum) := by
  have hleading : leading (ns.map .int) = ns.map .int := by
    induction ns with
    | nil => rfl
    | cons n ns ih =>
        rw [List.map_cons, leading, List.map_cons, ← ih]
        rfl
  have hnumbers : (ns.map Json.int).find? isOther = none := by
    rw [List.find?_eq_none]
    intro v hv
    obtain ⟨n, -, rfl⟩ := List.mem_map.mp hv
    simp [isOther, Number.ofJson?]
  rw [add, foldlM_accumulate, hleading, sumFrom_ints, Int.zero_add, hnumbers]
  rfl

/-! ## Requests on whole numbers -/

section
variable (hd : d.HasCalculator) (hne : version ≠ []) (hlimit : version.length ≤ digitLimit)
include hd hne hlimit

theorem serve_call (hr : r.method = op.qualified version) (w : Handler.World) :
    ((d.serve r).run w).1 = (r.finish (outcome (op.call r.params).2)).map Answer.response := by
  obtain ⟨method, hadmits, hmethod⟩ := exists_admits hd hne hlimit hr
  exact serve_calculate hadmits hmethod w

theorem serve_add {ns : List Int} (hr : r.method = Operation.add.qualified version)
    (hparams : r.params = ns.map .int) (hns : ∀ n ∈ ns, IsShort n) (w : Handler.World) :
    ((d.serve r).run w).1 = .ok ⟨some r.id, reportOf ns.sum⟩ := by
  have hnesting : (arr (ns.map .int)).nesting ≤ handlerLimit := by
    rw [nesting_ints]
    decide
  have hloggable : Loggable r.params := hparams ▸ ⟨hnesting, hasShortInts_ints.mpr hns⟩
  have hsum : Operation.add.apply r.params = .ok (.int ns.sum) := hparams ▸ add_ints ns
  rw [serve_call hd hne hlimit hr, hloggable.call, hsum, finish_int]

theorem serve_sub {a b : Int} {rest : List Json} (hr : r.method = Operation.sub.qualified version)
    (hparams : r.params = .int a :: .int b :: rest) (hshort : (arr r.params).HasShortInts)
    (w : Handler.World) :
    ((d.serve r).run w).1 = .ok ⟨some r.id, reportOfDifference a b rest⟩ := by
  have hnesting : (arr r.params).nesting = (arr rest).nesting := by
    rw [hparams, nesting_cons_int, nesting_cons_int]
  rw [serve_call hd hne hlimit hr, reportOfDifference, ← hnesting]
  by_cases hle : (arr r.params).nesting ≤ handlerLimit
  · have hloggable : Loggable r.params := ⟨hle, hshort⟩
    have hsub : Operation.sub.apply r.params = .ok (.int (a - b)) := hparams ▸ rfl
    rw [if_pos hle, hloggable.call, hsub, finish_int]
  · rw [if_neg hle, call_of_deep hshort (Nat.lt_of_not_le hle)]
    rfl

end

end Calculator

/-- The whole numbers among the parameters of a message are within the limit. -/
theorem Message.Carries.hasShortInts {m : Message} {r : Request} (h : m.Carries r) :
    (arr r.params).HasShortInts := by
  obtain ⟨t, v, -, hread, hcheck⟩ := h
  obtain ⟨ms, rfl, -, -, hparams, -⟩ := Request.check_eq_ok_iff.mp hcheck
  rcases hparams with ⟨-, hnone⟩ | hsome
  · rw [hnone]
    exact forall_atoms_arr.mpr (by simp)
  · obtain ⟨p, hmem, hp⟩ := mem_of_member? hsome
    have hshort := (forall_atoms_obj.mp (hasShortInts_of_readWith hread) p hmem).2
    rwa [hp] at hshort

namespace Calculator

variable {d : Dispatcher Handler} {version : List (Fin 10)}

/-- Requests for `add` on whole numbers are answered with the exact sum, which is zero for none and the same
in every order.  Requests for `sub` whose first two parameters are whole numbers are answered with the exact
difference of these, unless the others are nested too deep for the log.  An internal error is reported then,
and also if a sum or difference has too many digits.  It makes no difference which version is named, which
requests were served before, nor whether the request is made directly or by a message; but a message that is
nested too deep to be read has no answer. -/
theorem arithmetic_exact (hd : d.HasCalculator) (hne : version ≠ [])
    (hlimit : version.length ≤ digitLimit) (w : Handler.World) :
    (∀ (id : RequestId) (ns : List Int), (∀ n ∈ ns, IsShort n) →
      ((d.serve ⟨Operation.add.qualified version, ns.map .int, id⟩).run w).1 =
        .ok ⟨some id, reportOf ns.sum⟩ ∧
      ∀ ns' : List Int, ns'.Perm ns →
        ((d.serve ⟨Operation.add.qualified version, ns'.map .int, id⟩).run w).1 =
          .ok ⟨some id, reportOf ns.sum⟩) ∧
    (∀ id : RequestId, ((d.serve ⟨Operation.add.qualified version, [], id⟩).run w).1 =
      .ok ⟨some id, .result (.int 0)⟩) ∧
    (∀ (id : RequestId) (a b : Int) (rest : List Json), IsShort a → IsShort b →
      (arr rest).HasShortInts →
      ((d.serve ⟨Operation.sub.qualified version, .int a :: .int b :: rest, id⟩).run w).1 =
        .ok ⟨some id, reportOfDifference a b rest⟩) ∧
    ∀ m : Message,
      (∀ r, m.Carries r →
        (∀ ns : List Int, r.method = Operation.add.qualified version → r.params = ns.map .int →
          ((d.serveMessage m).run w).1 = .ok ⟨some r.id, reportOf ns.sum⟩) ∧
        ∀ a b rest, r.method = Operation.sub.qualified version →
          r.params = .int a :: .int b :: rest →
          ((d.serveMessage m).run w).1 = .ok ⟨some r.id, reportOfDifference a b rest⟩) ∧
      ∀ t kind, m.decode = .ok t → Grammar.OverNested false messageLimit kind t →
        ((d.serveMessage m).run w).1 = .error (.tooDeep kind) := by
  have hadd (id : RequestId) (ns : List Int) (hns : ∀ n ∈ ns, IsShort n) :
      ((d.serve ⟨Operation.add.qualified version, ns.map .int, id⟩).run w).1 =
        .ok ⟨some id, reportOf ns.sum⟩ :=
    serve_add hd hne hlimit rfl rfl hns w
  refine ⟨?_, ?_, ?_, fun m => ⟨?_, ?_⟩⟩
  · intro id ns hns
    refine ⟨hadd id ns hns, fun ns' hperm => ?_⟩
    rw [← hperm.sum_eq]
    exact hadd id ns' fun n hn => hns n (hperm.mem_iff.mp hn)
  · intro id
    have hempty := hadd id [] (by simp)
    rwa [List.sum_nil, reportOf, if_pos (isShort_of_lt (by decide))] at hempty
  · intro id a b rest ha hb hrest
    have hshort := hasShortInts_cons_int.mpr ⟨ha, hasShortInts_cons_int.mpr ⟨hb, hrest⟩⟩
    exact serve_sub hd hne hlimit rfl rfl hshort w
  · intro r hcarries
    have hshort := hcarries.hasShortInts
    rw [serveMessage_of_carries hcarries]
    constructor
    · intro ns hr hparams
      rw [hparams, hasShortInts_ints] at hshort
      exact serve_add hd hne hlimit hr hparams hshort w
    · intro a b rest hr hparams
      exact serve_sub hd hne hlimit hr hparams hshort w
  · intro t kind ht hdeep
    rw [serveMessage_of_overNested ht hdeep]
    rfl

/-- A dispatcher with the calculator and nothing else. -/
def alone : Dispatcher Handler :=
  { catalog :=
      { services := [(service fun op => (⟨.calculate op, 0⟩ : Handler)).1]
        published := [(space, 0)] } }

/-- A whole number of as many digits as there may be. -/
def longest : Nat := 9 * 10 ^ 4299

/-- An empty list, in so many lists. -/
def brackets : Nat → Json
  | 0 => arr []
  | n + 1 => arr [brackets n]

theorem nesting_brackets (n : Nat) : (brackets n).nesting = n + 1 := by
  induction n with
  | zero => rfl
  | succ n ih => rw [brackets, nesting, nestingOfItems, nestingOfItems, ih, Nat.max_zero]

theorem hasShortInts_brackets (n : Nat) : (brackets n).HasShortInts := by
  induction n with
  | zero => exact forall_atoms_arr.mpr (by simp)
  | succ n ih => exact forall_atoms_arr.mpr (List.forall_mem_singleton.mpr ih)

theorem arithmetic_exact_longest :
    let serve (r : Request) := ((alone.serve r).run {}).1
    IsShort longest ∧
      serve ⟨Operation.add.qualified [1], [.int longest, .int longest], .int 1⟩ =
        .ok ⟨some (.int 1), .error (internalError LongNumber.writing.message)⟩ ∧
      serve ⟨Operation.add.qualified [0, 7], [.int longest, .int (-longest)], .int 1⟩ =
        .ok ⟨some (.int 1), .result (.int 0)⟩ ∧
      serve ⟨Operation.sub.qualified [1], [.int 2, .int 5, .float .nan], .int 1⟩ =
        .ok ⟨some (.int 1), .result (.int (-3))⟩ ∧
      serve ⟨Operation.sub.qualified [1], [.int 7, .int 5, brackets handlerLimit], .int 1⟩ =
        .ok ⟨some (.int 1), .error (internalError (WriteError.message .tooDeep))⟩ := by
  intro serve
  have hd : alone.HasCalculator := ⟨⟨fun op => ⟨.calculate op, 0⟩, fun _ => rfl, rfl⟩, rfl⟩
  have hlongest : IsShort longest := length_digits_le (by decide) (by decide +kernel)
  have hneg : IsShort (-longest) := by
    rw [IsShort, Int.natAbs_neg]
    exact hlongest
  have hlong : ¬ IsShort [(longest : Int), longest].sum := by
    have hpow : 10 ^ digitLimit ≤ longest + longest := by decide +kernel
    rw [List.sum_cons, List.sum_singleton, IsShort, ← Int.natCast_add, Int.natAbs_natCast]
    exact Nat.not_le_of_lt (lt_length_digits hpow)
  obtain ⟨hadd, -, hsub, -⟩ := arithmetic_exact hd (List.cons_ne_nil (1 : Fin 10) []) (by decide) {}
  obtain ⟨hadd', -⟩ := arithmetic_exact hd (List.cons_ne_nil (0 : Fin 10) [7]) (by decide) {}
  refine ⟨hlongest, ?_, ?_, ?_, ?_⟩
  · have hboth := List.forall_mem_cons.mpr ⟨hlongest, List.forall_mem_singleton.mpr hlongest⟩
    have hreply := (hadd (.int 1) [(longest : Int), longest] hboth).1
    rwa [reportOf, if_neg hlong] at hreply
  · have hboth := List.forall_mem_cons.mpr ⟨hlongest, List.forall_mem_singleton.mpr hneg⟩
    have hreply := (hadd' (.int 1) [(longest : Int), -longest] hboth).1
    rwa [List.sum_cons, List.sum_singleton, Int.add_right_neg, reportOf,
      if_pos (isShort_of_lt (by decide))] at hreply
  · have hrest : (arr [.float .nan]).HasShortInts := by simp [HasShortInts, atoms, atomsOfItems]
    have hreply := hsub (.int 1) 2 5 [.float .nan] (isShort_of_lt (by decide))
      (isShort_of_lt (by decide)) hrest
    rwa [reportOfDifference, if_pos (by decide), reportOf, if_pos (isShort_of_lt (by decide))] at hreply
  · have hrest : (arr [brackets handlerLimit]).HasShortInts :=
      hasShortInts_brackets (handlerLimit + 1)
    have hnesting : (arr [brackets handlerLimit]).nesting = handlerLimit + 1 + 1 :=
      nesting_brackets (handlerLimit + 1)
    have hdeep : ¬ (arr [brackets handlerLimit]).nesting ≤ handlerLimit := by omega
    have hreply := hsub (.int 1) 7 5 [brackets handlerLimit] (isShort_of_lt (by decide))
      (isShort_of_lt (by decide)) hrest
    rwa [reportOfDifference, if_neg hdeep] at hreply

end Calculator

end JsonRpc
