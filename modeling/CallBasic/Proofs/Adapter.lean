import Mathlib
import CallBasic.Builtin.Adapter
/-!
# The contract of adapted builtins

A builtin adapted from a host function checks the count of its arguments against the call
shape of the function's declaration, unwraps each argument by its kind, runs the function once,
and wraps the result; a failure of the families the adapter converts becomes a fault value.
This file states that contract without the adapter's own code (`AnswersAsAdapted`) and proves
that every adapted builtin keeps it (`adapted_call_answers`):

> a wrong count, and the first argument that does not fit its kind, are reported as faults
> before the function runs, leaving the world as it was; when all arguments fit, the function
> runs once on the values they are passed as, and an error of an instance of one of the
> converted classes becomes a fault with the builtin's name and the error's text.

Which arguments fit is said by `Fits`: the number kinds need a number value, and the integer
kind a finite one, which it passes rounded toward zero (`towardZero`, the floor of the
magnitude); the text kind needs a text value; a value class needs a value of that class. The
converted classes are given by the class hierarchy (`ErrorClass.bases`, `ErrorClass.IsA`):
the adapter's flat table `ErrorClass.isConverted` is exactly the set of instances of the six
classes it names (`isConverted_iff_isA`), so a key error, a lookup error but no index error,
is not converted, while an overflow error, an arithmetic error, is.
-/

namespace CallBasic

/-! ## Classes of errors -/

namespace ErrorClass

/-- The direct base classes of each class, as the host language and the library declare
them. -/
def bases : ErrorClass → List ErrorClass
  | exception => []
  | arithmeticError | lookupError | valueError | typeError | runtimeError | attributeError
  | nameError | osError | importError | syntaxError | assertionError | basicError => [exception]
  | zeroDivisionError | overflowError | floatingPointError => [arithmeticError]
  | indexError | keyError => [lookupError]
  | unicodeEncodeError => [valueError]
  | notImplementedError | recursionError => [runtimeError]
  | fileNotFoundError | permissionError => [osError]
  | moduleNotFoundError => [importError]
  | basicParseError => [basicError]
  | basicIncompleteParse => [basicParseError]
  | basicNameError => [basicError, nameError]
  | basicArityError | basicTypeMissing | basicTypeError => [basicError, typeError]
  | basicRuntimeError => [basicError, runtimeError]
  | basicValueError => [basicError, valueError]
  | basicImportError => [basicError, importError]
  | basicModuleError => [basicImportError]

/-- An error of class `c` is an instance of class `d`: `d` is `c` or one of its bases, again
and again. -/
def IsA (c d : ErrorClass) : Prop :=
  Relation.ReflTransGen (fun a b => b ∈ a.bases) c d

/-- The classes whose instances a builtin's adapter turns into fault values, as it lists
them. -/
def convertedRoots : List ErrorClass :=
  [basicError, typeError, valueError, arithmeticError, indexError, osError]

/-- The classes reached from a class in at most `n` steps to a base. -/
def reachable : Nat → ErrorClass → List ErrorClass
  | 0, c => [c]
  | n + 1, c => c :: c.bases.flatMap (reachable n)

/-- A class reached by steps to a base is one the class is an instance of. -/
theorem isA_of_mem_reachable : ∀ (n : Nat) {c d : ErrorClass}, d ∈ reachable n c → c.IsA d
  | 0, c, d, h => by
    rw [reachable, List.mem_singleton] at h
    subst h
    exact Relation.ReflTransGen.refl
  | n + 1, c, d, h => by
    rcases List.mem_cons.mp h with rfl | h
    · exact Relation.ReflTransGen.refl
    · obtain ⟨b, hb, hd⟩ := List.mem_flatMap.mp h
      exact Relation.ReflTransGen.head hb (isA_of_mem_reachable n hd)

/-- Four steps reach every class above a class: the classes reached in four steps have all
their bases among them. -/
theorem reachable_closed (c : ErrorClass) :
    ∀ x ∈ reachable 4 c, ∀ b ∈ x.bases, b ∈ reachable 4 c := by
  cases c <;> decide

/-- Every class a class is an instance of is reached in four steps. -/
theorem mem_reachable_of_isA {c d : ErrorClass} (h : c.IsA d) : d ∈ reachable 4 c := by
  induction h with
  | refl => simp [reachable]
  | tail _ hb ih => exact reachable_closed c _ ih _ hb

theorem isA_iff_mem_reachable (c d : ErrorClass) : c.IsA d ↔ d ∈ reachable 4 c :=
  ⟨mem_reachable_of_isA, isA_of_mem_reachable 4⟩

instance (c d : ErrorClass) : Decidable (c.IsA d) :=
  decidable_of_iff _ (isA_iff_mem_reachable c d).symm

/-- The adapter's table of converted classes is the set of instances of the classes it
lists. -/
theorem isConverted_iff_isA (c : ErrorClass) :
    c.isConverted = true ↔ ∃ r ∈ convertedRoots, c.IsA r := by
  simp only [isA_iff_mem_reachable]
  cases c <;> decide

end ErrorClass

/-! ## Accepted declarations -/

/-- A computation that can fail succeeds after a first step only if the first step
succeeds. -/
theorem bind_ok_inv {ε α β : Type} {x : Except ε α} {f : α → Except ε β} {b : β}
    (h : x >>= f = .ok b) : ∃ a, x = .ok a ∧ f a = .ok b := by
  cases x with
  | error e => cases h
  | ok a => exact ⟨a, rfl, h⟩

/-- An accepted declaration has the call shape of a collector of extra values (arity `-1`,
one kind) or one kind per counted parameter. -/
theorem shape_of_ok {f : HostFunction} {op : CodeString} {s : CallShape}
    (h : CallShape.of f op = .ok s) :
    (s.arity = -1 ∧ s.inputs.length = 1) ∨ s.arity = s.inputs.length := by
  unfold CallShape.of at h
  simp only [bind, Except.bind, pure, Except.pure, Functor.map, Except.map] at h
  -- every way through the inspection either fails or ends in one of the two shapes
  repeat' split at h
  all_goals cases h
  all_goals simp

/-- What adapting a host function under a name gives: the function, the name, and the call
shape of the function's declaration. -/
theorem adapt_ok {f : HostFunction} {name : CodeString} {b : Builtin}
    (h : Builtin.adapt f name = .ok b) :
    b.fn = f ∧ b.label = name ∧
      CallShape.of f (if name.isEmpty then f.name else name) = .ok b.shape := by
  unfold Builtin.adapt at h
  obtain ⟨s, hs, h⟩ := bind_ok_inv h
  cases h
  exact ⟨rfl, rfl, hs⟩

/-! ## Unwrapping one argument -/

/-- A finite double `±m * 2^q` rounded toward zero: the floor of its magnitude, with its
sign; zero for a double that is not finite. -/
def towardZero (x : Float) : Int :=
  match Decimal.Binary.ofFloat x with
  | .finite neg m q => if neg then -(⌊(m : ℚ) * 2 ^ q⌋₊ : Int) else (⌊(m : ℚ) * 2 ^ q⌋₊ : Int)
  | _ => 0

/-- Whether an argument fits the kind it is unwrapped by: the number kinds need a number value
(the integer kind a finite one), the text kind a text value, a value class a value of that
class, and the other kinds take anything. -/
def Fits : Kind → HostValue → Prop
  | .float, v => ∃ x, v = .obj (.num x)
  | .int, v => ∃ x neg m q, v = .obj (.num x) ∧ Decimal.Binary.ofFloat x = .finite neg m q
  | .str, v => ∃ s, v = .obj (.str s)
  | .numberObject, v => ∃ x, v = .obj (.num x)
  | .stringObject, v => ∃ s, v = .obj (.str s)
  | .errorObject, v => ∃ t, v = .obj (.err t)
  | .object, _ | .any, _ | .none, _ => True

/-- The value a fitting argument is passed as: the double of a number for the double kind, the
number rounded toward zero for the integer kind, the text of a text for the text kind, the
argument itself otherwise. -/
def unwrapped : Kind → HostValue → HostValue
  | .float, .obj (.num x) => .float x
  | .int, .obj (.num x) => .int (towardZero x)
  | .str, .obj (.str s) => .str s
  | _, v => v

/-- What an argument that does not fit its kind is reported as, at its position: a number
without an integer, or the kind expected and the kind received. -/
def misfitMessage (name : CodeString) (position : Nat) (k : Kind) (v : HostValue) : CodeString :=
  let expects (what : String) : CodeString :=
    "`" ++ name ++ "` expects " ++ what ++ " at position " ++ toString position ++ ", got " ++
      v.kindName ++ "."
  match k, v with
  | .int, .obj (.num x) =>
    match Decimal.Binary.ofFloat x with
    | .nan => "cannot convert float NaN to integer"
    | _ => "cannot convert float infinity to integer"
  | .float, _ | .int, _ => expects "a number"
  | .str, _ => expects "a string"
  | .numberObject, _ => expects "NumberObject"
  | .stringObject, _ => expects "StringObject"
  | .errorObject, _ => expects "ErrorObject"
  | _, _ => ""

/-- The natural part of `m * 2^q` is the floor of `m * 2^q`. -/
theorem truncPart_eq_floor (m : Nat) (q : Int) :
    Decimal.truncPart m q = ⌊(m : ℚ) * 2 ^ q⌋₊ := by
  unfold Decimal.truncPart
  split
  next hq =>
    have : (m : ℚ) * 2 ^ q = ((m * 2 ^ q.toNat : Nat) : ℚ) := by
      rw [← Int.toNat_of_nonneg hq]
      push_cast
      rw [Int.toNat_of_nonneg hq, ← zpow_natCast, Int.toNat_of_nonneg hq]
    rw [this, Nat.floor_natCast]
  next hq =>
    have : (m : ℚ) * 2 ^ q = (m : ℚ) / ((2 ^ (-q).toNat : Nat) : ℚ) := by
      rw [div_eq_mul_inv]
      push_cast
      rw [← zpow_natCast, Int.toNat_of_nonneg (by omega), ← zpow_neg, neg_neg]
    rw [this, Nat.floor_div_eq_div]

/-- A finite double is rounded toward zero. -/
theorem truncFloat_of_finite {x : Float} {neg : Bool} {m : Nat} {q : Int}
    (h : Decimal.Binary.ofFloat x = .finite neg m q) : truncFloat x = .ok (towardZero x) := by
  simp only [truncFloat, towardZero, h, Decimal.Binary.trunc?, truncPart_eq_floor]
  cases neg <;> rfl

/-- A fitting argument is unwrapped to the value it is passed as. -/
theorem unwrapArg_of_fits {name : CodeString} {position : Nat} {k : Kind} {v : HostValue}
    (h : Fits k v) : unwrapArg name position k v = .ok (unwrapped k v) := by
  cases k with
  | float => obtain ⟨x, rfl⟩ := h; rfl
  | int =>
    obtain ⟨x, neg, m, q, rfl, hx⟩ := h
    simp [unwrapArg, unwrapped, truncFloat_of_finite hx, Except.map]
  | str => obtain ⟨s, rfl⟩ := h; rfl
  | numberObject => obtain ⟨x, rfl⟩ := h; rfl
  | stringObject => obtain ⟨s, rfl⟩ := h; rfl
  | errorObject => obtain ⟨t, rfl⟩ := h; rfl
  | object | any | none => rfl

/-- An argument unwrapped without an error fits its kind. -/
theorem fits_of_unwrapArg_ok {name : CodeString} {position : Nat} {k : Kind} {v : HostValue}
    {x : HostValue} (h : unwrapArg name position k v = .ok x) : Fits k v := by
  cases k <;> rcases v with _ | _ | _ | _ | _ | _ | _ | (y | s | t) <;>
    simp [unwrapArg, Fits] at h ⊢
  -- the integer kind on a number: only a finite double has an integer
  cases hy : Decimal.Binary.ofFloat y with
  | nan => simp [truncFloat, hy, Except.map] at h
  | inf neg => simp [truncFloat, hy, Except.map] at h
  | finite neg m q => cases neg <;> simp

/-- The fault text of an error with a message: the builtin's name, a colon and the message. -/
theorem faultText_of_message (name : CodeString) (cls : ErrorClass) (msg : CodeString)
    (hk : cls ≠ .keyError) (hm : msg.isEmpty = false) :
    faultText name ⟨cls, msg⟩ = name ++ ": " ++ msg := by
  simp [faultText, HostError.text, hk, hm]

/-- A text that starts with a non-empty text is not empty. -/
theorem isEmpty_append_of_left {a : CodeString} (b : CodeString) (h : a.isEmpty = false) :
    (a ++ b).isEmpty = false := by
  cases a with
  | mk ps =>
    cases ps with
    | nil => cases h
    | cons p ps => rfl

/-- An argument that does not unwrap is reported by a converted error whose fault text names
the builtin and the misfit. -/
theorem unwrapArg_error {name : CodeString} {position : Nat} {k : Kind} {v : HostValue}
    {e : HostError} (h : unwrapArg name position k v = .error e) :
    e.cls.isConverted = true ∧
      faultText name e = name ++ ": " ++ misfitMessage name position k v := by
  cases k <;> rcases v with _ | _ | _ | _ | _ | _ | _ | (y | s | t) <;>
    simp only [unwrapArg, Except.error.injEq, reduceCtorEq] at h
  -- the integer kind on a number that is not finite: the host's own messages
  case int.obj.num =>
    cases hy : Decimal.Binary.ofFloat y with
    | nan =>
      simp only [truncFloat, hy, Except.map, Except.error.injEq] at h
      subst h
      exact ⟨rfl, by rw [faultText_of_message _ _ _ (by decide) rfl]; simp [misfitMessage, hy]⟩
    | inf neg =>
      simp only [truncFloat, hy, Except.map, Except.error.injEq] at h
      subst h
      exact ⟨rfl, by rw [faultText_of_message _ _ _ (by decide) rfl]; simp [misfitMessage, hy]⟩
    | finite neg m q => simp [truncFloat, hy, Except.map] at h
  -- every other misfit: the kind expected and the kind received
  all_goals
    subst h
    exact ⟨rfl, faultText_of_message _ _ _ (by decide) (isEmpty_append_of_left _ rfl)⟩

/-! ## Unwrapping the arguments of a call -/

/-- Arguments that all fit are unwrapped to the values they are passed as. -/
theorem unwrapEach_of_fits (name : CodeString) :
    ∀ (position : Nat) (ks : List Kind) (vs : List HostValue), ks.length = vs.length →
      (∀ (i : Nat) (hi : i < vs.length), Fits (ks.getD i .any) vs[i]) →
      unwrapEach name position ks vs = .ok (List.zipWith unwrapped ks vs)
  | _, [], [], _, _ => rfl
  | position, k :: ks, v :: vs, hl, h => by
    have hk : Fits k v := h 0 (by simp)
    have hrest := unwrapEach_of_fits name (position + 1) ks vs (by simpa using hl)
      (fun i hi => h (i + 1) (by simp; omega))
    rw [unwrapEach, unwrapArg_of_fits hk, hrest]
    rfl
  | _, [], _ :: _, hl, _ => by simp at hl
  | _, _ :: _, [], hl, _ => by simp at hl

/-- Unwrapping stops at the first argument that does not fit, with that argument's error. -/
theorem unwrapEach_first_misfit (name : CodeString) :
    ∀ (position : Nat) (ks : List Kind) (vs : List HostValue) (i : Nat) (hi : i < vs.length),
      ks.length = vs.length → (∀ (j : Nat) (hj : j < i), Fits (ks.getD j .any) vs[j]) →
      ¬Fits (ks.getD i .any) vs[i] →
      ∃ e, unwrapEach name position ks vs = .error e ∧
        unwrapArg name (position + i) (ks.getD i .any) vs[i] = .error e
  | position, k :: ks, v :: vs, 0, _, _, _, hmis => by
    have hmis' : ¬Fits k v := hmis
    cases he : unwrapArg name position k v with
    | error e => exact ⟨e, by rw [unwrapEach, he]; rfl, by simpa using he⟩
    | ok x => exact absurd (fits_of_unwrapArg_ok he) hmis'
  | position, k :: ks, v :: vs, i + 1, hi, hl, hbefore, hmis => by
    have hk : Fits k v := hbefore 0 (by omega)
    obtain ⟨e, hrest, he⟩ := unwrapEach_first_misfit name (position + 1) ks vs i
      (by simpa using hi) (by simpa using hl)
      (fun j hj => hbefore (j + 1) (by omega)) hmis
    refine ⟨e, ?_, ?_⟩
    · rw [unwrapEach, unwrapArg_of_fits hk, hrest]
      rfl
    · simpa [Nat.add_assoc, Nat.add_comm 1 i] using he
  | _, [], _ :: _, _, _, hl, _, _ => by simp at hl

/-- The kinds the arguments of a call are unwrapped by: the one kind of a shape of arity `-1`
for every argument, else the shape's kinds in order. -/
def CallShape.kindsFor (s : CallShape) (n : Nat) : List Kind :=
  if s.arity < 0 then List.replicate n (s.inputs.headD .any) else s.inputs

/-- What a count of arguments other than the arity is reported as. -/
def countMessage (name : CodeString) (arity : Int) (supplied : Nat) : CodeString :=
  if arity = 0 then "`" ++ name ++ "` takes no arguments, got " ++ toString supplied ++ "."
  else "`" ++ name ++ "` takes " ++ toString arity ++ " argument(s), got " ++ toString supplied ++ "."

/-- A count of arguments other than a non-negative arity fails before any argument is
unwrapped. -/
theorem unwrap_of_count_mismatch (s : CallShape) (name : CodeString) (args : List HostValue)
    (h : 0 ≤ s.arity ∧ (args.length : Int) ≠ s.arity) :
    s.unwrap name args = .error ⟨.basicValueError, countMessage name s.arity args.length⟩ := by
  obtain ⟨hnn, hne⟩ := h
  unfold CallShape.unwrap countMessage
  rw [if_neg (by omega)]
  by_cases h0 : s.arity = 0
  · have hne' : args ≠ [] := fun e => hne (by simp [e, h0])
    simp [h0, hne']
  · simp only [if_neg h0]
    rw [if_pos (by omega)]

/-- With a count of arguments the shape accepts, the arguments are unwrapped one by one by
the shape's kinds. -/
theorem unwrap_of_count_ok (s : CallShape) (name : CodeString) (args : List HostValue)
    (hs : (s.arity = -1 ∧ s.inputs.length = 1) ∨ s.arity = s.inputs.length)
    (h : ¬(0 ≤ s.arity ∧ (args.length : Int) ≠ s.arity)) :
    s.unwrap name args = unwrapEach name 1 (s.kindsFor args.length) args ∧
      (s.kindsFor args.length).length = args.length := by
  unfold CallShape.unwrap CallShape.kindsFor
  by_cases hneg : s.arity < 0
  · simp [hneg]
  · have hlen : (args.length : Int) = s.arity := by omega
    have hin : s.inputs.length = args.length := by omega
    simp only [if_neg hneg, hin, and_true]
    by_cases h0 : s.arity = 0
    · have hnil : args = [] := List.eq_nil_of_length_eq_zero (by omega)
      subst hnil
      simp only [h0, if_true, List.isEmpty_nil]
      -- no argument is unwrapped, whatever the kinds
      cases s.inputs <;> rfl
    · rw [if_neg h0, if_neg (by omega)]

/-! ## Calls of a builtin -/

/-- A result lifted into a computation of a builtin leaves the world as it was. -/
theorem liftExcept_run {α : Type} (x : Except HostError α) (env : Env) (w : World) :
    ((liftExcept x).run env).run w =
      match x with
      | .ok a => .ok a w
      | .error e => .error e w := by
  cases x <;> rfl

/-- A handled computation of a builtin: a failure is handed, with the world as the failure left
it, to the handler. -/
theorem tryCatch_run {α : Type} (x : HostM α) (handler : HostError → HostM α) (env : Env)
    (w : World) :
    ((tryCatch x handler : HostM α).run env).run w =
      match (x.run env).run w with
      | .ok a w' => .ok a w'
      | .error e w' => ((handler e).run env).run w' := by
  show EStateM.tryCatch (x env) (fun e => handler e env) w = _
  simp only [EStateM.tryCatch, ReaderT.run, EStateM.run]
  rcases x env w with ⟨a, w'⟩ | ⟨e, w'⟩ <;> rfl

/-- A call of a builtin: its arguments are unwrapped, the function runs on them and its result
is wrapped; an error of a converted class at any of these steps becomes a fault value, with
the world as the error left it, and any other error passes on. -/
theorem invoke_run (b : Builtin) (args : List HostValue) (env : Env) (w : World) :
    ((b.invoke args).run env).run w =
      match b.shape.unwrap b.label args with
      | .error e => if e.cls.isConverted then .ok (.err (faultText b.label e)) w else .error e w
      | .ok values =>
        match ((b.fn.call values).run env).run w with
        | .ok r w' =>
          match wrapResult b.shape.output r with
          | .ok v => .ok v w'
          | .error e =>
            if e.cls.isConverted then .ok (.err (faultText b.label e)) w' else .error e w'
        | .error e w' =>
          if e.cls.isConverted then .ok (.err (faultText b.label e)) w' else .error e w' := by
  unfold Builtin.invoke
  rw [tryCatch_run]
  simp only [ReaderT.run_bind, EStateM.run_bind, liftExcept_run]
  cases b.shape.unwrap b.label args with
  | error e =>
    by_cases hc : e.cls.isConverted = true
    · simp [hc]
    · simp only [hc, Bool.false_eq_true, if_false]
      rfl
  | ok values =>
    simp only
    rcases ((b.fn.call values).run env).run w with ⟨r, w'⟩ | ⟨e, w'⟩
    · simp only
      cases wrapResult b.shape.output r with
      | ok v => rfl
      | error e =>
        by_cases hc : e.cls.isConverted = true
        · simp [hc]
        · simp only [hc, Bool.false_eq_true, if_false]
          rfl
    · by_cases hc : e.cls.isConverted = true
      · simp [hc]
      · simp only [hc, Bool.false_eq_true, if_false]
        rfl

/-! ## The contract of adapted builtins -/

/-- How a builtin adapted from a host function `f` under a name answers a call with
arguments, in an environment and a world. A count of arguments other than a non-negative arity
gives a fault naming the builtin, and so does the first argument that does not fit its kind;
in both cases `f` does not run and the world stays as it was. When every argument fits, `f`
runs once on the values they are passed as (the environment reaches it through its
computation), and its result is wrapped by the shape's result kind. An error of an instance of
one of the converted classes, raised by `f` or by the wrapping, becomes a fault with the
builtin's name and the error's text; any other error passes on. -/
def AnswersAsAdapted (f : HostFunction) (name : CodeString) (b : Builtin) (env : Env)
    (w : World) (args : List HostValue) : Prop :=
  let ks := b.shape.kindsFor args.length
  let answer := ((b.invoke args).run env).run w
  let handled (e : HostError) (w' : World) : EStateM.Result HostError World Value :=
    if ∃ r ∈ ErrorClass.convertedRoots, e.cls.IsA r then .ok (.err (faultText name e)) w'
    else .error e w'
  let countBad := 0 ≤ b.shape.arity ∧ (args.length : Int) ≠ b.shape.arity
  (countBad →
    answer = .ok (.err (name ++ ": " ++ countMessage name b.shape.arity args.length)) w) ∧
  (∀ (i : Nat) (hi : i < args.length), ¬countBad →
    (∀ (j : Nat) (hj : j < i), Fits (ks.getD j .any) args[j]) → ¬Fits (ks.getD i .any) args[i] →
    answer = .ok (.err (name ++ ": " ++ misfitMessage name (i + 1) (ks.getD i .any) args[i])) w) ∧
  (¬countBad → (∀ (i : Nat) (hi : i < args.length), Fits (ks.getD i .any) args[i]) →
    answer =
      match ((f.call (List.zipWith unwrapped ks args)).run env).run w with
      | .ok r w' =>
        match wrapResult b.shape.output r with
        | .ok v => .ok v w'
        | .error e => handled e w'
      | .error e w' => handled e w')

/-- A wrong count is reported with a non-empty message. -/
theorem countMessage_isEmpty (name : CodeString) (arity : Int) (supplied : Nat) :
    (countMessage name arity supplied).isEmpty = false := by
  unfold countMessage
  split <;> exact isEmpty_append_of_left _ rfl

/-- A builtin adapted from a host function answers every call as the adapter's contract
says. -/
theorem adapted_call_answers {f : HostFunction} {name : CodeString} {b : Builtin}
    (hb : Builtin.adapt f name = .ok b) (env : Env) (w : World) (args : List HostValue) :
    AnswersAsAdapted f name b env w args := by
  obtain ⟨hf, hl, hs⟩ := adapt_ok hb
  have hshape := shape_of_ok hs
  subst hf hl
  refine ⟨fun hbad => ?_, fun i hi hok hbefore hmis => ?_, fun hok hall => ?_⟩
  · -- a wrong count: the count's fault, before anything runs
    have hconv : ErrorClass.basicValueError.isConverted = true := rfl
    rw [invoke_run, unwrap_of_count_mismatch _ _ _ hbad]
    simp only [hconv, if_true, faultText_of_message _ .basicValueError _ (by decide)
      (countMessage_isEmpty _ _ _)]
  · -- the first misfit: its fault, before anything runs
    obtain ⟨hunwrap, hlen⟩ := unwrap_of_count_ok _ b.label _ hshape hok
    obtain ⟨e, he, harg⟩ := unwrapEach_first_misfit b.label 1 _ args i hi hlen hbefore hmis
    rw [Nat.add_comm] at harg
    obtain ⟨hconv, htext⟩ := unwrapArg_error harg
    rw [invoke_run, hunwrap, he]
    simp only [hconv, if_true, htext]
  · -- every argument fits: the function runs once on the unwrapped values
    obtain ⟨hunwrap, hlen⟩ := unwrap_of_count_ok _ b.label _ hshape hok
    rw [invoke_run, hunwrap, unwrapEach_of_fits b.label 1 _ args hlen hall]
    simp only [← ErrorClass.isConverted_iff_isA]

/-- A host function of a text and an integer that returns a text, as `LEFT$` is declared. -/
def leftDeclared : HostFunction :=
  HostFunction.scripted "fn_left_s" [⟨"s", .positional, some .str, none⟩,
    ⟨"n", .positional, some .int, none⟩] (some .str) (.arg 0)

/-- `LEFT$`, adapted from a host function of a text and an integer, answers a call with a text
and a number as the contract says. -/
theorem left_answers_as_adapted :
    Builtin.adapt leftDeclared "LEFT$" = .ok ⟨leftDeclared, "LEFT$", ⟨2, [.str, .int], .str, false⟩⟩ ∧
      AnswersAsAdapted leftDeclared "LEFT$" ⟨leftDeclared, "LEFT$", ⟨2, [.str, .int], .str, false⟩⟩
        ⟨"\n", .session⟩ default [.obj (.str "hello"), .obj (.num 2.9)] :=
  ⟨rfl, adapted_call_answers rfl _ _ _⟩

end CallBasic
