import CallBasic.Proofs.Adapter
/-!
# Inspecting a declaration

The call shape of a host function is read from its declaration in a fixed order, and the
first problem found is the error. First every text annotation is evaluated, parameters then
result, and a name that names nothing is an error before any check. Then, on the evaluated
declaration: the result must be annotated; after a leading parameter annotated with an
environment class is set aside, every positional parameter and the collector of extra values
must be annotated, and those that are not are listed together; each counted parameter's
annotation, in order, must be one a parameter may carry (`Annotation.isArgumentType`); a
collector of extra values may not stand beside counted parameters; its annotation must be one
a parameter may carry; and the result's annotation one a result may carry
(`Annotation.isResultType`).

`inspectionProblems` lists what is wrong with an evaluated declaration in that order, and
`callShape_of_inspection` proves that inspection fails with the first of them, or, when there
is none, gives the shape `inspectedShape`: arity `-1` with the collector's kind, or one kind
per counted parameter, the result's kind, and whether the environment is passed first.
-/

namespace CallBasic

/-! ## Annotations that inspection accepts -/

namespace Annotation

/-- The annotations a parameter may carry: the number and text classes, the value class and
its subclasses, and "anything". -/
def isArgumentType : Annotation → Bool
  | .float | .int | .str | .object | .any | .numberObject | .stringObject | .errorObject => true
  | _ => false

/-- The annotations a result may carry: those of a parameter, and "nothing". -/
def isResultType (a : Annotation) : Bool :=
  a.isArgumentType || a == .none

/-- The kind an accepted annotation stands for; annotations that are refused have none, and
are sent to `Kind.none`. -/
def kind : Annotation → Kind
  | .float => .float | .int => .int | .str => .str | .object => .object | .any => .any
  | .numberObject => .numberObject | .stringObject => .stringObject
  | .errorObject => .errorObject
  | _ => .none

end Annotation

/-- Why an annotation is refused at `place`: "nothing" as a parameter, a text that evaluation
left a text, or any other annotation the host shows as it shows it. -/
def refusalText (op : CodeString) (place : String) : Annotation → CodeString
  | .none => "Builtin `" ++ op ++ "` has unsupported annotation None for " ++ place ++ "."
  | .literal _ => "Builtin `" ++ op ++ "` uses a string annotation for " ++ place ++
      "; forward references are not supported."
  | a => "Builtin `" ++ op ++ "` has unsupported annotation " ++ a.shown ++ " for " ++ place ++ "."

/-- The problem with an annotation at `place`, for a result or for a parameter: none when it
is one they may carry, else a type error. -/
def annotationProblem (forResult : Bool) (op : CodeString) (place : String) (a : Annotation) :
    Option HostError :=
  if (if forResult then a.isResultType else a.isArgumentType) then none
  else some ⟨.basicTypeError, refusalText op place a⟩

/-- Reading the kind of an annotation fails exactly with its problem. -/
theorem kindOf_eq (op : CodeString) (place : String) (forResult : Bool) (a : Annotation) :
    kindOf op place forResult a = match annotationProblem forResult op place a with
      | some e => .error e
      | none => .ok a.kind := by
  cases forResult <;> cases a <;> rfl

/-! ## The checks in their order -/

/-- What inspection finds wrong with a declaration whose text annotations are evaluated, in
the order it looks: no result annotation; the counted parameters and the collector that lack
an annotation, listed together; the annotation of each counted parameter in order; a
collector beside counted parameters; the collector's annotation; the result's annotation. -/
def inspectionProblems (op : CodeString) (params : List Param) (returns : Option Annotation) :
    List HostError :=
  (if returns.isNone then
    [⟨.basicTypeMissing, "Builtin `" ++ op ++ "` must declare a return annotation."⟩] else []) ++
  (match missingAnnotations (countedParams params) (collector params) with
   | [] => []
   | ms => [⟨.basicTypeMissing, "Builtin `" ++ op ++ "` must annotate parameters: " ++
      ", ".intercalate ms ++ "."⟩]) ++
  (countedParams params).filterMap (fun p =>
    p.ann.bind (annotationProblem false op ("`" ++ p.name ++ "`"))) ++
  (match collector params with
   | some v =>
     if (countedParams params).isEmpty then
       (v.ann.bind (annotationProblem false op ("`*" ++ v.name ++ "`"))).toList
     else [⟨.basicTypeError, "Builtin `" ++ op ++ "` cannot mix fixed parameters with `*" ++
       v.name ++ "`."⟩]
   | none => []) ++
  (returns.bind (annotationProblem true op "its return value")).toList

/-- The kind of a parameter's annotation. -/
def Param.annKind (p : Param) : Kind :=
  (p.ann.map Annotation.kind).getD .none

/-- The call shape of a declaration in which inspection finds nothing wrong: any number of
arguments of the collector's kind, or one argument per counted parameter of its kind; the
result's kind; and whether the environment is passed first. -/
def inspectedShape (params : List Param) (returns : Option Annotation) : CallShape :=
  let usesEnv := leadsWithEnvironment (params.filter Param.isPositional)
  let output := (returns.map Annotation.kind).getD .none
  match collector params with
  | some v => ⟨-1, [v.annKind], output, usesEnv⟩
  | none => ⟨(countedParams params).length, (countedParams params).map Param.annKind, output, usesEnv⟩

/-! ## Inspection follows the checks -/

/-- The first problem of a list, or what follows when there is none. -/
def firstProblem {α : Type} (problems : List HostError) (a : α) : Except HostError α :=
  match problems with
  | e :: _ => .error e
  | [] => .ok a

@[simp] theorem firstProblem_append_of_ne_nil {α : Type} {ps : List HostError} (h : ps ≠ [])
    (qs : List HostError) (a : α) : firstProblem (ps ++ qs) a = firstProblem ps a := by
  cases ps with
  | nil => exact absurd rfl h
  | cons p ps => rfl

@[simp] theorem firstProblem_nil_append {α : Type} (qs : List HostError) (a : α) :
    firstProblem ([] ++ qs) a = firstProblem qs a := rfl

/-- Every parameter of a list annotated: none is missing. -/
theorem annotated_of_missing_nil {ps : List Param} {extra : Option Param}
    (h : missingAnnotations ps extra = []) : ∀ p ∈ ps, p.ann.isSome := by
  intro p hp
  have hnil := (List.append_eq_nil_iff.mp h).1
  rw [List.map_eq_nil_iff, List.filter_eq_nil_iff] at hnil
  exact Option.isSome_iff_ne_none.mpr (by simpa using hnil p hp)

/-- Reading the kinds of annotated parameters in order fails with the first problem among
their annotations. -/
theorem mapM_paramKind (op : CodeString) {ps : List Param} (hann : ∀ p ∈ ps, p.ann.isSome) :
    ps.mapM (fun p => paramKind op p ("`" ++ p.name ++ "`")) =
      firstProblem (ps.filterMap fun p => p.ann.bind (annotationProblem false op ("`" ++ p.name ++ "`")))
        (ps.map Param.annKind) := by
  induction ps with
  | nil => rfl
  | cons p ps ih =>
    obtain ⟨a, ha⟩ := Option.isSome_iff_exists.mp (hann p List.mem_cons_self)
    have hhead : paramKind op p ("`" ++ p.name ++ "`") =
        match annotationProblem false op ("`" ++ p.name ++ "`") a with
        | some e => .error e
        | none => .ok a.kind := by
      rw [paramKind, ha]
      exact kindOf_eq op _ false a
    have hkind : p.annKind = a.kind := by simp [Param.annKind, ha]
    rw [List.mapM_cons, hhead, ih (fun q hq => hann q (List.mem_cons_of_mem p hq)),
      List.filterMap_cons, List.map_cons, ha, Option.bind_some, hkind]
    -- the first parameter's problem, if it has one, comes before all the others
    cases annotationProblem false op ("`" ++ p.name ++ "`") a with
    | some e => rfl
    | none =>
      cases ps.filterMap (fun p => p.ann.bind (annotationProblem false op ("`" ++ p.name ++ "`"))) <;>
        rfl

/-- A collector beside parameters none of which is missing an annotation has one. -/
theorem collector_annotated_of_missing_nil {ps : List Param} {v : Param}
    (h : missingAnnotations ps (some v) = []) : v.ann.isSome := by
  have hv := (List.append_eq_nil_iff.mp h).2
  by_cases hn : v.ann.isNone = true
  · simp [hn] at hv
  · exact Option.isSome_iff_ne_none.mpr (by simpa using hn)


/-- Inspection of a declaration whose text annotations evaluate fails with the first problem
that `inspectionProblems` lists, or gives `inspectedShape`. -/
theorem callShape_of_resolved {f : HostFunction} (op : CodeString) {params : List Param}
    {returns : Option Annotation}
    (hres : resolveDeclaration f.params f.returns = .ok (params, returns)) :
    CallShape.of f op =
      firstProblem (inspectionProblems op params returns) (inspectedShape params returns) := by
  cases returns with
  | none =>
    -- no result annotation: the first check
    simp only [CallShape.of, hres, bind, Except.bind, throw, throwThe, MonadExceptOf.throw]
    rfl
  | some r =>
  rcases hm : missingAnnotations (countedParams params) (collector params) with _ | ⟨m, ms⟩
  swap
  · -- annotations are missing: all are named in one error
    simp only [CallShape.of, hres, bind, Except.bind, pure, Except.pure, hm, throw, throwThe,
      MonadExceptOf.throw, inspectionProblems, firstProblem, Option.isNone_some,
      Bool.false_eq_true, if_false, List.nil_append, List.cons_append]
  have hann := annotated_of_missing_nil hm
  simp only [CallShape.of, hres, bind, Except.bind, pure, Except.pure, hm, mapM_paramKind op hann]
  rcases hb : (countedParams params).filterMap
      (fun p => p.ann.bind (annotationProblem false op ("`" ++ p.name ++ "`"))) with _ | ⟨e, es⟩
  swap
  · -- a counted parameter's annotation is refused
    simp only [firstProblem, inspectionProblems, hm, hb]
    rfl
  simp only [firstProblem, hb]
  have hout := kindOf_eq op "its return value" true r
  -- what is left to find wrong: the collector's checks, then the result's annotation
  have hrest : inspectionProblems op params (some r) =
      (match collector params with
       | some v =>
         if (countedParams params).isEmpty then
           (v.ann.bind (annotationProblem false op ("`*" ++ v.name ++ "`"))).toList
         else [⟨.basicTypeError, "Builtin `" ++ op ++ "` cannot mix fixed parameters with `*" ++
           v.name ++ "`."⟩]
       | none => []) ++ (annotationProblem true op "its return value" r).toList := by
    simp [inspectionProblems, hm, hb]
  rw [hrest]
  rcases hc : collector params with _ | v
  · -- no collector: the result's annotation is the last check
    simp only [hout]
    rcases hr : annotationProblem true op "its return value" r with _ | e
    · simp only [inspectedShape, hc, List.length_map]
      rfl
    · rfl
  rw [hc] at hm
  by_cases he : (countedParams params).isEmpty = true
  · -- a collector alone: its annotation, then the result's
    obtain ⟨a, ha⟩ := Option.isSome_iff_exists.mp (collector_annotated_of_missing_nil hm)
    have hkind : v.annKind = a.kind := by simp [Param.annKind, ha]
    simp only [he, if_true, paramKind, ha, kindOf_eq, Option.bind_some]
    rcases hv : annotationProblem false op ("`*" ++ v.name ++ "`") a with _ | e
    · rcases hr : annotationProblem true op "its return value" r with _ | e
      · simp only [inspectedShape, hc, hkind]
        rfl
      · rfl
    · rfl
  · -- a collector beside counted parameters
    simp only [he, Bool.false_eq_true, if_false]
    rfl

/-- Inspecting a declaration: a text annotation that names nothing is the error before any
check; otherwise inspection fails with the first problem of the evaluated declaration, in the
order `inspectionProblems` lists them, or gives `inspectedShape`. -/
theorem callShape_of_inspection (f : HostFunction) (op : CodeString) :
    (∀ e, resolveDeclaration f.params f.returns = .error e → CallShape.of f op = .error e) ∧
    ∀ params returns, resolveDeclaration f.params f.returns = .ok (params, returns) →
      CallShape.of f op =
        firstProblem (inspectionProblems op params returns) (inspectedShape params returns) := by
  refine ⟨fun e he => ?_, fun params returns hres => callShape_of_resolved op hres⟩
  simp only [CallShape.of, he, bind, Except.bind]

/-- `fn_pair(env: Environment, x, *rest) -> list`: the missing annotations of `x` and `*rest` are
found before the unsupported result annotation. -/
def unannotatedPair : HostFunction :=
  ⟨"fn_pair", [⟨"env", .positional, some .environment, none⟩, ⟨"x", .positional, none, none⟩,
    ⟨"rest", .variadic, none, none⟩], some .list, fun _ => pure (.float 0)⟩

theorem unannotated_pair_missing :
    resolveDeclaration unannotatedPair.params unannotatedPair.returns =
        .ok (unannotatedPair.params, some .list) ∧
      CallShape.of unannotatedPair "PAIR" =
        .error ⟨.basicTypeMissing, "Builtin `PAIR` must annotate parameters: x, *rest."⟩ := by
  refine ⟨rfl, ?_⟩
  rw [(callShape_of_inspection unannotatedPair "PAIR").2 _ _ rfl]
  rfl

end CallBasic
