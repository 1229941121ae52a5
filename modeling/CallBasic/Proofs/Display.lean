import CallBasic.Proofs.CallOrder
/-!
# Showing the value of a run

A session runs a source in two ways: for its value, and for showing its value. Both read the
program the same way and evaluate it once on the session's registry, world and stack; showing
differs only in what it does with the value afterwards. It hides the value when the program's
last top-level expression is a call of a name registered with an adapted builtin whose call
shape declares that it returns nothing (`HidesValue`), as `PRINT` does, and shows it otherwise:
after a literal, after a call of a name without implementation, after a builtin that declares
any result, and after a raw signature, which declares nothing and counts as giving a value.

Evaluation reads the registry and changes only the world (`Session.evalIn_run`), so the
registry consulted after the run is the one the program's calls were looked up in. The main
statement, `runForDisplay_agrees_with_run`, says that the two ways of running factor through one
evaluation: the same failure with the same session, or the same session and count of
expressions with the value hidden exactly when `HidesValue` holds.
-/

namespace CallBasic

/-- A program whose value a display hides: its last top-level expression is a call of a name
registered with an adapted builtin that declares that it returns nothing. -/
def HidesValue (r : Registry Signature) (prog : List Expr) : Prop :=
  ∃ name args pos b, prog.getLast? = some (.call name args pos) ∧
    (r.get name).2 = some (.adapted b) ∧ b.shape.output = .none

/-- Whether the signature registered under a name is an adapted builtin that declares that it
returns nothing. -/
def returnsNothing (r : Registry Signature) (name : CodeString) : Bool :=
  match (r.get name).2 with
  | some (.adapted b) => b.shape.output == .none
  | _ => false

/-- `HidesValue`, computed. -/
def hidesValue (r : Registry Signature) (prog : List Expr) : Bool :=
  match prog.getLast? with
  | some (.call name _ _) => returnsNothing r name
  | _ => false

theorem hidesValue_iff (r : Registry Signature) (prog : List Expr) :
    hidesValue r prog = true ↔ HidesValue r prog := by
  unfold HidesValue hidesValue returnsNothing
  rcases prog.getLast? with _ | (⟨v, p⟩ | ⟨name, args, pos⟩)
  · simp
  · simp
  · rcases hb : (r.get name).2 with _ | b | f <;> simp [hb]

instance (r : Registry Signature) (prog : List Expr) : Decidable (HidesValue r prog) :=
  decidable_of_iff _ (hidesValue_iff r prog)

/-- A call of `PRINT` last hides a program's value, whatever was called before it. -/
example : HidesValue (Registry.empty.register "PRINT" (-1)
      (some (.adapted ⟨⟨"fn_print", [], none, printAll⟩, "PRINT", ⟨-1, [.object], .none, true⟩⟩)))
    [.call "SQR" [] ⟨none, 1, 1⟩, .call "PRINT" [] ⟨none, 1, 8⟩] := by
  decide +kernel

/-- A raw signature last shows the program's value: it declares no result, and counts as
giving one. -/
theorem not_hidesValue_of_raw {r : Registry Signature} {prog : List Expr} {name : CodeString}
    {args : List Expr} {pos : Pos} {f : RawSignature}
    (hl : prog.getLast? = some (.call name args pos)) (hf : (r.get name).2 = some (.raw f)) :
    ¬ HidesValue r prog := by
  rintro ⟨name', args', pos', b, hcall, hb, -⟩
  rw [hl, Option.some_inj, Expr.call.injEq] at hcall
  rw [← hcall.1, hf] at hb
  cases hb

namespace Session

/-- An evaluation in a session runs on the session's registry, world and stack, and changes
only the world. -/
theorem evalIn_run {α : Type} (env : Env) (m : EvalM α) (s : Session) :
    (evalIn env m).run s =
      match (m.run ⟨s.registry, env, s.verbosity.showsDebug, s.stack⟩).run s.world with
      | .ok a w => .ok a { s with world := w }
      | .error e w => .error e { s with world := w } := rfl

/-- A name's value is shown unless it is registered with an adapted builtin that declares that
it returns nothing. -/
theorem returnsValue_eq (s : Session) (name : CodeString) :
    s.returnsValue name = !returnsNothing s.registry name := by
  unfold returnsValue signature returnsNothing
  rcases s.registry.get name with ⟨arity, _ | b | f⟩
  · rfl
  · simp only [Signature.metadata, SignatureMeta.returnsValue]
    cases b.shape.output <;> rfl
  · rfl

/-- A display hides a value after a call of a name exactly when the name is registered with an
adapted builtin that declares that it returns nothing. -/
theorem shown_of_last_call (s : Session) {prog : List Expr} {name : CodeString} {args : List Expr}
    {pos : Pos} (hl : prog.getLast? = some (.call name args pos)) (v : Option Value) :
    (if s.returnsValue name then v else none) = if HidesValue s.registry prog then none else v := by
  simp only [← hidesValue_iff, hidesValue, hl, returnsValue_eq]
  cases returnsNothing s.registry name <;> rfl

/-- A display shows the value after a literal. -/
theorem shown_of_last_literal (s : Session) {prog : List Expr}
    (hl : ∀ name args pos, prog.getLast? ≠ some (.call name args pos)) (v : Option Value) :
    v = if HidesValue s.registry prog then none else v := by
  rw [if_neg]
  rintro ⟨name, args, pos, b, hcall, -⟩
  exact hl name args pos hcall

/-- Running a source for showing its value reads its program, evaluates it as a run does, and
hides the value exactly when `HidesValue` holds of the registry the program ran on. -/
theorem runForDisplay_eq (source : CodeString) (file : Option CodeString) (s : Session) :
    runForDisplay source file s =
      match readProgram s.stack source file with
      | .error f => .error f s
      | .ok prog =>
        match ((interpret prog).run ⟨s.registry, s.env, s.verbosity.showsDebug, s.stack⟩).run
            s.world with
        | .ok v w =>
          .ok ⟨if HidesValue s.registry prog then none else v, prog.length⟩ { s with world := w }
        | .error f w => .error f { s with world := w } := by
  simp only [runForDisplay, parseIn, evalIn, bind, EStateM.bind, get, getThe, MonadStateOf.get,
    EStateM.get]
  cases readProgram s.stack source file with
  | error f => rfl
  | ok prog =>
    simp only [pure, EStateM.pure]
    rcases ((interpret prog).run ⟨s.registry, s.env, s.verbosity.showsDebug, s.stack⟩).run s.world
      with ⟨v, w⟩ | ⟨f, w⟩
    · -- the registry after the run is the one before it
      simp only
      congr 2
      split
      · next name args pos hl => exact shown_of_last_call { s with world := w } hl v
      · next hl => exact shown_of_last_literal { s with world := w } hl v
    · rfl

end Session

/-- The value of a program evaluated to its end is none exactly for the empty program: every
expression has a value, and the last one is the program's. -/
theorem interpretAt_none_iff {d : Nat} {prog : List Expr} {ctx : Context} {w w' : World}
    {v : Option Value} (h : ((interpretAt d prog).run ctx).run w = .ok v w') :
    v = none ↔ prog = [] := by
  induction prog using interpretAt.induct generalizing w with
  | case1 =>
    cases h
    simp
  | case2 e =>
    simp only [interpretAt, ReaderT.run_map, EStateM.run_map] at h
    rcases he : ((eval d e).run ctx).run w with ⟨a, w₁⟩ | ⟨f, w₁⟩
    · rw [he] at h
      cases h
      simp
    · rw [he] at h
      cases h
  | case3 e es hes ih =>
    simp only [interpretAt, ReaderT.run_bind, EStateM.run_bind] at h
    rcases he : ((eval d e).run ctx).run w with ⟨a, w₁⟩ | ⟨f, w₁⟩
    · rw [he] at h
      rw [ih h]
      exact ⟨fun hnil => absurd hnil hes, fun hnil => absurd hnil (List.cons_ne_nil e es)⟩
    · rw [he] at h
      cases h

theorem interpret_none_iff {prog : List Expr} {ctx : Context} {w w' : World} {v : Option Value}
    (h : ((interpret prog).run ctx).run w = .ok v w') : v = none ↔ prog = [] :=
  interpretAt_none_iff h

/-- Running a source for showing its value agrees with running it for its value. Both read the
same program from the source and fail alike when it cannot be read. Otherwise both are the one
evaluation of that program on the session: a failure of it is the failure of both, with the
same session (output, memory and registry alike); when it ends, both leave the same session
and count the same expressions, and the value shown is the program's value, hidden exactly when
the last top-level expression calls a name registered with an adapted builtin that declares
that it returns nothing. A raw signature called last shows the value. The program's value
itself is none only for the empty program. -/
theorem runForDisplay_agrees_with_run (source : CodeString) (file : Option CodeString)
    (s : Session) :
    (∀ f, readProgram s.stack source file = .error f →
      Session.run source file s = .error f s ∧ Session.runForDisplay source file s = .error f s) ∧
    (∀ prog, readProgram s.stack source file = .ok prog →
      match (Session.evalIn s.env (interpret prog)).run s with
      | .ok v t =>
        Session.run source file s = .ok ⟨v, prog.length⟩ t ∧
        Session.runForDisplay source file s =
          .ok ⟨if HidesValue s.registry prog then none else v, prog.length⟩ t ∧
        (∀ name args pos (f : RawSignature), prog.getLast? = some (.call name args pos) →
          (s.registry.get name).2 = some (.raw f) →
          Session.runForDisplay source file s = .ok ⟨v, prog.length⟩ t) ∧
        (v = none ↔ prog = [])
      | .error f t =>
        Session.run source file s = .error f t ∧ Session.runForDisplay source file s = .error f t) := by
  refine ⟨fun f hf => ?_, fun prog hp => ?_⟩
  · rw [run_eq, Session.runForDisplay_eq, hf]
    exact ⟨rfl, rfl⟩
  · rw [run_eq, Session.runForDisplay_eq, hp, Session.evalIn_run]
    dsimp only
    rcases hrun : ((interpret prog).run ⟨s.registry, s.env, s.verbosity.showsDebug, s.stack⟩).run
        s.world with ⟨v, w⟩ | ⟨f, w⟩
    · refine ⟨rfl, rfl, fun name args pos f hl hf => ?_, interpret_none_iff hrun⟩
      dsimp only
      rw [if_neg (not_hidesValue_of_raw hl hf)]
    · exact ⟨rfl, rfl⟩

end CallBasic
