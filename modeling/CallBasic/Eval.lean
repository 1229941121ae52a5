import CallBasic.Failure
import CallBasic.Builtin.Signature
import CallBasic.Registry
import CallBasic.Host.Stack
/-!
# Evaluating programs

A program runs its expressions in order and gives the value of the last one (none for an
empty program). An expression is evaluated after its arguments, from left to right. A call
looks its name up: a name without implementation fails, and so does a count of arguments
other than the builtin's arity when the arity is not negative; in both cases the builtin is
not invoked, though its arguments were evaluated. A builtin that returns a fault stops the
program with that fault. Writes and memory changes made before a failure stay.

Evaluation takes levels of the host's stack as `Stack` lays out: each expression and each call
takes its levels before anything else of it is done, and the first level past the limit raises
the host's recursion error, so a program nested too deeply stops there.
-/

namespace CallBasic

/-- What evaluation reads: the registry, the environment builtins are called in, whether each
successful call is logged, and the host's stack. -/
structure Context where
  registry : Registry Signature
  env : Env
  logCalls : Bool
  stack : Stack

/-- A computation of evaluation. -/
abbrev EvalM := ReaderT Context (EStateM Failure World)

/-- Runs a host computation in the evaluation's environment; its error passes on as a host
failure, with the world as the error left it. -/
def liftHost {α : Type} (m : HostM α) : EvalM α := fun ctx w =>
  match (m.run ctx.env).run w with
  | .ok a w' => .ok a w'
  | .error e w' => .error (.host e) w'

/-- The log line of a successful call. -/
def callLogLine (name : CodeString) (count : Nat) (v : Value) : CodeString :=
  "DEBUG basicfl.interpreter: " ++ name ++
    CodeString.ofString ("(" ++ toString count ++ " args) -> " ++ HostValue.objectForm v ++ "\n")

/-- Takes levels of the host's stack from a depth on; the first one past the limit raises the
host's recursion error. -/
def takeLevels (depth : Nat) (uses : List StackUse) : EvalM Unit := do
  match (← read).stack.exceeds depth uses with
  | some u => throw (.host ⟨.recursionError, u.message⟩)
  | none => pure ()

/-- The levels a call of a name with a count of arguments takes beyond its frame, by how it
ends: without implementation, with a refused count, or invoking its builtin. -/
def Context.callUses (ctx : Context) (name : CodeString) (count : Nat) : List StackUse :=
  match ctx.registry.get name with
  | (_, none) => Stack.unknownUses
  | (arity, some _) =>
    if arity ≥ 0 && (count : Int) ≠ arity then Stack.arityUses else Stack.invokeUses

/-- Makes a call of a builtin by name with argument values, at a position if the call has
one. -/
def makeCall (name : CodeString) (args : List Value) (pos : Option Pos) : EvalM Value := do
  let ctx ← read
  match ctx.registry.get name with
  | (_, none) => throw (.unknown name pos)
  | (arity, some f) =>
    if arity ≥ 0 && (args.length : Int) ≠ arity then
      throw (.arity name arity args.length pos)
    let v ← liftHost (f.invoke (args.map .obj))
    match v with
    | .err t => throw (.fault name t pos)
    | _ =>
      if ctx.logCalls then
        liftHost (emit .diag (callLogLine name args.length v))
      pure v

/-- Calls a builtin by name with argument values, at a position if the call has one, from a
frame at a depth of the host's stack: the call takes the levels of its end first. -/
def callBuiltin (depth : Nat) (name : CodeString) (args : List Value) (pos : Option Pos) :
    EvalM Value := do
  takeLevels (depth + 1) ((← read).callUses name args.length)
  makeCall name args pos

mutual
/-- Evaluates an expression at a depth of the host's stack. -/
def eval (depth : Nat) : Expr → EvalM Value
  | .lit v _ => do
    takeLevels depth [.frame]
    pure v
  | .call name args pos => do
    takeLevels depth [.frame, .frame]
    let vs ← evalArgs (depth + 2) args
    callBuiltin (depth + 1) name vs (some pos)

/-- Evaluates arguments from left to right, each at a depth of the host's stack. -/
def evalArgs (depth : Nat) : List Expr → EvalM (List Value)
  | [] => pure []
  | e :: es => do
    let v ← eval depth e
    let vs ← evalArgs depth es
    pure (v :: vs)
end

/-- Runs expressions one after the other, each at a depth of the host's stack, and gives the
value of the last one. -/
def interpretAt (depth : Nat) : List Expr → EvalM (Option Value)
  | [] => pure none
  | [e] => some <$> eval depth e
  | e :: es => do
    let _ ← eval depth e
    interpretAt depth es

/-- Runs a program, its outermost expressions at the depth a run evaluates them at, and gives
the value of its last expression. -/
def interpret (prog : List Expr) : EvalM (Option Value) := do
  interpretAt (← read).stack.runDepth prog

end CallBasic
