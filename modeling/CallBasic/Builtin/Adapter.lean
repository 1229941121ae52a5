import CallBasic.Builtin.Shape
import CallBasic.Host.Script
/-!
# Adapting host functions into builtins

A builtin adapts a host function under a name: it checks the number of arguments against
the call shape, unwraps each argument by its kind, calls the function, and wraps the result.
A number kind takes a number value (an integer kind rounds it toward zero, and has no
integer for a value that is not finite), a text kind takes a text value, a value class takes
a value of that class, and the "anything" kinds take any argument as it is.

Every failure of the families that `ErrorClass.isConverted` names, whether in unwrapping,
in the function or in wrapping, becomes a fault value whose text is the builtin's name, a
colon and the error's text (its class name when the text is empty). Errors of the other
classes pass through.
-/

namespace CallBasic

/-- A builtin: a host function adapted under a name, with its call shape. -/
structure Builtin where
  fn : HostFunction
  label : CodeString
  shape : CallShape

/-- Unwraps an argument at a 1-based position for a kind. -/
def unwrapArg (name : CodeString) (position : Nat) (k : Kind) (v : HostValue) :
    Except HostError HostValue :=
  let mismatch (what : String) : Except HostError HostValue :=
    .error ⟨.basicValueError, "`" ++ name ++ "` expects " ++ what ++ " at position " ++
      toString position ++ ", got " ++ v.kindName ++ "."⟩
  match k, v with
  | .object, _ | .any, _ | .none, _ => .ok v
  | .float, .obj (.num x) => .ok (.float x)
  | .int, .obj (.num x) => (truncFloat x).map .int
  | .float, _ | .int, _ => mismatch "a number"
  | .str, .obj (.str s) => .ok (.str s)
  | .str, _ => mismatch "a string"
  | .numberObject, .obj (.num _) | .stringObject, .obj (.str _)
  | .errorObject, .obj (.err _) => .ok v
  | .numberObject, _ => mismatch "NumberObject"
  | .stringObject, _ => mismatch "StringObject"
  | .errorObject, _ => mismatch "ErrorObject"

/-- Unwraps arguments by kinds, reporting the first that does not fit; positions count
from `position`. -/
def unwrapEach (name : CodeString) : Nat → List Kind → List HostValue → Except HostError (List HostValue)
  | i, k :: ks, v :: vs => do
    let x ← unwrapArg name i k v
    let rest ← unwrapEach name (i + 1) ks vs
    pure (x :: rest)
  | _, _, _ => pure []

/-- Unwraps the arguments of a call by the call shape: any number of arguments of the one
kind for a shape of arity `-1`, else exactly as many as the arity. -/
def CallShape.unwrap (s : CallShape) (name : CodeString) (args : List HostValue) :
    Except HostError (List HostValue) :=
  if s.arity < 0 then
    unwrapEach name 1 (List.replicate args.length (s.inputs.headD .any)) args
  else if s.arity = 0 then
    if args.isEmpty then .ok []
    else .error ⟨.basicValueError, "`" ++ name ++ "` takes no arguments, got " ++
      toString args.length ++ "."⟩
  else if args.length ≠ s.arity.toNat then
    .error ⟨.basicValueError, "`" ++ name ++ "` takes " ++ toString s.arity ++
      " argument(s), got " ++ toString args.length ++ "."⟩
  else unwrapEach name 1 s.inputs args

/-- Wraps a result for a kind: the number kinds read a double from it, the text kind takes
its text, and the other kinds make a runtime value of it. -/
def wrapResult (k : Kind) (r : HostValue) : Except HostError Value :=
  match k with
  | .float | .int => r.toFloat.map .num
  | .str => .ok (.str r.text)
  | _ => r.toValue

/-- The fault text of a converted error: the name, a colon, and the error's text, or its
class name when the text is empty. -/
def faultText (name : CodeString) (e : HostError) : CodeString :=
  name ++ ": " ++ (if e.text.isEmpty then CodeString.ofString e.cls.name else e.text)

/-- Adapts a host function under a name. -/
def Builtin.adapt (f : HostFunction) (name : CodeString) : Except HostError Builtin := do
  let op := if name.isEmpty then f.name else name
  let shape ← CallShape.of f op
  pure ⟨f, name, shape⟩

/-- Calls a builtin with arguments. -/
def Builtin.invoke (b : Builtin) (args : List HostValue) : HostM Value :=
  tryCatch
    (do
      let values ← liftExcept (b.shape.unwrap b.label args)
      let r ← b.fn.call values
      liftExcept (wrapResult b.shape.output r))
    (fun e => if e.cls.isConverted then pure (.err (faultText b.label e)) else throw e)

end CallBasic
