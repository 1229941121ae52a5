import CallBasic.Syntax.Parse
import CallBasic.Host.Error
/-!
# Failures

The errors that the library raises to its caller: a source that does not parse, a call of a
name without implementation, a call with the wrong number of arguments, a builtin that
returned a fault, an extension module that cannot be loaded, and an error of host code that
passed through.
-/

namespace CallBasic

/-- How executing a module failed: the file executed and the class of the error it raised. -/
structure ExecutionFault where
  file : String
  cls : ErrorClass
  deriving Repr

/-- An error raised to the caller. -/
inductive Failure where
  /-- The source of a file (if it has a name) does not parse. -/
  | parse (file : Option CodeString) (e : ParseError)
  /-- A call of a name that has no implementation. -/
  | unknown (name : CodeString) (pos : Option Pos)
  /-- A call with another number of arguments than the builtin expects. -/
  | arity (name : CodeString) (expected supplied : Int) (pos : Option Pos)
  /-- A builtin returned a fault. -/
  | fault (name : CodeString) (text : CodeString) (pos : Option Pos)
  /-- An extension module cannot be loaded; the token names the module or the function at
  fault, and the cause is the failed execution of the module's file, if that is what
  stopped loading. -/
  | module (token : CodeString) (message : CodeString) (cause : Option ExecutionFault)
  /-- An error raised by host code, passed on unchanged. -/
  | host (e : HostError)

namespace Failure

/-- The class of a failure. -/
def cls : Failure → ErrorClass
  | parse _ (.incomplete _ _) => .basicIncompleteParse
  | parse _ _ => .basicParseError
  | unknown .. => .basicNameError
  | arity .. => .basicArityError
  | fault .. => .basicRuntimeError
  | module .. => .basicModuleError
  | host e => e.cls

/-- The message of a failure. -/
def message : Failure → CodeString
  | parse _ e => "Unexpected input at line " ++ toString e.line ++ ", column " ++ toString e.column ++ "."
  | unknown n _ => "Builtin `" ++ n ++ "` is not registered."
  | arity n e s _ => "`" ++ n ++ "` expects " ++ toString e ++ " argument(s), but " ++ toString s ++ " supplied."
  | fault _ t _ => t
  | module _ m _ => m
  | host e => e.text

/-- The token a failure points at, if it has one. -/
def token? : Failure → Option CodeString
  | parse _ e => some e.token
  | unknown n _ | arity n _ _ _ | fault n _ _ => some n
  | module t _ _ => some t
  | host _ => none

/-- The position of the call a failure arose at, if it has one. -/
def pos? : Failure → Option Pos
  | unknown _ p | arity _ _ _ p | fault _ _ p => p
  | _ => none

end Failure

end CallBasic
