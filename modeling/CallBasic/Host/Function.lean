import CallBasic.Host.Annotation
import CallBasic.Host.Call
/-!
# Host functions

A host function is known by its name, its declared parameters and result annotation, and
what it does with the values it receives. The parameters come in the five kinds of the host
language: positional (also by keyword), positional only, keyword only, the collector of
extra positional values, and the collector of extra keyword values.

A call passes positional values only. A keyword-only parameter without a default is then
missing, and the call fails before the function runs, naming the missing parameters; one
with a default receives it.
-/

namespace CallBasic

/-- The kinds of parameters. -/
inductive ParamKind where
  | positional
  | positionalOnly
  | keywordOnly
  | variadic
  | keywords
  deriving DecidableEq, Repr

/-- A declared parameter, with the value it takes when a call gives it none. -/
structure Param where
  name : String
  kind : ParamKind
  ann : Option Annotation
  default : Option HostValue

/-- Whether a parameter is filled by position. -/
def Param.isPositional (p : Param) : Bool :=
  p.kind == .positional || p.kind == .positionalOnly

/-- A host function: its name, its declaration and its behaviour on the values it receives
(after the environment, which it reads from `HostM`). -/
structure HostFunction where
  name : CodeString
  params : List Param
  returns : Option Annotation
  run : List HostValue → HostM HostValue

/-- The values of the keyword-only parameters, which a call by position leaves at their
defaults, in the order they are declared. -/
def keywordDefaults (params : List Param) : List HostValue :=
  (params.filter (·.kind == .keywordOnly)).filterMap Param.default

/-- Names joined as a list in prose: `'a'`, `'a' and 'b'`, `'a', 'b', and 'c'`. -/
def proseList : List String → String
  | [] => ""
  | [a] => a
  | [a, b] => a ++ " and " ++ b
  | xs => ", ".intercalate (xs.take (xs.length - 2)) ++ ", " ++
      ", and ".intercalate (xs.drop (xs.length - 2))

/-- The keyword-only parameters that a call by position leaves without a value. -/
def HostFunction.missingKeywords (f : HostFunction) : List String :=
  (f.params.filter (fun p => p.kind == .keywordOnly && p.default.isNone)).map Param.name

/-- Calls a host function with positional values. -/
def HostFunction.call (f : HostFunction) (values : List HostValue) : HostM HostValue :=
  match f.missingKeywords with
  | [] => f.run values
  | ms =>
    raise .typeError (f.name ++ "() missing " ++ toString ms.length ++
      " required keyword-only argument" ++ (if ms.length == 1 then "" else "s") ++ ": " ++
      proseList (ms.map Text.quote))

end CallBasic
