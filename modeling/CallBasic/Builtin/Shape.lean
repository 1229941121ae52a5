import CallBasic.Host.Function
/-!
# Call shapes

The call shape of a host function, read from its declaration, says how a builtin that adapts
it is called: how many arguments it takes (`-1` for any number), how each argument is
unwrapped, how the result is wrapped, and whether the environment is passed first.

The declaration is inspected in a fixed order, and the first problem found is the error:
text annotations that name nothing; a missing result annotation; then, after a leading
environment parameter is set aside, every positional parameter and the collector of extra
values that lack an annotation (all of them in one message); an annotation of an unsupported
kind; and positional parameters beside a collector of extra values.
-/

namespace CallBasic

/-- How an argument is unwrapped, or a result wrapped. -/
inductive Kind where
  | float | int | str | object | any
  | numberObject | stringObject | errorObject
  | none
  deriving DecidableEq, Repr, Inhabited

/-- The name of a kind. -/
def Kind.name : Kind → String
  | .float => "float" | .int => "int" | .str => "str" | .object => "Object" | .any => "Any"
  | .numberObject => "NumberObject" | .stringObject => "StringObject"
  | .errorObject => "ErrorObject" | .none => "None"

/-- The call shape of a builtin. -/
structure CallShape where
  arity : Int
  inputs : List Kind
  output : Kind
  usesEnv : Bool
  deriving DecidableEq, Repr, Inhabited

/-- The kind of a supported annotation; `none` is supported for results only. `place` names
where the annotation stands, for the messages. -/
def kindOf (op : CodeString) (place : String) (forResult : Bool) : Annotation → Except HostError Kind
  | .float => .ok .float
  | .int => .ok .int
  | .str => .ok .str
  | .object => .ok .object
  | .any => .ok .any
  | .numberObject => .ok .numberObject
  | .stringObject => .ok .stringObject
  | .errorObject => .ok .errorObject
  | .none =>
    if forResult then .ok .none
    else .error ⟨.basicTypeError, "Builtin `" ++ op ++ "` has unsupported annotation None for " ++
      place ++ "."⟩
  | .literal _ => .error ⟨.basicTypeError, "Builtin `" ++ op ++ "` uses a string annotation for " ++
      place ++ "; forward references are not supported."⟩
  | a => .error ⟨.basicTypeError, "Builtin `" ++ op ++ "` has unsupported annotation " ++
      a.shown ++ " for " ++ place ++ "."⟩

/-- Evaluates the text annotations of a declaration, parameters first, then the result. -/
def resolveDeclaration (params : List Param) (returns : Option Annotation) :
    Except HostError (List Param × Option Annotation) := do
  let ps ← params.mapM fun p => do
    match p.ann with
    | some a => pure { p with ann := some (← a.resolve) }
    | none => pure p
  let r ← match returns with
    | some a => pure (some (← a.resolve))
    | none => pure none
  pure (ps, r)

/-- The names of the parameters that lack an annotation: positional ones by name, the
collector of extra values with a star. -/
def missingAnnotations (positional : List Param) (extra : Option Param) : List String :=
  (positional.filter (fun p => p.ann.isNone)).map Param.name ++
    (match extra with
     | some v => if v.ann.isNone then ["*" ++ v.name] else []
     | none => [])

/-- The kind of a parameter known to be annotated. -/
def paramKind (op : CodeString) (p : Param) (place : String) : Except HostError Kind :=
  match p.ann with
  | some a => kindOf op place false a
  | none => .error ⟨.basicTypeMissing, "Builtin `" ++ op ++ "` must annotate parameters: " ++
      p.name ++ "."⟩

/-- Whether the first positional parameter is annotated with an environment class: the
environment is then passed first. -/
def leadsWithEnvironment : List Param → Bool
  | p :: _ => (p.ann.map Annotation.isEnvironment).getD false
  | [] => false

/-- The positional parameters that arguments fill: all of them but a leading environment
parameter. -/
def countedParams (params : List Param) : List Param :=
  let positional := params.filter Param.isPositional
  if leadsWithEnvironment positional then positional.drop 1 else positional

/-- The collector of extra positional values, if there is one. -/
def collector (params : List Param) : Option Param :=
  params.find? (fun p => p.kind == .variadic)

/-- The call shape of a host function; `op` is the name in the messages. -/
def CallShape.of (f : HostFunction) (op : CodeString) : Except HostError CallShape := do
  let (params, returns) ← resolveDeclaration f.params f.returns
  let extra := collector params
  let ret ← match returns with
    | some r => pure r
    | none => throw ⟨.basicTypeMissing, "Builtin `" ++ op ++ "` must declare a return annotation."⟩
  let usesEnv := leadsWithEnvironment (params.filter Param.isPositional)
  let positional := countedParams params
  match missingAnnotations positional extra with
  | [] => pure ()
  | ms => throw ⟨.basicTypeMissing, "Builtin `" ++ op ++ "` must annotate parameters: " ++
      ", ".intercalate ms ++ "."⟩
  let inputs ← positional.mapM fun p => paramKind op p ("`" ++ p.name ++ "`")
  let variadic ← match extra with
    | some v =>
      if positional.isEmpty then
        (some ·) <$> paramKind op v ("`*" ++ v.name ++ "`")
      else throw ⟨.basicTypeError, "Builtin `" ++ op ++ "` cannot mix fixed parameters with `*" ++
        v.name ++ "`."⟩
    | none => pure none
  let output ← kindOf op "its return value" true ret
  match variadic with
  | some k => pure ⟨-1, [k], output, usesEnv⟩
  | none => pure ⟨inputs.length, inputs, output, usesEnv⟩

end CallBasic
