import CallBasic.Host.Function
/-!
# Scripted host functions

A small language for what a host function does with the values it receives, enough to
describe test and sample functions without a host interpreter. The values a script sees are
the received positional values, then the keyword-only values, then the extra positional
values, where a record among the first two contributes its entries' values (as keyword values
are passed on).

Sums and products follow the host's arithmetic: integers add exactly, an integer meets a
double as the double nearest to it, truth values count as integers, and other values do
not add.
-/

namespace CallBasic

/-- What a scripted host function does. -/
inductive Script where
  /-- Returns the received value at an index; a negative index counts from the end. -/
  | arg (i : Int)
  /-- Returns a constant. -/
  | const (v : HostValue)
  /-- Raises an error. -/
  | raise (cls : ErrorClass) (message : CodeString)
  /-- Writes a text to the program output and returns nothing. -/
  | write (text : CodeString)
  /-- Returns the sum of the received values, starting from the integer zero. -/
  | sum
  /-- Returns the texts of the received values, joined. -/
  | concat
  /-- Returns the number of received values. -/
  | count
  /-- Returns the number of written cells of the calling session's memory. -/
  | memorySize
  /-- Returns the received value at an index times a double. -/
  | scale (i : Nat) (k : Float)
  /-- Returns the received value at an index plus a double. -/
  | shift (i : Nat) (k : Float)
  /-- Returns a text followed by the received text at an index. -/
  | prepend (s : CodeString) (i : Nat)

/-- The number of values a function receives by position, an environment in front not
counted. -/
def positionalCount (params : List Param) : Nat :=
  match params.filter Param.isPositional with
  | p :: rest => if (p.ann.map Annotation.isEnvironment).getD false then rest.length else rest.length + 1
  | [] => 0

/-- A value as it enters the values a script sees: a record by its entries' values. -/
def spreadRecord : HostValue → List HostValue
  | .record es => es.map Prod.snd
  | v => [v]

/-- The values a script sees, in the order the host lists a function's local names: the
values received by position, then the keyword-only values, each of them a record by its
entries' values, then the extra positional values as they came. -/
def scriptValues (positional : Nat) (keywords values : List HostValue) : List HostValue :=
  (values.take positional).flatMap spreadRecord ++ keywords.flatMap spreadRecord ++
    values.drop positional

/-- A value as a number of the host's arithmetic: an integer or a double. -/
def asNumber : HostValue → Option (Int ⊕ Float)
  | .int n => some (.inl n)
  | .bool b => some (.inl (if b then 1 else 0))
  | .float x => some (.inr x)
  | _ => none

/-- The double of a number of the host's arithmetic. -/
def numberToFloat : Int ⊕ Float → Except HostError Float
  | .inl n => HostValue.intToFloat n
  | .inr x => .ok x

/-- An arithmetic operation of the host on two values: exact on two integers, on doubles
otherwise; a value that is not a number is a type error naming both operand classes. -/
def arith (symbol : String) (onInt : Int → Int → Int) (onFloat : Float → Float → Float)
    (a b : HostValue) : Except HostError HostValue :=
  match asNumber a, asNumber b with
  | some (.inl m), some (.inl n) => .ok (.int (onInt m n))
  | some x, some y => do
    let u ← numberToFloat x
    let v ← numberToFloat y
    .ok (.float (onFloat u v))
  | _, _ => .error ⟨.typeError, "unsupported operand type(s) for " ++ symbol ++ ": " ++
      Text.quote a.typeName ++ " and " ++ Text.quote b.typeName⟩

/-- Lifts a result into a host computation. -/
def liftExcept {α : Type} : Except HostError α → HostM α
  | .ok a => pure a
  | .error e => throw e

/-- The received value at an index, a negative index counting from the end. -/
def argAt (vs : List HostValue) (i : Int) : HostM HostValue :=
  let k := if i < 0 then i + vs.length else i
  match (if k < 0 then none else vs[k.toNat]?) with
  | some v => pure v
  | none => raise .indexError "list index out of range"

/-- Runs a script on the received values. -/
def Script.run (s : Script) (positional : Nat) (keywords values : List HostValue) :
    HostM HostValue :=
  let vs := scriptValues positional keywords values
  match s with
  | .arg i => argAt vs i
  | .const v => pure v
  | .raise cls msg => CallBasic.raise cls msg
  | .write t => do emit .out t; pure .none
  | .sum => liftExcept (vs.foldlM (arith "+" (· + ·) (· + ·)) (.int 0))
  | .concat => pure (.str (CodeString.join (vs.map HostValue.text)))
  | .count => pure (.int vs.length)
  | .memorySize => do let m ← sessionMemory; pure (.int m.size)
  | .scale i k => do liftExcept (arith "*" (· * ·) (· * ·) (← argAt vs i) (.float k))
  | .shift i k => do liftExcept (arith "+" (· + ·) (· + ·) (← argAt vs i) (.float k))
  | .prepend t i => do
    match ← argAt vs i with
    | .str s => pure (.str (t ++ s))
    | v => CallBasic.raise .typeError ("can only concatenate str (not " ++ Text.quote v.typeName ++
        ") to str")

/-- A scripted host function. -/
def HostFunction.scripted (name : CodeString) (params : List Param) (returns : Option Annotation)
    (s : Script) : HostFunction :=
  ⟨name, params, returns, s.run (positionalCount params) (keywordDefaults params)⟩

end CallBasic
