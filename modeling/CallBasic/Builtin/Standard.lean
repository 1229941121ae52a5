import CallBasic.Builtin.Signature
import CallBasic.Builtin.Naming
import CallBasic.Registry
/-!
# The standard builtins

The builtins every session starts with, each a host function with a declared shape:
trigonometry (`SIN`, `COS`, `TAN`, `ASN`, `ACS`, `ATN`, `PI`), arithmetic (`ABS`, `SGN`,
`INT`, `SQR`, `EXP`, `LN`, `RND`, `BIN`), texts (`LEN`, `LEFT$`, `RIGHT$`, `MID$`, `TL$`,
`CODE`, `CHR$`, `STR$`, `VAL`) and output (`PRINT`).

The mathematical functions fail as the host's mathematics does: a result that is not a
number from an argument that is one is a domain error, and an infinite result from a finite
argument is a range error for `EXP` and a domain error for the others.
-/

namespace CallBasic

/-- A positional parameter with an annotation. -/
def param (name : String) (ann : Annotation) : Param :=
  ⟨name, .positional, some ann, none⟩

/-- The result of a mathematical function at `x`, checked for domain and range errors. -/
def mathResult (canOverflow : Bool) (x r : Float) : HostM HostValue :=
  if r.isNaN && !x.isNaN then raise .valueError "math domain error"
  else if r.isInf && x.isFinite then
    if canOverflow then raise .overflowError "math range error"
    else raise .valueError "math domain error"
  else pure (.float r)

/-- A host function of one double that returns a double. -/
def floatFunction (name : String) (f : Float → HostM HostValue) : HostFunction :=
  ⟨name, [param "x" .float], some .float, fun
    | [.float x] => f x
    | _ => raise .typeError (name ++ "() takes exactly one argument")⟩

/-- A mathematical function of one double. -/
def mathFunction (name : String) (canOverflow : Bool) (f : Float → Float) : HostFunction :=
  floatFunction name fun x => mathResult canOverflow x (f x)

/-- The sign of a double as an integer; not-a-number has sign zero. -/
def signOf (x : Float) : Int :=
  (if x > 0 then 1 else 0) - (if x < 0 then 1 else 0)

/-- Reads an integer written in binary digits, with an optional minus sign. -/
def readBinary? (s : String) : Option Int :=
  let (neg, ds) := match s.toList with
    | '-' :: r => (true, r)
    | r => (false, r)
  if ds.isEmpty || ds.any (fun c => c != '0' && c != '1') then none
  else
    let n := ds.foldl (fun acc c => 2 * acc + (if c = '1' then 1 else 0)) 0
    some (if neg then -(n : Int) else n)

/-- `BIN`: the decimal digits of a number's integer part, read back as binary digits. -/
def binDigits (x : Float) : HostM HostValue := do
  let n ← liftExcept (truncFloat x)
  let s := toString n
  match readBinary? s with
  | some v => pure (.int v)
  | none => raise .valueError ("invalid literal for int() with base 2: " ++
      String.ofList ((Text.quote s).toList.take 200))

/-- The text of one code point, for numbers of the host's machine integers; a surrogate code
stands alone. -/
def charOf (n : Int) : HostM HostValue :=
  if n < -2147483648 || n > 2147483647 then
    raise .overflowError "Python int too large to convert to C int"
  else if n < 0 || n > 0x10FFFF then raise .valueError "chr() arg not in range(0x110000)"
  else pure (.str ⟨[CodePoint.ofNat n.toNat]⟩)

/-- `RND`: a random integer below a positive limit. -/
def randomBelow (n : Int) : HostM HostValue :=
  if n < 1 then raise .basicValueError ("RND needs a positive limit, got " ++ toString n ++ ".")
  else do pure (.int (← drawBelow n.toNat))

/-- The text of a value as `PRINT` writes it: a runtime value for people, any other value by
its host text. -/
def printText : HostValue → CodeString
  | .obj v => v.render false
  | v => v.text

/-- `PRINT`: writes each argument, then the line ending, and returns nothing. -/
def printAll (args : List HostValue) : HostM HostValue := do
  for a in args do emit .out (printText a)
  emit .out (← read).lineEnding
  pure .none

/-- `LEN`: the number of code points of a text. -/
def lengthFunction : HostFunction :=
  ⟨"fn_len", [param "s" .str], some .int, fun
    | [.str s] => pure (.int s.length)
    | _ => raise .typeError "fn_len() takes exactly one argument"⟩

/-- `LEFT$`: the first code points of a text, none for a count below one. -/
def leftFunction : HostFunction :=
  ⟨"fn_left_s", [param "s" .str, param "n" .int], some .str, fun
    | [.str s, .int n] => pure (.str (s.take (max n 0).toNat))
    | _ => raise .typeError "fn_left_s() takes exactly two arguments"⟩

/-- `RIGHT$`: the last code points of a text, none for a count below one. -/
def rightFunction : HostFunction :=
  ⟨"fn_right_s", [param "s" .str, param "n" .int], some .str, fun
    | [.str s, .int n] =>
      pure (.str (if n > 0 then s.drop (s.length - n.toNat) else ""))
    | _ => raise .typeError "fn_right_s() takes exactly two arguments"⟩

/-- `MID$`: the code points of a text from a 1-based offset on, at most as many as a length;
an offset below one is an error. -/
def midFunction : HostFunction :=
  ⟨"fn_mid_s", [param "s" .str, param "offset" .int, param "length" .int], some .str, fun
    | [.str s, .int o, .int l] =>
      if o < 1 then
        raise .basicValueError ("MID$ offset must be at least 1, got " ++ toString o ++ ".")
      else pure (.str ((s.drop (o - 1).toNat).take (max l 0).toNat))
    | _ => raise .typeError "fn_mid_s() takes exactly three arguments"⟩

/-- `TL$`: a text without its first code point. -/
def tailFunction : HostFunction :=
  ⟨"fn_tl_s", [param "s" .str], some .str, fun
    | [.str s] => pure (.str (s.drop 1))
    | _ => raise .typeError "fn_tl_s() takes exactly one argument"⟩

/-- The standard host functions, by host name. -/
def standardFunctions : List HostFunction :=
  [ mathFunction "fn_sin" false Float.sin,
    mathFunction "fn_cos" false Float.cos,
    mathFunction "fn_tan" false Float.tan,
    mathFunction "fn_asn" false Float.asin,
    mathFunction "fn_acs" false Float.acos,
    mathFunction "fn_atn" false Float.atan,
    ⟨"fn_pi", [], some .float, fun _ => pure (.float 3.141592653589793)⟩,
    floatFunction "fn_abs" (fun x => pure (.float x.abs)),
    floatFunction "fn_sgn" (fun x => pure (.int (signOf x))),
    floatFunction "fn_int" (fun x => do
      let n ← liftExcept (truncFloat x)
      pure (.float (Float.ofInt n))),
    mathFunction "fn_sqr" false Float.sqrt,
    mathFunction "fn_exp" true Float.exp,
    mathFunction "fn_ln" false Float.log,
    ⟨"fn_rnd", [param "n" .int], some .int, fun
      | [.int n] => randomBelow n
      | _ => raise .typeError "fn_rnd() takes exactly one argument"⟩,
    ⟨"fn_bin", [param "x" .float], some .int, fun
      | [.float x] => binDigits x
      | _ => raise .typeError "fn_bin() takes exactly one argument"⟩,
    lengthFunction, leftFunction, rightFunction, midFunction, tailFunction,
    ⟨"fn_code", [param "s" .str], some .int, fun
      | [.str s] =>
        match s.points with
        | c :: _ => pure (.int c.toNat)
        | [] => raise .basicValueError "CODE of an empty string."
      | _ => raise .typeError "fn_code() takes exactly one argument"⟩,
    ⟨"fn_chr_s", [param "n" .int], some .str, fun
      | [.int n] => charOf n
      | _ => raise .typeError "fn_chr_s() takes exactly one argument"⟩,
    floatFunction "fn_str_s" (fun x => pure (.str (formatNumber x))) |>
      fun f => { f with returns := some .str },
    ⟨"fn_val", [param "s" .str], some .float, fun
      | [.str s] => do
        pure (.float (← liftExcept (HostValue.str s.trim).toFloat))
      | _ => raise .typeError "fn_val() takes exactly one argument"⟩,
    ⟨"fn_print", [param "env" .environment, ⟨"args", .variadic, some .object, none⟩],
      some .none, printAll⟩ ]

/-- Registers host functions under their builtin names, adapting each. -/
def registerAll (r : Registry Signature) (fs : List HostFunction) : Registry Signature :=
  fs.foldl (fun r f =>
    match basicName? f.name with
    | some n =>
      match Builtin.adapt f n with
      | .ok b => r.register n b.shape.arity (some (.adapted b))
      | .error _ => r
    | none => r) r

/-- The registry of the standard builtins. -/
def standardRegistry : Registry Signature :=
  registerAll Registry.empty standardFunctions

end CallBasic
