import CallBasic.Value
import CallBasic.Host.Error
import CallBasic.Decimal.Layout
import CallBasic.Decimal.Read
/-!
# Host values

The plain values of the host side of the extension boundary: nothing, truth values,
integers of any size, doubles, texts, lists and string-keyed records, and runtime values
passed through unchanged. Builtins written on the host side receive and return these.

Three conversions cross the boundary, each with the host's own rules: `HostValue.toValue`
makes a runtime value of a plain one, `HostValue.toFloat` reads a double from a value (as
the host's float constructor does), and `HostValue.text` is the host's text of a value.
-/

namespace CallBasic

/-- A plain value of the host side. -/
inductive HostValue where
  | none
  | bool (b : Bool)
  | int (n : Int)
  | float (x : Float)
  | str (s : CodeString)
  | list (xs : List HostValue)
  | record (entries : List (String × HostValue))
  | obj (v : Value)
  deriving Inhabited

/-- Shortest digits as the host writes a double: positionally for decimal points from `-3`
to `16` digits, a whole number with `.0`, otherwise one digit, the others after a point, and
an exponent with a sign and at least two digits; `nan` and `inf`. -/
def hostLayout : Decimal.Layout := ⟨-3, 16, true, 2, true, "nan", "inf"⟩

/-- The host's text of a double. -/
def floatText (x : Float) : String :=
  hostLayout.render x

namespace HostValue

/-- The host's class name of a value. -/
def typeName : HostValue → String
  | .none => "NoneType"
  | .bool _ => "bool"
  | .int _ => "int"
  | .float _ => "float"
  | .str _ => "str"
  | .list _ => "list"
  | .record _ => "dict"
  | .obj (.num _) => "NumberObject"
  | .obj (.str _) => "StringObject"
  | .obj (.err _) => "ErrorObject"

/-- The kind of a value as type mismatches report it: the kind of a runtime value, else the
host's class name. -/
def kindName : HostValue → String
  | .obj v => v.kindName
  | v => v.typeName

/-- The host's written form of a runtime value, as its diagnostics show it. -/
def objectForm : Value → String
  | .num x => "NumberObject(value=" ++ floatText x ++ ")"
  | .str s => "StringObject(value=" ++ s.quote ++ ")"
  | .err t => "ErrorObject(value=" ++ t.quote ++ ")"

mutual
/-- The host's written form of a value: texts quoted, lists and records with their
elements' written forms. -/
def repr : HostValue → String
  | .none => "None"
  | .bool b => if b then "True" else "False"
  | .int n => toString n
  | .float x => floatText x
  | .str s => s.quote
  | .list xs => "[" ++ reprList xs ++ "]"
  | .record es => "\x7b" ++ reprEntries es ++ "\x7d"
  | .obj v => objectForm v

/-- The written forms of list elements, separated by a comma and a space. -/
def reprList : List HostValue → String
  | [] => ""
  | [x] => repr x
  | x :: xs => repr x ++ ", " ++ reprList xs

/-- The written forms of record entries, separated by a comma and a space. -/
def reprEntries : List (String × HostValue) → String
  | [] => ""
  | [(k, v)] => Text.quote k ++ ": " ++ repr v
  | (k, v) :: es => Text.quote k ++ ": " ++ repr v ++ ", " ++ reprEntries es
end

/-- The host's text of a value: a text is itself, any other value its written form. -/
def text : HostValue → CodeString
  | .str s => s
  | v => repr v

/-- The double nearest to an integer, or an overflow error when it would be infinite. -/
def intToFloat (n : Int) : Except HostError Float :=
  let x := Float.ofScientific n.natAbs false 0
  if x.isInf then .error ⟨.overflowError, "int too large to convert to float"⟩
  else .ok (if n < 0 then -x else x)

/-- The runtime value of a plain value: nothing is the number zero, a truth value is one or
zero, integers and doubles are numbers, a text is a text, and a runtime value stays itself.
Lists and records have no runtime value. -/
def toValue : HostValue → Except HostError Value
  | .obj v => .ok v
  | .none => .ok (.num 0)
  | .bool b => .ok (.num (if b then 1 else 0))
  | .int n => (intToFloat n).map .num
  | .float x => .ok (.num x)
  | .str s => .ok (.str s)
  | v => .error ⟨.typeError, "Cannot represent " ++ v.typeName ++ " as a runtime object."⟩

/-- A double read from a value by the host's float constructor: doubles as they are,
integers and truth values by value, texts read as decimal numerals. -/
def toFloat : HostValue → Except HostError Float
  | .float x => .ok x
  | .int n => intToFloat n
  | .bool b => .ok (if b then 1 else 0)
  | .str s =>
    match s.toString?.bind Decimal.readFloat? with
    | some x => .ok x
    | Option.none => .error ⟨.valueError, "could not convert string to float: " ++ s.quote⟩
  | v => .error ⟨.typeError,
      "float() argument must be a string or a real number, not " ++ Text.quote v.typeName⟩

end HostValue

/-- A double as an integer, rounded toward zero, as the host's integer constructor does;
not-a-number and the infinities have no integer. -/
def truncFloat (x : Float) : Except HostError Int :=
  match Decimal.Binary.ofFloat x with
  | .nan => .error ⟨.valueError, "cannot convert float NaN to integer"⟩
  | .inf _ => .error ⟨.overflowError, "cannot convert float infinity to integer"⟩
  | b => .ok (b.trunc?.getD 0)

end CallBasic
