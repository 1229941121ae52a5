import CallBasic.Value
/-!
# Programs

A program is a list of expressions. An expression is a literal value or a call of a
builtin by name with argument expressions; a bare name is a call without arguments. Every
expression remembers where it stands in its source: the file name, if the source has one,
and the line and column (both from one) of its first token, the name of a call or the
literal itself.
-/

namespace CallBasic

/-- A position in a source. -/
structure Pos where
  file : Option CodeString
  line : Nat
  column : Nat
  deriving DecidableEq, Repr, Inhabited

/-- An expression of a program. -/
inductive Expr where
  | lit (v : Value) (pos : Pos)
  | call (name : CodeString) (args : List Expr) (pos : Pos)
  deriving Inhabited

/-- The position of an expression. -/
def Expr.pos : Expr → Pos
  | .lit _ p => p
  | .call _ _ p => p

end CallBasic
