/-!
# The parts of a double

A double is read from its 64 bits as a sign, an 11-bit exponent field and a 52-bit fraction
field. A finite double is `±m * 2^q` for a natural `m` below `2^53`; every exact decimal
reading of a double starts from these parts, so the printers never go through a library
conversion whose rounding is not stated.
-/

namespace CallBasic.Decimal

-- Powers of naturals are `Nat.pow`, also where a library brings other instances for them;
-- a literal exponent is written as a natural so that it is resolved the same way.
attribute [local instance (high)] instPowNat

/-- What a double denotes: not a number, an infinity, or the exact value `±m * 2^q`. -/
inductive Binary where
  | nan
  | inf (neg : Bool)
  | finite (neg : Bool) (m : Nat) (q : Int)
  deriving Repr, DecidableEq

/-- The parts of a double, read off its bits. A subnormal double has exponent `-1074` and no
implicit leading bit; a normal one has the implicit bit `2^52`. -/
def Binary.ofFloat (x : Float) : Binary :=
  let b : Nat := x.toBits.toNat
  let neg : Bool := b / 2 ^ (63 : Nat) % 2 == 1
  let e : Nat := b / 2 ^ (52 : Nat) % 2048
  let f : Nat := b % 2 ^ (52 : Nat)
  if e == 2047 then (if f == 0 then .inf neg else .nan)
  else if e == 0 then .finite neg f (-1074)
  else .finite neg (f + 2 ^ (52 : Nat)) ((e : Int) - 1075)

/-- `a * 2^x * 10^y`, compared with `b * 2^u * 10^w` exactly, by moving every negative power
to the other side. -/
def compareScaled (a : Nat) (x y : Int) (b : Nat) (u w : Int) : Ordering :=
  let l := a * 2 ^ (x - u).toNat * 10 ^ (y - w).toNat
  let r := b * 2 ^ (u - x).toNat * 10 ^ (w - y).toNat
  compare l r

/-- The natural part of `m * 2^q`: the value rounded toward zero. -/
def truncPart (m : Nat) (q : Int) : Nat :=
  if 0 ≤ q then m * 2 ^ q.toNat else m / 2 ^ (-q).toNat

/-- Whether `m * 2^q` is a whole number. -/
def isWhole (m : Nat) (q : Int) : Bool :=
  0 ≤ q || m % 2 ^ (-q).toNat == 0

/-- A double as an integer rounded toward zero, or `none` for a value that is not finite. -/
def Binary.trunc? : Binary → Option Int
  | .finite neg m q => let n : Int := truncPart m q; some (if neg then -n else n)
  | _ => none

/-- Whether a double is finite and a whole number. -/
def Binary.isWhole : Binary → Bool
  | .finite _ m q => Decimal.isWhole m q
  | _ => false

end CallBasic.Decimal
