import CallBasic.Decimal.Binary
/-!
# Shortest decimal digits of a double

Every positive double `m * 2^q` owns the interval of reals that round to it: half-way to
each neighbouring double, with both ends included when `m` is even (a real half-way between
two doubles rounds to the one with the even mantissa). The shortest digits of the double are
the fewest significant decimal digits of a decimal in that interval, and of two such
decimals the one nearer to the double, the even one on an exact tie.

The search goes through the digit counts one to seventeen. For `n` digits the grid is
`10^(k - n)`, where `10^(k-1) ≤ m * 2^q < 10^k`; if a point of that grid lies in the
interval, so does one of the two grid points next to the double, so only those two are
tested. Seventeen digits always find a point, since the grid is then finer than the
interval.
-/

namespace CallBasic.Decimal

-- Powers of naturals are `Nat.pow`, also where a library brings other instances for them;
-- a literal exponent is written as a natural so that it is resolved the same way.
attribute [local instance (high)] instPowNat

/-- Significant decimal digits `sig` with a decimal point after the first `point` of them:
the value `sig * 10^(point - len)`, where `len` is the number of digits of `sig`. -/
structure Digits where
  sig : Nat
  len : Nat
  point : Int
  deriving Repr, DecidableEq

/-- `m * 2^q` compared with `10^k`. -/
def comparePow10 (m : Nat) (q : Int) (k : Int) : Ordering :=
  compareScaled m q 0 1 0 k

/-- The decimal exponent `k` of a positive `m * 2^q`: the one with
`10^(k-1) ≤ m * 2^q < 10^k`. The estimate from the binary length is off by at most one, so
it is corrected by looking at its neighbours. -/
def decimalExponent (m : Nat) (q : Int) : Int :=
  let bits : Int := (Nat.log2 m : Int) + q
  let est : Int := bits * 315653 / 1048576 + 1
  let fits (k : Int) : Bool :=
    comparePow10 m q (k - 1) != .lt && comparePow10 m q k == .lt
  if fits est then est
  else if fits (est + 1) then est + 1
  else if fits (est - 1) then est - 1
  else est + 2

/-- The interval of reals that round to the positive double `m * 2^q`, as the numerators of
its ends over `2^(q-2)`, and whether the ends belong to it. The gap below is half as wide
when `m` is the smallest mantissa of its binade and the binade is not the lowest. -/
def roundingInterval (m : Nat) (q : Int) : Nat × Nat × Bool :=
  let low := if m == 2 ^ (52 : Nat) && q > -1074 then 4 * m - 1 else 4 * m - 2
  (low, 4 * m + 2, m % 2 == 0)

/-- Whether the decimal `c * 10^j` rounds to the positive double `m * 2^q`. -/
def roundsTo (m : Nat) (q : Int) (c : Nat) (j : Int) : Bool :=
  let (low, high, closed) := roundingInterval m q
  let aboveLow := compareScaled c 0 j low (q - 2) 0
  let belowHigh := compareScaled c 0 j high (q - 2) 0
  (aboveLow == .gt || (closed && aboveLow == .eq)) &&
    (belowHigh == .lt || (closed && belowHigh == .eq))

/-- The grid point at or below `m * 2^q` on the grid `10^j`. -/
def gridFloor (m : Nat) (q : Int) (j : Int) : Nat :=
  (m * 2 ^ q.toNat * 10 ^ (-j).toNat) / (2 ^ (-q).toNat * 10 ^ j.toNat)

/-- Of two neighbouring grid points `c` and `c + 1` on the grid `10^j`, the one nearer to
`m * 2^q`, the even one on a tie. -/
def nearerOf (m : Nat) (q : Int) (c : Nat) (j : Int) : Nat :=
  match compareScaled (2 * m) q 0 (2 * c + 1) 0 j with
  | .lt => c
  | .gt => c + 1
  | .eq => if c % 2 == 0 then c else c + 1

/-- Digits `c` found on the grid of `n` significant digits. A carry to `10^n` is the single
digit one at the next decimal exponent. -/
def Digits.ofGrid (c n : Nat) (k : Int) : Digits :=
  if c == 10 ^ n then ⟨1, 1, k + 1⟩ else ⟨c, n, k⟩

/-- The first digits, with `n` significant digits for `n` from `n` on and at most `fuel`
counts tried, that round to the positive double `m * 2^q` whose decimal exponent is `k`. -/
def searchDigits (m : Nat) (q k : Int) : Nat → Nat → Digits
  | n, 0 => ⟨gridFloor m q (k - n), n, k⟩
  | n, fuel + 1 =>
    let j := k - n
    let c := gridFloor m q j
    let lowIn := roundsTo m q c j
    let highIn := roundsTo m q (c + 1) j
    if lowIn && highIn then Digits.ofGrid (nearerOf m q c j) n k
    else if lowIn then ⟨c, n, k⟩
    else if highIn then Digits.ofGrid (c + 1) n k
    else searchDigits m q k (n + 1) fuel

/-- The shortest digits of the positive double `m * 2^q`. -/
def shortest (m : Nat) (q : Int) : Digits :=
  searchDigits m q (decimalExponent m q) 1 17

end CallBasic.Decimal
