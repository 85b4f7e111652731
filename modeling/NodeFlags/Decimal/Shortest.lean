/-!
# Shortest decimals

A binary floating-point number stands for all reals that round to it. `shortest`
finds a decimal among them with the fewest digits, and of those the one nearest to
the number; of two that are equally near, the one with an even last digit.

The search is exact: the number is `m * 2^q`, the ends of its interval are multiples
of a smaller power of two, and decimals are compared with them in natural numbers.
-/

namespace NodeFlags.Decimal

/-- A positive finite number `m * 2^q`. -/
structure Binary where
  m : Nat
  q : Int
  /-- The gap to the number below is half the gap to the number above. -/
  narrowBelow : Bool

/-- The absolute value of the finite number with the given bits. -/
def Binary.ofBits (bits : Nat) : Binary :=
  let hidden : Nat := 0x10000000000000
  let e : Nat := bits / hidden % 0x800
  let f : Nat := bits % hidden
  if e = 0 then ⟨f, -1074, false⟩ else ⟨hidden + f, (e : Int) - 1075, f = 0 && 1 < e⟩

/-- The decimal `digits * 10^exponent`. -/
structure Dec where
  digits : Nat
  exponent : Int
  deriving DecidableEq, Repr

/-- The power of `b` with an exponent, 1 for a negative one. -/
def pow (b : Nat) (exponent : Int) : Nat :=
  Nat.pow b exponent.toNat

/-- Compare `a * 10^i` with `n * 2^j`. -/
def cmpScaled (a : Nat) (i : Int) (n : Nat) (j : Int) : Ordering :=
  compare (a * pow 10 i * pow 2 (-j)) (n * pow 2 j * pow 10 (-i))

/-- Whether a decimal lies among the reals that round to `x`, a tie going to an even `m`. -/
def Binary.covers (x : Binary) (d : Dec) : Bool :=
  let lo := if x.narrowBelow then 4 * x.m - 1 else 4 * x.m - 2
  let hi := 4 * x.m + 2
  let ends := x.m % 2 == 0
  let below := cmpScaled d.digits d.exponent lo (x.q - 2)
  let above := cmpScaled d.digits d.exponent hi (x.q - 2)
  (below == .gt || (ends && below == .eq)) && (above == .lt || (ends && above == .eq))

/-- The greatest decimal `n * 10^k` that is not above `x`, by its `n`. -/
def Binary.floorAt (x : Binary) (k : Int) : Nat :=
  (x.m * pow 2 x.q * pow 10 (-k)) / (pow 10 k * pow 2 (-x.q))

/-- The decimal on the grid `10^k` that stands for `x`, if one does. -/
def Binary.onGrid? (x : Binary) (k : Int) : Option Dec :=
  let n := x.floorAt k
  let lower : Dec := ⟨n, k⟩
  let upper : Dec := ⟨n + 1, k⟩
  match x.covers lower, x.covers upper with
  | true, true =>
    match cmpScaled (2 * n + 1) k (2 * x.m) x.q with
    | .gt => some lower
    | .lt => some upper
    | .eq => some (if n % 2 = 0 then lower else upper)
  | true, false => some lower
  | false, true => some upper
  | false, false => none

/-- Search the grids from `10^k` downwards. -/
def Binary.search (x : Binary) (k : Int) : Nat → Option Dec
  | 0 => none
  | n + 1 => (x.onGrid? k).or (x.search (k - 1) n)

/-- A decimal without the zeros at the end of its digits. -/
def Dec.strip : Nat → Dec → Dec
  | 0, d => d
  | n + 1, d =>
    if d.digits ≠ 0 ∧ d.digits % 10 = 0 then Dec.strip n ⟨d.digits / 10, d.exponent + 1⟩ else d

/-- The shortest decimal that stands for `x`. The coarsest grid tried is above every finite number
and the finest resolves every one of them, so the search ends with a hit. -/
def Binary.shortest (x : Binary) : Dec :=
  Dec.strip 400 ((x.search 309 650).getD ⟨0, 0⟩)

end NodeFlags.Decimal
