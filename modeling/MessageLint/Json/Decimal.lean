/-!
# MessageLint — decimal numbers in double precision

Numbers with a fraction or an exponent are held to the precision of 64 bits: a significand below
`2 ^ 53` times a power of two. They are shown by the fewest decimal digits that denote the same
number, in positions, with at least one place.
-/

namespace MessageLint.Json

/-- The number `significand · 2 ^ exponent`. -/
structure Double where
  significand : Nat
  exponent : Int
deriving DecidableEq, Repr

namespace Double

/-- Significands are below this. -/
def significandLimit : Nat := Nat.pow 2 53

/-- The least exponent. -/
def minExponent : Int := -1074

/-- Exponents are below this. -/
def exponentLimit : Int := 972

/-- A quotient rounded to the nearest natural number; a half goes to the even neighbour. -/
def roundDiv (num den : Nat) : Nat :=
  let q := num / den
  let twice := 2 * (num % den)
  if twice > den || (twice == den && q % 2 == 1) then q + 1 else q

/-- The quotient `num / den` as a fraction of `2 ^ e`. -/
def scale (num den : Nat) (e : Int) : Nat × Nat :=
  if e ≥ 0 then (num, den * Nat.pow 2 e.toNat) else (num * Nat.pow 2 (-e).toNat, den)

/-- The least exponent, from `minExponent` on, for which the significand of a quotient is below the
limit. -/
def exponentFor (num den : Nat) : Int :=
  let guess := max minExponent ((Nat.log2 num : Int) - Nat.log2 den - 53)
  let fits (e : Int) : Bool :=
    let (n, d) := scale num den e
    n < significandLimit * d
  if fits guess then guess else if fits (guess + 1) then guess + 1 else guess + 2

/-- The double nearest to a quotient; none if the quotient is too great. -/
def ofQuotient? (num den : Nat) : Option Double :=
  let e := exponentFor num den
  let (n, d) := scale num den e
  let m := roundDiv n d
  let rounded : Double :=
    if m < significandLimit then ⟨m, e⟩ else ⟨significandLimit / 2, e + 1⟩
  if rounded.exponent < exponentLimit then some rounded else none

/-- Numerator and denominator of a double. -/
def fraction (x : Double) : Nat × Nat :=
  if x.exponent ≥ 0 then (x.significand * Nat.pow 2 x.exponent.toNat, 1)
  else (x.significand, Nat.pow 2 (-x.exponent).toNat)

/-- The product of two doubles, rounded. -/
def mul? (x y : Double) : Option Double :=
  ofQuotient? (x.fraction.1 * y.fraction.1) (x.fraction.2 * y.fraction.2)

/-- The quotient of two doubles, rounded. -/
def div? (x y : Double) : Option Double :=
  ofQuotient? (x.fraction.1 * y.fraction.2) (x.fraction.2 * y.fraction.1)

/-- The greatest power of ten that a double can be near to. -/
def maxPower : Nat := 308

/-- The double `x · 10 ^ e`, computed from rounded powers of ten. Each step lowers a negative power
by `maxPower`, and after two of them nothing but zero is left. -/
def timesPower? (x : Double) (e : Int) : Nat → Option Double
  | 0 => some ⟨0, minExponent⟩
  | fuel + 1 =>
    if x.significand == 0 then some x
    else if e > maxPower then none
    else if e ≥ 0 then do x.mul? (← ofQuotient? (Nat.pow 10 e.toNat) 1)
    else if e ≥ -maxPower then do x.div? (← ofQuotient? (Nat.pow 10 (-e).toNat) 1)
    else do timesPower? (← x.div? (← ofQuotient? (Nat.pow 10 maxPower) 1)) (e + maxPower) fuel

/-- The double that a decimal `n · 10 ^ e` is read as; none if it is too great. -/
def ofDecimal? (n : Nat) (e : Int) : Option Double := do
  timesPower? (← ofQuotient? n 1) e 4

/-- The integer below `x / 10 ^ p`, for a fraction `x`. -/
def floorAt (x : Nat × Nat) (p : Int) : Nat :=
  if p ≥ 0 then x.1 / (x.2 * Nat.pow 10 p.toNat) else x.1 * Nat.pow 10 (-p).toNat / x.2

/-- Is `n · 10 ^ p` nearest to this double? -/
def isShownBy (x : Double) (n : Nat) (p : Int) : Bool :=
  if p ≥ 0 then ofQuotient? (n * Nat.pow 10 p.toNat) 1 == some x
  else ofQuotient? n (Nat.pow 10 (-p).toNat) == some x

/-- Is `n · 10 ^ p` nearer to `x` than `(n + 1) · 10 ^ p`? -/
def isNearer (x : Nat × Nat) (n : Nat) (p : Int) : Bool :=
  if p ≥ 0 then 2 * x.1 < (2 * n + 1) * Nat.pow 10 p.toNat * x.2
  else 2 * x.1 * Nat.pow 10 (-p).toNat < (2 * n + 1) * x.2

/-- The decimal of the fewest digits that denotes the same double, trying the powers of ten from `p`
downwards. -/
def shortestFrom (x : Double) (p : Int) : Nat → Nat × Int
  | 0 => (floorAt x.fraction p, p)
  | fuel + 1 =>
    let n := floorAt x.fraction p
    let below := x.isShownBy n p
    let above := x.isShownBy (n + 1) p
    if below && (!above || isNearer x.fraction n p) then (n, p)
    else if above then (n + 1, p)
    else shortestFrom x (p - 1) fuel

/-- The decimal `n · 10 ^ p` of the fewest digits that denotes the same double. -/
def shortest (x : Double) : Nat × Int :=
  if x.significand == 0 then (0, 0)
  else
    let whole := floorAt x.fraction 0
    let top : Int := if whole == 0 then 0 else (Nat.toDigits 10 whole).length
    shortestFrom x top 400

/-- A decimal `n · 10 ^ p` in positions, with at least one place. -/
def positional (n : Nat) (p : Int) : String :=
  let ds := Nat.toDigits 10 n
  if p ≥ 0 then
    String.ofList (if n == 0 then ['0'] else ds ++ List.replicate p.toNat '0') ++ ".0"
  else
    let places := (-p).toNat
    let padded := List.replicate (places + 1 - ds.length) '0' ++ ds
    let whole := padded.take (padded.length - places)
    let part := ((padded.drop (padded.length - places)).reverse.dropWhile (· == '0')).reverse
    String.ofList (whole ++ ['.'] ++ if part.isEmpty then ['0'] else part)

/-- How a double is shown. -/
def render (x : Double) : String :=
  let (n, p) := x.shortest
  positional n p

end Double

end MessageLint.Json
