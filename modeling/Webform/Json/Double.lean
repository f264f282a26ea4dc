/-!
# Binary floating point numbers

A `Double` is a finite number of the 64-bit binary format, as a sign, a significand and a power of two. Sums of the format are
not needed here: a number is read from decimal parts (`Double.ofParts`) and written with the fewest digits that read back
(`Double.toList`), and both work on natural numbers alone, so nothing rests on the machine's arithmetic.
-/

namespace Webform.Json

/-- A finite number `± significand · 2 ^ exponent` of the 64-bit format. The functions below keep it in normal form: the
significand is below `2 ^ 53`, the exponent at least `-1074`, and one of the two is as large, or as small, as it can be. -/
structure Double where
  negative : Bool
  significand : Nat
  exponent : Int
deriving DecidableEq, Repr, Inhabited

/-- The quotient rounded to the nearest natural number, a half to the even one. -/
def roundHalfEven (num den : Nat) : Nat :=
  let q := num / den
  let r := num % den
  if den < 2 * r ∨ (2 * r = den ∧ q % 2 = 1) then q + 1 else q

/-- The fraction `num / den` divided by `2 ^ e`, as a fraction. -/
def scaleByTwo (num den : Nat) (e : Int) : Nat × Nat :=
  if 0 ≤ e then (num, den * Nat.pow 2 e.toNat) else (num * Nat.pow 2 (-e).toNat, den)

namespace Double

/-- Zero with either sign. -/
def zero (negative : Bool) : Double := ⟨negative, 0, -1074⟩

def isZero (d : Double) : Bool := d.significand == 0

/-- The same number with the given sign. -/
def withSign (negative : Bool) (d : Double) : Double := { d with negative := negative }

/-- The exponent of the last place of the double nearest to `num / den`: the quotient has 53 binary digits at that place, or
fewer at the smallest exponent there is. -/
def lastPlace (num den : Nat) : Int :=
  let e : Int := (Nat.log2 num : Int) - (Nat.log2 den : Int) - 53
  let (n, d) := scaleByTwo num den e
  max (-1074) (if n / d < Nat.pow 2 53 then e else e + 1)

/-- The double nearest to the fraction `num / den`, ties to the even significand; `none` when the fraction is beyond the largest
finite double. -/
def ofFraction (num den : Nat) : Option Double :=
  if num = 0 then some (zero false)
  else
    let e := lastPlace num den
    let (n, d) := scaleByTwo num den e
    let m := roundHalfEven n d
    let (m, e) := if m = Nat.pow 2 53 then (Nat.pow 2 52, e + 1) else (m, e)
    if 971 < e then none else some ⟨false, m, e⟩

/-- The double nearest to a natural number. -/
def ofNat (n : Nat) : Option Double := ofFraction n 1

/-- The size of a double as a fraction. -/
def toFraction (d : Double) : Nat × Nat :=
  if 0 ≤ d.exponent then (d.significand * Nat.pow 2 d.exponent.toNat, 1)
  else (d.significand, Nat.pow 2 (-d.exponent).toNat)

/-- The rounded product of the sizes of two doubles. -/
def times (a b : Double) : Option Double :=
  ofFraction (a.toFraction.1 * b.toFraction.1) (a.toFraction.2 * b.toFraction.2)

/-- The rounded quotient of the sizes of two doubles. -/
def dividedBy (a b : Double) : Option Double :=
  ofFraction (a.toFraction.1 * b.toFraction.2) (a.toFraction.2 * b.toFraction.1)

/-- The size `digits · 10 ^ exponent`, computed with one rounding for the digits, one for the power of ten and one for their
product or quotient. Below `10 ^ -308` the digits are first divided by `10 ^ 308`; below `10 ^ -616` nothing is left of them.
`none` when the result is too large. -/
def ofParts (digits : Nat) (exponent : Int) : Option Double := do
  let f ← ofNat digits
  if f.isZero then return f
  if 308 < exponent then none
  else if 0 ≤ exponent then f.times (← ofNat (Nat.pow 10 exponent.toNat))
  else if -308 ≤ exponent then f.dividedBy (← ofNat (Nat.pow 10 (-exponent).toNat))
  else if -616 ≤ exponent then
    (← f.dividedBy (← ofNat (Nat.pow 10 308))).dividedBy (← ofNat (Nat.pow 10 (-exponent - 308).toNat))
  else return zero false

/-! ## The shortest decimal -/

/-- The number of decimal digits of `n`; zero has none. -/
def decimalLength (n : Nat) : Nat :=
  if n = 0 then 0 else (Nat.toDigits 10 n).length

/-- The power of ten of the first decimal digit of the fraction `num / den`, which is not zero. -/
def leadingPower (num den : Nat) : Int :=
  if den ≤ num then (decimalLength (num / den) : Int) - 1 else -(decimalLength ((den - 1) / num) : Int)

/-- A fraction divided by `10 ^ p`. -/
def scaleByTen (num den : Nat) (p : Int) : Nat × Nat :=
  if 0 ≤ p then (num, den * Nat.pow 10 p.toNat) else (num * Nat.pow 10 (-p).toNat, den)

/-- The interval of reals that round to a double, in quarters of its last place: from `low` to `high` around `4 · significand`.
The ends belong to it when the significand is even. The step below a power of two is half as wide. -/
def neighbourhood (d : Double) : Nat × Nat :=
  let low := if d.significand = Nat.pow 2 52 ∧ d.exponent ≠ -1074 then 4 * d.significand - 1 else 4 * d.significand - 2
  (low, 4 * d.significand + 2)

/-- The candidate with `count` digits: of the two neighbours of `d` on the decimal grid with that many digits, those that round
to `d`, the nearer one first; an exact tie goes to the even one. -/
def candidate (d : Double) (count : Nat) : Option (Nat × Int) :=
  let (n, den) := d.toFraction
  let p := leadingPower n den - count + 1
  -- In quarters of the last place, over the grid's step.
  let (qn, qd) := scaleByTen n den p
  let m := d.significand
  let (low, high) := d.neighbourhood
  let lower := qn / qd
  -- `x` stands for `x · 10 ^ p = x · qd / qn · significand` last places.
  let inside (x : Nat) : Bool :=
    if m % 2 = 0 then low * qn ≤ 4 * x * qd * m && 4 * x * qd * m ≤ high * qn
    else low * qn < 4 * x * qd * m && 4 * x * qd * m < high * qn
  let nearest := roundHalfEven qn qd
  let other := if nearest = lower then lower + 1 else lower
  if inside nearest then some (nearest, p) else if inside other then some (other, p) else none

/-- The decimal with the fewest digits that rounds to `d`, as digits and a power of ten. Seventeen digits always suffice. -/
def shortest (d : Double) : Nat × Int :=
  ((List.range 17).findSome? fun k => d.candidate (k + 1)).getD (0, 0)

/-- Takes the zeros off the end of a decimal. -/
def stripZeros : Nat → Nat → Int → Nat × Int
  | 0, n, p => (n, p)
  | fuel + 1, n, p => if n % 10 = 0 ∧ n ≠ 0 then stripZeros fuel (n / 10) (p + 1) else (n, p)

/-- The written form of a size: positional from `0.00001` up to below `10 ^ 16`, else with an exponent that carries its sign.
Positional numbers have at least one digit on either side of the point. -/
def sizeToList (d : Double) : List Char :=
  if d.isZero then ['0', '.', '0']
  else
    let (n, p) := d.shortest
    let (n, p) := stripZeros 17 n p
    let ds := Nat.toDigits 10 n
    let point : Int := ds.length + p
    if 0 ≤ p ∧ point ≤ 16 then ds ++ List.replicate p.toNat '0' ++ ['.', '0']
    else if 0 < point ∧ point ≤ 16 then ds.take point.toNat ++ '.' :: ds.drop point.toNat
    else if -5 < point ∧ point ≤ 0 then ['0', '.'] ++ List.replicate (-point).toNat '0' ++ ds
    else
      let fraction := match ds.drop 1 with
        | [] => []
        | rest => '.' :: rest
      let e := point - 1
      ds.take 1 ++ fraction ++ ['e', if e < 0 then '-' else '+'] ++ Nat.toDigits 10 e.natAbs

/-- The written form of a double. -/
def toList (d : Double) : List Char :=
  if d.negative then '-' :: d.sizeToList else d.sizeToList

end Double

end Webform.Json
