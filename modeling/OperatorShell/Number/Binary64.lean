import OperatorShell.Text.Numeral

/-!
# Binary fractions of 53 bits

A finite double is a pair of integers: a significand below 2^53 and a power of two. Everything here
is exact arithmetic on integers.

* `Binary64.ofDecimal`: the double nearest to a decimal.
* `Binary64.shortest`: the decimal with the fewest digits that reads back as the same double, and
  of those the nearest.
* `Binary64.positional`: that decimal without an exponent.
-/

namespace OperatorShell

/-- The value `significand * 2 ^ exponent`. -/
structure Binary64 where
  significand : Nat
  exponent : Int
  deriving DecidableEq, Repr

namespace Binary64

/-- One more than the largest significand. -/
def significandLimit : Nat := 0x20000000000000

/-- The exponent of the finest doubles. -/
def minExponent : Int := -1074

/-- The exponent of the coarsest doubles. -/
def maxExponent : Int := 971

/-- Zero. -/
def zero : Binary64 := ⟨0, minExponent⟩

/-- A quotient rounded to the nearest integer, and to the even one of two. -/
def roundDiv (num den : Nat) : Nat :=
  let q := num / den
  let r := num % den
  if 2 * r < den then q
  else if den < 2 * r then q + 1
  else if q % 2 = 0 then q else q + 1

/-- A fraction for `n * base ^ e`. -/
def scale (n base : Nat) (e : Int) : Nat × Nat :=
  match e with
  | .ofNat e => (n * Nat.pow base e, 1)
  | .negSucc e => (n, Nat.pow base (e + 1))

/-- A fraction over `2 ^ e`, as a fraction. -/
def overPower (num den : Nat) (e : Int) : Nat × Nat :=
  match e with
  | .ofNat e => (num, den * Nat.pow 2 e)
  | .negSucc e => (num * Nat.pow 2 (e + 1), den)

/-- The double nearest to a fraction at a given exponent. -/
def atExponent (num den : Nat) (e : Int) : Nat :=
  let (n, d) := overPower num den e
  roundDiv n d

/-- The double nearest to a positive fraction; there is none past the largest double. -/
def ofFraction? (num den : Nat) : Option Binary64 :=
  let guess := max ((Nat.log2 num : Int) - Nat.log2 den - 53) minExponent
  let (n, d) := overPower num den guess
  let e := if n / d < significandLimit then guess else guess + 1
  let m := atExponent num den e
  let (m, e) := if m = significandLimit then (m / 2, e + 1) else (m, e)
  if maxExponent < e then none else some ⟨m, e⟩

/-- Decimal exponents beyond this bound need no arithmetic: they lead to zero or past the largest
double. -/
def decimalReach : Int := 400

/-- The double nearest to `n * 10 ^ e`; there is none past the largest double. -/
def ofDecimal? (n : Nat) (e : Int) : Option Binary64 :=
  let magnitude := (Text.decimal n).length + e
  if n = 0 ∨ magnitude < -decimalReach then some zero
  else if decimalReach < magnitude then none
  else
    let (num, den) := scale n 10 e
    ofFraction? num den

/-- A natural number with a decimal exponent. -/
structure Decimal where
  digits : Nat
  exponent : Int
  deriving DecidableEq, Repr

/-- The interval of values that round to a double, in quarters of its unit. Its ends belong to it
when the significand is even. -/
def interval (x : Binary64) : Nat × Nat :=
  let low :=
    if x.significand = significandLimit / 2 ∧ minExponent < x.exponent then 1 else 2
  (4 * x.significand - low, 4 * x.significand + 2)

/-- The point `k` of the grid of multiples of `10 ^ e`, as a fraction of a quarter of the unit. -/
def gridPoint (x : Binary64) (k : Nat) (e : Int) : Nat × Nat :=
  let (num, den) := scale k 10 e
  overPower num den (x.exponent - 2)

/-- Whether a grid point rounds to a double. -/
def roundsTo (x : Binary64) (k : Nat) (e : Int) : Bool :=
  let (num, den) := gridPoint x k e
  let (low, high) := interval x
  if x.significand % 2 = 0 then low * den ≤ num && num ≤ high * den
  else low * den < num && num < high * den

/-- The point of a grid that rounds to a double and is nearest to it; of two the even one. -/
def nearestOnGrid? (x : Binary64) (e : Int) : Option Nat :=
  let (num, den) := scale x.significand 2 x.exponent
  let (n, d) :=
    match e with
    | .ofNat e => (num, den * Nat.pow 10 e)
    | .negSucc e => (num * Nat.pow 10 (e + 1), den)
  let below := n / d
  let nearest := roundDiv n d
  let other := if nearest = below then below + 1 else below
  if roundsTo x nearest e then some nearest
  else if roundsTo x other e then some other
  else none

/-- The shortest decimal, among those whose last digit has one of the next `fuel` exponents below
`e`. -/
def shortestBelow (x : Binary64) : Nat → Int → Decimal
  | 0, e => ⟨0, e⟩
  | fuel + 1, e =>
    match nearestOnGrid? x e with
    | some k => if k = 0 then shortestBelow x fuel (e - 1) else ⟨k, e⟩
    | none => shortestBelow x fuel (e - 1)

/-- How many exponents are tried. Seventeen digits always suffice. -/
def shortestTries : Nat := 24

/-- The decimal with the fewest digits that reads back as a double. -/
def shortest (x : Binary64) : Decimal :=
  if x.significand = 0 then ⟨0, 0⟩
  else
    let bits := (Nat.log2 x.significand : Int) + x.exponent
    shortestBelow x shortestTries (bits * 30103 / 100000 + 2)

/-- A decimal without an exponent, with at least one digit on either side of the point. -/
def Decimal.positional (d : Decimal) : Text :=
  match d.exponent with
  | .ofNat e => Text.decimal (d.digits * Nat.pow 10 e) ++ ".0".toList
  | .negSucc e =>
    let places := e + 1
    let fraction := Text.decimal (d.digits % Nat.pow 10 places)
    Text.decimal (d.digits / Nat.pow 10 places) ++
      '.' :: (List.replicate (places - fraction.length) '0' ++ fraction)

/-- The shortest decimal of a double, without an exponent. -/
def positional (x : Binary64) : Text := x.shortest.positional

end Binary64

end OperatorShell
