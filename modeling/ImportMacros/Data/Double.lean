/-!
# ImportMacros.Data.Double

Finite binary64 numbers, in exact natural-number arithmetic.

* `Double.round` takes a fraction to the nearest double, a tie to the even mantissa.
* `Double.decimal` finds the fewest decimal digits that round back to a double.
* `Double.text` writes them: positional up to sixteen digits before the point and five zeros
  after it, with an exponent beyond.
-/

namespace ImportMacros

def twoPow (k : Nat) : Nat := Nat.pow 2 k

def tenPow (k : Nat) : Nat := Nat.pow 10 k

/-- The number `± mantissa · 2 ^ exponent`. The mantissa is below `2 ^ 53`, the exponent at least
`-1074`, and the mantissa is at least `2 ^ 52` unless the exponent is `-1074`. -/
structure Double where
  negative : Bool
  mantissa : Nat
  exponent : Int
deriving DecidableEq, Repr, Inhabited

namespace Double

def minExponent : Int := -1074

def maxExponent : Int := 971

def zero (negative : Bool) : Double := ⟨negative, 0, minExponent⟩

/-- `num / den` to the nearest whole number, a half to the even one. -/
def roundDiv (num den : Nat) : Nat :=
  let q := num / den
  let r := num % den
  if 2 * r > den || (2 * r == den && q % 2 == 1) then q + 1 else q

/-- The fraction `num / den · 2 ^ -e`, as numerator and denominator. -/
def scale (num den : Nat) (e : Int) : Nat × Nat :=
  if e ≥ 0 then (num, den * twoPow e.toNat) else (num * twoPow (-e).toNat, den)

/-- The exponent at which `num / den` has a mantissa of 53 bits, or the least exponent. -/
def fitExponent (num den : Nat) : Int :=
  let e : Int := (num.log2 : Int) - den.log2 - 53
  let (n, d) := scale num den e
  max minExponent (if n / d ≥ twoPow 53 then e + 1 else e)

/-- The double nearest to `± num / den`; none if it is too large. -/
def round (negative : Bool) (num den : Nat) : Option Double :=
  if num = 0 || den = 0 then some (zero negative)
  else
    let e := fitExponent num den
    let (n, d) := scale num den e
    let m := roundDiv n d
    let (m, e) := if m = twoPow 53 then (twoPow 52, e + 1) else (m, e)
    if e > maxExponent then none else some ⟨negative, m, e⟩

def ofInt (n : Int) : Option Double := round (n < 0) n.natAbs 1

def fraction (x : Double) : Nat × Nat :=
  if x.exponent ≥ 0 then (x.mantissa * twoPow x.exponent.toNat, 1)
  else (x.mantissa, twoPow (-x.exponent).toNat)

def mul (x y : Double) : Option Double :=
  round (x.negative != y.negative) (x.fraction.1 * y.fraction.1) (x.fraction.2 * y.fraction.2)

def div (x y : Double) : Option Double :=
  round (x.negative != y.negative) (x.fraction.1 * y.fraction.2) (x.fraction.2 * y.fraction.1)

def toInt? (x : Double) : Option Int :=
  let (n, d) := x.fraction
  if n % d = 0 then some (if x.negative then -((n / d : Nat) : Int) else (n / d : Nat)) else none

/-- Whether the decimal `digits · 10 ^ power` rounds to the magnitude of `x`. The numbers that do
reach half a step up and half a step down, a quarter step where the steps below are half as
long; the ends count for an even mantissa. -/
def reads (x : Double) (digits : Nat) (power : Int) : Bool :=
  let below := if x.mantissa = twoPow 52 && x.exponent > minExponent then 1 else 2
  let lo := scale (4 * x.mantissa - below) 1 (2 - x.exponent)
  let hi := scale (4 * x.mantissa + 2) 1 (2 - x.exponent)
  let n := if power ≥ 0 then digits * tenPow power.toNat else digits
  let d := if power ≥ 0 then 1 else tenPow (-power).toNat
  let left := lo.1 * d
  let middle₁ := n * lo.2
  let middle₂ := n * hi.2
  let right := hi.1 * d
  if x.mantissa % 2 = 0 then left ≤ middle₁ && middle₂ ≤ right
  else left < middle₁ && middle₂ < right

/-- The decimal exponent of the leading digit of `num / den`. -/
def leadingPower (num den : Nat) : Int :=
  let fits (k : Int) : Bool :=
    if k ≥ 0 then num ≥ den * tenPow k.toNat else num * tenPow (-k).toNat ≥ den
  let guess : Int := (((num.log2 : Int) - den.log2) * 30103) / 100000
  if fits (guess + 1) then guess + 1 else if fits guess then guess else guess - 1

/-- The digits of the grid `10 ^ power` that read back as `x`, the nearer neighbour first. -/
def onGrid (x : Double) (power : Int) : Option Nat :=
  let (n, d) := x.fraction
  let (n, d) := if power ≥ 0 then (n, d * tenPow power.toNat) else (n * tenPow (-power).toNat, d)
  let low := n / d
  let near := roundDiv n d
  let far := if near = low then low + 1 else low
  if x.reads near power then some near
  else if x.reads far power then some far
  else none

/-- The first grid, out of `count` of them from `power` on, with digits that read back as `x`. -/
def firstGrid (x : Double) (power : Int) : Nat → Nat × Int
  | 0 => (0, power)
  | count + 1 =>
    match x.onGrid power with
    | some 10 => (1, power + 1)
    | some digits => (digits, power)
    | none => firstGrid x (power - 1) count

/-- The fewest digits that read back as the magnitude of `x`, and the power of ten of the last. -/
def decimal (x : Double) : Nat × Int :=
  if x.mantissa = 0 then (0, 0)
  else firstGrid x (leadingPower x.fraction.1 x.fraction.2) 18

def text (x : Double) : String :=
  let sign := if x.negative then "-" else ""
  let (digits, power) := x.decimal
  let shown := toString digits
  let point : Int := shown.length + power
  let zeros (n : Int) : String := String.ofList (List.replicate n.toNat '0')
  if digits = 0 then sign ++ "0.0"
  else if 0 ≤ power && point ≤ 16 then sign ++ shown ++ zeros power ++ ".0"
  else if 0 < point && point ≤ 16 then
    sign ++ (shown.take point.toNat).toString ++ "." ++ (shown.drop point.toNat).toString
  else if -5 < point && point ≤ 0 then sign ++ "0." ++ zeros (-point) ++ shown
  else
    let head := (shown.take 1).toString
    let tail := (shown.drop 1).toString
    sign ++ head ++ (if tail.isEmpty then "" else "." ++ tail) ++ "e" ++ toString (point - 1)

end Double
end ImportMacros
