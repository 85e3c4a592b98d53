import ImportMacros.Data.Value

/-!
# ImportMacros.Data.Decimal

Numerals. `Numeral.split?` cuts a text into sign, digits, fraction and exponent; three readers
turn the parts into numbers:

* `Numeral.double?` rounds the exact decimal once,
* `Numeral.quick?` rounds the digits and the power of ten apart, and then once more, as a reader
  in a hurry does,
* `digitsNat` reads digits in any base.
-/

namespace ImportMacros

/-- The value of a digit, letters included. -/
def digitValue (c : Char) : Nat :=
  if c.isDigit then c.toNat - '0'.toNat
  else if 'a' ≤ c && c ≤ 'z' then c.toNat - 'a'.toNat + 10
  else if 'A' ≤ c && c ≤ 'Z' then c.toNat - 'A'.toNat + 10
  else 99

/-- A non-empty run of digits of `base`, read as a number. -/
def digitsNat? (base : Nat) (cs : List Char) : Option Nat :=
  if cs.isEmpty || cs.any (fun c => digitValue c ≥ base) then none
  else some (cs.foldl (fun n c => n * base + digitValue c) 0)

/-- The number that decimal digits spell; no digits spell zero. -/
def digitsNat (cs : List Char) : Nat := cs.foldl (fun n c => n * 10 + digitValue c) 0

structure Numeral where
  sign : Option Char
  whole : List Char
  fraction : Option (List Char)
  /-- The exponent, if one is written: whether it is negative, and its digits. -/
  exponent : Option (Bool × List Char)
deriving Repr, Inhabited

namespace Numeral

/-- Reads an exponent up to the end. -/
def splitExponent? : List Char → Option (Option (Bool × List Char))
  | [] => some none
  | c :: cs =>
    if c = 'e' || c = 'E' then
      let (negative, digits) :=
        match cs with
        | '-' :: digits => (true, digits)
        | '+' :: digits => (false, digits)
        | digits => (false, digits)
      if digits.isEmpty || digits.any (!·.isDigit) then none else some (some (negative, digits))
    else none

/-- Cuts a text into the parts of a numeral. Any part may be empty, but for an exponent. -/
def split? (cs : List Char) : Option Numeral :=
  let (sign, cs) :=
    match cs with
    | '-' :: rest => (some '-', rest)
    | '+' :: rest => (some '+', rest)
    | rest => (none, rest)
  let whole := cs.takeWhile Char.isDigit
  let rest := cs.dropWhile Char.isDigit
  match rest with
  | '.' :: rest =>
    (splitExponent? (rest.dropWhile Char.isDigit)).map
      (⟨sign, whole, some (rest.takeWhile Char.isDigit), ·⟩)
  | rest => (splitExponent? rest).map (⟨sign, whole, none, ·⟩)

def isNegative (n : Numeral) : Bool := n.sign == some '-'

def power (n : Numeral) : Int :=
  match n.exponent with
  | none => 0
  | some (true, digits) => -(digitsNat digits : Int)
  | some (false, digits) => (digitsNat digits : Int)

def digits (n : Numeral) : List Char := n.whole ++ n.fraction.getD []

/-- The double nearest to a numeral; none if it is too large. Exponents far beyond the range of
doubles are cut, which no rounding can tell. -/
def double? (n : Numeral) : Option Double :=
  let value := digitsNat n.digits
  let places : Int := (n.fraction.getD []).length
  let bound : Int := 2000 + n.digits.length
  let power := max (-bound) (min bound (n.power - places))
  if value = 0 then some (.zero n.isNegative)
  else if power ≥ 0 then Double.round n.isNegative (value * tenPow power.toNat) 1
  else Double.round n.isNegative value (tenPow (-power).toNat)

/-- The largest mantissa that a quick reading keeps. -/
def quickLimit : Nat := twoPow 64 - 1

/-- Adds digits to a mantissa up to the first that does not fit; gives the digits left over. -/
def quickDigits (value : Nat) : List Char → Nat × List Char
  | [] => (value, [])
  | c :: cs =>
    let next := value * 10 + digitValue c
    if next > quickLimit then (value, c :: cs) else quickDigits next cs

/-- Scales a double down by `10 ^ power`, in steps of at most `10 ^ 308`. -/
def quickDown (x : Double) (power : Nat) : Option Double :=
  if power ≤ 308 then (Double.ofInt (tenPow power)).bind (Double.div x)
  else if x.mantissa = 0 then some x
  else (((Double.ofInt (tenPow 308)).bind (Double.div x)).bind (quickDown · (power - 308)))
termination_by power
decreasing_by omega

/-- The double that a quick reading makes of a numeral: the digits that fit into 64 bits, times or
over a power of ten, each rounded to a double. None if it is too large. -/
def quick? (n : Numeral) : Option Double :=
  let (value, left) := quickDigits 0 n.whole
  let (value, power) : Nat × Int :=
    match n.fraction with
    | none => (value, left.length)
    | some fraction =>
      let (value', left') := quickDigits value fraction
      (value', left.length - (fraction.length - left'.length : Nat))
  let huge := (n.power.natAbs : Nat) ≥ twoPow 31
  if huge then (if value ≠ 0 && n.power > 0 then none else some (.zero n.isNegative))
  else
    let power := power + n.power
    let magnitude : Option Double :=
      (Double.ofInt value).bind fun x =>
        if power ≥ 0 then
          if power ≤ 308 then (Double.ofInt (tenPow power.toNat)).bind (Double.mul x)
          else if value = 0 then some x else none
        else quickDown x (-power).toNat
    magnitude.map ({ · with negative := n.isNegative })

end Numeral
end ImportMacros
