import ComponentFile.Json.Basic

/-!
The text of a decimal number: the fewest digits that denote the same double.

A decimal is first rounded to the nearest double, `mantissa * 2 ^ exponent`, a tie going to the even
mantissa (`Double.nearest`). The text then has the least number of significant digits among the
decimals which round to that double, and among these the nearest one (`Double.shortest`). It is
written positionally for exponents of moderate size and with an exponent mark otherwise
(`Decimal.layout`).
-/

namespace ComponentFile

namespace Json

/-! ### Doubles -/

/-- A non-negative double, `mantissa * 2 ^ exponent`. -/
structure Double where
  /-- The mantissa, below `2 ^ 53`. -/
  mantissa : Nat
  /-- The exponent, at least `-1074`. -/
  exponent : Int
  deriving DecidableEq, Repr

/-- The quotient rounded to the nearest integer, a tie going to the even one. -/
def roundDiv (num den : Nat) : Nat :=
  let q := num / den
  let r := num % den
  if 2 * r < den then q
  else if den < 2 * r then q + 1
  else if q % 2 = 0 then q else q + 1

/-- `num / den * base ^ e` as a quotient. -/
def scale (num den base : Nat) (e : Int) : Nat × Nat :=
  if 0 ≤ e then (num * base.pow e.toNat, den) else (num, den * base.pow (-e).toNat)

/-- The double nearest to a quotient of natural numbers. -/
def Double.nearest (num den : Nat) : Double :=
  if num = 0 then ⟨0, -1074⟩
  else
    let guess : Int := (Nat.log2 num : Int) - Nat.log2 den - 52
    -- the guess is the exponent of a mantissa of 52 to 54 bits
    let (n, d) := scale num den 2 (-guess)
    let exponent :=
      if n / d ≥ Nat.pow 2 53 then guess + 1
      else if n / d < Nat.pow 2 52 then guess - 1
      else guess
    let exponent := max exponent (-1074)
    let (n, d) := scale num den 2 (-exponent)
    let mantissa := roundDiv n d
    if mantissa = Nat.pow 2 53 then ⟨Nat.pow 2 52, exponent + 1⟩ else ⟨mantissa, exponent⟩

/-! ### The shortest decimal -/

/-- Whether `digits * 10 ^ e` lies among the numbers which round to a double. -/
def Double.holds (x : Double) (digits : Nat) (e : Int) : Bool :=
  let below := if x.mantissa = Nat.pow 2 52 && -1074 < x.exponent then 1 else 2
  let (ln, ld) := scale (4 * x.mantissa - below) 1 2 (x.exponent - 2)
  let (hn, hd) := scale (4 * x.mantissa + 2) 1 2 (x.exponent - 2)
  let (n, d) := scale digits 1 10 e
  if x.mantissa % 2 = 0 then ln * d ≤ n * ld && n * hd ≤ hn * d
  else ln * d < n * ld && n * hd < hn * d

/-- The exponent of the leading decimal digit of `num / den`, given bounds on its size. -/
def leadingExponent (num den : Nat) : Int :=
  let guess : Int := ((Nat.log2 num : Int) - Nat.log2 den) * 30103 / 100000
  let fits (e : Int) : Bool :=
    let (n, d) := scale num den 10 (-e)
    1 ≤ n / d && n / d < 10
  ([guess - 1, guess, guess + 1].find? fits).getD (guess + 2)

/-- Digits and exponent with the fewest digits for a double, trying `count` digits and more. -/
def Double.shortestFrom (x : Double) (num den : Nat) (top : Int) : (fuel count : Nat) → Nat × Int
  | 0, _ => (num / den, 0)
  | fuel + 1, count =>
    let e := top - count + 1
    let (n, d) := scale num den 10 (-e)
    let low := n / d
    let lowHolds := x.holds low e
    let highHolds := x.holds (low + 1) e
    if lowHolds && highHolds then
      (if 2 * (n % d) < d || (2 * (n % d) = d && low % 2 = 0) then low else low + 1, e)
    else if lowHolds then (low, e)
    else if highHolds then (low + 1, e)
    else x.shortestFrom num den top fuel (count + 1)

/-- Digits and exponent of the shortest decimal that rounds to a positive double. -/
def Double.shortest (x : Double) : Nat × Int :=
  let (num, den) := scale x.mantissa 1 2 x.exponent
  x.shortestFrom num den (leadingExponent num den) 17 1

/-! ### Layout -/

/-- The decimal digits of a natural number. -/
def digitsOf (n : Nat) : Text := Nat.toDigits 10 n

/-- Writes `digits * 10 ^ e`. A number whose leading digit stands at most sixteen places before
the point, or five after it, is written positionally and keeps a digit after the point. -/
def layout (digits : Text) (e : Int) : Text :=
  let length : Int := digits.length
  let point := length + e
  if 0 ≤ e && point ≤ 16 then digits ++ List.replicate e.toNat '0' ++ ".0".toList
  else if 0 < point && point ≤ 16 then
    digits.take point.toNat ++ ['.'] ++ digits.drop point.toNat
  else if -5 < point && point ≤ 0 then
    "0.".toList ++ List.replicate (-point).toNat '0' ++ digits
  else
    let mark := 'e' :: (if point - 1 < 0 then ['-'] else []) ++ digitsOf (point - 1).natAbs
    match digits with
    | [d] => d :: mark
    | d :: ds => d :: '.' :: ds ++ mark
    | [] => mark

/-- The text of a decimal number. -/
def decimalText (negative : Bool) (digits : Nat) (exponent : Int) : Text :=
  let sign : Text := if negative then ['-'] else []
  let (num, den) := scale digits 1 10 exponent
  let x := Double.nearest num den
  if x.mantissa = 0 then sign ++ "0.0".toList
  else
    let (ds, e) := x.shortest
    sign ++ layout (digitsOf ds) e

/-- The text of a number. -/
def Number.text : Number → Text
  | .integer value => if value < 0 then '-' :: digitsOf value.natAbs else digitsOf value.natAbs
  | .decimal negative digits exponent => decimalText negative digits exponent

end Json

end ComponentFile
