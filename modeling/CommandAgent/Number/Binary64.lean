/-!
# Binary floating point, exactly

JSON numbers that are not integers of 64 bits are held as doubles. A double is kept here as its 64
bits and all arithmetic on it is arithmetic on natural numbers, so that every result can be computed
and compared inside the logic.

A finite double is `± m · 2^q` (`Finite`). `ofRatio` rounds a quotient of two naturals to the
nearest double, ties to even; sums of the rules below are stated through it: a product of doubles is
the exact product, rounded once.
-/

namespace CommandAgent

/-- A double, as its bits: sign, eleven bits of exponent, fifty-two of fraction. -/
structure Binary64 where
  bits : UInt64
deriving DecidableEq, Repr

namespace Binary64

/-- The exponent field of the infinities and of what is not a number. -/
def topExponent : Nat := 2047

/-- The magnitude `mantissa · 2^exponent` of a finite double. -/
structure Magnitude where
  mantissa : Nat
  exponent : Int
deriving DecidableEq, Repr

def isNegative (x : Binary64) : Bool := x.bits.toNat / Nat.pow 2 63 == 1

def exponentField (x : Binary64) : Nat := x.bits.toNat / Nat.pow 2 52 % 2048

def fractionField (x : Binary64) : Nat := x.bits.toNat % Nat.pow 2 52

def isInfinite (x : Binary64) : Bool := x.exponentField == topExponent

def magnitude (x : Binary64) : Magnitude :=
  if x.exponentField = 0 then ⟨x.fractionField, -1074⟩
  else ⟨x.fractionField + Nat.pow 2 52, (x.exponentField : Int) - 1075⟩

/-- The double with the given sign and magnitude field (exponent and fraction together). -/
def ofField (negative : Bool) (field : Nat) : Binary64 :=
  ⟨UInt64.ofNat (field + if negative then Nat.pow 2 63 else 0)⟩

/-- The quotient rounded to the nearest natural number, a tie to the even one. -/
def divRound (num den : Nat) : Nat :=
  let q := num / den
  let r := num % den
  if 2 * r < den then q else if 2 * r > den then q + 1 else q + q % 2

/-- `num / den` in units of `2^q`, rounded. -/
def inUnits (num den : Nat) (q : Int) : Nat :=
  if q ≥ 0 then divRound num (den * Nat.pow 2 q.toNat)
  else divRound (num * Nat.pow 2 (-q).toNat) den

/-- The exponent of the last mantissa bit when `num / den` is written with 53 bits, or with fewer if
the number is too small for that. -/
def unitExponent (num den : Nat) : Int :=
  let q : Int := max ((num.log2 : Int) - (den.log2 : Int) - 53) (-1074)
  let wide :=
    if q ≥ 0 then num / (den * Nat.pow 2 q.toNat) ≥ Nat.pow 2 53
    else num * Nat.pow 2 (-q).toNat / den ≥ Nat.pow 2 53
  if wide then q + 1 else q

/-- The double nearest to `num / den`, ties to even; an infinity when that is too large. -/
def ofRatio (negative : Bool) (num den : Nat) : Binary64 :=
  if num = 0 then ofField negative 0
  else
    let q := unitExponent num den
    let m := inUnits num den q
    -- a mantissa without the leading bit is subnormal, and its exponent field is zero
    let field := if m < Nat.pow 2 52 then m else (q + 1074).toNat * Nat.pow 2 52 + m
    ofField negative (min field (topExponent * Nat.pow 2 52))

def ofNat (n : Nat) : Binary64 := ofRatio false n 1

def Magnitude.num (x : Magnitude) : Nat := x.mantissa * Nat.pow 2 x.exponent.toNat

def Magnitude.den (x : Magnitude) : Nat := Nat.pow 2 (-x.exponent).toNat

/-- The product of two finite doubles that are not negative, rounded once. -/
def mul (x y : Binary64) : Binary64 :=
  ofRatio false (x.magnitude.num * y.magnitude.num) (x.magnitude.den * y.magnitude.den)

/-- The quotient of two finite doubles that are not negative, rounded once. -/
def div (x y : Binary64) : Binary64 :=
  ofRatio false (x.magnitude.num * y.magnitude.den) (x.magnitude.den * y.magnitude.num)

def neg (x : Binary64) : Binary64 := ⟨x.bits ^^^ 0x8000000000000000⟩

/-- Whether `x` is a zero of either sign. -/
def isZero (x : Binary64) : Bool := x.bits.toNat % Nat.pow 2 63 == 0

/-! ### From a decimal

A decimal `significand · 10^exponent` is read in two roundings: the significand becomes a double,
and that is multiplied or divided by the double nearest to the power of ten. Powers beyond `10^308`
are reached in steps of that size. -/

/-- Divide by `10^308` until the exponent is within the range of the powers of ten. -/
def scaleDown : Nat → Binary64 → Int → Option Binary64
  | 0, x, _ => some x
  | fuel + 1, x, e =>
    if -308 ≤ e ∧ e ≤ 308 then
      if 0 ≤ e then
        let y := x.mul (ofNat (Nat.pow 10 e.toNat))
        if y.isInfinite then none else some y
      else some (x.div (ofNat (Nat.pow 10 (-e).toNat)))
    else if x.isZero then some x
    else if 0 ≤ e then none
    else scaleDown fuel (x.div (ofNat (Nat.pow 10 308))) (e + 308)

/-- The double read from `± significand · 10^exponent`; none when it is too large. Five divisions by
`10^308` turn every significand of 64 bits into zero. -/
def ofDecimal? (negative : Bool) (significand : Nat) (exponent : Int) : Option Binary64 :=
  (scaleDown 5 (ofNat significand) exponent).map fun x => if negative then x.neg else x

/-! ### Shortest decimal

Among the decimals that read back as `x`, those with the fewest digits; among these the nearest. -/

/-- A decimal `digits · 10^exponent`. -/
structure Decimal where
  digits : Nat
  exponent : Int
deriving DecidableEq, Repr

/-- The numbers that round to a double, as multiples of a common unit `1 / den`. -/
structure Interval where
  low : Nat
  value : Nat
  high : Nat
  den : Nat
  closed : Bool

/-- The interval of a finite double that is not zero. -/
def interval (x : Binary64) : Interval :=
  let m := x.magnitude.mantissa
  let q := x.magnitude.exponent - 2
  let s := Nat.pow 2 q.toNat
  let narrow := x.fractionField = 0 ∧ x.exponentField > 1
  ⟨(4 * m - if narrow then 1 else 2) * s, 4 * m * s, (4 * m + 2) * s, Nat.pow 2 (-q).toNat,
    m % 2 == 0⟩

/-- The place of the first digit of `value / den`: `10^(place - 1) ≤ value / den < 10^place`. -/
def place (value den : Nat) : Int :=
  if value ≥ den then ((Nat.toDigits 10 (value / den)).length : Int)
  else go 330 0
where
  /-- Count the zeros after the point. -/
  go : Nat → Nat → Int
    | 0, zeros => -(zeros : Int)
    | fuel + 1, zeros =>
      if value * Nat.pow 10 (zeros + 1) ≥ den then -(zeros : Int) else go fuel (zeros + 1)

/-- The decimal with unit `10^j` nearest to the value, if it or its neighbour on that grid lies in
the interval; of two at the same distance the even one. -/
def Interval.onGrid? (iv : Interval) (j : Int) : Option Decimal :=
  let up := Nat.pow 10 (-j).toNat
  let unit := iv.den * Nat.pow 10 j.toNat
  let inside (c : Nat) : Bool :=
    let p := c * unit
    if iv.closed then iv.low * up ≤ p && p ≤ iv.high * up
    else iv.low * up < p && p < iv.high * up
  let below := iv.value * up / unit
  let nearest := divRound (iv.value * up) unit
  let other := if nearest = below then below + 1 else below
  if inside nearest then some ⟨nearest, j⟩
  else if inside other then some ⟨other, j⟩
  else none

/-- Try one digit, then two, and so on; seventeen always suffice. -/
def Interval.shortest (iv : Interval) (first : Int) : Nat → Nat → Decimal
  | 0, n => ⟨iv.value, -n⟩
  | fuel + 1, n =>
    match iv.onGrid? (first - n) with
    | some d => d
    | none => iv.shortest first fuel (n + 1)

/-- Drop the trailing zeros of the digits. -/
def Decimal.reduce : Nat → Decimal → Decimal
  | 0, d => d
  | fuel + 1, d =>
    if d.digits ≠ 0 ∧ d.digits % 10 = 0 then Decimal.reduce fuel ⟨d.digits / 10, d.exponent + 1⟩
    else d

/-- The shortest decimal that reads back as the magnitude of a finite double. -/
def shortest (x : Binary64) : Decimal :=
  if x.isZero then ⟨0, 0⟩
  else
    let iv := x.interval
    Decimal.reduce 20 (iv.shortest (place iv.value iv.den) 17 1)

/-- The text of a finite double: positional from `10^-5` below `10^16`, with a point in any case,
and with a signed exponent elsewhere. -/
def toText (x : Binary64) : String :=
  let sign := if x.isNegative then "-" else ""
  if x.isZero then sign ++ "0.0"
  else
    let d := x.shortest
    let ds := (Nat.toDigits 10 d.digits)
    let n := ds.length
    let point : Int := n + d.exponent
    let zeros (k : Int) : String := String.ofList (List.replicate k.toNat '0')
    let text :=
      if 0 ≤ d.exponent ∧ point ≤ 16 then String.ofList ds ++ zeros d.exponent ++ ".0"
      else if 0 < point ∧ point ≤ 16 then
        String.ofList (ds.take point.toNat) ++ "." ++ String.ofList (ds.drop point.toNat)
      else if -5 < point ∧ point ≤ 0 then "0." ++ zeros (-point) ++ String.ofList ds
      else
        let mantissa :=
          if n = 1 then String.ofList ds
          else String.ofList (ds.take 1) ++ "." ++ String.ofList (ds.drop 1)
        mantissa ++ (if point > 0 then "e+" else "e") ++ toString (point - 1)
    sign ++ text

end Binary64
end CommandAgent
