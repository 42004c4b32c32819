/-! # Decimal numerals at double precision

A decimal numeral is rounded to the nearest binary number of 53 bits and written back with the
fewest digits that still round to it, in positional notation. All arithmetic is exact.
-/

namespace SourceGate.Text

/-- The number `digits * 10 ^ exponent`. -/
structure Decimal where
  digits : Nat
  exponent : Int
  deriving DecidableEq, Repr, Inhabited

/-- The number `significand * 2 ^ exponent`. -/
structure Binary where
  significand : Nat
  exponent : Int
  deriving DecidableEq, Repr

/-- The quotient rounded to the nearest natural number, a half to the even neighbour. -/
def roundHalfEven (num den : Nat) : Nat :=
  let q := num / den
  let r := num % den
  if 2 * r < den then q else if 2 * r > den then q + 1 else q + q % 2

/-- `num / den` scaled by `2 ^ (-shift)`, as a fraction. -/
def scaleBinary (num den : Nat) (shift : Int) : Nat × Nat :=
  if shift ≥ 0 then (num, den <<< shift.toNat) else (num <<< (-shift).toNat, den)

/-- `num / den` scaled by `10 ^ (-shift)`, as a fraction. -/
def scaleDecimal (num den : Nat) (shift : Int) : Nat × Nat :=
  if shift ≥ 0 then (num, den * Nat.pow 10 shift.toNat)
  else (num * Nat.pow 10 (-shift).toNat, den)

/-- The least exponent of a double. -/
def leastExponent : Int := -1074

/-- The nearest double of a positive fraction; `none` when it is beyond the greatest one. -/
def nearestBinary (num den : Nat) : Option Binary :=
  let guess : Int := (Nat.log2 num : Int) - Nat.log2 den - 52
  let rounded (e : Int) : Nat :=
    let (a, b) := scaleBinary num den e
    roundHalfEven a b
  let below (e : Int) : Bool :=
    let (a, b) := scaleBinary num den e
    a < b <<< 52
  let e := max leastExponent (if below guess then guess - 1 else guess)
  let n := rounded e
  let (n, e) := if n = 1 <<< 53 then (1 <<< 52, e + 1) else (n, e)
  if e > 971 then none else some ⟨n, e⟩

/-- The fraction with the given significand over `2 ^ (-exponent)`. -/
def binaryFraction (significand : Nat) (exponent : Int) : Nat × Nat :=
  if exponent ≥ 0 then (significand <<< exponent.toNat, 1)
  else (significand, 1 <<< (-exponent).toNat)

/-- The decimal with the fewest digits among those that round to `b`, the nearest to `b` of those,
and the greater of two that are equally near. Grids are tried from coarse to fine; a grid that has a
point in the rounding interval has one beside `b`. -/
def Binary.shortest (b : Binary) : Decimal :=
  let tight := b.significand = 1 <<< 52 ∧ b.exponent > leastExponent
  let (num, den) := binaryFraction (4 * b.significand) (b.exponent - 2)
  let lower := binaryFraction (4 * b.significand - if tight then 1 else 2) (b.exponent - 2)
  let upper := binaryFraction (4 * b.significand + 2) (b.exponent - 2)
  let closed := b.significand % 2 = 0
  let inside (digits : Nat) (shift : Int) : Bool :=
    let (a, d) := scaleDecimal digits 1 (-shift)
    if closed then lower.1 * d ≤ a * lower.2 ∧ a * upper.2 ≤ upper.1 * d
    else lower.1 * d < a * lower.2 ∧ a * upper.2 < upper.1 * d
  let top : Int := ((Nat.log2 num : Int) - Nat.log2 den) * 30103 / 100000 + 2
  let rec search : Nat → Int → Decimal
    | 0, shift => ⟨let (a, d) := scaleDecimal num den shift; roundHalfEven a d, shift⟩
    | fuel + 1, shift =>
      let (a, d) := scaleDecimal num den shift
      let q := a / d
      match inside q shift, inside (q + 1) shift with
      | true, true => ⟨if 2 * (a % d) < d then q else q + 1, shift⟩
      | true, false => ⟨q, shift⟩
      | false, true => ⟨q + 1, shift⟩
      | false, false => search fuel (shift - 1)
  search 20 top

/-- Positional notation. -/
def Decimal.positional (d : Decimal) : String :=
  let text := Nat.toDigits 10 d.digits
  if d.exponent ≥ 0 then String.ofList (text ++ List.replicate d.exponent.toNat '0')
  else
    let places := (-d.exponent).toNat
    let padded := List.replicate (places + 1 - text.length) '0' ++ text
    let whole := padded.take (padded.length - places)
    let fraction := padded.drop (padded.length - places)
    String.ofList (whole ++ '.' :: fraction)

/-- How a numeral reads at double precision: beyond the greatest double it is `inf`. -/
def Decimal.written (d : Decimal) : String :=
  let size : Int := (Nat.toDigits 10 d.digits).length
  if d.digits = 0 ∨ size + d.exponent < -330 then "0"
  else if size + d.exponent > 320 then "inf"
  else
    let (num, den) := scaleDecimal d.digits 1 (-d.exponent)
    match nearestBinary num den with
    | none => "inf"
    | some b => if b.significand = 0 then "0" else b.shortest.positional

end SourceGate.Text
