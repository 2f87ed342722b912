import TableDdl.Number.Binary64

/-!
# Shortest decimal text

The fewest decimal digits that read back as a given floating-point number, and its text made of
them. A number with `n` digits is looked for among the two neighbours of the exact value on the
grid of `n` digits, for `n` from 1 upwards; the first grid that has one decides.
-/

namespace TableDdl.Binary64

/-- A ratio of two natural numbers, the second one positive. -/
abbrev Ratio := Nat × Nat

/-- The order of ratios, by cross multiplication. -/
def Ratio.le (a b : Ratio) : Bool :=
  a.1 * b.2 ≤ b.1 * a.2

/-- The strict order of ratios. -/
def Ratio.lt (a b : Ratio) : Bool :=
  a.1 * b.2 < b.1 * a.2

/-- `n · base ^ power` as a ratio. -/
def Ratio.ofPower (n base : Nat) (power : Int) : Ratio :=
  if power ≥ 0 then (n * Nat.pow base power.toNat, 1) else (n, Nat.pow base (-power).toNat)

/-- The real numbers that round to a finite number: its value, the two ends, and whether the
ends belong to them. -/
structure Basin where
  value : Ratio
  low : Ratio
  high : Ratio
  closed : Bool

/-- The basin of `significand · 2 ^ exponent`. Below a power of two the numbers lie twice as
dense, so the lower end is nearer there. -/
def Basin.of (significand : Nat) (exponent : Int) : Basin :=
  let narrow := significand == Nat.pow 2 52 && exponent > minExponent
  { value := .ofPower (4 * significand) 2 (exponent - 2)
    low := .ofPower (4 * significand - (if narrow then 1 else 2)) 2 (exponent - 2)
    high := .ofPower (4 * significand + 2) 2 (exponent - 2)
    closed := significand % 2 == 0 }

/-- Whether a ratio rounds to the number of the basin. -/
def Basin.holds (basin : Basin) (x : Ratio) : Bool :=
  if basin.closed then basin.low.le x && x.le basin.high
  else basin.low.lt x && x.lt basin.high

/-- The power of ten of the first digit of a positive ratio. -/
def leadingPower (x : Ratio) : Int :=
  let guess : Int := ((Nat.toDigits 10 x.1).length : Int) - (Nat.toDigits 10 x.2).length
  if Ratio.le (.ofPower 1 10 guess) x then guess else guess - 1

/-- The neighbour on the grid of multiples of `10 ^ unit` that rounds to the number: the nearer
one if both do, and the even one if they are equally near. -/
def neighbour? (basin : Basin) (unit : Int) : Option Nat :=
  let (num, den) := basin.value
  let (n, d) :=
    if unit ≥ 0 then (num, den * Nat.pow 10 unit.toNat) else (num * Nat.pow 10 (-unit).toNat, den)
  let below := n / d
  let r := n % d
  let lower := basin.holds (.ofPower below 10 unit)
  let upper := basin.holds (.ofPower (below + 1) 10 unit)
  if lower && upper then
    if 2 * r < d ∨ (2 * r = d ∧ below % 2 = 0) then some below else some (below + 1)
  else if lower then some below
  else if upper then some (below + 1)
  else none

/-- The digits and the power of ten of their last place, trying `tries` more grids from the one
of multiples of `10 ^ unit` on. -/
def searchGrids (basin : Basin) : Nat → Int → Nat × Int
  | 0, unit => ((neighbour? basin unit).getD 0, unit)
  | tries + 1, unit =>
    match neighbour? basin unit with
    | some digits => (digits, unit)
    | none => searchGrids basin tries (unit - 1)

/-- The digits and the power of ten of their last place for a positive finite number. Seventeen
digits always suffice. -/
def shortestDigits (significand : Nat) (exponent : Int) : Nat × Int :=
  let basin := Basin.of significand exponent
  searchGrids basin 16 (leadingPower basin.value)

/-- How a floating-point number is written out. -/
structure FloatFormat where
  /-- The least power of ten of the first digit that is written without an exponent. -/
  minPositional : Int
  /-- The first power of ten of the first digit that is written with an exponent again. -/
  maxPositional : Int
  /-- The least number of digits of an exponent. -/
  exponentDigits : Nat

/-- Numbers from `1e-4` up to but not including `1e16` are positional; exponents have two digits
or more. -/
def standardFormat : FloatFormat := ⟨-4, 16, 2⟩

/-- The digits of a number without the zeros at its end. -/
def significantDigits (n : Nat) : List Char :=
  ((Nat.toDigits 10 n).reverse.dropWhile (· == '0')).reverse

/-- The digits in positional notation, the first of them standing for `10 ^ power`. -/
def positional (digits : List Char) (power : Int) : List Char :=
  if power < 0 then
    '0' :: '.' :: (List.replicate (-power - 1).toNat '0' ++ digits)
  else
    let whole := power.toNat + 1
    let padded := digits ++ List.replicate (whole - digits.length) '0'
    let fraction := padded.drop whole
    padded.take whole ++ '.' :: (if fraction.isEmpty then ['0'] else fraction)

/-- The digits with an exponent, the first of them standing for `10 ^ power`. -/
def scientific (format : FloatFormat) (digits : List Char) (power : Int) : List Char :=
  let mantissa :=
    match digits with
    | [] => ['0']
    | [d] => [d]
    | d :: rest => d :: '.' :: rest
  let shown := Nat.toDigits 10 power.natAbs
  let zeros := List.replicate (format.exponentDigits - shown.length) '0'
  mantissa ++ 'e' :: (if power < 0 then '-' else '+') :: (zeros ++ shown)

/-- The text of a floating-point number in a format. -/
def textIn (format : FloatFormat) (x : Binary64) : String :=
  match x with
  | .nan _ => "nan"
  | .infinite negative => if negative then "-inf" else "inf"
  | .finite negative significand exponent =>
    let body :=
      if significand = 0 then ['0', '.', '0']
      else
        let (n, unit) := shortestDigits significand exponent
        let digits := significantDigits n
        let power := unit + (Nat.toDigits 10 n).length - 1
        if format.minPositional ≤ power ∧ power < format.maxPositional then
          positional digits power
        else scientific format digits power
    String.ofList (if negative then '-' :: body else body)

/-- The text of a floating-point number. -/
def text (x : Binary64) : String :=
  x.textIn standardFormat

end TableDdl.Binary64
