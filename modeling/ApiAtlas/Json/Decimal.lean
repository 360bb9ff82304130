/-! # Decimal numbers with a fraction or an exponent

A number that is not an integer is kept as the double nearest to it, written with the fewest
decimal digits that read back as the same double. The double is only an intermediate: a pair of an
integer and a power of two. All arithmetic is exact.
-/

namespace ApiAtlas

/-- The number `digits · 10 ^ exponent`, or its negative. -/
structure Decimal where
  negative : Bool
  digits : Nat
  exponent : Int
deriving DecidableEq, Repr, Inhabited

namespace Decimal

/-- A positive fraction. -/
structure Fraction where
  num : Nat
  den : Nat

namespace Fraction

/-- The fraction `n · b ^ e`. -/
def scaled (n base : Nat) : Int → Fraction
  | .ofNat e => ⟨n * Nat.pow base e, 1⟩
  | .negSucc e => ⟨n, Nat.pow base (e + 1)⟩

/-- Quotient of two fractions. -/
def div (x y : Fraction) : Fraction :=
  ⟨x.num * y.den, x.den * y.num⟩

/-- Whether `x` is at most `y`. -/
def le (x y : Fraction) : Bool :=
  decide (x.num * y.den ≤ y.num * x.den)

/-- Whether `x` is less than `y`. -/
def lt (x y : Fraction) : Bool :=
  decide (x.num * y.den < y.num * x.den)

/-- Distance of two fractions. -/
def dist (x y : Fraction) : Fraction :=
  let left := x.num * y.den
  let right := y.num * x.den
  ⟨(left - right) + (right - left), x.den * y.den⟩

/-- The largest integer below or at a fraction. -/
def floor (x : Fraction) : Nat := x.num / x.den

/-- The nearest integer; a half goes to the even neighbour. -/
def round (x : Fraction) : Nat :=
  let below := x.num / x.den
  let twice := 2 * (x.num % x.den)
  if twice < x.den then below
  else if x.den < twice then below + 1
  else below + below % 2

end Fraction

/-- The positive double `mantissa · 2 ^ power`. -/
structure Double where
  mantissa : Nat
  power : Int

/-- The least mantissa of full length: it has 53 binary digits. -/
def Double.leastMantissa : Nat := 4503599627370496

/-- The double nearest to a positive fraction, if there is one in range. -/
def Double.nearest? (x : Fraction) : Option Double :=
  let guess : Int := (x.num.log2 : Int) - (x.den.log2 : Int) - 52
  let sized :=
    if (x.div (Fraction.scaled 1 2 guess)).floor < leastMantissa then guess - 1 else guess
  let power := if sized < -1074 then -1074 else sized
  let mantissa := (x.div (Fraction.scaled 1 2 power)).round
  let (mantissa, power) :=
    if mantissa = 2 * leastMantissa then (leastMantissa, power + 1) else (mantissa, power)
  if power > 971 then none else some ⟨mantissa, power⟩

/-- The value of a double. -/
def Double.value (d : Double) : Fraction := Fraction.scaled d.mantissa 2 d.power

/-- Whether a fraction lies in the interval of numbers that are read as the double `d`. A bound
belongs to the interval if the mantissa is even. -/
def Double.reads (d : Double) (x : Fraction) : Bool :=
  let high := Fraction.scaled (2 * d.mantissa + 1) 2 (d.power - 1)
  let low :=
    if d.mantissa = leastMantissa ∧ -1074 < d.power then
      Fraction.scaled (4 * d.mantissa - 1) 2 (d.power - 2)
    else Fraction.scaled (2 * d.mantissa - 1) 2 (d.power - 1)
  if d.mantissa % 2 = 0 then low.le x && x.le high else low.lt x && x.lt high

/-- The better of the two neighbours of the double among the multiples of `10 ^ place`. -/
def Double.neighbour? (d : Double) (place : Int) : Option Nat :=
  let value := d.value
  let unit := Fraction.scaled 1 10 place
  let below := (value.div unit).floor
  let readsBack := fun n : Nat => 0 < n && d.reads (Fraction.scaled n 10 place)
  match readsBack below, readsBack (below + 1) with
  | true, true =>
    let up := (Fraction.scaled (below + 1) 10 place).dist value
    let down := (Fraction.scaled below 10 place).dist value
    if up.lt down then some (below + 1) else some below
  | true, false => some below
  | false, true => some (below + 1)
  | false, false => none

/-- The first neighbour found while the grid of multiples gets finer. -/
def Double.shortestFrom (d : Double) (place : Int) : Nat → Option (Nat × Int)
  | 0 => none
  | tries + 1 =>
    match d.neighbour? place with
    | some n => some (n, place)
    | none => d.shortestFrom (place - 1) tries

/-- A number of at least one and the power of ten it is a multiple of, without zeros at its end. -/
def dropZeros : Nat → Nat → Int → Nat × Int
  | 0, n, place => (n, place)
  | tries + 1, n, place => if n % 10 = 0 then dropZeros tries (n / 10) (place + 1) else (n, place)

/-- The number `n · 10 ^ exponent` as the nearest double in its shortest form, if it is in range. -/
def ofDigits? (negative : Bool) (n : Nat) (exponent : Int) : Option Decimal :=
  if n = 0 then some ⟨negative, 0, 0⟩
  else if exponent > 400 then none
  else if exponent < -100000 then some ⟨negative, 0, 0⟩
  else do
    let double ← Double.nearest? (Fraction.scaled n 10 exponent)
    if double.mantissa = 0 then return ⟨negative, 0, 0⟩
    let top : Int := ((Nat.toDigits 10 n).length : Int) + exponent
    let (digits, place) ← double.shortestFrom top 20
    let (digits, place) := dropZeros 20 digits place
    return ⟨negative, digits, place⟩

/-- The number written out with a decimal point and without an exponent. -/
def text (d : Decimal) : String :=
  let sign := if d.negative then "-" else ""
  let digits := Nat.toDigits 10 d.digits
  let body := match d.exponent with
    | .ofNat e =>
      String.ofList (digits ++ List.replicate (if d.digits = 0 then 0 else e) '0') ++ ".0"
    | .negSucc e =>
      let padded := List.replicate (e + 2 - digits.length) '0' ++ digits
      let whole := padded.take (padded.length - (e + 1))
      let fraction := padded.drop (padded.length - (e + 1))
      String.ofList whole ++ "." ++ String.ofList fraction
  sign ++ body

end Decimal

end ApiAtlas
