/-!
# Binary numbers of 64 bits

A double is a sign and a product of a whole number below 2^53 and a power of two. It is
computed with whole numbers only. What is computed from doubles is rounded to the nearest
double, where a tie goes to the even one.

`Double.ofDecimal?` makes a double of decimal digits and a power of ten. It rounds the
digits, and then the product or the quotient of two doubles, so the result need not be
nearest to the decimal number. `Double.shortest` finds the fewest decimal digits that are
nearer to a double than to any other.
-/

namespace LineSieve.Decimal

/-! ### Doubles -/

/-- The number `mantissa * 2^exponent`, negative or not. -/
structure Double where
  negative : Bool
  mantissa : Nat
  exponent : Int
deriving DecidableEq, Repr

namespace Double

def minExponent : Int := -1074

def maxExponent : Int := 971

def zero (negative : Bool) : Double := ⟨negative, 0, minExponent⟩

/-- The numerator and denominator of `n * b^e`. -/
def fraction (n b : Nat) (e : Int) : Nat × Nat :=
  (n * Nat.pow b e.toNat, Nat.pow b (-e).toNat)

/-- A quotient rounded to the nearest whole number, a tie to the even one. -/
def roundEven (num den : Nat) : Nat :=
  let q := num / den
  let twice := 2 * (num % den)
  if twice < den then q
  else if den < twice then q + 1
  else if q % 2 = 0 then q
  else q + 1

/-! ### Rounding -/

/-- The quotient of two numbers as a double, if it is not too large. The exponent is the
least with which the mantissa stays below 2^53. -/
def ofQuotient? (negative : Bool) (num den : Nat) : Option Double :=
  let guess : Int := (Nat.log2 num : Int) - (Nat.log2 den : Int) - 53
  let mantissaAt (e : Int) : Nat :=
    roundEven (num * Nat.pow 2 (-e).toNat) (den * Nat.pow 2 e.toNat)
  let e := max guess minExponent
  let e :=
    if (num * Nat.pow 2 (-e).toNat) / (den * Nat.pow 2 e.toNat) < Nat.pow 2 53 then e else e + 1
  let m := mantissaAt e
  let (m, e) := if m = Nat.pow 2 53 then (Nat.pow 2 52, e + 1) else (m, e)
  if maxExponent < e then none else some ⟨negative, m, e⟩

/-- A quotient as a double, if it is not too large. -/
def round? (negative : Bool) (num den : Nat) : Option Double :=
  if num = 0 then some (zero negative) else ofQuotient? negative num den

/-! ### Arithmetic -/

/-- The numerator and denominator of a double without its sign. -/
def magnitude (d : Double) : Nat × Nat := fraction d.mantissa 2 d.exponent

def mul? (d f : Double) : Option Double :=
  let (a, b) := d.magnitude
  let (x, y) := f.magnitude
  round? (d.negative != f.negative) (a * x) (b * y)

def div? (d f : Double) : Option Double :=
  let (a, b) := d.magnitude
  let (x, y) := f.magnitude
  round? (d.negative != f.negative) (a * y) (b * x)

/-! ### Decimal numbers -/

/-- The greatest power of ten that is not too large for a double. -/
def maxPower : Nat := 308

/-- A power of ten up to the greatest one. -/
def power (k : Nat) : Double := (round? false (Nat.pow 10 k) 1).getD (zero false)

/-- A double times a power of ten, if that is not too large. A quotient that no single
power gives is taken in steps, until nothing is left of it. -/
def scale? (d : Double) (e : Int) : Option Double :=
  if e.natAbs ≤ maxPower then
    if 0 ≤ e then d.mul? (power e.natAbs) else d.div? (power e.natAbs)
  else if d.mantissa = 0 then some d
  else if 0 ≤ e then none
  else (d.div? (power maxPower)).bind fun d => d.scale? (e + maxPower)
termination_by (-e).toNat
decreasing_by
  have hmax : (maxPower : Int) = 308 := rfl
  omega

/-- The double that `n * 10^e` is read as, if it is not too large. -/
def ofDecimal? (negative : Bool) (n : Nat) (e : Int) : Option Double :=
  (round? negative n 1).bind fun d => d.scale? e

/-! ### Shortest digits -/

def digitCount (n : Nat) : Nat := (Nat.toDigits 10 n).length

/-- The exponent of the first decimal digit of a quotient below one, which is at least
`10^(-e - fuel)` (`fuel` bounds the recursion). -/
def leadingBelowOne (den : Nat) : Nat → Nat → Int → Int
  | 0, _, e => e
  | fuel + 1, num, e =>
    if den ≤ num then e else leadingBelowOne den fuel (num * 10) (e - 1)

/-- The exponent of the first decimal digit of a quotient. -/
def leadingExponent (num den : Nat) : Int :=
  if den ≤ num then (digitCount (num / den) : Int) - 1
  else leadingBelowOne den 400 num 0

/-- The better of the two whole multiples of `10^place` next to a number, if one lies
between the ends. All of them are given in units of `1 / den`; the ends count if `closed`
holds. -/
def onGrid? (low mid high den : Nat) (closed : Bool) (place : Int) : Option Nat :=
  let (unit, scale) := fraction 1 10 place
  let step := unit * den
  let below := mid * scale / step
  let inside (n : Nat) : Bool :=
    let x := n * step
    if closed then low * scale ≤ x && x ≤ high * scale
    else low * scale < x && x < high * scale
  let nearest := roundEven (mid * scale) step
  if inside nearest then some nearest
  else if inside below then some below
  else if inside (below + 1) then some (below + 1)
  else none

/-- The first grid, from coarse to fine, with a multiple between the ends (`fuel` bounds
how many more digits are tried). -/
def shortestFrom (low mid high den : Nat) (closed : Bool) : Nat → Int → Nat × Int
  | 0, place => (mid, place)
  | fuel + 1, place =>
    match onGrid? low mid high den closed place with
    | some n => (n, place)
    | none => shortestFrom low mid high den closed fuel (place - 1)

/-- Removes zeros at the end of the digits (`fuel` bounds how many). -/
def withoutZeros : Nat → Nat → Int → Nat × Int
  | 0, n, e => (n, e)
  | fuel + 1, n, e => if n % 10 = 0 then withoutZeros fuel (n / 10) (e + 1) else (n, e)

/-- The fewest digits, and the power of ten that they count, that read back as the double.
The ends of the interval of the numbers that do are half way to the neighbours, and belong
to it if the mantissa is even; below a power of two the neighbour is nearer. -/
def shortest (d : Double) : Nat × Int :=
  if d.mantissa = 0 then (0, 0)
  else
    let nearBelow := d.mantissa = Nat.pow 2 52 ∧ minExponent < d.exponent
    let (mid, den) := fraction (4 * d.mantissa) 2 (d.exponent - 2)
    let half := 2 * Nat.pow 2 (d.exponent - 2).toNat
    let low := mid - (if nearBelow then half / 2 else half)
    let closed := d.mantissa % 2 = 0
    let (n, place) :=
      shortestFrom low mid (mid + half) den closed 18 (leadingExponent mid den)
    withoutZeros 20 n place

/-! ### Text -/

def digitsOf (n : Nat) : List Char := Nat.toDigits 10 n

/-- The text of a double that is not negative. Numbers from 1e-5 up to below 1e16 are in
plain form with at least one decimal, others have one digit before the point and a signed
exponent. -/
def magnitudeText (d : Double) : List Char :=
  if d.mantissa = 0 then ['0', '.', '0']
  else
    let (n, place) := d.shortest
    let digits := digitsOf n
    let point : Int := digits.length + place
    if 0 ≤ place ∧ point ≤ 16 then
      digits ++ List.replicate place.toNat '0' ++ ['.', '0']
    else if 0 < point ∧ point ≤ 16 then
      digits.take point.toNat ++ '.' :: digits.drop point.toNat
    else if -5 < point ∧ point ≤ 0 then
      '0' :: '.' :: List.replicate (-point).toNat '0' ++ digits
    else
      let e := point - 1
      let exponent := (if e < 0 then '-' else '+') :: digitsOf e.natAbs
      match digits with
      | first :: more =>
        first :: (if more.isEmpty then [] else '.' :: more) ++ 'e' :: exponent
      | [] => []

def text (d : Double) : String :=
  String.ofList (if d.negative then '-' :: d.magnitudeText else d.magnitudeText)

end Double
end LineSieve.Decimal
