import Docblocks.Number.Binary
import Docblocks.Number.Digits

/-!
The shortest decimal of a floating-point number: the fewest digits that read back as the number, and
of those the decimal nearest to it.

For one digit, two digits and so on, the two neighbours of the number on that decimal grid are
tested against the interval of all reals that round to the number.
-/

set_option autoImplicit false
set_option relaxedAutoImplicit false

namespace Docblocks.Number

/-- The decimal `digits * 10 ^ power`. -/
structure Decimal where
  digits : Nat
  power : Int
  deriving DecidableEq, Repr

/-- The reals that round to a positive number, as multiples of one unit `num / den`: the number
itself, the ends of the interval, and whether the ends belong to it. -/
structure Interval where
  low : Nat
  mid : Nat
  high : Nat
  closed : Bool
  num : Nat
  den : Nat

/-- The interval of a positive number; below a power of two the gap is half as wide. -/
def Interval.ofNumber (m : Nat) (e : Int) : Interval :=
  let unit := Binary.ratio 1 (e - 2)
  let narrow := m == hiddenBit && leastExponent < e
  { low := if narrow then 4 * m - 1 else 4 * m - 2
    mid := 4 * m
    high := 4 * m + 2
    closed := m % 2 == 0
    num := unit.1
    den := unit.2 }

/-- Numerator and denominator of `10 ^ k`. -/
def powerOfTen (k : Int) : Nat × Nat :=
  if 0 ≤ k then (Nat.pow 10 k.toNat, 1) else (1, Nat.pow 10 (-k).toNat)

/-- Whether a decimal lies in the interval. -/
def Interval.has (i : Interval) (d : Decimal) : Bool :=
  let p := powerOfTen d.power
  let x := d.digits * p.1 * i.den
  let unit := i.num * p.2
  if i.closed then i.low * unit ≤ x && x ≤ i.high * unit
  else i.low * unit < x && x < i.high * unit

/-- The number measured in units of `10 ^ k`, as a quotient. -/
def Interval.onGrid (i : Interval) (k : Int) : Nat × Nat :=
  let p := powerOfTen k
  (i.mid * i.num * p.2, i.den * p.1)

/-- The decimal with a unit of `10 ^ k` that reads back as the number and is nearest to it. -/
def Interval.pick? (i : Interval) (k : Int) : Option Decimal :=
  let g := i.onGrid k
  let below : Decimal := ⟨g.1 / g.2, k⟩
  let above : Decimal := ⟨g.1 / g.2 + 1, k⟩
  let rest := 2 * (g.1 % g.2)
  let first := if rest < g.2 || (rest == g.2 && below.digits % 2 == 0) then below else above
  let second := if first = below then above else below
  if i.has first then some first else if i.has second then some second else none

/-- The power of ten of the leading digit of a positive quotient. -/
def leadingPower (num den : Nat) : Int :=
  let guess : Int := (((Nat.log2 num : Int) - (Nat.log2 den : Int)) * 1233) / 4096
  let reaches (k : Int) : Bool :=
    let p := powerOfTen k
    den * p.1 ≤ num * p.2
  if reaches (guess + 2) then guess + 2
  else if reaches (guess + 1) then guess + 1
  else if reaches guess then guess
  else if reaches (guess - 1) then guess - 1
  else guess - 2

/-- The first hit on finer and finer grids. -/
def Interval.search (i : Interval) (k : Int) : Nat → Decimal
  | 0 => ⟨i.mid * i.num / i.den, 0⟩
  | n + 1 =>
    match i.pick? k with
    | some d => d
    | none => i.search (k - 1) n

/-- The shortest decimal of a positive number; seventeen digits are always enough. -/
def shortest (m : Nat) (e : Int) : Decimal :=
  let i := Interval.ofNumber m e
  let g := i.onGrid 0
  i.search (leadingPower g.1 g.2) 17

/-- The notation of decimals: leading digits from `10 ^ -4` to `10 ^ 15` are written with a point,
all others with an exponent of at least two digits. -/
def Decimal.written (d : Decimal) : Text :=
  let ds := natText d.digits
  let lead : Int := d.power + (ds.length : Int) - 1
  let ds := (ds.reverse.dropWhile (· == .char '0')).reverse
  if -4 ≤ lead && lead < 16 then
    if lead < 0 then "0.".points ++ List.replicate (-lead - 1).toNat (.char '0') ++ ds
    else
      let whole := lead.toNat + 1
      if ds.length ≤ whole then ds ++ List.replicate (whole - ds.length) (.char '0') ++ ".0".points
      else ds.take whole ++ ".".points ++ ds.drop whole
  else
    let fraction := if ds.length ≤ 1 then ds else ds.take 1 ++ ".".points ++ ds.drop 1
    let exponent := natText lead.natAbs
    fraction ++ (if lead < 0 then "e-".points else "e+".points) ++
      (if exponent.length < 2 then "0".points else []) ++ exponent

/-- The text of a number: its shortest decimal, or `inf` or `nan`. -/
def Binary.written : Binary → Text
  | .finite s m e =>
    (if s then "-".points else []) ++ if m = 0 then "0.0".points else (shortest m e).written
  | .infinite s => (if s then "-".points else []) ++ "inf".points
  | .undefined => "nan".points

end Docblocks.Number
