/-!
Binary floating-point numbers with 53 significant bits, in exact natural-number arithmetic.

A finite number is `mantissa * 2 ^ exponent`. `ofRatio` rounds a quotient to the nearest such
number, a half to the even mantissa, so the number read from a decimal is the one nearest to it.
-/

set_option autoImplicit false
set_option relaxedAutoImplicit false

namespace Docblocks.Number

/-- A floating-point number; a finite one has a mantissa below `2 ^ 53` and an exponent from -1074
to 971, with the smallest exponent that allows it. -/
inductive Binary
  | finite (negative : Bool) (mantissa : Nat) (exponent : Int)
  | infinite (negative : Bool)
  | undefined
  deriving DecidableEq, Repr

/-- The exponent of the smallest positive number. -/
def leastExponent : Int := -1074

/-- The largest exponent of a finite number. -/
def greatestExponent : Int := 971

/-- The least mantissa of 53 binary digits. -/
def hiddenBit : Nat := Nat.pow 2 52

/-- The quotient of two numbers rounded to the nearest integer, a half to the even one. -/
def roundDiv (num den : Nat) : Nat :=
  let q := num / den
  let twice := 2 * (num % den)
  if den < twice || (twice == den && q % 2 == 1) then q + 1 else q

/-- Numerator and denominator of `num / den / 2 ^ e`. -/
def scaleDown (num den : Nat) (e : Int) : Nat × Nat :=
  if 0 ≤ e then (num, den * Nat.pow 2 e.toNat) else (num * Nat.pow 2 (-e).toNat, den)

namespace Binary

/-- Zero with a sign. -/
def zero (negative : Bool) : Binary := .finite negative 0 leastExponent

/-- The exponent at which a positive quotient has 53 binary digits before the point. -/
def unitExponent (num den : Nat) : Int :=
  let e : Int := (Nat.log2 num : Int) - (Nat.log2 den : Int) - 52
  let p := scaleDown num den e
  if p.1 < hiddenBit * p.2 then e - 1 else e

/-- The number nearest to a quotient. -/
def ofRatio (negative : Bool) (num den : Nat) : Binary :=
  if num = 0 then zero negative
  else
    let e := max leastExponent (unitExponent num den)
    let p := scaleDown num den e
    let m := roundDiv p.1 p.2
    if m = 2 * hiddenBit then
      if greatestExponent < e + 1 then .infinite negative else .finite negative hiddenBit (e + 1)
    else if greatestExponent < e then .infinite negative
    else .finite negative m e

/-- The number nearest to `digits * 10 ^ power`; the range is cut off where every number is zero or
infinite. -/
def ofDecimal (negative : Bool) (digits : Nat) (power : Int) : Binary :=
  if digits = 0 then zero negative
  else if 400 < power then .infinite negative
  else if power + (Nat.log2 digits : Int) + 1 < -400 then zero negative
  else if 0 ≤ power then ofRatio negative (digits * Nat.pow 10 power.toNat) 1
  else ofRatio negative digits (Nat.pow 10 (-power).toNat)

/-- The opposite number. -/
def neg : Binary → Binary
  | .finite s m e => .finite (!s) m e
  | .infinite s => .infinite (!s)
  | .undefined => .undefined

/-- Whether a number is zero of either sign. -/
def isZero : Binary → Bool
  | .finite _ m _ => m == 0
  | _ => false

/-- The size of a finite number as a numerator and a denominator. -/
def ratio (m : Nat) (e : Int) : Nat × Nat :=
  if 0 ≤ e then (m * Nat.pow 2 e.toNat, 1) else (m, Nat.pow 2 (-e).toNat)

/-- The number nearest to a natural number, if it is within the range. -/
def ofNat? (n : Nat) : Option Binary :=
  match ofRatio false n 1 with
  | .finite s m e => some (.finite s m e)
  | _ => none

/-- The product of two numbers, rounded. -/
def mul (x y : Binary) : Binary :=
  match x, y with
  | .finite s m e, .finite t n f =>
    let a := ratio m e
    let b := ratio n f
    ofRatio (s != t) (a.1 * b.1) (a.2 * b.2)
  | .finite s m _, .infinite t => if m = 0 then .undefined else .infinite (s != t)
  | .infinite s, .finite t n _ => if n = 0 then .undefined else .infinite (s != t)
  | .infinite s, .infinite t => .infinite (s != t)
  | _, _ => .undefined

/-- A natural number with a sign as an integer. -/
def signed (negative : Bool) (n : Nat) : Int :=
  if negative then -(n : Int) else n

/-- The sum of two numbers, rounded; a sum of zero is negative only if both numbers are. -/
def add (x y : Binary) : Binary :=
  match x, y with
  | .finite s m e, .finite t n f =>
    let a := ratio m e
    let b := ratio n f
    let sum := signed s (a.1 * b.2) + signed t (b.1 * a.2)
    if sum = 0 then zero (s && t) else ofRatio (sum < 0) sum.natAbs (a.2 * b.2)
  | .finite _ _ _, z => z
  | z, .finite _ _ _ => z
  | .infinite s, .infinite t => if s = t then .infinite s else .undefined
  | _, _ => .undefined

/-- Whether a number is exactly the given integer. -/
def isInt (x : Binary) (k : Int) : Bool :=
  match x with
  | .finite s m e =>
    let r := ratio m e
    let n : Int := if s then -(r.1 : Int) else (r.1 : Int)
    n == k * (r.2 : Int)
  | _ => false

/-- Whether two numbers are the same point of the line, or both undefined. -/
def same (x y : Binary) : Bool :=
  (x.isZero && y.isZero) || x == y

end Binary
end Docblocks.Number
