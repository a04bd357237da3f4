import Docblocks.Yaml.Tag
import Docblocks.Value.Basic
import Docblocks.Text.Base64
import Docblocks.Text.Blank
import Docblocks.Text.Case
import Docblocks.Text.Digit

/-!
The values of scalars by their tags.

Numbers may be written in the digits of any script and between blanks.
-/

set_option autoImplicit false
set_option relaxedAutoImplicit false

namespace Docblocks.Yaml

open Docblocks.Number (Binary)

/-- A text without underscores. -/
def withoutUnderscores (t : Text) : Text :=
  t.filter (· != .char '_')

/-- Whether a text starts with a minus sign. -/
def isNegative (t : Text) : Bool :=
  t.head? == some (.char '-')

/-- A code point of a number in ASCII: a digit of any script is a digit, a blank is a space. -/
def plainPoint (p : Point) : Point :=
  if p.code < 127 then p
  else if Text.isBlank p then .char ' '
  else
    match Text.decimalDigit? p with
    | some d => .ofCode (48 + d)
    | none => p

/-- Whether a code point may stand around a number. -/
def isMargin (p : Point) : Bool :=
  isOneOf " \t\n\r\x0b\x0c" p

/-- A number in ASCII, without the blanks around it. -/
def plainNumber (t : Text) : Text :=
  (((t.map plainPoint).dropWhile isMargin).reverse.dropWhile isMargin).reverse

/-- The value of a digit in any base up to sixteen. -/
def digitIn? (base : Nat) (p : Point) : Option Nat :=
  match p with
  | .half _ => none
  | .char c => (hexDigit? c).bind fun d => if d < base then some d else none

/-- The number that digits mean, on from the number of those before. -/
def digitsFrom (base n : Nat) : Text → Option Nat
  | [] => some n
  | p :: t => (digitIn? base p).bind fun d => digitsFrom base (n * base + d) t

/-- The number that digits mean, of which there has to be one. -/
def digitsIn? (base : Nat) (t : Text) : Option Nat :=
  if t.isEmpty then none else digitsFrom base 0 t

/-- The letters that may stand before the digits of a base. -/
def baseMarks (base : Nat) : String :=
  if base == 2 then "bB" else if base == 8 then "oO" else if base == 16 then "xX" else ""

/-- The digits of a number without the mark of its base. -/
def withoutMark (base : Nat) : Text → Text
  | .char '0' :: p :: t => if isOneOf (baseMarks base) p then t else .char '0' :: p :: t
  | t => t

/-- The integer of a text in a base, between blanks and after a sign. Decimal digits are counted
before anything after them is looked at. -/
def intIn (base : Nat) (t : Text) : Except Fault Int := do
  let u := plainNumber t
  let digits := withoutMark base (unsigned u)
  if base == 10 then
    (Number.checkDigits (digits.takeWhile Point.isDigit).length).mapError .tooLong
  match digitsIn? base digits with
  | some n => return if isNegative u then -(n : Int) else n
  | none => throw (.notInteger base t)

/-- The integers of the pieces of a text. -/
def intPieces : List Text → Except Fault (List Int)
  | [] => .ok []
  | p :: ps => do
    let n ← intIn 10 p
    return n :: (← intPieces ps)

/-- The integer of a text: binary, octal, hexadecimal, sexagesimal or decimal. -/
def intValue (t : Text) : Except Fault Int := do
  let s := withoutUnderscores t
  let u := unsigned s
  let sign : Int := if isNegative s then -1 else 1
  match u with
  | [] => throw .emptyNumber
  | [.char '0'] => return 0
  | .char '0' :: .char 'b' :: ds => return sign * (← intIn 2 ds)
  | .char '0' :: .char 'x' :: ds => return sign * (← intIn 16 ds)
  | .char '0' :: _ => return sign * (← intIn 8 u)
  | _ =>
    if u.contains (.char ':') then
      return sign * (← intPieces (Text.pieces (.char ':') u)).foldl (fun n d => n * 60 + d) 0
    else return sign * (← intIn 10 u)

/-- The words for numbers that are no decimals. -/
def floatWords : List (Text × Binary) :=
  [("inf".points, .infinite false), ("infinity".points, .infinite false),
    ("nan".points, .undefined)]

/-- The exponent of a decimal, if it is one. -/
def exponent? : Text → Option Int
  | [] => some 0
  | .char 'e' :: t =>
    (digitsIn? 10 (unsigned t)).map fun n => if isNegative t then -(n : Int) else n
  | _ => none

/-- The number nearest to a decimal without a sign. -/
def decimalValue? (negative : Bool) (u : Text) : Option Binary :=
  match floatWords.lookup u with
  | some x => some (if negative then x.neg else x)
  | none =>
    let whole := u.takeWhile Point.isDigit
    let f := readFraction (u.drop whole.length)
    if whole.isEmpty && f.1.isEmpty then none
    else
      (exponent? f.2).map fun e =>
        Binary.ofDecimal negative (decimal (whole ++ f.1)) (e - f.1.length)

/-- The number nearest to a decimal, between blanks and after a sign. -/
def decimalValue (t : Text) : Except Fault Binary :=
  let u := plainNumber t
  match decimalValue? (isNegative u) (unsigned u) with
  | some x => .ok x
  | none => .error (.notFloat t)

/-- The numbers of the pieces of a text. -/
def floatPieces : List Text → Except Fault (List Binary)
  | [] => .ok []
  | p :: ps => do
    let x ← decimalValue p
    return x :: (← floatPieces ps)

/-- The sum of sexagesimal places, the last place first. -/
def sexagesimal (base : Nat) (sum : Binary) : List Binary → Except Fault Binary
  | [] => .ok sum
  | x :: xs =>
    match Binary.ofNat? base with
    | none => .error .floatOverflow
    | some b => sexagesimal (base * 60) (sum.add (x.mul b)) xs

/-- The value of a floating-point number; one that is none comes from the given place. -/
def floatOf (origin : Nat) : Binary → Value
  | .undefined => .undefined origin
  | x => .float x

/-- The floating-point number of a text at a place. All numbers that are spelled out as none are one
and the same, any other comes from its place. -/
def floatValue (origin : Nat) (t : Text) : Except Fault Value := do
  let s := Text.lower (withoutUnderscores t)
  if s.isEmpty then throw .emptyNumber
  let signed (x : Binary) : Value := floatOf (origin + 1) (if isNegative s then x.neg else x)
  let u := unsigned s
  if u == ".inf".points then return signed (.infinite false)
  else if u == ".nan".points then return .undefined 0
  else if u.contains (.char ':') then
    let places := (← floatPieces (Text.pieces (.char ':') u)).reverse
    return signed (← sexagesimal 1 (Binary.zero false) places)
  else return signed (← decimalValue u)

/-- The truth value of a word in any case. -/
def truthValue (t : Text) : Except Fault Bool :=
  let word := Text.lower t
  match truthWords.lookup word with
  | some b => .ok b
  | none => .error (.notTruth word)

/-- Six digits of a fraction of a second. -/
def microseconds (fraction : Text) : Nat :=
  let ds := fraction.take 6
  decimal ds * Nat.pow 10 (6 - ds.length)

/-- The date or moment of the parts of a timestamp. -/
def timestampOf (p : TimestampParts) : Except Calendar.Fault Value :=
  match p.time? with
  | none => (Calendar.Date.of p.year p.month p.day).map .date
  | some (h, m, s, fraction) => do
    let offset? ←
      match p.offset? with
      | none => pure none
      | some o => (Calendar.offsetOf o).map some
    (Calendar.Moment.of p.year p.month p.day h m s (microseconds fraction) offset?).map .moment

/-- The date or moment of a text, after which a line end may follow. -/
def timestampValue (t : Text) : Except Fault Value :=
  match readTimestamp (Text.dropFinalBreak t) with
  | none => .error .notTimestamp
  | some p => (timestampOf p).mapError .calendar

/-- The bytes of a text in base 64, which has to be ASCII. -/
def bytesValue (t : Text) : Except Fault Value :=
  match if t.all (fun p => p.code < 128) then Text.base64Bytes? t else none with
  | some bs => .ok (.bytes bs)
  | none => .error .malformed

/-- The value of a scalar at a place. -/
def scalarValue (origin : Nat) (tag : Tag) (t : Text) : Except Fault Value :=
  match tag with
  | .null => .ok .null
  | .bool => (truthValue t).map .bool
  | .int => (intValue t).map .int
  | .float => floatValue origin t
  | .timestamp => timestampValue t
  | .text => .ok (.text t)
  | .bytes => bytesValue t
  | _ => .error .malformed

end Docblocks.Yaml
