import Docblocks.Yaml.Scalar
import Docblocks.Text.Layout

/-!
The tag of a node, and the tag that a plain scalar has by its form.

The forms are those of the older YAML rules: words such as `yes` and `off` are truth values, a
leading zero makes a number octal, and a colon between digits makes it sexagesimal.
-/

set_option autoImplicit false
set_option relaxedAutoImplicit false

namespace Docblocks.Yaml

/-- What a node is. -/
inductive Tag
  | null
  | bool
  | int
  | float
  | timestamp
  | text
  | bytes
  | sequence
  | pairs
  | mapping
  | unordered
  | merge
  | equals
  | unknown
  deriving DecidableEq, Repr

/-- The common beginning of the names of the known tags. -/
def coreUri : List Char := "tag:yaml.org,2002:".toList

/-- The names of the known tags after their common beginning. -/
def coreTags : List (String × Tag) :=
  [("null", .null), ("bool", .bool), ("int", .int), ("float", .float), ("timestamp", .timestamp),
    ("str", .text), ("binary", .bytes), ("seq", .sequence), ("omap", .pairs), ("pairs", .pairs),
    ("map", .mapping), ("set", .unordered), ("merge", .merge), ("value", .equals)]

/-- The tag of a full name. -/
def Tag.ofUri (uri : List Char) : Tag :=
  if coreUri.isPrefixOf uri then
    (coreTags.lookup (String.ofList (uri.drop coreUri.length))).getD .unknown
  else .unknown

/-- Whether the values of a tag are made of the values of other nodes. -/
def Tag.isCollection : Tag → Bool
  | .sequence => true
  | .pairs => true
  | .mapping => true
  | .unordered => true
  | _ => false

/-- The words for truth values, of which only these spellings count. -/
def truthWords : List (Text × Bool) :=
  [("yes", true), ("Yes", true), ("YES", true), ("no", false), ("No", false), ("NO", false),
    ("true", true), ("True", true), ("TRUE", true), ("false", false), ("False", false),
    ("FALSE", false), ("on", true), ("On", true), ("ON", true), ("off", false), ("Off", false),
    ("OFF", false)].map fun p => (p.1.points, p.2)

/-- The words for nothing. -/
def nullWords : List Text := ["~".points, "null".points, "Null".points, "NULL".points]

/-- The marks that are no value. -/
def reservedWords : List Text := ["!".points, "&".points, "*".points]

/-- A text without a leading sign. -/
def unsigned : Text → Text
  | .char '-' :: t => t
  | .char '+' :: t => t
  | t => t

/-- Whether a code point is one of some characters. -/
def isOneOf (s : String) (p : Point) : Bool :=
  s.points.contains p

/-- Whether a code point is a digit or an underscore. -/
def isDigitOrUnderscore (p : Point) : Bool := p.isDigit || p == .char '_'

/-- Whether a text is a digit followed by digits and underscores. -/
def isDigits : Text → Bool
  | [] => false
  | p :: t => p.isDigit && t.all isDigitOrUnderscore

/-- Whether a text is a digit other than zero followed by digits and underscores. -/
def isPositive : Text → Bool
  | [] => false
  | p :: t => p.isDigit && p != .char '0' && t.all isDigitOrUnderscore

/-- Whether a text is a number below sixty in one or two digits. -/
def isBelowSixty : Text → Bool
  | [a] => a.isDigit
  | [a, b] => isOneOf "012345" a && b.isDigit
  | _ => false

/-- Whether a text is not empty and has code points of one class only. -/
def isRunOf (member : Point → Bool) (t : Text) : Bool := !t.isEmpty && t.all member

/-- Whether a text is an exponent: nothing, or its mark, a sign and digits. -/
def isExponent : Text → Bool
  | [] => true
  | e :: s :: t => isOneOf "eE" e && isOneOf "-+" s && isRunOf Point.isDigit t
  | _ => false

/-- Whether a text has the form of an integer. -/
def isInt (t : Text) : Bool :=
  match unsigned t with
  | .char '0' :: .char 'b' :: ds => isRunOf (isOneOf "01_") ds
  | .char '0' :: .char 'x' :: ds => isRunOf (isOneOf "_0123456789abcdefABCDEF") ds
  | .char '0' :: ds => ds.all (isOneOf "01234567_")
  | u =>
    match Text.pieces (.char ':') u with
    | [] => false
    | first :: rest => isPositive first && rest.all isBelowSixty

/-- Whether a text is a fraction: digits and underscores, and an exponent. -/
def isFraction (t : Text) : Bool :=
  isExponent (t.dropWhile isDigitOrUnderscore)

/-- Whether a text has the form of a number with a point after its first digits. -/
def isPositional (t : Text) : Bool :=
  let whole := t.takeWhile isDigitOrUnderscore
  match t.drop whole.length with
  | .char '.' :: fraction => isDigits whole && isFraction fraction
  | _ => false

/-- Whether a text has the form of a number that starts with its point. -/
def isBareFraction : Text → Bool
  | .char '.' :: d :: rest => d.isDigit && isFraction rest
  | _ => false

/-- Whether a text has the form of a sexagesimal number with a fraction. -/
def isSexagesimalFloat (t : Text) : Bool :=
  let whole := t.takeWhile (· != .char '.')
  match Text.pieces (.char ':') whole, t.drop whole.length with
  | first :: second :: rest, _ :: fraction =>
    isDigits first && (second :: rest).all isBelowSixty && fraction.all isDigitOrUnderscore
  | _, _ => false

/-- The words for numbers beyond all others. -/
def infinityWords : List Text := [".inf".points, ".Inf".points, ".INF".points]

/-- The words for a number that is none. -/
def undefinedWords : List Text := [".nan".points, ".NaN".points, ".NAN".points]

/-- Whether a text has the form of a number with a point. -/
def isFloat (t : Text) : Bool :=
  let u := unsigned t
  isPositional u || isBareFraction t || isSexagesimalFloat u || infinityWords.contains u ||
    undefinedWords.contains t

/-- The parts of a timestamp: year, month, day, then hour, minute, second, fraction and offset. -/
structure TimestampParts where
  year : Nat
  month : Nat
  day : Nat
  time? : Option (Nat × Nat × Nat × Text) := none
  offset? : Option Int := none
  padded : Bool
  deriving Repr

/-- The number that digits mean. -/
def decimal (t : Text) : Nat :=
  t.foldl (fun n p => n * 10 + (p.code - 48)) 0

/-- Reads from one up to a number of digits. -/
def digitsUpTo (least most : Nat) (t : Text) : Option (Text × Text) :=
  let ds := (t.take most).takeWhile Point.isDigit
  if least ≤ ds.length then some (ds, t.drop ds.length) else none

/-- Reads one character. -/
def expect (c : Char) : Text → Option Text
  | [] => none
  | p :: t => if p = .char c then some t else none

/-- Reads the minutes of an offset after its hours, if there are any. -/
def readMinutes : Text → Option Nat
  | [] => some 0
  | .char ':' :: t =>
    (digitsUpTo 2 2 t).bind fun m => if m.2.isEmpty then some (decimal m.1) else none
  | _ => none

/-- Reads the hours and minutes of an offset, in minutes. -/
def readSpan (t : Text) : Option Nat := do
  let h ← digitsUpTo 1 2 t
  return decimal h.1 * 60 + (← readMinutes h.2)

/-- Reads an offset at the end of a timestamp, in minutes. -/
def readOffset (t : Text) : Option (Option Int) :=
  match t.dropWhile (isOneOf " \t") with
  | [] => if t.isEmpty then some none else none
  | [.char 'Z'] => some (some 0)
  | .char '-' :: u => (readSpan u).map fun n => some (-(n : Int))
  | .char '+' :: u => (readSpan u).map fun n => some (n : Int)
  | _ => none

/-- Reads what stands between a date and a time: a letter or blanks. -/
def readTimeMark : Text → Option Text
  | .char 'T' :: t => some t
  | .char 't' :: t => some t
  | p :: t => if isOneOf " \t" p then some (t.dropWhile (isOneOf " \t")) else none
  | [] => none

/-- Reads a fraction after its point, if there is one. -/
def readFraction : Text → Text × Text
  | .char '.' :: t => (t.takeWhile Point.isDigit, t.dropWhile Point.isDigit)
  | t => ([], t)

/-- Reads the time of a day after its date. -/
def readTime (t : Text) : Option ((Nat × Nat × Nat × Text) × Option Int) := do
  let h ← (readTimeMark t).bind (digitsUpTo 1 2)
  let m ← (expect ':' h.2).bind (digitsUpTo 2 2)
  let s ← (expect ':' m.2).bind (digitsUpTo 2 2)
  let f := readFraction s.2
  let o ← readOffset f.2
  return ((decimal h.1, decimal m.1, decimal s.1, f.1), o)

/-- Reads a timestamp. -/
def readTimestamp (t : Text) : Option TimestampParts := do
  let y ← digitsUpTo 4 4 t
  let m ← (expect '-' y.2).bind (digitsUpTo 1 2)
  let d ← (expect '-' m.2).bind (digitsUpTo 1 2)
  let parts : TimestampParts :=
    { year := decimal y.1
      month := decimal m.1
      day := decimal d.1
      padded := m.1.length == 2 && d.1.length == 2 }
  if d.2.isEmpty then return parts
  else
    let r ← readTime d.2
    return { parts with time? := some r.1, offset? := r.2 }

/-- Whether a plain scalar has the form of a timestamp; a date alone needs two digits for month and
day. -/
def isTimestamp (t : Text) : Bool :=
  match readTimestamp t with
  | some p => p.time?.isSome || p.padded
  | none => false

/-- The tag that a text has by its form. -/
def Tag.ofForm (t : Text) : Tag :=
  if nullWords.contains t then .null
  else if (truthWords.lookup t).isSome then .bool
  else if isFloat t then .float
  else if isInt t then .int
  else if isTimestamp t then .timestamp
  else if t == "<<".points then .merge
  else if t == "=".points then .equals
  else if reservedWords.contains t then .unknown
  else .text

/-- The tag that a plain scalar has by its form, after which a line end may follow; an empty one is
null. -/
def Tag.ofPlain (t : Text) : Tag :=
  if t.isEmpty then .null else Tag.ofForm (Text.dropFinalBreak t)

end Docblocks.Yaml
