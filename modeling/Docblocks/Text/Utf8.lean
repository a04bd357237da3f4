import Docblocks.Text.Quoted

/-!
UTF-8: the bytes of a text, and the characters of bytes, with the first fault if there is one.

A text without halves of surrogate pairs has bytes. A fault of bytes covers those that were a
well-formed beginning of a character, or the one byte that begins none.
-/

set_option autoImplicit false
set_option relaxedAutoImplicit false

namespace Docblocks.Text.Utf8

/-- Halves of surrogate pairs, which have no bytes: the offset of the first one, how many of them
there are, and the first one. -/
structure LoneHalves where
  position : Nat
  width : Nat
  first : Fin 2048
  deriving DecidableEq, Repr

/-- The fault of a half in front of a text. -/
def LoneHalves.here (position : Nat) (n : Fin 2048) (t : Text) : LoneHalves :=
  ⟨position, (t.takeWhile Point.isHalf).length + 1, n⟩

/-- The wording of a fault of halves. -/
def LoneHalves.message (f : LoneHalves) : Text :=
  let nat (n : Nat) : Text := (toString n).points
  let place :=
    if f.width = 1 then
      "character '".points ++ codeEscape (Point.half f.first).code ++ "' in position ".points ++
        nat f.position
    else
      "characters in position ".points ++ nat f.position ++ "-".points ++
        nat (f.position + f.width - 1)
  "'utf-8' codec can't encode ".points ++ place ++ ": surrogates not allowed".points

/-- The bytes of a text that stands at an offset. -/
def encodeAt (pos : Nat) : Text → Except LoneHalves (List UInt8)
  | [] => .ok []
  | .char c :: t => (encodeAt (pos + 1) t).map (String.utf8EncodeChar c ++ ·)
  | .half n :: t => .error (.here pos n t)

/-- The bytes of a text. -/
def encode (t : Text) : Except LoneHalves (List UInt8) :=
  encodeAt 0 t

/-- The bytes of a name that stands at an offset; some halves stand for bytes that are no text. -/
def nameBytesAt (pos : Nat) : Text → Except LoneHalves (List UInt8)
  | [] => .ok []
  | .char c :: t => (nameBytesAt (pos + 1) t).map (String.utf8EncodeChar c ++ ·)
  | .half n :: t =>
    if 0x480 ≤ n.val && n.val < 0x500 then
      (nameBytesAt (pos + 1) t).map ((n.val - 0x400).toUInt8 :: ·)
    else .error (.here pos n t)

/-- The bytes of the name of a file or folder. -/
def nameBytes (t : Text) : Except LoneHalves (List UInt8) :=
  nameBytesAt 0 t

/-- Why bytes are not a text. -/
inductive Reason
  | start
  | continuation
  | truncated
  deriving DecidableEq, Repr

/-- The first fault of a sequence of bytes: its offset, the number of bytes and the first of them.
-/
structure Fault where
  position : Nat
  width : Nat
  lead : UInt8
  reason : Reason
  deriving DecidableEq, Repr

/-- Whether a byte continues a character. -/
def isTail (b : UInt8) : Bool :=
  0x80 ≤ b && b < 0xC0

/-- Whether a byte may follow a leading byte: overlong forms, surrogates and code points above the
last plane are left out. -/
def isSecond (lead b : UInt8) : Bool :=
  isTail b && (lead != 0xE0 || 0xA0 ≤ b) && (lead != 0xED || b < 0xA0) &&
    (lead != 0xF0 || 0x90 ≤ b) && (lead != 0xF4 || b < 0x90)

/-- The six payload bits of a continuing byte. -/
def tailBits (b : UInt8) : Nat := b.toNat - 0x80

/-- The characters of bytes that stand at an offset. -/
def decodeAt (pos : Nat) : List UInt8 → Except Fault (List Char)
  | [] => .ok []
  | a :: r =>
    if a < 0x80 then (decodeAt (pos + 1) r).map (Char.ofNat a.toNat :: ·)
    else if a < 0xC2 || 0xF4 < a then .error ⟨pos, 1, a, .start⟩
    else
      match r with
      | [] => .error ⟨pos, 1, a, .truncated⟩
      | b :: r =>
        if !isSecond a b then .error ⟨pos, 1, a, .continuation⟩
        else if a < 0xE0 then
          (decodeAt (pos + 2) r).map (Char.ofNat ((a.toNat - 0xC0) * 64 + tailBits b) :: ·)
        else
          match r with
          | [] => .error ⟨pos, 2, a, .truncated⟩
          | c :: r =>
            if !isTail c then .error ⟨pos, 2, a, .continuation⟩
            else if a < 0xF0 then
              (decodeAt (pos + 3) r).map
                (Char.ofNat (((a.toNat - 0xE0) * 64 + tailBits b) * 64 + tailBits c) :: ·)
            else
              match r with
              | [] => .error ⟨pos, 3, a, .truncated⟩
              | d :: r =>
                if !isTail d then .error ⟨pos, 3, a, .continuation⟩
                else
                  (decodeAt (pos + 4) r).map
                    (Char.ofNat
                      ((((a.toNat - 0xF0) * 64 + tailBits b) * 64 + tailBits c) * 64 +
                        tailBits d) :: ·)

/-- The characters of bytes. -/
def decode (bytes : List UInt8) : Except Fault (List Char) :=
  decodeAt 0 bytes

/-- Whether a fault may vanish when more bytes follow: a character is cut off at the end. -/
def Fault.isUnfinished (f : Fault) (bytes : List UInt8) : Bool :=
  f.reason == .truncated ||
    (f.reason == .continuation && f.lead == 0xED && f.position + 2 == bytes.length &&
      (bytes.getLast?).any isTail)

/-- The characters of bytes that others follow, and the bytes at the end that begin a character. -/
def decodePortion (bytes : List UInt8) : Except Fault (List Char × List UInt8) :=
  match decode bytes with
  | .ok cs => .ok (cs, [])
  | .error f =>
    if f.isUnfinished bytes then
      (decode (bytes.take f.position)).map fun cs => (cs, bytes.drop f.position)
    else .error f

/-- The wording of a reason. -/
def Reason.message : Reason → Text
  | .start => "invalid start byte".points
  | .continuation => "invalid continuation byte".points
  | .truncated => "unexpected end of data".points

/-- The wording of a decoding fault. -/
def Fault.message (f : Fault) : Text :=
  let nat (n : Nat) : Text := (toString n).points
  let place :=
    if f.width = 1 then
      "byte 0x".points ++ hex 2 f.lead.toNat ++ " in position ".points ++ nat f.position
    else
      "bytes in position ".points ++ nat f.position ++ "-".points ++ nat (f.position + f.width - 1)
  "'utf-8' codec can't decode ".points ++ place ++ ": ".points ++ f.reason.message

end Docblocks.Text.Utf8
