/-! # UTF-8

Bytes are decoded one at a time.  Between characters there is no state; inside a
character the state says which bytes may come next.  The first byte that cannot
come next ends the decoding, and the fault names the bytes of the character that
was begun.
-/
namespace DeclDocs
namespace Utf8

/-- What is wrong with a sequence of bytes. -/
inductive Defect where
  | badStart
  | badContinuation
  | unexpectedEnd
  deriving DecidableEq, Repr

/-- The wording of a defect. -/
def Defect.message : Defect → String
  | .badStart => "invalid start byte"
  | .badContinuation => "invalid continuation byte"
  | .unexpectedEnd => "unexpected end of data"

/-- Bytes that are no character: the first of them, where it stands, and how many
valid continuation bytes follow it. -/
structure Fault where
  defect : Defect
  byte : UInt8
  position : Nat
  continuations : Nat
  deriving DecidableEq, Repr

/-- The two lower-case hexadecimal digits of a byte. -/
def byteDigits (byte : UInt8) : String :=
  let digits := Nat.toDigits 16 byte.toNat
  String.ofList (if digits.length < 2 then '0' :: digits else digits)

/-- The wording of a fault. -/
def Fault.message (fault : Fault) : String :=
  let bytes :=
    if fault.continuations = 0 then
      "byte 0x" ++ byteDigits fault.byte ++ " in position " ++ toString fault.position
    else
      "bytes in position " ++ toString fault.position ++ "-" ++
        toString (fault.position + fault.continuations)
  "'utf-8' codec can't decode " ++ bytes ++ ": " ++ fault.defect.message

/-- A character that has been begun: its first byte and where it stands, the
number of continuation bytes read and still needed, the range in which the next
one must lie, and the bits so far. -/
structure Begun where
  byte : UInt8
  position : Nat
  read : Nat := 0
  needed : Nat
  low : UInt8 := 0x80
  high : UInt8 := 0xBF
  bits : Nat

/-- The fault of a character that cannot be completed. -/
def Begun.fault (begun : Begun) (defect : Defect) : Fault :=
  ⟨defect, begun.byte, begun.position, begun.read⟩

/-- The character that a byte above the ASCII range begins.  The ranges of the
second byte leave out overlong forms, surrogates, and code points past the last. -/
def begin? (byte : UInt8) (position : Nat) : Option Begun :=
  let begun (needed : Nat) (low high : UInt8) (bits : Nat) : Option Begun :=
    some { byte, position, needed, low, high, bits }
  let n := byte.toNat
  if n < 0xC2 then none
  else if n < 0xE0 then begun 1 0x80 0xBF (n - 0xC0)
  else if n = 0xE0 then begun 2 0xA0 0xBF 0
  else if n = 0xED then begun 2 0x80 0x9F 13
  else if n < 0xF0 then begun 2 0x80 0xBF (n - 0xE0)
  else if n = 0xF0 then begun 3 0x90 0xBF 0
  else if n < 0xF4 then begun 3 0x80 0xBF (n - 0xF0)
  else if n = 0xF4 then begun 3 0x80 0x8F 4
  else none

/-- Whether a byte may come next in a character that has been begun. -/
def Begun.admits (begun : Begun) (byte : UInt8) : Bool :=
  begun.low ≤ byte && byte ≤ begun.high

/-- The bits of a character so far, with those of the next byte. -/
def Begun.bitsWith (begun : Begun) (byte : UInt8) : Nat :=
  begun.bits * 64 + byte.toNat % 64

/-- A character that has been begun, after its next byte. -/
def Begun.after (begun : Begun) (byte : UInt8) : Begun :=
  { begun with
    read := begun.read + 1, needed := begun.needed - 1
    low := 0x80, high := 0xBF, bits := begun.bitsWith byte }

/-- Decodes bytes from `position` on; `done` holds the characters so far, last
first. -/
def decodeFrom (position : Nat) (done : List Char) :
    Option Begun → List UInt8 → Except Fault (List Char)
  | none, [] => .ok done.reverse
  | some begun, [] => .error (begun.fault .unexpectedEnd)
  | none, byte :: rest =>
    if byte < 0x80 then decodeFrom (position + 1) (Char.ofNat byte.toNat :: done) none rest
    else
      match begin? byte position with
      | none => .error ⟨.badStart, byte, position, 0⟩
      | some begun => decodeFrom (position + 1) done (some begun) rest
  | some begun, byte :: rest =>
    if !begun.admits byte then .error (begun.fault .badContinuation)
    else if begun.needed ≤ 1 then
      decodeFrom (position + 1) (Char.ofNat (begun.bitsWith byte) :: done) none rest
    else decodeFrom (position + 1) done (some (begun.after byte)) rest

/-- The characters that some bytes encode. -/
def decode (bytes : List UInt8) : Except Fault (List Char) :=
  decodeFrom 0 [] none bytes

end Utf8
end DeclDocs
