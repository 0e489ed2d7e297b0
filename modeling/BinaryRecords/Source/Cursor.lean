import BinaryRecords.Error

/-!
# Cursors and the reads at them

A cursor stands between two bytes of a source.  It knows how many bytes lie
before it and what the bytes after it are; a read takes some of these and yields
the cursor after them.

Numbers stand in a source with their lowest byte first.  Signed integers are in
two's complement, and all integers are widened to 64 bits with a sign.

A string has a fixed length or ends at a terminator.  A string of bytes is
terminated by a zero byte, a wide string by a unit of two zero bytes.  Of a
string with a fixed length all bytes are read, but it ends at the first
terminator among them.  A wide string may begin with a byte order mark, which is
read but does not belong to the string.
-/

namespace BinaryRecords

/-- A place in a source: the number of bytes before it and the bytes after it. -/
structure Cursor where
  position : Nat
  rest : List UInt8
  deriving DecidableEq, Inhabited

namespace Cursor

def size (cursor : Cursor) : Nat :=
  cursor.position + cursor.rest.length

def advance (cursor : Cursor) (count : Nat) : Cursor :=
  ⟨cursor.position + count, cursor.rest.drop count⟩

/-- The failure of a read that needs more bytes than there are. -/
def insufficient (cursor : Cursor) (needed : Nat) : Error :=
  .insufficientData cursor.position needed cursor.size

def readBytes (cursor : Cursor) (count : Nat) :
    Except Error (List UInt8 × Cursor) :=
  let bytes := cursor.rest.take count
  if bytes.length = count then
    .ok (bytes, cursor.advance count)
  else
    .error (cursor.insufficient count)

def skip (cursor : Cursor) (count : Nat) : Except Error Cursor :=
  (cursor.readBytes count).map Prod.snd

end Cursor

/-- The number that some bytes stand for, the lowest first. -/
def littleEndian : List UInt8 → Nat
  | [] => 0
  | byte :: bytes => byte.toNat + 256 * littleEndian bytes

namespace IntegerType

def cardinality (type : IntegerType) : Nat :=
  Nat.pow 256 type.width

def ofBytes (type : IntegerType) (bytes : List UInt8) : Int :=
  if type.isSigned then
    Int.bmod (littleEndian bytes) type.cardinality
  else
    littleEndian bytes

end IntegerType

namespace FloatType

/-- The floating point number that the bytes of a type stand for. -/
def ofBytes (type : FloatType) (bytes : List UInt8) : Binary64 :=
  match type with
  | .f32 => (⟨UInt32.ofNat (littleEndian bytes)⟩ : Binary32).widen
  | .f64 => ⟨UInt64.ofNat (littleEndian bytes)⟩

end FloatType

namespace Cursor

def readInteger (type : IntegerType) (cursor : Cursor) :
    Except Error (Int64 × Cursor) :=
  (cursor.readBytes type.width).map fun (bytes, after) =>
    (Int64.ofInt (type.ofBytes bytes), after)

def readFloat (type : FloatType) (cursor : Cursor) :
    Except Error (Binary64 × Cursor) :=
  (cursor.readBytes type.width).map fun (bytes, after) =>
    (type.ofBytes bytes, after)

end Cursor

/-- The bytes in front of the first zero byte, or all where there is none. -/
def beforeZero (bytes : List UInt8) : List UInt8 :=
  bytes.takeWhile (· != 0)

/-- The number of bytes in front of the first zero unit, counted on from a given
number; units are two bytes each from the first byte on. -/
def zeroUnitFrom (offset : Nat) : List UInt8 → Option Nat
  | low :: high :: rest =>
      if low = 0 ∧ high = 0 then some offset else zeroUnitFrom (offset + 2) rest
  | _ => none

def zeroUnit? (bytes : List UInt8) : Option Nat :=
  zeroUnitFrom 0 bytes

/-- The bytes in front of the first zero unit, or all where there is none. -/
def beforeZeroUnit (bytes : List UInt8) : List UInt8 :=
  match zeroUnit? bytes with
  | some offset => bytes.take offset
  | none => bytes

/-- The number of bytes of the byte order mark that some bytes begin with: a
unit counts as one by its first byte alone. -/
def orderMarkLength : List UInt8 → Nat
  | first :: _ :: _ => if first = 0xFF ∨ first = 0xFE then 2 else 0
  | _ => 0

namespace Cursor

/-- Read a string up to its terminator, which is read as well. -/
def readTerminated (cursor : Cursor) : Except Error (List UInt8 × Cursor) :=
  let text := beforeZero cursor.rest
  match cursor.rest.dropWhile (· != 0) with
  | [] => .error (.missingTerminator cursor.position)
  | _ :: after => .ok (text, ⟨cursor.position + text.length + 1, after⟩)

/-- Read a string of so many bytes, or a terminated one for length zero. -/
def readString (length : Nat) (cursor : Cursor) :
    Except Error (List UInt8 × Cursor) :=
  if length = 0 then
    cursor.readTerminated
  else
    (cursor.readBytes length).map fun (bytes, after) => (beforeZero bytes, after)

/-- Read a wide string up to its terminator, which is read as well. -/
def readWideTerminated (cursor : Cursor) : Except Error (List UInt8 × Cursor) :=
  let mark := orderMarkLength cursor.rest
  let text := cursor.rest.drop mark
  match zeroUnit? text with
  | none => .error (.missingTerminator cursor.position)
  | some offset => .ok (text.take offset, cursor.advance (mark + offset + 2))

/-- Read a wide string of so many units, or a terminated one for length zero.
A number of bytes beyond 64 bits counts as the greatest number of 64 bits. -/
def readWideString (length : Nat) (cursor : Cursor) :
    Except Error (List UInt8 × Cursor) :=
  if length = 0 then
    cursor.readWideTerminated
  else if largestWord < 2 * length then
    .error (cursor.insufficient largestWord)
  else
    (cursor.readBytes (2 * length)).map fun (bytes, after) =>
      (beforeZeroUnit (bytes.drop (orderMarkLength bytes)), after)

end Cursor

end BinaryRecords
