import BinaryRecords.Source.Cursor

/-!
# Sources

A source is a named region of bytes with a position in it.  A read that fails
leaves the position where it was.
-/

namespace BinaryRecords

/-- A named region of bytes with a position in it. -/
structure Source where
  name : String
  bytes : List UInt8
  position : Nat
  deriving DecidableEq, Inhabited

namespace Source

/-- A source over some bytes, with the position in front of them. -/
def ofBytes (name : String) (bytes : List UInt8) : Source :=
  ⟨name, bytes, 0⟩

def size (source : Source) : Nat :=
  source.bytes.length

def remaining (source : Source) : List UInt8 :=
  source.bytes.drop source.position

def cursor (source : Source) : Cursor :=
  ⟨source.position, source.remaining⟩

/-- Perform a read at the position, and leave the position after it. -/
def read {α : Type} (source : Source)
    (action : Cursor → Except Error (α × Cursor)) : Except Error α × Source :=
  match action source.cursor with
  | .ok (result, after) => (.ok result, { source with position := after.position })
  | .error failure => (.error failure, source)

/-- Move to a position, at most to the end. -/
def moveTo (source : Source) (position : Nat) : Except Error Unit × Source :=
  if source.size < position then
    (.error (.invalidPosition position source.size), source)
  else
    (.ok (), { source with position := position })

def skip (source : Source) (count : Nat) : Except Error Unit × Source :=
  source.read fun cursor => (cursor.skip count).map fun after => ((), after)

/-- The offset of the first occurrence of some bytes, counted on from a given
number. -/
def occurrenceFrom (needle : List UInt8) (offset : Nat) : List UInt8 → Option Nat
  | [] => none
  | byte :: bytes =>
      if needle.isPrefixOf (byte :: bytes) then some offset
      else occurrenceFrom needle (offset + 1) bytes

/-- The offset of the first occurrence of some bytes that begins at the position
or after it and ends at the limit or before it.  No bytes at all occur nowhere. -/
def find? (source : Source) (needle : List UInt8) (limit : Nat) : Option Nat :=
  if needle = [] then
    none
  else
    occurrenceFrom needle source.position
      ((source.bytes.take limit).drop source.position)

end Source

end BinaryRecords
