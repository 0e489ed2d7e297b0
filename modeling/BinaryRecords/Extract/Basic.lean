import BinaryRecords.Error
import BinaryRecords.Text.Utf8

/-!
# Extraction

A value is converted to a target as a whole or not at all.  Of several parts that
cannot be converted, the first one gives the error.
-/

namespace BinaryRecords

namespace Value

/-- The failure to find another kind of value than this one. -/
def unexpected (value : Value) (expected : Kind) : Error :=
  .unexpectedKind expected value.kind

/-- The integer that a string holds a byte of. -/
def ofByte (byte : UInt8) : Value :=
  .integer (Int64.ofNat byte.toNat)

def expectInteger (value : Value) : Except Error Int64 :=
  match value with
  | integer number => .ok number
  | other => .error (other.unexpected .integer)

/-- The number of a floating point value, or the failure to find one. -/
def expectFloat (value : Value) : Except Error Binary64 :=
  match value with
  | float number => .ok number
  | other => .error (other.unexpected .float)

def expectText (value : Value) : Except Error String :=
  match value with
  | string bytes =>
      match Text.Utf8.decode? bytes with
      | some text => .ok text
      | none => .error .invalidUtf8
  | other => .error (other.unexpected .string)

def expectRecord (value : Value) : Except Error Record :=
  match value with
  | record entries => .ok entries
  | other => .error (other.unexpected .record)

/-- The elements of an array or the bytes of a string, or the failure to find
either. -/
def expectElements (value : Value) : Except Error (List Value) :=
  match value with
  | array elements => .ok elements
  | string bytes => .ok (bytes.map ofByte)
  | other => .error (other.unexpected .array)

/-- The number of an integer that belongs to a type, or the failure to find
one. -/
def expectWithin (target : IntegerTarget) (value : Value) : Except Error Int :=
  match value.expectInteger with
  | .ok number =>
      if target.holds number.toInt then .ok number.toInt
      else .error (.integerOutOfRange target)
  | .error failure => .error failure

end Value

namespace Target

/-- What a target is made from where the entry of a record is absent. -/
def ofMissing (target : Target) (key : String) : Except Error Extract :=
  match target with
  | option _ => .ok .absent
  | _ => .error (.missingField key)

mutual

def ofValue : Target → Value → Except Error Extract
  | integer target, value => (value.expectWithin target).map .integer
  | float32, value => value.expectFloat.map fun number => .float32 number.narrow
  | float64, value => value.expectFloat.map .float64
  | text, value => value.expectText.map .text
  | anyValue, value => .ok (.value value)
  | anyRecord, value => value.expectRecord.map .record
  | list element, value => do
      let elements ← value.expectElements
      let extracts ← elements.mapM (ofValue element)
      .ok (.list extracts)
  | option content, value => (ofValue content value).map .present
  | shape members, value => do
      let record ← value.expectRecord
      let extracts ← membersOfRecord members record
      .ok (.members extracts)

/-- Convert the entries of a record to the members of a shape, in the order of
the members. -/
def membersOfRecord : List (Member Target) → Record → Except Error (List Extract)
  | [], _ => .ok []
  | .skipped extract :: members, record => do
      let extracts ← membersOfRecord members record
      .ok (extract :: extracts)
  | .keyed key target :: members, record => do
      let extract ←
        match record.get? key with
        | some value => ofValue target value
        | none => ofMissing target key
      let extracts ← membersOfRecord members record
      .ok (extract :: extracts)

end

def ofEntry (target : Target) (record : Record) (key : String) : Except Error Extract :=
  match record.get? key with
  | some value => target.ofValue value
  | none => target.ofMissing key

end Target

namespace Shape

def ofRecord (shape : Shape) (record : Record) : Except Error Extract :=
  (Target.membersOfRecord shape record).map .members

end Shape

end BinaryRecords
