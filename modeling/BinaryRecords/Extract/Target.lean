import BinaryRecords.Value.Basic

/-!
# Targets of extraction

A target is a type that values are converted to, and an extract is the result of
a conversion.  A converted integer keeps its number, so the conversion is
possible exactly when the number lies between the least and the greatest of the
type.  A shape lists the members of a target that is made from a record: each is
taken from the entry with its key, or is skipped and has a fixed extract.
-/

namespace BinaryRecords

/-- The integer types that values are converted to. -/
inductive IntegerTarget
  | u8
  | u16
  | u32
  | u64
  | i16
  | i32
  | i64
  deriving DecidableEq, Inhabited

namespace IntegerTarget

def word : IntegerTarget → String
  | u8 => "u8"
  | u16 => "u16"
  | u32 => "u32"
  | u64 => "u64"
  | i16 => "i16"
  | i32 => "i32"
  | i64 => "i64"

def least : IntegerTarget → Int
  | u8 | u16 | u32 | u64 => 0
  | i16 => -32768
  | i32 => -2147483648
  | i64 => -9223372036854775808

def greatest : IntegerTarget → Int
  | u8 => 255
  | u16 => 65535
  | u32 => 4294967295
  | u64 => 18446744073709551615
  | i16 => 32767
  | i32 => 2147483647
  | i64 => 9223372036854775807

/-- Whether a number belongs to a type. -/
def holds (target : IntegerTarget) (number : Int) : Bool :=
  target.least ≤ number && number ≤ target.greatest

end IntegerTarget

/-- The result of converting a value. -/
inductive Extract
  | integer (number : Int)
  | float32 (number : Binary32)
  | float64 (number : Binary64)
  | text (text : String)
  | value (value : Value)
  | record (record : Record)
  | list (elements : List Extract)
  | absent
  | present (content : Extract)
  | members (members : List Extract)
  deriving Inhabited

/-- A member of a shape, with its target in `α`. -/
inductive Member (α : Type)
  /-- The value of the entry with the key. -/
  | keyed (key : String) (target : α)
  /-- A fixed extract. -/
  | skipped (extract : Extract)
  deriving Inhabited

/-- A type that values are converted to. -/
inductive Target
  | integer (target : IntegerTarget)
  | float32
  | float64
  | text
  /-- Any value, as it is. -/
  | anyValue
  /-- Any record, as it is. -/
  | anyRecord
  /-- The elements of an array or the bytes of a string, each converted. -/
  | list (element : Target)
  /-- A target that may be absent from a record. -/
  | option (content : Target)
  /-- The members of a shape, taken from a record. -/
  | shape (members : List (Member Target))
  deriving Inhabited

/-- The members of a target that is made from a record. -/
abbrev Shape := List (Member Target)

end BinaryRecords
