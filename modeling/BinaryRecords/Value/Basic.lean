import BinaryRecords.Ieee

/-!
# Values

A value is what an item of a layout yields.  Integers of all types are widened
to 64 bits with a sign and floating point numbers to 64 bits, and a string is
the bytes that it was read from.  Every value is of one of five kinds, and a
failed extraction names the kind that it met.
-/

namespace BinaryRecords

/-- The kinds of values. -/
inductive Kind
  | integer
  | float
  | string
  | array
  | record
  deriving DecidableEq, Inhabited

namespace Kind

def word : Kind → String
  | integer => "integer"
  | float => "float"
  | string => "string"
  | array => "array"
  | record => "record"

end Kind

/-- What an item of a layout yields. -/
inductive Value
  | integer (number : Int64)
  | float (number : Binary64)
  | string (bytes : List UInt8)
  /-- The repetitions of an item. -/
  | array (elements : List Value)
  /-- The named values of a struct, in the order of its fields. -/
  | record (entries : List (String × Value))
  deriving Inhabited

/-- The named values of a struct, in the order of its fields. -/
abbrev Record := List (String × Value)

/-- The value of the first entry with a name. -/
def Record.get? (record : Record) (name : String) : Option Value :=
  record.lookup name

namespace Value

def kind : Value → Kind
  | integer _ => .integer
  | float _ => .float
  | string _ => .string
  | array _ => .array
  | record _ => .record

def integer? : Value → Option Int64
  | integer number => some number
  | _ => none

def float? : Value → Option Binary64
  | float number => some number
  | _ => none

def bytes? : Value → Option (List UInt8)
  | string bytes => some bytes
  | _ => none

def elements? : Value → Option (List Value)
  | array elements => some elements
  | _ => none

def record? : Value → Option Record
  | record entries => some entries
  | _ => none

mutual

/-- Whether two values are equal, where floating point numbers are compared as
numbers. -/
def same : Value → Value → Bool
  | integer first, integer second => first == second
  | float first, float second => first.sameNumber second
  | string first, string second => first == second
  | array first, array second => sameElements first second
  | record first, record second => sameEntries first second
  | _, _ => false

def sameElements : List Value → List Value → Bool
  | [], [] => true
  | first :: firsts, second :: seconds =>
      same first second && sameElements firsts seconds
  | _, _ => false

/-- Whether two records have equal entries in the same order. -/
def sameEntries : List (String × Value) → List (String × Value) → Bool
  | [], [] => true
  | (name, first) :: firsts, (otherName, second) :: seconds =>
      name == otherName && same first second && sameEntries firsts seconds
  | _, _ => false

end

end Value

end BinaryRecords
