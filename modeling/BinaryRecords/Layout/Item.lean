/-!
# Items, fields and tokens of a layout

A layout is a list of items, each of which says how the next bytes of a source
are read: a built-in type, a call of a host function, or a struct declared
elsewhere, with an optional length and an optional repetition.  A field is an
item that belongs to a struct and has a name there, unless it is a gap.

The text of a layout is a sequence of tokens.  Lengths, counts and the colon
attach to the token in front of them, and all others are separated by blanks.
Lengths and counts are words of 64 bits, and a size that would be greater counts
as the greatest word.
-/

namespace BinaryRecords

/-- The greatest number of 64 bits. -/
def largestWord : Nat :=
  0xFFFFFFFFFFFFFFFF

/-- A number, or the greatest number of 64 bits if it is greater. -/
def clampWord (number : Nat) : Nat :=
  min number largestWord

/-- The integer types, by the bytes they occupy and by whether the highest bit
is a sign. -/
inductive IntegerType
  | u8
  | u16
  | u32
  | i16
  | i32
  | i64
  deriving DecidableEq, Inhabited

namespace IntegerType

/-- The number of bytes that a type occupies.  As many are read for it as the size
of a struct counts for it, so one table serves for both. -/
def width : IntegerType → Nat
  | u8 => 1
  | u16 | i16 => 2
  | u32 | i32 => 4
  | i64 => 8

/-- Whether the highest bit is a sign. -/
def isSigned : IntegerType → Bool
  | u8 | u16 | u32 => false
  | i16 | i32 | i64 => true

end IntegerType

/-- The floating point types. -/
inductive FloatType
  | f32
  | f64
  deriving DecidableEq, Inhabited

namespace FloatType

/-- The number of bytes that a type occupies, when it is read and when sizes are
counted. -/
def width : FloatType → Nat
  | f32 => 4
  | f64 => 8

end FloatType

/-- The built-in types, each of which has a keyword. -/
inductive BuiltinType
  | integer (type : IntegerType)
  | float (type : FloatType)
  /-- A string of bytes. -/
  | string
  /-- A string of units of two bytes. -/
  | wideString
  /-- A gap of bytes that yield no value. -/
  | void
  deriving DecidableEq, Inhabited

namespace BuiltinType

def keyword : BuiltinType → String
  | integer .u8 => "u8"
  | integer .u16 => "u16"
  | integer .u32 => "u32"
  | integer .i16 => "i16"
  | integer .i32 => "i32"
  | integer .i64 => "i64"
  | float .f32 => "f32"
  | float .f64 => "f64"
  | string => "str"
  | wideString => "wstr"
  | void => "void"

/-- Every built-in type, once. -/
def all : List BuiltinType :=
  [integer .u8, integer .u16, integer .u32, integer .i16, integer .i32,
    integer .i64, float .f32, float .f64, string, wideString, void]

/-- The type with a keyword, if there is one.  It is sought among the keywords that
are written, so one table serves for writing and for reading. -/
def ofKeyword? (word : String) : Option BuiltinType :=
  all.find? fun type => type.keyword == word

/-- Whether a length may be given: a number of bytes for strings and gaps, a
number of units for wide strings. -/
def takesLength : BuiltinType → Bool
  | integer _ | float _ => false
  | string | wideString | void => true

/-- The number of bytes of a number; the other types have no fixed width. -/
def width? : BuiltinType → Option Nat
  | integer type => some type.width
  | float type => some type.width
  | string | wideString | void => none

@[simp]
theorem ofKeyword?_keyword (type : BuiltinType) :
    ofKeyword? type.keyword = some type := by
  cases type with
  | integer type => cases type <;> decide
  | float type => cases type <;> decide
  | string => decide
  | wideString => decide
  | void => decide

theorem keyword_of_ofKeyword? {word : String} {type : BuiltinType}
    (isKeyword : ofKeyword? word = some type) : type.keyword = word := by
  simpa using List.find?_some isKeyword

end BuiltinType

/-- What an item reads. -/
inductive ItemType
  | builtin (type : BuiltinType)
  /-- The value that a host function returns; no bytes are read. -/
  | call (function : String)
  /-- The fields of a declared struct. -/
  | struct (name : String)
  deriving DecidableEq, Inhabited

namespace ItemType

/-- Whether a length may be given. -/
def takesLength : ItemType → Bool
  | builtin type => type.takesLength
  | call _ | struct _ => false

def structName? : ItemType → Option String
  | struct name => some name
  | builtin _ | call _ => none

/-- The text of a type: its keyword, the function name after an at sign, or
the struct name. -/
def render : ItemType → String
  | builtin type => type.keyword
  | call function => "@" ++ function
  | struct name => name

end ItemType

/-- What to read, how long it is and how often it is repeated. -/
structure Item where
  type : ItemType
  /-- The number of bytes of a string or gap, or of units of a wide string;
  a string of length zero ends at a terminator. -/
  length : UInt64 := 0
  /-- The number of repetitions; any other number than one makes an array. -/
  count : UInt64 := 1
  deriving DecidableEq, Inhabited

namespace Item

/-- The text of an item: its type, then a length other than zero after a hash,
then a count other than one after a star. -/
def render (item : Item) : String :=
  item.type.render ++
    (if item.length = 0 then "" else "#" ++ toString item.length.toNat) ++
    (if item.count = 1 then "" else "*" ++ toString item.count.toNat)

def isVoid (item : Item) : Bool :=
  item.type == .builtin .void

theorem isVoid_eq_true_iff {item : Item} : item.isVoid = true ↔ item.type = .builtin .void := by
  simp [isVoid]

theorem isVoid_eq_false_iff {item : Item} : item.isVoid = false ↔ item.type ≠ .builtin .void := by
  simp [isVoid]

end Item

/-- An item of a struct, with its name; only gaps are declared without one. -/
structure Field where
  item : Item
  name : Option String
  deriving DecidableEq, Inhabited

namespace Field

/-- The text of a field: its item, then its name after a colon. -/
def render (field : Field) : String :=
  field.item.render ++
    match field.name with
    | none => ""
    | some name => ":" ++ name

def structName? (field : Field) : Option String :=
  field.item.type.structName?

end Field

/-- The smallest meaningful part of a layout text. -/
inductive Token
  /-- The keyword of a built-in type. -/
  | keyword (type : BuiltinType)
  /-- A name that is no keyword: a struct, or a field after a colon. -/
  | name (text : String)
  /-- A length, after a hash. -/
  | length (value : UInt64)
  /-- A count, after a star. -/
  | count (value : UInt64)
  /-- A host function, after an at sign. -/
  | call (function : String)
  | colon
  deriving DecidableEq, Inhabited

namespace Token

def render : Token → String
  | keyword type => type.keyword
  | name text => text
  | length value => "#" ++ toString value.toNat
  | count value => "*" ++ toString value.toNat
  | call function => "@" ++ function
  | colon => ":"

end Token

end BinaryRecords
