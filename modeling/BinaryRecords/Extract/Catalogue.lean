import BinaryRecords.Extract.Target

/-!
# A catalogue of shapes

These shapes cover the ways in which a target is made from a record: members
with keys of their own, members that are skipped, members that may be absent,
members that are shapes themselves, and a pair whose two members have any one
target.
-/

namespace BinaryRecords

namespace Catalogue

def one : Shape :=
  [.keyed "aaa" (.integer .u8), .keyed "bbb" (.integer .u16)]

def two : Shape :=
  [.keyed "ccc" (.integer .u32), .keyed "ddd" (.integer .i16)]

/-- Two shapes, a note that is always empty, and an integer that may be absent. -/
def three : Shape :=
  [.keyed "xxx" (.shape one), .keyed "yyy" (.shape two), .skipped (.text ""),
    .keyed "missing" (.option (.integer .u8))]

/-- Lists of integers and of strings. -/
def strings : Shape :=
  [.keyed "aaa" (.list (.integer .u32)), .keyed "bbb" (.list .text),
    .keyed "ccc" (.list (.list (.integer .u8))), .keyed "type" (.integer .u8)]

def numbers : Shape :=
  [.keyed "a" (.integer .u8), .keyed "b" (.integer .u16), .keyed "c" (.integer .u32),
    .keyed "d" (.integer .u64), .keyed "e" (.integer .i16), .keyed "f" (.integer .i32),
    .keyed "g" (.integer .i64), .keyed "h" .float32, .keyed "i" .float64]

/-- Members that may be absent. -/
def options : Shape :=
  [.keyed "a" (.option (.integer .u8)), .keyed "b" (.option (.list .text)),
    .keyed "c" .float32, .keyed "any" .anyValue, .keyed "rec" (.option .anyRecord),
    .keyed "one" (.option (.shape one)), .keyed "many" (.option (.list (.shape one)))]

/-- Two members with one target. -/
def pair (target : Target) : Shape :=
  [.keyed "left" target, .keyed "right" target]

def nothing : Shape :=
  []

end Catalogue

end BinaryRecords
