import BinaryRecords.Schema.Basic

/-!
# Sizes of structs

A struct has a size if every instance of it occupies the same number of bytes,
which is so unless a terminated string belongs to it.  Host functions occupy no
bytes.  Sizes beyond 64 bits count as the greatest number of 64 bits.
-/

namespace BinaryRecords

/-- The size of a struct, out of the sizes that are known. -/
def knownSize (sizes : String → Option (Except Error (Option Nat))) (name : String) :
    Except Error (Option Nat) :=
  match sizes name with
  | some size => size
  | none => .error (.structNotFound name)

namespace Item

/-- The number of bytes that one repetition of an item occupies. -/
def unitSize (sizes : String → Option (Except Error (Option Nat))) (item : Item) :
    Except Error (Option Nat) :=
  match item.type with
  | .builtin (.integer type) => .ok (some type.width)
  | .builtin (.float type) => .ok (some type.width)
  | .builtin .string =>
      .ok (if item.length = 0 then none else some item.length.toNat)
  | .builtin .wideString =>
      .ok (if item.length = 0 then none else some (clampWord (2 * item.length.toNat)))
  | .builtin .void => .ok (some item.length.toNat)
  | .call _ => .ok (some 0)
  | .struct name => knownSize sizes name

def size (sizes : String → Option (Except Error (Option Nat))) (item : Item) :
    Except Error (Option Nat) :=
  (item.unitSize sizes).map (Option.map fun unit => clampWord (unit * item.count.toNat))

end Item

/-- The number of bytes that some fields occupy, added to a given number. -/
def fieldsSize (sizes : String → Option (Except Error (Option Nat))) (total : Nat) :
    List Field → Except Error (Option Nat)
  | [] => .ok (some total)
  | field :: fields =>
      match field.item.size sizes with
      | .ok (some size) => fieldsSize sizes (clampWord (total + size)) fields
      | .ok none => .ok none
      | .error failure => .error failure

namespace Schema

/-- The number of bytes that every instance of a struct occupies, if it is the
same for all. -/
def sizeOf (schema : Schema) (name : String) : Except Error (Option Nat) :=
  knownSize (schema.meaning? fun sizes fields => fieldsSize sizes 0 fields) name

end Schema

end BinaryRecords
