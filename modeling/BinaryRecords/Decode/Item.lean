import BinaryRecords.Decode.Basic
import BinaryRecords.Schema.Basic

/-!
# Decoding items and fields

An item yields one value, or an array of them if its count is not one; a gap
yields none.  Every repetition of an item consumes bytes, or none does, so an
array of elements without bytes is refused after the first one if it is too
long.
-/

namespace BinaryRecords

/-- The greatest number of repetitions of something that consumes no bytes. -/
def largestEmptyRepeat : Nat :=
  65536

/-- How to decode the structs that are known, for a host with states in `σ`. -/
abbrev Decoders (σ : Type) :=
  String → Option (Decoding σ Record)

def decodeStruct {σ : Type} (decoders : Decoders σ) (name : String) :
    Decoding σ Record :=
  match decoders name with
  | some decode => decode
  | none => .fail (.structNotFound name)

namespace Item

variable {σ : Type}

/-- How to decode one repetition of an item; a gap has none that yields a
value. -/
def decodeUnit? (host : Host σ) (decoders : Decoders σ) (item : Item) :
    Option (Decoding σ Value) :=
  match item.type with
  | .builtin (.integer type) =>
      some (Value.integer <$> Decoding.ofRead (Cursor.readInteger type))
  | .builtin (.float type) =>
      some (Value.float <$> Decoding.ofRead (Cursor.readFloat type))
  | .builtin .string =>
      some (Value.string <$> Decoding.ofRead (Cursor.readString item.length.toNat))
  | .builtin .wideString =>
      some (Value.string <$> Decoding.ofRead (Cursor.readWideString item.length.toNat))
  | .builtin .void => none
  | .call function => some (Decoding.call host function)
  | .struct name => some (Value.record <$> decodeStruct decoders name)

/-- Pass over a gap.  One of more than 64 bits lacks the greatest number of 64
bits. -/
def skipVoid (item : Item) (cursor : Cursor) : Except Error (Unit × Cursor) :=
  let total := item.length.toNat * item.count.toNat
  if largestWord < total then
    .error (cursor.insufficient largestWord)
  else
    (cursor.skip total).map fun after => ((), after)

/-- Decode all repetitions of an item. -/
def decodeArray (item : Item) (decode : Decoding σ Value) : Decoding σ (List Value) :=
  fun cursor state =>
    match item.count.toNat with
    | 0 => (.ok ([], cursor), state)
    | others + 1 =>
        match decode cursor state with
        | (.error failure, state) => (.error failure, state)
        | (.ok (first, after), state) =>
            if after.position = cursor.position ∧ largestEmptyRepeat < item.count.toNat then
              (.error (.emptyRepeat item.type item.count), state)
            else
              decode.collect others [first] after state

def decode (host : Host σ) (decoders : Decoders σ) (item : Item) :
    Decoding σ (Option Value) :=
  match item.decodeUnit? host decoders with
  | none => (fun _ => none) <$> Decoding.ofRead item.skipVoid
  | some unit =>
      if item.count = 1 then
        some <$> unit
      else
        (fun elements => some (.array elements)) <$> item.decodeArray unit

end Item

/-- Decode items one after the other, to the values of those that yield one. -/
def decodeItems {σ : Type} (host : Host σ) (decoders : Decoders σ) :
    List Item → Decoding σ (List Value)
  | [] => pure []
  | item :: items => do
      let value? ← item.decode host decoders
      let values ← decodeItems host decoders items
      pure (value?.toList ++ values)

/-- Decode fields one after the other, to the named values of those that yield
one.  A field without a name has the empty one. -/
def decodeFields {σ : Type} (host : Host σ) (decoders : Decoders σ) :
    List Field → Decoding σ Record
  | [] => pure []
  | field :: fields => do
      let value? ← field.item.decode host decoders
      let entries ← decodeFields host decoders fields
      pure (value?.toList.map (fun value => (field.name.getD "", value)) ++ entries)

namespace Schema

variable {σ : Type}

def decoders (schema : Schema) (host : Host σ) : Decoders σ :=
  schema.meaning? (decodeFields host)

def decodeRecord (schema : Schema) (host : Host σ) (name : String) :
    Decoding σ Record :=
  decodeStruct (schema.decoders host) name

def decodeItems (schema : Schema) (host : Host σ) (items : List Item) :
    Decoding σ (List Value) :=
  BinaryRecords.decodeItems host (schema.decoders host) items

end Schema

end BinaryRecords
