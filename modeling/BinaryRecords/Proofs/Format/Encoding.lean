import BinaryRecords.Proofs.Decode.FixedSize
import BinaryRecords.Proofs.Format.Decoding
import BinaryRecords.Proofs.Source.Integers
import BinaryRecords.Proofs.Source.Strings

/-!
# Encoding records

An encoder writes integers of a type in its bytes, terminates strings without a
length and pads those that have one with zeros.  Decoding is more liberal: it takes
any bytes behind the text of a string that has a length, and a byte order mark in
front of a wide string.  What it accepts is described here as well, so that decoding
is seen to undo encoding, and encoding to undo decoding where there is no choice.
-/

namespace BinaryRecords

namespace Item

/-- Whether an encoder writes a value of an item in the given bytes. -/
inductive Encodes (item : Item) : Value → List UInt8 → Prop
  | integer {type : IntegerType} {number : Int64}
      (type_eq : item.type = .builtin (.integer type)) (inRange : type.InRange number.toInt) :
      Encodes item (.integer number) (type.toBytes number.toInt)
  | terminated {text : List UInt8} (type_eq : item.type = .builtin .string)
      (length_eq : item.length = 0) (noZero : 0 ∉ text) :
      Encodes item (.string text) (text ++ [0])
  | padded {text : List UInt8} (type_eq : item.type = .builtin .string)
      (length_ne : item.length ≠ 0) (fits : text.length ≤ item.length.toNat)
      (noZero : 0 ∉ text) :
      Encodes item (.string text)
        (text ++ List.replicate (item.length.toNat - text.length) 0)
  | wideTerminated {units : List WideUnit} (type_eq : item.type = .builtin .wideString)
      (length_eq : item.length = 0) (noZero : (0, 0) ∉ units) (unmarked : IsUnmarked units) :
      Encodes item (.string (unitBytes units)) (unitBytes units ++ [0, 0])
  | widePadded {units : List WideUnit} (type_eq : item.type = .builtin .wideString)
      (length_ne : item.length ≠ 0) (fits : units.length ≤ item.length.toNat)
      (noZero : (0, 0) ∉ units) (unmarked : IsUnmarked units) :
      Encodes item (.string (unitBytes units))
        (unitBytes units ++ List.replicate (2 * (item.length.toNat - units.length)) 0)

/-- Whether decoding finds a value of an item in the given bytes. -/
inductive Stores (item : Item) : Value → List UInt8 → Prop
  | integer {type : IntegerType} {number : Int64}
      (type_eq : item.type = .builtin (.integer type)) (inRange : type.InRange number.toInt) :
      Stores item (.integer number) (type.toBytes number.toInt)
  | terminated {text : List UInt8} (type_eq : item.type = .builtin .string)
      (length_eq : item.length = 0) (noZero : 0 ∉ text) :
      Stores item (.string text) (text ++ [0])
  | fixed {bytes : List UInt8} (type_eq : item.type = .builtin .string)
      (length_ne : item.length ≠ 0) (bytes_length : bytes.length = item.length.toNat) :
      Stores item (.string (beforeZero bytes)) bytes
  | wideTerminated {mark : List UInt8} {units : List WideUnit}
      (type_eq : item.type = .builtin .wideString) (length_eq : item.length = 0)
      (isMark : mark.length = orderMarkLength (mark ++ unitBytes units ++ [0, 0]))
      (noZero : (0, 0) ∉ units) :
      Stores item (.string (unitBytes units)) (mark ++ unitBytes units ++ [0, 0])
  | wideFixed {bytes : List UInt8} (type_eq : item.type = .builtin .wideString)
      (length_ne : item.length ≠ 0) (bytes_length : bytes.length = 2 * item.length.toNat) :
      Stores item (.string (beforeZeroUnit (bytes.drop (orderMarkLength bytes)))) bytes

/-- Whether an item is neither a floating point number nor a call. -/
def IsPlain (item : Item) : Prop :=
  (∀ type, item.type ≠ .builtin (.float type)) ∧ ∀ function, item.type ≠ .call function

/-- Whether a value of an item can be stored in one way only: an integer, a terminated
string or a struct.  A gap has no value. -/
def HasOneForm (item : Item) : Prop :=
  item.IsPlain ∧ item.type ≠ .builtin .wideString ∧
    (item.type = .builtin .string → item.length = 0)

theorem Encodes.stores {item : Item} {value : Value} {bytes : List UInt8}
    (encodes : item.Encodes value bytes) : item.Stores value bytes := by
  cases encodes with
  | integer type_eq inRange => exact .integer type_eq inRange
  | terminated type_eq length_eq noZero => exact .terminated type_eq length_eq noZero
  | @padded text type_eq length_ne fits noZero =>
      have stored : item.Stores (.string (beforeZero
          (text ++ List.replicate (item.length.toNat - text.length) 0)))
          (text ++ List.replicate (item.length.toNat - text.length) 0) :=
        .fixed type_eq length_ne (by simp [fits])
      rwa [beforeZero_append_replicate noZero] at stored
  | @wideTerminated units type_eq length_eq noZero unmarked =>
      have isMark := orderMarkLength_unitBytes_append unmarked 2
      have stored : item.Stores (.string (unitBytes units)) ([] ++ unitBytes units ++ [0, 0]) :=
        .wideTerminated type_eq length_eq isMark.symm noZero
      exact stored
  | @widePadded units type_eq length_ne fits noZero unmarked =>
      have stored : item.Stores _
          (unitBytes units ++ List.replicate (2 * (item.length.toNat - units.length)) 0) :=
        .wideFixed type_eq length_ne (by
          simp only [List.length_append, length_unitBytes, List.length_replicate]
          omega)
      rwa [orderMarkLength_unitBytes_append unmarked, List.drop_zero,
        beforeZeroUnit_append_replicate noZero] at stored

theorem toNat_length_eq {item : Item} (length_eq : item.length = 0) :
    item.length.toNat = 0 := by
  rw [length_eq]
  rfl

variable {σ : Type} {host : Host σ} {decoders : Decoders σ} {item : Item}
  {unit : Decoding σ Value}

/-- A value is decoded from all bytes that store it. -/
theorem Stores.yields {value : Value} {bytes : List UInt8} (stores : item.Stores value bytes)
    (bounded : bytes.length ≤ largestWord)
    (isUnit : item.decodeUnit? host decoders = some unit) : unit.Yields value bytes := by
  cases stores with
  | integer type_eq inRange =>
      cases (decodeUnit?_of_integer type_eq).symm.trans isUnit
      refine (Decoding.yields_ofRead ?_).map Value.integer
      intro before after passes
      exact Cursor.readInteger_eq_ok_iff.mpr ⟨inRange, passes⟩
  | terminated type_eq length_eq noZero =>
      cases (decodeUnit?_of_string type_eq).symm.trans isUnit
      refine (Decoding.yields_ofRead ?_).map Value.string
      intro before after passes
      rw [Cursor.readString, if_pos (toNat_length_eq length_eq)]
      exact Cursor.readTerminated_eq_ok_iff.mpr ⟨noZero, passes⟩
  | fixed type_eq length_ne bytes_length =>
      cases (decodeUnit?_of_string type_eq).symm.trans isUnit
      refine (Decoding.yields_ofRead ?_).map Value.string
      intro before after passes
      exact (Cursor.readString_fixed_eq_ok_iff (toNat_ne_zero length_ne)).mpr
        ⟨_, bytes_length, rfl, passes⟩
  | wideTerminated type_eq length_eq isMark noZero =>
      cases (decodeUnit?_of_wideString type_eq).symm.trans isUnit
      refine (Decoding.yields_ofRead ?_).map Value.string
      intro before after passes
      rw [Cursor.readWideString, if_pos (toNat_length_eq length_eq)]
      exact Cursor.readWideTerminated_eq_ok_iff.mpr ⟨_, _, isMark, noZero, rfl, passes⟩
  | wideFixed type_eq length_ne bytes_length =>
      cases (decodeUnit?_of_wideString type_eq).symm.trans isUnit
      refine (Decoding.yields_ofRead ?_).map Value.string
      intro before after passes
      exact (Cursor.readWideString_fixed_eq_ok_iff (toNat_ne_zero length_ne)).mpr
        ⟨bytes_length ▸ bounded, _, bytes_length, rfl, passes⟩

/-- What a plain item decodes to is stored in the bytes that were passed over. -/
theorem IsPlain.consumes (isPlain : item.IsPlain) (isOwn : item.type.structName? = none)
    (isUnit : item.decodeUnit? host decoders = some unit) :
    unit.Consumes item.Stores := by
  cases type_eq : item.type with
  | builtin type =>
      cases type with
      | integer type =>
          cases (decodeUnit?_of_integer type_eq).symm.trans isUnit
          apply Decoding.consumes_map_ofRead
          intro before after number success
          obtain ⟨inRange, passes⟩ := Cursor.readInteger_eq_ok_iff.mp success
          exact ⟨_, passes, .integer type_eq inRange⟩
      | float type => exact absurd type_eq (isPlain.1 type)
      | string =>
          cases (decodeUnit?_of_string type_eq).symm.trans isUnit
          apply Decoding.consumes_map_ofRead
          intro before after text success
          by_cases length_eq : item.length = 0
          · rw [Cursor.readString, if_pos (toNat_length_eq length_eq)] at success
            obtain ⟨noZero, passes⟩ := Cursor.readTerminated_eq_ok_iff.mp success
            exact ⟨_, passes, .terminated type_eq length_eq noZero⟩
          · obtain ⟨bytes, bytes_length, rfl, passes⟩ :=
              (Cursor.readString_fixed_eq_ok_iff (toNat_ne_zero length_eq)).mp success
            exact ⟨bytes, passes, .fixed type_eq length_eq bytes_length⟩
      | wideString =>
          cases (decodeUnit?_of_wideString type_eq).symm.trans isUnit
          apply Decoding.consumes_map_ofRead
          intro before after text success
          by_cases length_eq : item.length = 0
          · rw [Cursor.readWideString, if_pos (toNat_length_eq length_eq)] at success
            obtain ⟨mark, units, isMark, noZero, rfl, passes⟩ :=
              Cursor.readWideTerminated_eq_ok_iff.mp success
            exact ⟨_, passes, .wideTerminated type_eq length_eq isMark noZero⟩
          · obtain ⟨_, bytes, bytes_length, rfl, passes⟩ :=
              (Cursor.readWideString_fixed_eq_ok_iff (toNat_ne_zero length_eq)).mp success
            exact ⟨bytes, passes, .wideFixed type_eq length_eq bytes_length⟩
      | void => simp [decodeUnit?, type_eq] at isUnit
  | call function => exact absurd type_eq (isPlain.2 function)
  | struct name => simp [type_eq, ItemType.structName?] at isOwn

end Item

end BinaryRecords
