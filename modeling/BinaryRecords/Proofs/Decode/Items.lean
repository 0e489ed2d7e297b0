import BinaryRecords.Decode.Item
import BinaryRecords.Proofs.Decode.Consuming

/-!
# Decoding items

What decoding an item comes down to, by its type and its count.  An array is decoded
in one of four ways: there is nothing to repeat, the first repetition fails, it
consumes nothing although there are too many, or the others follow it.
-/

namespace BinaryRecords

variable {σ α : Type}

namespace Decoding

/-- Decoding the same a number of times, after some results in reverse. -/
def repeated (decode : Decoding σ α) (count : Nat) (resultsReverse : List α) :
    Decoding σ (List α) :=
  fun cursor state => decode.collect count resultsReverse cursor state

theorem repeated_succ (decode : Decoding σ α) (count : Nat) (resultsReverse : List α) :
    decode.repeated (count + 1) resultsReverse =
      decode >>= fun result => decode.repeated count (result :: resultsReverse) := by
  funext cursor state
  rcases run : decode cursor state with ⟨failure | ⟨result, after⟩, afterState⟩
  · rw [bind_of_error run]
    simp only [repeated, collect, run]
  · rw [bind_of_ok run]
    simp only [repeated, collect, run]

end Decoding

theorem toNat_ne_zero {word : UInt64} (word_ne : word ≠ 0) : word.toNat ≠ 0 := by
  intro isZero
  exact word_ne (UInt64.toNat_inj.mp isZero)

namespace Item

variable {item : Item} {unit : Decoding σ Value} {cursor after : Cursor}
  {state afterState : σ}

theorem decodeArray_of_zero (count_eq : item.count.toNat = 0) :
    item.decodeArray unit cursor state = (.ok ([], cursor), state) := by
  simp only [decodeArray, count_eq]

theorem decodeArray_of_error {others : Nat} {failure : Error}
    (count_eq : item.count.toNat = others + 1)
    (run : unit cursor state = (.error failure, afterState)) :
    item.decodeArray unit cursor state = (.error failure, afterState) := by
  simp only [decodeArray, count_eq, run]

theorem decodeArray_of_empty {others : Nat} {first : Value}
    (count_eq : item.count.toNat = others + 1)
    (run : unit cursor state = (.ok (first, after), afterState))
    (refused : after.position = cursor.position ∧ largestEmptyRepeat < item.count.toNat) :
    item.decodeArray unit cursor state =
      (.error (.emptyRepeat item.type item.count), afterState) := by
  rw [count_eq] at refused
  simp only [decodeArray, count_eq, run, if_pos refused]

theorem decodeArray_of_ok {others : Nat} {first : Value}
    (count_eq : item.count.toNat = others + 1)
    (run : unit cursor state = (.ok (first, after), afterState))
    (accepted : ¬ (after.position = cursor.position ∧
      largestEmptyRepeat < item.count.toNat)) :
    item.decodeArray unit cursor state = unit.repeated others [first] after afterState := by
  rw [count_eq] at accepted
  simp only [decodeArray, count_eq, run, if_neg accepted, Decoding.repeated]

/-- The repetitions of an item after the first one, which began at some position. -/
def decodeOthers (item : Item) (unit : Decoding σ Value) (others : Nat) (start : Cursor)
    (first : Value) : Decoding σ (List Value) :=
  fun cursor state =>
    if cursor.position = start.position ∧ largestEmptyRepeat < item.count.toNat then
      (.error (.emptyRepeat item.type item.count), state)
    else
      unit.repeated others [first] cursor state

/-- An array is its first repetition and, if that is accepted, the others. -/
theorem decodeArray_succ {others : Nat} (count_eq : item.count.toNat = others + 1)
    (unit : Decoding σ Value) (cursor : Cursor) (state : σ) :
    item.decodeArray unit cursor state =
      (unit >>= item.decodeOthers unit others cursor) cursor state := by
  rcases run : unit cursor state with ⟨failure | ⟨first, after⟩, afterState⟩
  · rw [decodeArray_of_error count_eq run, Decoding.bind_of_error run]
  · rw [Decoding.bind_of_ok run, decodeOthers]
    split
    · rename_i refused
      rw [decodeArray_of_empty count_eq run refused]
    · rename_i accepted
      rw [decodeArray_of_ok count_eq run accepted]

/-- An array that has been decoded is empty, or the first repetition has been accepted
and the others follow it. -/
theorem decodeArray_eq_ok {elements : List Value}
    (success : item.decodeArray unit cursor state = (.ok (elements, after), afterState)) :
    (item.count.toNat = 0 ∧ elements = [] ∧ after = cursor ∧ afterState = state) ∨
    ∃ others first middle middleState, item.count.toNat = others + 1 ∧
      unit cursor state = (.ok (first, middle), middleState) ∧
      ¬ (middle.position = cursor.position ∧ largestEmptyRepeat < item.count.toNat) ∧
      unit.repeated others [first] middle middleState = (.ok (elements, after), afterState) := by
  cases count_eq : item.count.toNat with
  | zero =>
      rw [decodeArray_of_zero count_eq] at success
      cases success
      exact Or.inl ⟨rfl, rfl, rfl, rfl⟩
  | succ others =>
      rcases run : unit cursor state with ⟨failure | ⟨first, middle⟩, middleState⟩
      · rw [decodeArray_of_error count_eq run] at success
        cases success
      · rw [← count_eq]
        by_cases refused : middle.position = cursor.position ∧
            largestEmptyRepeat < item.count.toNat
        · rw [decodeArray_of_empty count_eq run refused] at success
          cases success
        · rw [decodeArray_of_ok count_eq run refused] at success
          exact Or.inr ⟨others, first, middle, middleState, count_eq, rfl, refused, success⟩

section

variable {host : Host σ} {decoders : Decoders σ}

theorem decodeUnit?_of_integer {type : IntegerType}
    (type_eq : item.type = .builtin (.integer type)) :
    item.decodeUnit? host decoders =
      some (Value.integer <$> Decoding.ofRead (Cursor.readInteger type)) := by
  simp only [decodeUnit?, type_eq]

theorem decodeUnit?_of_string (type_eq : item.type = .builtin .string) :
    item.decodeUnit? host decoders =
      some (Value.string <$> Decoding.ofRead (Cursor.readString item.length.toNat)) := by
  simp only [decodeUnit?, type_eq]

theorem decodeUnit?_of_wideString (type_eq : item.type = .builtin .wideString) :
    item.decodeUnit? host decoders =
      some (Value.string <$> Decoding.ofRead (Cursor.readWideString item.length.toNat)) := by
  simp only [decodeUnit?, type_eq]

theorem decodeUnit?_of_struct {name : String} (type_eq : item.type = .struct name) :
    item.decodeUnit? host decoders = some (Value.record <$> decodeStruct decoders name) := by
  simp only [decodeUnit?, type_eq]

/-- Only a gap has no value. -/
theorem decodeUnit?_eq_none_iff :
    item.decodeUnit? host decoders = none ↔ item.type = .builtin .void := by
  obtain ⟨type, length, count⟩ := item
  cases type with
  | builtin type => cases type <;> simp [decodeUnit?]
  | call function => simp [decodeUnit?]
  | struct name => simp [decodeUnit?]

end

theorem exists_decodeUnit? (isValue : item.type ≠ .builtin .void) (host : Host σ)
    (decoders : Decoders σ) : ∃ unit, item.decodeUnit? host decoders = some unit := by
  apply Option.ne_none_iff_exists'.mp
  rwa [Ne, decodeUnit?_eq_none_iff]

/-- A gap is passed over exactly where as many bytes follow as it is long. -/
theorem skipVoid_eq_ok_iff :
    item.skipVoid cursor = .ok ((), after) ↔
      item.length.toNat * item.count.toNat ≤ largestWord ∧
        ∃ bytes, bytes.length = item.length.toNat * item.count.toNat ∧
          cursor.Passes bytes after := by
  unfold skipVoid
  simp only
  split
  · rename_i exceeds
    constructor
    · exact nofun
    · rintro ⟨bounded, -⟩
      exact absurd exceeds (Nat.not_lt.mpr bounded)
  · rename_i bounded
    rw [Cursor.map_skip, Cursor.map_readBytes_eq_ok_iff fun _ => ()]
    simp [Nat.le_of_not_lt bounded]

theorem decode_of_none {host : Host σ} {decoders : Decoders σ}
    (isGap : item.decodeUnit? host decoders = none) :
    item.decode host decoders = (fun _ => none) <$> Decoding.ofRead item.skipVoid := by
  simp only [decode, isGap]

theorem decode_of_single {host : Host σ} {decoders : Decoders σ}
    (isUnit : item.decodeUnit? host decoders = some unit) (count_eq : item.count = 1) :
    item.decode host decoders = some <$> unit := by
  simp only [decode, isUnit, if_pos count_eq]

theorem decode_of_array {host : Host σ} {decoders : Decoders σ}
    (isUnit : item.decodeUnit? host decoders = some unit) (count_ne : item.count ≠ 1) :
    item.decode host decoders =
      (fun elements => some (.array elements)) <$> item.decodeArray unit := by
  simp only [decode, isUnit, if_neg count_ne]

end Item

end BinaryRecords
