import BinaryRecords.Proofs.Format.Encoding
import Mathlib.Algebra.Group.Nat.Defs

/-!
# Decoding undoes encoding

A record of any struct without floating point numbers and calls is decoded from its
encoding, wherever that stands in a source.  Conversely the bytes that decoding has
passed over store the record, and are an encoding of it where there is only one.
-/

namespace BinaryRecords

namespace Item

theorem Stores.ne_nil {item : Item} {value : Value} {bytes : List UInt8}
    (stores : item.Stores value bytes) : bytes ≠ [] := by
  intro empty
  have length_eq : bytes.length = 0 := by rw [empty, List.length_nil]
  cases stores with
  | @integer type =>
      have positive := type.width_pos
      rw [IntegerType.length_toBytes] at length_eq
      omega
  | terminated => simp at length_eq
  | fixed _ length_ne bytes_length =>
      exact toNat_ne_zero length_ne (bytes_length.symm.trans length_eq)
  | wideTerminated => simp at length_eq
  | wideFixed _ length_ne bytes_length =>
      have notZero := toNat_ne_zero length_ne
      omega

theorem isUniform_stores : Form.IsUniform Stores := by
  intro item first second bytes others stores _ empty
  exact absurd empty stores.ne_nil

theorem implies_encodes_stores : Form.Implies Encodes Stores fun _ => True := by
  intro item value bytes _ encodes
  exact encodes.stores

theorem implies_stores_encodes : Form.Implies Stores Encodes HasOneForm := by
  intro item value bytes oneForm stores
  obtain ⟨_, notWide, terminated⟩ := oneForm
  cases stores with
  | integer type_eq inRange => exact .integer type_eq inRange
  | terminated type_eq length_eq noZero => exact .terminated type_eq length_eq noZero
  | fixed type_eq length_ne => exact absurd (terminated type_eq) length_ne
  | wideTerminated type_eq => exact absurd type_eq notWide
  | wideFixed type_eq => exact absurd type_eq notWide

end Item

namespace Source

variable {σ α : Type}

theorem cursor_passes (name : String) (before bytes after : List UInt8) :
    (⟨name, before ++ bytes ++ after, before.length⟩ : Source).cursor.Passes bytes
      ⟨(before ++ bytes).length, after⟩ := by
  constructor
  · simp [cursor, remaining]
  · simp [cursor]

theorem decode_of_yields {action : Decoding σ α} {result : α} {bytes : List UInt8}
    (yields : action.Yields result bytes) (name : String) (before after : List UInt8)
    (state : σ) :
    (⟨name, before ++ bytes ++ after, before.length⟩ : Source).decode action state =
      (.ok result, ⟨name, before ++ bytes ++ after, (before ++ bytes).length⟩, state) := by
  have run := yields _ _ state (cursor_passes name before bytes after)
  simp only [decode, run]

theorem exists_of_consumes {action : Decoding σ α} {related : α → List UInt8 → Prop}
    (consumes : action.Consumes related) {source after : Source} {state endState : σ}
    {result : α} (success : source.decode action state = (.ok result, after, endState)) :
    ∃ bytes, source.remaining = bytes ++ after.remaining ∧
      after = { source with position := source.position + bytes.length } ∧
        related result bytes := by
  obtain ⟨cursorAfter, run, rfl⟩ := decode_eq_ok success
  obtain ⟨bytes, passes, holds⟩ := consumes _ _ _ _ _ run
  have position_eq : cursorAfter.position = source.position + bytes.length :=
    passes.position_eq
  have rest_eq : source.remaining = bytes ++ cursorAfter.rest := passes.rest_eq
  refine ⟨bytes, ?_, by rw [position_eq], holds⟩
  rw [rest_eq, ← cursor_of_passes passes]
  rfl

end Source

/-- A record is decoded from its encoding, whatever stands before and behind it, and
the position is left behind the encoding.  Conversely a record that has been decoded
is stored in the bytes that were passed over, and if its values can be stored in one
way only, they are its encoding. -/
theorem Schema.decodeRecord_undoes_encoding {σ : Type} {schema : Schema}
    (reachable : schema.Reachable) {name : String} {fields : List Field}
    (found : schema.fields? name = some fields) (host : Host σ) (state : σ) :
    (∀ record bytes sourceName before after,
      schema.FieldsWritten Item.Encodes fields record bytes →
        (before ++ bytes ++ after).length ≤ 2 ^ 63 - 1 →
          (⟨sourceName, before ++ bytes ++ after, before.length⟩ : Source).decode
              (schema.decodeRecord host name) state =
            (.ok record, ⟨sourceName, before ++ bytes ++ after, (before ++ bytes).length⟩,
              state)) ∧
    (schema.Throughout Item.IsPlain name → ∀ (source after : Source) record endState,
      source.decode (schema.decodeRecord host name) state = (.ok record, after, endState) →
        ∃ bytes, source.remaining = bytes ++ after.remaining ∧
          after = { source with position := source.position + bytes.length } ∧
            schema.FieldsWritten Item.Stores fields record bytes ∧
              (schema.Throughout Item.HasOneForm name →
                schema.FieldsWritten Item.Encodes fields record bytes)) := by
  have layered := reachable.layered
  constructor
  · intro record bytes sourceName before after encoded source_le
    have stored := FieldsWritten.mono Item.implies_encodes_stores
      (fun _ member => (throughout_of_forall (fun _ _ _ _ => trivial) name).throughoutItem
        found member) encoded
    have bounded : bytes.length ≤ largestWord := by
      simp only [List.length_append] at source_le
      unfold largestWord
      omega
    have yields : (schema.decodeRecord host name).Yields record bytes :=
      yields_decodeRecord layered Item.isUniform_stores
        (fun _ _ _ _ stores fits _ isUnit => stores.yields fits isUnit) found stored bounded
    exact Source.decode_of_yields yields sourceName before after state
  · intro plain source after record endState success
    have consumes : (schema.decodeRecord host name).Consumes
        (schema.FieldsWritten Item.Stores fields) :=
      consumes_decodeRecord layered
        (fun _ _ isPlain isOwn isUnit => isPlain.consumes isOwn isUnit) found plain
    obtain ⟨bytes, remaining_eq, after_eq, stored⟩ := Source.exists_of_consumes consumes success
    refine ⟨bytes, remaining_eq, after_eq, stored, ?_⟩
    intro oneForm
    exact stored.mono Item.implies_stores_encodes fun _ member =>
      oneForm.throughoutItem found member

namespace Schema

theorem FieldsWritten.cons_value {form : Form} {schema : Schema} {item : Item} {name : String}
    {value : Value} {fields : List Field} {record : Record} {bytes rest : List UInt8}
    (first : schema.ItemWritten form item (some value) bytes)
    (others : schema.FieldsWritten form fields record rest) :
    schema.FieldsWritten form (⟨item, some name⟩ :: fields) ((name, value) :: record)
      (bytes ++ rest) := by
  have isFirst : schema.ItemWritten form (Field.item ⟨item, some name⟩) (some value) bytes :=
    first
  exact .cons isFirst others

theorem FieldsWritten.cons_gap {form : Form} {schema : Schema} {item : Item}
    {name? : Option String} {fields : List Field} {record : Record} {bytes rest : List UInt8}
    (first : schema.ItemWritten form item none bytes)
    (others : schema.FieldsWritten form fields record rest) :
    schema.FieldsWritten form (⟨item, name?⟩ :: fields) record (bytes ++ rest) := by
  have isFirst : schema.ItemWritten form (Field.item ⟨item, name?⟩) none bytes := first
  exact .cons isFirst others

theorem encodes_pairFields (schema : Schema) {first second : Int64} {gap : List UInt8}
    (firstInRange : IntegerType.u8.InRange first.toInt)
    (secondInRange : IntegerType.i16.InRange second.toInt) (gap_length : gap.length = 2) :
    schema.FieldsWritten Item.Encodes pairFields
      [("first", .integer first), ("second", .integer second)]
      (IntegerType.u8.toBytes first.toInt ++
        (gap ++ (IntegerType.i16.toBytes second.toInt ++ []))) := by
  have writtenFirst : schema.ItemWritten Item.Encodes { type := .builtin (.integer .u8) }
      (some (.integer first)) (IntegerType.u8.toBytes first.toInt) :=
    .single (by decide) rfl (.own rfl (.integer rfl firstInRange))
  have writtenGap : schema.ItemWritten Item.Encodes
      { type := .builtin .void, length := 1, count := 2 } none gap :=
    .gap rfl gap_length
  have writtenSecond : schema.ItemWritten Item.Encodes { type := .builtin (.integer .i16) }
      (some (.integer second)) (IntegerType.i16.toBytes second.toInt) :=
    .single (by decide) rfl (.own rfl (.integer rfl secondInRange))
  exact .cons_value writtenFirst (.cons_gap writtenGap (.cons_value writtenSecond .nil))

theorem encodes_taggedPairsFields :
    taggedPairs.FieldsWritten Item.Encodes taggedPairsFields
      [("pairs", .array [.record [("first", .integer 1), ("second", .integer (-2))],
          .record [("first", .integer 2), ("second", .integer 3)]]),
        ("tag", .string [97, 98])]
      [1, 7, 7, 0xFE, 0xFF, 2, 8, 8, 3, 0, 97, 98, 0] := by
  have head : taggedPairs.UnitWritten Item.Encodes { type := .struct "pair", count := 2 }
      (.record [("first", .integer 1), ("second", .integer (-2))]) [1, 7, 7, 0xFE, 0xFF] :=
    .struct rfl rfl (encodes_pairFields taggedPairs (by decide) (by decide)
      (show [7, 7].length = 2 from rfl))
  have last : taggedPairs.UnitWritten Item.Encodes { type := .struct "pair", count := 2 }
      (.record [("first", .integer 2), ("second", .integer 3)]) [2, 8, 8, 3, 0] :=
    .struct rfl rfl (encodes_pairFields taggedPairs (by decide) (by decide)
      (show [8, 8].length = 2 from rfl))
  have pairs := ItemWritten.array (by decide) (by decide) rfl (.cons head (.cons last .nil))
    (by simp)
  have encodesTag : Item.Encodes { type := .builtin .string, length := 3 } (.string [97, 98])
      [97, 98, 0] :=
    .padded rfl (by decide) (by decide) (by decide)
  have tag : taggedPairs.ItemWritten Item.Encodes { type := .builtin .string, length := 3 }
      (some (.string [97, 98])) [97, 98, 0] :=
    .single (by decide) rfl (.own rfl encodesTag)
  exact .cons_value pairs (.cons_value tag .nil)

theorem decodeRecord_undoes_encoding_taggedPairs :
    (⟨"pairs", [5, 1, 7, 7, 0xFE, 0xFF, 2, 8, 8, 3, 0, 97, 98, 0, 6], 1⟩ : Source).decode
        (taggedPairs.decodeRecord Host.silent "tagged") () =
      (.ok [("pairs", .array [.record [("first", .integer 1), ("second", .integer (-2))],
          .record [("first", .integer 2), ("second", .integer 3)]]),
        ("tag", .string [97, 98])],
        ⟨"pairs", [5, 1, 7, 7, 0xFE, 0xFF, 2, 8, 8, 3, 0, 97, 98, 0, 6], 14⟩, ()) ∧
    ∀ (source after : Source) record,
      source.decode (taggedPairs.decodeRecord Host.silent "pair") () = (.ok record, after, ()) →
        ∃ bytes, source.remaining = bytes ++ after.remaining ∧
          taggedPairs.FieldsWritten Item.Encodes pairFields record bytes := by
  have foundTagged : taggedPairs.fields? "tagged" = some taggedPairsFields := rfl
  have foundPair : taggedPairs.fields? "pair" = some pairFields := rfl
  constructor
  · exact (decodeRecord_undoes_encoding reachable_taggedPairs foundTagged Host.silent ()).1 _ _
      "pairs" [5] [6] encodes_taggedPairsFields (by decide)
  · have oneForm : taggedPairs.Throughout Item.HasOneForm "pair" := by
      intro inner fields path found field member
      obtain rfl | ⟨next, ⟨nextFields, foundNext, embeds⟩, _⟩ :=
        Relation.ReflTransGen.cases_head path
      · rw [foundPair] at found
        cases found
        simp only [pairFields, List.mem_cons, List.not_mem_nil, or_false] at member
        rcases member with rfl | rfl | rfl <;> simp [Item.HasOneForm, Item.IsPlain]
      · rw [foundPair] at foundNext
        cases foundNext
        have noStruct : embedded pairFields = [] := rfl
        rw [noStruct] at embeds
        cases embeds
    have plain : taggedPairs.Throughout Item.IsPlain "pair" := by
      intro inner fields path found field member
      exact (oneForm inner fields path found field member).1
    intro source after record success
    obtain ⟨bytes, remaining_eq, _, _, encoded⟩ :=
      (decodeRecord_undoes_encoding reachable_taggedPairs foundPair Host.silent ()).2 plain source
        after record () success
    exact ⟨bytes, remaining_eq, encoded oneForm⟩

end Schema

end BinaryRecords
