import BinaryRecords.Proofs.Decode.Refusing
import BinaryRecords.Proofs.Decode.Scheduled
import BinaryRecords.Proofs.Decode.Unnamed
import BinaryRecords.Proofs.Format.Decoding
import BinaryRecords.Proofs.Format.RoundTrip
import BinaryRecords.Proofs.Outcomes

/-!
# Repetitions without bytes

Whether a repetition of an item consumes bytes is decided by the schema: calls consume
none, numbers and strings some, and structs what their items do.  So the first repetition
shows whether there are bytes in the others, and a decoded array of more elements than may
be without bytes is no longer than the bytes it comes from.
-/

namespace BinaryRecords

variable {σ : Type}

theorem FloatType.width_pos (type : FloatType) : 0 < type.width := by
  cases type <;> decide

theorem Decoding.consumes_call (host : Host σ) (function : String) :
    (call host function).Consumes fun _ bytes => bytes = [] := by
  intro before after state endState value success
  unfold call at success
  split at success
  · cases success
  · cases success
    exact ⟨[], before.passes_nil, rfl⟩
  · cases success

namespace Item

/-- An item that is not repeated. -/
def once (item : Item) : Item :=
  { item with count := 1 }

/-- Whether some bytes may be those of a repetition, going by the type alone: none for a
call, and some for a number or string. -/
def Spans (item : Item) (_value : Value) (bytes : List UInt8) : Prop :=
  bytes = [] ↔ ∃ function, item.type = .call function

/-- Whether a value of an item that embeds no struct has been decoded from some bytes,
wherever these were. -/
def IsDecodedFrom (host : Host σ) (item : Item) (value : Value) (bytes : List UInt8) : Prop :=
  item.type.structName? = none ∧ ∃ decoders unit before after state endState,
    item.decodeUnit? host decoders = some unit ∧
      unit before state = (.ok (value, after), endState) ∧ before.Passes bytes after

variable {host : Host σ} {decoders : Decoders σ} {item : Item} {unit : Decoding σ Value}

theorem spans_of_builtin {type : BuiltinType} (type_eq : item.type = .builtin type)
    {value : Value} {bytes : List UInt8} (notEmpty : bytes ≠ []) : item.Spans value bytes := by
  constructor
  · intro empty
    exact absurd empty notEmpty
  · rintro ⟨function, isCall⟩
    rw [type_eq] at isCall
    cases isCall

theorem ne_nil_of_length_eq {bytes : List UInt8} {count : Nat} (length_eq : bytes.length = count)
    (count_ne : count ≠ 0) : bytes ≠ [] := by
  rintro rfl
  exact count_ne length_eq.symm

/-- Calls consume nothing, and numbers and strings something. -/
theorem consumes_spans (isOwn : item.type.structName? = none)
    (isUnit : item.decodeUnit? host decoders = some unit) : unit.Consumes item.Spans := by
  obtain ⟨type, length, count⟩ := item
  cases type with
  | builtin type =>
      cases type with
      | void => cases isUnit
      | integer type =>
          cases isUnit
          apply Decoding.consumes_map_ofRead
          intro before after number success
          obtain ⟨bytes, length_eq, _, passes⟩ :=
            (Cursor.map_readBytes_eq_ok_iff
              fun bytes => Int64.ofInt (type.ofBytes bytes)).mp success
          exact ⟨bytes, passes, spans_of_builtin rfl
            (ne_nil_of_length_eq length_eq type.width_pos.ne')⟩
      | float type =>
          cases isUnit
          apply Decoding.consumes_map_ofRead
          intro before after number success
          obtain ⟨bytes, length_eq, _, passes⟩ :=
            (Cursor.map_readBytes_eq_ok_iff type.ofBytes).mp success
          exact ⟨bytes, passes, spans_of_builtin rfl
            (ne_nil_of_length_eq length_eq type.width_pos.ne')⟩
      | string =>
          cases isUnit
          apply Decoding.consumes_map_ofRead
          intro before after text success
          by_cases length_eq : length.toNat = 0
          · rw [length_eq, Cursor.readString, if_pos rfl] at success
            obtain ⟨_, passes⟩ := Cursor.readTerminated_eq_ok_iff.mp success
            exact ⟨_, passes, spans_of_builtin rfl (by simp)⟩
          · obtain ⟨bytes, bytes_length, _, passes⟩ :=
              (Cursor.readString_fixed_eq_ok_iff length_eq).mp success
            exact ⟨bytes, passes, spans_of_builtin rfl
              (ne_nil_of_length_eq bytes_length length_eq)⟩
      | wideString =>
          cases isUnit
          apply Decoding.consumes_map_ofRead
          intro before after text success
          by_cases length_eq : length.toNat = 0
          · rw [length_eq, Cursor.readWideString, if_pos rfl] at success
            obtain ⟨mark, units, _, _, _, passes⟩ :=
              Cursor.readWideTerminated_eq_ok_iff.mp success
            exact ⟨_, passes, spans_of_builtin rfl (by simp)⟩
          · obtain ⟨_, bytes, bytes_length, _, passes⟩ :=
              (Cursor.readWideString_fixed_eq_ok_iff length_eq).mp success
            exact ⟨bytes, passes, spans_of_builtin rfl
              (ne_nil_of_length_eq bytes_length (by omega))⟩
  | call function =>
      cases isUnit
      intro before after state endState value success
      obtain ⟨bytes, passes, rfl⟩ :=
        Decoding.consumes_call host function before after state endState value success
      exact ⟨[], passes, by simp [Spans]⟩
  | struct name => cases isOwn

theorem isUniform_spans : Form.IsUniform Spans := by
  intro item first second bytes others spans otherSpans empty
  exact otherSpans.mpr (spans.mp empty)

theorem consumes_isDecodedFrom (isOwn : item.type.structName? = none)
    (isUnit : item.decodeUnit? host decoders = some unit) :
    unit.Consumes (item.IsDecodedFrom host) := by
  intro before after state endState value success
  obtain ⟨bytes, passes, _⟩ :=
    consumes_spans isOwn isUnit before after state endState value success
  exact ⟨bytes, passes, isOwn, decoders, unit, before, after, state, endState, isUnit, success,
    passes⟩

theorem IsDecodedFrom.spans {value : Value} {bytes : List UInt8}
    (isDecoded : item.IsDecodedFrom host value bytes) : item.Spans value bytes := by
  obtain ⟨isOwn, decoders, unit, before, after, state, endState, isUnit, success, passes⟩ :=
    isDecoded
  obtain ⟨others, passesOthers, spans⟩ :=
    consumes_spans isOwn isUnit before after state endState value success
  have same : bytes ++ after.rest = others ++ after.rest :=
    passes.rest_eq.symm.trans passesOthers.rest_eq
  rwa [List.append_cancel_right same]

theorem isUniform_isDecodedFrom (host : Host σ) : Form.IsUniform (IsDecodedFrom host) := by
  intro item first second bytes others isDecoded otherDecoded empty
  exact isUniform_spans item first second bytes others isDecoded.spans otherDecoded.spans empty

end Item

namespace Schema

/-- Whether items that embed no struct are decoded to values in some form. -/
def DecodesTo (schema : Schema) (host : Host σ) (form : Form) : Prop :=
  ∀ (item : Item) (unit : Decoding σ Value), item.type.structName? = none →
    item.decodeUnit? host (schema.decoders host) = some unit → unit.Consumes (form item)

variable {schema : Schema} {form : Form} {item : Item}

theorem RepeatsWritten.length_le {elements : List Value} {bytes : List UInt8}
    (written : schema.RepeatsWritten form item elements bytes)
    (notEmpty : ∀ value others, schema.UnitWritten form item value others → others ≠ []) :
    elements.length ≤ bytes.length := by
  induction elements generalizing bytes with
  | nil => exact Nat.zero_le _
  | cons element elements induction =>
      cases written with
      | cons first others =>
          have positive := List.length_pos_iff.mpr (notEmpty _ _ first)
          have behind := induction others
          rw [List.length_cons, List.length_append]
          omega

/-- An array of more elements than may be without bytes is no longer than its bytes. -/
theorem ItemWritten.length_le (layered : Layered schema.structs) (isUniform : form.IsUniform)
    (count_ne : item.count ≠ 1) {elements : List Value} {bytes : List UInt8}
    (written : schema.ItemWritten form item (some (.array elements)) bytes) :
    elements.length ≤ max largestEmptyRepeat bytes.length := by
  cases written with
  | single _ count_eq => exact absurd count_eq count_ne
  | array _ _ _ repeats bounded =>
      by_cases empty : ∃ value, schema.UnitWritten form item value []
      · obtain ⟨value, written⟩ := empty
        have allEmpty := repeats.eq_nil_of_forall fun other others otherWritten =>
          UnitWritten.isUniform layered isUniform value other [] others written otherWritten rfl
        exact (bounded allEmpty).trans (Nat.le_max_left _ _)
      · refine (repeats.length_le ?_).trans (Nat.le_max_right _ _)
        rintro value others written rfl
        exact empty ⟨value, written⟩

section

variable {host : Host σ}

theorem DecodesTo.consumes_record (decoded : schema.DecodesTo host form)
    (layered : Layered schema.structs) {name : String} {fields : List Field}
    (found : schema.fields? name = some fields) :
    (schema.decodeRecord host name).Consumes (schema.FieldsWritten form fields) := by
  have anything : schema.Throughout (fun _ => True) name :=
    throughout_of_forall (fun _ _ _ _ => trivial) name
  exact consumes_decodeRecord layered
    (fun item unit _ isOwn isUnit => decoded item unit isOwn isUnit) found anything

/-- A repetition of any item is written in the bytes that it has passed over, if that is
so for items that embed no struct. -/
theorem DecodesTo.consumes_unit (decoded : schema.DecodesTo host form)
    (layered : Layered schema.structs) {unit : Decoding σ Value}
    (isUnit : item.decodeUnit? host (schema.decoders host) = some unit) :
    unit.Consumes (schema.UnitWritten form item) := by
  cases type_eq : item.type.structName? with
  | none =>
      intro before after state endState value success
      obtain ⟨bytes, passes, written⟩ :=
        decoded item unit type_eq isUnit before after state endState value success
      exact ⟨bytes, passes, .own type_eq written⟩
  | some name =>
      have isStruct := ItemType.structName?_eq_some_iff.mp type_eq
      cases (Item.decodeUnit?_of_struct isStruct).symm.trans isUnit
      change (Value.record <$> schema.decodeRecord host name).Consumes _
      cases found : schema.fields? name with
      | none =>
          rw [decodeRecord_of_unknown layered host found]
          intro before after state endState value success
          cases success
      | some fields =>
          exact (decoded.consumes_record layered found).map
            fun record bytes written => .struct isStruct found written

/-- Items are written as fields without names. -/
theorem DecodesTo.consumes_items (decoded : schema.DecodesTo host form)
    (layered : Layered schema.structs) (items : List Item) :
    (schema.decodeItems host items).Consumes fun values bytes =>
      ∃ record, values = record.map Prod.snd ∧
        schema.FieldsWritten form (items.map fun item => ⟨item, none⟩) record bytes := by
  have items_eq : (items.map fun item => (⟨item, none⟩ : Field)).map Field.item = items := by
    rw [List.map_map, Function.comp_def, List.map_id']
  have decode_eq := decodeItems_map_item host (schema.decoders host)
    (items.map fun item => (⟨item, none⟩ : Field))
  rw [items_eq] at decode_eq
  rw [decodeItems, decode_eq]
  have consumesFields : (decodeFields host (schema.decoders host)
      (items.map fun item => ⟨item, none⟩)).Consumes
        (schema.FieldsWritten form (items.map fun item => ⟨item, none⟩)) :=
    consumes_decodeFields fun _ _ _ isUnit => decoded.consumes_unit layered isUnit
  exact consumesFields.map fun record bytes written => ⟨record, rfl, written⟩

end

/-- Reading a single item once is decoding one repetition of it. -/
theorem decodeItems_once {host : Host σ} {unit : Decoding σ Value}
    (isUnit : item.decodeUnit? host (schema.decoders host) = some unit) :
    schema.decodeItems host [item.once] = (fun value => [value]) <$> unit := by
  have isUnitOnce : item.once.decodeUnit? host (schema.decoders host) = some unit := isUnit
  rw [decodeItems_singleton, Item.decode_of_single isUnitOnce rfl, Functor.map_map]
  rfl

/-- A repetition that succeeds moves the position by the bytes in which its value is
written. -/
theorem exists_written_of_once (layered : Layered schema.structs)
    (isValue : item.type ≠ .builtin .void) {host : Host σ} {source after : Source}
    {state endState : σ} {values : List Value}
    (success : source.decode (schema.decodeItems host [item.once]) state =
      (.ok values, after, endState)) :
    ∃ value bytes, schema.UnitWritten Item.Spans item value bytes ∧
      after = { source with position := source.position + bytes.length } := by
  obtain ⟨unit, isUnit⟩ := Item.exists_decodeUnit? isValue host (schema.decoders host)
  have decoded : schema.DecodesTo host Item.Spans := fun _ _ => Item.consumes_spans
  have consumes : ((fun value => [value]) <$> unit).Consumes
      fun _ bytes => ∃ value, schema.UnitWritten Item.Spans item value bytes :=
    (decoded.consumes_unit layered isUnit).map fun value _ written => ⟨value, written⟩
  rw [decodeItems_once isUnit] at success
  obtain ⟨bytes, _, after_eq, value, written⟩ := Source.exists_of_consumes consumes success
  exact ⟨value, bytes, written, after_eq⟩

/-- Either no repetition of an item that succeeds moves the position, or all of them do. -/
theorem stays_or_moves (layered : Layered schema.structs)
    (isValue : item.type ≠ .builtin .void) :
    (∀ (τ : Type) (host : Host τ) (source after : Source) (state endState : τ) values,
      source.decode (schema.decodeItems host [item.once]) state =
        (.ok values, after, endState) → after.position = source.position) ∨
    ∀ (τ : Type) (host : Host τ) (source after : Source) (state endState : τ) values,
      source.decode (schema.decodeItems host [item.once]) state =
        (.ok values, after, endState) → source.position < after.position := by
  by_cases empty : ∃ value, schema.UnitWritten Item.Spans item value []
  · refine Or.inl ?_
    intro τ host source after state endState values success
    obtain ⟨emptyValue, emptyWritten⟩ := empty
    obtain ⟨value, bytes, written, rfl⟩ := exists_written_of_once layered isValue success
    have noBytes : bytes = [] := UnitWritten.isUniform layered Item.isUniform_spans emptyValue
      value [] bytes emptyWritten written rfl
    rw [noBytes, List.length_nil, Nat.add_zero]
  · refine Or.inr ?_
    intro τ host source after state endState values success
    obtain ⟨value, bytes, written, rfl⟩ := exists_written_of_once layered isValue success
    have someBytes : bytes ≠ [] := by
      rintro rfl
      exact empty ⟨value, written⟩
    exact Nat.lt_add_of_pos_right (List.length_pos_iff.mpr someBytes)

end Schema

theorem Source.decode_fst_eq_error_iff {α : Type} {source : Source} {action : Decoding σ α}
    {state : σ} {failure : Error} :
    (source.decode action state).1 = .error failure ↔
      (action source.cursor state).1 = .error failure := by
  unfold decode
  rcases action source.cursor state with ⟨found | ⟨result, after⟩, afterState⟩ <;> simp

theorem Source.decode_stays_iff {α : Type} {source : Source} {action : Decoding σ α} {state : σ} :
    (∃ result endState, source.decode action state = (.ok result, source, endState)) ↔
      ∃ result after endState, action source.cursor state = (.ok (result, after), endState) ∧
        after.position = source.cursor.position := by
  constructor
  · rintro ⟨result, endState, success⟩
    obtain ⟨after, run, source_eq⟩ := decode_eq_ok success
    exact ⟨result, after, endState, run, (congrArg Source.position source_eq).symm⟩
  · rintro ⟨result, after, endState, run, stays⟩
    refine ⟨result, endState, ?_⟩
    simp only [decode, run, stays]
    rfl

namespace Schema

variable {schema : Schema} {item : Item}

/-- Reading an array fails in its own name exactly if there are too many repetitions and
the first one succeeds without moving the position. -/
theorem decodeItems_eq_emptyRepeat_iff (layered : Layered schema.structs)
    (isValue : item.type ≠ .builtin .void) (host : Host σ) (source : Source) (state : σ) :
    (source.decode (schema.decodeItems host [item]) state).1 =
        .error (.emptyRepeat item.type item.count) ↔
      largestEmptyRepeat < item.count.toNat ∧ ∃ values endState,
        source.decode (schema.decodeItems host [item.once]) state =
          (.ok values, source, endState) := by
  obtain ⟨unit, isUnit⟩ := Item.exists_decodeUnit? isValue host (schema.decoders host)
  have stays_iff : (∃ values endState,
      source.decode (schema.decodeItems host [item.once]) state =
        (.ok values, source, endState)) ↔
      ∃ value after endState, unit source.cursor state = (.ok (value, after), endState) ∧
        after.position = source.cursor.position := by
    rw [decodeItems_once isUnit, ← Source.decode_stays_iff]
    constructor
    · rintro ⟨values, endState, success⟩
      rw [Source.decode_map] at success
      rcases run : source.decode unit state with ⟨failure | value, after, afterState⟩
      · rw [run] at success
        cases success
      · rw [run] at success
        cases success
        exact ⟨value, endState, rfl⟩
    · rintro ⟨value, endState, success⟩
      refine ⟨[value], endState, ?_⟩
      rw [Source.decode_map, success]
      rfl
  rw [stays_iff, decodeItems_singleton, Source.decode_map, exceptMap_eq_error_iff]
  by_cases count_eq : item.count = 1
  · -- A single value is no array, so nothing refuses it.
    rw [Item.decode_of_single isUnit count_eq, Source.decode_map, exceptMap_eq_error_iff]
    constructor
    · intro refused
      exact absurd rfl (Source.failsOnly_decode (failsOnly_ne_emptyRepeat layered isUnit) source
        refused)
    · rintro ⟨exceeds, _⟩
      rw [count_eq] at exceeds
      exact absurd exceeds (by decide)
  · rw [Item.decode_of_array isUnit count_eq, Source.decode_map, exceptMap_eq_error_iff,
      Source.decode_fst_eq_error_iff]
    exact decodeArray_eq_emptyRepeat_iff layered isUnit source.cursor state

/-- An array that has been decoded anywhere has no more elements than may be without bytes,
or no more than bytes have been passed over for it. -/
theorem length_le_of_decode (layered : Layered schema.structs) (host : Host σ)
    (count_ne : item.count ≠ 1) {before after : Cursor} {state endState : σ}
    {elements : List Value}
    (success : item.decode host (schema.decoders host) before state =
      (.ok (some (.array elements), after), endState)) :
    elements.length ≤ max largestEmptyRepeat (after.position - before.position) := by
  have decoded : schema.DecodesTo host (Item.IsDecodedFrom host) :=
    fun _ _ => Item.consumes_isDecodedFrom
  have consumes : (item.decode host (schema.decoders host)).Consumes
      (schema.ItemWritten (Item.IsDecodedFrom host) item) :=
    consumes_decode fun _ isUnit => decoded.consumes_unit layered isUnit
  obtain ⟨bytes, passes, written⟩ := consumes before after state endState _ success
  have length_eq : after.position - before.position = bytes.length := by
    rw [passes.position_eq, Nat.add_sub_cancel_left]
  rw [length_eq]
  exact written.length_le layered (Item.isUniform_isDecodedFrom host) count_ne

/-- Either no repetition of an item consumes bytes or all do, so an array is refused in its
own name exactly if there are too many repetitions and the first one consumes nothing.  A
success has passed over the bytes in which what it has decoded is written, at every depth,
and no array that is written there, or decoded anywhere, has more elements than may be
without bytes, unless it has no more than its own bytes. -/
theorem emptyRepeat_caps_exactly (reachable : schema.Reachable) (host : Host σ) :
    (∀ item : Item, item.isVoid = false →
      ((∀ (τ : Type) (anyHost : Host τ) (source after : Source) (state endState : τ) values,
          source.decode (schema.decodeItems anyHost [item.once]) state =
            (.ok values, after, endState) → after.position = source.position) ∨
        ∀ (τ : Type) (anyHost : Host τ) (source after : Source) (state endState : τ) values,
          source.decode (schema.decodeItems anyHost [item.once]) state =
            (.ok values, after, endState) → source.position < after.position) ∧
      ∀ (source : Source) (state : σ),
        (source.decode (schema.decodeItems host [item]) state).1 =
            .error (.emptyRepeat item.type item.count) ↔
          largestEmptyRepeat < item.count.toNat ∧ ∃ values endState,
            source.decode (schema.decodeItems host [item.once]) state =
              (.ok values, source, endState)) ∧
    (∀ (source after : Source) (state endState : σ) name record,
      source.decode (schema.decodeRecord host name) state = (.ok record, after, endState) →
        ∃ fields bytes, schema.fields? name = some fields ∧
          source.remaining = bytes ++ after.remaining ∧
          after = { source with position := source.position + bytes.length } ∧
            schema.FieldsWritten (Item.IsDecodedFrom host) fields record bytes) ∧
    (∀ (source after : Source) (state endState : σ) items values,
      source.decode (schema.decodeItems host items) state = (.ok values, after, endState) →
        ∃ record bytes, values = record.map Prod.snd ∧
          source.remaining = bytes ++ after.remaining ∧
          after = { source with position := source.position + bytes.length } ∧
            schema.FieldsWritten (Item.IsDecodedFrom host)
              (items.map fun item => ⟨item, none⟩) record bytes) ∧
    (∀ (item : Item) elements bytes, item.count ≠ 1 →
      schema.ItemWritten (Item.IsDecodedFrom host) item (some (.array elements)) bytes →
        elements.length ≤ max largestEmptyRepeat bytes.length) ∧
    ∀ (item : Item) (before after : Cursor) (state endState : σ) elements, item.count ≠ 1 →
      item.decode host (schema.decoders host) before state =
        (.ok (some (.array elements), after), endState) →
          elements.length ≤ max largestEmptyRepeat (after.position - before.position) := by
  have layered := reachable.layered
  have decoded : schema.DecodesTo host (Item.IsDecodedFrom host) :=
    fun _ _ => Item.consumes_isDecodedFrom
  refine ⟨?_, ?_, ?_, ?_, fun _ _ _ _ _ _ count_ne =>
    length_le_of_decode layered host count_ne⟩
  · intro item isValue
    have notVoid := Item.isVoid_eq_false_iff.mp isValue
    exact ⟨stays_or_moves layered notVoid,
      decodeItems_eq_emptyRepeat_iff layered notVoid host⟩
  · intro source after state endState name record success
    cases found : schema.fields? name with
    | none =>
        rw [decodeRecord_of_unknown layered host found] at success
        cases success
    | some fields =>
        obtain ⟨bytes, remaining_eq, after_eq, written⟩ :=
          Source.exists_of_consumes (decoded.consumes_record layered found) success
        exact ⟨fields, bytes, rfl, remaining_eq, after_eq, written⟩
  · intro source after state endState items values success
    obtain ⟨bytes, remaining_eq, after_eq, record, values_eq, written⟩ :=
      Source.exists_of_consumes (decoded.consumes_items layered items) success
    exact ⟨record, bytes, values_eq, remaining_eq, after_eq, written⟩
  · intro item elements bytes count_ne written
    exact written.length_le layered (Item.isUniform_isDecodedFrom host) count_ne

theorem reachable_entries : entries.Reachable :=
  Reachable.of_declare ⟨[], rfl⟩ (declare_of_embedded_eq_nil rfl)

/-- A call that is repeated too often is refused after the first one, while two entries are
decoded from a byte each. -/
theorem emptyRepeat_caps_exactly_entries :
    let source : Source := ⟨"entries", [7, 8], 0⟩
    let serials : Item := { type := .call "serial", count := 65537 }
    let pair : Item := { type := .struct "entry", count := 2 }
    let values : List Value := [.record [("number", .integer 4), ("kind", .integer 7)],
      .record [("number", .integer 5), ("kind", .integer 8)]]
    entries.Reachable ∧ serials.isVoid = false ∧
      (source.decode (entries.decodeItems countingHost [serials]) 4).1 =
        .error (.emptyRepeat (.call "serial") 65537) ∧
      source.decode (entries.decodeItems countingHost [pair]) 4 =
        (.ok [.array values], { source with position := 2 }, 6) ∧
      ∃ record, [.array values] = record.map Prod.snd ∧
        entries.FieldsWritten (Item.IsDecodedFrom countingHost) [⟨pair, none⟩] record [7, 8] := by
  intro source serials pair values
  obtain ⟨caps, _, ofItems, _, _⟩ := emptyRepeat_caps_exactly reachable_entries countingHost
  have once : source.decode (entries.decodeItems countingHost [serials.once]) 4 =
      (.ok [.integer 4], source, 5) := rfl
  have run : source.decode (entries.decodeItems countingHost [pair]) 4 =
      (.ok [.array values], { source with position := 2 }, 6) := rfl
  obtain ⟨record, bytes, values_eq, remaining_eq, _, written⟩ := ofItems source _ 4 6 _ _ run
  have bytes_eq : bytes = [7, 8] := (List.append_cancel_right remaining_eq).symm
  rw [bytes_eq] at written
  exact ⟨reachable_entries, rfl,
    ((caps serials rfl).2 source 4).mpr ⟨by decide, [.integer 4], 5, once⟩, run, record,
    values_eq, written⟩

end Schema

end BinaryRecords
