import BinaryRecords.Proofs.Format.Encoding

/-!
# Values that conform to a layout

What values a layout admits is said here without regard to bytes: numbers in the range
of their type, strings free of terminators and no longer than their items, the answers
of a host one after the other, arrays of the right length, and records with the names
of their struct.
-/

namespace BinaryRecords

variable {σ : Type} {host : Host σ}

/-- Whether a value is one that an item without a struct may have, where the host goes
from one state to another meanwhile. -/
inductive Item.Admits (host : Host σ) (item : Item) : Value → σ → σ → Prop
  | integer {type : IntegerType} {number : Int64} {state : σ}
      (type_eq : item.type = .builtin (.integer type)) (inRange : type.InRange number.toInt) :
      Admits host item (.integer number) state state
  | float {type : FloatType} {number : Binary64} {state : σ}
      (type_eq : item.type = .builtin (.float type)) :
      Admits host item (.float number) state state
  | string {text : List UInt8} {state : σ} (type_eq : item.type = .builtin .string)
      (noZero : 0 ∉ text) (fits : item.length ≠ 0 → text.length ≤ item.length.toNat) :
      Admits host item (.string text) state state
  | wideString {units : List WideUnit} {state : σ}
      (type_eq : item.type = .builtin .wideString) (noZero : (0, 0) ∉ units)
      (fits : item.length ≠ 0 → (unitBytes units).length ≤ 2 * item.length.toNat) :
      Admits host item (.string (unitBytes units)) state state
  | call {function : String} {value : Value} {state after : σ}
      (type_eq : item.type = .call function)
      (answered : host function state = (some [value], after)) :
      Admits host item value state after

/-- Whether the names in a record are those of the fields that are no gaps, in the same
order and each of them once. -/
structure Record.IsNamedBy (record : Record) (fields : List Field) : Prop where
  names_eq : record.map (fun entry => some entry.1) =
    (fields.filter fun field => !field.item.isVoid).map Field.name
  distinct : (record.map Prod.fst).Nodup

/-- The values of an item that are stored in bytes are among those it admits. -/
theorem Item.Stores.admits {item : Item} {value : Value}
    {bytes : List UInt8} (stores : item.Stores value bytes) (host : Host σ) (state : σ) :
    item.Admits host value state state := by
  cases stores with
  | integer type_eq inRange => exact .integer type_eq inRange
  | terminated type_eq length_eq noZero =>
      exact .string type_eq noZero fun length_ne => absurd length_eq length_ne
  | fixed type_eq length_ne bytes_length =>
      refine .string type_eq (zero_notMem_beforeZero bytes) fun _ => ?_
      rw [← bytes_length]
      exact (List.takeWhile_prefix _).length_le
  | wideTerminated type_eq length_eq isMark noZero =>
      exact .wideString type_eq noZero fun length_ne => absurd length_eq length_ne
  | wideFixed type_eq length_ne bytes_length =>
      have even : (bytes.drop (orderMarkLength bytes)).length % 2 = 0 := by
        have evenMark := even_orderMarkLength bytes
        rw [List.length_drop]
        omega
      obtain ⟨units, noZero, text_eq, shorter⟩ := exists_units_of_beforeZeroUnit even
      rw [text_eq]
      refine .wideString type_eq noZero fun _ => ?_
      rw [List.length_drop] at shorter
      omega

/-- The names of a record are those of fields that are named. -/
theorem Record.isNamedBy_of_names_eq {record : Record} {fields : List Field}
    (distinct : (fields.filterMap Field.name).Nodup)
    (names_eq : record.map (fun entry => some entry.1) =
      (fields.filter fun field => !field.item.isVoid).map Field.name) :
    record.IsNamedBy fields := by
  refine ⟨names_eq, ?_⟩
  have names : record.map Prod.fst =
      (fields.filter fun field => !field.item.isVoid).filterMap Field.name := by
    have filtered := congrArg (List.filterMap id) names_eq
    simpa [List.filterMap_map, Function.comp_def] using filtered
  rw [names]
  exact distinct.sublist (List.filter_sublist.filterMap _)

namespace Schema

mutual

/-- Whether a value is one that a repetition of an item may have. -/
inductive UnitConforms (host : Host σ) (schema : Schema) : Item → Value → σ → σ → Prop
  | own {item : Item} {value : Value} {state after : σ}
      (admits : item.Admits host value state after) :
      UnitConforms host schema item value state after
  | struct {item : Item} {name : String} {record : Record} {state after : σ}
      (type_eq : item.type = .struct name)
      (conforms : RecordConforms host schema name record state after) :
      UnitConforms host schema item (.record record) state after

/-- Whether a record is one that a declared struct may have. -/
inductive RecordConforms (host : Host σ) (schema : Schema) :
    String → Record → σ → σ → Prop
  | declared {name : String} {fields : List Field} {record : Record} {state after : σ}
      (found : schema.fields? name = some fields) (named : record.IsNamedBy fields)
      (values : ItemsConform host schema (fields.map Field.item) (record.map Prod.snd)
        state after) :
      RecordConforms host schema name record state after

/-- Whether values are those that as many repetitions of an item may have. -/
inductive RepeatsConform (host : Host σ) (schema : Schema) :
    Item → List Value → σ → σ → Prop
  | nil {item : Item} {state : σ} : RepeatsConform host schema item [] state state
  | cons {item : Item} {element : Value} {elements : List Value} {state middle after : σ}
      (first : UnitConforms host schema item element state middle)
      (others : RepeatsConform host schema item elements middle after) :
      RepeatsConform host schema item (element :: elements) state after

/-- Whether a value, or none for a gap, is what an item may yield. -/
inductive ItemConforms (host : Host σ) (schema : Schema) :
    Item → Option Value → σ → σ → Prop
  | gap {item : Item} {state : σ} (isVoid : item.isVoid = true) :
      ItemConforms host schema item none state state
  | single {item : Item} {value : Value} {state after : σ} (isValue : item.isVoid = false)
      (count_eq : item.count = 1) (unit : UnitConforms host schema item value state after) :
      ItemConforms host schema item (some value) state after
  | array {item : Item} {elements : List Value} {state after : σ}
      (isValue : item.isVoid = false) (count_ne : item.count ≠ 1)
      (length_eq : elements.length = item.count.toNat)
      (repeats : RepeatsConform host schema item elements state after) :
      ItemConforms host schema item (some (.array elements)) state after

/-- Whether values are what items may yield that follow one another. -/
inductive ItemsConform (host : Host σ) (schema : Schema) :
    List Item → List Value → σ → σ → Prop
  | nil {state : σ} : ItemsConform host schema [] [] state state
  | cons {item : Item} {items : List Item} {value? : Option Value} {values : List Value}
      {state middle after : σ} (first : ItemConforms host schema item value? state middle)
      (others : ItemsConform host schema items values middle after) :
      ItemsConform host schema (item :: items) (value?.toList ++ values) state after

end

variable {schema : Schema}

theorem ItemConforms.isSome_eq {item : Item} {value? : Option Value} {state after : σ}
    (conforms : schema.ItemConforms host item value? state after) :
    value?.isSome = !item.isVoid := by
  cases conforms with
  | gap isVoid => rw [isVoid]; rfl
  | single isValue => rw [isValue]; rfl
  | array isValue => rw [isValue]; rfl

/-- Every item but the gaps has one value. -/
theorem ItemsConform.length_eq {items : List Item} {values : List Value} {state after : σ}
    (conform : schema.ItemsConform host items values state after) :
    values.length = (items.filter fun item => !item.isVoid).length := by
  induction items generalizing values state with
  | nil =>
      cases conform
      rfl
  | cons item items induction =>
      cases conform with
      | @cons _ _ value? _ _ _ _ first others =>
          have isSome_eq := first.isSome_eq
          have length_others := induction others
          rw [List.filter_cons, ← isSome_eq]
          cases value? with
          | none => exact length_others
          | some value => exact congrArg (· + 1) length_others

end Schema

end BinaryRecords
