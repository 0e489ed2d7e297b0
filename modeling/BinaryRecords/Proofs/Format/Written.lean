import BinaryRecords.Decode.Item
import BinaryRecords.Proofs.Schema.Reachable

/-!
# Written records

How a record stands in bytes follows from how the values of its built-in items
do: repetitions stand one behind the other, fields in their order, embedded
structs in place of the items that name them, and any bytes in a gap.
-/

namespace BinaryRecords

/-- How the value of one repetition of an item that embeds no struct may stand in
bytes. -/
abbrev Form := Item → Value → List UInt8 → Prop

/-- Whether a value of an item that embeds no struct takes bytes or not depends on
the item alone. -/
def Form.IsUniform (form : Form) : Prop :=
  ∀ item first second bytes others, form item first bytes → form item second others →
    bytes = [] → others = []

/-- Whether items with a property that are stored in one form are so in another. -/
def Form.Implies (form other : Form) (holds : Item → Prop) : Prop :=
  ∀ item value bytes, holds item → form item value bytes → other item value bytes

namespace Schema

mutual

/-- Whether some bytes are one repetition of an item that yields a value. -/
inductive UnitWritten (form : Form) (schema : Schema) : Item → Value → List UInt8 → Prop
  | own {item : Item} {value : Value} {bytes : List UInt8}
      (isOwn : item.type.structName? = none) (written : form item value bytes) :
      UnitWritten form schema item value bytes
  | struct {item : Item} {name : String} {fields : List Field} {record : Record}
      {bytes : List UInt8} (type_eq : item.type = .struct name)
      (found : schema.fields? name = some fields)
      (written : FieldsWritten form schema fields record bytes) :
      UnitWritten form schema item (.record record) bytes

/-- Whether some bytes are the repetitions of an item that yield some values. -/
inductive RepeatsWritten (form : Form) (schema : Schema) :
    Item → List Value → List UInt8 → Prop
  | nil {item : Item} : RepeatsWritten form schema item [] []
  | cons {item : Item} {element : Value} {elements : List Value} {bytes rest : List UInt8}
      (first : UnitWritten form schema item element bytes)
      (others : RepeatsWritten form schema item elements rest) :
      RepeatsWritten form schema item (element :: elements) (bytes ++ rest)

/-- Whether some bytes are an item that yields a value, or none if it is a gap. -/
inductive ItemWritten (form : Form) (schema : Schema) :
    Item → Option Value → List UInt8 → Prop
  | gap {item : Item} {bytes : List UInt8} (isVoid : item.type = .builtin .void)
      (length_eq : bytes.length = item.length.toNat * item.count.toNat) :
      ItemWritten form schema item none bytes
  | single {item : Item} {value : Value} {bytes : List UInt8}
      (isValue : item.type ≠ .builtin .void) (count_eq : item.count = 1)
      (unit : UnitWritten form schema item value bytes) :
      ItemWritten form schema item (some value) bytes
  | array {item : Item} {elements : List Value} {bytes : List UInt8}
      (isValue : item.type ≠ .builtin .void) (count_ne : item.count ≠ 1)
      (length_eq : elements.length = item.count.toNat)
      (repeats : RepeatsWritten form schema item elements bytes)
      (bounded : bytes = [] → elements.length ≤ largestEmptyRepeat) :
      ItemWritten form schema item (some (.array elements)) bytes

/-- Whether some bytes are the fields of a record. -/
inductive FieldsWritten (form : Form) (schema : Schema) :
    List Field → Record → List UInt8 → Prop
  | nil : FieldsWritten form schema [] [] []
  | cons {field : Field} {fields : List Field} {value? : Option Value} {record : Record}
      {bytes rest : List UInt8} (first : ItemWritten form schema field.item value? bytes)
      (others : FieldsWritten form schema fields record rest) :
      FieldsWritten form schema (field :: fields)
        (value?.toList.map (fun value => (field.name.getD "", value)) ++ record)
        (bytes ++ rest)

end

section

variable {form : Form} {schema : Schema}

theorem RepeatsWritten.eq_nil_of_forall {item : Item} {elements : List Value}
    {bytes : List UInt8} (written : schema.RepeatsWritten form item elements bytes)
    (empty : ∀ value others, schema.UnitWritten form item value others → others = []) :
    bytes = [] := by
  induction elements generalizing bytes with
  | nil =>
      cases written
      rfl
  | cons element elements induction =>
      cases written with
      | cons first others =>
          rw [empty _ _ first, induction others, List.nil_append]

theorem RepeatsWritten.empty_of_empty {item : Item} {firsts seconds : List Value}
    {bytes others : List UInt8} (first : schema.RepeatsWritten form item firsts bytes)
    (second : schema.RepeatsWritten form item seconds others)
    (length_eq : firsts.length = seconds.length)
    (uniform : ∀ first second bytes others, schema.UnitWritten form item first bytes →
      schema.UnitWritten form item second others → bytes = [] → others = [])
    (empty : bytes = []) : others = [] := by
  cases first with
  | nil =>
      have noSeconds : seconds = [] := List.length_eq_zero_iff.mp length_eq.symm
      subst noSeconds
      cases second
      rfl
  | cons head tail =>
      apply second.eq_nil_of_forall
      intro value bytes written
      exact uniform _ _ _ _ head written (List.append_eq_nil_iff.mp empty).1

theorem ItemWritten.empty_of_empty {item : Item} {first? second? : Option Value}
    {bytes others : List UInt8} (first : schema.ItemWritten form item first? bytes)
    (second : schema.ItemWritten form item second? others)
    (uniform : ∀ first second bytes others, schema.UnitWritten form item first bytes →
      schema.UnitWritten form item second others → bytes = [] → others = [])
    (empty : bytes = []) : others = [] := by
  cases first with
  | gap isVoid length_eq =>
      cases second with
      | gap _ otherLength_eq =>
          apply List.length_eq_zero_iff.mp
          rw [otherLength_eq, ← length_eq, empty, List.length_nil]
      | single isValue => exact absurd isVoid isValue
      | array isValue => exact absurd isVoid isValue
  | single isValue count_eq unit =>
      cases second with
      | gap isVoid => exact absurd isVoid isValue
      | single _ _ otherUnit => exact uniform _ _ _ _ unit otherUnit empty
      | array _ count_ne => exact absurd count_eq count_ne
  | array isValue count_ne length_eq repeats =>
      cases second with
      | gap isVoid => exact absurd isVoid isValue
      | single _ count_eq => exact absurd count_eq count_ne
      | array _ _ otherLength_eq otherRepeats =>
          exact repeats.empty_of_empty otherRepeats (length_eq.trans otherLength_eq.symm)
            uniform empty

theorem FieldsWritten.empty_of_empty {fields : List Field} {first second : Record}
    {bytes others : List UInt8} (writtenFirst : schema.FieldsWritten form fields first bytes)
    (writtenSecond : schema.FieldsWritten form fields second others)
    (uniform : ∀ field ∈ fields, ∀ first second bytes others,
      schema.UnitWritten form field.item first bytes →
        schema.UnitWritten form field.item second others → bytes = [] → others = [])
    (empty : bytes = []) : others = [] := by
  induction fields generalizing first second bytes others with
  | nil =>
      cases writtenSecond
      rfl
  | cons field fields induction =>
      cases writtenFirst with
      | cons itemFirst restFirst =>
          cases writtenSecond with
          | cons itemSecond restSecond =>
              obtain ⟨emptyItem, emptyRest⟩ := List.append_eq_nil_iff.mp empty
              rw [itemFirst.empty_of_empty itemSecond (uniform field List.mem_cons_self)
                emptyItem, induction restFirst restSecond
                  (fun other member => uniform other (List.mem_cons_of_mem _ member)) emptyRest,
                List.append_nil]

theorem UnitWritten.empty_of_structs (isUniform : form.IsUniform) {item : Item}
    (structs : ∀ name fields, item.type = .struct name → schema.fields? name = some fields →
      ∀ first second bytes others, schema.FieldsWritten form fields first bytes →
        schema.FieldsWritten form fields second others → bytes = [] → others = [])
    (first second : Value) (bytes others : List UInt8)
    (writtenFirst : schema.UnitWritten form item first bytes)
    (writtenSecond : schema.UnitWritten form item second others) (empty : bytes = []) :
    others = [] := by
  cases writtenFirst with
  | own isOwn written =>
      cases writtenSecond with
      | own _ otherWritten => exact isUniform _ _ _ _ _ written otherWritten empty
      | struct type_eq => simp [type_eq, ItemType.structName?] at isOwn
  | struct type_eq found written =>
      cases writtenSecond with
      | own isOwn => simp [type_eq, ItemType.structName?] at isOwn
      | struct otherType_eq otherFound otherWritten =>
          rw [type_eq] at otherType_eq
          cases otherType_eq
          rw [found] at otherFound
          cases otherFound
          exact structs _ _ type_eq found _ _ _ _ written otherWritten empty

/-- Whether a struct takes bytes or not depends on the schema alone. -/
theorem FieldsWritten.isUniform (layered : Layered schema.structs)
    (isUniform : form.IsUniform) {name : String} {fields : List Field}
    (found : schema.fields? name = some fields) (first second : Record)
    (bytes others : List UInt8) (writtenFirst : schema.FieldsWritten form fields first bytes)
    (writtenSecond : schema.FieldsWritten form fields second others) (empty : bytes = []) :
    others = [] := by
  refine induction_on_fields? layered
    (motive := fun _ fields => ∀ first second bytes others,
      schema.FieldsWritten form fields first bytes →
        schema.FieldsWritten form fields second others → bytes = [] → others = [])
    ?_ found first second bytes others writtenFirst writtenSecond empty
  intro outer fields foundOuter inners first second bytes others writtenFirst writtenSecond
  apply writtenFirst.empty_of_empty writtenSecond
  intro field member
  apply UnitWritten.empty_of_structs isUniform
  intro inner innerFields type_eq foundInner
  exact inners inner innerFields (mem_embedded_of_mem member type_eq) foundInner

/-- Whether an item takes bytes or not depends on the schema alone. -/
theorem UnitWritten.isUniform (layered : Layered schema.structs)
    (isUniform : form.IsUniform) {item : Item} (first second : Value)
    (bytes others : List UInt8) (writtenFirst : schema.UnitWritten form item first bytes)
    (writtenSecond : schema.UnitWritten form item second others) (empty : bytes = []) :
    others = [] :=
  UnitWritten.empty_of_structs isUniform
    (fun _ _ _ found => FieldsWritten.isUniform layered isUniform found) first second bytes
    others writtenFirst writtenSecond empty

/-- Whether an item and the items of all structs that it leads to have a property. -/
def ThroughoutItem (schema : Schema) (holds : Item → Prop) (item : Item) : Prop :=
  holds item ∧ ∀ name, item.type = .struct name → schema.Throughout holds name

theorem Throughout.throughoutItem {holds : Item → Prop} {name : String} {fields : List Field}
    (throughout : schema.Throughout holds name) (found : schema.fields? name = some fields)
    {field : Field} (member : field ∈ fields) : schema.ThroughoutItem holds field.item :=
  ⟨throughout.item found member, fun _ type_eq =>
    throughout.embedded found (mem_embedded_of_mem member type_eq)⟩

variable {holds : Item → Prop} {other : Form}

mutual

theorem UnitWritten.mono (implies : form.Implies other holds) {item : Item} {value : Value}
    {bytes : List UInt8} (throughout : schema.ThroughoutItem holds item) :
    schema.UnitWritten form item value bytes → schema.UnitWritten other item value bytes
  | .own isOwn written => .own isOwn (implies _ _ _ throughout.1 written)
  | .struct type_eq found written =>
      .struct type_eq found (FieldsWritten.mono implies
        (fun _ member => (throughout.2 _ type_eq).throughoutItem found member) written)

theorem RepeatsWritten.mono (implies : form.Implies other holds) {item : Item}
    {elements : List Value} {bytes : List UInt8}
    (throughout : schema.ThroughoutItem holds item) :
    schema.RepeatsWritten form item elements bytes →
      schema.RepeatsWritten other item elements bytes
  | .nil => .nil
  | .cons first others =>
      .cons (UnitWritten.mono implies throughout first)
        (RepeatsWritten.mono implies throughout others)

theorem ItemWritten.mono (implies : form.Implies other holds) {item : Item}
    {value? : Option Value} {bytes : List UInt8}
    (throughout : schema.ThroughoutItem holds item) :
    schema.ItemWritten form item value? bytes → schema.ItemWritten other item value? bytes
  | .gap isVoid length_eq => .gap isVoid length_eq
  | .single isValue count_eq unit =>
      .single isValue count_eq (UnitWritten.mono implies throughout unit)
  | .array isValue count_ne length_eq repeats bounded =>
      .array isValue count_ne length_eq (RepeatsWritten.mono implies throughout repeats)
        bounded

/-- Fields that are written in one form are written in any form that it implies for all
items that they lead to. -/
theorem FieldsWritten.mono (implies : form.Implies other holds) {fields : List Field}
    {record : Record} {bytes : List UInt8}
    (throughout : ∀ field ∈ fields, schema.ThroughoutItem holds field.item) :
    schema.FieldsWritten form fields record bytes →
      schema.FieldsWritten other fields record bytes
  | .nil => .nil
  | .cons first others =>
      .cons (ItemWritten.mono implies (throughout _ List.mem_cons_self) first)
        (FieldsWritten.mono implies
          (fun _ member => throughout _ (List.mem_cons_of_mem _ member)) others)

end

end

end Schema

end BinaryRecords
