import BinaryRecords.Proofs.Schema.Reachable
import BinaryRecords.Value.Basic

/-!
# Schedules of calls

Which functions of a host a layout calls, and in which order, follows from the schema
alone: an item that calls a function contributes its name, a struct all that its fields
contribute, and each as often as the item is repeated.  The values of the calls stand
in the decoded values in the same order.
-/

namespace BinaryRecords

namespace Item

/-- The calls for one repetition of an item, where those for structs are given. -/
def unitSchedule (structs : String → List String) (item : Item) : List String :=
  match item.type with
  | .builtin _ => []
  | .call function => [function]
  | .struct name => structs name

/-- The calls for all repetitions of an item. -/
def schedule (structs : String → List String) (item : Item) : List String :=
  (List.replicate item.count.toNat (item.unitSchedule structs)).flatten

/-- The parts of the value of one repetition of an item that come from calls, where
those of the records of structs are given. -/
def unitReturned (structs : String → Record → List Value) (item : Item) (value : Value) :
    List Value :=
  match item.type with
  | .builtin _ => []
  | .call _ => [value]
  | .struct name => value.record?.toList.flatMap (structs name)

/-- The parts of the value of an item that come from calls. -/
def returned (structs : String → Record → List Value) (item : Item) (value : Value) :
    List Value :=
  if item.count = 1 then
    item.unitReturned structs value
  else
    (value.elements?.getD []).flatMap (item.unitReturned structs)

end Item

/-- The parts of the values of some items that come from calls.  Gaps have no value. -/
def itemsReturned (structs : String → Record → List Value) (items : List Item)
    (values : List Value) : List Value :=
  ((items.filter fun item => !item.isVoid).zip values).flatMap fun (item, value) =>
    item.returned structs value

namespace Schema

/-- The calls for one instance of a struct. -/
def structSchedule (schema : Schema) (name : String) : List String :=
  (schema.meaning? (fun known fields => fields.flatMap fun field =>
    field.item.schedule fun inner => (known inner).getD []) name).getD []

/-- The calls for some items. -/
def schedule (schema : Schema) (items : List Item) : List String :=
  items.flatMap (Item.schedule schema.structSchedule)

/-- The parts of a record of a struct that come from calls. -/
def structReturned (schema : Schema) (name : String) : Record → List Value :=
  (schema.meaning? (fun known fields record =>
    itemsReturned (fun inner => (known inner).getD fun _ => []) (fields.map Field.item)
      (record.map Prod.snd)) name).getD fun _ => []

/-- The parts of the values of some items that come from calls. -/
def returned (schema : Schema) (items : List Item) (values : List Value) : List Value :=
  itemsReturned schema.structReturned items values

end Schema

theorem Item.schedule_congr {known other : String → List String} {item : Item}
    (agree : ∀ name, item.type = .struct name → known name = other name) :
    item.schedule known = item.schedule other := by
  have sameUnit : item.unitSchedule known = item.unitSchedule other := by
    obtain ⟨type, length, count⟩ := item
    cases type with
    | builtin type => rfl
    | call function => rfl
    | struct name => exact agree name rfl
  simp only [Item.schedule, sameUnit]

theorem Item.returned_congr {known other : String → Record → List Value} {item : Item}
    (agree : ∀ name, item.type = .struct name → known name = other name) :
    item.returned known = item.returned other := by
  have sameUnit : item.unitReturned known = item.unitReturned other := by
    obtain ⟨type, length, count⟩ := item
    funext value
    cases type with
    | builtin type => rfl
    | call function => rfl
    | struct name => simp only [Item.unitReturned, agree name rfl]
  funext value
  simp only [Item.returned, sameUnit]

theorem Item.schedule_of_builtin {structs : String → List String} {item : Item}
    {type : BuiltinType} (type_eq : item.type = .builtin type) :
    item.schedule structs = [] := by
  simp [schedule, unitSchedule, type_eq]

theorem Item.schedule_of_single {structs : String → List String} {item : Item}
    (count_eq : item.count = 1) : item.schedule structs = item.unitSchedule structs := by
  simp [schedule, count_eq]

/-- An item that is no gap has the first of the values. -/
theorem itemsReturned_cons {structs : String → Record → List Value} {item : Item}
    {value? : Option Value} (isNone_eq : value?.isNone = item.isVoid) (items : List Item)
    (values : List Value) :
    itemsReturned structs (item :: items) (value?.toList ++ values) =
      value?.toList.flatMap (item.returned structs) ++ itemsReturned structs items values := by
  cases value? with
  | none =>
      have isGap : item.isVoid = true := isNone_eq.symm
      simp [itemsReturned, isGap]
  | some value =>
      have isValue : item.isVoid = false := isNone_eq.symm
      simp [itemsReturned, isValue]

theorem isLocal_schedule : IsLocal fun known fields =>
    fields.flatMap fun field => field.item.schedule fun inner => (known inner).getD [] := by
  intro known other fields agree
  apply congrArg List.flatten
  apply List.map_congr_left
  intro field member
  exact Item.schedule_congr fun name type_eq =>
    congrArg (Option.getD · []) (agree name (mem_embedded_of_mem member type_eq))

theorem isLocal_returned : IsLocal fun known fields (record : Record) =>
    itemsReturned (fun inner => (known inner).getD fun _ => []) (fields.map Field.item)
      (record.map Prod.snd) := by
  intro known other fields agree
  funext record
  apply congrArg List.flatten
  apply List.map_congr_left
  rintro ⟨item, value⟩ member
  obtain ⟨field, memberField, rfl⟩ :=
    List.mem_map.mp (List.mem_filter.mp (List.of_mem_zip member).1).1
  have sameItem := Item.returned_congr fun name type_eq =>
    congrArg (Option.getD · fun _ => []) (agree name (mem_embedded_of_mem memberField type_eq))
  exact congrFun sameItem value

namespace Schema

variable {schema : Schema}

/-- The schedule of a struct is that of its fields. -/
theorem structSchedule_of_fields? (layered : Layered schema.structs) {name : String}
    {fields : List Field} (found : schema.fields? name = some fields) :
    schema.structSchedule name = schema.schedule (fields.map Field.item) := by
  unfold structSchedule
  rw [meaning?_eq layered isLocal_schedule, found]
  simp only [schedule, List.flatMap_map]
  rfl

theorem structReturned_of_fields? (layered : Layered schema.structs) {name : String}
    {fields : List Field} (found : schema.fields? name = some fields) (record : Record) :
    schema.structReturned name record =
      schema.returned (fields.map Field.item) (record.map Prod.snd) := by
  unfold structReturned
  rw [meaning?_eq layered isLocal_returned, found]
  rfl

end Schema

end BinaryRecords
