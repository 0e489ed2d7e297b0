import BinaryRecords.Proofs.Decode.Items
import BinaryRecords.Proofs.Schema.Reachable

/-!
# Properties of composed decodings

Items, fields and structs are decoded by few means: reads, calls, arrays, and one
decoding after another.  A property of decodings that all of these preserve holds of
everything that a schema decodes.  This is the one induction over structs, fields and
items that such properties have in common.
-/

namespace BinaryRecords

variable {σ : Type}

/-- A property of decodings that holds of reads and calls, and is preserved by sequences
and arrays. -/
structure Decoding.IsCompositional (host : Host σ)
    (holds : (α : Type) → Decoding σ α → Prop) : Prop where
  pure : ∀ {α : Type} (result : α), holds α (pure result)
  bind : ∀ {α β : Type} {first : Decoding σ α} {next : α → Decoding σ β},
    holds α first → (∀ result, holds β (next result)) → holds β (first >>= next)
  readInteger : ∀ type, holds Int64 (.ofRead (Cursor.readInteger type))
  readFloat : ∀ type, holds Binary64 (.ofRead (Cursor.readFloat type))
  readString : ∀ length, holds (List UInt8) (.ofRead (Cursor.readString length))
  readWideString : ∀ length, holds (List UInt8) (.ofRead (Cursor.readWideString length))
  skipVoid : ∀ item : Item, holds Unit (.ofRead item.skipVoid)
  call : ∀ function, holds Value (.call host function)
  array : ∀ (item : Item) {unit : Decoding σ Value}, holds Value unit →
    (∀ count resultsReverse, holds (List Value) (unit.repeated count resultsReverse)) →
      holds (List Value) (item.decodeArray unit)

namespace Decoding.IsCompositional

variable {host : Host σ} {holds : (α : Type) → Decoding σ α → Prop}
  {decoders : Decoders σ}

section

variable (compositional : IsCompositional host holds)
include compositional

theorem map {α β : Type} {decode : Decoding σ α} (holdsDecode : holds α decode)
    (function : α → β) : holds β (function <$> decode) :=
  compositional.bind holdsDecode fun result => compositional.pure (function result)

theorem repeated {α : Type} {decode : Decoding σ α} (holdsDecode : holds α decode)
    (count : Nat) (resultsReverse : List α) :
    holds (List α) (decode.repeated count resultsReverse) := by
  induction count generalizing resultsReverse with
  | zero => exact compositional.pure _
  | succ count induction =>
      rw [repeated_succ]
      exact compositional.bind holdsDecode fun result => induction (result :: resultsReverse)

theorem decodeUnit? {item : Item} {unit : Decoding σ Value}
    (structs : ∀ name, item.type = .struct name → holds Record (decodeStruct decoders name))
    (isUnit : item.decodeUnit? host decoders = some unit) : holds Value unit := by
  obtain ⟨type, length, count⟩ := item
  cases type with
  | builtin type =>
      cases type with
      | void => cases isUnit
      | integer type =>
          cases isUnit
          exact compositional.map (compositional.readInteger type) _
      | float type =>
          cases isUnit
          exact compositional.map (compositional.readFloat type) _
      | string =>
          cases isUnit
          exact compositional.map (compositional.readString _) _
      | wideString =>
          cases isUnit
          exact compositional.map (compositional.readWideString _) _
  | call function =>
      cases isUnit
      exact compositional.call function
  | struct name =>
      cases isUnit
      exact compositional.map (structs name rfl) _

theorem decodeItem {item : Item}
    (structs : ∀ name, item.type = .struct name → holds Record (decodeStruct decoders name)) :
    holds (Option Value) (item.decode host decoders) := by
  cases isUnit : item.decodeUnit? host decoders with
  | none =>
      rw [Item.decode_of_none isUnit]
      exact compositional.map (compositional.skipVoid item) _
  | some unit =>
      have holdsUnit := compositional.decodeUnit? structs isUnit
      by_cases count_eq : item.count = 1
      · rw [Item.decode_of_single isUnit count_eq]
        exact compositional.map holdsUnit _
      · rw [Item.decode_of_array isUnit count_eq]
        exact compositional.map
          (compositional.array item holdsUnit (compositional.repeated holdsUnit)) _

theorem decodeItems {items : List Item}
    (structs : ∀ item ∈ items, ∀ name, item.type = .struct name →
      holds Record (decodeStruct decoders name)) :
    holds (List Value) (BinaryRecords.decodeItems host decoders items) := by
  induction items with
  | nil => exact compositional.pure _
  | cons item items induction =>
      refine compositional.bind (compositional.decodeItem (structs item List.mem_cons_self)) ?_
      intro value?
      exact compositional.map
        (induction fun other member => structs other (List.mem_cons_of_mem _ member)) _

theorem decodeFields {fields : List Field}
    (structs : ∀ name ∈ embedded fields, holds Record (decodeStruct decoders name)) :
    holds Record (BinaryRecords.decodeFields host decoders fields) := by
  induction fields with
  | nil => exact compositional.pure _
  | cons field fields induction =>
      refine compositional.bind (compositional.decodeItem fun name type_eq =>
        structs name (mem_embedded_cons_of_type type_eq)) ?_
      intro value?
      exact compositional.map
        (induction fun name embeds => structs name (mem_embedded_cons embeds)) _

end

section

variable (compositional : IsCompositional host holds)
  (unknown : ∀ name, holds Record (.fail (.structNotFound name)))
include compositional unknown

/-- A struct is decoded by the structs behind it, down to those that are unknown. -/
theorem decodeRecord (schema : Schema) (name : String) :
    holds Record (schema.decodeRecord host name) := by
  obtain ⟨structs⟩ := schema
  induction structs generalizing name with
  | nil => exact unknown name
  | cons struct behind induction =>
      by_cases same : name = struct.name
      · subst same
        simp only [Schema.decodeRecord, Schema.decoders, Schema.meaning?, meanings, decodeStruct,
          List.lookup_cons_self]
        exact compositional.decodeFields fun inner _ => induction inner
      · simp only [Schema.decodeRecord, Schema.decoders, Schema.meaning?, meanings, decodeStruct,
          List.lookup_cons, beq_false_of_ne same]
        exact induction name

theorem decodeSchemaItems (schema : Schema) (items : List Item) :
    holds (List Value) (schema.decodeItems host items) :=
  compositional.decodeItems fun _ _ name _ => compositional.decodeRecord unknown schema name

end

end Decoding.IsCompositional

end BinaryRecords
