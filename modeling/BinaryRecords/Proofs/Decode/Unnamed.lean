import BinaryRecords.Proofs.Decode.Items
import BinaryRecords.Proofs.Decode.Structs
import Mathlib.Tactic.Common

/-!
# Structs read as items

Fields are decoded as their items are, one after the other, and only then given their
names.  So a struct can be read as the list of its items, or as a single item, with the
same outcome.
-/

namespace BinaryRecords

variable {σ α β : Type}

/-- The values of fields are those of their items. -/
theorem decodeItems_map_item (host : Host σ) (decoders : Decoders σ) (fields : List Field) :
    decodeItems host decoders (fields.map Field.item) =
      List.map Prod.snd <$> decodeFields host decoders fields := by
  induction fields with
  | nil => rfl
  | cons field fields induction =>
      rw [List.map_cons, decodeItems, decodeFields, induction, map_bind]
      apply bind_congr
      intro value?
      have forgetNames (entries : Record) :
          (value?.toList.map (fun value => (field.name.getD "", value)) ++ entries).map Prod.snd =
            value?.toList ++ entries.map Prod.snd := by
        cases value? <;> rfl
      simp only [bind_pure_comp, Functor.map_map, forgetNames]

/-- A result that is given in another way changes nothing else about the outcome. -/
theorem Source.decode_map (source : Source) (present : α → β) (action : Decoding σ α)
    (state : σ) :
    source.decode (present <$> action) state =
      ((source.decode action state).1.map present, (source.decode action state).2) := by
  unfold Source.decode
  rcases run : action source.cursor state with ⟨failure | ⟨result, after⟩, afterState⟩
  · have mapped : (present <$> action) source.cursor state = (.error failure, afterState) :=
      Decoding.bind_of_error run
    simp only [mapped, Except.map]
  · simp only [Decoding.map_of_ok run, Except.map]

namespace Schema

variable {schema : Schema}

theorem decodeItems_of_fields? (layered : Layered schema.structs) (host : Host σ)
    {name : String} {fields : List Field} (found : schema.fields? name = some fields) :
    schema.decodeItems host (fields.map Field.item) =
      List.map Prod.snd <$> schema.decodeRecord host name := by
  rw [decodeRecord_of_fields? layered host found]
  exact decodeItems_map_item host (schema.decoders host) fields

/-- A single item has its value as the only one, unless it is a gap. -/
theorem decodeItems_singleton (schema : Schema) (host : Host σ) (item : Item) :
    schema.decodeItems host [item] =
      Option.toList <$> item.decode host (schema.decoders host) := by
  simp only [decodeItems, BinaryRecords.decodeItems, bind_pure_comp, map_pure, List.append_nil]

theorem decodeItems_single_struct (schema : Schema) (host : Host σ) (name : String) :
    schema.decodeItems host [{ type := .struct name }] =
      (fun record => [.record record]) <$> schema.decodeRecord host name := by
  have unit : ({ type := .struct name } : Item).decodeUnit? host (schema.decoders host) =
      some (Value.record <$> schema.decodeRecord host name) := rfl
  rw [decodeItems_singleton, Item.decode_of_single unit rfl, Functor.map_map, Functor.map_map]
  rfl

end Schema

end BinaryRecords
