import BinaryRecords.Decode.Item
import BinaryRecords.Proofs.Schema.Reachable

/-!
# Decoding structs

Decoding a struct is decoding its fields with the structs that they embed, as
these are declared in the whole schema.
-/

namespace BinaryRecords

section

variable {σ : Type}

theorem Item.decodeUnit?_congr {host : Host σ} {known other : Decoders σ} {item : Item}
    (agree : ∀ name, item.type = .struct name → known name = other name) :
    item.decodeUnit? host known = item.decodeUnit? host other := by
  unfold Item.decodeUnit?
  split
  · rfl
  · rfl
  · rfl
  · rfl
  · rfl
  · rfl
  · rename_i name type_eq
    simp only [decodeStruct, agree name type_eq]

theorem isLocal_decodeFields (host : Host σ) : IsLocal (decodeFields host) := by
  intro known other fields agree
  induction fields with
  | nil => rfl
  | cons field fields induction =>
      have sameUnit : field.item.decodeUnit? host known = field.item.decodeUnit? host other :=
        Item.decodeUnit?_congr fun name type_eq => agree name (mem_embedded_cons_of_type type_eq)
      have sameItem : field.item.decode host known = field.item.decode host other := by
        simp only [Item.decode, sameUnit]
      have sameOthers := induction fun inner embeds => agree inner (mem_embedded_cons embeds)
      simp only [decodeFields, sameItem, sameOthers]

namespace Schema

theorem decoders_eq {schema : Schema} (layered : Layered schema.structs) (host : Host σ)
    (name : String) :
    schema.decoders host name =
      (schema.fields? name).map (decodeFields host (schema.decoders host)) :=
  meaning?_eq layered (isLocal_decodeFields host) name

theorem decodeRecord_of_fields? {schema : Schema} (layered : Layered schema.structs)
    (host : Host σ) {name : String} {fields : List Field}
    (found : schema.fields? name = some fields) :
    schema.decodeRecord host name = decodeFields host (schema.decoders host) fields := by
  simp only [decodeRecord, decodeStruct, decoders_eq layered, found, Option.map_some]

theorem decodeRecord_of_unknown {schema : Schema} (layered : Layered schema.structs) (host : Host σ)
    {name : String} (unknown : schema.fields? name = none) :
    schema.decodeRecord host name = .fail (.structNotFound name) := by
  simp only [decodeRecord, decodeStruct, decoders_eq layered, unknown, Option.map_none]

end Schema

end

end BinaryRecords
