import BinaryRecords.Proofs.Decode.Failures

/-!
# Who refuses an array

An array without bytes is refused in the name of its item.  Arrays inside the structs that
an item embeds are refused in the name of other items, as no struct leads back to itself.
So the refusal of an array is never one of its own repetitions.
-/

namespace BinaryRecords

variable {σ α : Type} {allowed : Error → Prop}

namespace Decoding

theorem FailsOnly.map {β : Type} {decode : Decoding σ α} (fails : decode.FailsOnly allowed)
    (function : α → β) : (function <$> decode).FailsOnly allowed :=
  fails.bind fun result => failsOnly_pure (function result)

theorem FailsOnly.repeated {decode : Decoding σ α} (fails : decode.FailsOnly allowed)
    (count : Nat) (resultsReverse : List α) :
    (decode.repeated count resultsReverse).FailsOnly allowed := by
  induction count generalizing resultsReverse with
  | zero => exact failsOnly_pure _
  | succ count induction =>
      rw [repeated_succ]
      exact fails.bind fun result => induction (result :: resultsReverse)

end Decoding

section

variable {host : Host σ} {decoders : Decoders σ}

/-- A repetition of an item that embeds no struct fails as its read or its call does. -/
theorem Item.failsOnly_decodeUnit? {item : Item} {unit : Decoding σ Value}
    (isOwn : item.type.structName? = none)
    (isUnit : item.decodeUnit? host decoders = some unit) :
    unit.FailsOnly Error.IsOfUnit := by
  obtain ⟨type, length, count⟩ := item
  cases type with
  | builtin type =>
      cases type with
      | void => cases isUnit
      | integer type | float type =>
          cases isUnit
          exact (Decoding.failsOnly_ofRead fun _ _ failed =>
            isOfUnit_of_map_readBytes failed).map _
      | string =>
          cases isUnit
          exact (Decoding.failsOnly_ofRead fun _ _ failed => isOfUnit_of_readString failed).map _
      | wideString =>
          cases isUnit
          exact (Decoding.failsOnly_ofRead fun _ _ failed =>
            isOfUnit_of_readWideString failed).map _
  | call function =>
      cases isUnit
      exact Decoding.failsOnly_call host function
  | struct name => cases isOwn

theorem Item.failsOnly_decode {item : Item}
    (units : ∀ unit, item.decodeUnit? host decoders = some unit → unit.FailsOnly allowed)
    (ofUnit : ∀ failure : Error, failure.IsOfUnit → allowed failure)
    (refused : allowed (.emptyRepeat item.type item.count)) :
    (item.decode host decoders).FailsOnly allowed := by
  cases isUnit : item.decodeUnit? host decoders with
  | none =>
      rw [decode_of_none isUnit]
      exact (Decoding.failsOnly_ofRead fun _ failure failed =>
        ofUnit failure (isOfUnit_of_skipVoid failed)).map _
  | some unit =>
      have fails := units unit isUnit
      by_cases count_eq : item.count = 1
      · rw [decode_of_single isUnit count_eq]
        exact fails.map _
      · rw [decode_of_array isUnit count_eq]
        exact (failsOnly_decodeArray fails fails.repeated refused).map _

theorem failsOnly_decodeFields {fields : List Field}
    (items : ∀ field ∈ fields, (field.item.decode host decoders).FailsOnly allowed) :
    (decodeFields host decoders fields).FailsOnly allowed := by
  induction fields with
  | nil => exact Decoding.failsOnly_pure _
  | cons field fields induction =>
      have others := induction fun other member => items other (List.mem_cons_of_mem _ member)
      exact (items field List.mem_cons_self).bind fun value? => others.map _

end

namespace Schema

variable {schema : Schema} {host : Host σ}

/-- Whether a failure, if it refuses an array of a struct, refuses one of a struct that a
given one leads to. -/
def RefusesBelow (schema : Schema) (name : String) (failure : Error) : Prop :=
  ∀ inner count, failure = .emptyRepeat (.struct inner) count →
    Relation.TransGen schema.Embeds name inner

theorem refusesBelow_of_isOfUnit {name : String} {failure : Error} (isOfUnit : failure.IsOfUnit) :
    schema.RefusesBelow name failure := by
  rintro inner count rfl
  cases isOfUnit

theorem failsOnly_refusesBelow (layered : Layered schema.structs) (host : Host σ)
    {name : String} {fields : List Field} (found : schema.fields? name = some fields) :
    (schema.decodeRecord host name).FailsOnly (schema.RefusesBelow name) := by
  refine induction_on_embedded layered
    (motive := fun name =>
      (schema.decodeRecord host name).FailsOnly (schema.RefusesBelow name)) ?_ found
  intro outer outerFields foundOuter inners
  rw [decodeRecord_of_fields? layered host foundOuter]
  apply failsOnly_decodeFields
  intro field member
  have embeds {inner : String} (type_eq : field.item.type = .struct inner) :
      schema.Embeds outer inner :=
    ⟨outerFields, foundOuter, mem_embedded_of_mem member type_eq⟩
  refine Item.failsOnly_decode ?_ (fun _ => refusesBelow_of_isOfUnit) ?_
  · intro unit isUnit
    cases type_eq : field.item.type.structName? with
    | none =>
        exact (Item.failsOnly_decodeUnit? type_eq isUnit).mono
          fun _ => refusesBelow_of_isOfUnit
    | some inner =>
        have isStruct := ItemType.structName?_eq_some_iff.mp type_eq
        cases (Item.decodeUnit?_of_struct isStruct).symm.trans isUnit
        have fails := inners inner (mem_embedded_of_mem member isStruct)
        refine (fails.mono ?_).map Value.record
        intro failure below innermost count failure_eq
        exact (Relation.TransGen.single (embeds isStruct)).trans (below innermost count failure_eq)
  · intro inner count failure_eq
    obtain ⟨type_eq, _⟩ := Error.emptyRepeat.inj failure_eq
    exact .single (embeds type_eq)

/-- No repetition of an item fails as an array of the item is refused. -/
theorem failsOnly_ne_emptyRepeat (layered : Layered schema.structs) {item : Item}
    {unit : Decoding σ Value}
    (isUnit : item.decodeUnit? host (schema.decoders host) = some unit) :
    unit.FailsOnly fun failure => failure ≠ .emptyRepeat item.type item.count := by
  cases type_eq : item.type.structName? with
  | none =>
      refine (Item.failsOnly_decodeUnit? type_eq isUnit).mono ?_
      rintro failure isOfUnit rfl
      cases isOfUnit
  | some name =>
      have isStruct := ItemType.structName?_eq_some_iff.mp type_eq
      cases (Item.decodeUnit?_of_struct isStruct).symm.trans isUnit
      change (Value.record <$> schema.decodeRecord host name).FailsOnly _
      cases found : schema.fields? name with
      | none =>
          rw [decodeRecord_of_unknown layered host found]
          exact (Decoding.failsOnly_fail nofun).map _
      | some fields =>
          refine ((failsOnly_refusesBelow layered host found).mono ?_).map _
          rintro failure below failure_eq
          rw [isStruct] at failure_eq
          exact not_transGen_embeds_self layered name (below name item.count failure_eq)

/-- An array is refused exactly if there are too many repetitions and the first one
succeeds without moving the cursor. -/
theorem decodeArray_eq_emptyRepeat_iff (layered : Layered schema.structs) {item : Item}
    {unit : Decoding σ Value}
    (isUnit : item.decodeUnit? host (schema.decoders host) = some unit) (cursor : Cursor)
    (state : σ) :
    (item.decodeArray unit cursor state).1 = .error (.emptyRepeat item.type item.count) ↔
      largestEmptyRepeat < item.count.toNat ∧ ∃ value after endState,
        unit cursor state = (.ok (value, after), endState) ∧ after.position = cursor.position := by
  have fails := failsOnly_ne_emptyRepeat layered isUnit
  constructor
  · intro refused
    cases count_eq : item.count.toNat with
    | zero =>
        rw [Item.decodeArray_of_zero count_eq] at refused
        cases refused
    | succ others =>
        rcases run : unit cursor state with ⟨failure | ⟨first, after⟩, endState⟩
        · rw [Item.decodeArray_of_error count_eq run] at refused
          exact absurd (Except.error.inj refused) (fails cursor state failure endState run)
        · by_cases stays : after.position = cursor.position ∧ largestEmptyRepeat < item.count.toNat
          · exact ⟨count_eq ▸ stays.2, first, after, endState, rfl, stays.1⟩
          · -- The repetitions after an accepted one fail as any of them does.
            rw [Item.decodeArray_of_ok count_eq run stays] at refused
            rcases runOthers : unit.repeated others [first] after endState with
              ⟨failure | found, lastState⟩
            · rw [runOthers] at refused
              exact absurd (Except.error.inj refused)
                (fails.repeated others [first] after endState failure lastState runOthers)
            · rw [runOthers] at refused
              cases refused
  · rintro ⟨exceeds, value, after, endState, run, stays⟩
    have count_eq : item.count.toNat = item.count.toNat - 1 + 1 := by omega
    rw [Item.decodeArray_of_empty count_eq run ⟨stays, exceeds⟩]

end Schema

end BinaryRecords
