import BinaryRecords.Proofs.Layout.FieldPhrases
import BinaryRecords.Proofs.Schema.Reachable

/-!
# Schemas declared from texts

A layout that is parsed from a text names every field but the gaps, and no two fields
alike.  So do all structs of a schema whose declarations come from such texts, since
declaring a struct adds its fields and changes no others.
-/

namespace BinaryRecords

/-- Whether gaps have no name, and all other fields names of their own. -/
structure AreNamed (fields : List Field) : Prop where
  isSome_name : ∀ field ∈ fields, field.name.isSome = !field.item.isVoid
  distinct : (fields.filterMap Field.name).Nodup

theorem Layout.FieldPhrase.isSome_name {field : Field} {tokens : List Token}
    (phrase : FieldPhrase field tokens) : field.name.isSome = !field.item.isVoid := by
  cases phrase with
  | gap _ isVoid => rw [isVoid]; rfl
  | named _ isValue => rw [isValue]; rfl

theorem areNamed_of_parseFields {text : String} {fields : List Field}
    (parsed : Layout.parseFields text = .ok fields) : AreNamed fields := by
  obtain ⟨_, ⟨phrases, reading, rfl⟩, distinct⟩ := Layout.exists_reading_of_parseFields parsed
  refine ⟨?_, distinct⟩
  intro field member
  obtain ⟨phrase, memberPhrase, rfl⟩ := List.mem_map.mp member
  exact (reading.spelled phrase memberPhrase).isSome_name

theorem mem_place {structs : List Struct} {name : String} {fields : List Field}
    {struct : Struct} (member : struct ∈ place structs name fields) :
    struct = ⟨name, fields⟩ ∨ struct ∈ structs := by
  rcases List.mem_append.mp member with inFront | others
  · exact Or.inr (List.mem_filter.mp inFront).1
  · rcases List.mem_cons.mp others with isNew | behind
    · exact Or.inl isNew
    · exact Or.inr (List.mem_filter.mp behind).1

namespace Schema

/-- Whether a schema comes about by declarations whose fields are parsed from texts. -/
def IsFromTexts (schema : Schema) : Prop :=
  ∃ history, ofHistory history = schema ∧
    ∀ name fields, Operation.declare name fields ∈ history →
      ∃ text, Layout.parseFields text = .ok fields

section

variable {holds : Struct → Prop}

/-- One operation adds no other structs than those it declares. -/
theorem forall_structs_perform {schema : Schema} {operation : Operation}
    (all : ∀ struct ∈ schema.structs, holds struct)
    (declared : ∀ name fields, operation = .declare name fields → holds ⟨name, fields⟩) :
    ∀ struct ∈ (schema.perform operation).structs, holds struct := by
  cases operation with
  | clear =>
      intro struct member
      cases member
  | declare name fields =>
      simp only [perform]
      cases outcome : schema.declare name fields with
      | error failure => exact all
      | ok after =>
          obtain ⟨_, _, rfl⟩ := declare_eq_ok_iff.mp outcome
          intro struct member
          rcases mem_place member with rfl | memberBefore
          · exact declared name fields rfl
          · exact all struct memberBefore

theorem forall_structs_foldl_perform {schema : Schema} {history : List Operation}
    (all : ∀ struct ∈ schema.structs, holds struct)
    (declared : ∀ name fields, Operation.declare name fields ∈ history → holds ⟨name, fields⟩) :
    ∀ struct ∈ (history.foldl perform schema).structs, holds struct := by
  induction history generalizing schema with
  | nil => exact all
  | cons operation history induction =>
      apply induction
      · apply forall_structs_perform all
        rintro name fields rfl
        exact declared name fields List.mem_cons_self
      · intro name fields member
        exact declared name fields (List.mem_cons_of_mem _ member)

end

theorem IsFromTexts.layered {schema : Schema} (fromTexts : schema.IsFromTexts) :
    Layered schema.structs := by
  obtain ⟨history, ofHistory_eq, _⟩ := fromTexts
  exact Reachable.layered ⟨history, ofHistory_eq⟩

theorem IsFromTexts.areNamed {schema : Schema} (fromTexts : schema.IsFromTexts)
    {name : String} {fields : List Field} (found : schema.fields? name = some fields) :
    AreNamed fields := by
  obtain ⟨history, rfl, declared⟩ := fromTexts
  have noStruct : ∀ struct ∈ empty.structs, AreNamed struct.fields := nofun
  have all : ∀ struct ∈ (ofHistory history).structs, AreNamed struct.fields := by
    apply forall_structs_foldl_perform noStruct
    intro name fields member
    obtain ⟨text, parsed⟩ := declared name fields member
    exact areNamed_of_parseFields parsed
  obtain ⟨struct, member, _, rfl⟩ := exists_mem_of_fieldsOf? found
  exact all struct member

theorem isFromTexts_taggedPairs : taggedPairs.IsFromTexts := by
  refine ⟨_, ofHistory_taggedPairs, ?_⟩
  intro name fields member
  rcases List.mem_cons.mp member with isPair | others
  · cases isPair
    exact ⟨"u8:first void#1*2 i16:second", by decide +kernel⟩
  · rcases List.mem_cons.mp others with isTagged | none
    · cases isTagged
      exact ⟨"pair*2:pairs str#3:tag", by decide +kernel⟩
    · cases none

end Schema

end BinaryRecords
