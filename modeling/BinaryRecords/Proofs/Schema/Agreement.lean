import BinaryRecords.Proofs.Schema.Deciding

/-!
# Schemas that agree

A struct means the same in two schemas in which it has the same fields, and so has every
struct that it leads to.  A declaration changes the fields of one struct.  All structs that
do not lead to this one go on to mean what they meant, and those that do lead to it mean what
they meant but for a new meaning of this one, wherever it is embedded.
-/

namespace BinaryRecords

namespace Schema

variable {α : Type} {schema other declared : Schema} {name inner outer : String}
  {fields : List Field} {interpret : (String → Option α) → List Field → α}

/-- Whether a struct and all structs that it leads to have the same fields in another
schema. -/
def AgreesFrom (schema other : Schema) (name : String) : Prop :=
  ∀ inner, Relation.ReflTransGen schema.Embeds name inner →
    other.fields? inner = schema.fields? inner

/-- The meaning of a struct where one of the structs has a given meaning wherever it is
embedded. -/
def meaningWith? (schema : Schema) (interpret : (String → Option α) → List Field → α)
    (replaced : String) (meaning : α) : String → Option α :=
  schema.meaning? fun known => interpret (Function.update known replaced (some meaning))

/-- Induction along the embeddings of a schema, for facts about all names, declared or not. -/
theorem induction_on_name (layered : Layered schema.structs) {motive : String → Prop}
    (step : ∀ name, (∀ fields inner, schema.fields? name = some fields →
      inner ∈ embedded fields → motive inner) → motive name)
    (name : String) : motive name := by
  cases found : schema.fields? name with
  | none =>
      apply step
      intro fields inner foundFields
      rw [found] at foundFields
      cases foundFields
  | some fields =>
      refine induction_on_embedded layered ?_ found
      intro outer outerFields foundOuter inners
      apply step
      intro otherFields inner foundOther
      rw [foundOuter] at foundOther
      cases foundOther
      exact inners inner

namespace AgreesFrom

theorem embedded (agrees : schema.AgreesFrom other name)
    (found : schema.fields? name = some fields) (embeds : inner ∈ embedded fields) :
    schema.AgreesFrom other inner := by
  intro reached path
  exact agrees reached (.head ⟨fields, found, embeds⟩ path)

theorem fields?_eq (agrees : schema.AgreesFrom other name) :
    other.fields? name = schema.fields? name :=
  agrees name .refl

theorem describe_eq (agrees : schema.AgreesFrom other name) :
    other.describe name = schema.describe name := by
  simp only [describe, Schema.fields, agrees.fields?_eq]

/-- A struct means the same in a schema that agrees from it on. -/
theorem meaning?_eq (agrees : schema.AgreesFrom other name) (layered : Layered schema.structs)
    (layeredOther : Layered other.structs) (isLocal : IsLocal interpret) :
    other.meaning? interpret name = schema.meaning? interpret name := by
  refine induction_on_name layered (motive := fun name => schema.AgreesFrom other name →
    other.meaning? interpret name = schema.meaning? interpret name) ?_ name agrees
  intro outer inners agreesOuter
  rw [Schema.meaning?_eq layeredOther isLocal, Schema.meaning?_eq layered isLocal,
    agreesOuter.fields?_eq]
  apply Option.map_congr
  intro outerFields found
  apply isLocal
  intro inner embeds
  exact inners outerFields inner found embeds (agreesOuter.embedded found embeds)

end AgreesFrom

theorem isLocal_update (isLocal : IsLocal interpret) (replaced : String) (meaning : α) :
    IsLocal fun known => interpret (Function.update known replaced (some meaning)) := by
  intro known other fields agree
  apply isLocal
  intro inner embeds
  by_cases isReplaced : inner = replaced
  · simp [isReplaced]
  · simp [isReplaced, agree inner embeds]

section Declaring

variable (success : schema.declare name fields = .ok declared)
include success

theorem fields?_of_declare_of_ne (different : outer ≠ name) :
    declared.fields? outer = schema.fields? outer := by
  obtain ⟨_, _, rfl⟩ := declare_eq_ok_iff.mp success
  exact fieldsOf?_place_of_ne _ different fields

theorem embeds_of_declare_iff (different : outer ≠ name) :
    declared.Embeds outer inner ↔ schema.Embeds outer inner := by
  simp only [Embeds, fields?_of_declare_of_ne success different]

/-- A struct that does not lead to the declared one agrees with what it was. -/
theorem agreesFrom_of_declare (different : outer ≠ name)
    (apart : ¬ Relation.TransGen schema.Embeds outer name) : schema.AgreesFrom declared outer := by
  intro inner path
  apply fields?_of_declare_of_ne success
  rintro rfl
  rcases Relation.reflTransGen_iff_eq_or_transGen.mp path with same | leads
  · exact different same.symm
  · exact apart leads

variable (layered : Layered schema.structs)
include layered

/-- The same structs lead to a struct before and after it is declared. -/
theorem transGen_embeds_of_declare_iff :
    Relation.TransGen declared.Embeds outer name ↔ Relation.TransGen schema.Embeds outer name := by
  -- As no struct leads to itself, the embeddings on the way do not belong to the new struct.
  have carried {first second : Schema} (layeredFirst : Layered first.structs)
      (kept : ∀ {outer inner}, outer ≠ name → first.Embeds outer inner → second.Embeds outer inner)
      (leads : Relation.TransGen first.Embeds outer name) :
      Relation.TransGen second.Embeds outer name := by
    have notName {middle : String} (leads : Relation.TransGen first.Embeds middle name) :
        middle ≠ name := by
      rintro rfl
      exact not_transGen_embeds_self layeredFirst _ leads
    induction leads using Relation.TransGen.head_induction_on with
    | single embeds => exact .single (kept (notName (.single embeds)) embeds)
    | head embeds behind induction =>
        exact .head (kept (notName (.head embeds behind)) embeds) induction
  constructor
  · exact carried (layered_of_declare success layered)
      fun different => (embeds_of_declare_iff success different).mp
  · exact carried layered fun different => (embeds_of_declare_iff success different).mpr

/-- The new fields embed only structs that mean what they meant. -/
theorem meaning?_of_declare (isLocal : IsLocal interpret) :
    declared.meaning? interpret name = some (interpret (schema.meaning? interpret) fields) := by
  have layeredDeclared := layered_of_declare success layered
  obtain ⟨width, depth, _⟩ := declare_eq_ok_iff.mp success
  rw [meaning?_eq layeredDeclared isLocal, fields?_of_declare success]
  apply congrArg some
  apply isLocal
  intro inner embeds
  have agrees := agreesFrom_of_declare success
    (declares_of_checkNames width embeds).1 (not_transGen_of_checkDepth depth embeds)
  exact agrees.meaning?_eq layered layeredDeclared isLocal

/-- All other structs mean what they meant, but for the new meaning of the declared one. -/
theorem meaning?_of_declare_of_ne (isLocal : IsLocal interpret) (different : outer ≠ name) :
    declared.meaning? interpret outer =
      schema.meaningWith? interpret name (interpret (schema.meaning? interpret) fields) outer := by
  have layeredDeclared := layered_of_declare success layered
  have isLocalWith := isLocal_update isLocal name (interpret (schema.meaning? interpret) fields)
  refine induction_on_name layered (motive := fun outer => outer ≠ name →
    declared.meaning? interpret outer = schema.meaningWith? interpret name
      (interpret (schema.meaning? interpret) fields) outer) ?_ outer different
  intro middle inners differentMiddle
  rw [meaningWith?, meaning?_eq layeredDeclared isLocal, meaning?_eq layered isLocalWith,
    fields?_of_declare_of_ne success differentMiddle]
  apply Option.map_congr
  intro middleFields found
  apply isLocal
  intro inner embeds
  by_cases isDeclared : inner = name
  · rw [isDeclared, Function.update_self, meaning?_of_declare success layered isLocal]
  · rw [Function.update_of_ne isDeclared]
    exact inners middleFields inner found embeds isDeclared

end Declaring

end Schema

end BinaryRecords
