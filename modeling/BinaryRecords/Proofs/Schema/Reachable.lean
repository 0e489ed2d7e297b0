import BinaryRecords.Schema.Order
import Mathlib.Logic.Relation

/-!
# Schemas that come about

A schema starts without structs and changes only by declarations, which may
fail, and by forgetting all structs.  Whatever the history, the graph of
embeddings is closed and has no cycle, so a fact about structs may be proved by
induction along it: for a struct once it holds for all that the struct embeds.
-/

namespace BinaryRecords

theorem ItemType.structName?_eq_some_iff {type : ItemType} {name : String} :
    type.structName? = some name ↔ type = .struct name := by
  cases type <;> simp [structName?]

theorem mem_embedded_of_mem {field : Field} {fields : List Field} {name : String}
    (member : field ∈ fields) (type_eq : field.item.type = .struct name) :
    name ∈ embedded fields := by
  apply List.mem_filterMap.mpr
  exact ⟨field, member, ItemType.structName?_eq_some_iff.mpr type_eq⟩

theorem mem_embedded_cons_of_type {field : Field} {fields : List Field} {name : String}
    (type_eq : field.item.type = .struct name) : name ∈ embedded (field :: fields) :=
  mem_embedded_of_mem List.mem_cons_self type_eq

theorem mem_embedded_cons {field : Field} {fields : List Field} {name : String}
    (embeds : name ∈ embedded fields) : name ∈ embedded (field :: fields) := by
  simp only [embedded, List.filterMap_cons] at embeds ⊢
  split
  · exact embeds
  · exact List.mem_cons_of_mem _ embeds

theorem declares_eq_true_iff_fieldsOf? {structs : List Struct} {name : String} :
    declares structs name = true ↔ ∃ fields, fieldsOf? structs name = some fields := by
  constructor
  · intro declared
    obtain ⟨struct, member, named⟩ := declares_iff.mp declared
    have found : (structs.find? fun struct => struct.name == name).isSome := by
      rw [List.find?_isSome]
      exact ⟨struct, member, by simp [named]⟩
    obtain ⟨first, foundFirst⟩ := Option.isSome_iff_exists.mp found
    exact ⟨first.fields, by simp [fieldsOf?, foundFirst]⟩
  · rintro ⟨fields, found⟩
    exact declares_of_fieldsOf? found

theorem fieldsOf?_cons_of_declares {first : Struct} {behind : List Struct}
    (layered : Layered (first :: behind)) {name : String}
    (declared : declares behind name = true) :
    fieldsOf? (first :: behind) name = fieldsOf? behind name := by
  have different : first.name ≠ name := by
    rintro rfl
    rw [layered.1] at declared
    cases declared
  rw [fieldsOf?_cons, if_neg different]

/-- Induction along the embeddings of a layered list. -/
theorem Layered.induction_on_embedded {structs : List Struct} (layered : Layered structs)
    {motive : String → Prop}
    (step : ∀ name fields, fieldsOf? structs name = some fields →
      (∀ inner ∈ embedded fields, motive inner) → motive name)
    {name : String} (declared : declares structs name = true) : motive name := by
  induction structs generalizing name with
  | nil => cases declared
  | cons first behind induction =>
      have motiveBehind : ∀ inner, declares behind inner = true → motive inner := by
        intro inner declaredBehind
        apply induction layered.2.2 _ declaredBehind
        intro other fields found
        apply step
        rw [fieldsOf?_cons_of_declares layered (declares_of_fieldsOf? found), found]
      by_cases isFirst : first.name = name
      · subst isFirst
        apply step first.name first.fields
        · simp [fieldsOf?_cons]
        · intro inner embeds
          exact motiveBehind inner (layered.2.1 inner embeds)
      · apply motiveBehind
        simpa [declares, isFirst] using declared

namespace Schema

/-- What can be done to a schema. -/
inductive Operation
  | declare (name : String) (fields : List Field)
  | clear
  deriving DecidableEq, Inhabited

/-- The schema after an operation, which is the same if a declaration fails. -/
def perform (schema : Schema) : Operation → Schema
  | .declare name fields =>
      match schema.declare name fields with
      | .ok declared => declared
      | .error _ => schema
  | .clear => .empty

/-- The schema that a history of operations leads to. -/
def ofHistory (history : List Operation) : Schema :=
  history.foldl perform .empty

/-- Whether some history of operations leads to a schema. -/
def Reachable (schema : Schema) : Prop :=
  ∃ history, ofHistory history = schema

/-- Whether a field of one struct embeds another. -/
def Embeds (schema : Schema) (outer inner : String) : Prop :=
  ∃ fields, schema.fields? outer = some fields ∧ inner ∈ embedded fields

theorem declare_eq_ok_iff {schema declared : Schema} {name : String}
    {fields : List Field} :
    schema.declare name fields = .ok declared ↔
      checkWidth schema.structs name fields = .ok () ∧
        checkDepth schema.structs name fields = .ok () ∧
          declared = ⟨place schema.structs name fields⟩ := by
  unfold declare
  cases width : checkWidth schema.structs name fields with
  | error failure => simp [bind, Except.bind]
  | ok _ =>
      cases depth : checkDepth schema.structs name fields with
      | error failure => simp [bind, Except.bind]
      | ok _ => simp [bind, Except.bind, eq_comm]

/-- From fields that embed no struct nothing can be followed. -/
theorem checkDepth_of_embedded_eq_nil {structs : List Struct} {name : String}
    {fields : List Field} (embedsNone : embedded fields = []) :
    checkDepth structs name fields = .ok () := by
  rw [checkDepth, embeddingsReverse, embedsNone, List.map_nil, List.reverse_nil, checkEmbeddings]

/-- A struct that embeds none can be declared under every name. -/
theorem declare_of_embedded_eq_nil {schema : Schema} {name : String} {fields : List Field}
    (embedsNone : embedded fields = []) :
    schema.declare name fields = .ok ⟨place schema.structs name fields⟩ := by
  refine declare_eq_ok_iff.mpr ⟨?_, checkDepth_of_embedded_eq_nil embedsNone, rfl⟩
  rw [checkWidth, embedsNone, checkNames]

theorem perform_declare {schema : Schema} {name : String} {fields : List Field}
    (width : checkWidth schema.structs name fields = .ok ())
    (depth : checkDepth schema.structs name fields = .ok ()) :
    schema.perform (.declare name fields) = ⟨place schema.structs name fields⟩ := by
  simp only [perform, declare_eq_ok_iff.mpr ⟨width, depth, rfl⟩]

theorem layered_of_declare {schema declared : Schema} {name : String} {fields : List Field}
    (success : schema.declare name fields = .ok declared) (layered : Layered schema.structs) :
    Layered declared.structs := by
  obtain ⟨width, depth, rfl⟩ := declare_eq_ok_iff.mp success
  exact layered.place width depth

/-- One operation keeps the structs layered. -/
theorem layered_perform {schema : Schema} (layered : Layered schema.structs)
    (operation : Operation) : Layered (schema.perform operation).structs := by
  cases operation with
  | declare name fields =>
      simp only [perform]
      cases outcome : schema.declare name fields with
      | error failure => exact layered
      | ok declared => exact layered_of_declare outcome layered
  | clear => trivial

theorem layered_foldl_perform {schema : Schema} (layered : Layered schema.structs)
    (history : List Operation) : Layered (history.foldl perform schema).structs := by
  induction history generalizing schema with
  | nil => exact layered
  | cons operation history induction =>
      exact induction (layered_perform layered operation)

theorem Reachable.layered {schema : Schema} (reachable : schema.Reachable) :
    Layered schema.structs := by
  obtain ⟨history, rfl⟩ := reachable
  have layeredEmpty : Layered empty.structs := trivial
  exact layered_foldl_perform layeredEmpty history

theorem Reachable.of_declare {schema declared : Schema} {name : String} {fields : List Field}
    (reachable : schema.Reachable) (success : schema.declare name fields = .ok declared) :
    declared.Reachable := by
  obtain ⟨history, rfl⟩ := reachable
  refine ⟨history ++ [.declare name fields], ?_⟩
  unfold ofHistory at success ⊢
  simp only [List.foldl_append, List.foldl_cons, List.foldl_nil, perform, success]

theorem contains_iff {schema : Schema} {name : String} :
    schema.contains name = true ↔ ∃ fields, schema.fields? name = some fields :=
  declares_eq_true_iff_fieldsOf?

theorem contains_of_embedded {schema : Schema} (layered : Layered schema.structs)
    {name inner : String} {fields : List Field} (found : schema.fields? name = some fields)
    (embeds : inner ∈ embedded fields) : schema.contains inner = true := by
  obtain ⟨struct, member, _, rfl⟩ := exists_mem_of_fieldsOf? found
  exact layered.declares_of_mem_embedded member embeds

/-- Induction along the embeddings of a schema. -/
theorem induction_on_embedded {schema : Schema} (layered : Layered schema.structs)
    {motive : String → Prop}
    (step : ∀ name fields, schema.fields? name = some fields →
      (∀ inner ∈ embedded fields, motive inner) → motive name)
    {name : String} {fields : List Field} (found : schema.fields? name = some fields) :
    motive name :=
  layered.induction_on_embedded step (declares_of_fieldsOf? found)

/-- Induction along the embeddings of a schema, for facts about a struct and its
fields. -/
theorem induction_on_fields? {schema : Schema} (layered : Layered schema.structs)
    {motive : String → List Field → Prop}
    (step : ∀ name fields, schema.fields? name = some fields →
      (∀ inner innerFields, inner ∈ embedded fields →
        schema.fields? inner = some innerFields → motive inner innerFields) →
      motive name fields)
    {name : String} {fields : List Field} (found : schema.fields? name = some fields) :
    motive name fields := by
  refine induction_on_embedded layered
    (motive := fun name => ∀ fields, schema.fields? name = some fields → motive name fields)
    ?_ found fields found
  intro outer outerFields foundOuter inners otherFields foundOther
  rw [foundOuter] at foundOther
  cases foundOther
  exact step outer outerFields foundOuter fun inner innerFields embeds foundInner =>
    inners inner embeds innerFields foundInner

/-- In a schema a struct means what its fields mean when every struct has its
meaning. -/
theorem meaning?_eq {α : Type} {schema : Schema} (layered : Layered schema.structs)
    {interpret : (String → Option α) → List Field → α} (isLocal : IsLocal interpret)
    (name : String) :
    schema.meaning? interpret name =
      (schema.fields? name).map (interpret (schema.meaning? interpret)) :=
  layered.lookup_meanings isLocal name

/-- Whether all items of a struct and of the structs that it leads to have a
property. -/
def Throughout (schema : Schema) (holds : Item → Prop) (name : String) : Prop :=
  ∀ inner fields, Relation.ReflTransGen schema.Embeds name inner →
    schema.fields? inner = some fields → ∀ field ∈ fields, holds field.item

theorem Throughout.item {schema : Schema} {holds : Item → Prop} {name : String}
    {fields : List Field} (throughout : schema.Throughout holds name)
    (found : schema.fields? name = some fields) {field : Field} (member : field ∈ fields) :
    holds field.item :=
  throughout name fields .refl found field member

theorem Throughout.embedded {schema : Schema} {holds : Item → Prop} {name inner : String}
    {fields : List Field} (throughout : schema.Throughout holds name)
    (found : schema.fields? name = some fields) (embeds : inner ∈ embedded fields) :
    schema.Throughout holds inner := by
  intro reached reachedFields path
  exact throughout reached reachedFields (.head ⟨fields, found, embeds⟩ path)

theorem throughout_of_forall {schema : Schema} {holds : Item → Prop}
    (all : ∀ struct ∈ schema.structs, ∀ field ∈ struct.fields, holds field.item)
    (name : String) : schema.Throughout holds name := by
  intro inner fields _ found field member
  obtain ⟨struct, memberStruct, _, rfl⟩ := exists_mem_of_fieldsOf? found
  exact all struct memberStruct field member

theorem not_transGen_embeds_self {schema : Schema} (layered : Layered schema.structs)
    (name : String) : ¬ Relation.TransGen schema.Embeds name name := by
  intro cycle
  obtain ⟨_, ⟨fields, found, _⟩, _⟩ := Relation.TransGen.head'_iff.mp cycle
  -- A cycle through a struct is also one through the next struct on it.
  refine induction_on_embedded layered
    (motive := fun name => ¬ Relation.TransGen schema.Embeds name name) ?_ found cycle
  intro outer outerFields foundOuter clear around
  obtain ⟨inner, ⟨innerFields, foundAgain, embeds⟩, back⟩ :=
    Relation.TransGen.head'_iff.mp around
  rw [foundOuter] at foundAgain
  cases foundAgain
  exact clear inner embeds
    (Relation.TransGen.tail' back ⟨outerFields, foundOuter, embeds⟩)

theorem describe_of_fields? {schema : Schema} {name : String} {fields : List Field}
    (found : schema.fields? name = some fields) :
    schema.describe name = .ok (describeFrom 1 fields) := by
  simp only [describe, Schema.fields, found, Except.map]

/-- A struct of two numbers with gaps between them. -/
def pairFields : List Field :=
  [⟨{ type := .builtin (.integer .u8) }, some "first"⟩,
    ⟨{ type := .builtin .void, length := 1, count := 2 }, none⟩,
    ⟨{ type := .builtin (.integer .i16) }, some "second"⟩]

/-- A struct that embeds two pairs in front of a short string. -/
def taggedPairsFields : List Field :=
  [⟨{ type := .struct "pair", count := 2 }, some "pairs"⟩,
    ⟨{ type := .builtin .string, length := 3 }, some "tag"⟩]

/-- A schema in which one struct embeds another. -/
def taggedPairs : Schema :=
  ⟨[⟨"tagged", taggedPairsFields⟩, ⟨"pair", pairFields⟩]⟩

theorem checkDepth_pairFields : checkDepth empty.structs "pair" pairFields = .ok () :=
  checkDepth_of_embedded_eq_nil rfl

theorem checkDepth_taggedPairsFields :
    checkDepth [⟨"pair", pairFields⟩] "tagged" taggedPairsFields = .ok () := by
  have noStruct : embeddingsReverse "pair" pairFields = [] := rfl
  have embeds : embeddingsReverse "tagged" taggedPairsFields = [⟨"tagged", "pair"⟩] := rfl
  rw [checkDepth, embeds, checkEmbeddings, if_neg (by decide)]
  split
  · rename_i fields found
    cases found
    rw [noStruct, List.nil_append, checkEmbeddings]
  · rename_i missing
    cases missing

theorem ofHistory_taggedPairs :
    ofHistory [.declare "pair" pairFields, .declare "tagged" taggedPairsFields] =
      taggedPairs := by
  rw [ofHistory, List.foldl_cons, perform_declare rfl checkDepth_pairFields, List.foldl_cons]
  exact perform_declare rfl checkDepth_taggedPairsFields

theorem reachable_taggedPairs : taggedPairs.Reachable :=
  ⟨_, ofHistory_taggedPairs⟩

/-- Whatever has been declared and forgotten, every struct that a declared struct
embeds is declared, and no struct leads back to itself. -/
theorem ofHistory_closed_and_acyclic (history : List Operation) :
    (∀ outer inner, (ofHistory history).Embeds outer inner →
      (ofHistory history).contains inner = true) ∧
      ∀ name, ¬ Relation.TransGen (ofHistory history).Embeds name name := by
  have layered : Layered (ofHistory history).structs :=
    Reachable.layered ⟨history, rfl⟩
  constructor
  · rintro outer inner ⟨fields, found, embeds⟩
    exact contains_of_embedded layered found embeds
  · exact not_transGen_embeds_self layered

end Schema

end BinaryRecords
