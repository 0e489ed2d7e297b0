import BinaryRecords.Schema.Basic

/-!
# Declaring structs

A struct may embed only structs that are declared already, and none that leads
back to it.  Before it is declared, a search follows the embeddings that start
at its fields, and fails where one leads back to the new struct or to a struct
that does not exist.  A struct is expanded at most once, because it is removed
from the structs that are left to expand, and so the search ends on any list of
structs, even on one with cycles.

A name may be declared again, and then the structs that embed it embed the new
one.  To keep every struct in front of those it embeds, a declared struct is put
behind all that lead to it and in front of all others.
-/

namespace BinaryRecords

/-- A struct and one that it embeds. -/
structure Embedding where
  outer : String
  inner : String
  deriving DecidableEq, Inhabited

/-- The embeddings of a struct with the given fields, the last one first. -/
def embeddingsReverse (name : String) (fields : List Field) : List Embedding :=
  ((embedded fields).map fun inner => ⟨name, inner⟩).reverse

/-- The structs of other names. -/
def withoutStruct (structs : List Struct) (name : String) : List Struct :=
  structs.filter fun struct => struct.name != name

theorem length_withoutStruct_lt {structs : List Struct} {name : String}
    {fields : List Field} (found : fieldsOf? structs name = some fields) :
    (withoutStruct structs name).length < structs.length := by
  obtain ⟨struct, foundStruct, _⟩ := Option.map_eq_some_iff.mp found
  have isNamed := List.find?_some foundStruct
  exact List.length_filter_lt_length_iff_exists.mpr
    ⟨struct, List.mem_of_find?_eq_some foundStruct, by simpa using isNamed⟩

/-- Follow embeddings, the first one of the list first and those found behind it
before the others, to see whether they stay clear of a name. -/
def checkEmbeddings (structs : List Struct) (name : String)
    (unexpanded : List Struct) : List Embedding → Except Error Unit
  | [] => .ok ()
  | embedding :: embeddings =>
      if embedding.inner = name then
        .error (.circularDefinition name embedding.outer)
      else
        match found : fieldsOf? unexpanded embedding.inner with
        | some fields =>
            have := length_withoutStruct_lt found
            checkEmbeddings structs name (withoutStruct unexpanded embedding.inner)
              (embeddingsReverse embedding.inner fields ++ embeddings)
        | none =>
            if declares structs embedding.inner then
              checkEmbeddings structs name unexpanded embeddings
            else
              .error (.missingDefinition embedding.outer embedding.inner)
termination_by embeddings => (unexpanded.length, embeddings.length)

/-- Check that the embeddings from some fields never lead to a name. -/
def checkDepth (structs : List Struct) (name : String) (fields : List Field) :
    Except Error Unit :=
  checkEmbeddings structs name structs (embeddingsReverse name fields)

/-- Check that the structs in a list of names are declared, and that none is the
given one. -/
def checkNames (structs : List Struct) (name : String) :
    List String → Except Error Unit
  | [] => .ok ()
  | inner :: inners =>
      if inner = name then .error (.selfReference name)
      else if declares structs inner then checkNames structs name inners
      else .error (.missingDefinition name inner)

/-- Check that some fields embed only declared structs, and not the given one. -/
def checkWidth (structs : List Struct) (name : String) (fields : List Field) :
    Except Error Unit :=
  checkNames structs name (embedded fields)

/-- The structs of a list from which embeddings lead to a name, where each struct
stands in front of those it embeds. -/
def dependents (name : String) : List Struct → List String
  | [] => []
  | struct :: behind =>
      let known := dependents name behind
      if (embedded struct.fields).any fun inner => inner == name || known.contains inner then
        struct.name :: known
      else
        known

/-- Put a struct behind those with the names in a list and in front of all
others, in place of any struct of the same name. -/
def placeBehind (leading : List String) (structs : List Struct) (name : String)
    (fields : List Field) : List Struct :=
  structs.filter (fun struct => struct.name != name && leading.contains struct.name) ++
    ⟨name, fields⟩ ::
      structs.filter fun struct => struct.name != name && !leading.contains struct.name

/-- Put a struct behind all that lead to it and in front of all others, in place
of any struct of the same name. -/
def place (structs : List Struct) (name : String) (fields : List Field) :
    List Struct :=
  placeBehind (dependents name structs) structs name fields

namespace Schema

/-- Declare a struct, in place of any earlier one of the same name. -/
def declare (schema : Schema) (name : String) (fields : List Field) :
    Except Error Schema := do
  checkWidth schema.structs name fields
  checkDepth schema.structs name fields
  .ok ⟨place schema.structs name fields⟩

end Schema

end BinaryRecords
