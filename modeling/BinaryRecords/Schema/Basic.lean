import BinaryRecords.Error

/-!
# Schemas

A schema is the list of the structs that have been declared.  A struct embeds
another where one of its fields names it.  The structs stand in such an order
that each embeds only structs behind it, which makes the rest of the list a
schema of its own in which its fields have their meaning.

Whatever a struct means (a size, a way to read it) follows from its fields and
from what the structs that it embeds mean.  As these stand behind it, one pass
from the last struct to the first gives all of them their meaning.
-/

namespace BinaryRecords

/-- The structs that some fields embed, in order. -/
def embedded (fields : List Field) : List String :=
  fields.filterMap Field.structName?

/-- A name and the fields declared for it. -/
structure Struct where
  name : String
  fields : List Field
  deriving DecidableEq, Inhabited

/-- The declared structs, each in front of the structs that it embeds. -/
structure Schema where
  structs : List Struct
  deriving DecidableEq, Inhabited

/-- The fields of the first struct of a name. -/
def fieldsOf? (structs : List Struct) (name : String) : Option (List Field) :=
  (structs.find? fun struct => struct.name == name).map Struct.fields

def declares (structs : List Struct) (name : String) : Bool :=
  structs.any fun struct => struct.name == name

/-- The meaning of every struct, when `interpret` gives fields their meaning out
of that of the structs that they embed. -/
def meanings {α : Type} (interpret : (String → Option α) → List Field → α) :
    List Struct → List (String × α)
  | [] => []
  | struct :: behind =>
      let known := meanings interpret behind
      (struct.name, interpret (fun name => known.lookup name) struct.fields) :: known

namespace Schema

def empty : Schema :=
  ⟨[]⟩

def size (schema : Schema) : Nat :=
  schema.structs.length

def isEmpty (schema : Schema) : Bool :=
  schema.structs.isEmpty

def fields? (schema : Schema) (name : String) : Option (List Field) :=
  fieldsOf? schema.structs name

def contains (schema : Schema) (name : String) : Bool :=
  declares schema.structs name

/-- The fields declared for a name, or the failure to find any. -/
def fields (schema : Schema) (name : String) : Except Error (List Field) :=
  match schema.fields? name with
  | some fields => .ok fields
  | none => .error (.structNotFound name)

/-- One numbered line for each field, the first of which has a given number. -/
def describeFrom (number : Nat) : List Field → String
  | [] => ""
  | field :: fields =>
      toString number ++ ") " ++ field.render ++ "\n" ++
        describeFrom (number + 1) fields

def describe (schema : Schema) (name : String) : Except Error String :=
  (schema.fields name).map (describeFrom 1)

def meaning? {α : Type} (schema : Schema)
    (interpret : (String → Option α) → List Field → α) (name : String) : Option α :=
  (meanings interpret schema.structs).lookup name

end Schema

end BinaryRecords
