import BinaryRecords.Layout.ItemList

/-!
# Reading a list of fields

The layout of a struct is a list of fields.  A field ends with its name, after
a colon; a gap has no name and ends where the next field begins.
-/

namespace BinaryRecords

namespace Layout

/-- The fields read so far, the latest first, and the one that has begun. -/
structure FieldProgress where
  fieldsReverse : List Field
  pending : Option Pending
  deriving DecidableEq, Inhabited

namespace FieldProgress

def start : FieldProgress :=
  ⟨[], none⟩

/-- Whether a field of the given name has been read. -/
def hasName (progress : FieldProgress) (name : String) : Bool :=
  progress.fieldsReverse.any fun field => field.name == some name

/-- The fields read when the one that has begun, if any, ends here without a
name. -/
def closed (progress : FieldProgress) : Except Error (List Field) :=
  match progress.pending with
  | none => .ok progress.fieldsReverse
  | some pending =>
      if pending.item.isVoid then
        pending.close.map fun item => ⟨item, none⟩ :: progress.fieldsReverse
      else
        .error .unfinishedField

def close (progress : FieldProgress) (pending : Pending) (name : String) :
    Except Error FieldProgress := do
  let item ← pending.close
  if progress.hasName name then
    .error (.duplicateField name)
  else
    .ok ⟨⟨item, some name⟩ :: progress.fieldsReverse, none⟩

def begin (progress : FieldProgress) (type : ItemType) : Except Error FieldProgress :=
  progress.closed.map fun fieldsReverse => ⟨fieldsReverse, some (Pending.begin type)⟩

/-- Continue the field that has begun with a token that begins no other. -/
def extend? (pending : Pending) : Token → Option Pending
  | .colon =>
      if pending.stage ≠ .naming ∧ pending.item.isVoid = false then
        some ⟨pending.item, .naming⟩
      else
        none
  | token => pending.extend? token

def step (progress : FieldProgress) (token : Token) : Except Error FieldProgress :=
  match progress.pending, token with
  | some ⟨item, .naming⟩, .name text => progress.close ⟨item, .naming⟩ text
  | pending, token =>
      match typeBegun? token with
      | some type => progress.begin type
      | none =>
          match pending.bind (extend? · token) with
          | some pending => .ok ⟨progress.fieldsReverse, some pending⟩
          | none => .error (.unexpectedToken token)

end FieldProgress

def fieldsOfTokens (lexed : Lexed) : Except Error (List Field) := do
  let progress ← lexed.tokens.foldlM FieldProgress.step FieldProgress.start
  match lexed.failure with
  | some failure => .error failure
  | none => progress.closed.map List.reverse

def parseFields (text : String) : Except Error (List Field) :=
  fieldsOfTokens (tokenize text.toList)

/-- The struct name that a text is: a single name, with nothing around it, that
is no keyword. -/
def parseName (text : String) : Except Error String :=
  match tokenize text.toList with
  | ⟨[.name name], none⟩ =>
      if name = text then .ok name else .error (.invalidName text)
  | _ => .error (.invalidName text)

end Layout

end BinaryRecords
