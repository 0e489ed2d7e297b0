import BinaryRecords.Layout.Lexer

/-!
# Reading a list of items

The layout of a single read is a list of items without names.  An item begins
with its type, and a length and a count may follow in this order; the stage of
an item that has begun says which of them may still come.  It ends where the
next one begins, or at the end of the text.
-/

namespace BinaryRecords

namespace Layout

/-- How far an item that has begun has been read. -/
inductive Stage
  /-- After the type. -/
  | typed
  /-- After the length. -/
  | measured
  /-- After the count. -/
  | counted
  /-- After the colon in front of a field name. -/
  | naming
  deriving DecidableEq, Inhabited

/-- An item that has begun. -/
structure Pending where
  item : Item
  stage : Stage
  deriving DecidableEq, Inhabited

def typeBegun? : Token → Option ItemType
  | .keyword type => some (.builtin type)
  | .call function => some (.call function)
  | .name text => some (.struct text)
  | .length _ | .count _ | .colon => none

namespace Pending

def begin (type : ItemType) : Pending :=
  ⟨⟨type, 0, 1⟩, .typed⟩

/-- Add a length: only directly after the type, and only to a type with one. -/
def withLength? (pending : Pending) (length : UInt64) : Option Pending :=
  if pending.stage = .typed ∧ pending.item.type.takesLength = true then
    some ⟨{ pending.item with length := length }, .measured⟩
  else
    none

/-- Add a count: after the type or after the length. -/
def withCount? (pending : Pending) (count : UInt64) : Option Pending :=
  if pending.stage = .typed ∨ pending.stage = .measured then
    some ⟨{ pending.item with count := count }, .counted⟩
  else
    none

def extend? (pending : Pending) : Token → Option Pending
  | .length length => pending.withLength? length
  | .count count => pending.withCount? count
  | .keyword _ | .name _ | .call _ | .colon => none

/-- The item, once nothing more can follow; a gap needs a length. -/
def close (pending : Pending) : Except Error Item :=
  if pending.item.isVoid ∧ pending.item.length = 0 then
    .error .voidWithoutLength
  else
    .ok pending.item

end Pending

/-- The items read so far, the latest first, and the one that has begun. -/
structure ItemProgress where
  itemsReverse : List Item
  pending : Option Pending
  deriving DecidableEq, Inhabited

namespace ItemProgress

def start : ItemProgress :=
  ⟨[], none⟩

/-- The items read when the one that has begun, if any, ends here. -/
def closed (progress : ItemProgress) : Except Error (List Item) :=
  match progress.pending with
  | none => .ok progress.itemsReverse
  | some pending => pending.close.map (· :: progress.itemsReverse)

def step (progress : ItemProgress) (token : Token) : Except Error ItemProgress :=
  match typeBegun? token with
  | some type =>
      progress.closed.map fun itemsReverse => ⟨itemsReverse, some (Pending.begin type)⟩
  | none =>
      match progress.pending.bind (Pending.extend? · token) with
      | some pending => .ok ⟨progress.itemsReverse, some pending⟩
      | none => .error (.unexpectedToken token)

end ItemProgress

def itemsOfTokens (lexed : Lexed) : Except Error (List Item) := do
  let progress ← lexed.tokens.foldlM ItemProgress.step ItemProgress.start
  match lexed.failure with
  | some failure => .error failure
  | none => progress.closed.map List.reverse

def parseItems (text : String) : Except Error (List Item) :=
  itemsOfTokens (tokenize text.toList)

end Layout

end BinaryRecords
