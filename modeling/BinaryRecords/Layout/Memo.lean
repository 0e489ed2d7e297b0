import BinaryRecords.Layout.ItemList

/-!
# Remembered layouts

A memo keeps the items of every text that it has parsed, so that each text is
parsed once.  A text is remembered letter for letter, failures are not
remembered, and nothing is ever forgotten.  The place of a text in the memo
tells whether two results are one and the same.
-/

namespace BinaryRecords

namespace Layout

/-- Texts and their items, in the order in which the texts were first parsed. -/
structure Memo where
  entries : List (String × List Item)
  deriving DecidableEq, Inhabited

/-- The items of a remembered text, and the place of the text in the memo. -/
structure Remembered where
  place : Nat
  items : List Item
  deriving DecidableEq, Inhabited

namespace Memo

def empty : Memo :=
  ⟨[]⟩

/-- The number of texts remembered. -/
def size (memo : Memo) : Nat :=
  memo.entries.length

def isEmpty (memo : Memo) : Bool :=
  memo.entries.isEmpty

def find? (memo : Memo) (text : String) : Option Remembered :=
  match memo.entries.lookup text with
  | some items => some ⟨memo.entries.findIdx fun entry => entry.1 == text, items⟩
  | none => none

/-- The items of a text, remembered from now on if there are any. -/
def parse (memo : Memo) (text : String) : Except Error Remembered × Memo :=
  match memo.find? text with
  | some remembered => (.ok remembered, memo)
  | none =>
      match parseItems text with
      | .ok items => (.ok ⟨memo.size, items⟩, ⟨memo.entries ++ [(text, items)]⟩)
      | .error failure => (.error failure, memo)

end Memo

end Layout

end BinaryRecords
