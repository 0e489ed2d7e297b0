import BinaryRecords.Decimal
import BinaryRecords.Text.Quoted
import BinaryRecords.Text.Utf8
import BinaryRecords.Value.Basic

/-!
# The text of a value

Numbers are written in decimal, strings as quoted text, arrays in brackets and
records in braces with the name of each entry before its value.
-/

namespace BinaryRecords

namespace Value

/-- Texts separated by commas, between an opening and a closing text. -/
def enclose (opening : String) (parts : List String) (closing : String) : String :=
  opening ++ ", ".intercalate parts ++ closing

mutual

def render : Value → String
  | integer number => toString number.toInt
  | float number => number.render
  | string bytes => Text.quote (Text.Utf8.decodeLossy bytes)
  | array elements => enclose "[" (renderElements [] elements) "]"
  | record entries => enclose "\x7b" (renderEntries [] entries) "\x7d"

/-- The texts of values, after some texts that are given in reverse. -/
def renderElements : List String → List Value → List String
  | partsReverse, [] => partsReverse.reverse
  | partsReverse, element :: elements =>
      renderElements (render element :: partsReverse) elements

/-- The texts of named values, after some texts that are given in reverse. -/
def renderEntries : List String → List (String × Value) → List String
  | partsReverse, [] => partsReverse.reverse
  | partsReverse, (name, value) :: entries =>
      renderEntries ((name ++ ": " ++ render value) :: partsReverse) entries

end

theorem renderElements_eq (partsReverse : List String) (elements : List Value) :
    renderElements partsReverse elements =
      partsReverse.reverse ++ elements.map render := by
  induction elements generalizing partsReverse with
  | nil => simp [renderElements]
  | cons element elements induction =>
      simp [renderElements, induction]

theorem renderEntries_eq (partsReverse : List String)
    (entries : List (String × Value)) :
    renderEntries partsReverse entries =
      partsReverse.reverse ++
        entries.map fun entry => entry.1 ++ ": " ++ render entry.2 := by
  induction entries generalizing partsReverse with
  | nil => simp [renderEntries]
  | cons entry entries induction =>
      simp [renderEntries, induction]

end Value

namespace Record

def render (record : Record) : String :=
  (Value.record record).render

end Record

end BinaryRecords
