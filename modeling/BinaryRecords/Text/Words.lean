/-!
# Blanks, words and numerals

The blanks are the characters of the Unicode property White_Space.  They
separate the words of a layout text and of a locator.  Properties of characters
that come from a standard are written down as closed ranges of code points.

A numeral is a text of at least one digit.  Its value is read from the highest
digit down, in any base up to sixteen, and letters of either case stand for the
digits from ten on.
-/

namespace BinaryRecords

namespace Text

/-- Closed ranges of code points, the first and the last of each. -/
abbrev CodeRanges := List (Nat × Nat)

namespace CodeRanges

def holds (ranges : CodeRanges) (character : Char) : Bool :=
  ranges.any fun range => range.1 ≤ character.toNat && character.toNat ≤ range.2

end CodeRanges

/-- The ranges of the Unicode property White_Space. -/
def blankRanges : CodeRanges :=
  [(0x09, 0x0D), (0x20, 0x20), (0x85, 0x85), (0xA0, 0xA0), (0x1680, 0x1680),
    (0x2000, 0x200A), (0x2028, 0x2029), (0x202F, 0x202F), (0x205F, 0x205F),
    (0x3000, 0x3000)]

def isBlank (character : Char) : Bool :=
  blankRanges.holds character

def skipBlanks (text : List Char) : List Char :=
  text.dropWhile isBlank

def trimBlanks (text : List Char) : List Char :=
  (skipBlanks (skipBlanks text).reverse).reverse

/-- The maximal runs of characters that are not blank, in order, when the
characters of a run that has begun are given in reverse. -/
def wordsAfter : List Char → List Char → List (List Char)
  | [], [] => []
  | begunReverse, [] => [begunReverse.reverse]
  | begunReverse, character :: rest =>
      if isBlank character then
        match begunReverse with
        | [] => wordsAfter [] rest
        | _ => begunReverse.reverse :: wordsAfter [] rest
      else
        wordsAfter (character :: begunReverse) rest

/-- The maximal runs of characters that are not blank, in order. -/
def words (text : List Char) : List (List Char) :=
  wordsAfter [] text

/-- The value of a character as a digit of some base up to sixteen. -/
def digitValue? (character : Char) : Option Nat :=
  if '0' ≤ character && character ≤ '9' then
    some (character.toNat - '0'.toNat)
  else if 'a' ≤ character && character ≤ 'f' then
    some (character.toNat - 'a'.toNat + 10)
  else if 'A' ≤ character && character ≤ 'F' then
    some (character.toNat - 'A'.toNat + 10)
  else
    none

def appendDigit? (base number : Nat) (character : Char) : Option Nat :=
  match digitValue? character with
  | some digit => if digit < base then some (base * number + digit) else none
  | none => none

def numeral? (base : Nat) (text : List Char) : Option Nat :=
  if text = [] then none else text.foldlM (appendDigit? base) 0

/-- The value of a numeral, if it fits into 64 bits. -/
def word? (base : Nat) (text : List Char) : Option UInt64 :=
  match numeral? base text with
  | some number =>
      if number < UInt64.size then some (UInt64.ofNat number) else none
  | none => none

def skipPlus : List Char → List Char
  | '+' :: rest => rest
  | text => text

/-- The value of a decimal numeral with an optional sign. -/
def signedDecimal? : List Char → Option Int
  | '-' :: digits => (numeral? 10 digits).map fun number => -(number : Int)
  | text => (numeral? 10 (skipPlus text)).map fun number => (number : Int)

end Text

end BinaryRecords
