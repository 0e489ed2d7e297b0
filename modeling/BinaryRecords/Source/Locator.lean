import BinaryRecords.Error
import BinaryRecords.Text.Words

/-!
# Locators

A locator is a text that says where the bytes of a source are: in memory, in a
segment of shared memory, or at a path.  Locators with a reserved beginning are
kept for tests.
-/

namespace BinaryRecords

/-- Where the bytes of a source are. -/
inductive Locator
  /-- In memory, from an address on. -/
  | memory (address size : UInt64)
  /-- In the segment of shared memory with a number. -/
  | segment (id : Int32)
  /-- Nowhere: the rest of a reserved locator. -/
  | reserved (rest : String)
  /-- At a path, or in a shared memory object of that name. -/
  | path (path : String)
  deriving DecidableEq, Inhabited

namespace Locator

def reservedMark : List Char :=
  "test:".toList

def memoryMark : List Char :=
  "malloc:".toList

def segmentMark : List Char :=
  "sysvshmem:".toList

/-- What follows a given beginning of a text. -/
def after? (mark text : List Char) : Option (List Char) :=
  if mark.isPrefixOf text then some (text.drop mark.length) else none

/-- Drop the mark in front of a number of base sixteen, if there is one. -/
def skipHexMark : List Char → List Char
  | '0' :: 'x' :: digits => digits
  | '0' :: 'X' :: digits => digits
  | digits => digits

/-- A word of 64 bits, with an optional plus sign. -/
def word? (base : Nat) (text : List Char) : Option UInt64 :=
  Text.word? base (Text.skipPlus text)

/-- An address of base sixteen and a decimal size, apart from which there are
only blanks.  No bytes can be at address zero. -/
def memory? (text : List Char) : Option Locator :=
  match Text.words text with
  | [addressText, sizeText] =>
      match word? 16 (skipHexMark addressText), word? 10 sizeText with
      | some address, some size =>
          if address = 0 ∧ size ≠ 0 then none else some (.memory address size)
      | _, _ => none
  | _ => none

/-- A decimal number of 32 bits with an optional sign. -/
def segment? (text : List Char) : Option Locator :=
  match Text.signedDecimal? (Text.trimBlanks text) with
  | some number =>
      if -2147483648 ≤ number ∧ number ≤ 2147483647 then some (.segment (Int32.ofInt number))
      else none
  | none => none

def ofText? (text : String) : Option Locator :=
  match after? reservedMark text.toList with
  | some rest => some (.reserved (String.ofList rest))
  | none =>
      match after? memoryMark text.toList with
      | some rest => memory? rest
      | none =>
          match after? segmentMark text.toList with
          | some rest => segment? rest
          | none => if text = "" then none else some (.path text)

def parse (text : String) : Except Error Locator :=
  match ofText? text with
  | some locator => .ok locator
  | none => .error (.invalidLocator text)

end Locator

end BinaryRecords
