/-!
# Text in bytes that may not be UTF-8

Bytes are read as UTF-8 by a machine that takes one byte at a time.  A byte that
cannot continue the character begun before it ends that character as malformed
and is then read afresh, so each maximal beginning of a character that is not
completed counts as one malformed piece.
-/

namespace BinaryRecords

namespace Text

namespace Utf8

/-- A character that has begun: its value so far, the number of bytes that are
missing, and the bounds of the next one. -/
structure Begun where
  value : Nat
  missing : Nat
  low : Nat
  high : Nat
  deriving DecidableEq, Inhabited

/-- What a byte is that stands where a character begins. -/
inductive First
  /-- A character by itself. -/
  | ascii (value : Nat)
  /-- The beginning of a longer character. -/
  | lead (begun : Begun)
  /-- No beginning of a character. -/
  | malformed
  deriving DecidableEq, Inhabited

/-- Classify the byte that stands where a character begins.  The bounds of the
byte after it exclude characters written too long, surrogates, and values above
the greatest code point. -/
def first (byte : Nat) : First :=
  if byte < 0x80 then .ascii byte
  else if byte < 0xC2 then .malformed
  else if byte < 0xE0 then .lead ⟨byte - 0xC0, 1, 0x80, 0xBF⟩
  else if byte = 0xE0 then .lead ⟨0, 2, 0xA0, 0xBF⟩
  else if byte = 0xED then .lead ⟨0xD, 2, 0x80, 0x9F⟩
  else if byte < 0xF0 then .lead ⟨byte - 0xE0, 2, 0x80, 0xBF⟩
  else if byte = 0xF0 then .lead ⟨0, 3, 0x90, 0xBF⟩
  else if byte < 0xF4 then .lead ⟨byte - 0xF0, 3, 0x80, 0xBF⟩
  else if byte = 0xF4 then .lead ⟨4, 3, 0x80, 0x8F⟩
  else .malformed

/-- The pieces of a text, the latest first, and the character that has begun.
A piece is a character, or nothing where the bytes are malformed. -/
structure Progress where
  piecesReverse : List (Option Char)
  begun : Option Begun
  deriving DecidableEq, Inhabited

/-- Read a byte that stands where a character begins. -/
def startWith (piecesReverse : List (Option Char)) (byte : Nat) : Progress :=
  match first byte with
  | .ascii value => ⟨some (Char.ofNat value) :: piecesReverse, none⟩
  | .lead begun => ⟨piecesReverse, some begun⟩
  | .malformed => ⟨none :: piecesReverse, none⟩

def step (progress : Progress) (byte : Nat) : Progress :=
  match progress.begun with
  | none => startWith progress.piecesReverse byte
  | some begun =>
      if begun.low ≤ byte ∧ byte ≤ begun.high then
        let value := begun.value * 64 + byte % 64
        if begun.missing ≤ 1 then
          ⟨some (Char.ofNat value) :: progress.piecesReverse, none⟩
        else
          ⟨progress.piecesReverse, some ⟨value, begun.missing - 1, 0x80, 0xBF⟩⟩
      else
        startWith (none :: progress.piecesReverse) byte

/-- All pieces of a text, in order. -/
def pieces (bytes : List UInt8) : List (Option Char) :=
  let progress := bytes.foldl (fun progress byte => step progress byte.toNat) ⟨[], none⟩
  match progress.begun with
  | none => progress.piecesReverse.reverse
  | some _ => (none :: progress.piecesReverse).reverse

/-- The text in some bytes, with the replacement character for every malformed
piece. -/
def decodeLossy (bytes : List UInt8) : List Char :=
  (pieces bytes).map fun piece => piece.getD '\uFFFD'

def decode? (bytes : List UInt8) : Option String :=
  String.fromUTF8? ⟨bytes.toArray⟩

def encode (text : String) : List UInt8 :=
  text.toByteArray.data.toList

end Utf8

end Text

end BinaryRecords
