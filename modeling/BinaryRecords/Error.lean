import BinaryRecords.Extract.Target
import BinaryRecords.Layout.Item

/-!
# Errors

Every operation that can fail does so for one of these causes.  The wording of
each is in `Error.message`.  Files and shared memory belong to the operating
system, which may refuse them: a refusal says what was attempted and why it was
refused.
-/

namespace BinaryRecords

/-- What was attempted on a file or on shared memory. -/
inductive SystemAction
  | stat
  | openFile
  | openSharedMemory
  | map
  | statSharedMemory
  deriving DecidableEq, Inhabited

namespace SystemAction

def words : SystemAction → String
  | stat => "stat"
  | openFile => "open"
  | openSharedMemory => "open shared memory"
  | map => "map"
  | statSharedMemory => "stat shared memory"

end SystemAction

/-- Why the operating system refuses. -/
inductive SystemFault
  | notFound
  | noSuchDevice
  | notDirectory
  | invalidArgument
  | nameTooLong
  /-- A name with a zero character cannot be passed on at all. -/
  | zeroInName
  deriving DecidableEq, Inhabited

namespace SystemFault

/-- The words for a fault, with its number where the system gives one. -/
def words : SystemFault → String
  | notFound => "No such file or directory (os error 2)"
  | noSuchDevice => "No such device (os error 19)"
  | notDirectory => "Not a directory (os error 20)"
  | invalidArgument => "Invalid argument (os error 22)"
  | nameTooLong => "File name too long (os error 36)"
  | zeroInName => "file name contained an unexpected NUL byte"

end SystemFault

/-- A refused action and the reason for it. -/
structure Refusal where
  action : SystemAction
  fault : SystemFault
  deriving DecidableEq, Inhabited

/-- Why an operation failed. -/
inductive Error
  /-- Characters that begin no token. -/
  | unknownInput (text : String)
  /-- A length or count that is not a decimal number of 64 bits. -/
  | invalidNumber (text : String)
  /-- A token where the layout does not allow it. -/
  | unexpectedToken (token : Token)
  /-- A field that ends before its name. -/
  | unfinishedField
  /-- A gap without a length. -/
  | voidWithoutLength
  /-- A struct name that is not a single name. -/
  | invalidName (text : String)
  /-- Two fields of one name. -/
  | duplicateField (name : String)
  /-- A struct that is not declared. -/
  | structNotFound (name : String)
  /-- A struct that embeds itself. -/
  | selfReference (name : String)
  /-- A struct that embeds itself by way of others, the last of which is `via`. -/
  | circularDefinition (name via : String)
  /-- A struct that embeds one that is not declared. -/
  | missingDefinition (name missing : String)
  /-- Fewer bytes than a read at `position` needs. -/
  | insufficientData (position needed size : Nat)
  /-- A string at `position` that never ends. -/
  | missingTerminator (position : Nat)
  /-- A position beyond the end of the source. -/
  | invalidPosition (position size : Nat)
  /-- No source to read from. -/
  | noSource
  /-- Too many repetitions of something that occupies no bytes. -/
  | emptyRepeat (type : ItemType) (count : UInt64)
  /-- A locator that cannot be understood. -/
  | invalidLocator (text : String)
  /-- A locator in the namespace that is kept for tests. -/
  | reservedLocator (text : String)
  /-- A path that exists and is no regular file. -/
  | unsupportedSource (text : String)
  /-- A refusal of the operating system. -/
  | system (refusal : Refusal) (name : String)
  /-- A host function that does not exist. -/
  | functionNotDefined (name : String)
  /-- A host function that returned another number of values than one. -/
  | functionArity (name : String) (count : Nat)
  /-- A value of another kind than an extraction needs. -/
  | unexpectedKind (expected found : Kind)
  /-- An integer that does not belong to the type it is converted to. -/
  | integerOutOfRange (target : IntegerTarget)
  /-- Bytes that are not the UTF-8 form of a text. -/
  | invalidUtf8
  /-- A record without a field that an extraction needs. -/
  | missingField (name : String)
  deriving DecidableEq, Inhabited

namespace Error

def unexpectedValueMessage (expected found : String) : String :=
  "Expected " ++ expected ++ ", found " ++ found ++ "."

def message : Error → String
  | unknownInput text => "Unexpected input `" ++ text ++ "` in descriptor."
  | invalidNumber text =>
      "Invalid fixed length or array size value `" ++ text ++ "`."
  | unexpectedToken token => "Unexpected `" ++ token.render ++ "` in descriptor."
  | unfinishedField => "Declaration not finished."
  | voidWithoutLength => "A `void` item requires an explicit length."
  | invalidName text => "Invalid struct name `" ++ text ++ "`."
  | duplicateField name => "Field `" ++ name ++ "` is declared more than once."
  | structNotFound name => "Struct `" ++ name ++ "` is not found."
  | selfReference name => "Struct `" ++ name ++ "` references itself."
  | circularDefinition name via =>
      "Struct `" ++ name ++ "` is circular through `" ++ via ++ "`."
  | missingDefinition name missing =>
      "Struct `" ++ name ++ "` references missing struct `" ++ missing ++ "`."
  | insufficientData position needed size =>
      "Insufficient data in source: " ++ toString needed ++ " bytes needed at " ++
        toString position ++ ", " ++ toString size ++ " available."
  | missingTerminator position =>
      "String at " ++ toString position ++ " has no terminator."
  | invalidPosition position size =>
      "Position " ++ toString position ++ " is outside of the source (" ++
        toString size ++ " bytes)."
  | noSource => "Source is not set."
  | emptyRepeat type count =>
      "`" ++ type.render ++ "` consumes no data and cannot be repeated " ++
        toString count.toNat ++ " times."
  | invalidLocator text => "Invalid source configuration `" ++ text ++ "`."
  | reservedLocator text =>
      "Source `" ++ text ++ "` belongs to the reserved test namespace."
  | unsupportedSource text =>
      "Source `" ++ text ++ "` is neither a regular file nor shared memory."
  | system refusal name =>
      "Failed to " ++ refusal.action.words ++ " `" ++ name ++ "`: " ++
        refusal.fault.words ++ "."
  | functionNotDefined name => "Function `" ++ name ++ "` is not defined."
  | functionArity name count =>
      "Function `" ++ name ++ "` returned " ++ toString count ++
        " results, expected one."
  | unexpectedKind expected found =>
      unexpectedValueMessage expected.word found.word
  | integerOutOfRange target =>
      unexpectedValueMessage target.word "integer out of range"
  | invalidUtf8 => unexpectedValueMessage "UTF-8 string" "invalid UTF-8"
  | missingField name => "Record has no field `" ++ name ++ "`."

end Error

end BinaryRecords
