import BinaryRecords.Source.Basic
import BinaryRecords.Source.Locator

/-!
# Opening sources

A locator is opened on a machine, which has memory, files, shared memory objects
and segments of shared memory.  A path at which nothing exists is the name of a
shared memory object.
-/

namespace BinaryRecords

/-- What a path leads to. -/
inductive PathKind
  | regularFile
  | other
  deriving DecidableEq, Inhabited

/-- What can be opened on a machine. -/
structure Machine where
  /-- The bytes in memory from an address on. -/
  memory : (address size : UInt64) → List UInt8
  /-- What a path leads to. -/
  pathKind : (path : String) → Except SystemFault PathKind
  /-- The bytes of the file at a path. -/
  file : (path : String) → Except Refusal (List UInt8)
  /-- The bytes of a shared memory object. -/
  sharedMemory : (name : String) → Except Refusal (List UInt8)
  /-- The bytes of a segment of shared memory. -/
  segment : (id : Int32) → Except Refusal (List UInt8)

namespace Source

/-- A source over bytes that the machine may refuse. -/
def ofMachine (name : String) (bytes : Except Refusal (List UInt8)) :
    Except Error Source :=
  match bytes with
  | .ok bytes => .ok (ofBytes name bytes)
  | .error refusal => .error (.system refusal name)

def openFile (machine : Machine) (path : String) : Except Error Source :=
  ofMachine path (machine.file path)

def openSharedMemory (machine : Machine) (name : String) : Except Error Source :=
  if name.toList.contains '\x00' then
    .error (.invalidLocator name)
  else
    ofMachine name (machine.sharedMemory name)

def openSegment (machine : Machine) (id : Int32) : Except Error Source :=
  ofMachine (String.ofList Locator.segmentMark ++ toString id.toInt) (machine.segment id)

/-- Open a regular file at a path, or a shared memory object if nothing is
there. -/
def openPath (machine : Machine) (path : String) : Except Error Source :=
  match machine.pathKind path with
  | .ok .regularFile => openFile machine path
  | .ok .other => .error (.unsupportedSource path)
  | .error .notFound => openSharedMemory machine path
  | .error fault => .error (.system ⟨.stat, fault⟩ path)

def openLocator (machine : Machine) (text : String) : Except Error Source := do
  match ← Locator.parse text with
  | .memory address size => .ok (ofBytes text (machine.memory address size))
  | .segment id => openSegment machine id
  | .reserved _ => .error (.reservedLocator text)
  | .path path => openPath machine path

end Source

end BinaryRecords
