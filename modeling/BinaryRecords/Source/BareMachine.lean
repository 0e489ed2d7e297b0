import BinaryRecords.Source.Open

/-!
# The bare machine

On the bare machine there are no files, no shared memory and no bytes in memory.
The only paths that lead anywhere are those of the root directory, of the
directory of devices in it, of the null device in that, and of the working
directory, which is in the root directory under a name that nobody knows.
-/

namespace BinaryRecords

namespace BareMachine

/-- What exists on the bare machine. -/
inductive Node
  | root
  | devices
  | nullDevice
  | working
  deriving DecidableEq, Inhabited

namespace Node

def isDirectory : Node → Bool
  | nullDevice => false
  | root | devices | working => true

/-- The directory that something is in; the root is in itself. -/
def parent : Node → Node
  | root | devices | working => root
  | nullDevice => devices

def child? (node : Node) (name : List Char) : Option Node :=
  match node with
  | root => if name = "dev".toList then some devices else none
  | devices => if name = "null".toList then some nullDevice else none
  | nullDevice | working => none

end Node

/-- The greatest number of bytes of a name. -/
def longestName : Nat :=
  255

def longestPath : Nat :=
  4095

/-- The greatest number of bytes of a name of a shared memory object that is
looked for at all. -/
def longestSharedName : Nat :=
  259

def byteLength (text : List Char) : Nat :=
  text.foldr (fun character total => character.utf8Size + total) 0

def components (path : List Char) : List (List Char) :=
  path.splitOn '/'

/-- Follow one part of a path. -/
def enter (node : Node) (name : List Char) : Except SystemFault Node :=
  if node.isDirectory = false then .error .notDirectory
  else if name = [] ∨ name = ['.'] then .ok node
  else if name = ['.', '.'] then .ok node.parent
  else if longestName < byteLength name then .error .nameTooLong
  else
    match node.child? name with
    | some child => .ok child
    | none => .error .notFound

def resolve (path : List Char) : Except SystemFault Node :=
  if path.contains '\x00' then .error .zeroInName
  else if path = [] then .error .notFound
  else if longestPath < byteLength path then .error .nameTooLong
  else
    (components path).foldlM enter (if path.head? = some '/' then .root else .working)

/-- The refusal to open the file at a path; what exists can be opened but not
mapped. -/
def refuseFile (path : List Char) : Refusal :=
  match resolve path with
  | .ok _ => ⟨.map, .noSuchDevice⟩
  | .error fault => ⟨.openFile, fault⟩

/-- The refusal to open a shared memory object: its name, apart from slashes in
front, is a single name that nothing bears, except for those of the directory of
shared memory objects and of the one above it, which can be opened but not
mapped.  A name so long that it is not looked for is invalid. -/
def refuseSharedMemory (name : List Char) : Refusal :=
  let bare := name.dropWhile (· == '/')
  if bare = [] ∨ bare.contains '/' ∨ longestSharedName < byteLength bare then
    ⟨.openSharedMemory, .invalidArgument⟩
  else if bare = ['.'] ∨ bare = ['.', '.'] then ⟨.map, .noSuchDevice⟩
  else if longestName < byteLength bare then ⟨.openSharedMemory, .nameTooLong⟩
  else ⟨.openSharedMemory, .notFound⟩

end BareMachine

/-- The machine without files, shared memory and bytes in memory. -/
def bareMachine : Machine where
  memory _ _ := []
  pathKind path := (BareMachine.resolve path.toList).map fun _ => .other
  file path := .error (BareMachine.refuseFile path.toList)
  sharedMemory name := .error (BareMachine.refuseSharedMemory name.toList)
  segment _ := .error ⟨.statSharedMemory, .invalidArgument⟩

end BinaryRecords
