import BinaryRecords.Value.Basic

/-!
# Hosts and tables of functions

A host supplies functions that a layout calls by name.  A call may change the
state of the host, and so the answers to later calls.  A table is a host whose
functions depend on nothing but how often each has been called.
-/

namespace BinaryRecords

/-- The functions of a host with states in `σ`: a call by name either finds no
function or yields the values that the function returns. -/
abbrev Host (σ : Type) :=
  String → σ → Option (List Value) × σ

namespace Host

def silent {σ : Type} : Host σ :=
  fun _ state => (none, state)

/-- A host that keeps, beside its own state, the names of all calls in reverse. -/
def recorded {σ : Type} (host : Host σ) : Host (σ × List String) :=
  fun name (state, callsReverse) =>
    let (values, after) := host name state
    (values, (after, name :: callsReverse))

end Host

/-- A function that returns some values for each number of earlier calls, and
the number of calls made. -/
structure HostFunction where
  answer : Nat → List Value
  calls : Nat

namespace HostFunction

def constant (value : Value) : HostFunction :=
  ⟨fun _ => [value], 0⟩

/-- The function that returns some lists of values one after the other, and the
last of them ever after. -/
def scripted (answers : List (List Value)) : HostFunction :=
  ⟨fun calls => (answers[calls]?.or answers.getLast?).getD [], 0⟩

/-- The values a function returns, and the function after the call. -/
def invoke (function : HostFunction) : List Value × HostFunction :=
  (function.answer function.calls, { function with calls := function.calls + 1 })

end HostFunction

/-- Functions by name. -/
structure FunctionTable where
  functions : List (String × HostFunction)

namespace FunctionTable

def empty : FunctionTable :=
  ⟨[]⟩

def contains (table : FunctionTable) (name : String) : Bool :=
  table.functions.any fun entry => entry.1 == name

def erase (table : FunctionTable) (name : String) : FunctionTable :=
  ⟨table.functions.filter fun entry => entry.1 != name⟩

/-- Give a name a function, in place of any earlier one. -/
def insert (table : FunctionTable) (name : String) (function : HostFunction) :
    FunctionTable :=
  ⟨(name, function) :: (table.erase name).functions⟩

def host : Host FunctionTable :=
  fun name table =>
    match table.functions.lookup name with
    | none => (none, table)
    | some function =>
        let (values, after) := function.invoke
        (some values, table.insert name after)

end FunctionTable

end BinaryRecords
