import BinaryRecords.Decode.Item
import BinaryRecords.Extract.Basic
import BinaryRecords.Layout.FieldList
import BinaryRecords.Layout.Memo
import BinaryRecords.Schema.Declare
import BinaryRecords.Schema.Size
import BinaryRecords.Source.Open

/-!
# Sessions

A session holds the source that is read, the declared structs, the layouts that
have been parsed and the host.  An operation that fails leaves the source and
the structs as they were.
-/

namespace BinaryRecords

/-- A source, if any, with all that is needed to read from it, and a host with
states in `σ`. -/
structure Session (σ : Type) where
  source : Option Source
  schema : Schema
  memo : Layout.Memo
  host : Host σ
  hostState : σ

namespace Session

variable {σ α : Type}

/-- A session without a source and without structs. -/
def new (host : Host σ) (hostState : σ) : Session σ :=
  ⟨none, .empty, .empty, host, hostState⟩

def setHost (session : Session σ) (host : Host σ) (hostState : σ) : Session σ :=
  { session with host := host, hostState := hostState }

def install (session : Session σ) (source : Source) : Session σ :=
  { session with source := some source }

def openSource (session : Session σ) (machine : Machine) (locator : String) :
    Except Error Unit × Session σ :=
  match Source.openLocator machine locator with
  | .ok source => (.ok (), session.install source)
  | .error failure => (.error failure, session)

/-- Give the source back. -/
def close (session : Session σ) : Option Source × Session σ :=
  (session.source, { session with source := none })

def sourceName? (session : Session σ) : Option String :=
  session.source.map Source.name

def sourceSize? (session : Session σ) : Option Nat :=
  session.source.map Source.size

def position? (session : Session σ) : Option Nat :=
  session.source.map Source.position

/-- Decode at the position in a source that is the one of the session. -/
def decode (session : Session σ) (source : Source) (action : Decoding σ α) :
    Except Error α × Session σ :=
  let (result, after, hostState) := source.decode action session.hostState
  (result, { session with source := some after, hostState := hostState })

def readItems (session : Session σ) (text : String) :
    Except Error (List Value) × Session σ :=
  match session.source with
  | none => (.error .noSource, session)
  | some source =>
      match session.memo.parse text with
      | (.ok remembered, memo) =>
          { session with memo := memo }.decode source
            (session.schema.decodeItems session.host remembered.items)
      | (.error failure, memo) => (.error failure, { session with memo := memo })

def readRecord (session : Session σ) (name : String) :
    Except Error Record × Session σ :=
  match session.source with
  | none => (.error .noSource, session)
  | some source => session.decode source (session.schema.decodeRecord session.host name)

/-- Read one instance of a declared struct and convert it to a shape.  Where
either fails the position stays where it was. -/
def readShape (session : Session σ) (shape : Shape) (name : String) :
    Except Error Extract × Session σ :=
  match session.readRecord name with
  | (.error failure, after) => (.error failure, after)
  | (.ok record, after) =>
      match shape.ofRecord record with
      | .ok extract => (.ok extract, after)
      | .error failure => (.error failure, { after with source := session.source })

def declare (session : Session σ) (nameText fieldsText : String) :
    Except Error Unit × Session σ :=
  let declared := do
    let name ← Layout.parseName nameText
    let fields ← Layout.parseFields fieldsText
    session.schema.declare name fields
  match declared with
  | .ok schema => (.ok (), { session with schema := schema })
  | .error failure => (.error failure, session)

def describe (session : Session σ) (name : String) : Except Error String :=
  session.schema.describe name

def clearSchema (session : Session σ) : Session σ :=
  { session with schema := .empty }

def moveTo (session : Session σ) (position : Nat) : Except Error Unit × Session σ :=
  match session.source with
  | none => (.error .noSource, session)
  | some source =>
      let (result, after) := source.moveTo position
      (result, { session with source := some after })

/-- Find bytes in the source, from the position on and before a limit. -/
def find (session : Session σ) (needle : List UInt8) (limit : Nat) :
    Except Error (Option Nat) :=
  match session.source with
  | none => .error .noSource
  | some source => .ok (source.find? needle limit)

end Session

end BinaryRecords
