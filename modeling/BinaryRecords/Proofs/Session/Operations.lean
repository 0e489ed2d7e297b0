import BinaryRecords.Proofs.Layout.Remembering
import BinaryRecords.Session

/-!
# Operations of a session

All operations of a session as one type, with one type of answers, so that a
sequence of them can be performed.  What can be seen of a session from outside is
its source and its structs.
-/

namespace BinaryRecords

namespace Session

/-- What can be asked of a session whose host has states in `σ`. -/
inductive Operation (σ : Type)
  | setHost (host : Host σ) (hostState : σ)
  | install (source : Source)
  | openSource (machine : Machine) (locator : String)
  | close
  | readItems (text : String)
  | readRecord (name : String)
  | readShape (shape : Shape) (name : String)
  | declare (nameText fieldsText : String)
  | describe (name : String)
  | clearSchema
  | moveTo (position : Nat)
  | find (needle : List UInt8) (limit : Nat)

/-- What an operation that succeeds answers. -/
inductive Answer
  | done
  | closed (source? : Option Source)
  | values (values : List Value)
  | record (record : Record)
  | extract (extract : Extract)
  | text (text : String)
  | offset (offset? : Option Nat)

/-- What can be seen of a session. -/
structure View where
  source : Option Source
  schema : Schema
  deriving DecidableEq

variable {σ α : Type}

def view (session : Session σ) : View :=
  ⟨session.source, session.schema⟩

/-- An outcome whose result is given as an answer. -/
def answered (answer : α → Answer) (outcome : Except Error α × Session σ) :
    Except Error Answer × Session σ :=
  (outcome.1.map answer, outcome.2)

def perform (session : Session σ) : Operation σ → Except Error Answer × Session σ
  | .setHost host hostState => (.ok .done, session.setHost host hostState)
  | .install source => (.ok .done, session.install source)
  | .openSource machine locator =>
      answered (fun _ => .done) (session.openSource machine locator)
  | .close => (.ok (.closed session.close.1), session.close.2)
  | .readItems text => answered .values (session.readItems text)
  | .readRecord name => answered .record (session.readRecord name)
  | .readShape shape name => answered .extract (session.readShape shape name)
  | .declare nameText fieldsText =>
      answered (fun _ => .done) (session.declare nameText fieldsText)
  | .describe name => ((session.describe name).map .text, session)
  | .clearSchema => (.ok .done, session.clearSchema)
  | .moveTo position => answered (fun _ => .done) (session.moveTo position)
  | .find needle limit => ((session.find needle limit).map .offset, session)

def performAll (session : Session σ) (operations : List (Operation σ)) : Session σ :=
  operations.foldl (fun session operation => (session.perform operation).2) session

/-- The answers to some operations, each with what can be seen after it. -/
def transcript (session : Session σ) :
    List (Operation σ) → List (Except Error Answer × View)
  | [] => []
  | operation :: operations =>
      ((session.perform operation).1, (session.perform operation).2.view) ::
        (session.perform operation).2.transcript operations

/-- Whether some operations lead from a new session to this one. -/
def Reachable (session : Session σ) : Prop :=
  ∃ host hostState operations, (new host hostState).performAll operations = session

theorem readItems_of_none {session : Session σ} (text : String)
    (source_eq : session.source = none) :
    session.readItems text = (.error .noSource, session) := by
  simp only [readItems, source_eq]

theorem readItems_of_error {session : Session σ} {source : Source} {text : String}
    {failure : Error} {memo : Layout.Memo} (source_eq : session.source = some source)
    (parsed : session.memo.parse text = (.error failure, memo)) :
    session.readItems text = (.error failure, { session with memo := memo }) := by
  simp only [readItems, source_eq, parsed]

theorem readItems_of_ok {session : Session σ} {source : Source} {text : String}
    {remembered : Layout.Remembered} {memo : Layout.Memo}
    (source_eq : session.source = some source)
    (parsed : session.memo.parse text = (.ok remembered, memo)) :
    session.readItems text =
      { session with memo := memo }.decode source
        (session.schema.decodeItems session.host remembered.items) := by
  simp only [readItems, source_eq, parsed]

theorem readShape_of_error {session after : Session σ} {shape : Shape} {name : String}
    {failure : Error} (run : session.readRecord name = (.error failure, after)) :
    session.readShape shape name = (.error failure, after) := by
  simp only [readShape, run]

theorem readShape_of_ok {session after : Session σ} {shape : Shape} {name : String}
    {record : Record} {extract : Extract} (run : session.readRecord name = (.ok record, after))
    (fits : shape.ofRecord record = .ok extract) :
    session.readShape shape name = (.ok extract, after) := by
  simp only [readShape, run, fits]

theorem readShape_of_unfit {session after : Session σ} {shape : Shape} {name : String}
    {record : Record} {failure : Error} (run : session.readRecord name = (.ok record, after))
    (unfit : shape.ofRecord record = .error failure) :
    session.readShape shape name =
      (.error failure, { after with source := session.source }) := by
  simp only [readShape, run, unfit]

end Session

end BinaryRecords
