import BinaryRecords.Proofs.Layout.Sharing
import BinaryRecords.Proofs.Session.Indistinguishable

/-!
# Sessions that remember no layouts

A session answers like one that parses the text of every read afresh.  Whatever happens
between two reads of a text, what is remembered of it stays what parsing gives.
-/

namespace BinaryRecords

/-- A session without a memo. -/
structure MemolessSession (σ : Type) where
  source : Option Source
  schema : Schema
  host : Host σ
  hostState : σ

variable {σ α : Type}

/-- What remains of a session when its layouts are forgotten. -/
def Session.withoutMemo (session : Session σ) : MemolessSession σ :=
  ⟨session.source, session.schema, session.host, session.hostState⟩

namespace MemolessSession

open Session (Operation Answer View)

def new (host : Host σ) (hostState : σ) : MemolessSession σ :=
  ⟨none, .empty, host, hostState⟩

/-- A session with an empty memo in addition. -/
def withMemo (session : MemolessSession σ) : Session σ :=
  ⟨session.source, session.schema, .empty, session.host, session.hostState⟩

def view (session : MemolessSession σ) : View :=
  ⟨session.source, session.schema⟩

/-- Read items as the text describes them, whether or not it has been read before. -/
def readItems (session : MemolessSession σ) (text : String) :
    Except Error (List Value) × MemolessSession σ :=
  match session.source with
  | none => (.error .noSource, session)
  | some source =>
      match Layout.parseItems text with
      | .ok items =>
          let (result, after, hostState) :=
            source.decode (session.schema.decodeItems session.host items) session.hostState
          (result, { session with source := some after, hostState := hostState })
      | .error failure => (.error failure, session)

/-- Only reading items has to do with a memo. -/
def perform (session : MemolessSession σ) :
    Operation σ → Except Error Answer × MemolessSession σ
  | .readItems text =>
      let (result, after) := session.readItems text
      (result.map .values, after)
  | operation =>
      let (answer, after) := session.withMemo.perform operation
      (answer, after.withoutMemo)

def performAll (session : MemolessSession σ) (operations : List (Operation σ)) :
    MemolessSession σ :=
  operations.foldl (fun session operation => (session.perform operation).2) session

/-- The answers to some operations, each with what can be seen after it. -/
def transcript (session : MemolessSession σ) :
    List (Operation σ) → List (Except Error Answer × View)
  | [] => []
  | operation :: operations =>
      ((session.perform operation).1, (session.perform operation).2.view) ::
        (session.perform operation).2.transcript operations

end MemolessSession

namespace Session

/-- An outcome of which the layouts that are remembered are forgotten. -/
def forgetting (outcome : Except Error α × Session σ) : Except Error α × MemolessSession σ :=
  (outcome.1, outcome.2.withoutMemo)

theorem readItems_withoutMemo {session : Session σ} (isSound : session.memo.IsSound)
    (text : String) :
    session.withoutMemo.readItems text = forgetting (session.readItems text) := by
  obtain ⟨_ | source, schema, memo, host, hostState⟩ := session
  · rfl
  · cases parsed : Layout.parseItems text with
    | error failure =>
        obtain ⟨after, asked, _⟩ := isSound.parse_of_error parsed
        rw [readItems_of_error rfl asked]
        simp only [MemolessSession.readItems, withoutMemo, parsed]
        rfl
    | ok items =>
        obtain ⟨place, after, asked, _⟩ := isSound.parse_of_ok parsed
        rw [readItems_of_ok rfl asked]
        simp only [MemolessSession.readItems, withoutMemo, parsed]
        rfl

theorem readShape_withoutMemo (session : Session σ) (shape : Shape) (name : String) :
    forgetting (session.withoutMemo.withMemo.readShape shape name) =
      forgetting (session.readShape shape name) := by
  have read : session.withoutMemo.withMemo.readRecord name =
      ((session.readRecord name).1, (session.readRecord name).2.withoutMemo.withMemo) := by
    obtain ⟨_ | source, schema, memo, host, hostState⟩ := session <;> rfl
  rcases run : session.readRecord name with ⟨failure | record, after⟩
  · rw [run] at read
    rw [readShape_of_error run, readShape_of_error read]
    rfl
  · rw [run] at read
    cases fits : shape.ofRecord record with
    | ok extract =>
        rw [readShape_of_ok run fits, readShape_of_ok read fits]
        rfl
    | error failure =>
        rw [readShape_of_unfit run fits, readShape_of_unfit read fits]
        rfl

theorem declare_withoutMemo (session : Session σ) (nameText fieldsText : String) :
    forgetting (session.withoutMemo.withMemo.declare nameText fieldsText) =
      forgetting (session.declare nameText fieldsText) := by
  unfold declare
  simp only [withoutMemo, MemolessSession.withMemo]
  split <;> rfl

theorem forgetting_answered {first second : Except Error α × Session σ}
    (same : forgetting first = forgetting second) (answer : α → Answer) :
    forgetting (answered answer first) = forgetting (answered answer second) :=
  congrArg (fun outcome => (outcome.1.map answer, outcome.2)) same

/-- One operation has the same outcome without a memo. -/
theorem perform_withoutMemo {session : Session σ} (isSound : session.memo.IsSound)
    (operation : Operation σ) :
    session.withoutMemo.perform operation = forgetting (session.perform operation) := by
  cases operation with
  | readItems text =>
      simp only [MemolessSession.perform, readItems_withoutMemo isSound]
      rfl
  | readShape shape name => exact forgetting_answered (readShape_withoutMemo session shape name) _
  | declare nameText fieldsText =>
      exact forgetting_answered (declare_withoutMemo session nameText fieldsText) _
  | openSource machine locator =>
      simp only [MemolessSession.perform, perform, openSource]
      cases Source.openLocator machine locator <;> rfl
  | readRecord name | moveTo position | find needle limit =>
      obtain ⟨_ | source, schema, memo, host, hostState⟩ := session <;> rfl
  | setHost host hostState | install source | close | describe name | clearSchema => rfl

theorem transcript_withoutMemo {session : Session σ} (isSound : session.memo.IsSound)
    (operations : List (Operation σ)) :
    session.withoutMemo.transcript operations = session.transcript operations := by
  induction operations generalizing session with
  | nil => rfl
  | cons operation operations induction =>
      rw [MemolessSession.transcript, transcript, perform_withoutMemo isSound]
      simp only [forgetting, induction (isSound_perform isSound operation)]
      rfl

theorem performAll_withoutMemo {session : Session σ} (isSound : session.memo.IsSound)
    (operations : List (Operation σ)) :
    session.withoutMemo.performAll operations = (session.performAll operations).withoutMemo := by
  induction operations generalizing session with
  | nil => rfl
  | cons operation operations induction =>
      rw [MemolessSession.performAll, List.foldl_cons, perform_withoutMemo isSound]
      exact induction (isSound_perform isSound operation)

/-- A session answers to all operations as it would without a memo.  The memo itself
answers to all texts as parsing does, has as many places as distinct texts have been
parsed with success, and gives all successes of a text the place of the first one. -/
theorem remembering_changes_no_answer (σ : Type) :
    (∀ (host : Host σ) hostState operations,
      (new host hostState).transcript operations =
          (MemolessSession.new host hostState).transcript operations ∧
        ((new host hostState).performAll operations).withoutMemo =
          (MemolessSession.new host hostState).performAll operations) ∧
    ∀ texts : List String,
      (Layout.Memo.empty.transcript texts).map (Except.map Layout.Remembered.items) =
          texts.map Layout.parseItems ∧
        (Layout.Memo.empty.parseAll texts).size =
          (texts.filter fun text => (Layout.parseItems text).isOk).dedup.length ∧
        ∀ text other remembered another,
          (text, Except.ok remembered) ∈ texts.zip (Layout.Memo.empty.transcript texts) →
          (other, Except.ok another) ∈ texts.zip (Layout.Memo.empty.transcript texts) →
            (text = other → remembered = another) ∧
              (remembered.place = another.place → text = other) := by
  have isSound := Layout.Memo.isSound_empty
  constructor
  · intro host hostState operations
    have newSound : (new host hostState).memo.IsSound := isSound
    exact ⟨(transcript_withoutMemo newSound operations).symm,
      (performAll_withoutMemo newSound operations).symm⟩
  · intro texts
    refine ⟨isSound.map_items_transcript texts, Layout.Memo.size_parseAll_empty texts, ?_⟩
    intro text other remembered another success otherSuccess
    exact Layout.Memo.shares_exactly_same_text success otherSuccess

theorem remembering_changes_no_answer_spaced :
    let texts := ["u8 u16", "u8#2", "u8  u16", "u8 u16"]
    (Layout.Memo.empty.parseAll texts).size = 2 ∧
      ∃ first failure spaced again,
        Layout.Memo.empty.transcript texts =
            [.ok first, .error failure, .ok spaced, .ok again] ∧
          first = again ∧ first.place ≠ spaced.place := by
  intro texts
  obtain ⟨_, size_eq, shares⟩ := (remembering_changes_no_answer Nat).2 texts
  let items : List Item :=
    [{ type := .builtin (.integer .u8) }, { type := .builtin (.integer .u16) }]
  have answers_eq : Layout.Memo.empty.transcript texts = [.ok ⟨0, items⟩,
      .error (.unexpectedToken (.length 2)), .ok ⟨1, items⟩, .ok ⟨0, items⟩] := by
    decide +kernel
  rw [answers_eq] at shares
  refine ⟨size_eq.trans (by decide +kernel), _, _, _, _, answers_eq, ?_, ?_⟩
  · exact (shares "u8 u16" "u8 u16" _ _ (by simp [texts]) (by simp [texts])).1 rfl
  · intro place_eq
    have same := (shares "u8 u16" "u8  u16" _ _ (by simp [texts]) (by simp [texts])).2 place_eq
    exact absurd same (by decide)

end Session

end BinaryRecords
