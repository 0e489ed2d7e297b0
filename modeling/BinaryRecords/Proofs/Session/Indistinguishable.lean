import BinaryRecords.Proofs.Decode.Alike
import BinaryRecords.Proofs.Session.Operations

/-!
# Sessions that cannot be told apart

Two sessions may differ in what they remember and in the state of their host.  If
both remember only what parsing gives and the host answers alike in both states, no
sequence of operations tells one from the other.
-/

namespace BinaryRecords

namespace Session

variable {σ α : Type}

/-- Whether two sessions differ only in what cannot be seen by any operation. -/
structure Indistinguishable (first second : Session σ) : Prop where
  source_eq : first.source = second.source
  schema_eq : first.schema = second.schema
  host_eq : first.host = second.host
  alike : first.host.Alike first.hostState second.hostState
  soundFirst : first.memo.IsSound
  soundSecond : second.memo.IsSound

/-- Whether two outcomes have the same result and leave sessions that cannot be told
apart. -/
structure SameOutcome (first second : Except Error α × Session σ) : Prop where
  result_eq : first.1 = second.1
  indistinguishable : first.2.Indistinguishable second.2

theorem SameOutcome.exists_run {first second : Except Error α × Session σ}
    (same : SameOutcome first second) {result : Except Error α} {after : Session σ}
    (run : first = (result, after)) :
    ∃ otherAfter, second = (result, otherAfter) ∧ after.Indistinguishable otherAfter := by
  subst run
  exact ⟨second.2, Prod.ext same.result_eq.symm rfl, same.indistinguishable⟩

theorem SameOutcome.answered {first second : Except Error α × Session σ}
    (same : SameOutcome first second) (answer : α → Answer) :
    SameOutcome (answered answer first) (answered answer second) :=
  ⟨congrArg (Except.map answer) same.result_eq, same.indistinguishable⟩

namespace Indistinguishable

variable {first second : Session σ}

theorem refl {session : Session σ} (isSound : session.memo.IsSound) :
    session.Indistinguishable session :=
  ⟨rfl, rfl, rfl, .refl _, isSound, isSound⟩

theorem view_eq (same : first.Indistinguishable second) : first.view = second.view := by
  rw [view, view, same.source_eq, same.schema_eq]

theorem withSource (same : first.Indistinguishable second) (source? : Option Source) :
    Indistinguishable { first with source := source? } { second with source := source? } :=
  ⟨rfl, same.schema_eq, same.host_eq, same.alike, same.soundFirst, same.soundSecond⟩

theorem withSchema (same : first.Indistinguishable second) (schema : Schema) :
    Indistinguishable { first with schema := schema } { second with schema := schema } :=
  ⟨same.source_eq, rfl, same.host_eq, same.alike, same.soundFirst, same.soundSecond⟩

theorem withMemo (same : first.Indistinguishable second) {memo other : Layout.Memo}
    (isSound : memo.IsSound) (isSoundOther : other.IsSound) :
    Indistinguishable { first with memo := memo } { second with memo := other } :=
  ⟨same.source_eq, same.schema_eq, same.host_eq, same.alike, isSound, isSoundOther⟩

theorem decode (same : first.Indistinguishable second) (source : Source)
    {action : Decoding σ α} (preserves : action.Preserves first.host.Alike) :
    SameOutcome (first.decode source action) (second.decode source action) := by
  obtain ⟨source_eq, schema_eq, host_eq, alike, soundFirst, soundSecond⟩ := same
  unfold Session.decode Source.decode
  rcases run : action source.cursor first.hostState with ⟨failure | ⟨result, after⟩, hostState⟩
  · obtain ⟨otherState, otherRun, alikeAfter⟩ := preserves.exists_run alike run
    simp only [otherRun]
    exact ⟨rfl, rfl, schema_eq, host_eq, alikeAfter, soundFirst, soundSecond⟩
  · obtain ⟨otherState, otherRun, alikeAfter⟩ := preserves.exists_run alike run
    simp only [otherRun]
    exact ⟨rfl, rfl, schema_eq, host_eq, alikeAfter, soundFirst, soundSecond⟩

theorem readItems (same : first.Indistinguishable second) (text : String) :
    SameOutcome (first.readItems text) (second.readItems text) := by
  cases source_eq : first.source with
  | none =>
      rw [readItems_of_none text source_eq, readItems_of_none text (same.source_eq ▸ source_eq)]
      exact ⟨rfl, same⟩
  | some source =>
      have otherSource_eq : second.source = some source := same.source_eq ▸ source_eq
      cases parsed : Layout.parseItems text with
      | error failure =>
          obtain ⟨memo, asked, isSound⟩ := same.soundFirst.parse_of_error parsed
          obtain ⟨other, otherAsked, isSoundOther⟩ := same.soundSecond.parse_of_error parsed
          rw [readItems_of_error source_eq asked, readItems_of_error otherSource_eq otherAsked]
          exact ⟨rfl, same.withMemo isSound isSoundOther⟩
      | ok items =>
          obtain ⟨place, memo, asked, isSound⟩ := same.soundFirst.parse_of_ok parsed
          obtain ⟨otherPlace, other, otherAsked, isSoundOther⟩ :=
            same.soundSecond.parse_of_ok parsed
          have action_eq : second.schema.decodeItems second.host items =
              first.schema.decodeItems first.host items := by
            rw [same.schema_eq, same.host_eq]
          rw [readItems_of_ok source_eq asked, readItems_of_ok otherSource_eq otherAsked,
            action_eq]
          exact (same.withMemo isSound isSoundOther).decode source
            (first.schema.preserves_decodeItems Host.isBisimulation_alike items)

theorem readRecord (same : first.Indistinguishable second) (name : String) :
    SameOutcome (first.readRecord name) (second.readRecord name) := by
  have action_eq : second.schema.decodeRecord second.host name =
      first.schema.decodeRecord first.host name := by
    rw [same.schema_eq, same.host_eq]
  unfold Session.readRecord
  rw [← same.source_eq, action_eq]
  cases first.source with
  | none => exact ⟨rfl, same⟩
  | some source =>
      exact same.decode source
        (first.schema.preserves_decodeRecord Host.isBisimulation_alike name)

theorem readShape (same : first.Indistinguishable second) (shape : Shape) (name : String) :
    SameOutcome (first.readShape shape name) (second.readShape shape name) := by
  have read := same.readRecord name
  rcases run : first.readRecord name with ⟨failure | record, after⟩
  · obtain ⟨otherAfter, otherRun, sameAfter⟩ := read.exists_run run
    rw [readShape_of_error run, readShape_of_error otherRun]
    exact ⟨rfl, sameAfter⟩
  · obtain ⟨otherAfter, otherRun, sameAfter⟩ := read.exists_run run
    cases fits : shape.ofRecord record with
    | ok extract =>
        rw [readShape_of_ok run fits, readShape_of_ok otherRun fits]
        exact ⟨rfl, sameAfter⟩
    | error failure =>
        rw [readShape_of_unfit run fits, readShape_of_unfit otherRun fits, ← same.source_eq]
        exact ⟨rfl, sameAfter.withSource first.source⟩

theorem openSource (same : first.Indistinguishable second) (machine : Machine)
    (locator : String) :
    SameOutcome (first.openSource machine locator) (second.openSource machine locator) := by
  unfold Session.openSource
  cases Source.openLocator machine locator with
  | ok source => exact ⟨rfl, same.withSource (some source)⟩
  | error failure => exact ⟨rfl, same⟩

theorem declare (same : first.Indistinguishable second) (nameText fieldsText : String) :
    SameOutcome (first.declare nameText fieldsText) (second.declare nameText fieldsText) := by
  unfold Session.declare
  rw [← same.schema_eq]
  simp only
  split
  · exact ⟨rfl, same.withSchema _⟩
  · exact ⟨rfl, same⟩

theorem moveTo (same : first.Indistinguishable second) (position : Nat) :
    SameOutcome (first.moveTo position) (second.moveTo position) := by
  unfold Session.moveTo
  rw [← same.source_eq]
  cases first.source with
  | none => exact ⟨rfl, same⟩
  | some source => exact ⟨rfl, same.withSource _⟩

/-- One operation has the same outcome in two sessions that cannot be told apart. -/
theorem perform (same : first.Indistinguishable second) (operation : Operation σ) :
    SameOutcome (first.perform operation) (second.perform operation) := by
  cases operation with
  | setHost host hostState =>
      exact ⟨rfl, same.source_eq, same.schema_eq, rfl, .refl _, same.soundFirst,
        same.soundSecond⟩
  | install source => exact ⟨rfl, same.withSource (some source)⟩
  | openSource machine locator => exact (same.openSource machine locator).answered _
  | close => exact ⟨congrArg (Except.ok ∘ Answer.closed) same.source_eq, same.withSource none⟩
  | readItems text => exact (same.readItems text).answered _
  | readRecord name => exact (same.readRecord name).answered _
  | readShape shape name => exact (same.readShape shape name).answered _
  | declare nameText fieldsText => exact (same.declare nameText fieldsText).answered _
  | describe name =>
      refine ⟨?_, same⟩
      simp only [Session.perform, describe, same.schema_eq]
  | clearSchema => exact ⟨rfl, same.withSchema .empty⟩
  | moveTo position => exact (same.moveTo position).answered _
  | find needle limit =>
      refine ⟨?_, same⟩
      simp only [Session.perform, find, same.source_eq]

/-- No sequence of operations tells one of the sessions from the other. -/
theorem transcript_eq (same : first.Indistinguishable second)
    (operations : List (Operation σ)) :
    first.transcript operations = second.transcript operations := by
  induction operations generalizing first second with
  | nil => rfl
  | cons operation operations induction =>
      have outcome := same.perform operation
      rw [transcript, transcript, outcome.result_eq, outcome.indistinguishable.view_eq,
        induction outcome.indistinguishable]

end Indistinguishable

theorem isSound_perform {session : Session σ} (isSound : session.memo.IsSound)
    (operation : Operation σ) : (session.perform operation).2.memo.IsSound :=
  ((Indistinguishable.refl isSound).perform operation).indistinguishable.soundFirst

theorem isSound_performAll {session : Session σ} (isSound : session.memo.IsSound)
    (operations : List (Operation σ)) : (session.performAll operations).memo.IsSound := by
  induction operations generalizing session with
  | nil => exact isSound
  | cons operation operations induction => exact induction (isSound_perform isSound operation)

theorem Reachable.isSound {session : Session σ} (reachable : session.Reachable) :
    session.memo.IsSound := by
  obtain ⟨host, hostState, operations, rfl⟩ := reachable
  exact isSound_performAll Layout.Memo.isSound_empty operations

end Session

end BinaryRecords
