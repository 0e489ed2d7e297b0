import BinaryRecords.Proofs.Host.Tables
import BinaryRecords.Proofs.Session.Indistinguishable

/-!
# Operations that fail

An operation that fails may have remembered a layout and made calls, but it leaves
the source and the structs as they were.  If calls do not change the answers of the
host, no later operation can find out that it was ever performed.
-/

namespace BinaryRecords

namespace Session

variable {σ α : Type} {session : Session σ} {failure : Error}

/-- Whether a session keeps all of an earlier one, apart from the layouts that it
remembers and the calls that its host has answered. -/
structure Keeps (after session : Session σ) : Prop where
  source_eq : after.source = session.source
  schema_eq : after.schema = session.schema
  host_eq : after.host = session.host
  memoSound : session.memo.IsSound → after.memo.IsSound
  alike : session.host.Steady session.hostState →
    session.host.Alike after.hostState session.hostState

namespace Keeps

theorem refl (session : Session σ) : session.Keeps session :=
  ⟨rfl, rfl, rfl, id, fun _ => .refl _⟩

theorem view_eq {after : Session σ} (keeps : after.Keeps session) :
    after.view = session.view := by
  rw [view, view, keeps.source_eq, keeps.schema_eq]

theorem indistinguishable {after : Session σ} (keeps : after.Keeps session)
    (isSound : session.memo.IsSound) (steady : session.host.Steady session.hostState) :
    after.Indistinguishable session :=
  ⟨keeps.source_eq, keeps.schema_eq, keeps.host_eq, keeps.host_eq ▸ keeps.alike steady,
    keeps.memoSound isSound, isSound⟩

end Keeps

theorem answered_eq_error {answer : α → Answer} {outcome : Except Error α × Session σ}
    (failed : (answered answer outcome).1 = .error failure) : outcome.1 = .error failure := by
  rcases outcome with ⟨found | result, after⟩
  · cases failed
    rfl
  · cases failed

/-- Decoding changes nothing but the position, and that only if it succeeds, and the
state of the host. -/
theorem exists_decode_eq (session : Session σ) (source : Source) {action : Decoding σ α}
    (preserves : ∀ related, session.host.IsBisimulation related → action.Preserves related) :
    ∃ result after hostState, session.decode source action =
        (result, { session with source := some after, hostState := hostState }) ∧
      (session.host.Steady session.hostState →
        session.host.Alike hostState session.hostState) ∧
        ((∃ failure, result = .error failure) → after = source) := by
  have alike : session.host.Steady session.hostState →
      session.host.Alike (action source.cursor session.hostState).2 session.hostState :=
    fun steady => Decoding.alike_of_steady steady preserves source.cursor
  unfold Session.decode Source.decode
  rcases run : action source.cursor session.hostState with
    ⟨found | ⟨result, after⟩, hostState⟩
  · rw [run] at alike
    exact ⟨_, source, hostState, rfl, alike, fun _ => rfl⟩
  · rw [run] at alike
    refine ⟨_, _, hostState, rfl, alike, ?_⟩
    rintro ⟨failure, isError⟩
    cases isError

theorem exists_readRecord_eq (session : Session σ) (name : String) :
    ∃ result source? hostState, session.readRecord name =
        (result, { session with source := source?, hostState := hostState }) ∧
      (session.host.Steady session.hostState →
        session.host.Alike hostState session.hostState) ∧
        ((∃ failure, result = .error failure) → source? = session.source) := by
  rcases session with ⟨_ | source, schema, memo, host, hostState⟩
  · exact ⟨.error .noSource, none, hostState, rfl, fun _ => .refl _, fun _ => rfl⟩
  · obtain ⟨result, after, stateAfter, run, alike, restored⟩ :=
      exists_decode_eq ⟨some source, schema, memo, host, hostState⟩ source
        fun _ isBisimulation => schema.preserves_decodeRecord isBisimulation name
    exact ⟨result, some after, stateAfter, run, alike,
      fun failed => congrArg some (restored failed)⟩

theorem openSource_keeps {machine : Machine} {locator : String}
    (failed : (session.openSource machine locator).1 = .error failure) :
    (session.openSource machine locator).2.Keeps session := by
  unfold openSource at failed ⊢
  cases opened : Source.openLocator machine locator with
  | ok source =>
      rw [opened] at failed
      cases failed
  | error found => exact .refl session

theorem readItems_keeps {text : String}
    (failed : (session.readItems text).1 = .error failure) :
    (session.readItems text).2.Keeps session := by
  cases source_eq : session.source with
  | none =>
      rw [readItems_of_none text source_eq]
      exact .refl session
  | some source =>
      have isSoundAfter : session.memo.IsSound → (session.memo.parse text).2.IsSound :=
        fun isSound => (isSound.parse text).2
      rcases asked : session.memo.parse text with ⟨found | remembered, memo⟩ <;>
        rw [asked] at isSoundAfter
      · rw [readItems_of_error source_eq asked]
        exact ⟨rfl, rfl, rfl, isSoundAfter, fun _ => .refl _⟩
      · obtain ⟨result, after, hostState, run, alike, restored⟩ :=
          exists_decode_eq { session with memo := memo } source fun _ isBisimulation =>
            session.schema.preserves_decodeItems isBisimulation remembered.items
        rw [readItems_of_ok source_eq asked, run] at failed ⊢
        rw [restored ⟨failure, failed⟩]
        exact ⟨source_eq.symm, rfl, rfl, isSoundAfter, alike⟩

theorem readRecord_keeps {name : String}
    (failed : (session.readRecord name).1 = .error failure) :
    (session.readRecord name).2.Keeps session := by
  obtain ⟨result, source?, hostState, run, alike, restored⟩ :=
    exists_readRecord_eq session name
  rw [run] at failed ⊢
  exact ⟨restored ⟨failure, failed⟩, rfl, rfl, id, alike⟩

theorem readShape_keeps {shape : Shape} {name : String}
    (failed : (session.readShape shape name).1 = .error failure) :
    (session.readShape shape name).2.Keeps session := by
  obtain ⟨result, source?, hostState, run, alike, restored⟩ :=
    exists_readRecord_eq session name
  cases result with
  | error found =>
      rw [readShape_of_error run]
      exact ⟨restored ⟨found, rfl⟩, rfl, rfl, id, alike⟩
  | ok record =>
      cases fits : shape.ofRecord record with
      | ok extract =>
          rw [readShape_of_ok run fits] at failed
          cases failed
      | error found =>
          rw [readShape_of_unfit run fits]
          exact ⟨rfl, rfl, rfl, id, alike⟩

theorem declare_keeps {nameText fieldsText : String}
    (failed : (session.declare nameText fieldsText).1 = .error failure) :
    (session.declare nameText fieldsText).2.Keeps session := by
  unfold declare at failed ⊢
  simp only at failed ⊢
  split at failed
  · cases failed
  · exact .refl session

theorem moveTo_keeps {position : Nat}
    (failed : (session.moveTo position).1 = .error failure) :
    (session.moveTo position).2.Keeps session := by
  unfold moveTo at failed ⊢
  cases source_eq : session.source with
  | none => exact .refl session
  | some source =>
      simp only [source_eq, Source.moveTo] at failed ⊢
      by_cases exceeds : source.size < position
      · simp only [if_pos exceeds]
        exact ⟨source_eq.symm, rfl, rfl, id, fun _ => .refl _⟩
      · rw [if_neg exceeds] at failed
        cases failed

/-- Whichever operation fails, it leaves the session as it was, apart from layouts that
are remembered and calls. -/
theorem perform_keeps {operation : Operation σ}
    (failed : (session.perform operation).1 = .error failure) :
    (session.perform operation).2.Keeps session := by
  cases operation with
  | setHost host hostState => cases failed
  | install source => cases failed
  | openSource machine locator => exact openSource_keeps (answered_eq_error failed)
  | close => cases failed
  | readItems text => exact readItems_keeps (answered_eq_error failed)
  | readRecord name => exact readRecord_keeps (answered_eq_error failed)
  | readShape shape name => exact readShape_keeps (answered_eq_error failed)
  | declare nameText fieldsText => exact declare_keeps (answered_eq_error failed)
  | describe name => exact .refl session
  | clearSchema => cases failed
  | moveTo position => exact moveTo_keeps (answered_eq_error failed)
  | find needle limit => exact .refl session

/-- An operation that fails leaves the source and the structs as they were.  If calls do
not change the answers of the host, all later operations have the same outcomes as
without it. -/
theorem perform_of_error_leaves_no_trace (reachable : session.Reachable)
    {operation : Operation σ} (failed : (session.perform operation).1 = .error failure) :
    (session.perform operation).2.view = session.view ∧
      (session.host.Steady session.hostState → ∀ later,
        (session.perform operation).2.transcript later = session.transcript later) := by
  have keeps := perform_keeps failed
  refine ⟨keeps.view_eq, ?_⟩
  intro steady later
  exact (keeps.indistinguishable reachable.isSound steady).transcript_eq later

/-- A session that reads three bytes with the help of one function. -/
def levels : Session FunctionTable :=
  (new FunctionTable.host ⟨[("level", .constant (.integer 7))]⟩).install
    ⟨"levels", [1, 2, 3], 0⟩

theorem reachable_levels : levels.Reachable :=
  ⟨FunctionTable.host, _, [.install ⟨"levels", [1, 2, 3], 0⟩], rfl⟩

theorem perform_of_error_leaves_no_trace_levels :
    let operation : Operation FunctionTable := .readItems "u8 @level u32"
    (levels.perform operation).1 = .error (.insufficientData 1 4 3) ∧
      (levels.perform operation).2.view = levels.view ∧
        ∀ later, (levels.perform operation).2.transcript later = levels.transcript later := by
  intro operation
  let items : List Item :=
    [{ type := .builtin (.integer .u8) }, { type := .call "level" },
      { type := .builtin (.integer .u32) }]
  have parsed : levels.memo.parse "u8 @level u32" =
      (.ok ⟨0, items⟩, ⟨[("u8 @level u32", items)]⟩) := by
    decide +kernel
  have source_eq : levels.source = some ⟨"levels", [1, 2, 3], 0⟩ := rfl
  have failed : (levels.perform operation).1 = .error (.insufficientData 1 4 3) := by
    rw [perform, readItems_of_ok source_eq parsed]
    rfl
  have isConstant : FunctionTable.IsConstant ⟨[("level", .constant (.integer 7))]⟩ := by
    apply FunctionTable.isConstant_of_forall
    intro entry member calls others
    cases List.mem_singleton.mp member
    rfl
  have traceless := perform_of_error_leaves_no_trace reachable_levels failed
  exact ⟨failed, traceless.1, traceless.2 isConstant.steady⟩

end Session

end BinaryRecords
