import BinaryRecords.Decode.Basic
import BinaryRecords.Proofs.Source.Passing

/-!
# What a decoding consumes

Two views of a decoding without calls.  `Yields` says that it succeeds wherever
certain bytes follow, and `Consumes` what can be said of the bytes that it has
passed over when it has succeeded.  Both are kept when one thing is decoded after
another.
-/

namespace BinaryRecords

variable {σ α β : Type}

namespace Decoding

theorem pure_apply (result : α) (cursor : Cursor) (state : σ) :
    (pure result : Decoding σ α) cursor state = (.ok (result, cursor), state) := rfl

theorem bind_of_ok {first : Decoding σ α} {next : α → Decoding σ β}
    {cursor middle : Cursor} {state middleState : σ} {result : α}
    (success : first cursor state = (.ok (result, middle), middleState)) :
    (first >>= next) cursor state = next result middle middleState := by
  change andThen first next cursor state = _
  simp only [andThen, success]

theorem bind_of_error {first : Decoding σ α} {next : α → Decoding σ β}
    {cursor : Cursor} {state endState : σ} {failure : Error}
    (failed : first cursor state = (.error failure, endState)) :
    (first >>= next) cursor state = (.error failure, endState) := by
  change andThen first next cursor state = _
  simp only [andThen, failed]

theorem map_of_ok {decode : Decoding σ α} {function : α → β} {cursor after : Cursor}
    {state endState : σ} {result : α}
    (success : decode cursor state = (.ok (result, after), endState)) :
    (function <$> decode) cursor state = (.ok (function result, after), endState) :=
  bind_of_ok success

theorem bind_eq_ok {first : Decoding σ α} {next : α → Decoding σ β}
    {cursor after : Cursor} {state endState : σ} {result : β}
    (success : (first >>= next) cursor state = (.ok (result, after), endState)) :
    ∃ intermediate middle middleState,
      first cursor state = (.ok (intermediate, middle), middleState) ∧
        next intermediate middle middleState = (.ok (result, after), endState) := by
  rcases outcome : first cursor state with ⟨failure | ⟨intermediate, middle⟩, middleState⟩
  · rw [bind_of_error outcome] at success
    cases success
  · rw [bind_of_ok outcome] at success
    exact ⟨intermediate, middle, middleState, rfl, success⟩

theorem map_eq_ok {decode : Decoding σ α} {function : α → β} {cursor after : Cursor}
    {state endState : σ} {result : β}
    (success : (function <$> decode) cursor state = (.ok (result, after), endState)) :
    ∃ intermediate, decode cursor state = (.ok (intermediate, after), endState) ∧
      result = function intermediate := by
  obtain ⟨intermediate, middle, middleState, outcome, same⟩ := bind_eq_ok success
  cases same
  exact ⟨intermediate, outcome, rfl⟩

theorem eq_error_of_map {decode : Decoding σ α} {function : α → β} {cursor : Cursor}
    {state endState : σ} {failure : Error}
    (failed : (function <$> decode) cursor state = (.error failure, endState)) :
    decode cursor state = (.error failure, endState) := by
  rcases run : decode cursor state with ⟨found | ⟨result, after⟩, afterState⟩
  · have mapped : (function <$> decode) cursor state = (.error found, afterState) :=
      bind_of_error run
    rw [mapped] at failed
    cases failed
    rfl
  · rw [map_of_ok run] at failed
    cases failed

/-- Whether a decoding succeeds with a result wherever the given bytes follow,
passes over them and makes no call. -/
def Yields (decode : Decoding σ α) (result : α) (bytes : List UInt8) : Prop :=
  ∀ (before after : Cursor) (state : σ), before.Passes bytes after →
    decode before state = (.ok (result, after), state)

/-- Whether the bytes that a decoding passes over when it succeeds are related to
its result. -/
def Consumes (decode : Decoding σ α) (related : α → List UInt8 → Prop) : Prop :=
  ∀ (before after : Cursor) (state endState : σ) (result : α),
    decode before state = (.ok (result, after), endState) →
      ∃ bytes, before.Passes bytes after ∧ related result bytes

theorem yields_pure (result : α) : (pure result : Decoding σ α).Yields result [] := by
  intro before after state passes
  rw [passes.eq_of_nil, pure_apply]

theorem yields_ofRead {read : Cursor → Except Error (α × Cursor)} {result : α}
    {bytes : List UInt8}
    (reads : ∀ before after : Cursor, before.Passes bytes after →
      read before = .ok (result, after)) :
    (ofRead read : Decoding σ α).Yields result bytes := by
  intro before after state passes
  simp only [ofRead, reads before after passes]

namespace Yields

theorem bind {first : Decoding σ α} {next : α → Decoding σ β} {intermediate : α}
    {result : β} {bytes others : List UInt8} (yieldsFirst : first.Yields intermediate bytes)
    (yieldsNext : (next intermediate).Yields result others) :
    (first >>= next).Yields result (bytes ++ others) := by
  intro before after state passes
  obtain ⟨middle, passesFirst, passesNext⟩ := passes.exists_middle
  rw [bind_of_ok (yieldsFirst before middle state passesFirst)]
  exact yieldsNext middle after state passesNext

theorem map {decode : Decoding σ α} {result : α} {bytes : List UInt8}
    (yields : decode.Yields result bytes) (function : α → β) :
    (function <$> decode).Yields (function result) bytes := by
  intro before after state passes
  exact map_of_ok (yields before after state passes)

end Yields

theorem consumes_pure {result : α} {related : α → List UInt8 → Prop}
    (holds : related result []) : (pure result : Decoding σ α).Consumes related := by
  intro before after state endState found success
  cases success
  exact ⟨[], before.passes_nil, holds⟩

theorem consumes_map_ofRead {read : Cursor → Except Error (α × Cursor)} {function : α → β}
    {related : β → List UInt8 → Prop}
    (reads : ∀ (before after : Cursor) (result : α), read before = .ok (result, after) →
      ∃ bytes, before.Passes bytes after ∧ related (function result) bytes) :
    (function <$> (ofRead read : Decoding σ α)).Consumes related := by
  intro before after state endState result success
  obtain ⟨found, outcome, rfl⟩ := map_eq_ok success
  exact reads before after found (congrArg Prod.fst outcome)

namespace Consumes

theorem bind {first : Decoding σ α} {next : α → Decoding σ β}
    {relatedFirst : α → List UInt8 → Prop} {related : β → List UInt8 → Prop}
    (consumesFirst : first.Consumes relatedFirst)
    (consumesNext : ∀ intermediate bytes, relatedFirst intermediate bytes →
      (next intermediate).Consumes fun result others => related result (bytes ++ others)) :
    (first >>= next).Consumes related := by
  intro before after state endState result success
  obtain ⟨intermediate, middle, middleState, successFirst, successNext⟩ := bind_eq_ok success
  obtain ⟨bytes, passesFirst, holdsFirst⟩ :=
    consumesFirst before middle state middleState intermediate successFirst
  obtain ⟨others, passesNext, holds⟩ :=
    consumesNext intermediate bytes holdsFirst middle after middleState endState result
      successNext
  exact ⟨bytes ++ others, passesFirst.append passesNext, holds⟩

theorem map {decode : Decoding σ α} {function : α → β}
    {relatedFirst : α → List UInt8 → Prop} {related : β → List UInt8 → Prop}
    (consumes : decode.Consumes relatedFirst)
    (holds : ∀ result bytes, relatedFirst result bytes → related (function result) bytes) :
    (function <$> decode).Consumes related := by
  intro before after state endState result success
  obtain ⟨intermediate, outcome, rfl⟩ := map_eq_ok success
  obtain ⟨bytes, passes, holdsFirst⟩ := consumes before after state endState _ outcome
  exact ⟨bytes, passes, holds intermediate bytes holdsFirst⟩

end Consumes

end Decoding

/-- Decoding at the position of a source succeeds as it does at its cursor. -/
theorem Source.decode_eq_ok {decode : Decoding σ α} {source after : Source}
    {state endState : σ} {result : α}
    (success : source.decode decode state = (.ok result, after, endState)) :
    ∃ cursorAfter, decode source.cursor state = (.ok (result, cursorAfter), endState) ∧
      after = { source with position := cursorAfter.position } := by
  unfold Source.decode at success
  rcases run : decode source.cursor state with ⟨failure | ⟨found, cursorAfter⟩, foundState⟩
  · rw [run] at success
    cases success
  · rw [run] at success
    cases success
    exact ⟨cursorAfter, rfl, rfl⟩

/-- Decoding that fails leaves the position of a source. -/
theorem Source.decode_eq_error {decode : Decoding σ α} {source after : Source}
    {state endState : σ} {failure : Error}
    (failed : source.decode decode state = (.error failure, after, endState)) :
    decode source.cursor state = (.error failure, endState) ∧ after = source := by
  unfold Source.decode at failed
  rcases run : decode source.cursor state with ⟨found | ⟨result, cursorAfter⟩, foundState⟩
  · rw [run] at failed
    cases failed
    exact ⟨rfl, rfl⟩
  · rw [run] at failed
    cases failed

end BinaryRecords
