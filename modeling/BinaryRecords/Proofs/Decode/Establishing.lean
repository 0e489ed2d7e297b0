import BinaryRecords.Proofs.Decode.Consuming

/-!
# What a decoding establishes

What can be said of the result of a success and of the calls that have been made for it,
by the states of the host before and after them.  In a sequence the state between its
parts connects what these establish.
-/

namespace BinaryRecords

variable {σ α β γ : Type}

namespace Decoding

/-- Whether the result of a success is related to the states of the host before it and
after it. -/
def Establishes (decode : Decoding σ α) (related : α → σ → σ → Prop) : Prop :=
  ∀ before after state endState result,
    decode before state = (.ok (result, after), endState) → related result state endState

theorem establishes_pure {related : α → σ → σ → Prop} {result : α}
    (holds : ∀ state, related result state state) :
    (pure result : Decoding σ α).Establishes related := by
  intro before after state endState found success
  cases success
  exact holds state

theorem establishes_fail (failure : Error) (related : α → σ → σ → Prop) :
    (fail failure : Decoding σ α).Establishes related := by
  intro before after state endState result success
  cases success

theorem establishes_map_ofRead {read : Cursor → Except Error (α × Cursor)} {function : α → β}
    {related : β → σ → σ → Prop}
    (reads : ∀ before after result, read before = .ok (result, after) →
      ∀ state, related (function result) state state) :
    (function <$> (ofRead read : Decoding σ α)).Establishes related := by
  intro before after state endState result success
  obtain ⟨found, outcome, rfl⟩ := map_eq_ok success
  cases congrArg Prod.snd outcome
  exact reads before after found (congrArg Prod.fst outcome) state

theorem establishes_call (host : Host σ) (function : String) :
    (call host function).Establishes fun value state after =>
      host function state = (some [value], after) := by
  intro before after state endState value success
  unfold call at success
  split at success
  · cases success
  · rename_i called
    cases success
    exact called
  · cases success

namespace Establishes

theorem bind {first : Decoding σ α} {next : α → Decoding σ β}
    {relatedFirst : α → σ → σ → Prop} {relatedNext : α → β → σ → σ → Prop}
    {related : β → σ → σ → Prop} (establishesFirst : first.Establishes relatedFirst)
    (establishesNext : ∀ intermediate, (next intermediate).Establishes (relatedNext intermediate))
    (joined : ∀ intermediate result state middle after, relatedFirst intermediate state middle →
      relatedNext intermediate result middle after → related result state after) :
    (first >>= next).Establishes related := by
  intro before after state endState result success
  obtain ⟨intermediate, middle, middleState, successFirst, successNext⟩ := bind_eq_ok success
  exact joined intermediate result state middleState endState
    (establishesFirst before middle state middleState intermediate successFirst)
    (establishesNext intermediate middle after middleState endState result successNext)

theorem map {decode : Decoding σ α} {function : α → β} {relatedFirst : α → σ → σ → Prop}
    {related : β → σ → σ → Prop} (establishes : decode.Establishes relatedFirst)
    (holds : ∀ result state after, relatedFirst result state after →
      related (function result) state after) :
    (function <$> decode).Establishes related := by
  intro before after state endState result success
  obtain ⟨intermediate, outcome, rfl⟩ := map_eq_ok success
  exact holds intermediate state endState
    (establishes before after state endState intermediate outcome)

/-- The results of two parts are put together, one after the other. -/
theorem bind_map {first : Decoding σ α} {next : Decoding σ β}
    {relatedFirst : α → σ → σ → Prop} {relatedNext : β → σ → σ → Prop}
    {related : γ → σ → σ → Prop} (establishesFirst : first.Establishes relatedFirst)
    (establishesNext : next.Establishes relatedNext) (function : α → β → γ)
    (joined : ∀ intermediate result state middle after, relatedFirst intermediate state middle →
      relatedNext result middle after → related (function intermediate result) state after) :
    (first >>= fun intermediate => function intermediate <$> next).Establishes related := by
  have mapped (intermediate : α) : (function intermediate <$> next).Establishes
      fun combined state after =>
        ∃ result, combined = function intermediate result ∧ relatedNext result state after :=
    establishesNext.map fun result _ _ holds => ⟨result, rfl, holds⟩
  refine establishesFirst.bind mapped ?_
  rintro intermediate _ state middle after holdsFirst ⟨result, rfl, holdsNext⟩
  exact joined intermediate result state middle after holdsFirst holdsNext

theorem of_source {decode : Decoding σ α} {related : α → σ → σ → Prop}
    (establishes : decode.Establishes related) {source after : Source} {state endState : σ}
    {result : α} (success : source.decode decode state = (.ok result, after, endState)) :
    related result state endState := by
  obtain ⟨cursorAfter, run, _⟩ := Source.decode_eq_ok success
  exact establishes _ _ _ _ _ run

end Establishes

end Decoding

end BinaryRecords
