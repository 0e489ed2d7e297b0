import BinaryRecords.Proofs.Decode.Composition
import BinaryRecords.Proofs.Decode.Consuming
import BinaryRecords.Proofs.Host.Alike

/-!
# Decoding with two states of a host

Decoding learns nothing about the state of a host but the answers to its calls.
So it gives the same result in two states that answer alike, and leaves two such
states behind.
-/

namespace BinaryRecords

variable {σ α β : Type} {host : Host σ} {related : σ → σ → Prop}

namespace Decoding

/-- Whether a decoding has the same result in related states, with related states
after it. -/
def Preserves (decode : Decoding σ α) (related : σ → σ → Prop) : Prop :=
  ∀ cursor first second, related first second →
    (decode cursor first).1 = (decode cursor second).1 ∧
      related (decode cursor first).2 (decode cursor second).2

theorem preserves_pure (result : α) : (pure result : Decoding σ α).Preserves related := by
  intro cursor first second holds
  exact ⟨rfl, holds⟩

theorem preserves_fail (failure : Error) :
    (fail failure : Decoding σ α).Preserves related := by
  intro cursor first second holds
  exact ⟨rfl, holds⟩

theorem preserves_ofRead (read : Cursor → Except Error (α × Cursor)) :
    (ofRead read : Decoding σ α).Preserves related := by
  intro cursor first second holds
  exact ⟨rfl, holds⟩

theorem preserves_call (isBisimulation : host.IsBisimulation related) (function : String) :
    (call host function).Preserves related := by
  intro cursor first second holds
  obtain ⟨answer_eq, holdsAfter⟩ := isBisimulation function first second holds
  rcases callFirst : host function first with ⟨values?, afterFirst⟩
  rcases callSecond : host function second with ⟨others?, afterSecond⟩
  rw [callFirst, callSecond] at answer_eq holdsAfter
  simp only at answer_eq holdsAfter
  subst answer_eq
  simp only [call, callFirst, callSecond]
  rcases values? with _ | _ | ⟨value, _ | ⟨other, values⟩⟩ <;> exact ⟨rfl, holdsAfter⟩

namespace Preserves

theorem exists_run {decode : Decoding σ α} (preserves : decode.Preserves related)
    {cursor : Cursor} {state other after : σ} {outcome : Except Error (α × Cursor)}
    (holds : related state other) (run : decode cursor state = (outcome, after)) :
    ∃ otherAfter, decode cursor other = (outcome, otherAfter) ∧ related after otherAfter := by
  obtain ⟨result_eq, holdsAfter⟩ := preserves cursor state other holds
  rw [run] at result_eq holdsAfter
  exact ⟨(decode cursor other).2, Prod.ext result_eq.symm rfl, holdsAfter⟩

theorem bind {first : Decoding σ α} {next : α → Decoding σ β}
    (preservesFirst : first.Preserves related)
    (preservesNext : ∀ result, (next result).Preserves related) :
    (first >>= next).Preserves related := by
  intro cursor state other holds
  rcases run : first cursor state with ⟨failure | ⟨result, after⟩, afterState⟩
  · obtain ⟨otherAfter, otherRun, holdsAfter⟩ := preservesFirst.exists_run holds run
    rw [bind_of_error run, bind_of_error otherRun]
    exact ⟨rfl, holdsAfter⟩
  · obtain ⟨otherAfter, otherRun, holdsAfter⟩ := preservesFirst.exists_run holds run
    rw [bind_of_ok run, bind_of_ok otherRun]
    exact preservesNext result after _ _ holdsAfter

end Preserves

/-- A decoding whose only traces in the host are calls leaves behind a state that
answers like the one before, if calls do not change the answers. -/
theorem alike_of_steady {decode : Decoding σ α} {state : σ} (steady : host.Steady state)
    (preserves : ∀ related, host.IsBisimulation related → decode.Preserves related)
    (cursor : Cursor) : host.Alike (decode cursor state).2 state := by
  have stays : host.LeadsTo state state := ⟨[], rfl⟩
  have reached := preserves _ steady.isBisimulation cursor state state ⟨stays, stays⟩
  exact steady.alike reached.2.1

end Decoding

namespace Item

variable {unit : Decoding σ Value}

theorem preserves_decodeOthers
    (repeated : ∀ count resultsReverse, (unit.repeated count resultsReverse).Preserves related)
    (item : Item) (others : Nat) (start : Cursor) (first : Value) :
    (item.decodeOthers unit others start first).Preserves related := by
  intro cursor state other holds
  unfold decodeOthers
  split
  · exact ⟨rfl, holds⟩
  · exact repeated others [first] cursor state other holds

theorem preserves_decodeArray (preserves : unit.Preserves related)
    (repeated : ∀ count resultsReverse, (unit.repeated count resultsReverse).Preserves related)
    (item : Item) : (item.decodeArray unit).Preserves related := by
  intro cursor state other holds
  cases count_eq : item.count.toNat with
  | zero =>
      rw [decodeArray_of_zero count_eq, decodeArray_of_zero count_eq]
      exact ⟨rfl, holds⟩
  | succ others =>
      rw [decodeArray_succ count_eq, decodeArray_succ count_eq]
      exact preserves.bind (preserves_decodeOthers repeated item others cursor) cursor state other
        holds

end Item

section

variable (isBisimulation : host.IsBisimulation related)
include isBisimulation

theorem Decoding.isCompositional_preserves :
    IsCompositional host fun _ decode => decode.Preserves related where
  pure := preserves_pure
  bind := Preserves.bind
  readInteger _ := preserves_ofRead _
  readFloat _ := preserves_ofRead _
  readString _ := preserves_ofRead _
  readWideString _ := preserves_ofRead _
  skipVoid _ := preserves_ofRead _
  call := preserves_call isBisimulation
  array item _ preserves repeated := item.preserves_decodeArray preserves repeated

namespace Schema

theorem preserves_decodeRecord (schema : Schema) (name : String) :
    (schema.decodeRecord host name).Preserves related :=
  (Decoding.isCompositional_preserves isBisimulation).decodeRecord
    (fun _ => Decoding.preserves_fail _) schema name

theorem preserves_decodeItems (schema : Schema) (items : List Item) :
    (schema.decodeItems host items).Preserves related :=
  (Decoding.isCompositional_preserves isBisimulation).decodeSchemaItems
    (fun _ => Decoding.preserves_fail _) schema items

end Schema

end

end BinaryRecords
