import BinaryRecords.Error
import Mathlib.Data.List.Forall2

/-!
# Outcomes of several steps

A step that is taken for each element of a list succeeds for the list if it does for every
element, and otherwise fails as it does for the first element for which it fails.
-/

namespace BinaryRecords

variable {α β : Type}

theorem bind_ok_eq_map (result : Except Error α) (function : α → β) :
    (result >>= fun value => .ok (function value)) = result.map function := by
  cases result <;> rfl

section

variable {result : Except Error α} {function : α → β} {failure : Error}

theorem exceptMap_eq_ok_iff {value : β} :
    result.map function = .ok value ↔
      ∃ original, result = .ok original ∧ value = function original := by
  cases result <;> simp [Except.map, eq_comm]

theorem exceptMap_eq_error_iff :
    result.map function = .error failure ↔ result = .error failure := by
  cases result <;> simp [Except.map]

theorem exceptBind_eq_ok_iff {next : α → Except Error β} {value : β} :
    (result >>= next) = .ok value ↔
      ∃ original, result = .ok original ∧ next original = .ok value := by
  cases result <;> simp [bind, Except.bind]

end

variable {step other : α → Except Error β} {inputs : List α} {outputs : List β} {failure : Error}

/-- The two ways in which a step is taken for a list that is not empty. -/
theorem mapM_cons_of_ok {input : α} {output : β} (taken : step input = .ok output) :
    (input :: inputs).mapM step = (inputs.mapM step).map (output :: ·) := by
  rw [List.mapM_cons, taken]
  rfl

theorem mapM_cons_of_error {input : α} (failed : step input = .error failure) :
    (input :: inputs).mapM step = .error failure := by
  rw [List.mapM_cons, failed]
  rfl

theorem mapM_congr (same : ∀ input ∈ inputs, step input = other input) :
    inputs.mapM step = inputs.mapM other := by
  induction inputs with
  | nil => rfl
  | cons input inputs induction =>
      rw [List.mapM_cons, List.mapM_cons, same input List.mem_cons_self,
        induction fun input member => same input (List.mem_cons_of_mem _ member)]

theorem mapM_eq_of_forall₂ {others : List α}
    (same : List.Forall₂ (fun input other => step input = step other) inputs others) :
    inputs.mapM step = others.mapM step := by
  induction same with
  | nil => rfl
  | cons same _ induction => rw [List.mapM_cons, List.mapM_cons, same, induction]

theorem mapM_eq_ok_iff :
    inputs.mapM step = .ok outputs ↔
      List.Forall₂ (fun input output => step input = .ok output) inputs outputs := by
  induction inputs generalizing outputs with
  | nil => simp [pure, Except.pure, eq_comm]
  | cons input inputs induction =>
      rw [List.forall₂_cons_left_iff]
      cases taken : step input with
      | error found => simp [mapM_cons_of_error taken]
      | ok output => simp [mapM_cons_of_ok taken, exceptMap_eq_ok_iff, induction]

theorem mapM_eq_error_iff :
    inputs.mapM step = .error failure ↔
      ∃ before input after, inputs = before ++ input :: after ∧
        (∀ earlier ∈ before, ∃ output, step earlier = .ok output) ∧
          step input = .error failure := by
  induction inputs with
  | nil => simp [pure, Except.pure]
  | cons first inputs induction =>
      cases taken : step first with
      | error found =>
          rw [mapM_cons_of_error taken, Except.error.injEq]
          constructor
          · rintro rfl
            exact ⟨[], first, inputs, rfl, nofun, taken⟩
          · rintro ⟨before, input, after, inputs_eq, success, failed⟩
            cases before with
            | nil =>
                cases inputs_eq
                rw [taken] at failed
                exact Except.error.inj failed
            | cons earlier before =>
                cases inputs_eq
                obtain ⟨output, earlierTaken⟩ := success first List.mem_cons_self
                simp [taken] at earlierTaken
      | ok output =>
          rw [mapM_cons_of_ok taken, exceptMap_eq_error_iff, induction]
          constructor
          · rintro ⟨before, input, after, rfl, success, failed⟩
            refine ⟨first :: before, input, after, rfl, ?_, failed⟩
            exact List.forall_mem_cons.mpr ⟨⟨output, taken⟩, success⟩
          · rintro ⟨before, input, after, inputs_eq, success, failed⟩
            cases before with
            | nil =>
                cases inputs_eq
                simp [taken] at failed
            | cons earlier before =>
                cases inputs_eq
                exact ⟨before, input, after, rfl, (List.forall_mem_cons.mp success).2, failed⟩

theorem exists_mapM_eq_ok_iff :
    (∃ outputs, inputs.mapM step = .ok outputs) ↔
      ∀ input ∈ inputs, ∃ output, step input = .ok output := by
  induction inputs with
  | nil => simp [pure, Except.pure]
  | cons input inputs induction =>
      rw [List.forall_mem_cons, ← induction]
      cases taken : step input with
      | error found => simp [mapM_cons_of_error taken]
      | ok output => simp [mapM_cons_of_ok taken, exceptMap_eq_ok_iff]

end BinaryRecords
