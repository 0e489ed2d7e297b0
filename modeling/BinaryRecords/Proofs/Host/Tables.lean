import BinaryRecords.Host.Table
import BinaryRecords.Proofs.Host.Alike

/-!
# Tables that answer steadily

A call to a table changes nothing but how often a function has been called.  If no
function answers differently for that, the table is a steady host.
-/

namespace BinaryRecords

namespace FunctionTable

/-- What the function of a name answers for each number of earlier calls. -/
def answers? (table : FunctionTable) (name : String) : Option (Nat → List Value) :=
  (table.functions.lookup name).map HostFunction.answer

/-- Whether the answers of all functions are the same for every number of earlier
calls. -/
def IsConstant (table : FunctionTable) : Prop :=
  ∀ name answer, table.answers? name = some answer → ∀ calls others, answer calls = answer others

theorem isConstant_of_forall {table : FunctionTable}
    (constant : ∀ entry ∈ table.functions, ∀ calls others,
      entry.2.answer calls = entry.2.answer others) : table.IsConstant := by
  intro name answer known
  obtain ⟨function, found, rfl⟩ := Option.map_eq_some_iff.mp known
  obtain ⟨before, after, functions_eq, _⟩ := List.lookup_eq_some_iff.mp found
  apply constant (name, function)
  rw [functions_eq]
  exact List.mem_append_right _ List.mem_cons_self

theorem lookup_erase_of_ne (table : FunctionTable) {name other : String}
    (different : other ≠ name) :
    (table.erase name).functions.lookup other = table.functions.lookup other := by
  obtain ⟨functions⟩ := table
  simp only [erase]
  induction functions with
  | nil => rfl
  | cons entry functions induction =>
      obtain ⟨key, function⟩ := entry
      by_cases removed : key = name
      · have notOther : other ≠ key := by
          rw [removed]
          exact different
        rw [List.filter_cons_of_neg (by simp [removed]), induction]
        simp only [List.lookup_cons, beq_false_of_ne notOther]
      · rw [List.filter_cons_of_pos (by simp [removed])]
        simp only [List.lookup_cons, induction]

theorem answers?_call (table : FunctionTable) (called name : String) :
    (host called table).2.answers? name = table.answers? name := by
  unfold host
  cases found : table.functions.lookup called with
  | none => rfl
  | some function =>
      simp only [answers?, insert, List.lookup_cons]
      by_cases same : name = called
      · subst same
        simp [found, HostFunction.invoke]
      · simp only [beq_false_of_ne same, lookup_erase_of_ne table same]

theorem answers?_afterCalls (table : FunctionTable) (names : List String) (name : String) :
    (host.afterCalls table names).answers? name = table.answers? name := by
  induction names generalizing table with
  | nil => rfl
  | cons called names induction =>
      exact (induction (host called table).2).trans (answers?_call table called name)

theorem IsConstant.answer_eq {table other : FunctionTable} (isConstant : table.IsConstant)
    {name : String} (same : other.answers? name = table.answers? name) :
    (host name other).1 = (host name table).1 := by
  unfold answers? at same
  unfold host
  cases found : table.functions.lookup name with
  | none =>
      rw [found, Option.map_none, Option.map_eq_none_iff] at same
      rw [same]
  | some function =>
      rw [found, Option.map_some, Option.map_eq_some_iff] at same
      obtain ⟨otherFunction, otherFound, answer_eq⟩ := same
      have known : table.answers? name = some function.answer := by
        rw [answers?, found, Option.map_some]
      rw [otherFound]
      simp only [HostFunction.invoke, answer_eq]
      rw [isConstant name function.answer known otherFunction.calls function.calls]

/-- A table whose functions do not count their calls is steady. -/
theorem IsConstant.steady {table : FunctionTable} (isConstant : table.IsConstant) :
    host.Steady table := by
  intro names name
  exact isConstant.answer_eq (answers?_afterCalls table names name)

end FunctionTable

end BinaryRecords
