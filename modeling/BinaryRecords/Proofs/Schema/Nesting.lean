import BinaryRecords.Proofs.Schema.Reachable

/-!
# Nesting of structs

The meaning of a struct can also be found by name: its fields are looked up, and
inside them those of each struct that they embed, wherever it is met.  Looking up
goes no deeper than there are structs, since each embeds only structs behind it.
So the meaning found within this limit does not depend on what is supposed to lie
beyond it.
-/

namespace BinaryRecords

namespace Schema

variable {α : Type} {schema : Schema} {interpret : (String → Option α) → List Field → α}

/-- The meaning of a struct where structs are looked up by name, one inside the other.
At the limit of nesting nothing is looked up any more, and `beyond` is taken for the
meaning. -/
def expand (schema : Schema) (interpret : (String → Option α) → List Field → α)
    (beyond : String → Option α) : (limit : Nat) → String → Option α
  | 0, name => beyond name
  | limit + 1, name =>
      (schema.fields? name).map (interpret (schema.expand interpret beyond limit))

/-- The structs at the end of the list, which embed only one another, are expanded
within as many levels as there are of them. -/
theorem expand_eq_of_behind (layered : Layered schema.structs) (isLocal : IsLocal interpret)
    (beyond : String → Option α) {behind : List Struct} (layeredBehind : Layered behind)
    (agree : ∀ name, declares behind name = true →
      schema.fields? name = fieldsOf? behind name)
    {limit : Nat} (enough : behind.length ≤ limit) {name : String}
    (declared : declares behind name = true) :
    schema.expand interpret beyond limit name = schema.meaning? interpret name := by
  induction behind generalizing limit name with
  | nil => cases declared
  | cons first behind induction =>
      have agreeBehind : ∀ name, declares behind name = true →
          schema.fields? name = fieldsOf? behind name := by
        intro name declaredBehind
        rw [← fieldsOf?_cons_of_declares layeredBehind declaredBehind]
        apply agree
        simp only [declares, List.any_cons, Bool.or_eq_true]
        exact Or.inr declaredBehind
      rw [List.length_cons] at enough
      by_cases isFirst : first.name = name
      · subst isFirst
        have found : schema.fields? first.name = some first.fields := by
          rw [agree _ declared, fieldsOf?_cons, if_pos rfl]
        cases limit with
        | zero => omega
        | succ limit =>
            rw [expand, meaning?_eq layered isLocal, found, Option.map_some, Option.map_some]
            congr 1
            apply isLocal
            intro inner embeds
            exact induction layeredBehind.2.2 agreeBehind (by omega)
              (layeredBehind.2.1 inner embeds)
      · have declaredBehind : declares behind name = true := by
          simpa [declares, isFirst] using declared
        exact induction layeredBehind.2.2 agreeBehind (by omega) declaredBehind

/-- A declared struct is expanded within as many levels as there are structs. -/
theorem expand_eq_meaning? (layered : Layered schema.structs) (isLocal : IsLocal interpret)
    (beyond : String → Option α) {limit : Nat} (enough : schema.size ≤ limit) {name : String}
    (declared : schema.contains name = true) :
    schema.expand interpret beyond limit name = schema.meaning? interpret name :=
  expand_eq_of_behind layered isLocal beyond layered (fun _ _ => rfl) enough declared

end Schema

end BinaryRecords
