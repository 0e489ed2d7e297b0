import BinaryRecords.Host.Table

/-!
# States of a host that answer alike

Two states of a host can be told apart only by calls.  They answer alike if every
call is answered in the same way in both, whatever has been called before.  If
calls do not change the answers of a host, all states that they lead to are alike.
-/

namespace BinaryRecords

namespace Host

variable {σ : Type} {host : Host σ}

/-- The state of a host after some calls. -/
def afterCalls (host : Host σ) (state : σ) (names : List String) : σ :=
  names.foldl (fun state name => (host name state).2) state

/-- Whether related states answer every call in the same way, with related states
after it. -/
def IsBisimulation (host : Host σ) (related : σ → σ → Prop) : Prop :=
  ∀ name first second, related first second →
    (host name first).1 = (host name second).1 ∧
      related (host name first).2 (host name second).2

/-- Whether two states of a host give the same answer to every call after any
calls. -/
def Alike (host : Host σ) (first second : σ) : Prop :=
  ∀ names name, (host name (host.afterCalls first names)).1 =
    (host name (host.afterCalls second names)).1

/-- Whether the answers of a host in a state do not depend on the calls before. -/
def Steady (host : Host σ) (state : σ) : Prop :=
  ∀ names name, (host name (host.afterCalls state names)).1 = (host name state).1

theorem afterCalls_append (state : σ) (names others : List String) :
    host.afterCalls state (names ++ others) =
      host.afterCalls (host.afterCalls state names) others :=
  List.foldl_append

theorem afterCalls_concat (state : σ) (names : List String) (name : String) :
    host.afterCalls state (names ++ [name]) = (host name (host.afterCalls state names)).2 :=
  afterCalls_append state names [name]

namespace Alike

theorem refl (state : σ) : host.Alike state state := by
  intro names name
  rfl

end Alike

theorem isBisimulation_alike : host.IsBisimulation host.Alike := by
  intro called first second alike
  constructor
  · exact alike [] called
  · intro names name
    exact alike (called :: names) name

/-- Whether some calls lead from one state of a host to another. -/
def LeadsTo (host : Host σ) (state after : σ) : Prop :=
  ∃ names, after = host.afterCalls state names

namespace Steady

theorem alike {state after : σ} (steady : host.Steady state)
    (leads : host.LeadsTo state after) : host.Alike after state := by
  obtain ⟨names, rfl⟩ := leads
  intro others name
  rw [← afterCalls_append, steady, steady]

theorem isBisimulation {state : σ} (steady : host.Steady state) :
    host.IsBisimulation fun first second =>
      host.LeadsTo state first ∧ host.LeadsTo state second := by
  rintro called _ _ ⟨⟨names, rfl⟩, others, rfl⟩
  refine ⟨(steady names called).trans (steady others called).symm, ?_, ?_⟩
  · exact ⟨names ++ [called], (afterCalls_concat state names called).symm⟩
  · exact ⟨others ++ [called], (afterCalls_concat state others called).symm⟩

end Steady

end Host

end BinaryRecords
