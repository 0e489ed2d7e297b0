import BinaryRecords.Host.Table
import BinaryRecords.Source.Basic

/-!
# Decoding

Decoding moves a cursor forward and may call functions of a host.  It ends with
a result and the cursor after it, or with an error and no cursor; either way the
calls have been made, so the state of the host is that after them.
-/

namespace BinaryRecords

/-- What can be decoded at a cursor, with the help of a host with states in
`σ`. -/
def Decoding (σ α : Type) : Type :=
  Cursor → σ → Except Error (α × Cursor) × σ

namespace Decoding

variable {σ α β : Type}

def done (result : α) : Decoding σ α :=
  fun cursor state => (.ok (result, cursor), state)

def fail (failure : Error) : Decoding σ α :=
  fun _ state => (.error failure, state)

def andThen (first : Decoding σ α) (next : α → Decoding σ β) : Decoding σ β :=
  fun cursor state =>
    match first cursor state with
    | (.ok (result, after), state) => next result after state
    | (.error failure, state) => (.error failure, state)

instance : Monad (Decoding σ) where
  pure := done
  bind := andThen

instance : LawfulMonad (Decoding σ) :=
  LawfulMonad.mk' (Decoding σ)
    (by
      intro α action
      funext cursor state
      change andThen action (fun result => done result) cursor state = _
      unfold andThen
      rcases action cursor state with ⟨failure | ⟨result, after⟩, afterState⟩ <;> rfl)
    (by
      intro α β result next
      rfl)
    (by
      intro α β γ action next last
      funext cursor state
      change andThen (andThen action next) last cursor state =
        andThen action (fun result => andThen (next result) last) cursor state
      unfold andThen
      rcases action cursor state with ⟨failure | ⟨result, after⟩, afterState⟩ <;> rfl)

/-- Read from the source, without the host. -/
def ofRead (read : Cursor → Except Error (α × Cursor)) : Decoding σ α :=
  fun cursor state => (read cursor, state)

/-- Call a function of the host, which has to return exactly one value. -/
def call (host : Host σ) (function : String) : Decoding σ Value :=
  fun cursor state =>
    match host function state with
    | (none, state) => (.error (.functionNotDefined function), state)
    | (some [value], state) => (.ok (value, cursor), state)
    | (some values, state) => (.error (.functionArity function values.length), state)

/-- Decode the same a number of times, after some results that are given in
reverse. -/
def collect (decode : Decoding σ α) (count : Nat) (resultsReverse : List α)
    (cursor : Cursor) (state : σ) : Except Error (List α × Cursor) × σ :=
  match count with
  | 0 => (.ok (resultsReverse.reverse, cursor), state)
  | count + 1 =>
      match decode cursor state with
      | (.ok (result, after), state) =>
          collect decode count (result :: resultsReverse) after state
      | (.error failure, state) => (.error failure, state)

end Decoding

namespace Source

/-- Decode at the position, and leave the position after what was decoded. -/
def decode {σ α : Type} (source : Source) (action : Decoding σ α) (state : σ) :
    Except Error α × Source × σ :=
  match action source.cursor state with
  | (.ok (result, after), state) =>
      (.ok result, { source with position := after.position }, state)
  | (.error failure, state) => (.error failure, source, state)

end Source

end BinaryRecords
