import BinaryRecords.Proofs.Outcomes
import BinaryRecords.Source.Basic
import Mathlib.Tactic.Common

/-!
# Passing over bytes

A read that succeeds takes a cursor to a later one of the same source.  The
bytes between the two say all about what the read has consumed: they determine
the later cursor, and they are joined when one read follows another.
-/

namespace BinaryRecords

namespace Cursor

/-- Whether a cursor is followed by the given bytes and they by another cursor. -/
structure Passes (before : Cursor) (bytes : List UInt8) (after : Cursor) : Prop where
  rest_eq : before.rest = bytes ++ after.rest
  position_eq : after.position = before.position + bytes.length

theorem passes_nil (cursor : Cursor) : cursor.Passes [] cursor :=
  ⟨rfl, rfl⟩

namespace Passes

theorem append {before middle after : Cursor} {first second : List UInt8}
    (passesFirst : before.Passes first middle) (passesSecond : middle.Passes second after) :
    before.Passes (first ++ second) after := by
  constructor
  · rw [passesFirst.rest_eq, passesSecond.rest_eq, List.append_assoc]
  · rw [passesSecond.position_eq, passesFirst.position_eq, List.length_append]
    omega

theorem exists_middle {before after : Cursor} {first second : List UInt8}
    (passes : before.Passes (first ++ second) after) :
    ∃ middle, before.Passes first middle ∧ middle.Passes second after := by
  refine ⟨⟨before.position + first.length, second ++ after.rest⟩, ⟨?_, rfl⟩, ⟨rfl, ?_⟩⟩
  · rw [passes.rest_eq, List.append_assoc]
  · simp only [passes.position_eq, List.length_append]
    omega

theorem eq_of_nil {before after : Cursor} (passes : before.Passes [] after) :
    after = before := by
  have rest_eq := passes.rest_eq
  have position_eq := passes.position_eq
  cases before
  cases after
  simp_all

/-- The cursor after some bytes is determined by them. -/
theorem eq_advance {before after : Cursor} {bytes : List UInt8}
    (passes : before.Passes bytes after) : after = before.advance bytes.length := by
  have rest_eq := passes.rest_eq
  have position_eq := passes.position_eq
  cases after
  simp_all [advance]

theorem length_le {before after : Cursor} {bytes : List UInt8}
    (passes : before.Passes bytes after) : bytes.length ≤ before.rest.length := by
  rw [passes.rest_eq, List.length_append]
  omega

theorem position_eq_iff {before after : Cursor} {bytes : List UInt8}
    (passes : before.Passes bytes after) :
    after.position = before.position ↔ bytes = [] := by
  rw [passes.position_eq, ← List.length_eq_zero_iff]
  omega

end Passes

theorem passes_of_rest_eq {cursor : Cursor} {bytes others : List UInt8}
    (rest_eq : cursor.rest = bytes ++ others) :
    cursor.Passes bytes (cursor.advance bytes.length) := by
  constructor
  · simp [advance, rest_eq]
  · rfl

theorem passes_advance {cursor : Cursor} {count : Nat}
    (enough : count ≤ cursor.rest.length) :
    cursor.Passes (cursor.rest.take count) (cursor.advance count) := by
  constructor
  · simp [advance]
  · simp [advance, enough]

theorem readBytes_of_le {cursor : Cursor} {count : Nat}
    (enough : count ≤ cursor.rest.length) :
    cursor.readBytes count = .ok (cursor.rest.take count, cursor.advance count) := by
  simp [readBytes, enough]

theorem readBytes_of_lt {cursor : Cursor} {count : Nat}
    (lacking : cursor.rest.length < count) :
    cursor.readBytes count = .error (cursor.insufficient count) := by
  have different : min count cursor.rest.length ≠ count := by omega
  simp only [readBytes, List.length_take, if_neg different]

theorem skip_of_le {cursor : Cursor} {count : Nat} (enough : count ≤ cursor.rest.length) :
    cursor.skip count = .ok (cursor.advance count) := by
  rw [skip, readBytes_of_le enough]
  rfl

theorem skip_of_lt {cursor : Cursor} {count : Nat} (lacking : cursor.rest.length < count) :
    cursor.skip count = .error (cursor.insufficient count) := by
  rw [skip, readBytes_of_lt lacking]
  rfl

theorem readBytes_eq_ok_iff {cursor after : Cursor} {count : Nat} {bytes : List UInt8} :
    cursor.readBytes count = .ok (bytes, after) ↔
      bytes.length = count ∧ cursor.Passes bytes after := by
  constructor
  · intro success
    rcases Nat.lt_or_ge cursor.rest.length count with lacking | enough
    · rw [readBytes_of_lt lacking] at success
      cases success
    · rw [readBytes_of_le enough] at success
      cases success
      exact ⟨by simp [enough], passes_advance enough⟩
  · rintro ⟨rfl, passes⟩
    rw [readBytes_of_le passes.length_le, ← passes.eq_advance, passes.rest_eq]
    simp

theorem readBytes_eq_error_iff {cursor : Cursor} {count : Nat} {failure : Error} :
    cursor.readBytes count = .error failure ↔
      cursor.rest.length < count ∧ failure = cursor.insufficient count := by
  rcases Nat.lt_or_ge cursor.rest.length count with lacking | enough
  · simp [readBytes_of_lt lacking, lacking, eq_comm]
  · simp [readBytes_of_le enough, Nat.not_lt.mpr enough]

theorem map_skip (cursor : Cursor) (count : Nat) :
    ((cursor.skip count).map fun after => ((), after)) =
      (cursor.readBytes count).map fun read => ((), read.2) := by
  rw [skip]
  cases cursor.readBytes count <;> rfl

/-- What is made of some bytes is read exactly where they follow. -/
theorem map_readBytes_eq_ok_iff {α : Type} {cursor after : Cursor} {count : Nat}
    (convert : List UInt8 → α) {result : α} :
    (cursor.readBytes count).map (fun read => (convert read.1, read.2)) = .ok (result, after) ↔
      ∃ bytes, bytes.length = count ∧ result = convert bytes ∧ cursor.Passes bytes after := by
  constructor
  · intro success
    obtain ⟨⟨bytes, behind⟩, outcome, pair_eq⟩ := exceptMap_eq_ok_iff.mp success
    cases pair_eq
    obtain ⟨length_eq, passes⟩ := readBytes_eq_ok_iff.mp outcome
    exact ⟨bytes, length_eq, rfl, passes⟩
  · rintro ⟨bytes, length_eq, rfl, passes⟩
    rw [readBytes_eq_ok_iff.mpr ⟨length_eq, passes⟩]
    rfl

end Cursor

/-- A source that has been read up to a cursor is at this cursor. -/
theorem Source.cursor_of_passes {source : Source} {bytes : List UInt8} {after : Cursor}
    (passes : source.cursor.Passes bytes after) :
    ({ source with position := after.position } : Source).cursor = after := by
  have position_eq : after.position = source.position + bytes.length := passes.position_eq
  have rest_eq : source.bytes.drop source.position = bytes ++ after.rest := passes.rest_eq
  have drop_eq : source.bytes.drop after.position = after.rest := by
    rw [position_eq, ← List.drop_drop, rest_eq, List.drop_left]
  simp only [cursor, remaining, drop_eq]

end BinaryRecords
