import BinaryRecords.Proofs.Source.Operations
import Mathlib.Order.Bounds.Basic
import Mathlib.Order.Nat

/-!
# Finding bytes

Some bytes are found in a source exactly if they stand there, neither in front of the position
nor beyond the limit, and they are found where they do so first.  Looking for them moves
nothing.
-/

namespace BinaryRecords

namespace Source

/-- Whether some bytes stand in a source at an offset that the position has not passed, and end
neither beyond the limit nor outside of the source. -/
def HasAt (source : Source) (needle : List UInt8) (limit start : Nat) : Prop :=
  source.position ≤ start ∧ start + needle.length ≤ min source.size limit ∧
    (source.bytes.drop start).take needle.length = needle

section

variable {needle bytes : List UInt8} {offset found : Nat}

/-- Where some bytes do not stand in front, they stand at the same offsets without the byte
that does. -/
theorem setOf_isPrefix_cons {byte : UInt8} (notPrefix : ¬ needle <+: byte :: bytes) :
    {start | offset ≤ start ∧ needle <+: (byte :: bytes).drop (start - offset)} =
      {start | offset + 1 ≤ start ∧ needle <+: bytes.drop (start - (offset + 1))} := by
  ext start
  simp only [Set.mem_ofPred_eq]
  rcases Nat.lt_trichotomy start offset with before | same | behind
  · exact iff_of_false (fun first => Nat.not_le_of_lt before first.1) (by omega)
  · subst same
    rw [Nat.sub_self, List.drop_zero]
    exact iff_of_false (fun first => notPrefix first.2) (by omega)
  · have index_eq : start - offset = start - (offset + 1) + 1 := by omega
    rw [index_eq, List.drop_succ_cons]
    exact and_congr_left fun _ => iff_of_true (Nat.le_of_lt behind) behind

/-- The search goes on from one offset to the next and so comes to the first that will do. -/
theorem occurrenceFrom_eq_some_iff (notEmpty : needle ≠ []) :
    occurrenceFrom needle offset bytes = some found ↔
      IsLeast {start | offset ≤ start ∧ needle <+: bytes.drop (start - offset)} found := by
  induction bytes generalizing offset with
  | nil =>
      refine iff_of_false nofun fun least => ?_
      have isPrefix := least.1.2
      rw [List.drop_nil] at isPrefix
      exact notEmpty (List.prefix_nil.mp isPrefix)
  | cons byte bytes induction =>
      rw [occurrenceFrom]
      by_cases isPrefix : needle <+: byte :: bytes
      · have least : IsLeast
            {start | offset ≤ start ∧ needle <+: (byte :: bytes).drop (start - offset)} offset := by
          refine ⟨⟨Nat.le_refl offset, ?_⟩, fun start standing => standing.1⟩
          rwa [Nat.sub_self, List.drop_zero]
        rw [if_pos (List.isPrefixOf_iff_prefix.mpr isPrefix), Option.some_inj]
        constructor
        · rintro rfl
          exact least
        · exact least.unique
      · rw [if_neg (mt List.isPrefixOf_iff_prefix.mp isPrefix), induction,
          setOf_isPrefix_cons isPrefix]

end

section

variable {source : Source} {needle : List UInt8} {limit : Nat}

theorem hasAt_iff_isPrefix (notEmpty : needle ≠ []) {start : Nat} :
    source.HasAt needle limit start ↔ source.position ≤ start ∧
      needle <+: ((source.bytes.take limit).drop source.position).drop
        (start - source.position) := by
  apply and_congr_right
  intro onward
  have positive := List.length_pos_iff.mpr notEmpty
  rw [List.drop_drop, Nat.add_sub_of_le onward, List.drop_take, List.prefix_take_iff,
    List.prefix_iff_eq_take, Nat.le_min]
  constructor
  · rintro ⟨⟨_, inLimit⟩, stands⟩
    exact ⟨stands.symm, Nat.le_sub_of_add_le' inLimit⟩
  · rintro ⟨stands, inLimit⟩
    have inSource := congrArg List.length stands
    rw [List.length_take, List.length_drop] at inSource
    unfold size
    exact ⟨by omega, stands.symm⟩

theorem find?_eq_some_iff {offset : Nat} :
    source.find? needle limit = some offset ↔
      needle ≠ [] ∧ IsLeast {start | source.HasAt needle limit start} offset := by
  unfold find?
  by_cases isEmpty : needle = []
  · rw [if_pos isEmpty]
    exact iff_of_false nofun fun found => found.1 isEmpty
  · have notEmpty : needle ≠ [] := isEmpty
    rw [if_neg isEmpty, occurrenceFrom_eq_some_iff notEmpty, and_iff_right notEmpty]
    simp only [hasAt_iff_isPrefix notEmpty]

theorem find?_eq_none_iff :
    source.find? needle limit = none ↔
      needle = [] ∨ ∀ start, ¬ source.HasAt needle limit start := by
  rw [Option.eq_none_iff_forall_ne_some]
  constructor
  · intro noneFound
    by_contra standing
    obtain ⟨notEmpty, stands⟩ := not_or.mp standing
    classical
    have least := Nat.isLeast_find (not_forall_not.mp stands)
    exact noneFound _ (find?_eq_some_iff.mpr ⟨notEmpty, least⟩)
  · rintro nowhere offset found
    obtain ⟨notEmpty, stands, _⟩ := find?_eq_some_iff.mp found
    exact nowhere.elim notEmpty fun nowhere => nowhere offset stands

theorem find?_of_limit_lt (passed : limit < source.position) :
    source.find? needle limit = none := by
  apply find?_eq_none_iff.mpr
  right
  rintro start ⟨onward, inside, _⟩
  have inLimit := (Nat.le_min.mp inside).2
  omega

end

variable {σ : Type}

/-- Some bytes are found at an offset if and only if there are any and this is the first offset
at which they stand, at the position or behind it, and before the limit or up to it.  They are
found nowhere in all other cases, as when the position has passed the limit.  Whether this is
done in place or not, neither the source nor the state of a host is changed. -/
theorem find_is_first_occurrence (source : Source) (needle : List UInt8) (limit : UInt64)
    (state : σ) :
    (∀ offset, source.find? needle limit.toNat = some offset ↔
      needle ≠ [] ∧ IsLeast {start | source.HasAt needle limit.toNat start} offset) ∧
    (source.find? needle limit.toNat = none ↔
      needle = [] ∨ ∀ start, ¬ source.HasAt needle limit.toNat start) ∧
    (limit.toNat < source.position → source.find? needle limit.toNat = none) ∧
    source.perform state (.find needle limit) =
      (.ok (.offset (source.find? needle limit.toNat)), source, state) ∧
    (source.IsBounded → (Operation.find needle limit).inPlace source state =
      some (.ok (.offset (source.find? needle limit.toNat)), source, state)) := by
  refine ⟨fun _ => find?_eq_some_iff, find?_eq_none_iff, find?_of_limit_lt, rfl, fun bounded => ?_⟩
  exact (isSafe_of_isBounded bounded state (.find needle limit)).inPlace_eq

/-- What looks like an occurrence at first and then goes on in another way does not hide the one
that begins inside of it; that one is not found once the limit cuts off its last byte. -/
theorem find_is_first_occurrence_overlapping :
    let source : Source := ⟨"overlapping", [0, 1, 2, 1, 2, 1, 3], 1⟩
    let needle : List UInt8 := [1, 2, 1, 3]
    (IsLeast {start | source.HasAt needle 7 start} 3 ∧
      (∀ start, ¬ source.HasAt needle 6 start) ∧ source.find? needle 0 = none) ∧
    (Operation.find needle 7).inPlace source () = some (.ok (.offset (some 3)), source, ()) := by
  intro source needle
  have bounded : source.IsBounded := ⟨by decide, by decide⟩
  obtain ⟨found, _, _, _, inPlace⟩ := find_is_first_occurrence source needle 7 ()
  obtain ⟨_, nowhere, _⟩ := find_is_first_occurrence source needle 6 ()
  obtain ⟨_, _, passed, _⟩ := find_is_first_occurrence source needle 0 ()
  refine ⟨⟨((found 3).mp rfl).2, ?_, passed (by decide)⟩, inPlace bounded⟩
  exact (nowhere.mp rfl).resolve_left (by decide)

end Source

end BinaryRecords
