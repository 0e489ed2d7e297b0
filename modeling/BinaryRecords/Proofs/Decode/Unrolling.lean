import BinaryRecords.Proofs.Decode.FixedSize
import BinaryRecords.Proofs.Decode.InTurn
import BinaryRecords.Proofs.Format.EmptyRepeats

/-!
# Unrolling arrays

The repetitions of an array can be written out as items of their own.  They are decoded one
after the other as the elements of the array are, unless the array is refused because its
first repetition consumes nothing.  A gap is passed over at once, however often it is
repeated, and ends where its repetitions end.
-/

namespace BinaryRecords

variable {σ : Type}

namespace Item

variable {item : Item} {unit : Decoding σ Value} {host : Host σ} {decoders : Decoders σ}

/-- The repetitions of an item as items of their own. -/
def unrolled (item : Item) : List Item :=
  List.replicate item.count.toNat item.once

/-- Decoding a repetition again and again is decoding that many items. -/
theorem repeated_eq_decodeItems (isUnit : item.decodeUnit? host decoders = some unit)
    (count : Nat) (resultsReverse : List Value) :
    unit.repeated count resultsReverse =
      (resultsReverse.reverse ++ ·) <$>
        decodeItems host decoders (List.replicate count item.once) := by
  have isUnitOnce : item.once.decodeUnit? host decoders = some unit := isUnit
  induction count generalizing resultsReverse with
  | zero =>
      rw [List.replicate_zero, decodeItems, map_pure, List.append_nil]
      rfl
  | succ count induction =>
      simp only [Decoding.repeated_succ, induction, List.replicate_succ, decodeItems,
        decode_of_single isUnitOnce rfl, bind_map_left, bind_pure_comp, map_bind, Functor.map_map,
        List.reverse_cons, List.append_assoc, Option.toList_some]

/-- An array is refused after its first repetition, or is all its repetitions. -/
theorem decodeArray_eq_or (item : Item) (unit : Decoding σ Value) (cursor : Cursor) (state : σ) :
    (largestEmptyRepeat < item.count.toNat ∧ ∃ first after afterState,
      unit cursor state = (.ok (first, after), afterState) ∧ after.position = cursor.position ∧
        item.decodeArray unit cursor state =
          (.error (.emptyRepeat item.type item.count), afterState)) ∨
    item.decodeArray unit cursor state = unit.repeated item.count.toNat [] cursor state := by
  cases count_eq : item.count.toNat with
  | zero =>
      rw [decodeArray_of_zero count_eq]
      exact Or.inr rfl
  | succ others =>
      rcases run : unit cursor state with ⟨failure | ⟨first, after⟩, afterState⟩
      · refine Or.inr ?_
        rw [decodeArray_of_error count_eq run, Decoding.repeated_succ, Decoding.bind_of_error run]
      · by_cases refused : after.position = cursor.position ∧
            largestEmptyRepeat < item.count.toNat
        · exact Or.inl ⟨count_eq ▸ refused.2, first, after, afterState, rfl, refused.1,
            decodeArray_of_empty count_eq run refused⟩
        · refine Or.inr ?_
          rw [decodeArray_of_ok count_eq run refused, Decoding.repeated_succ,
            Decoding.bind_of_ok run]

/-- A gap of no more than 64 bits is skipped. -/
theorem skipVoid_of_le (bounded : item.length.toNat * item.count.toNat ≤ largestWord)
    (cursor : Cursor) :
    item.skipVoid cursor =
      (cursor.skip (item.length.toNat * item.count.toNat)).map fun after => ((), after) := by
  simp only [skipVoid, if_neg (Nat.not_lt.mpr bounded)]

theorem skipVoid_once (item : Item) (cursor : Cursor) :
    item.once.skipVoid cursor =
      (cursor.skip item.length.toNat).map fun after => ((), after) := by
  have total_eq : item.once.length.toNat * item.once.count.toNat = item.length.toNat :=
    Nat.mul_one item.length.toNat
  have bounded : item.length.toNat ≤ largestWord := Nat.le_of_lt_succ item.length.toNat_lt
  rw [← total_eq] at bounded ⊢
  exact skipVoid_of_le bounded cursor

/-- Copies of a gap succeed exactly where all their bytes follow, and leave the host alone. -/
theorem decodeItems_replicate_gap (isGap : item.decodeUnit? host decoders = none) (count : Nat)
    (cursor : Cursor) (state : σ) :
    (item.length.toNat * count ≤ cursor.rest.length ∧
      decodeItems host decoders (List.replicate count item.once) cursor state =
        (.ok ([], cursor.advance (item.length.toNat * count)), state)) ∨
    (cursor.rest.length < item.length.toNat * count ∧ ∃ failure,
      decodeItems host decoders (List.replicate count item.once) cursor state =
        (.error failure, state)) := by
  have isGapOnce : item.once.decodeUnit? host decoders = none := isGap
  induction count generalizing cursor with
  | zero =>
      rw [Nat.mul_zero, cursor.advance_zero]
      exact Or.inl ⟨Nat.zero_le _, rfl⟩
  | succ count induction =>
      simp only [List.replicate_succ, decodeItems, decode_of_none isGapOnce, bind_map_left,
        Option.toList_none, List.nil_append, bind_pure, Nat.mul_succ]
      rcases Nat.lt_or_ge cursor.rest.length item.length.toNat with lacking | enough
      · have run : (Decoding.ofRead item.once.skipVoid : Decoding σ Unit) cursor state =
            (.error (cursor.insufficient item.length.toNat), state) := by
          rw [Decoding.ofRead, item.skipVoid_once, Cursor.skip_of_lt lacking]
          rfl
        exact Or.inr ⟨by omega, _, Decoding.bind_of_error run⟩
      · have run : (Decoding.ofRead item.once.skipVoid : Decoding σ Unit) cursor state =
            (.ok ((), cursor.advance item.length.toNat), state) := by
          rw [Decoding.ofRead, item.skipVoid_once, Cursor.skip_of_le enough]
          rfl
        -- Behind the first copy the others need as many bytes fewer as there are fewer.
        have others := induction (cursor.advance item.length.toNat)
        rw [cursor.length_rest_advance, cursor.advance_advance] at others
        rw [Decoding.bind_of_ok run, Nat.add_comm (item.length.toNat * count)]
        refine others.imp (And.imp_left ?_) (And.imp_left ?_) <;> omega

end Item

/-- What is read as a single array, given the outcome of reading its elements. -/
def Source.asArray (outcome : Except Error (List Value) × Source × σ) :
    Except Error (List Value) × Source × σ :=
  (outcome.1.map fun elements => [.array elements], outcome.2)

namespace Schema

variable {schema : Schema} {item : Item}

/-- Reading an array is reading its repetitions, unless there are too many of them and the
first one leaves the position. -/
theorem decode_array_eq_or (isValue : item.type ≠ .builtin .void) (count_ne : item.count ≠ 1)
    (host : Host σ) (source : Source) (state : σ) :
    ((source.decode (schema.decodeItems host [item]) state).1 =
        .error (.emptyRepeat item.type item.count) ∧
      largestEmptyRepeat < item.count.toNat ∧ ∃ values endState,
        source.decode (schema.decodeItems host [item.once]) state =
          (.ok values, source, endState)) ∨
    source.decode (schema.decodeItems host [item]) state =
      Source.asArray (source.decode (schema.decodeItems host item.unrolled) state) := by
  obtain ⟨unit, isUnit⟩ := Item.exists_decodeUnit? isValue host (schema.decoders host)
  rw [decodeItems_singleton, Item.decode_of_array isUnit count_ne, Functor.map_map]
  obtain ⟨exceeds, first, after, afterState, run, stays, refused⟩ | unrolled :=
    item.decodeArray_eq_or unit source.cursor state
  · refine Or.inl ⟨?_, exceeds, ?_⟩
    · rw [Source.decode_map, exceptMap_eq_error_iff, Source.decode_fst_eq_error_iff, refused]
    · rw [decodeItems_once isUnit, Source.decode_stays_iff]
      exact ⟨[first], after, afterState, Decoding.map_of_ok run, stays⟩
  · refine Or.inr ?_
    have same : source.decode (item.decodeArray unit) state =
        source.decode (schema.decodeItems host item.unrolled) state := by
      simp only [Source.decode, unrolled, Item.repeated_eq_decodeItems isUnit, List.reverse_nil,
        List.nil_append, id_map', decodeItems, Item.unrolled]
    rw [Source.decode_map, same]
    rfl

/-- A gap is passed over as so many bytes are skipped. -/
theorem decode_gap_eq_skip (isGap : item.type = .builtin .void)
    (bounded : item.length.toNat * item.count.toNat ≤ largestWord) (host : Host σ)
    (source : Source) (state : σ) :
    source.decode (schema.decodeItems host [item]) state =
      let skipped := source.skip (item.length.toNat * item.count.toNat)
      (skipped.1.map fun _ => [], skipped.2, state) := by
  rw [decodeItems_singleton, Item.decode_of_none (Item.decodeUnit?_eq_none_iff.mpr isGap),
    Functor.map_map, Source.decode_map]
  simp only [Source.decode, Decoding.ofRead, Source.skip, Source.read,
    Item.skipVoid_of_le bounded]
  cases source.cursor.skip (item.length.toNat * item.count.toNat) <;> rfl

/-- Copies of a gap succeed exactly where a skip of all their bytes does, and end where it
ends. -/
theorem decode_unrolled_gap (isGap : item.type = .builtin .void) (host : Host σ)
    (source : Source) (state : σ) :
    let unrolled := source.decode (schema.decodeItems host item.unrolled) state
    let skipped := source.skip (item.length.toNat * item.count.toNat)
    unrolled.1.toOption = (skipped.1.map fun _ => []).toOption ∧
      unrolled.2 = (skipped.2, state) := by
  intro unrolled skipped
  have isNone : item.decodeUnit? host (schema.decoders host) = none :=
    Item.decodeUnit?_eq_none_iff.mpr isGap
  obtain ⟨enough, run⟩ | ⟨lacking, failure, run⟩ :=
    Item.decodeItems_replicate_gap isNone item.count.toNat source.cursor state
  · have skipped_eq : skipped = (.ok (), { source with
        position := source.position + item.length.toNat * item.count.toNat }) := by
      simp only [skipped, Source.skip, Source.read, Cursor.skip_of_le enough]
      rfl
    have unrolled_eq : unrolled = (.ok [], { source with
        position := source.position + item.length.toNat * item.count.toNat }, state) := by
      simp only [unrolled, Source.decode, decodeItems, Item.unrolled, run]
      rfl
    rw [unrolled_eq, skipped_eq]
    exact ⟨rfl, rfl⟩
  · obtain ⟨refusal, skipped_eq⟩ : ∃ refusal, skipped = (.error refusal, source) := by
      simp only [skipped, Source.skip, Source.read, Cursor.skip_of_lt lacking]
      exact ⟨_, rfl⟩
    have unrolled_eq : unrolled = (.error failure, source, state) := by
      simp only [unrolled, Source.decode, decodeItems, Item.unrolled, run]
    rw [unrolled_eq, skipped_eq]
    exact ⟨rfl, rfl⟩

/-- A host that records its calls has the same outcome. -/
theorem decode_recorded_fst (layered : Layered schema.structs) (host : Host σ) (source : Source)
    (state : σ) (calls : List String) (items : List Item) :
    (source.decode (schema.decodeItems host.recorded items) (state, calls)).1 =
      (source.decode (schema.decodeItems host items) state).1 := by
  have follows := follows_decodeItems
    fun item (_ : item ∈ items) name _ => structFollows layered host name
  obtain ⟨outcome, made, run, recordingRun, _⟩ := follows source.cursor state calls
  simp only [Source.decode, run, recordingRun]
  cases outcome <;> rfl

/-- An array is read as its repetitions are, with the same values, calls and end and the same
failure, unless it is refused in its own name after the first one.  A gap of any count is
passed over exactly where its repetitions are, and where as many bytes are skipped. -/
theorem arrays_are_unrolled (reachable : schema.Reachable) (host : Host σ) (source : Source)
    (state : σ) (calls : List String) (item : Item) :
    let whole := source.decode (schema.decodeItems host [item]) state
    let unrolled := source.decode (schema.decodeItems host item.unrolled) state
    (item.isVoid = false → item.count ≠ 1 →
      (whole.1 = .error (.emptyRepeat item.type item.count) ∧
        largestEmptyRepeat < item.count.toNat ∧ ∃ values endState,
          source.decode (schema.decodeItems host [item.once]) state =
            (.ok values, source, endState)) ∨
      (whole = Source.asArray unrolled ∧
        source.decode (schema.decodeItems host.recorded [item]) (state, calls) =
          Source.asArray (source.decode (schema.decodeItems host.recorded item.unrolled)
            (state, calls)))) ∧
    (item.isVoid = true → item.length.toNat * item.count.toNat ≤ largestWord →
      let skipped := source.skip (item.length.toNat * item.count.toNat)
      whole = (skipped.1.map fun _ => [], skipped.2, state) ∧
        unrolled.1.toOption = whole.1.toOption ∧ unrolled.2 = whole.2) := by
  intro whole unrolled
  constructor
  · intro isValue count_ne
    have notVoid := Item.isVoid_eq_false_iff.mp isValue
    have decided {τ : Type} := @decode_array_eq_or τ schema item notVoid count_ne
    obtain refused | same := decided host source state
    · exact Or.inl refused
    · -- The host that records the calls refuses an array only where the host itself does.
      obtain ⟨refused, _⟩ | recorded := decided host.recorded source (state, calls)
      · rw [decode_recorded_fst reachable.layered] at refused
        exact Or.inl ⟨refused,
          (decodeItems_eq_emptyRepeat_iff reachable.layered notVoid host source state).mp refused⟩
      · exact Or.inr ⟨same, recorded⟩
  · intro isVoid bounded skipped
    have isGap := Item.isVoid_eq_true_iff.mp isVoid
    have whole_eq : whole = (skipped.1.map fun _ => [], skipped.2, state) :=
      decode_gap_eq_skip isGap bounded host source state
    refine ⟨whole_eq, ?_⟩
    rw [whole_eq]
    exact decode_unrolled_gap isGap host source state

/-- The last of three entries lacks a byte, and is read as the last of an array or of a list.
A gap of three times two bytes ends where a skip of six bytes does. -/
theorem arrays_are_unrolled_entries :
    let entry : Item := { type := .struct "entry", count := 3 }
    let gap : Item := { type := .builtin .void, length := 2, count := 3 }
    let source : Source := ⟨"entries", [7, 8], 0⟩
    let long : Source := ⟨"long", [1, 2, 3, 4, 5, 6, 7, 8], 1⟩
    let outcome : Except Error (List Value) × Source × Nat :=
      (.error (.insufficientData 2 1 2), source, 7)
    entries.Reachable ∧ entry.isVoid = false ∧ entry.count ≠ 1 ∧
      gap.isVoid = true ∧ gap.length.toNat * gap.count.toNat ≤ largestWord ∧
      source.decode (entries.decodeItems countingHost entry.unrolled) 4 = outcome ∧
      source.decode (entries.decodeItems countingHost [entry]) 4 = outcome ∧
      long.decode (entries.decodeItems countingHost [gap]) 4 =
        (.ok [], { long with position := 7 }, 4) ∧
      (long.decode (entries.decodeItems countingHost gap.unrolled) 4).2 =
        ({ long with position := 7 }, 4) := by
  intro entry gap source long outcome
  have count_ne : entry.count ≠ 1 := by decide
  have bounded : gap.length.toNat * gap.count.toNat ≤ largestWord := by decide
  have unrolled_eq : source.decode (entries.decodeItems countingHost entry.unrolled) 4 = outcome :=
    rfl
  have whole_eq : source.decode (entries.decodeItems countingHost [entry]) 4 = outcome := by
    obtain ⟨refused, _⟩ | ⟨whole_eq, _⟩ :=
      (arrays_are_unrolled reachable_entries countingHost source 4 [] entry).1 rfl count_ne
    · cases refused
    · rw [whole_eq, unrolled_eq]
      rfl
  obtain ⟨gap_eq, _, copies_eq⟩ :=
    (arrays_are_unrolled reachable_entries countingHost long 4 [] gap).2 rfl bounded
  exact ⟨reachable_entries, rfl, count_ne, rfl, bounded, unrolled_eq, whole_eq, gap_eq,
    copies_eq.trans (congrArg Prod.snd gap_eq)⟩

end Schema

end BinaryRecords
