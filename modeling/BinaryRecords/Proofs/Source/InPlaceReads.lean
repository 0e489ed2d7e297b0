import BinaryRecords.Proofs.Source.InPlace

/-!
# Reading in place

On a source that is not too large no read in place comes to a fault, and all have the
outcomes of reading at a cursor.
-/

namespace BinaryRecords

variable {σ α : Type}

namespace InPlace

/-- Whether something is read in place as it is at a cursor: a success passes over some
bytes, and a failure leaves the source as it was. -/
def Reads (action : InPlace σ α) (read : Cursor → Except Error (α × Cursor)) : Prop :=
  ∀ (source : Source) (state : σ), source.IsBounded →
    (∃ result bytes after, read source.cursor = .ok (result, after) ∧
      source.cursor.Passes bytes after ∧ action source state =
        some (.ok result, { source with position := after.position }, state)) ∨
    ∃ failure, read source.cursor = .error failure ∧
      action source state = some (.error failure, source, state)

/-- What is made of so many bytes is read in place. -/
theorem reads_of_span {width : Nat} {action : InPlace σ α} (convert : List UInt8 → α)
    (enough : ∀ (source : Source) (state : σ), source.IsBounded →
      width ≤ source.remaining.length → action source state =
        some (.ok (convert (source.remaining.take width)),
          { source with position := source.position + width }, state))
    (lacking : ∀ (source : Source) (state : σ), source.IsBounded →
      source.remaining.length < width → action source state =
        some (.error (source.cursor.insufficient width), source, state)) :
    action.Reads fun cursor => (cursor.readBytes width).map fun read =>
      (convert read.1, read.2) := by
  intro source state bounded
  rcases Nat.lt_or_ge source.remaining.length width with less | fits
  · have failed : source.cursor.readBytes width = .error (source.cursor.insufficient width) :=
      Cursor.readBytes_of_lt less
    exact Or.inr ⟨_, by simp only [failed, Except.map], lacking source state bounded less⟩
  · have read : source.cursor.readBytes width =
        .ok (source.remaining.take width, source.cursor.advance width) :=
      Cursor.readBytes_of_le fits
    exact Or.inl ⟨_, _, _, by simp only [read, Except.map], Cursor.passes_advance fits,
      enough source state bounded fits⟩

theorem reads_readScalar (width : Nat) (convert : List UInt8 → α) :
    (readScalar width convert : InPlace σ α).Reads fun cursor =>
      (cursor.readBytes width).map fun read => (convert read.1, read.2) := by
  apply reads_of_span convert
  · intro source state bounded enough
    rw [readScalar, bind_of_ok (span_of_le bounded state enough),
      bind_of_ok (consume_eq bounded state enough)]
    rfl
  · intro source state bounded lacking
    exact bind_of_error (span_of_lt bounded state lacking)

theorem reads_readInteger (type : IntegerType) :
    (readInteger type : InPlace σ Int64).Reads (Cursor.readInteger type) :=
  reads_readScalar type.width fun bytes => Int64.ofInt (type.ofBytes bytes)

theorem reads_readFloat (type : FloatType) :
    (readFloat type : InPlace σ Binary64).Reads (Cursor.readFloat type) :=
  reads_readScalar type.width type.ofBytes

theorem reads_skip (count : Nat) :
    (skip count : InPlace σ Unit).Reads fun cursor =>
      (cursor.skip count).map fun after => ((), after) := by
  simp only [Cursor.map_skip]
  apply reads_of_span fun _ => ()
  · intro source state bounded enough
    rw [skip, bind_of_ok (span_of_le bounded state enough), consume_eq bounded state enough]
  · intro source state bounded lacking
    exact bind_of_error (span_of_lt bounded state lacking)

section

variable {text bytes rest : List UInt8}

theorem findIdx?_zero_of_notMem (noZero : 0 ∉ bytes) : bytes.findIdx? (· == 0) = none := by
  apply List.findIdx?_eq_none_iff.mpr
  intro byte member
  apply beq_false_of_ne
  rintro rfl
  exact noZero member

theorem findIdx?_zero_append (noZero : 0 ∉ text) :
    (text ++ 0 :: rest).findIdx? (· == 0) = some text.length := by
  rw [List.findIdx?_append, findIdx?_zero_of_notMem noZero, List.findIdx?_cons]
  simp

/-- The first zero byte, or else the end, is where the text ends. -/
theorem take_findIdx?_zero (bytes : List UInt8) :
    (bytes.findIdx? (· == 0)).getD bytes.length ≤ bytes.length ∧
      bytes.take ((bytes.findIdx? (· == 0)).getD bytes.length) = beforeZero bytes := by
  by_cases zero : 0 ∈ bytes
  · obtain ⟨text, rest, rfl, noZero⟩ := List.eq_append_cons_of_mem zero
    rw [findIdx?_zero_append noZero, beforeZero_append_zero noZero]
    simp
  · rw [findIdx?_zero_of_notMem zero, beforeZero_of_notMem zero]
    simp

end

theorem reads_readString_terminated :
    (readString 0 : InPlace σ (List UInt8)).Reads Cursor.readTerminated := by
  intro source state bounded
  by_cases zero : 0 ∈ source.remaining
  · obtain ⟨text, rest, rest_eq, noZero⟩ := List.eq_append_cons_of_mem zero
    have passes : source.cursor.Passes (text ++ [0])
        (source.cursor.advance (text ++ [0]).length) := by
      apply Cursor.passes_of_rest_eq
      rw [List.append_assoc]
      exact rest_eq
    have length_le : text.length + 1 ≤ source.remaining.length := by
      have fits := passes.length_le
      rw [List.length_append] at fits
      exact fits
    refine Or.inl ⟨text, _, _, Cursor.readTerminated_eq_ok_iff.mpr ⟨noZero, passes⟩, passes, ?_⟩
    have found : source.remaining.findIdx? (· == 0) = some text.length := by
      rw [rest_eq, findIdx?_zero_append noZero]
    have inside : text.length ≤ source.remaining.length := Nat.le_of_succ_le length_le
    rw [readString, if_pos rfl, bind_look, bind_remaining bounded]
    simp only [found, bounded.sum?_of_le length_le]
    rw [readText_eq bounded state inside length_le, rest_eq, List.take_left]
    simp [Cursor.advance, Source.cursor]
  · refine Or.inr ⟨.missingTerminator source.position, ?_, ?_⟩
    · have noRest : source.cursor.rest.dropWhile (· != 0) = [] :=
        List.dropWhile_eq_nil_iff.mpr (bne_zero_of_mem zero)
      simp only [Cursor.readTerminated, noRest]
      rfl
    · rw [readString, if_pos rfl, bind_look, bind_remaining bounded]
      simp only [findIdx?_zero_of_notMem zero]
      rfl

theorem reads_readString (length : Nat) :
    (readString length : InPlace σ (List UInt8)).Reads (Cursor.readString length) := by
  by_cases length_eq : length = 0
  · subst length_eq
    exact reads_readString_terminated
  · have read_eq : Cursor.readString length = fun cursor =>
        (cursor.readBytes length).map fun read => (beforeZero read.1, read.2) := by
      funext cursor
      rw [Cursor.readString, if_neg length_eq]
    rw [read_eq]
    apply reads_of_span beforeZero
    · intro source state bounded enough
      have length_take : (source.remaining.take length).length = length := by
        rw [List.length_take, Nat.min_eq_left enough]
      obtain ⟨inside, text_eq⟩ := take_findIdx?_zero (source.remaining.take length)
      rw [length_take] at inside text_eq
      rw [readString, if_neg length_eq, bind_of_ok (span_of_le bounded state enough),
        readText_eq bounded state (inside.trans_eq length_take.symm) enough, text_eq]
    · intro source state bounded lacking
      rw [readString, if_neg length_eq]
      exact bind_of_error (span_of_lt bounded state lacking)

theorem reads_readWideString_terminated :
    (readWideString 0 : InPlace σ (List UInt8)).Reads Cursor.readWideTerminated := by
  intro source state bounded
  have markInside := orderMarkLength_le source.remaining
  cases found : zeroUnit? (source.remaining.drop (orderMarkLength source.remaining)) with
  | none =>
      have foundRest : zeroUnit? (source.cursor.rest.drop (orderMarkLength source.cursor.rest)) =
          none := found
      refine Or.inr ⟨.missingTerminator source.position, ?_, ?_⟩
      · simp only [Cursor.readWideTerminated, foundRest]
        rfl
      · rw [readWideString, bind_look, bind_remaining bounded, if_pos rfl,
          bind_checked (slice?_length markInside)]
        simp only [found]
        rfl
  | some stop =>
      have foundRest : zeroUnit? (source.cursor.rest.drop (orderMarkLength source.cursor.rest)) =
          some stop := found
      have read : source.cursor.readWideTerminated =
          .ok ((source.remaining.drop (orderMarkLength source.remaining)).take stop,
            source.cursor.advance (orderMarkLength source.remaining + stop + 2)) := by
        simp only [Cursor.readWideTerminated, foundRest]
        rfl
      obtain ⟨_, _, _, _, _, passes⟩ := Cursor.readWideTerminated_eq_ok_iff.mp read
      have consumed_le : orderMarkLength source.remaining + stop + 2 ≤ source.remaining.length := by
        have length_eq := Nat.add_left_cancel passes.position_eq
        rw [length_eq]
        exact passes.length_le
      have inside : stop ≤
          (source.remaining.drop (orderMarkLength source.remaining)).length := by
        rw [List.length_drop]
        omega
      refine Or.inl ⟨_, _, _, read, passes, ?_⟩
      rw [readWideString, bind_look, bind_remaining bounded, if_pos rfl,
        bind_checked (slice?_length markInside)]
      simp only [found, bounded.sum?_of_le (Nat.le_of_add_right_le consumed_le), Option.bind_some,
        bounded.sum?_of_le consumed_le]
      exact readText_eq bounded state inside consumed_le

/-- The first zero unit, or else the end, is where the wide text ends. -/
theorem take_zeroUnit? (bytes : List UInt8) :
    (zeroUnit? bytes).getD bytes.length ≤ bytes.length ∧
      bytes.take ((zeroUnit? bytes).getD bytes.length) = beforeZeroUnit bytes := by
  unfold beforeZeroUnit
  cases found : zeroUnit? bytes with
  | none => simp
  | some offset =>
      obtain ⟨units, rest, _, bytes_eq, offset_eq⟩ := exists_units_of_zeroUnitFrom found
      have inside : offset ≤ bytes.length := by
        rw [offset_eq, bytes_eq, Nat.zero_add, ← length_unitBytes, List.length_append]
        exact Nat.le_add_right _ _
      exact ⟨inside, rfl⟩

theorem reads_readWideString (length : Nat) :
    (readWideString length : InPlace σ (List UInt8)).Reads (Cursor.readWideString length) := by
  by_cases length_eq : length = 0
  · subst length_eq
    exact reads_readWideString_terminated
  by_cases exceeds : largestWord < 2 * length
  · intro source state bounded
    refine Or.inr ⟨source.cursor.insufficient largestWord, ?_, ?_⟩
    · rw [Cursor.readWideString, if_neg length_eq, if_pos exceeds]
    · rw [readWideString, bind_look, bind_remaining bounded]
      simp only [if_neg length_eq, if_pos exceeds]
      exact insufficient_eq bounded state largestWord
  · have read_eq : Cursor.readWideString length = fun cursor =>
        (cursor.readBytes (2 * length)).map fun read =>
          (beforeZeroUnit (read.1.drop (orderMarkLength read.1)), read.2) := by
      funext cursor
      rw [Cursor.readWideString, if_neg length_eq, if_neg exceeds]
    rw [read_eq]
    apply reads_of_span fun bytes => beforeZeroUnit (bytes.drop (orderMarkLength bytes))
    · intro source state bounded enough
      have length_take : (source.remaining.take (2 * length)).length = 2 * length := by
        rw [List.length_take, Nat.min_eq_left enough]
      -- The mark is looked for in all that remains, but it is in front of any unit.
      have mark_eq : orderMarkLength source.remaining =
          orderMarkLength (source.remaining.take (2 * length)) := by
        have twoBytes : 2 ≤ (source.remaining.take (2 * length)).length := by omega
        have same := orderMarkLength_append (source.remaining.drop (2 * length)) twoBytes
        rwa [List.take_append_drop] at same
      have markInside := orderMarkLength_le (source.remaining.take (2 * length))
      obtain ⟨inside, text_eq⟩ := take_zeroUnit? ((source.remaining.take (2 * length)).drop
        (orderMarkLength (source.remaining.take (2 * length))))
      rw [readWideString, bind_look, bind_remaining bounded]
      simp only [if_neg length_eq, if_neg exceeds, mark_eq]
      rw [bind_of_ok (span_of_le bounded state enough), bind_checked (slice?_length markInside),
        readText_eq bounded state inside enough, text_eq]
    · intro source state bounded lacking
      rw [readWideString, bind_look, bind_remaining bounded]
      simp only [if_neg length_eq, if_neg exceeds]
      exact bind_of_error (span_of_lt bounded state lacking)

theorem moveTo_eq (source : Source) (state : σ) (position : Nat) :
    moveTo position source state =
      some ((source.moveTo position).1, (source.moveTo position).2, state) := by
  rw [moveTo, bind_look, Source.moveTo]
  split <;> rfl

section

variable {needle bytes : List UInt8}

theorem occurrenceFrom_of_short (short : bytes.length < needle.length) (offset : Nat) :
    Source.occurrenceFrom needle offset bytes = none := by
  induction bytes generalizing offset with
  | nil => rfl
  | cons byte bytes induction =>
      have notPrefix : ¬ needle.isPrefixOf (byte :: bytes) = true := by
        intro isPrefix
        have fits := (List.isPrefixOf_iff_prefix.mp isPrefix).length_le
        omega
      rw [Source.occurrenceFrom, if_neg notPrefix]
      exact induction (Nat.lt_of_succ_lt short) (offset + 1)

theorem windowOffset?_of_short {byte : UInt8} (fits : needle.length ≤ (byte :: bytes).length)
    (short : bytes.length < needle.length) :
    windowOffset? needle (byte :: bytes) =
      if (byte :: bytes).take needle.length == needle then some 0 else none := by
  have count_eq : (byte :: bytes).length - needle.length + 1 = 1 := by
    rw [List.length_cons] at fits ⊢
    omega
  rw [windowOffset?, count_eq, List.range_one, List.find?_singleton, List.drop_zero]

theorem windowOffset?_cons {byte : UInt8} (enough : needle.length ≤ bytes.length) :
    windowOffset? needle (byte :: bytes) =
      if (byte :: bytes).take needle.length == needle then some 0
      else (windowOffset? needle bytes).map (· + 1) := by
  have count_eq : (byte :: bytes).length - needle.length + 1 =
      bytes.length - needle.length + 1 + 1 := by
    rw [List.length_cons]
    omega
  rw [windowOffset?, count_eq, List.range_succ_eq_map, List.find?_cons, List.drop_zero,
    List.find?_map]
  cases (byte :: bytes).take needle.length == needle <;> rfl

/-- The first occurrence is the first window with the bytes that are looked for. -/
theorem occurrenceFrom_eq_windowOffset? (fits : needle.length ≤ bytes.length)
    (notEmpty : needle ≠ []) (offset : Nat) :
    Source.occurrenceFrom needle offset bytes = (windowOffset? needle bytes).map (offset + ·) := by
  induction bytes generalizing offset with
  | nil => exact absurd (List.eq_nil_of_length_eq_zero (Nat.le_zero.mp fits)) notEmpty
  | cons byte bytes induction =>
      have isFirst : (needle.isPrefixOf (byte :: bytes)) =
          ((byte :: bytes).take needle.length == needle) := by
        rw [Bool.eq_iff_iff, List.isPrefixOf_iff_prefix, List.prefix_iff_eq_take, beq_iff_eq]
        exact eq_comm
      rw [Source.occurrenceFrom, isFirst]
      rcases Nat.lt_or_ge bytes.length needle.length with short | enough
      · rw [occurrenceFrom_of_short short, windowOffset?_of_short fits short]
        split <;> rfl
      · rw [induction enough, windowOffset?_cons enough]
        split
        · rfl
        · rw [Option.map_map]
          congr 1
          funext found
          exact (Nat.add_assoc offset 1 found).trans (congrArg (offset + ·) (Nat.add_comm 1 found))

end

theorem find?_eq {source : Source} (bounded : source.IsBounded) (state : σ)
    (needle : List UInt8) (limit : Nat) :
    find? needle limit source state = some (.ok (source.find? needle limit), source, state) := by
  have take_eq : source.bytes.take (min limit source.size) = source.bytes.take limit :=
    List.take_eq_take_min.symm
  rw [find?, bind_look, Source.find?]
  by_cases inside : source.position ≤ min limit source.size
  · have window_eq : slice? source.bytes source.position (min limit source.size) =
        some ((source.bytes.take limit).drop source.position) := by
      rw [slice?_of_le inside (Nat.min_le_right _ _), take_eq]
    simp only [if_pos inside]
    rw [bind_checked window_eq]
    by_cases notEmpty : needle = []
    · rw [if_pos (Or.inl notEmpty), if_pos notEmpty]
      rfl
    rcases Nat.lt_or_ge ((source.bytes.take limit).drop source.position).length needle.length with
      short | fits
    · rw [if_pos (Or.inr short), if_neg notEmpty, occurrenceFrom_of_short short]
      rfl
    · have isSearched : ¬ (needle = [] ∨
          ((source.bytes.take limit).drop source.position).length < needle.length) := by
        rw [not_or, Nat.not_lt]
        exact ⟨notEmpty, fits⟩
      rw [if_neg isSearched, if_neg notEmpty, occurrenceFrom_eq_windowOffset? fits notEmpty]
      cases found : windowOffset? needle ((source.bytes.take limit).drop source.position) with
      | none => rfl
      | some offset =>
          have offset_lt := List.mem_range.mp (List.mem_of_find?_eq_some found)
          have enough : offset ≤ source.remaining.length := by
            rw [Source.remaining, List.length_drop]
            simp only [List.length_drop, List.length_take] at offset_lt
            omega
          exact bind_checked (bounded.sum?_position enough) _
  · have noWindow : (source.bytes.take limit).drop source.position = [] := by
      rw [← take_eq]
      apply List.drop_eq_nil_of_le
      rw [List.length_take]
      omega
    rw [if_neg inside, noWindow]
    split <;> rfl

end InPlace

end BinaryRecords
