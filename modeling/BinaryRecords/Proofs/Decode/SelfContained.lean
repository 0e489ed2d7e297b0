import BinaryRecords.Proofs.Decode.Composition
import BinaryRecords.Proofs.Source.Strings

/-!
# Decoding depends on what it consumes

A decoding that succeeds has looked at no other bytes than those it has consumed, and
not at where they lie.  It scans far ahead for the end of a string, but whatever it
finds there it also consumes.  So the same bytes decode to the same result wherever
they follow, and a part of them that ends the source decodes to nothing.
-/

namespace BinaryRecords

variable {σ α β : Type}

namespace Decoding

/-- Whether a success is repeated, with the same result and the same calls, wherever the
bytes follow that it has consumed. -/
def SelfContained (decode : Decoding σ α) : Prop :=
  ∀ before after state endState result,
    decode before state = (.ok (result, after), endState) →
      ∃ bytes, before.Passes bytes after ∧
        ∀ other otherAfter : Cursor, other.Passes bytes otherAfter →
          decode other state = (.ok (result, otherAfter), endState)

theorem selfContained_pure (result : α) : (pure result : Decoding σ α).SelfContained := by
  intro before after state endState found success
  cases success
  refine ⟨[], before.passes_nil, ?_⟩
  intro other otherAfter passes
  rw [passes.eq_of_nil]
  rfl

theorem selfContained_fail (failure : Error) : (fail failure : Decoding σ α).SelfContained := by
  intro before after state endState found success
  cases success

/-- A read is self-contained if its result is spelled out by the bytes it passes over. -/
theorem selfContained_ofRead {read : Cursor → Except Error (α × Cursor)}
    (spells : α → List UInt8 → Prop)
    (reads : ∀ cursor after result, read cursor = .ok (result, after) ↔
      ∃ bytes, spells result bytes ∧ cursor.Passes bytes after) :
    (ofRead read : Decoding σ α).SelfContained := by
  intro before after state endState result success
  simp only [ofRead, Prod.mk.injEq] at success
  obtain ⟨outcome, rfl⟩ := success
  obtain ⟨bytes, spelled, passes⟩ := (reads before after result).mp outcome
  refine ⟨bytes, passes, ?_⟩
  intro other otherAfter otherPasses
  simp only [ofRead, (reads other otherAfter result).mpr ⟨bytes, spelled, otherPasses⟩]

theorem selfContained_map_readBytes (count : Nat) (convert : List UInt8 → α) :
    (ofRead fun cursor => (cursor.readBytes count).map
      fun read => (convert read.1, read.2) : Decoding σ α).SelfContained := by
  apply selfContained_ofRead fun result bytes => bytes.length = count ∧ result = convert bytes
  intro cursor after result
  rw [Cursor.map_readBytes_eq_ok_iff]
  simp only [and_assoc]

theorem selfContained_readString (length : Nat) :
    (ofRead (Cursor.readString length) : Decoding σ (List UInt8)).SelfContained := by
  by_cases isTerminated : length = 0
  · subst isTerminated
    apply selfContained_ofRead fun text bytes => 0 ∉ text ∧ bytes = text ++ [0]
    intro cursor after text
    rw [Cursor.readString, if_pos rfl, Cursor.readTerminated_eq_ok_iff]
    simp only [and_assoc, exists_and_left, exists_eq_left]
  · apply selfContained_ofRead fun text bytes => bytes.length = length ∧ text = beforeZero bytes
    intro cursor after text
    rw [Cursor.readString_fixed_eq_ok_iff isTerminated]
    simp only [and_assoc]

theorem selfContained_readWideString (length : Nat) :
    (ofRead (Cursor.readWideString length) : Decoding σ (List UInt8)).SelfContained := by
  by_cases isTerminated : length = 0
  · subst isTerminated
    apply selfContained_ofRead fun text bytes => ∃ mark units,
      mark.length = orderMarkLength (mark ++ unitBytes units ++ [0, 0]) ∧
        ((0, 0) : WideUnit) ∉ units ∧ text = unitBytes units ∧
          bytes = mark ++ unitBytes units ++ [0, 0]
    intro cursor after text
    rw [Cursor.readWideString, if_pos rfl, Cursor.readWideTerminated_eq_ok_iff]
    constructor
    · rintro ⟨mark, units, isMark, noZero, text_eq, passes⟩
      exact ⟨_, ⟨mark, units, isMark, noZero, text_eq, rfl⟩, passes⟩
    · rintro ⟨_, ⟨mark, units, isMark, noZero, text_eq, rfl⟩, passes⟩
      exact ⟨mark, units, isMark, noZero, text_eq, passes⟩
  · apply selfContained_ofRead fun text bytes => 2 * length ≤ largestWord ∧
      bytes.length = 2 * length ∧ text = beforeZeroUnit (bytes.drop (orderMarkLength bytes))
    intro cursor after text
    rw [Cursor.readWideString_fixed_eq_ok_iff isTerminated]
    simp only [and_assoc, exists_and_left]

theorem selfContained_skipVoid (item : Item) :
    (ofRead item.skipVoid : Decoding σ Unit).SelfContained := by
  apply selfContained_ofRead fun _ bytes =>
    item.length.toNat * item.count.toNat ≤ largestWord ∧
      bytes.length = item.length.toNat * item.count.toNat
  intro cursor after result
  rw [Item.skipVoid_eq_ok_iff]
  simp only [and_assoc, exists_and_left]

theorem selfContained_call (host : Host σ) (function : String) :
    (call host function).SelfContained := by
  intro before after state endState value success
  unfold call at success
  split at success
  · cases success
  · rename_i called
    cases success
    refine ⟨[], before.passes_nil, ?_⟩
    intro other otherAfter passes
    rw [passes.eq_of_nil]
    simp only [call, called]
  · cases success

namespace SelfContained

theorem bind {first : Decoding σ α} {next : α → Decoding σ β}
    (firstContained : first.SelfContained)
    (nextContained : ∀ result, (next result).SelfContained) :
    (first >>= next).SelfContained := by
  intro before after state endState result success
  obtain ⟨intermediate, middle, middleState, successFirst, successNext⟩ := bind_eq_ok success
  obtain ⟨bytes, passesFirst, again⟩ :=
    firstContained before middle state middleState intermediate successFirst
  obtain ⟨others, passesNext, againNext⟩ :=
    nextContained intermediate middle after middleState endState result successNext
  refine ⟨bytes ++ others, passesFirst.append passesNext, ?_⟩
  intro other otherAfter passes
  obtain ⟨otherMiddle, otherFirst, otherNext⟩ := passes.exists_middle
  rw [bind_of_ok (again other otherMiddle otherFirst)]
  exact againNext otherMiddle otherAfter otherNext

/-- Of the bytes of a success, fewer are not enough: a success on them would be another
success at the first place, which consumes less. -/
theorem exists_error_of_short {decode : Decoding σ α} (contained : decode.SelfContained)
    {before after other : Cursor} {state endState : σ} {result : α} {bytes : List UInt8}
    (success : decode before state = (.ok (result, after), endState))
    (passes : before.Passes bytes after) (isPart : other.rest <+: bytes)
    (isShort : other.rest ≠ bytes) :
    ∃ failure failedState, decode other state = (.error failure, failedState) := by
  rcases run : decode other state with ⟨failure | ⟨found, otherAfter⟩, failedState⟩
  · exact ⟨failure, failedState, rfl⟩
  · exfalso
    obtain ⟨fewer, otherPasses, again⟩ := contained other otherAfter state failedState found run
    obtain ⟨missing, rfl⟩ := isPart
    have rest_eq : before.rest = fewer ++ (otherAfter.rest ++ missing ++ after.rest) := by
      rw [passes.rest_eq, otherPasses.rest_eq]
      simp only [List.append_assoc]
    have successAgain := again before _ (Cursor.passes_of_rest_eq rest_eq)
    rw [success] at successAgain
    simp only [Prod.mk.injEq, Except.ok.injEq] at successAgain
    have position_eq := passes.position_eq
    rw [successAgain.1.2] at position_eq
    simp only [Cursor.advance, otherPasses.rest_eq, List.length_append] at position_eq
    have missing_eq : missing = [] := List.eq_nil_of_length_eq_zero (by omega)
    rw [missing_eq, List.append_nil] at isShort
    exact isShort rfl

end SelfContained

end Decoding

namespace Item

theorem selfContained_decodeArray {unit : Decoding σ Value} (contained : unit.SelfContained)
    (repeated : ∀ count resultsReverse, (unit.repeated count resultsReverse).SelfContained)
    (item : Item) : (item.decodeArray unit).SelfContained := by
  intro before after state endState elements success
  obtain ⟨count_eq, rfl, rfl, rfl⟩ |
    ⟨others, first, middle, middleState, count_eq, run, accepted, runOthers⟩ :=
    decodeArray_eq_ok success
  · refine ⟨[], after.passes_nil, ?_⟩
    intro other otherAfter passes
    rw [passes.eq_of_nil, decodeArray_of_zero count_eq]
  · obtain ⟨bytes, passesFirst, again⟩ := contained before middle state middleState first run
    obtain ⟨more, passesOthers, againOthers⟩ :=
      repeated others [first] middle after middleState endState elements runOthers
    refine ⟨bytes ++ more, passesFirst.append passesOthers, ?_⟩
    intro other otherAfter passes
    obtain ⟨otherMiddle, otherFirst, otherOthers⟩ := passes.exists_middle
    -- Whether the first repetition is empty is seen from its bytes alone.
    rw [passesFirst.position_eq_iff, ← otherFirst.position_eq_iff] at accepted
    rw [decodeArray_of_ok count_eq (again other otherMiddle otherFirst) accepted]
    exact againOthers otherMiddle otherAfter otherOthers

end Item

theorem Decoding.isCompositional_selfContained (host : Host σ) :
    IsCompositional host fun _ decode => decode.SelfContained where
  pure := selfContained_pure
  bind := SelfContained.bind
  readInteger type :=
    selfContained_map_readBytes type.width fun bytes => Int64.ofInt (type.ofBytes bytes)
  readFloat type := selfContained_map_readBytes type.width type.ofBytes
  readString := selfContained_readString
  readWideString := selfContained_readWideString
  skipVoid := selfContained_skipVoid
  call := selfContained_call host
  array item _ contained repeated := item.selfContained_decodeArray contained repeated

/-- Whether a success on a source is repeated on every other source, with the same
result, the same number of consumed bytes and the same state of the host after it, where
the consumed bytes follow the position.  On a source that ends after fewer of them,
decoding fails and leaves the position. -/
def Decoding.DependsOnConsumed (decode : Decoding σ α) : Prop :=
  ∀ (source after : Source) (state endState : σ) (result : α),
    source.decode decode state = (.ok result, after, endState) →
      ∃ consumed, consumed <+: source.remaining ∧
        after = { source with position := source.position + consumed.length } ∧
        ∀ other : Source,
          (consumed <+: other.remaining →
            other.decode decode state =
              (.ok result, { other with position := other.position + consumed.length },
                endState)) ∧
          (other.remaining <+: consumed → other.remaining ≠ consumed →
            ∃ failure failedState,
              other.decode decode state = (.error failure, other, failedState))

theorem Decoding.SelfContained.dependsOnConsumed {decode : Decoding σ α}
    (contained : decode.SelfContained) : decode.DependsOnConsumed := by
  intro source after state endState result success
  obtain ⟨cursorAfter, run, rfl⟩ := Source.decode_eq_ok success
  obtain ⟨consumed, passes, again⟩ := contained _ _ _ _ _ run
  refine ⟨consumed, ⟨cursorAfter.rest, passes.rest_eq.symm⟩, ?_, ?_⟩
  · rw [passes.position_eq]
    rfl
  · intro other
    constructor
    · rintro ⟨rest, rest_eq⟩
      have otherPasses : other.cursor.Passes consumed _ :=
        Cursor.passes_of_rest_eq rest_eq.symm
      simp only [Source.decode, again other.cursor _ otherPasses]
      rfl
    · intro isPart isShort
      have isPartAhead : other.cursor.rest <+: consumed := isPart
      obtain ⟨failure, failedState, failed⟩ :=
        contained.exists_error_of_short run passes isPartAhead isShort
      exact ⟨failure, failedState, by simp only [Source.decode, failed]⟩

namespace Schema

theorem selfContained_decodeItems (schema : Schema) (host : Host σ) (items : List Item) :
    (schema.decodeItems host items).SelfContained :=
  (Decoding.isCompositional_selfContained host).decodeSchemaItems
    (fun _ => Decoding.selfContained_fail _) schema items

theorem selfContained_decodeRecord (schema : Schema) (host : Host σ) (name : String) :
    (schema.decodeRecord host name).SelfContained :=
  (Decoding.isCompositional_selfContained host).decodeRecord
    (fun _ => Decoding.selfContained_fail _) schema name

/-- What a schema decodes depends only on the bytes that it consumes.  This also holds of
the calls to the host, as it holds where the host records them. -/
theorem decoding_depends_on_consumed (schema : Schema) (host : Host σ) :
    (∀ items, (schema.decodeItems host items).DependsOnConsumed ∧
      (schema.decodeItems host.recorded items).DependsOnConsumed) ∧
    ∀ name, (schema.decodeRecord host name).DependsOnConsumed ∧
      (schema.decodeRecord host.recorded name).DependsOnConsumed := by
  constructor
  · intro items
    exact ⟨(schema.selfContained_decodeItems host items).dependsOnConsumed,
      (schema.selfContained_decodeItems host.recorded items).dependsOnConsumed⟩
  · intro name
    exact ⟨(schema.selfContained_decodeRecord host name).dependsOnConsumed,
      (schema.selfContained_decodeRecord host.recorded name).dependsOnConsumed⟩

/-- A host whose functions all count its calls. -/
def countingHost : Host Nat :=
  fun _ count => (some [.integer (Int64.ofNat count)], count + 1)

theorem decoding_depends_on_consumed_greeting :
    let items : List Item := [{ type := .builtin (.integer .u8) }, { type := .builtin .string },
      { type := .call "serial" }]
    let decode := Schema.empty.decodeItems countingHost.recorded items
    let source : Source := ⟨"greetings", [7, 5, 104, 105, 0, 9], 1⟩
    let other : Source := ⟨"others", [1, 2, 3, 5, 104, 105, 0], 3⟩
    let short : Source := ⟨"short", [5, 104, 105], 0⟩
    source.decode decode (4, []) =
        (.ok [.integer 5, .string [104, 105], .integer 4], { source with position := 5 },
          (5, ["serial"])) ∧
      other.decode decode (4, []) =
        (.ok [.integer 5, .string [104, 105], .integer 4], { other with position := 7 },
          (5, ["serial"])) ∧
      ∃ failure failedState,
        short.decode decode (4, []) = (.error failure, short, failedState) := by
  intro items decode source other short
  have success : source.decode decode (4, []) =
      (.ok [.integer 5, .string [104, 105], .integer 4], { source with position := 5 },
        (5, ["serial"])) := rfl
  obtain ⟨consumed, isNext, after_eq, elsewhere⟩ :=
    ((decoding_depends_on_consumed Schema.empty countingHost).1 items).2 _ _ _ _ _ success
  have length_eq : consumed.length = 4 := by
    have position_eq := congrArg Source.position after_eq
    simp only [source] at position_eq
    omega
  have consumed_eq : consumed = [5, 104, 105, 0] := by
    rw [List.prefix_iff_eq_take.mp isNext, length_eq]
    rfl
  subst consumed_eq
  exact ⟨success, (elsewhere other).1 (by decide), (elsewhere short).2 (by decide) (by decide)⟩

end Schema

end BinaryRecords
