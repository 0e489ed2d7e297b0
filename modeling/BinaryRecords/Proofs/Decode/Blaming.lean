import BinaryRecords.Proofs.Decode.Failures
import BinaryRecords.Proofs.Decode.Parts
import BinaryRecords.Proofs.Source.InPlace
import BinaryRecords.Proofs.Source.StringReads

/-!
# What failures blame

A failure that names a position is about the part that begins there.  There are fewer bytes
from this position on than the failure says are needed, or none that terminates a string.
This holds although decoding has put the position of the source back, and although a need of
more than 64 bits is only said to be the greatest number of 64 bits.
-/

namespace BinaryRecords

variable {σ α β : Type}

/-- Items that fail do so at the first one that fails, where those before it have ended. -/
theorem exists_of_decodeItems_error {host : Host σ} {decoders : Decoders σ} {items : List Item}
    {cursor : Cursor} {state endState : σ} {failure : Error}
    (failed : decodeItems host decoders items cursor state = (.error failure, endState)) :
    ∃ before item behind values middle middleState, items = before ++ item :: behind ∧
      decodeItems host decoders before cursor state = (.ok (values, middle), middleState) ∧
        item.decode host decoders middle middleState = (.error failure, endState) := by
  induction items generalizing cursor state with
  | nil => cases failed
  | cons item items induction =>
      rw [decodeItems] at failed
      rcases run : item.decode host decoders cursor state with
        ⟨found | ⟨value?, after⟩, afterState⟩
      · rw [Decoding.bind_of_error run] at failed
        cases failed
        exact ⟨[], item, items, [], cursor, state, rfl, rfl, run⟩
      · rw [Decoding.bind_of_ok run, bind_pure_comp] at failed
        obtain ⟨before, other, behind, values, middle, middleState, rfl, runBefore, failedOther⟩ :=
          induction (Decoding.eq_error_of_map failed)
        refine ⟨item :: before, other, behind, value?.toList ++ values, middle, middleState, rfl,
          ?_, failedOther⟩
        rw [decodeItems, Decoding.bind_of_ok run, bind_pure_comp]
        exact Decoding.map_of_ok runBefore

/-- Whether no terminator of a string item is among some bytes: no zero byte, or no zero unit
behind the byte order mark. -/
def Item.IsUnterminatedIn (item : Item) (bytes : List UInt8) : Prop :=
  item.length = 0 ∧
    (item.type = .builtin .string ∧ 0 ∉ bytes ∨
      item.type = .builtin .wideString ∧
        ∀ offset, ¬ HasZeroUnitAt (bytes.drop (orderMarkLength bytes)) offset)

/-- Whether a failure of an item at a cursor says the truth about the item and the bytes
there. -/
inductive Item.Blames (item : Item) (cursor : Cursor) : Error → Prop
  | lacking {needed : Nat} (few : cursor.rest.length < needed) :
      Blames item cursor (.insufficientData cursor.position needed cursor.size)
  | unterminated (isUnterminated : item.IsUnterminatedIn cursor.rest) :
      Blames item cursor (.missingTerminator cursor.position)
  | functionNotDefined {name : String} (type_eq : item.type = .call name) :
      Blames item cursor (.functionNotDefined name)
  | functionArity {name : String} {count : Nat} (type_eq : item.type = .call name) :
      Blames item cursor (.functionArity name count)
  | structNotFound {name : String} (type_eq : item.type = .struct name) :
      Blames item cursor (.structNotFound name)

namespace Item

variable {item : Item} {cursor : Cursor} {failure : Error}

theorem blames_of_map_readBytes {count : Nat} {convert : List UInt8 × Cursor → α}
    (failed : (cursor.readBytes count).map convert = .error failure) :
    item.Blames cursor failure := by
  rw [exceptMap_eq_error_iff, Cursor.readBytes_eq_error_iff] at failed
  obtain ⟨few, rfl⟩ := failed
  exact .lacking few

theorem blames_of_readString (type_eq : item.type = .builtin .string)
    (failed : cursor.readString item.length.toNat = .error failure) :
    item.Blames cursor failure := by
  unfold Cursor.readString at failed
  split at failed
  · rename_i isZero
    unfold Cursor.readTerminated at failed
    split at failed
    · rename_i noRest
      cases failed
      refine .unterminated ⟨UInt64.toNat_inj.mp isZero, Or.inl ⟨type_eq, ?_⟩⟩
      intro zero
      have isOther := List.dropWhile_eq_nil_iff.mp noRest 0 zero
      cases isOther
    · cases failed
  · exact blames_of_map_readBytes failed

theorem blames_of_readWideString (type_eq : item.type = .builtin .wideString)
    (bounded : cursor.rest.length < largestWord)
    (failed : cursor.readWideString item.length.toNat = .error failure) :
    item.Blames cursor failure := by
  unfold Cursor.readWideString at failed
  split at failed
  · rename_i isZero
    unfold Cursor.readWideTerminated at failed
    simp only at failed
    split at failed
    · rename_i noUnit
      cases failed
      exact .unterminated ⟨UInt64.toNat_inj.mp isZero,
        Or.inr ⟨type_eq, not_hasZeroUnitAt_of_zeroUnitFrom noUnit⟩⟩
    · cases failed
  · split at failed
    · cases failed
      exact .lacking bounded
    · exact blames_of_map_readBytes failed

theorem blames_of_skipVoid (bounded : cursor.rest.length < largestWord)
    (failed : item.skipVoid cursor = .error failure) : item.Blames cursor failure := by
  unfold skipVoid at failed
  simp only at failed
  split at failed
  · cases failed
    exact .lacking bounded
  · rw [Cursor.map_skip] at failed
    exact blames_of_map_readBytes failed

theorem blames_of_call {function : String} (type_eq : item.type = .call function) {host : Host σ}
    {state endState : σ}
    (failed : Decoding.call host function cursor state = (.error failure, endState)) :
    item.Blames cursor failure := by
  unfold Decoding.call at failed
  split at failed
  · cases failed
    exact .functionNotDefined type_eq
  · cases failed
  · cases failed
    exact .functionArity type_eq

end Item

namespace Schema

variable {schema : Schema} {host : Host σ} {part : Item} {cursor : Cursor} {failure : Error}

theorem blames_of_unit (layered : Layered schema.structs)
    (unknown : ∀ name, part.type = .struct name → schema.fields? name = none)
    (bounded : cursor.rest.length < largestWord) {unit : Decoding σ Value}
    (isUnit : part.decodeUnit? host (schema.decoders host) = some unit) {state endState : σ}
    (failed : unit cursor state = (.error failure, endState)) : part.Blames cursor failure := by
  obtain ⟨type, length, count⟩ := part
  cases type with
  | builtin type =>
      cases type with
      | void => cases isUnit
      | integer type | float type =>
          cases isUnit
          exact Item.blames_of_map_readBytes (congrArg Prod.fst (Decoding.eq_error_of_map failed))
      | string =>
          cases isUnit
          exact Item.blames_of_readString rfl (congrArg Prod.fst (Decoding.eq_error_of_map failed))
      | wideString =>
          cases isUnit
          exact Item.blames_of_readWideString rfl bounded
            (congrArg Prod.fst (Decoding.eq_error_of_map failed))
  | call function =>
      cases isUnit
      exact Item.blames_of_call rfl failed
  | struct name =>
      cases isUnit
      have failedRecord := Decoding.eq_error_of_map failed
      change schema.decodeRecord host name cursor state = _ at failedRecord
      rw [decodeRecord_of_unknown layered host (unknown name rfl)] at failedRecord
      cases failedRecord
      exact .structNotFound rfl

/-- A part that fails says the truth about the bytes where it begins. -/
theorem IsPart.blames (layered : Layered schema.structs) (isPart : schema.IsPart part)
    (bounded : cursor.rest.length < largestWord) {state endState : σ}
    (failed : part.decode host (schema.decoders host) cursor state = (.error failure, endState)) :
    part.Blames cursor failure := by
  cases isUnit : part.decodeUnit? host (schema.decoders host) with
  | none =>
      rw [Item.decode_of_none isUnit] at failed
      exact Item.blames_of_skipVoid bounded (congrArg Prod.fst (Decoding.eq_error_of_map failed))
  | some unit =>
      obtain isVoid | ⟨count_eq, unknown⟩ := isPart
      · rw [Item.decodeUnit?_eq_none_iff.mpr (Item.isVoid_eq_true_iff.mp isVoid)] at isUnit
        cases isUnit
      · rw [Item.decode_of_single isUnit count_eq] at failed
        exact blames_of_unit layered unknown bounded isUnit (Decoding.eq_error_of_map failed)

end Schema

theorem Source.IsBounded.length_rest_lt {source : Source} (bounded : source.IsBounded) :
    source.cursor.rest.length < largestWord := by
  have length_eq : source.position + source.cursor.rest.length = source.size :=
    bounded.length_remaining
  have size_le := bounded.size_le
  unfold largestWord
  omega

namespace Schema

variable {schema : Schema} {host : Host σ} {source : Source}

/-- Whether reading some parts in turn fails at one of them: those before it are read up to a
position, and there it fails. -/
def FailsAt (schema : Schema) (host : Host σ) (source : Source) (state : σ) (parts : List Item)
    (failure : Error) (endState : σ) (part : Item) (position : Nat) : Prop :=
  ∃ before behind values middleState, parts = before ++ part :: behind ∧ schema.IsPart part ∧
    source.decode (schema.decodeItems host before) state =
      (.ok values, { source with position := position }, middleState) ∧
    ({ source with position := position } : Source).decode (schema.decodeItems host [part])
      middleState = (.error failure, { source with position := position }, endState)

/-- Whether a failure of reading some parts is one of decoding, and names the position where
the part begins that has failed, the size of the source, and more bytes than there are from
this position on or a string that is not terminated there. -/
structure TellsTruth (schema : Schema) (host : Host σ) (source : Source) (state : σ)
    (parts : List Item) (failure : Error) (endState : σ) : Prop where
  isOfDecoding : failure.IsOfData ∨ ∃ name, failure = .structNotFound name
  insufficient : ∀ {position needed size : Nat},
    failure = .insufficientData position needed size →
      source.position ≤ position ∧ position ≤ size ∧ size = source.size ∧
        size - position < needed ∧
          ∃ part, schema.FailsAt host source state parts failure endState part position
  unterminated : ∀ {position : Nat}, failure = .missingTerminator position →
    source.position ≤ position ∧ position ≤ source.size ∧
      ∃ part, part.IsUnterminatedIn (source.bytes.drop position) ∧
        schema.FailsAt host source state parts failure endState part position

/-- A failure that does not refuse an array blames a part, for what is there. -/
theorem exists_blamed (layered : Layered schema.structs) (bounded : source.IsBounded)
    {state endState : σ} {items : List Item} {failure : Error}
    (failed : schema.decodeItems host items source.cursor state = (.error failure, endState))
    (notRefused : ∀ type count, failure ≠ .emptyRepeat type count) :
    ∃ part position, source.position ≤ position ∧
      Source.IsBounded { source with position := position } ∧
      part.Blames ({ source with position := position } : Source).cursor failure ∧
      schema.FailsAt host source state (schema.parts items) failure endState part position := by
  -- Only a refused array could make the parts end in another way than the items.
  have failedParts : schema.decodeItems host (schema.parts items) source.cursor state =
      (.error failure, endState) := by
    have alike := goesAs_parts layered host items source.cursor state
    rw [failed] at alike
    generalize schema.decodeItems host (schema.parts items) source.cursor state = outcome at alike
    cases alike with
    | failed => rfl
    | refused => exact absurd rfl (notRefused _ _)
  obtain ⟨before, part, behind, values, middle, middleState, parts_eq, run, failedPart⟩ :=
    exists_of_decodeItems_error failedParts
  obtain ⟨bytes, passes, _⟩ :=
    schema.selfContained_decodeItems host before _ _ _ _ _ run
  obtain ⟨boundedMiddle, cursor_eq⟩ := bounded.of_passes passes
  have isPart : schema.IsPart part :=
    isPart_of_mem_parts layered (parts_eq ▸ List.mem_append_right _ List.mem_cons_self)
  rw [← cursor_eq] at failedPart
  refine ⟨part, middle.position, ?_, boundedMiddle, ?_, before, behind, values, middleState,
    parts_eq, isPart, ?_, ?_⟩
  · rw [passes.position_eq]
    exact Nat.le_add_right _ _
  · exact isPart.blames layered boundedMiddle.length_rest_lt failedPart
  · simp only [Source.decode, decodeItems, run]
  · rw [decodeItems_singleton, Source.decode_map]
    simp only [Source.decode, failedPart, Except.map]

theorem tellsTruth_of_decodeItems (layered : Layered schema.structs) (bounded : source.IsBounded)
    {state endState : σ} {items : List Item} {failure : Error}
    (failed : schema.decodeItems host items source.cursor state = (.error failure, endState)) :
    schema.TellsTruth host source state (schema.parts items) failure endState where
  isOfDecoding := by
    obtain isOfData | ⟨_, _, name, _, _, failure_eq⟩ :=
      failsOnly_decodeItems layered host items _ _ _ _ failed
    · exact Or.inl isOfData
    · exact Or.inr ⟨name, failure_eq⟩
  insufficient := by
    rintro position needed size rfl
    obtain ⟨part, middle, isBehind, boundedMiddle, blames, failsAt⟩ :=
      exists_blamed layered bounded failed fun type count failure_eq => by cases failure_eq
    cases blames with
    | lacking few =>
        have size_eq : (Source.cursor { source with position := middle }).size = source.size :=
          boundedMiddle.length_remaining
        refine ⟨isBehind, Nat.le_add_right _ _, size_eq, ?_, part, failsAt⟩
        rw [Cursor.size, Nat.add_sub_cancel_left]
        exact few
  unterminated := by
    rintro position rfl
    obtain ⟨part, middle, isBehind, boundedMiddle, blames, failsAt⟩ :=
      exists_blamed layered bounded failed fun type count failure_eq => by cases failure_eq
    cases blames with
    | unterminated isUnterminated =>
        exact ⟨isBehind, boundedMiddle.position_le, part, isUnterminated, failsAt⟩

/-- Reading fails only because of the data or of a struct that is not declared, and a failure
that names a position tells the truth.  Whatever has been moved or put back since, it is the
position where the part begins that has failed, which is where all parts before it have
ended.  A gap is one part whatever its count is, any other repetition one of its own. -/
theorem failures_tell_the_truth (reachable : schema.Reachable) (host : Host σ) {source : Source}
    (bounded : source.IsBounded) (state : σ) :
    (∀ items failure after endState,
      source.decode (schema.decodeItems host items) state = (.error failure, after, endState) →
        schema.TellsTruth host source state (schema.parts items) failure endState) ∧
    ∀ name failure after endState,
      source.decode (schema.decodeRecord host name) state = (.error failure, after, endState) →
        schema.TellsTruth host source state (schema.parts [{ type := .struct name }]) failure
          endState := by
  have layered := reachable.layered
  constructor
  · intro items failure after endState failed
    exact tellsTruth_of_decodeItems layered bounded (Source.decode_eq_error failed).1
  · intro name failure after endState failed
    apply tellsTruth_of_decodeItems layered bounded
    rw [decodeItems_single_struct]
    exact Decoding.bind_of_error (Source.decode_eq_error failed).1

/-- The third of three entries lacks its last byte, as a single one does where there are no
bytes, and a wide string whose zero bytes belong to different units has no terminator. -/
theorem failures_tell_the_truth_entries :
    let number : Item := { type := .call "serial" }
    let kind : Item := { type := .builtin (.integer .u8) }
    let entry : Item := { type := .struct "entry", count := 3 }
    let text : Item := { type := .builtin .wideString }
    let short : Source := ⟨"short", [7, 8], 0⟩
    let used : Source := ⟨"used", [7, 8], 2⟩
    let marked : Source := ⟨"marked", [9, 0xFF, 0xFE, 65, 0, 0], 0⟩
    entries.Reachable ∧ short.IsBounded ∧ used.IsBounded ∧ marked.IsBounded ∧
      short.decode (entries.decodeItems countingHost [entry]) 4 =
        (.error (.insufficientData 2 1 2), short, 7) ∧
      entries.parts [entry] = [number, kind, number, kind, number, kind] ∧
      entries.TellsTruth countingHost short 4 [number, kind, number, kind, number, kind]
        (.insufficientData 2 1 2) 7 ∧
      used.decode (entries.decodeRecord countingHost "entry") 4 =
        (.error (.insufficientData 2 1 2), used, 5) ∧
      entries.TellsTruth countingHost used 4 [number, kind] (.insufficientData 2 1 2) 5 ∧
      marked.decode (entries.decodeItems countingHost [kind, text]) 4 =
        (.error (.missingTerminator 1), marked, 4) ∧
      ∃ part, part.IsUnterminatedIn [0xFF, 0xFE, 65, 0, 0] ∧
        entries.FailsAt countingHost marked 4 [kind, text] (.missingTerminator 1) 4 part 1 := by
  intro number kind entry text short used marked
  have shortBounded : short.IsBounded := ⟨by decide, by decide⟩
  have usedBounded : used.IsBounded := ⟨by decide, by decide⟩
  have markedBounded : marked.IsBounded := ⟨by decide, by decide⟩
  have ofShort := failures_tell_the_truth reachable_entries countingHost shortBounded 4
  have ofUsed := failures_tell_the_truth reachable_entries countingHost usedBounded 4
  have ofMarked := failures_tell_the_truth reachable_entries countingHost markedBounded 4
  have unterminated : marked.decode (entries.decodeItems countingHost [kind, text]) 4 =
      (.error (.missingTerminator 1), marked, 4) := rfl
  exact ⟨reachable_entries, shortBounded, usedBounded, markedBounded, rfl, rfl,
    ofShort.1 [entry] _ short _ rfl, rfl, ofUsed.2 "entry" _ used _ rfl, unterminated,
    ((ofMarked.1 [kind, text] _ _ _ unterminated).unterminated rfl).2.2⟩

end Schema

end BinaryRecords
