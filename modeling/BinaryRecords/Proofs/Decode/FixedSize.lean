import BinaryRecords.Proofs.Decode.Items
import BinaryRecords.Proofs.Decode.Structs
import BinaryRecords.Proofs.Schema.ExactSize
import Mathlib.Algebra.Group.Nat.Defs

/-!
# Decoding what has a size

Where a size is known before anything is read, decoding agrees with it: a success
passes over exactly that many bytes, and a lack of bytes is reported only where
there are fewer.
-/

namespace BinaryRecords

/-- How something of a given size may end at a cursor, if `allowed` holds of the
failures that are no lack of bytes. -/
inductive SizedOutcome {α : Type} (allowed : Error → Prop) (cursor : Cursor) (size : Nat) :
    Except Error (α × Cursor) → Prop
  | success {result : α} (enough : size ≤ cursor.rest.length) :
      SizedOutcome allowed cursor size (.ok (result, cursor.advance size))
  | lacking {position needed total : Nat} (few : cursor.rest.length < size) :
      SizedOutcome allowed cursor size (.error (.insufficientData position needed total))
  | refused {failure : Error} (isAllowed : allowed failure) :
      SizedOutcome allowed cursor size (.error failure)

namespace Cursor

@[simp] theorem length_rest_advance (cursor : Cursor) (count : Nat) :
    (cursor.advance count).rest.length = cursor.rest.length - count := by
  simp [advance]

@[simp] theorem advance_zero (cursor : Cursor) : cursor.advance 0 = cursor := by
  simp [advance]

theorem advance_advance (cursor : Cursor) (first second : Nat) :
    (cursor.advance first).advance second = cursor.advance (first + second) := by
  simp [advance, Nat.add_assoc]

variable {allowed : Error → Prop}

theorem sizedOutcome_zero {α : Type} (cursor : Cursor) (result : α) :
    SizedOutcome allowed cursor 0 (.ok (result, cursor)) := by
  have outcome : SizedOutcome allowed cursor 0 (.ok (result, cursor.advance 0)) :=
    .success (Nat.zero_le _)
  rwa [cursor.advance_zero] at outcome

theorem sizedOutcome_map_readBytes {α : Type} (cursor : Cursor) (count : Nat)
    (convert : List UInt8 → α) :
    SizedOutcome allowed cursor count
      ((cursor.readBytes count).map fun (bytes, after) => (convert bytes, after)) := by
  rcases Nat.lt_or_ge cursor.rest.length count with few | enough
  · rw [readBytes_of_lt few]
    exact .lacking few
  · rw [readBytes_of_le enough]
    exact .success enough

theorem sizedOutcome_readString (cursor : Cursor) {length : Nat} (length_ne : length ≠ 0) :
    SizedOutcome allowed cursor length (cursor.readString length) := by
  rw [readString, if_neg length_ne]
  exact cursor.sizedOutcome_map_readBytes length beforeZero

theorem sizedOutcome_readWideString {cursor : Cursor} {length : Nat} (length_ne : length ≠ 0)
    (bounded : cursor.rest.length ≤ largestWord) :
    SizedOutcome allowed cursor (2 * length) (cursor.readWideString length) := by
  rw [readWideString, if_neg length_ne]
  split
  · rename_i exceeds
    exact .lacking (Nat.lt_of_le_of_lt bounded exceeds)
  · exact cursor.sizedOutcome_map_readBytes (2 * length)
      fun bytes => beforeZeroUnit (bytes.drop (orderMarkLength bytes))

theorem sizedOutcome_skipVoid {cursor : Cursor} (item : Item)
    (bounded : cursor.rest.length ≤ largestWord) :
    SizedOutcome allowed cursor (item.length.toNat * item.count.toNat)
      (item.skipVoid cursor) := by
  unfold Item.skipVoid
  simp only
  split
  · rename_i exceeds
    exact .lacking (Nat.lt_of_le_of_lt bounded exceeds)
  · rw [map_skip]
    exact cursor.sizedOutcome_map_readBytes _ fun _ => ()

end Cursor

namespace Decoding

variable {σ α β : Type} {allowed : Error → Prop}

/-- Whether a decoding passes over exactly so many bytes if it succeeds, and fails
only if there are fewer or for a reason that is allowed. -/
def Sized (allowed : Error → Prop) (decode : Decoding σ α) (size : Nat) : Prop :=
  ∀ (cursor : Cursor) (state : σ), cursor.rest.length ≤ largestWord →
    SizedOutcome allowed cursor size (decode cursor state).1

theorem sized_pure (result : α) : (pure result : Decoding σ α).Sized allowed 0 :=
  fun cursor _ _ => cursor.sizedOutcome_zero result

theorem sized_ofRead {read : Cursor → Except Error (α × Cursor)} {size : Nat}
    (reads : ∀ cursor : Cursor, cursor.rest.length ≤ largestWord →
      SizedOutcome allowed cursor size (read cursor)) :
    (ofRead read : Decoding σ α).Sized allowed size :=
  fun cursor _ bounded => reads cursor bounded

theorem sized_readString {length : UInt64} {size : Nat}
    (size_eq : (if length = 0 then none else some length.toNat) = some size) :
    (ofRead (Cursor.readString length.toNat) : Decoding σ (List UInt8)).Sized allowed size := by
  split at size_eq
  · cases size_eq
  · rename_i length_ne
    cases size_eq
    exact sized_ofRead fun cursor _ => cursor.sizedOutcome_readString (toNat_ne_zero length_ne)

theorem sized_readWideString {length : UInt64} {size : Nat}
    (size_eq : (if length = 0 then none else some (2 * length.toNat)) = some size) :
    (ofRead (Cursor.readWideString length.toNat) : Decoding σ (List UInt8)).Sized allowed
      size := by
  split at size_eq
  · cases size_eq
  · rename_i length_ne
    cases size_eq
    exact sized_ofRead fun cursor bounded =>
      Cursor.sizedOutcome_readWideString (toNat_ne_zero length_ne) bounded

theorem Sized.bind {first : Decoding σ α} {next : α → Decoding σ β} {size others : Nat}
    (sizedFirst : first.Sized allowed size)
    (sizedNext : ∀ result, (next result).Sized allowed others) :
    (first >>= next).Sized allowed (size + others) := by
  intro cursor state bounded
  have outcomeFirst := sizedFirst cursor state bounded
  rcases run : first cursor state with ⟨failure | ⟨result, middle⟩, middleState⟩
  · rw [run] at outcomeFirst
    rw [bind_of_error run]
    cases outcomeFirst with
    | lacking few => exact .lacking (by omega)
    | refused isAllowed => exact .refused isAllowed
  · rw [run] at outcomeFirst
    rw [bind_of_ok run]
    cases outcomeFirst with
    | success enough =>
        have outcomeNext := sizedNext result (cursor.advance size) middleState
          (by rw [Cursor.length_rest_advance]; omega)
        revert outcomeNext
        generalize (next result (cursor.advance size) middleState).1 = ending
        intro outcomeNext
        cases outcomeNext with
        | success enoughNext =>
            rw [Cursor.length_rest_advance] at enoughNext
            rw [Cursor.advance_advance]
            exact .success (by omega)
        | lacking few =>
            rw [Cursor.length_rest_advance] at few
            exact .lacking (by omega)
        | refused isAllowed => exact .refused isAllowed

theorem Sized.map {decode : Decoding σ α} {size : Nat} (sized : decode.Sized allowed size)
    (function : α → β) : (function <$> decode).Sized allowed size :=
  sized.bind fun result => sized_pure (function result)

theorem sized_call (host : Host σ) (function : String)
    (notDefined : allowed (.functionNotDefined function))
    (arity : ∀ count, allowed (.functionArity function count)) :
    (call host function).Sized allowed 0 := by
  intro cursor state bounded
  unfold call
  split
  · exact .refused notDefined
  · exact cursor.sizedOutcome_zero _
  · exact .refused (arity _)

theorem Sized.repeated {decode : Decoding σ α} {size : Nat} (sized : decode.Sized allowed size)
    (count : Nat) (resultsReverse : List α) :
    (decode.repeated count resultsReverse).Sized allowed (size * count) := by
  induction count generalizing resultsReverse with
  | zero => exact sized_pure resultsReverse.reverse
  | succ count induction =>
      rw [repeated_succ, Nat.mul_succ, Nat.add_comm]
      exact sized.bind fun result => induction (result :: resultsReverse)

end Decoding

section

variable {σ : Type} {allowed : Error → Prop}

/-- An array takes as many bytes as its elements do together. -/
theorem Item.sized_decodeArray {item : Item} {unit : Decoding σ Value} {size : Nat}
    (sized : unit.Sized allowed size)
    (emptyRepeat : ∀ type count, allowed (.emptyRepeat type count)) :
    (item.decodeArray unit).Sized allowed (size * item.count.toNat) := by
  intro cursor state bounded
  cases count_eq : item.count.toNat with
  | zero =>
      rw [Item.decodeArray_of_zero count_eq, Nat.mul_zero]
      exact cursor.sizedOutcome_zero []
  | succ others =>
      have together := sized.bind (fun result => sized.repeated others [result])
        cursor state bounded
      rw [Nat.mul_succ, Nat.add_comm]
      rcases run : unit cursor state with ⟨failure | ⟨first, after⟩, afterState⟩
      · rw [Decoding.bind_of_error run] at together
        rw [Item.decodeArray_of_error count_eq run]
        cases together with
        | lacking few => exact .lacking few
        | refused isAllowed => exact .refused isAllowed
      · rw [Decoding.bind_of_ok run] at together
        by_cases refused : after.position = cursor.position ∧
            largestEmptyRepeat < item.count.toNat
        · rw [Item.decodeArray_of_empty count_eq run refused]
          exact .refused (emptyRepeat _ _)
        · rw [Item.decodeArray_of_ok count_eq run refused]
          exact together

theorem Item.sized_decodeUnit? {host : Host σ} {decoders : Decoders σ}
    {sizes : String → Option Nat} {item : Item} {unit : Decoding σ Value} {size : Nat}
    (isUnit : item.decodeUnit? host decoders = some unit)
    (size_eq : item.exactUnit sizes = some size)
    (calls : ∀ function, item.type = .call function →
      allowed (.functionNotDefined function) ∧ ∀ count, allowed (.functionArity function count))
    (structs : ∀ name size, item.type = .struct name → sizes name = some size →
      (decodeStruct decoders name).Sized allowed size) :
    unit.Sized allowed size := by
  obtain ⟨type, length, count⟩ := item
  cases type with
  | builtin type =>
      cases type with
      | integer type =>
          cases isUnit
          cases size_eq
          exact (Decoding.sized_ofRead fun cursor _ =>
            cursor.sizedOutcome_map_readBytes type.width
              fun bytes => Int64.ofInt (type.ofBytes bytes)).map _
      | float type =>
          cases isUnit
          cases size_eq
          exact (Decoding.sized_ofRead fun cursor _ =>
            cursor.sizedOutcome_map_readBytes type.width type.ofBytes).map _
      | string =>
          cases isUnit
          exact (Decoding.sized_readString size_eq).map _
      | wideString =>
          cases isUnit
          exact (Decoding.sized_readWideString size_eq).map _
      | void => cases isUnit
  | call function =>
      cases isUnit
      cases size_eq
      obtain ⟨notDefined, arity⟩ := calls function rfl
      exact Decoding.sized_call host function notDefined arity
  | struct name =>
      cases isUnit
      exact (structs name size rfl size_eq).map _

/-- An item takes as many bytes as its exact size says. -/
theorem Item.sized_decode {host : Host σ} {decoders : Decoders σ}
    {sizes : String → Option Nat} {item : Item} {size : Nat}
    (emptyRepeat : ∀ type count, allowed (.emptyRepeat type count))
    (size_eq : item.exactSize sizes = some size)
    (calls : ∀ function, item.type = .call function →
      allowed (.functionNotDefined function) ∧ ∀ count, allowed (.functionArity function count))
    (structs : ∀ name size, item.type = .struct name → sizes name = some size →
      (decodeStruct decoders name).Sized allowed size) :
    (item.decode host decoders).Sized allowed size := by
  obtain ⟨unitSize, unitSize_eq, rfl⟩ := Option.map_eq_some_iff.mp size_eq
  cases isUnit : item.decodeUnit? host decoders with
  | none =>
      have isVoid := Item.decodeUnit?_eq_none_iff.mp isUnit
      simp only [Item.exactUnit, isVoid, Option.some.injEq] at unitSize_eq
      subst unitSize_eq
      rw [Item.decode_of_none isUnit]
      exact (Decoding.sized_ofRead fun cursor bounded =>
        Cursor.sizedOutcome_skipVoid item bounded).map _
  | some unit =>
      have sized := Item.sized_decodeUnit? isUnit unitSize_eq calls structs
      by_cases count_eq : item.count = 1
      · rw [Item.decode_of_single isUnit count_eq, count_eq]
        simpa using sized.map some
      · rw [Item.decode_of_array isUnit count_eq]
        exact (Item.sized_decodeArray sized emptyRepeat).map _

theorem sized_decodeFields {host : Host σ} {decoders : Decoders σ}
    {sizes : String → Option Nat} {fields : List Field} {size : Nat}
    (emptyRepeat : ∀ type count, allowed (.emptyRepeat type count))
    (size_eq : exactFieldsSize sizes fields = some size)
    (calls : ∀ field ∈ fields, ∀ function, field.item.type = .call function →
      allowed (.functionNotDefined function) ∧ ∀ count, allowed (.functionArity function count))
    (structs : ∀ name ∈ embedded fields, ∀ size, sizes name = some size →
      (decodeStruct decoders name).Sized allowed size) :
    (decodeFields host decoders fields).Sized allowed size := by
  induction fields generalizing size with
  | nil =>
      cases size_eq
      exact Decoding.sized_pure []
  | cons field fields induction =>
      obtain ⟨first, first_eq, sum_eq⟩ := Option.bind_eq_some_iff.mp size_eq
      obtain ⟨others, others_eq, rfl⟩ := Option.map_eq_some_iff.mp sum_eq
      have sizedFirst : (field.item.decode host decoders).Sized allowed first :=
        Item.sized_decode emptyRepeat first_eq (calls field List.mem_cons_self)
          fun name size type_eq => structs name (mem_embedded_cons_of_type type_eq) size
      have sizedOthers : (decodeFields host decoders fields).Sized allowed others :=
        induction others_eq
          (fun other member => calls other (List.mem_cons_of_mem _ member))
          (fun name embeds => structs name (mem_embedded_cons embeds))
      exact sizedFirst.bind fun value? => sizedOthers.map _

namespace Schema

/-- A struct takes as many bytes as its exact size says, if calls may fail only in
ways that are allowed. -/
theorem sized_decodeRecord (allowed : Error → Prop) {schema : Schema}
    (layered : Layered schema.structs) (host : Host σ)
    (emptyRepeat : ∀ type count, allowed (.emptyRepeat type count)) {name : String}
    {fields : List Field} (found : schema.fields? name = some fields)
    (calls : schema.Throughout (fun item => ∀ function, item.type = .call function →
      allowed (.functionNotDefined function) ∧
        ∀ count, allowed (.functionArity function count)) name)
    {size : Nat} (size_eq : schema.exactSize? name = some size) :
    (schema.decodeRecord host name).Sized allowed size := by
  refine induction_on_embedded layered
    (motive := fun name => schema.Throughout (fun item => ∀ function,
      item.type = .call function → allowed (.functionNotDefined function) ∧
        ∀ count, allowed (.functionArity function count)) name →
      ∀ size, schema.exactSize? name = some size →
        (schema.decodeRecord host name).Sized allowed size) ?_ found calls size size_eq
  intro outer outerFields foundOuter embeddedSized callsOuter outerSize outerSize_eq
  rw [decodeRecord_of_fields? layered host foundOuter]
  apply sized_decodeFields emptyRepeat
    ((exactSize?_of_fields? layered foundOuter).symm.trans outerSize_eq)
  · intro field member
    exact callsOuter.item foundOuter member
  · intro inner embeds
    exact embeddedSized inner embeds (callsOuter.embedded foundOuter embeds)

theorem exists_exactSize?_of_sizeOf {schema : Schema} (layered : Layered schema.structs)
    {name : String} {size : Nat} (size_eq : schema.sizeOf name = .ok (some size)) :
    ∃ fields full, schema.fields? name = some fields ∧
      schema.exactSize? name = some full ∧ size = clampWord full := by
  cases found : schema.fields? name with
  | none =>
      have unknown : schema.sizeOf name = .error (.structNotFound name) := by
        unfold sizeOf knownSize
        rw [meaning?_eq layered (isLocal_fieldsSize 0), found]
        rfl
      rw [unknown] at size_eq
      cases size_eq
  | some fields =>
      rw [sizeOf_eq_clampWord_exactSize? layered found] at size_eq
      obtain ⟨full, full_eq, clamped⟩ :=
        Option.map_eq_some_iff.mp (Except.ok.inj size_eq)
      exact ⟨fields, full, rfl, full_eq, clamped.symm⟩

end Schema

theorem Source.length_remaining_le (source : Source) :
    source.remaining.length ≤ source.size := by
  simp [Source.remaining, Source.size]

/-- A source in which something of a given size is decoded. -/
theorem Source.decode_of_sized {α : Type} {action : Decoding σ α} {size : Nat}
    (sized : action.Sized allowed size) (state : σ) {source : Source}
    (source_le : source.size ≤ 2 ^ 63 - 1) :
    (∃ result, (source.decode action state).1 = .ok result ∧
      (source.decode action state).2.1.position = source.position + size ∧
        size ≤ source.remaining.length) ∨
    (∃ position needed total, (source.decode action state).1 =
      .error (.insufficientData position needed total) ∧ source.remaining.length < size) ∨
    ∃ failure, (source.decode action state).1 = .error failure ∧ allowed failure := by
  have bounded : source.cursor.rest.length ≤ largestWord := by
    have remaining_le : source.cursor.rest.length ≤ source.size := source.length_remaining_le
    unfold largestWord
    omega
  have outcome := sized source.cursor state bounded
  unfold Source.decode
  rcases run : action source.cursor state with ⟨failure | ⟨result, after⟩, afterState⟩
  · rw [run] at outcome
    cases outcome with
    | lacking few => exact Or.inr (Or.inl ⟨_, _, _, rfl, few⟩)
    | refused isAllowed => exact Or.inr (Or.inr ⟨failure, rfl, isAllowed⟩)
  · rw [run] at outcome
    cases outcome with
    | success enough => exact Or.inl ⟨result, rfl, rfl, enough⟩

/-- The result of decoding a struct of a known size agrees with the size.  A success
moves the position by exactly the size.  Where no function is called, a lack of
bytes is reported exactly where fewer are left, unless the struct has too many
repetitions of something without bytes. -/
theorem Schema.decodeRecord_agrees_with_sizeOf {schema : Schema}
    (reachable : schema.Reachable) {name : String} {size : Nat}
    (size_eq : schema.sizeOf name = .ok (some size)) (host : Host σ) (state : σ)
    (source : Source) (source_le : source.size ≤ 2 ^ 63 - 1) :
    (∀ record after endState,
      source.decode (schema.decodeRecord host name) state = (.ok record, after, endState) →
        after.position = source.position + size) ∧
    (schema.Throughout (fun item => ∀ function, item.type ≠ .call function) name →
      (size ≤ source.remaining.length →
        (∃ record, (source.decode (schema.decodeRecord host name) state).1 = .ok record) ∨
          ∃ type count, (source.decode (schema.decodeRecord host name) state).1 =
            .error (.emptyRepeat type count)) ∧
      (source.remaining.length < size →
        (∃ position needed total,
          (source.decode (schema.decodeRecord host name) state).1 =
            .error (.insufficientData position needed total)) ∨
          ∃ type count, (source.decode (schema.decodeRecord host name) state).1 =
            .error (.emptyRepeat type count))) := by
  have layered := reachable.layered
  obtain ⟨fields, full, found, full_eq, rfl⟩ :=
    Schema.exists_exactSize?_of_sizeOf layered size_eq
  have remaining_le := source.length_remaining_le
  -- What fits into a source is less than the clamped size of what does not.
  have clamped : full ≤ source.remaining.length → clampWord full = full := by
    intro enough
    apply clampWord_of_le
    unfold largestWord
    omega
  have exceeds : source.remaining.length < full →
      source.remaining.length < clampWord full := by
    simp only [clampWord, largestWord]
    omega
  constructor
  · intro record after endState success
    have sized := Schema.sized_decodeRecord (fun _ => True) layered host
      (fun _ _ => trivial) found (fun _ _ _ _ _ _ _ _ => ⟨trivial, fun _ => trivial⟩) full_eq
    rcases Source.decode_of_sized sized state source_le with
      ⟨_, _, moved, enough⟩ | ⟨_, _, _, failed, _⟩ | ⟨_, failed, _⟩
    · rw [success] at moved
      rw [clamped enough]
      exact moved
    · rw [success] at failed
      cases failed
    · rw [success] at failed
      cases failed
  · intro callFree
    have sized := Schema.sized_decodeRecord
      (fun failure => ∃ type count, failure = .emptyRepeat type count) layered host
      (fun type count => ⟨type, count, rfl⟩) found
      (fun inner innerFields path foundInner field member function type_eq =>
        absurd type_eq (callFree inner innerFields path foundInner field member function))
      full_eq
    rcases Source.decode_of_sized sized state source_le with
      ⟨record, success, _, enough⟩ | ⟨position, needed, total, failed, few⟩ |
        ⟨_, failed, type, count, rfl⟩
    · have isClamped := clamped enough
      exact ⟨fun _ => Or.inl ⟨record, success⟩, fun few => by omega⟩
    · have fewer := exceeds few
      exact ⟨fun enough => by omega, fun _ => Or.inl ⟨position, needed, total, failed⟩⟩
    · exact ⟨fun _ => Or.inr ⟨type, count, failed⟩, fun _ => Or.inr ⟨type, count, failed⟩⟩

theorem Schema.decodeRecord_agrees_with_sizeOf_taggedPairs :
    let source : Source := ⟨"pairs", List.replicate 20 1, 2⟩
    let decoded := source.decode (taggedPairs.decodeRecord Host.silent "tagged") ()
    taggedPairs.sizeOf "tagged" = .ok (some 13) ∧ 13 ≤ source.remaining.length ∧
      (∀ record after endState, decoded = (.ok record, after, endState) → after.position = 15) ∧
        ((∃ record, decoded.1 = .ok record) ∨
          ∃ type count, decoded.1 = .error (.emptyRepeat type count)) := by
  intro source decoded
  have callFree : taggedPairs.Throughout
      (fun item => ∀ function, item.type ≠ .call function) "tagged" := by
    apply throughout_of_forall
    simp [taggedPairs, taggedPairsFields, pairFields]
  have agrees := Schema.decodeRecord_agrees_with_sizeOf reachable_taggedPairs
    (show taggedPairs.sizeOf "tagged" = .ok (some 13) by decide) Host.silent () source
    (by decide)
  have enough : 13 ≤ source.remaining.length := by decide
  exact ⟨by decide, enough, agrees.1, (agrees.2 callFree).1 enough⟩

end

end BinaryRecords
