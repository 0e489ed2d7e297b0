import BinaryRecords.Proofs.Decode.Composition
import BinaryRecords.Proofs.Decode.Structs
import BinaryRecords.Proofs.Layout.ItemPhrases
import BinaryRecords.Proofs.Schema.ExactSize
import BinaryRecords.Proofs.Schema.Nesting

/-!
# How decoding fails

Decoding a declared struct fails for lack of bytes or of a terminator, because of too
many repetitions without bytes, or because of a call.  It never misses a struct, since
what a declared struct embeds is declared.  Only the items of a single read, which
nobody has checked, may name a struct that does not exist.
-/

namespace BinaryRecords

/-- Whether a failure is one of the bytes of a source or of the functions of a host. -/
inductive Error.IsOfData : Error → Prop
  | insufficientData {position needed size : Nat} :
      IsOfData (.insufficientData position needed size)
  | missingTerminator {position : Nat} : IsOfData (.missingTerminator position)
  | emptyRepeat {type : ItemType} {count : UInt64} : IsOfData (.emptyRepeat type count)
  | functionNotDefined {name : String} : IsOfData (.functionNotDefined name)
  | functionArity {name : String} {count : Nat} : IsOfData (.functionArity name count)

/-- Whether a failure is one of a single read or of a single call. -/
inductive Error.IsOfUnit : Error → Prop
  | insufficientData {position needed size : Nat} :
      IsOfUnit (.insufficientData position needed size)
  | missingTerminator {position : Nat} : IsOfUnit (.missingTerminator position)
  | functionNotDefined {name : String} : IsOfUnit (.functionNotDefined name)
  | functionArity {name : String} {count : Nat} : IsOfUnit (.functionArity name count)

theorem Error.IsOfUnit.isOfData {failure : Error} (isOfUnit : failure.IsOfUnit) :
    failure.IsOfData := by
  cases isOfUnit with
  | insufficientData => exact .insufficientData
  | missingTerminator => exact .missingTerminator
  | functionNotDefined => exact .functionNotDefined
  | functionArity => exact .functionArity

theorem isOfUnit_of_map_readBytes {α : Type} {cursor : Cursor} {count : Nat}
    {convert : List UInt8 × Cursor → α} {failure : Error}
    (failed : (cursor.readBytes count).map convert = .error failure) : failure.IsOfUnit := by
  rw [exceptMap_eq_error_iff, Cursor.readBytes_eq_error_iff] at failed
  obtain ⟨-, rfl⟩ := failed
  exact .insufficientData

theorem isOfUnit_of_readString {cursor : Cursor} {length : Nat} {failure : Error}
    (failed : cursor.readString length = .error failure) : failure.IsOfUnit := by
  unfold Cursor.readString at failed
  split at failed
  · unfold Cursor.readTerminated at failed
    split at failed
    · cases failed
      exact .missingTerminator
    · cases failed
  · exact isOfUnit_of_map_readBytes failed

theorem isOfUnit_of_readWideString {cursor : Cursor} {length : Nat} {failure : Error}
    (failed : cursor.readWideString length = .error failure) : failure.IsOfUnit := by
  unfold Cursor.readWideString at failed
  split at failed
  · unfold Cursor.readWideTerminated at failed
    simp only at failed
    split at failed
    · cases failed
      exact .missingTerminator
    · cases failed
  · split at failed
    · cases failed
      exact .insufficientData
    · exact isOfUnit_of_map_readBytes failed

theorem isOfUnit_of_skipVoid {cursor : Cursor} {item : Item} {failure : Error}
    (failed : item.skipVoid cursor = .error failure) : failure.IsOfUnit := by
  unfold Item.skipVoid at failed
  simp only at failed
  split at failed
  · cases failed
    exact .insufficientData
  · rw [Cursor.map_skip] at failed
    exact isOfUnit_of_map_readBytes failed

variable {σ α β : Type} {allowed : Error → Prop}

namespace Decoding

/-- Whether a decoding fails only for reasons that are allowed. -/
def FailsOnly (allowed : Error → Prop) (decode : Decoding σ α) : Prop :=
  ∀ cursor state failure after,
    decode cursor state = (.error failure, after) → allowed failure

theorem failsOnly_pure (result : α) : (pure result : Decoding σ α).FailsOnly allowed := by
  intro cursor state failure after failed
  cases failed

theorem failsOnly_fail {failure : Error} (isAllowed : allowed failure) :
    (fail failure : Decoding σ α).FailsOnly allowed := by
  intro cursor state found after failed
  cases failed
  exact isAllowed

theorem failsOnly_ofRead {read : Cursor → Except Error (α × Cursor)}
    (fails : ∀ cursor failure, read cursor = .error failure → allowed failure) :
    (ofRead read : Decoding σ α).FailsOnly allowed := by
  intro cursor state failure after failed
  exact fails cursor failure (congrArg Prod.fst failed)

theorem failsOnly_call (host : Host σ) (function : String) :
    (call host function).FailsOnly Error.IsOfUnit := by
  intro cursor state failure after failed
  unfold call at failed
  split at failed
  · cases failed
    exact .functionNotDefined
  · cases failed
  · cases failed
    exact .functionArity

namespace FailsOnly

theorem mono {decode : Decoding σ α} {others : Error → Prop} (fails : decode.FailsOnly others)
    (implies : ∀ failure, others failure → allowed failure) : decode.FailsOnly allowed := by
  intro cursor state failure after failed
  exact implies failure (fails cursor state failure after failed)

theorem bind {first : Decoding σ α} {next : α → Decoding σ β}
    (firstFails : first.FailsOnly allowed) (nextFails : ∀ result, (next result).FailsOnly allowed) :
    (first >>= next).FailsOnly allowed := by
  intro cursor state failure after failed
  rcases run : first cursor state with ⟨found | ⟨result, middle⟩, middleState⟩
  · rw [bind_of_error run] at failed
    cases failed
    exact firstFails cursor state failure after run
  · rw [bind_of_ok run] at failed
    exact nextFails result middle middleState failure after failed

end FailsOnly

end Decoding

theorem Item.failsOnly_decodeOthers {item : Item} {unit : Decoding σ Value}
    (repeated : ∀ count resultsReverse, (unit.repeated count resultsReverse).FailsOnly allowed)
    (refused : allowed (.emptyRepeat item.type item.count)) (others : Nat) (start : Cursor)
    (first : Value) : (item.decodeOthers unit others start first).FailsOnly allowed := by
  intro cursor state failure after failed
  unfold decodeOthers at failed
  split at failed
  · cases failed
    exact refused
  · exact repeated others [first] cursor state failure after failed

theorem Item.failsOnly_decodeArray {item : Item} {unit : Decoding σ Value}
    (fails : unit.FailsOnly allowed)
    (repeated : ∀ count resultsReverse, (unit.repeated count resultsReverse).FailsOnly allowed)
    (refused : allowed (.emptyRepeat item.type item.count)) :
    (item.decodeArray unit).FailsOnly allowed := by
  intro cursor state failure after failed
  cases count_eq : item.count.toNat with
  | zero =>
      rw [decodeArray_of_zero count_eq] at failed
      cases failed
  | succ others =>
      rw [decodeArray_succ count_eq] at failed
      exact fails.bind (failsOnly_decodeOthers repeated refused others cursor) cursor state
        failure after failed

theorem Decoding.isCompositional_failsOnly
    (ofData : ∀ failure : Error, failure.IsOfData → allowed failure) (host : Host σ) :
    IsCompositional host fun _ decode => decode.FailsOnly allowed where
  pure := failsOnly_pure
  bind := FailsOnly.bind
  readInteger _ :=
    failsOnly_ofRead fun _ _ failed => ofData _ (isOfUnit_of_map_readBytes failed).isOfData
  readFloat _ :=
    failsOnly_ofRead fun _ _ failed => ofData _ (isOfUnit_of_map_readBytes failed).isOfData
  readString _ :=
    failsOnly_ofRead fun _ _ failed => ofData _ (isOfUnit_of_readString failed).isOfData
  readWideString _ :=
    failsOnly_ofRead fun _ _ failed => ofData _ (isOfUnit_of_readWideString failed).isOfData
  skipVoid _ :=
    failsOnly_ofRead fun _ _ failed => ofData _ (isOfUnit_of_skipVoid failed).isOfData
  call function :=
    (failsOnly_call host function).mono fun failure isOfUnit => ofData failure isOfUnit.isOfData
  array _ _ fails repeated := Item.failsOnly_decodeArray fails repeated (ofData _ .emptyRepeat)

theorem Source.failsOnly_decode {decode : Decoding σ α} (fails : decode.FailsOnly allowed)
    (source : Source) {state : σ} {failure : Error}
    (failed : (source.decode decode state).1 = .error failure) : allowed failure := by
  unfold Source.decode at failed
  rcases run : decode source.cursor state with ⟨found | ⟨result, middle⟩, middleState⟩
  · rw [run] at failed
    cases failed
    exact fails source.cursor state failure middleState run
  · rw [run] at failed
    cases failed

namespace Schema

variable {schema : Schema}

/-- A declared struct fails only because of the data. -/
theorem failsOnly_decodeRecord (layered : Layered schema.structs) (host : Host σ)
    {name : String} {fields : List Field} (found : schema.fields? name = some fields) :
    (schema.decodeRecord host name).FailsOnly Error.IsOfData := by
  refine induction_on_embedded layered
    (motive := fun name => (schema.decodeRecord host name).FailsOnly Error.IsOfData) ?_ found
  intro outer outerFields foundOuter inners
  rw [decodeRecord_of_fields? layered host foundOuter]
  exact (Decoding.isCompositional_failsOnly (fun _ => id) host).decodeFields inners

/-- The items of a single read fail because of the data, or because one of them names a
struct that is not declared. -/
theorem failsOnly_decodeItems (layered : Layered schema.structs) (host : Host σ)
    (items : List Item) :
    (schema.decodeItems host items).FailsOnly fun failure =>
      failure.IsOfData ∨ ∃ item ∈ items, ∃ name, item.type = .struct name ∧
        schema.fields? name = none ∧ failure = .structNotFound name := by
  apply (Decoding.isCompositional_failsOnly (fun _ => Or.inl) host).decodeItems
  intro item member name type_eq
  change (schema.decodeRecord host name).FailsOnly _
  cases found : schema.fields? name with
  | none =>
      rw [decodeRecord_of_unknown layered host found]
      exact Decoding.failsOnly_fail (Or.inr ⟨item, member, name, type_eq, found, rfl⟩)
  | some fields =>
      exact (failsOnly_decodeRecord layered host found).mono fun _ => Or.inl

/-- To decode, measure or describe a declared struct, structs are looked up one inside the
other no deeper than there are structs: what is supposed to lie beyond changes nothing.
All of them are found, so measuring and describing succeed, and decoding never lacks a
struct.  Where the items of a text lack one, the text names it. -/
theorem nesting_is_bounded_and_never_dangles (reachable : schema.Reachable) (host : Host σ) :
    (∀ name, schema.contains name = true →
      (∀ beyond, decodeStruct (schema.expand (decodeFields host) beyond schema.size) name =
        schema.decodeRecord host name) ∧
      (∀ beyond, knownSize (schema.expand (fun sizes fields => fieldsSize sizes 0 fields)
        beyond schema.size) name = schema.sizeOf name) ∧
      (∀ beyond, ∃ text, schema.expand (fun _ fields => describeFrom 1 fields) beyond
        schema.size name = some text ∧ schema.describe name = .ok text) ∧
      (∃ size?, schema.sizeOf name = .ok size?) ∧
      ∀ (source : Source) (state : σ) (missing : String),
        (source.decode (schema.decodeRecord host name) state).1 ≠
          .error (.structNotFound missing)) ∧
    ∀ text items, Layout.parseItems text = .ok items →
      ∀ (source : Source) (state : σ) (missing : String),
        (source.decode (schema.decodeItems host items) state).1 =
            .error (.structNotFound missing) →
          .name missing ∈ (Layout.tokenize text.toList).tokens ∧
            schema.contains missing = false := by
  have layered := reachable.layered
  have isLocal_describe : IsLocal fun (_ : String → Option String) fields =>
      describeFrom 1 fields := fun _ _ _ _ => rfl
  constructor
  · intro name declared
    obtain ⟨fields, found⟩ := contains_iff.mp declared
    refine ⟨?_, ?_, ?_, ?_, ?_⟩
    · intro beyond
      unfold decodeStruct decodeRecord
      rw [expand_eq_meaning? layered (isLocal_decodeFields host) beyond (Nat.le_refl _) declared]
      rfl
    · intro beyond
      unfold knownSize sizeOf
      rw [expand_eq_meaning? layered (isLocal_fieldsSize 0) beyond (Nat.le_refl _) declared]
      rfl
    · intro beyond
      refine ⟨_, ?_, describe_of_fields? found⟩
      rw [expand_eq_meaning? layered isLocal_describe beyond (Nat.le_refl _) declared,
        meaning?_eq layered isLocal_describe, found, Option.map_some]
    · exact ⟨_, sizeOf_eq_clampWord_exactSize? layered found⟩
    · intro source state missing failed
      cases Source.failsOnly_decode (failsOnly_decodeRecord layered host found) source failed
  · intro text items parsed source state missing failed
    rcases Source.failsOnly_decode (failsOnly_decodeItems layered host items) source failed with
      isOfData | ⟨item, member, name, type_eq, unknown, failure_eq⟩
    · cases isOfData
    · cases failure_eq
      refine ⟨Layout.name_mem_tokenize_of_parseItems parsed member type_eq, ?_⟩
      rw [Bool.eq_false_iff, Ne, contains_iff, unknown]
      rintro ⟨fields, found⟩
      cases found

theorem nesting_is_bounded_and_never_dangles_taggedPairs :
    let source : Source := ⟨"pairs", [1, 2, 3, 4], 0⟩
    let items : List Item := [{ type := .builtin (.integer .u8) }, { type := .struct "triple" }]
    (∀ beyond, decodeStruct (taggedPairs.expand (decodeFields Host.silent) beyond 2) "tagged" =
        (taggedPairs.decodeRecord Host.silent "tagged" : Decoding Unit Record)) ∧
      (source.decode (taggedPairs.decodeRecord Host.silent "tagged") ()).1 ≠
        .error (.structNotFound "pair") ∧
      Layout.parseItems "u8 triple" = .ok items ∧
      (source.decode (taggedPairs.decodeItems Host.silent items) ()).1 =
        .error (.structNotFound "triple") ∧
      .name "triple" ∈ (Layout.tokenize "u8 triple".toList).tokens ∧
      taggedPairs.contains "triple" = false := by
  intro source items
  have bounded := nesting_is_bounded_and_never_dangles reachable_taggedPairs
    (Host.silent : Host Unit)
  obtain ⟨nesting, _, _, _, finds⟩ := bounded.1 "tagged" rfl
  have parsed : Layout.parseItems "u8 triple" = .ok items := by decide +kernel
  have lacks : (source.decode (taggedPairs.decodeItems Host.silent items) ()).1 =
      .error (.structNotFound "triple") := rfl
  exact ⟨nesting, finds source () "pair", parsed, lacks,
    bounded.2 "u8 triple" items parsed source () "triple" lacks⟩

end Schema

end BinaryRecords
