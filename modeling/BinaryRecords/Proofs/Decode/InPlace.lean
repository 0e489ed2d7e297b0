import BinaryRecords.Proofs.Decode.Items
import BinaryRecords.Proofs.Decode.Structs
import BinaryRecords.Proofs.Source.InPlaceReads

/-!
# Decoding in place

Items and structs are decoded in place by reads in place, one after the other, and only the
outermost decoding returns to its position when it fails.  On a source that is not too
large it never comes to a fault, and has the outcome of decoding at a cursor.
-/

namespace BinaryRecords

variable {σ α β : Type}

namespace InPlace

def call (host : Host σ) (function : String) : InPlace σ Value :=
  fun source state =>
    match host function state with
    | (none, state) => some (.error (.functionNotDefined function), source, state)
    | (some [value], state) => some (.ok value, source, state)
    | (some values, state) =>
        some (.error (.functionArity function values.length), source, state)

/-- Return to the position where something began if it fails; a position that does not lie
inside is a fault. -/
def restoring (action : InPlace σ α) : InPlace σ α :=
  fun source state =>
    match action source state with
    | some (.error failure, after, state) =>
        if source.position ≤ after.size then
          some (.error failure, { after with position := source.position }, state)
        else
          none
    | outcome => outcome

/-- How to read the structs that are known, for a host with states in `σ`. -/
abbrev Readers (σ : Type) :=
  String → Option (InPlace σ Record)

def readStruct (readers : Readers σ) (name : String) : InPlace σ Record :=
  match readers name with
  | some read => read
  | none => fail (.structNotFound name)

def readUnit? (host : Host σ) (readers : Readers σ) (item : Item) : Option (InPlace σ Value) :=
  match item.type with
  | .builtin (.integer type) => some (Value.integer <$> readInteger type)
  | .builtin (.float type) => some (Value.float <$> readFloat type)
  | .builtin .string => some (Value.string <$> readString item.length.toNat)
  | .builtin .wideString => some (Value.string <$> readWideString item.length.toNat)
  | .builtin .void => none
  | .call function => some (call host function)
  | .struct name => some (Value.record <$> readStruct readers name)

/-- Pass over a gap, unless its length exceeds 64 bits. -/
def skipGap (item : Item) : InPlace σ Unit :=
  if largestWord < item.length.toNat * item.count.toNat then
    insufficient largestWord
  else
    skip (item.length.toNat * item.count.toNat)

/-- Read so many more repetitions of an item, and stop behind the first one of all if it
takes no bytes although there are too many. -/
def readRepeats (item : Item) (unit : InPlace σ Value) :
    Nat → List Value → InPlace σ (List Value)
  | 0, valuesReverse => pure valuesReverse.reverse
  | others + 1, valuesReverse => do
      let start ← look
      let value ← unit
      let after ← look
      if (value :: valuesReverse).length = 1 ∧ after.position = start.position ∧
          largestEmptyRepeat < item.count.toNat then
        fail (.emptyRepeat item.type item.count)
      else
        readRepeats item unit others (value :: valuesReverse)

/-- The repetitions of an item behind the first one, which began at some source. -/
def readOthers (item : Item) (unit : InPlace σ Value) (others : Nat) (start : Source)
    (first : Value) : InPlace σ (List Value) := do
  let after ← look
  if after.position = start.position ∧ largestEmptyRepeat < item.count.toNat then
    fail (.emptyRepeat item.type item.count)
  else
    readRepeats item unit others [first]

def readItem (host : Host σ) (readers : Readers σ) (item : Item) : InPlace σ (Option Value) :=
  match readUnit? host readers item with
  | none => (fun _ => none) <$> skipGap item
  | some unit =>
      if item.count = 1 then
        some <$> unit
      else
        (fun elements => some (.array elements)) <$> readRepeats item unit item.count.toNat []

def readItems (host : Host σ) (readers : Readers σ) : List Item → InPlace σ (List Value)
  | [] => pure []
  | item :: items => do
      let value? ← readItem host readers item
      let values ← readItems host readers items
      pure (value?.toList ++ values)

def readFields (host : Host σ) (readers : Readers σ) : List Field → InPlace σ Record
  | [] => pure []
  | field :: fields => do
      let value? ← readItem host readers field.item
      let entries ← readFields host readers fields
      pure (value?.toList.map (fun value => (field.name.getD "", value)) ++ entries)

/-- Whether something is done in place as it is decoded at a cursor: a success passes over
some bytes, and a failure has gone on by some or by none. -/
def Does (action : InPlace σ α) (decode : Decoding σ α) : Prop :=
  ∀ (source : Source) (state : σ), source.IsBounded →
    (∃ result bytes after endState, decode source.cursor state = (.ok (result, after), endState) ∧
      source.cursor.Passes bytes after ∧ action source state =
        some (.ok result, { source with position := after.position }, endState)) ∨
    ∃ failure position endState, decode source.cursor state = (.error failure, endState) ∧
      source.position ≤ position ∧ position ≤ source.size ∧ action source state =
        some (.error failure, { source with position := position }, endState)

theorem does_pure (result : α) : (pure result : InPlace σ α).Does (pure result) := by
  intro source state bounded
  exact Or.inl ⟨result, [], source.cursor, state, rfl, source.cursor.passes_nil, rfl⟩

theorem does_fail (failure : Error) : (fail failure : InPlace σ α).Does (.fail failure) := by
  intro source state bounded
  exact Or.inr ⟨failure, source.position, state, rfl, Nat.le_refl _, bounded.position_le, rfl⟩

theorem Reads.does {action : InPlace σ α} {read : Cursor → Except Error (α × Cursor)}
    (reads : action.Reads read) : action.Does (.ofRead read) := by
  intro source state bounded
  rcases reads source state bounded with
    ⟨result, bytes, after, success, passes, run⟩ | ⟨failure, failed, run⟩
  · exact Or.inl ⟨result, bytes, after, state, by rw [Decoding.ofRead, success], passes, run⟩
  · exact Or.inr ⟨failure, source.position, state, by rw [Decoding.ofRead, failed], Nat.le_refl _,
      bounded.position_le, run⟩

theorem does_call (host : Host σ) (function : String) :
    (call host function).Does (.call host function) := by
  intro source state bounded
  have inside := bounded.position_le
  unfold call Decoding.call
  match host function state with
  | (none, after) =>
      exact Or.inr ⟨_, source.position, after, rfl, Nat.le_refl _, inside, rfl⟩
  | (some [value], after) =>
      exact Or.inl ⟨value, [], source.cursor, after, rfl, source.cursor.passes_nil, rfl⟩
  | (some [], after) =>
      exact Or.inr ⟨_, source.position, after, rfl, Nat.le_refl _, inside, rfl⟩
  | (some (_ :: _ :: _), after) =>
      exact Or.inr ⟨_, source.position, after, rfl, Nat.le_refl _, inside, rfl⟩

namespace Does

theorem bind {first : InPlace σ α} {next : α → InPlace σ β} {decodeFirst : Decoding σ α}
    {decodeNext : α → Decoding σ β} (doesFirst : first.Does decodeFirst)
    (doesNext : ∀ result, (next result).Does (decodeNext result)) :
    (first >>= next).Does (decodeFirst >>= decodeNext) := by
  intro source state bounded
  rcases doesFirst source state bounded with
    ⟨result, bytes, middle, middleState, success, passes, run⟩ |
      ⟨failure, position, endState, failed, onward, inside, run⟩
  · obtain ⟨boundedMiddle, cursor_eq⟩ := bounded.of_passes passes
    have onward : source.position ≤ middle.position := by
      rw [passes.position_eq]
      exact Nat.le_add_right _ _
    rcases doesNext result _ middleState boundedMiddle with
      ⟨last, others, after, endState, successNext, passesNext, runNext⟩ |
        ⟨failure, position, endState, failedNext, onwardNext, inside, runNext⟩
    · rw [cursor_eq] at successNext passesNext
      refine Or.inl ⟨last, bytes ++ others, after, endState, ?_, passes.append passesNext, ?_⟩
      · rw [Decoding.bind_of_ok success, successNext]
      · rw [bind_of_ok run, runNext]
    · rw [cursor_eq] at failedNext
      refine Or.inr ⟨failure, position, endState, ?_, onward.trans onwardNext, inside, ?_⟩
      · rw [Decoding.bind_of_ok success, failedNext]
      · rw [bind_of_ok run, runNext]
  · exact Or.inr ⟨failure, position, endState, Decoding.bind_of_error failed, onward, inside,
      bind_of_error run⟩

theorem map {action : InPlace σ α} {decode : Decoding σ α} (does : action.Does decode)
    (function : α → β) : (function <$> action).Does (function <$> decode) :=
  does.bind fun result => does_pure (function result)

/-- What has failed returns to where it began, and what has succeeded does not go back. -/
theorem restoring_eq {action : InPlace σ α} {decode : Decoding σ α} (does : action.Does decode)
    {source : Source} (bounded : source.IsBounded) (state : σ) :
    restoring action source state = some (source.decode decode state) ∧
      source.position ≤ (source.decode decode state).2.1.position ∧
        (source.decode decode state).2.1.IsBounded := by
  rcases does source state bounded with
    ⟨result, bytes, after, endState, success, passes, run⟩ |
      ⟨failure, position, endState, failed, _, _, run⟩
  · have decoded : source.decode decode state =
        (.ok result, { source with position := after.position }, endState) := by
      simp only [Source.decode, success]
    have position_eq : after.position = source.position + bytes.length := passes.position_eq
    rw [decoded]
    refine ⟨by rw [restoring, run], ?_, (bounded.of_passes passes).1⟩
    exact position_eq.symm ▸ Nat.le_add_right _ _
  · have decoded : source.decode decode state = (.error failure, source, endState) := by
      simp only [Source.decode, failed]
    rw [decoded]
    refine ⟨?_, Nat.le_refl _, bounded⟩
    rw [restoring, run]
    exact if_pos bounded.position_le

end Does

section

variable {item : Item} {unit : InPlace σ Value} {decode : Decoding σ Value}

/-- Behind an earlier repetition the others follow without checks. -/
theorem readRepeats_succ (item : Item) (unit : InPlace σ Value) (others : Nat) (earlier : Value)
    (valuesReverse : List Value) :
    readRepeats item unit (others + 1) (earlier :: valuesReverse) =
      unit >>= fun value => readRepeats item unit others (value :: earlier :: valuesReverse) := by
  funext source state
  rw [readRepeats, bind_look]
  refine congrFun (congrFun (bind_congr fun value => ?_) source) state
  funext after afterState
  have notFirst : ¬ ((value :: earlier :: valuesReverse).length = 1 ∧
      after.position = source.position ∧ largestEmptyRepeat < item.count.toNat) := by
    rintro ⟨isFirst, _⟩
    simp at isFirst
  rw [bind_look, if_neg notFirst]

theorem readRepeats_first (item : Item) (unit : InPlace σ Value) (others : Nat)
    (source : Source) (state : σ) :
    readRepeats item unit (others + 1) [] source state =
      (unit >>= readOthers item unit others source) source state := by
  rw [readRepeats, bind_look]
  refine congrFun (congrFun (bind_congr fun value => ?_) source) state
  simp only [readOthers, List.length_singleton, true_and]

theorem does_readRepeats (does : unit.Does decode) (count : Nat) (earlier : Value)
    (valuesReverse : List Value) :
    (readRepeats item unit count (earlier :: valuesReverse)).Does
      (decode.repeated count (earlier :: valuesReverse)) := by
  induction count generalizing earlier valuesReverse with
  | zero => exact does_pure _
  | succ others induction =>
      rw [readRepeats_succ, Decoding.repeated_succ]
      exact does.bind fun value => induction value (earlier :: valuesReverse)

theorem does_readOthers (does : unit.Does decode) (others : Nat) (start : Source)
    (first : Value) :
    (readOthers item unit others start first).Does
      (item.decodeOthers decode others start.cursor first) := by
  intro source state bounded
  rw [readOthers, bind_look, Item.decodeOthers]
  by_cases refused : source.position = start.position ∧ largestEmptyRepeat < item.count.toNat
  · have refusedCursor : source.cursor.position = start.cursor.position ∧
        largestEmptyRepeat < item.count.toNat := refused
    rw [if_pos refused, if_pos refusedCursor]
    exact does_fail _ source state bounded
  · have acceptedCursor : ¬ (source.cursor.position = start.cursor.position ∧
        largestEmptyRepeat < item.count.toNat) := refused
    rw [if_neg refused, if_neg acceptedCursor]
    exact does_readRepeats does others first [] source state bounded

theorem does_readArray (does : unit.Does decode) :
    (readRepeats item unit item.count.toNat []).Does (item.decodeArray decode) := by
  intro source state bounded
  cases count_eq : item.count.toNat with
  | zero =>
      exact Or.inl ⟨[], [], source.cursor, state, Item.decodeArray_of_zero count_eq,
        source.cursor.passes_nil, rfl⟩
  | succ others =>
      rw [Item.decodeArray_succ count_eq, readRepeats_first]
      exact (does.bind fun value => does_readOthers does others source value) source state bounded

theorem reads_skipGap (item : Item) : (skipGap item : InPlace σ Unit).Reads item.skipVoid := by
  intro source state bounded
  unfold skipGap Item.skipVoid
  by_cases exceeds : largestWord < item.length.toNat * item.count.toNat
  · simp only [if_pos exceeds]
    exact Or.inr ⟨_, rfl, insufficient_eq bounded state largestWord⟩
  · simp only [if_neg exceeds]
    exact reads_skip _ source state bounded

end

section

variable {host : Host σ} {readers : Readers σ} {decoders : Decoders σ}

/-- A repetition is read in place as it is decoded, and a gap has none. -/
theorem does_readUnit? (host : Host σ) {item : Item}
    (structs : ∀ name, item.type = .struct name →
      (readStruct readers name).Does (decodeStruct decoders name)) :
    (readUnit? host readers item = none ∧ item.decodeUnit? host decoders = none) ∨
      ∃ unit decode, readUnit? host readers item = some unit ∧
        item.decodeUnit? host decoders = some decode ∧ unit.Does decode := by
  obtain ⟨type, length, count⟩ := item
  cases type with
  | builtin type =>
      cases type with
      | void => exact Or.inl ⟨rfl, rfl⟩
      | integer type =>
          exact Or.inr ⟨_, _, rfl, rfl, (reads_readInteger type).does.map Value.integer⟩
      | float type => exact Or.inr ⟨_, _, rfl, rfl, (reads_readFloat type).does.map Value.float⟩
      | string =>
          exact Or.inr ⟨_, _, rfl, rfl, (reads_readString length.toNat).does.map Value.string⟩
      | wideString =>
          exact Or.inr ⟨_, _, rfl, rfl, (reads_readWideString length.toNat).does.map Value.string⟩
  | call function => exact Or.inr ⟨_, _, rfl, rfl, does_call host function⟩
  | struct name => exact Or.inr ⟨_, _, rfl, rfl, (structs name rfl).map Value.record⟩

theorem does_readItem {item : Item}
    (structs : ∀ name, item.type = .struct name →
      (readStruct readers name).Does (decodeStruct decoders name)) :
    (readItem host readers item).Does (item.decode host decoders) := by
  unfold readItem
  rcases does_readUnit? host structs with
    ⟨noUnit, isGap⟩ | ⟨unit, decode, isUnit, isDecode, does⟩
  · rw [noUnit, Item.decode_of_none isGap]
    exact (reads_skipGap item).does.map _
  · rw [isUnit]
    by_cases count_eq : item.count = 1
    · rw [Item.decode_of_single isDecode count_eq]
      simp only [if_pos count_eq]
      exact does.map some
    · rw [Item.decode_of_array isDecode count_eq]
      simp only [if_neg count_eq]
      exact (does_readArray does).map _

theorem does_readItems {items : List Item}
    (structs : ∀ item ∈ items, ∀ name, item.type = .struct name →
      (readStruct readers name).Does (decodeStruct decoders name)) :
    (readItems host readers items).Does (decodeItems host decoders items) := by
  induction items with
  | nil => exact does_pure _
  | cons item items induction =>
      have others := induction fun other member => structs other (List.mem_cons_of_mem _ member)
      exact (does_readItem (structs item List.mem_cons_self)).bind fun value? => others.map _

theorem does_readFields {fields : List Field}
    (structs : ∀ name, (readStruct readers name).Does (decodeStruct decoders name)) :
    (readFields host readers fields).Does (decodeFields host decoders fields) := by
  induction fields with
  | nil => exact does_pure _
  | cons field fields induction =>
      exact (does_readItem fun name _ => structs name).bind fun value? => induction.map _

end

end InPlace

namespace Schema

def readers (schema : Schema) (host : Host σ) : InPlace.Readers σ :=
  schema.meaning? (InPlace.readFields host)

/-- Decode one instance of a struct in place. -/
def readRecord (schema : Schema) (host : Host σ) (name : String) : InPlace σ Record :=
  InPlace.restoring (InPlace.readStruct (schema.readers host) name)

/-- Decode items in place. -/
def readItems (schema : Schema) (host : Host σ) (items : List Item) : InPlace σ (List Value) :=
  InPlace.restoring (InPlace.readItems host (schema.readers host) items)

/-- A struct is read in place by the structs behind it, as it is decoded. -/
theorem does_readStruct (schema : Schema) (host : Host σ) (name : String) :
    (InPlace.readStruct (schema.readers host) name).Does (schema.decodeRecord host name) := by
  obtain ⟨structs⟩ := schema
  induction structs generalizing name with
  | nil => exact InPlace.does_fail _
  | cons struct behind induction =>
      by_cases same : name = struct.name
      · subst same
        simp only [decodeRecord, decoders, readers, meaning?, meanings, decodeStruct,
          InPlace.readStruct, List.lookup_cons_self]
        exact InPlace.does_readFields induction
      · simp only [decodeRecord, decoders, readers, meaning?, meanings, decodeStruct,
          InPlace.readStruct, List.lookup_cons, beq_false_of_ne same]
        exact induction name

theorem does_readItems (schema : Schema) (host : Host σ) (items : List Item) :
    (InPlace.readItems host (schema.readers host) items).Does (schema.decodeItems host items) :=
  InPlace.does_readItems fun _ _ name _ => schema.does_readStruct host name

end Schema

end BinaryRecords
