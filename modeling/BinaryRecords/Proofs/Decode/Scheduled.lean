import BinaryRecords.Proofs.Decode.Calls
import BinaryRecords.Proofs.Decode.SelfContained
import BinaryRecords.Proofs.Decode.Structs
import BinaryRecords.Proofs.Schema.Schedule

/-!
# Decoding makes the scheduled calls

Decoding calls the functions of a host as the schema prescribes, whatever the source and
the answers of the host are.  A success has made the calls of the schedule and no others,
and what its items with functions yield are the values of these calls.
-/

namespace BinaryRecords

variable {σ α : Type} {host : Host σ}

namespace Schema

/-- Whether decoding a struct makes the calls of its schedule. -/
def StructFollows (schema : Schema) (host : Host σ) (name : String) : Prop :=
  Decoding.Follows host (schema.structSchedule name)
    (fun record values => values = schema.structReturned name record)
    (schema.decodeRecord host name) (schema.decodeRecord host.recorded name)

variable {schema : Schema}

theorem follows_decodeUnit? {item : Item} {unit : Decoding σ Value}
    {recording : Decoding (σ × List String) Value}
    (structs : ∀ name, item.type = .struct name → schema.StructFollows host name)
    (isUnit : item.decodeUnit? host (schema.decoders host) = some unit)
    (isRecording :
      item.decodeUnit? host.recorded (schema.decoders host.recorded) = some recording) :
    Decoding.Follows host (item.unitSchedule schema.structSchedule)
      (fun value values => values = item.unitReturned schema.structReturned value)
      unit recording := by
  obtain ⟨type, length, count⟩ := item
  cases type with
  | builtin type =>
      cases type with
      | void => cases isUnit
      | integer _ | float _ | string | wideString =>
          cases isUnit
          cases isRecording
          exact (Decoding.follows_ofRead _).map fun _ _ values_eq => values_eq
  | call function =>
      cases isUnit
      cases isRecording
      exact Decoding.follows_call function
  | struct name =>
      cases isUnit
      cases isRecording
      refine (structs name rfl).map ?_
      rintro record _ rfl
      simp [Item.unitReturned, Value.record?]

theorem follows_decode {item : Item}
    (structs : ∀ name, item.type = .struct name → schema.StructFollows host name) :
    Decoding.Follows host (item.schedule schema.structSchedule)
      (fun value? values => value?.isNone = item.isVoid ∧
        values = value?.toList.flatMap (item.returned schema.structReturned))
      (item.decode host (schema.decoders host))
      (item.decode host.recorded (schema.decoders host.recorded)) := by
  by_cases isGap : item.type = .builtin .void
  · rw [Item.decode_of_none (Item.decodeUnit?_eq_none_iff.mpr isGap),
      Item.decode_of_none (Item.decodeUnit?_eq_none_iff.mpr isGap),
      Item.schedule_of_builtin isGap]
    refine (Decoding.follows_ofRead item.skipVoid).map ?_
    rintro _ _ rfl
    exact ⟨(Item.isVoid_eq_true_iff.mpr isGap).symm, rfl⟩
  · obtain ⟨unit, isUnit⟩ := Item.exists_decodeUnit? isGap host (schema.decoders host)
    obtain ⟨recording, isRecording⟩ :=
      Item.exists_decodeUnit? isGap host.recorded (schema.decoders host.recorded)
    have isValue := Item.isVoid_eq_false_iff.mpr isGap
    have follows := follows_decodeUnit? structs isUnit isRecording
    by_cases count_eq : item.count = 1
    · rw [Item.decode_of_single isUnit count_eq, Item.decode_of_single isRecording count_eq,
        Item.schedule_of_single count_eq]
      refine follows.map ?_
      rintro value _ rfl
      simp [isValue, Item.returned, count_eq]
    · rw [Item.decode_of_array isUnit count_eq, Item.decode_of_array isRecording count_eq]
      refine (Item.follows_decodeArray follows).map ?_
      rintro elements _ rfl
      simp [isValue, Item.returned, count_eq, Value.elements?]

/-- Items are decoded one after the other, and values that are put together in some way
hold what calls have returned for both. -/
theorem follows_bind_decode (results : α → List Value) {item : Item} {items : List Item}
    {rest : Decoding σ α} {restRecording : Decoding (σ × List String) α}
    {join : Option Value → α → α}
    (structs : ∀ name, item.type = .struct name → schema.StructFollows host name)
    (follows : Decoding.Follows host (schema.schedule items)
      (fun result values => values = schema.returned items (results result)) rest restRecording)
    (results_join : ∀ value? result,
      results (join value? result) = value?.toList ++ results result) :
    Decoding.Follows host (schema.schedule (item :: items))
      (fun result values => values = schema.returned (item :: items) (results result))
      (item.decode host (schema.decoders host) >>= fun value? => join value? <$> rest)
      (item.decode host.recorded (schema.decoders host.recorded) >>= fun value? =>
        join value? <$> restRecording) := by
  have mapped (value? : Option Value) : Decoding.Follows host (schema.schedule items)
      (fun joined values => ∃ result, joined = join value? result ∧
        values = schema.returned items (results result))
      (join value? <$> rest) (join value? <$> restRecording) :=
    follows.map fun result _ values_eq => ⟨result, rfl, values_eq⟩
  refine (follows_decode structs).bind mapped ?_
  rintro value? _ _ _ ⟨isNone_eq, rfl⟩ ⟨result, rfl, rfl⟩
  rw [results_join, returned, returned, itemsReturned_cons isNone_eq]

theorem follows_decodeItems {items : List Item}
    (structs : ∀ item ∈ items, ∀ name, item.type = .struct name →
      schema.StructFollows host name) :
    Decoding.Follows host (schema.schedule items)
      (fun results values => values = schema.returned items results)
      (schema.decodeItems host items) (schema.decodeItems host.recorded items) := by
  induction items with
  | nil => exact Decoding.follows_pure rfl
  | cons item items induction =>
      have followsOthers :=
        induction fun other member => structs other (List.mem_cons_of_mem _ member)
      exact follows_bind_decode id (structs item List.mem_cons_self) followsOthers fun _ _ => rfl

theorem follows_decodeFields {fields : List Field}
    (structs : ∀ name ∈ embedded fields, schema.StructFollows host name) :
    Decoding.Follows host (schema.schedule (fields.map Field.item))
      (fun record values =>
        values = schema.returned (fields.map Field.item) (record.map Prod.snd))
      (decodeFields host (schema.decoders host) fields)
      (decodeFields host.recorded (schema.decoders host.recorded) fields) := by
  induction fields with
  | nil => exact Decoding.follows_pure rfl
  | cons field fields induction =>
      have followsOthers := induction fun name embeds => structs name (mem_embedded_cons embeds)
      refine follows_bind_decode (List.map Prod.snd) (fun name type_eq =>
        structs name (mem_embedded_cons_of_type type_eq)) followsOthers ?_
      intro value? record
      cases value? <;> rfl

/-- Decoding a struct makes the calls of its schedule, by those of the structs that it
embeds. -/
theorem structFollows (layered : Layered schema.structs) (host : Host σ) (name : String) :
    schema.StructFollows host name := by
  cases found : schema.fields? name with
  | none =>
      rw [StructFollows, decodeRecord_of_unknown layered host found,
        decodeRecord_of_unknown layered host.recorded found]
      exact Decoding.follows_fail _ _
  | some fields =>
      refine induction_on_embedded layered
        (motive := fun name => schema.StructFollows host name) ?_ found
      intro outer outerFields foundOuter inners
      rw [StructFollows, decodeRecord_of_fields? layered host foundOuter,
        decodeRecord_of_fields? layered host.recorded foundOuter,
        structSchedule_of_fields? layered foundOuter]
      refine (follows_decodeFields inners).imp ?_
      rintro record _ rfl
      exact (structReturned_of_fields? layered foundOuter record).symm

end Schema

/-- Whether the calls that have been made are those of a schedule, as far as decoding got.
A success has made all of them, for the values that are said to come from calls.  A call
that does not return exactly one value is the last one, and its error is the outcome. -/
structure Host.HasFollowed (host : Host σ) (state : σ) (schedule : List String)
    (returned : α → List Value) (outcome : Except Error α) (made : List String) : Prop where
  isPrefix : made <+: schedule
  served : ∀ result, outcome = .ok result →
    made = schedule ∧ host.Serves state made (returned result)
  refused : ∀ before function others failure, made = before ++ function :: others →
    refusal? function (host function (host.afterCalls state before)).1 = some failure →
      others = [] ∧ outcome = .error failure

theorem Host.Serves.refusal?_ne_some {state : σ} {made before others : List String}
    {values : List Value} {function : String} (serves : host.Serves state made values)
    (made_eq : made = before ++ function :: others) (failure : Error) :
    refusal? function (host function (host.afterCalls state before)).1 ≠ some failure := by
  rw [made_eq] at serves
  rw [serves.refusal?_eq_none]
  exact Option.some_ne_none failure |>.symm

theorem Decoding.Ends.hasFollowed {schedule made : List String} {returned : α → List Value}
    {state : σ} {outcome : Except Error (α × Cursor)}
    (ends : Ends host schedule (fun result values => values = returned result) state outcome made) :
    host.HasFollowed state schedule returned (outcome.map Prod.fst) made := by
  cases ends with
  | done serves holdsValues =>
      subst holdsValues
      refine ⟨List.prefix_rfl, ?_, ?_⟩
      · rintro result success
        cases success
        exact ⟨rfl, serves⟩
      · intro before function others failure made_eq refusal_eq
        exact absurd refusal_eq (serves.refusal?_ne_some made_eq failure)
  | failed isPrefix serves =>
      refine ⟨isPrefix, ?_, ?_⟩
      · intro result success
        cases success
      · intro before function others failure made_eq refusal_eq
        exact absurd refusal_eq (serves.refusal?_ne_some made_eq failure)
  | refused isPrefix serves refusal_eq =>
      refine ⟨isPrefix, ?_, ?_⟩
      · intro result success
        cases success
      · intro before function others failure made_eq refusalBefore
        -- Only the last of the calls has been refused.
        obtain rfl | ⟨more, last, rfl⟩ := List.eq_nil_or_concat others
        · obtain ⟨rfl, last_eq⟩ := List.append_inj' made_eq rfl
          cases last_eq
          rw [refusal_eq] at refusalBefore
          cases refusalBefore
          exact ⟨rfl, rfl⟩
        · rw [List.concat_eq_append, ← List.cons_append, ← List.append_assoc] at made_eq
          obtain ⟨made_eq, _⟩ := List.append_inj' made_eq rfl
          exact absurd refusalBefore (serves.refusal?_ne_some made_eq failure)

/-- Whether decoding at the position of a source makes the calls of a schedule, as far as
it gets.  The host that records the calls shows which ones these are. -/
def Source.MakesCalls (source : Source) (host : Host σ) (state : σ) (schedule : List String)
    (returned : α → List Value) (decode : Decoding σ α)
    (recording : Decoding (σ × List String) α) : Prop :=
  ∃ outcome after made,
    source.decode decode state = (outcome, after, host.afterCalls state made) ∧
      source.decode recording (state, []) =
        (outcome, after, (host.afterCalls state made, made.reverse)) ∧
      host.HasFollowed state schedule returned outcome made

theorem Decoding.Follows.makesCalls {schedule : List String} {returned : α → List Value}
    {decode : Decoding σ α} {recording : Decoding (σ × List String) α}
    (follows : Follows host schedule (fun result values => values = returned result)
      decode recording) (source : Source) (state : σ) :
    source.MakesCalls host state schedule returned decode recording := by
  obtain ⟨outcome, made, run, recordingRun, ends⟩ := follows source.cursor state []
  rw [List.append_nil] at recordingRun
  have hasFollowed := ends.hasFollowed
  match outcome with
  | .error failure =>
      refine ⟨.error failure, source, made, ?_, ?_, hasFollowed⟩
      · simp only [Source.decode, run]
      · simp only [Source.decode, recordingRun]
  | .ok (result, after) =>
      refine ⟨.ok result, { source with position := after.position }, made, ?_, ?_, hasFollowed⟩
      · simp only [Source.decode, run]
      · simp only [Source.decode, recordingRun]

namespace Schema

/-- Whatever the source, the host and its state are, decoding makes the calls that the
schema prescribes, and no others. -/
theorem decoding_makes_scheduled_calls {schema : Schema} (reachable : schema.Reachable)
    (host : Host σ) (source : Source) (state : σ) :
    (∀ items, source.MakesCalls host state (schema.schedule items) (schema.returned items)
      (schema.decodeItems host items) (schema.decodeItems host.recorded items)) ∧
    ∀ name, source.MakesCalls host state (schema.structSchedule name)
      (schema.structReturned name) (schema.decodeRecord host name)
      (schema.decodeRecord host.recorded name) := by
  have structs := structFollows reachable.layered host
  constructor
  · intro items
    exact (follows_decodeItems fun _ _ name _ => structs name).makesCalls source state
  · intro name
    exact (structs name).makesCalls source state

/-- A struct with a number that the host assigns. -/
def entryFields : List Field :=
  [⟨{ type := .call "serial" }, some "number"⟩,
    ⟨{ type := .builtin (.integer .u8) }, some "kind"⟩]

/-- A schema with the struct of a number that the host assigns. -/
def entries : Schema :=
  ⟨[⟨"entry", entryFields⟩]⟩

theorem decoding_makes_scheduled_calls_entries :
    let items : List Item := [{ type := .struct "entry", count := 2 }, { type := .call "serial" }]
    let source : Source := ⟨"entries", [7, 8], 0⟩
    let values : List Value :=
      [.array [.record [("number", .integer 4), ("kind", .integer 7)],
        .record [("number", .integer 5), ("kind", .integer 8)]], .integer 6]
    entries.Reachable ∧
      source.MakesCalls countingHost 4 ["serial", "serial", "serial"] (entries.returned items)
        (entries.decodeItems countingHost items)
        (entries.decodeItems countingHost.recorded items) ∧
      source.decode (entries.decodeItems countingHost.recorded items) (4, []) =
        (.ok values, { source with position := 2 }, (7, ["serial", "serial", "serial"])) ∧
      entries.returned items values = [.integer 4, .integer 5, .integer 6] := by
  intro items source values
  have noStruct : embeddingsReverse "entry" entryFields = [] := rfl
  have depth : checkDepth empty.structs "entry" entryFields = .ok () := by
    rw [checkDepth, noStruct, checkEmbeddings]
  have reachable : entries.Reachable :=
    ⟨[.declare "entry" entryFields], perform_declare rfl depth⟩
  have schedule_eq : entries.schedule items = ["serial", "serial", "serial"] := rfl
  rw [← schedule_eq]
  exact ⟨reachable, (decoding_makes_scheduled_calls reachable countingHost source 4).1 items,
    rfl, rfl⟩

end Schema

end BinaryRecords
