import BinaryRecords.Proofs.Decode.Unnamed
import BinaryRecords.Proofs.Format.Conforming
import BinaryRecords.Proofs.Schema.Description
import BinaryRecords.Proofs.Session.Indistinguishable

/-!
# Reading structs by text

All structs of a session have been parsed from texts.  The items of such a struct are
parsed again from their texts, now as items of a read, and the name of the struct is the
text of one item.  So a session reads the same by either text as by the name.
-/

namespace BinaryRecords

namespace Layout

theorem IsSpelled.item {field : Field} (isSpelled : IsSpelled FieldPhrase field) :
    IsSpelled ItemPhrase field.item := by
  obtain ⟨tokens, phrase, lexical⟩ := isSpelled
  cases phrase with
  | gap itemPhrase _ => exact ⟨tokens, itemPhrase, lexical⟩
  | named itemPhrase _ _ => exact ⟨_, itemPhrase, (List.forall_mem_append.mp lexical).1⟩

/-- Items that have been parsed as fields are parsed from their texts as items. -/
theorem parseItems_render_of_parseFields {text : String} {fields : List Field}
    (parsed : parseFields text = .ok fields) :
    parseItems (" ".intercalate (fields.map fun field => field.item.render)) =
      .ok (fields.map Field.item) := by
  have spelled : ∀ item ∈ fields.map Field.item, IsSpelled ItemPhrase item := by
    intro item member
    obtain ⟨field, memberFields, rfl⟩ := List.mem_map.mp member
    exact (isSpelled_of_parseFields parsed field memberFields).item
  have render_eq : (fields.map fun field => field.item.render) =
      (fields.map Field.item).map Item.render := by
    rw [List.map_map]
    rfl
  rw [render_eq]
  exact parseItems_of_spells spelled
    (spells_intercalate_space fun item member => (spelled item member).spells_item)

theorem parseName_eq_ok_iff {text name : String} :
    parseName text = .ok name ↔ tokenize text.toList = ⟨[.name name], none⟩ ∧ name = text := by
  unfold parseName
  constructor
  · intro parsed
    split at parsed
    · rename_i only lexed
      split at parsed
      · rename_i same
        cases parsed
        exact ⟨lexed, same⟩
      · cases parsed
    · cases parsed
  · rintro ⟨lexed, same⟩
    simp only [lexed, if_pos same]

/-- A struct name is the text of an item. -/
theorem parseItems_of_parseName {text name : String} (parsed : parseName text = .ok name) :
    parseItems name = .ok [{ type := .struct name }] := by
  obtain ⟨lexed, rfl⟩ := parseName_eq_ok_iff.mp parsed
  have reading : IsReading ItemPhrase [({ type := .struct name }, [.name name])]
      (tokenize name.toList).tokens := by
    rw [lexed]
    exact .singleton (itemPhrase_struct name)
  exact parseItems_of_reading (congrArg Lexed.failure lexed) reading

end Layout

/-- Whether the name and the fields of a struct have been parsed from texts. -/
structure Struct.IsParsed (struct : Struct) : Prop where
  name : ∃ text, Layout.parseName text = .ok struct.name
  fields : ∃ text, Layout.parseFields text = .ok struct.fields

/-- Whether a declaration is of a struct that has been parsed from texts. -/
def Schema.Operation.IsParsed : Schema.Operation → Prop
  | .declare name fields => Struct.IsParsed ⟨name, fields⟩
  | .clear => True

namespace Session

variable {σ α : Type} {session : Session σ}

theorem schema_decode (session : Session σ) (source : Source) (action : Decoding σ α) :
    (session.decode source action).2.schema = session.schema := rfl

theorem schema_readItems (session : Session σ) (text : String) :
    (session.readItems text).2.schema = session.schema := by
  cases source_eq : session.source with
  | none => rw [readItems_of_none text source_eq]
  | some source =>
      rcases asked : session.memo.parse text with ⟨failure | remembered, memo⟩
      · rw [readItems_of_error source_eq asked]
      · rw [readItems_of_ok source_eq asked, schema_decode]

theorem readRecord_of_none (name : String) (source_eq : session.source = none) :
    session.readRecord name = (.error .noSource, session) := by
  simp only [readRecord, source_eq]

theorem readRecord_of_some {source : Source} (name : String)
    (source_eq : session.source = some source) :
    session.readRecord name =
      session.decode source (session.schema.decodeRecord session.host name) := by
  simp only [readRecord, source_eq]

theorem schema_readRecord (session : Session σ) (name : String) :
    (session.readRecord name).2.schema = session.schema := by
  cases source_eq : session.source with
  | none => rw [readRecord_of_none name source_eq]
  | some source => rw [readRecord_of_some name source_eq, schema_decode]

theorem schema_readShape (session : Session σ) (shape : Shape) (name : String) :
    (session.readShape shape name).2.schema = session.schema := by
  have read := schema_readRecord session name
  rcases run : session.readRecord name with ⟨failure | record, after⟩ <;> rw [run] at read
  · rwa [readShape_of_error run]
  · cases fits : shape.ofRecord record with
    | ok extract => rwa [readShape_of_ok run fits]
    | error failure => rwa [readShape_of_unfit run fits]

/-- A declaration declares what has been parsed from its texts, or changes nothing. -/
theorem schema_declare (session : Session σ) (nameText fieldsText : String) :
    (session.declare nameText fieldsText).2.schema = session.schema ∨
      ∃ change : Schema.Operation, change.IsParsed ∧
        (session.declare nameText fieldsText).2.schema = session.schema.perform change := by
  unfold declare
  cases parsedName : Layout.parseName nameText with
  | error failure => exact Or.inl rfl
  | ok name =>
      cases parsedFields : Layout.parseFields fieldsText with
      | error failure => exact Or.inl rfl
      | ok fields =>
          refine Or.inr ⟨.declare name fields, ⟨⟨_, parsedName⟩, ⟨_, parsedFields⟩⟩, ?_⟩
          cases success : session.schema.declare name fields with
          | error failure =>
              simp only [Schema.perform, success, bind, Except.bind]
          | ok declared =>
              simp only [Schema.perform, success, bind, Except.bind]

/-- An operation declares a struct that has been parsed from texts, or forgets all
structs, or changes none. -/
theorem schema_perform (session : Session σ) (operation : Operation σ) :
    (session.perform operation).2.schema = session.schema ∨
      ∃ change : Schema.Operation, change.IsParsed ∧
        (session.perform operation).2.schema = session.schema.perform change := by
  cases operation with
  | declare nameText fieldsText => exact schema_declare session nameText fieldsText
  | clearSchema => exact Or.inr ⟨.clear, trivial, rfl⟩
  | readItems text => exact Or.inl (schema_readItems session text)
  | readRecord name => exact Or.inl (schema_readRecord session name)
  | readShape shape name => exact Or.inl (schema_readShape session shape name)
  | openSource machine locator =>
      refine Or.inl ?_
      simp only [perform, answered, openSource]
      cases Source.openLocator machine locator <;> rfl
  | moveTo position =>
      refine Or.inl ?_
      simp only [perform, answered, moveTo]
      cases session.source <;> rfl
  | setHost host hostState | install source | close | describe name | find needle limit =>
      exact Or.inl rfl

/-- The structs of a session come about by declarations that have been parsed from
texts. -/
theorem exists_history_performAll {history : List Schema.Operation}
    (history_eq : Schema.ofHistory history = session.schema)
    (parsed : ∀ change ∈ history, change.IsParsed) (operations : List (Operation σ)) :
    ∃ history, Schema.ofHistory history = (session.performAll operations).schema ∧
      ∀ change ∈ history, change.IsParsed := by
  induction operations generalizing session history with
  | nil => exact ⟨history, history_eq, parsed⟩
  | cons operation operations induction =>
      rcases schema_perform session operation with same | ⟨change, changeParsed, schema_eq⟩
      · exact induction (history_eq.trans same.symm) parsed
      · have extended_eq : Schema.ofHistory (history ++ [change]) =
            (session.perform operation).2.schema := by
          rw [Schema.ofHistory, List.foldl_append, schema_eq, ← history_eq]
          rfl
        refine induction extended_eq ?_
        intro other member
        rcases List.mem_append.mp member with earlier | latest
        · exact parsed other earlier
        · cases List.mem_singleton.mp latest
          exact changeParsed

theorem Reachable.exists_history (reachable : session.Reachable) :
    ∃ history, Schema.ofHistory history = session.schema ∧
      ∀ change ∈ history, change.IsParsed := by
  obtain ⟨host, hostState, operations, rfl⟩ := reachable
  have noHistory : Schema.ofHistory [] = (new host hostState).schema := rfl
  exact exists_history_performAll noHistory nofun operations

theorem Reachable.layered (reachable : session.Reachable) : Layered session.schema.structs := by
  obtain ⟨history, history_eq, _⟩ := reachable.exists_history
  exact Schema.Reachable.layered ⟨history, history_eq⟩

theorem Reachable.isParsed (reachable : session.Reachable) {name : String} {fields : List Field}
    (found : session.schema.fields? name = some fields) : Struct.IsParsed ⟨name, fields⟩ := by
  obtain ⟨history, history_eq, parsed⟩ := reachable.exists_history
  have noStruct : ∀ struct ∈ Schema.empty.structs, struct.IsParsed := nofun
  have all : ∀ struct ∈ (Schema.ofHistory history).structs, struct.IsParsed :=
    Schema.forall_structs_foldl_perform noStruct
      fun name fields member => parsed (.declare name fields) member
  obtain ⟨struct, member, rfl, rfl⟩ := exists_mem_of_fieldsOf? found
  rw [← history_eq] at member
  exact all struct member

theorem decode_map {β : Type} (session : Session σ) (source : Source) (present : α → β)
    (action : Decoding σ α) :
    session.decode source (present <$> action) =
      ((session.decode source action).1.map present, (session.decode source action).2) := by
  unfold decode
  rw [Source.decode_map]

/-- A text whose items are read as a struct is, but for how the record is given, reads as
the name of the struct does. -/
theorem exists_readItems_eq (reachable : session.Reachable) {text name : String}
    {items : List Item} {present : Record → List Value}
    (parsed : Layout.parseItems text = .ok items)
    (decode_eq : session.schema.decodeItems session.host items =
      present <$> session.schema.decodeRecord session.host name) :
    ∃ memo, session.readItems text =
      ((session.readRecord name).1.map present,
        { (session.readRecord name).2 with memo := memo }) := by
  cases source_eq : session.source with
  | none =>
      refine ⟨session.memo, ?_⟩
      rw [readItems_of_none text source_eq, readRecord_of_none name source_eq]
      rfl
  | some source =>
      obtain ⟨place, memo, asked, _⟩ := reachable.isSound.parse_of_ok parsed
      refine ⟨memo, ?_⟩
      rw [readItems_of_ok source_eq asked, readRecord_of_some name source_eq]
      exact (congrArg _ decode_eq).trans (decode_map { session with memo := memo } source _ _)

/-- From every source and with every host, the items of a struct are read with the same
outcome as the struct, with the same calls, to the values of its record; and the struct
as a single item is read to the record itself.  In a session, where structs are declared
by texts, the texts of these items and the name of the struct do so too. -/
theorem reading_items_reads_struct (σ : Type) :
    (∀ (schema : Schema) (name : String) (fields : List Field), schema.Reachable →
      schema.fields? name = some fields →
        ∀ (host : Host σ) (source : Source) (state : σ) (calls : List String),
          let whole := source.decode (schema.decodeRecord host name) state
          let recording :=
            source.decode (schema.decodeRecord host.recorded name) (state, calls)
          source.decode (schema.decodeItems host (fields.map Field.item)) state =
              (whole.1.map (List.map Prod.snd), whole.2) ∧
            source.decode (schema.decodeItems host.recorded (fields.map Field.item))
                (state, calls) =
              (recording.1.map (List.map Prod.snd), recording.2) ∧
            source.decode (schema.decodeItems host [{ type := .struct name }]) state =
              (whole.1.map fun record => [.record record], whole.2) ∧
            source.decode (schema.decodeItems host.recorded [{ type := .struct name }])
                (state, calls) =
              (recording.1.map fun record => [.record record], recording.2)) ∧
    ∀ (session : Session σ) (name : String) (fields : List Field), session.Reachable →
      session.schema.fields? name = some fields →
        let whole := session.readRecord name
        (∃ memo, session.readItems (" ".intercalate (fields.map fun field => field.item.render)) =
          (whole.1.map (List.map Prod.snd), { whole.2 with memo := memo })) ∧
        ∃ memo, session.readItems name =
          (whole.1.map fun record => [.record record], { whole.2 with memo := memo }) := by
  constructor
  · intro schema name fields reachable found host source state calls whole recording
    have layered := reachable.layered
    refine ⟨?_, ?_, ?_, ?_⟩
    · rw [Schema.decodeItems_of_fields? layered host found, Source.decode_map]
    · rw [Schema.decodeItems_of_fields? layered host.recorded found, Source.decode_map]
    · rw [Schema.decodeItems_single_struct, Source.decode_map]
    · rw [Schema.decodeItems_single_struct, Source.decode_map]
  · intro session name fields reachable found whole
    obtain ⟨⟨nameText, parsedName⟩, ⟨fieldsText, parsedFields⟩⟩ := reachable.isParsed found
    constructor
    · exact exists_readItems_eq reachable (Layout.parseItems_render_of_parseFields parsedFields)
        (Schema.decodeItems_of_fields? reachable.layered session.host found)
    · exact exists_readItems_eq reachable (Layout.parseItems_of_parseName parsedName)
        (Schema.decodeItems_single_struct session.schema session.host name)

/-- A session with a source of tagged pairs. -/
def taggedSession : Session Unit where
  source := some ⟨"pairs", [1, 7, 7, 0xFE, 0xFF, 2, 8, 8, 3, 0, 97, 98, 0], 0⟩
  schema := .taggedPairs
  memo := .empty
  host := Host.silent
  hostState := ()

theorem declare_of_parsed {name nameText fieldsText : String} {fields : List Field}
    {declared : Schema} (parsedName : Layout.parseName nameText = .ok name)
    (parsedFields : Layout.parseFields fieldsText = .ok fields)
    (success : session.schema.declare name fields = .ok declared) :
    session.declare nameText fieldsText = (.ok (), { session with schema := declared }) := by
  simp only [declare, parsedName, parsedFields, success, bind, Except.bind]

theorem reachable_taggedSession : taggedSession.Reachable := by
  have pair : Schema.empty.declare "pair" Schema.pairFields =
      .ok ⟨[⟨"pair", Schema.pairFields⟩]⟩ :=
    Schema.declare_eq_ok_iff.mpr ⟨rfl, Schema.checkDepth_pairFields, rfl⟩
  have tagged : Schema.declare ⟨[⟨"pair", Schema.pairFields⟩]⟩ "tagged" Schema.taggedPairsFields =
      .ok Schema.taggedPairs :=
    Schema.declare_eq_ok_iff.mpr ⟨rfl, Schema.checkDepth_taggedPairsFields, rfl⟩
  have pairName : Layout.parseName "pair" = .ok "pair" := by decide +kernel
  have pairFields : Layout.parseFields "u8:first void#1*2 i16:second" =
      .ok Schema.pairFields := by decide +kernel
  have taggedName : Layout.parseName "tagged" = .ok "tagged" := by decide +kernel
  have taggedFields : Layout.parseFields "pair*2:pairs str#3:tag" =
      .ok Schema.taggedPairsFields := by decide +kernel
  refine ⟨Host.silent, (), [.declare "pair" "u8:first void#1*2 i16:second",
    .declare "tagged" "pair*2:pairs str#3:tag",
    .install ⟨"pairs", [1, 7, 7, 0xFE, 0xFF, 2, 8, 8, 3, 0, 97, 98, 0], 0⟩], ?_⟩
  simp only [performAll, List.foldl_cons, List.foldl_nil, perform, answered]
  rw [declare_of_parsed pairName pairFields pair, declare_of_parsed taggedName taggedFields tagged]
  rfl

/-- A source that ends early is read to the same error by the items and by the name. -/
theorem reading_items_reads_struct_taggedPairs :
    let record : Record :=
      [("pairs", .array [.record [("first", .integer 1), ("second", .integer (-2))],
          .record [("first", .integer 2), ("second", .integer 3)]]),
        ("tag", .string [97, 98])]
    let short : Source := ⟨"short", [1, 7, 7, 4, 0, 2, 8, 8, 3], 0⟩
    (taggedSession.readRecord "tagged").1 = .ok record ∧
      (taggedSession.readItems "pair*2 str#3").1 = .ok (record.map Prod.snd) ∧
      (taggedSession.readItems "tagged").1 = .ok [.record record] ∧
      short.decode (Schema.taggedPairs.decodeItems Host.silent
          (Schema.taggedPairsFields.map Field.item)) () =
        (.error (.insufficientData 8 2 9), short, ()) := by
  intro record short
  obtain ⟨ofSchema, ofSession⟩ := reading_items_reads_struct Unit
  obtain ⟨⟨memo, itemsRun⟩, otherMemo, nameRun⟩ :=
    ofSession taggedSession "tagged" Schema.taggedPairsFields reachable_taggedSession rfl
  have render_eq :
      " ".intercalate (Schema.taggedPairsFields.map fun field => field.item.render) =
        "pair*2 str#3" := by decide +kernel
  have decoded := Source.decode_of_yields Schema.yields_taggedPairs "pairs" [] [] ()
  have read : (taggedSession.readRecord "tagged").1 = .ok record :=
    congrArg (Prod.fst : Except Error Record × Source × Unit → _) decoded
  rw [render_eq, read] at itemsRun
  rw [read] at nameRun
  obtain ⟨shortRun, _⟩ := ofSchema Schema.taggedPairs "tagged" Schema.taggedPairsFields
    Schema.reachable_taggedPairs rfl Host.silent short () []
  exact ⟨read, congrArg Prod.fst itemsRun, congrArg Prod.fst nameRun, shortRun⟩

end Session

end BinaryRecords
