import BinaryRecords.Proofs.Decode.Establishing
import BinaryRecords.Proofs.Format.Conformance
import BinaryRecords.Proofs.Format.RoundTrip
import BinaryRecords.Proofs.Schema.FromTexts

/-!
# Decoded values conform to their layout

Whatever decoding yields is among the values that the layout admits.  That the names in
a record are those of its fields rests on the texts that the structs are declared from,
since nothing else keeps fields from being unnamed or named alike.
-/

namespace BinaryRecords

variable {σ : Type} {host : Host σ}

namespace Item

variable {item : Item} {decoders : Decoders σ} {unit : Decoding σ Value}

/-- Reading a built-in item leaves the host alone. -/
theorem establishes_same_state {type : BuiltinType} (type_eq : item.type = .builtin type)
    (isUnit : item.decodeUnit? host decoders = some unit) :
    unit.Establishes fun _ state after => after = state := by
  unfold decodeUnit? at isUnit
  rw [type_eq] at isUnit
  cases type <;> cases isUnit <;> exact Decoding.establishes_map_ofRead fun _ _ _ _ _ => rfl

theorem establishes_admits (isOwn : item.type.structName? = none)
    (isUnit : item.decodeUnit? host decoders = some unit) :
    unit.Establishes (item.Admits host) := by
  cases type_eq : item.type with
  | builtin type =>
      have keeps := establishes_same_state type_eq isUnit
      cases type with
      | float type =>
          unfold decodeUnit? at isUnit
          rw [type_eq] at isUnit
          cases isUnit
          exact Decoding.establishes_map_ofRead fun _ _ _ _ _ => .float type_eq
      | integer _ | string | wideString | void =>
          have isPlain : item.IsPlain := by simp [IsPlain, type_eq]
          intro before after state endState value success
          cases keeps before after state endState value success
          obtain ⟨bytes, _, stores⟩ :=
            isPlain.consumes isOwn isUnit before after state state value success
          exact stores.admits host state
  | call function =>
      unfold decodeUnit? at isUnit
      rw [type_eq] at isUnit
      cases isUnit
      intro before after state endState value success
      exact .call type_eq
        (Decoding.establishes_call host function before after state endState value success)
  | struct name => simp [type_eq, ItemType.structName?] at isOwn

end Item

namespace Schema

variable {schema : Schema} {decoders : Decoders σ}

theorem establishes_decodeUnit? {item : Item} {unit : Decoding σ Value}
    (structs : ∀ name, item.type = .struct name →
      (decodeStruct decoders name).Establishes (schema.RecordConforms host name))
    (isUnit : item.decodeUnit? host decoders = some unit) :
    unit.Establishes (schema.UnitConforms host item) := by
  cases type_eq : item.type.structName? with
  | none =>
      intro before after state endState value success
      exact .own (Item.establishes_admits type_eq isUnit before after state endState value success)
  | some name =>
      have isStruct := ItemType.structName?_eq_some_iff.mp type_eq
      cases (Item.decodeUnit?_of_struct isStruct).symm.trans isUnit
      exact (structs name isStruct).map fun record state after conforms =>
        .struct isStruct conforms

theorem establishes_repeated {item : Item} {unit : Decoding σ Value}
    (establishes : unit.Establishes (schema.UnitConforms host item)) (count : Nat)
    (resultsReverse : List Value) :
    (unit.repeated count resultsReverse).Establishes fun results state after =>
      ∃ elements, results = resultsReverse.reverse ++ elements ∧ elements.length = count ∧
        schema.RepeatsConform host item elements state after := by
  induction count generalizing resultsReverse with
  | zero =>
      apply Decoding.establishes_pure
      intro state
      exact ⟨[], by simp, rfl, .nil⟩
  | succ count induction =>
      rw [Decoding.repeated_succ]
      refine establishes.bind (fun element => induction (element :: resultsReverse)) ?_
      rintro element results state middle after first ⟨elements, rfl, length_eq, others⟩
      exact ⟨element :: elements, by simp, by simp [length_eq], .cons first others⟩

theorem establishes_decodeArray {item : Item} {unit : Decoding σ Value}
    (establishes : unit.Establishes (schema.UnitConforms host item)) :
    (item.decodeArray unit).Establishes fun elements state after =>
      elements.length = item.count.toNat ∧
        schema.RepeatsConform host item elements state after := by
  intro before after state endState elements success
  obtain ⟨count_eq, rfl, rfl, rfl⟩ |
    ⟨others, first, middle, middleState, count_eq, run, _, runOthers⟩ :=
    Item.decodeArray_eq_ok success
  · exact ⟨count_eq.symm, .nil⟩
  · obtain ⟨tail, rfl, length_eq, repeats⟩ := establishes_repeated establishes others [first]
      middle after middleState endState elements runOthers
    have conforms := establishes before middle state middleState first run
    exact ⟨by simp [length_eq, count_eq], .cons conforms repeats⟩

theorem establishes_decode {item : Item}
    (structs : ∀ name, item.type = .struct name →
      (decodeStruct decoders name).Establishes (schema.RecordConforms host name)) :
    (item.decode host decoders).Establishes (schema.ItemConforms host item) := by
  cases isUnit : item.decodeUnit? host decoders with
  | none =>
      have isVoid := Item.isVoid_eq_true_iff.mpr (Item.decodeUnit?_eq_none_iff.mp isUnit)
      rw [Item.decode_of_none isUnit]
      apply Decoding.establishes_map_ofRead
      intro before after result _ state
      exact .gap isVoid
  | some unit =>
      have isValue : item.isVoid = false := by
        rw [Item.isVoid_eq_false_iff]
        intro isVoid
        rw [Item.decodeUnit?_eq_none_iff.mpr isVoid] at isUnit
        cases isUnit
      have establishes := establishes_decodeUnit? structs isUnit
      by_cases count_eq : item.count = 1
      · rw [Item.decode_of_single isUnit count_eq]
        exact establishes.map fun _ _ _ conforms => .single isValue count_eq conforms
      · rw [Item.decode_of_array isUnit count_eq]
        exact (establishes_decodeArray establishes).map
          fun _ _ _ ⟨length_eq, repeats⟩ => .array isValue count_eq length_eq repeats

theorem establishes_decodeItems {items : List Item}
    (structs : ∀ item ∈ items, ∀ name, item.type = .struct name →
      (decodeStruct decoders name).Establishes (schema.RecordConforms host name)) :
    (BinaryRecords.decodeItems host decoders items).Establishes
      (schema.ItemsConform host items) := by
  induction items with
  | nil => exact Decoding.establishes_pure fun state => .nil
  | cons item items induction =>
      have others := induction fun other member => structs other (List.mem_cons_of_mem _ member)
      exact (establishes_decode (structs item List.mem_cons_self)).bind_map others
        (fun value? values => value?.toList ++ values)
        fun _ _ _ _ _ first conform => .cons first conform

theorem establishes_decodeFields {fields : List Field}
    (structs : ∀ name ∈ embedded fields,
      (decodeStruct decoders name).Establishes (schema.RecordConforms host name))
    (areNamed : ∀ field ∈ fields, field.name.isSome = !field.item.isVoid) :
    (BinaryRecords.decodeFields host decoders fields).Establishes fun record state after =>
      record.map (fun entry => some entry.1) =
        (fields.filter fun field => !field.item.isVoid).map Field.name ∧
      schema.ItemsConform host (fields.map Field.item) (record.map Prod.snd) state after := by
  induction fields with
  | nil => exact Decoding.establishes_pure fun state => ⟨rfl, .nil⟩
  | cons field fields induction =>
      have others := induction (fun name embeds => structs name (mem_embedded_cons embeds))
        fun other member => areNamed other (List.mem_cons_of_mem _ member)
      refine (establishes_decode fun name type_eq =>
        structs name (mem_embedded_cons_of_type type_eq)).bind_map others
        (fun value? entries =>
          value?.toList.map (fun value => (field.name.getD "", value)) ++ entries) ?_
      rintro value? entries state middle after first ⟨names_eq, conform⟩
      have isSome_eq := first.isSome_eq
      have isNamed := areNamed field List.mem_cons_self
      constructor
      · rw [List.filter_cons, ← isSome_eq]
        cases value? with
        | none => exact names_eq
        | some value =>
            obtain ⟨name, name_eq⟩ := Option.isSome_iff_exists.mp (isNamed.trans isSome_eq.symm)
            simp [name_eq, names_eq]
      · have values_eq : (value?.toList.map (fun value => (field.name.getD "", value)) ++
            entries).map Prod.snd = value?.toList ++ entries.map Prod.snd := by
          simp [Function.comp_def]
        rw [values_eq]
        exact .cons first conform

theorem establishes_decodeRecord (fromTexts : schema.IsFromTexts) (host : Host σ)
    (name : String) : (schema.decodeRecord host name).Establishes
      (schema.RecordConforms host name) := by
  have layered := fromTexts.layered
  cases found : schema.fields? name with
  | none =>
      rw [decodeRecord_of_unknown layered host found]
      exact Decoding.establishes_fail _ _
  | some fields =>
      refine induction_on_embedded layered (motive := fun name =>
        (schema.decodeRecord host name).Establishes (schema.RecordConforms host name)) ?_ found
      intro outer outerFields foundOuter inners
      have areNamed := fromTexts.areNamed foundOuter
      rw [decodeRecord_of_fields? layered host foundOuter]
      intro before after state endState record success
      obtain ⟨names_eq, values⟩ := establishes_decodeFields inners areNamed.isSome_name before after
        state endState record success
      exact .declared foundOuter (Record.isNamedBy_of_names_eq areNamed.distinct names_eq) values

/-- Whatever is decoded conforms to its layout: a record to the declared struct with its
name, and the values of items to these items one by one. -/
theorem decoded_values_conform (fromTexts : schema.IsFromTexts) (host : Host σ)
    (source after : Source) (state endState : σ) :
    (∀ name record,
      source.decode (schema.decodeRecord host name) state = (.ok record, after, endState) →
        schema.RecordConforms host name record state endState) ∧
    ∀ items values,
      source.decode (schema.decodeItems host items) state = (.ok values, after, endState) →
        schema.ItemsConform host items values state endState ∧
          values.length = (items.filter fun item => !item.isVoid).length := by
  constructor
  · intro name record success
    exact (establishes_decodeRecord fromTexts host name).of_source success
  · intro items values success
    have conform := (establishes_decodeItems fun _ _ name _ =>
      establishes_decodeRecord fromTexts host name).of_source success
    exact ⟨conform, conform.length_eq⟩

theorem yields_taggedPairs : (taggedPairs.decodeRecord Host.silent "tagged" :
    Decoding Unit Record).Yields
      [("pairs", .array [.record [("first", .integer 1), ("second", .integer (-2))],
          .record [("first", .integer 2), ("second", .integer 3)]]),
        ("tag", .string [97, 98])]
      [1, 7, 7, 0xFE, 0xFF, 2, 8, 8, 3, 0, 97, 98, 0] := by
  have stored := encodes_taggedPairsFields.mono Item.implies_encodes_stores
    fun _ member => (throughout_of_forall (fun _ _ _ _ => trivial) "tagged").throughoutItem
      rfl member
  exact yields_decodeRecord reachable_taggedPairs.layered Item.isUniform_stores
    (fun _ _ _ _ stores fits _ isUnit => stores.yields fits isUnit) rfl stored (by decide)

theorem decoded_values_conform_taggedPairs :
    let source : Source := ⟨"pairs", [5, 1, 7, 7, 0xFE, 0xFF, 2, 8, 8, 3, 0, 97, 98, 0, 6], 1⟩
    let record : Record :=
      [("pairs", .array [.record [("first", .integer 1), ("second", .integer (-2))],
          .record [("first", .integer 2), ("second", .integer 3)]]),
        ("tag", .string [97, 98])]
    let names : Source := ⟨"names", [9, 104, 105, 0, 0, 6], 0⟩
    let items : List Item :=
      [{ type := .builtin .void, length := 1 }, { type := .builtin .string, count := 2 }]
    let values : List Value := [.array [.string [104, 105], .string []]]
    taggedPairs.IsFromTexts ∧
      source.decode (taggedPairs.decodeRecord Host.silent "tagged") () =
        (.ok record, { source with position := 14 }, ()) ∧
      taggedPairs.RecordConforms Host.silent "tagged" record () () ∧
      names.decode (taggedPairs.decodeItems Host.silent items) () =
        (.ok values, { names with position := 5 }, ()) ∧
      taggedPairs.ItemsConform Host.silent items values () () := by
  intro source record names items values
  have success : source.decode (taggedPairs.decodeRecord Host.silent "tagged") () =
      (.ok record, { source with position := 14 }, ()) :=
    Source.decode_of_yields yields_taggedPairs "pairs" [5] [6] ()
  have successItems : names.decode (taggedPairs.decodeItems Host.silent items) () =
      (.ok values, { names with position := 5 }, ()) := rfl
  have conform := decoded_values_conform isFromTexts_taggedPairs (Host.silent : Host Unit)
  exact ⟨isFromTexts_taggedPairs, success, (conform source _ () ()).1 "tagged" record success,
    successItems, ((conform names _ () ()).2 items values successItems).1⟩

end Schema

end BinaryRecords
