import BinaryRecords.Proofs.Decode.Items
import BinaryRecords.Proofs.Decode.Structs
import BinaryRecords.Proofs.Format.Written

/-!
# Decoding what is written

If every built-in item is decoded from exactly those bytes in which its values are
written, then so is every struct.
-/

namespace BinaryRecords

namespace Schema

variable {σ : Type} {form : Form} {schema : Schema} {host : Host σ}

/-- Whether a decoding yields the values of an item from the bytes in which they are
written, unless these are more than 64 bits can count. -/
def ReadsUnit (form : Form) (schema : Schema) (item : Item) (unit : Decoding σ Value) : Prop :=
  ∀ value bytes, schema.UnitWritten form item value bytes → bytes.length ≤ largestWord →
    unit.Yields value bytes

theorem RepeatsWritten.yields_repeated {item : Item} {unit : Decoding σ Value}
    (reads : schema.ReadsUnit form item unit) {elements : List Value} {bytes : List UInt8}
    (written : schema.RepeatsWritten form item elements bytes)
    (bounded : bytes.length ≤ largestWord) (resultsReverse : List Value) :
    (unit.repeated elements.length resultsReverse).Yields
      (resultsReverse.reverse ++ elements) bytes := by
  induction elements generalizing bytes resultsReverse with
  | nil =>
      cases written
      rw [List.append_nil]
      exact Decoding.yields_pure _
  | cons element elements induction =>
      cases written with
      | cons first others =>
          rw [List.length_append] at bounded
          have yieldsFirst := reads _ _ first (by omega)
          have yieldsOthers := induction others (by omega) (element :: resultsReverse)
          rw [List.reverse_cons, List.append_assoc, List.singleton_append] at yieldsOthers
          rw [List.length_cons, Decoding.repeated_succ]
          exact yieldsFirst.bind yieldsOthers

theorem RepeatsWritten.yields_decodeArray {item : Item} {unit : Decoding σ Value}
    (reads : schema.ReadsUnit form item unit)
    (uniform : ∀ first second bytes others, schema.UnitWritten form item first bytes →
      schema.UnitWritten form item second others → bytes = [] → others = [])
    {elements : List Value} {bytes : List UInt8}
    (length_eq : elements.length = item.count.toNat)
    (written : schema.RepeatsWritten form item elements bytes)
    (capped : bytes = [] → elements.length ≤ largestEmptyRepeat)
    (bounded : bytes.length ≤ largestWord) :
    (item.decodeArray unit).Yields elements bytes := by
  intro before after state passes
  cases written with
  | nil =>
      rw [passes.eq_of_nil, Item.decodeArray_of_zero length_eq.symm]
  | @cons _ element elements bytes rest first others =>
      rw [List.length_append] at bounded
      obtain ⟨middle, passesFirst, passesOthers⟩ := passes.exists_middle
      have run := reads _ _ first (by omega) before middle state passesFirst
      have accepted : ¬ (middle.position = before.position ∧
          largestEmptyRepeat < item.count.toNat) := by
        rintro ⟨stays, exceeds⟩
        have emptyFirst := passesFirst.position_eq_iff.mp stays
        have emptyOthers : rest = [] := others.eq_nil_of_forall fun value bytes written =>
          uniform _ _ _ _ first written emptyFirst
        have fits := capped (by rw [emptyFirst, emptyOthers, List.nil_append])
        omega
      rw [Item.decodeArray_of_ok length_eq.symm run accepted]
      exact others.yields_repeated reads (by omega) [element] middle after state passesOthers

theorem ItemWritten.yields_decode {item : Item} {decoders : Decoders σ}
    (reads : ∀ unit, item.decodeUnit? host decoders = some unit →
      schema.ReadsUnit form item unit)
    (uniform : ∀ first second bytes others, schema.UnitWritten form item first bytes →
      schema.UnitWritten form item second others → bytes = [] → others = [])
    {value? : Option Value} {bytes : List UInt8}
    (written : schema.ItemWritten form item value? bytes)
    (bounded : bytes.length ≤ largestWord) :
    (item.decode host decoders).Yields value? bytes := by
  cases written with
  | gap isVoid length_eq =>
      rw [Item.decode_of_none (Item.decodeUnit?_eq_none_iff.mpr isVoid)]
      have yieldsGap : (Decoding.ofRead item.skipVoid : Decoding σ Unit).Yields () bytes := by
        apply Decoding.yields_ofRead
        intro before after passes
        exact Item.skipVoid_eq_ok_iff.mpr ⟨length_eq ▸ bounded, bytes, length_eq, passes⟩
      exact yieldsGap.map _
  | single isValue count_eq unitWritten =>
      obtain ⟨unit, isUnit⟩ := Option.ne_none_iff_exists'.mp
        (mt Item.decodeUnit?_eq_none_iff.mp isValue)
      rw [Item.decode_of_single isUnit count_eq]
      exact (reads unit isUnit _ _ unitWritten bounded).map some
  | array isValue count_ne length_eq repeats capped =>
      obtain ⟨unit, isUnit⟩ := Option.ne_none_iff_exists'.mp
        (mt Item.decodeUnit?_eq_none_iff.mp isValue)
      rw [Item.decode_of_array isUnit count_ne]
      exact (repeats.yields_decodeArray (reads unit isUnit) uniform length_eq capped
        bounded).map _

theorem FieldsWritten.yields_decodeFields {decoders : Decoders σ} {fields : List Field}
    (reads : ∀ field ∈ fields, ∀ unit, field.item.decodeUnit? host decoders = some unit →
      schema.ReadsUnit form field.item unit)
    (uniform : ∀ item first second bytes others, schema.UnitWritten form item first bytes →
      schema.UnitWritten form item second others → bytes = [] → others = [])
    {record : Record} {bytes : List UInt8}
    (written : schema.FieldsWritten form fields record bytes)
    (bounded : bytes.length ≤ largestWord) :
    (decodeFields host decoders fields).Yields record bytes := by
  induction fields generalizing record bytes with
  | nil =>
      cases written
      exact Decoding.yields_pure _
  | cons field fields induction =>
      cases written with
      | cons first others =>
          rw [List.length_append] at bounded
          have yieldsFirst := first.yields_decode (reads field List.mem_cons_self)
            (uniform field.item) (by omega)
          have yieldsOthers := induction
            (fun other member => reads other (List.mem_cons_of_mem _ member)) others (by omega)
          exact yieldsFirst.bind (yieldsOthers.map _)

/-- A struct is decoded from the bytes in which it is written. -/
theorem yields_decodeRecord (layered : Layered schema.structs)
    (isUniform : form.IsUniform)
    (reads : ∀ item value bytes, item.type.structName? = none → form item value bytes →
      bytes.length ≤ largestWord → ∀ unit,
        item.decodeUnit? host (schema.decoders host) = some unit → unit.Yields value bytes)
    {name : String} {fields : List Field} (found : schema.fields? name = some fields)
    {record : Record} {bytes : List UInt8}
    (written : schema.FieldsWritten form fields record bytes)
    (bounded : bytes.length ≤ largestWord) :
    (schema.decodeRecord host name).Yields record bytes := by
  refine induction_on_fields? layered
    (motive := fun name fields => ∀ record bytes,
      schema.FieldsWritten form fields record bytes → bytes.length ≤ largestWord →
        (schema.decodeRecord host name).Yields record bytes)
    ?_ found record bytes written bounded
  intro outer fields foundOuter inners record bytes written bounded
  rw [decodeRecord_of_fields? layered host foundOuter]
  refine written.yields_decodeFields ?_ (fun item => UnitWritten.isUniform layered isUniform)
    bounded
  intro field member unit isUnit value bytes unitWritten fits
  cases unitWritten with
  | own isOwn ownWritten => exact reads _ _ _ isOwn ownWritten fits unit isUnit
  | struct type_eq foundInner innerWritten =>
      cases (Item.decodeUnit?_of_struct type_eq).symm.trans isUnit
      exact (inners _ _ (mem_embedded_of_mem member type_eq) foundInner _ _ innerWritten fits).map
        Value.record

theorem consumes_repeated {item : Item} {unit : Decoding σ Value}
    (consumes : unit.Consumes (schema.UnitWritten form item)) (count : Nat)
    (resultsReverse : List Value) :
    (unit.repeated count resultsReverse).Consumes fun results bytes =>
      ∃ elements, results = resultsReverse.reverse ++ elements ∧ elements.length = count ∧
        schema.RepeatsWritten form item elements bytes := by
  induction count generalizing resultsReverse with
  | zero =>
      apply Decoding.consumes_pure
      exact ⟨[], by simp, rfl, .nil⟩
  | succ count induction =>
      rw [Decoding.repeated_succ]
      refine consumes.bind ?_
      intro element bytes written before after state endState results success
      obtain ⟨others, passes, elements, results_eq, length_eq, repeats⟩ :=
        induction (element :: resultsReverse) before after state endState results success
      refine ⟨others, passes, element :: elements, ?_, ?_, .cons written repeats⟩
      · simp [results_eq]
      · simp [length_eq]

theorem consumes_decodeArray {item : Item} {unit : Decoding σ Value}
    (consumes : unit.Consumes (schema.UnitWritten form item)) :
    (item.decodeArray unit).Consumes fun elements bytes =>
      elements.length = item.count.toNat ∧ schema.RepeatsWritten form item elements bytes ∧
        (bytes = [] → elements.length ≤ largestEmptyRepeat) := by
  intro before after state endState elements success
  obtain ⟨count_eq, rfl, rfl, rfl⟩ |
    ⟨others, first, middle, middleState, count_eq, run, accepted, runOthers⟩ :=
    Item.decodeArray_eq_ok success
  · exact ⟨[], after.passes_nil, count_eq.symm, .nil, fun _ => Nat.zero_le _⟩
  · obtain ⟨bytes, passesFirst, written⟩ := consumes before middle state middleState first run
    obtain ⟨rest, passesOthers, tail, rfl, length_eq, repeats⟩ :=
      consumes_repeated consumes others [first] middle after middleState endState elements runOthers
    refine ⟨bytes ++ rest, passesFirst.append passesOthers, ?_, .cons written repeats, ?_⟩
    · simp [length_eq, count_eq]
    · intro empty
      have stays := passesFirst.position_eq_iff.mpr (List.append_eq_nil_iff.mp empty).1
      simp only [List.reverse_singleton, List.singleton_append, List.length_cons]
      omega

theorem consumes_decode {item : Item} {decoders : Decoders σ}
    (consumes : ∀ unit, item.decodeUnit? host decoders = some unit →
      unit.Consumes (schema.UnitWritten form item)) :
    (item.decode host decoders).Consumes (schema.ItemWritten form item) := by
  cases isUnit : item.decodeUnit? host decoders with
  | none =>
      have isVoid := Item.decodeUnit?_eq_none_iff.mp isUnit
      rw [Item.decode_of_none isUnit]
      intro before after state endState value? success
      obtain ⟨_, run, rfl⟩ := Decoding.map_eq_ok success
      obtain ⟨_, bytes, length_eq, passes⟩ :=
        Item.skipVoid_eq_ok_iff.mp (congrArg Prod.fst run)
      exact ⟨bytes, passes, .gap isVoid length_eq⟩
  | some unit =>
      have isValue : item.type ≠ .builtin .void := by
        intro isVoid
        rw [Item.decodeUnit?_eq_none_iff.mpr isVoid] at isUnit
        cases isUnit
      by_cases count_eq : item.count = 1
      · rw [Item.decode_of_single isUnit count_eq]
        exact (consumes unit isUnit).map fun _ _ written => .single isValue count_eq written
      · rw [Item.decode_of_array isUnit count_eq]
        exact (consumes_decodeArray (consumes unit isUnit)).map
          fun _ _ ⟨length_eq, repeats, capped⟩ =>
            .array isValue count_eq length_eq repeats capped

theorem consumes_decodeFields {decoders : Decoders σ} {fields : List Field}
    (consumes : ∀ field ∈ fields, ∀ unit, field.item.decodeUnit? host decoders = some unit →
      unit.Consumes (schema.UnitWritten form field.item)) :
    (decodeFields host decoders fields).Consumes (schema.FieldsWritten form fields) := by
  induction fields with
  | nil => exact Decoding.consumes_pure .nil
  | cons field fields induction =>
      have consumesOthers := induction fun other member =>
        consumes other (List.mem_cons_of_mem _ member)
      refine (consumes_decode (consumes field List.mem_cons_self)).bind ?_
      intro value? bytes written
      exact consumesOthers.map fun record rest others => .cons written others

/-- A struct that has been decoded is written in the bytes that were passed over, if
that is so for all its items that embed no struct. -/
theorem consumes_decodeRecord (layered : Layered schema.structs) {allowed : Item → Prop}
    (consumes : ∀ item unit, allowed item → item.type.structName? = none →
      item.decodeUnit? host (schema.decoders host) = some unit → unit.Consumes (form item))
    {name : String} {fields : List Field} (found : schema.fields? name = some fields)
    (throughout : schema.Throughout allowed name) :
    (schema.decodeRecord host name).Consumes (schema.FieldsWritten form fields) := by
  refine induction_on_fields? layered
    (motive := fun name fields => schema.Throughout allowed name →
      (schema.decodeRecord host name).Consumes (schema.FieldsWritten form fields))
    ?_ found throughout
  intro outer fields foundOuter inners throughoutOuter
  rw [decodeRecord_of_fields? layered host foundOuter]
  apply consumes_decodeFields
  intro field member unit isUnit
  cases type_eq : field.item.type.structName? with
  | none =>
      have isAllowed := throughoutOuter.item foundOuter member
      intro before after state endState value success
      obtain ⟨bytes, passes, written⟩ :=
        consumes field.item unit isAllowed type_eq isUnit before after state endState value success
      exact ⟨bytes, passes, .own type_eq written⟩
  | some inner =>
      have isStruct := ItemType.structName?_eq_some_iff.mp type_eq
      have embeds := mem_embedded_of_mem member isStruct
      obtain ⟨innerFields, foundInner⟩ :=
        contains_iff.mp (contains_of_embedded layered foundOuter embeds)
      cases (Item.decodeUnit?_of_struct isStruct).symm.trans isUnit
      have consumesInner := inners inner innerFields embeds foundInner
        (throughoutOuter.embedded foundOuter embeds)
      exact consumesInner.map fun record bytes written => .struct isStruct foundInner written

end Schema

end BinaryRecords
