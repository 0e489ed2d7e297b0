import BinaryRecords.Proofs.Layout.Rendering
import BinaryRecords.Proofs.Schema.FromTexts
import Mathlib.Data.List.Basic

/-!
# Descriptions of structs

The description of a struct has one numbered line for each field.  Without the numbers
its lines are the texts of the fields, so the fields of a struct that was declared from
a text can be parsed from its description, and structs with the same description have
the same fields.
-/

namespace BinaryRecords

/-- The lines of a text, the first of which has a given number, without the numbers in
front of them. -/
def withoutNumbers (number : Nat) : List (List Char) → List (List Char)
  | [] => []
  | line :: lines =>
      (line.dropPrefix? (toString number ++ ") ").toList).getD line ::
        withoutNumbers (number + 1) lines

/-- A text whose lines are numbered from one, without the numbers. -/
def unnumbered (text : String) : String :=
  String.ofList (['\n'].intercalate (withoutNumbers 1 (text.toList.splitOn '\n')))

/-- A struct that is put in its place has the fields given for it. -/
theorem fieldsOf?_place (structs : List Struct) (name : String) (fields : List Field) :
    fieldsOf? (place structs name fields) name = some fields := by
  have notInFront : (structs.filter fun struct => struct.name != name &&
      (dependents name structs).contains struct.name).find? (fun struct => struct.name == name) =
        none := by
    apply List.find?_eq_none.mpr
    intro struct member
    obtain ⟨_, isOther⟩ := List.mem_filter.mp member
    rw [Bool.and_eq_true, bne_iff_ne] at isOther
    simpa using isOther.1
  rw [fieldsOf?, place, placeBehind, List.find?_append, notInFront, Option.none_or,
    List.find?_cons_of_pos (by simp), Option.map_some]

theorem lineBreak_notMem_toString (number : Nat) : '\n' ∉ (toString number).toList := by
  rw [Nat.toString_eq_ofList_toDigits, String.toList_ofList]
  intro member
  exact absurd (Nat.isDigit_of_mem_toDigits (by decide) (by decide) member) (by decide)

namespace Layout

/-- The text of a field keeps to one line. -/
theorem IsSpelled.lineBreak_notMem {field : Field} (isSpelled : IsSpelled FieldPhrase field) :
    '\n' ∉ field.render.toList := by
  obtain ⟨tokens, phrase, lexical⟩ := isSpelled
  rw [← flatMap_render_fieldTokens]
  intro member
  obtain ⟨token, memberTokens, memberToken⟩ := List.mem_flatMap.mp member
  have notBlank := isBlank_eq_false_of_mem_render
    (phrase.isLexical_fieldTokens lexical token memberTokens) '\n' memberToken
  exact absurd notBlank (by decide)

end Layout

namespace Schema

/-- The lines of a description are the texts of the fields, each behind its number, and
an empty line behind the last. -/
theorem withoutNumbers_describeFrom {fields : List Field}
    (noBreaks : ∀ field ∈ fields, '\n' ∉ field.render.toList) (number : Nat) :
    withoutNumbers number ((describeFrom number fields).toList.splitOn '\n') =
      fields.map (fun field => field.render.toList) ++ [[]] := by
  induction fields generalizing number with
  | nil =>
      have notEmpty : (toString number ++ ") ").toList ≠ [] := by simp
      obtain ⟨first, others, number_eq⟩ := List.exists_cons_of_ne_nil notEmpty
      rw [describeFrom, String.toList_empty, List.splitOn_nil, withoutNumbers, number_eq]
      rfl
  | cons field fields induction =>
      have others := induction
        (fun other member => noBreaks other (List.mem_cons_of_mem _ member)) (number + 1)
      have noBreak : '\n' ∉ (toString number ++ ") ").toList ++ field.render.toList := by
        simp only [String.toList_append, List.mem_append, not_or]
        exact ⟨⟨lineBreak_notMem_toString number, by decide⟩, noBreaks field List.mem_cons_self⟩
      have lines : (describeFrom number (field :: fields)).toList =
          ((toString number ++ ") ").toList ++ field.render.toList) ++
            '\n' :: (describeFrom (number + 1) fields).toList := by
        simp [describeFrom]
      rw [lines, List.splitOn_append_cons_self_of_not_mem noBreak, withoutNumbers, others,
        List.dropPrefix?_append_of_beq _ (BEq.refl _)]
      rfl

theorem fields?_of_declare {schema declared : Schema} {name : String} {fields : List Field}
    (success : schema.declare name fields = .ok declared) :
    declared.fields? name = some fields := by
  obtain ⟨_, _, rfl⟩ := declare_eq_ok_iff.mp success
  exact fieldsOf?_place schema.structs name fields

/-- Whether the fields of a declared struct have been parsed from a text. -/
def IsFromText (schema : Schema) (name : String) : Prop :=
  ∃ text fields, Layout.parseFields text = .ok fields ∧ schema.fields? name = some fields

theorem isFromText_of_declare {schema declared : Schema} {name text : String}
    {fields : List Field} (parsed : Layout.parseFields text = .ok fields)
    (success : schema.declare name fields = .ok declared) : declared.IsFromText name :=
  ⟨text, fields, parsed, fields?_of_declare success⟩

/-- The fields of a struct from a text are parsed again from its description. -/
theorem IsFromText.parseFields_describe {schema : Schema} {name : String}
    (isFromText : schema.IsFromText name) :
    ∃ fields output, schema.fields? name = some fields ∧ schema.describe name = .ok output ∧
      Layout.parseFields (unnumbered output) = .ok fields := by
  obtain ⟨text, fields, parsed, found⟩ := isFromText
  refine ⟨fields, _, found, describe_of_fields? found, ?_⟩
  have spelled := Layout.isSpelled_of_parseFields parsed
  have isGap : Layout.IsGap ['\n'] := List.forall_mem_singleton.mpr (by decide)
  -- The line behind the last field spells nothing.
  have pieces : ∀ piece ∈ (fields.map fun field =>
      (Layout.fieldTokens field, field.render.toList)) ++ [([], [])],
        Layout.Spells piece.1 piece.2 := by
    intro piece member
    rcases List.mem_append.mp member with ofField | behind
    · obtain ⟨field, memberFields, rfl⟩ := List.mem_map.mp ofField
      exact (spelled field memberFields).spells_field
    · cases List.mem_singleton.mp behind
      exact .nil nofun
  have spells := Layout.Spells.intercalate isGap nofun pieces
  apply Layout.parseFields_of_spells spelled (Layout.exists_reading_of_parseFields parsed).2.2
  rw [unnumbered, String.toList_ofList,
    withoutNumbers_describeFrom fun field member => (spelled field member).lineBreak_notMem]
  simpa [List.flatMap_map, Function.comp_def] using spells

/-- Whatever has been parsed from a text is parsed again from its own text: items, fields,
and the fields of a struct from the lines of its description.  So structs from texts that
have the same description have the same fields. -/
theorem rendered_layouts_parse_back :
    (∀ text fields, Layout.parseFields text = .ok fields →
      Layout.parseFields (" ".intercalate (fields.map Field.render)) = .ok fields) ∧
    (∀ text items, Layout.parseItems text = .ok items →
      Layout.parseItems (" ".intercalate (items.map Item.render)) = .ok items) ∧
    (∀ (schema declared : Schema) (name text : String) (fields : List Field),
      Layout.parseFields text = .ok fields → schema.declare name fields = .ok declared →
        declared.IsFromText name) ∧
    (∀ (schema : Schema) (name : String), schema.IsFromText name →
      ∃ fields output, schema.fields? name = some fields ∧ schema.describe name = .ok output ∧
        Layout.parseFields (unnumbered output) = .ok fields) ∧
    ∀ (schema other : Schema) (name otherName : String), schema.IsFromText name →
      other.IsFromText otherName → schema.describe name = other.describe otherName →
        schema.fields? name = other.fields? otherName := by
  refine ⟨fun _ _ => Layout.parseFields_render, fun _ _ => Layout.parseItems_render,
    fun _ _ _ _ _ => isFromText_of_declare, fun _ _ => IsFromText.parseFields_describe, ?_⟩
  intro schema other name otherName isFromText otherFromText same
  obtain ⟨fields, output, found, described, parsed⟩ := isFromText.parseFields_describe
  obtain ⟨otherFields, otherOutput, otherFound, otherDescribed, otherParsed⟩ :=
    otherFromText.parseFields_describe
  rw [described, otherDescribed, Except.ok.injEq] at same
  rw [same, otherParsed, Except.ok.injEq] at parsed
  rw [found, otherFound, parsed]

theorem rendered_layouts_parse_back_taggedPairs :
    let items : List Item := [{ type := .builtin .void, length := 8, count := 2 },
      { type := .call "u8" }, { type := .builtin .wideString }]
    Layout.parseItems "void#8*2  @u8*1 wstr#0" = .ok items ∧
      Layout.parseItems (" ".intercalate (items.map Item.render)) = .ok items ∧
      taggedPairs.IsFromText "tagged" ∧
      taggedPairs.describe "tagged" = .ok "1) pair*2:pairs\n2) str#3:tag\n" ∧
      Layout.parseFields (unnumbered "1) pair*2:pairs\n2) str#3:tag\n") =
        .ok taggedPairsFields := by
  intro items
  have parsed : Layout.parseItems "void#8*2  @u8*1 wstr#0" = .ok items := by decide +kernel
  have isFromText : taggedPairs.IsFromText "tagged" :=
    ⟨"pair*2:pairs str#3:tag", taggedPairsFields, by decide +kernel, rfl⟩
  have described : taggedPairs.describe "tagged" =
      .ok "1) pair*2:pairs\n2) str#3:tag\n" := by decide +kernel
  obtain ⟨_, ofItems, _, ofDescription, _⟩ := rendered_layouts_parse_back
  obtain ⟨fields, output, found, sameDescription, parsedFields⟩ :=
    ofDescription taggedPairs "tagged" isFromText
  cases found
  cases described.symm.trans sameDescription
  exact ⟨parsed, ofItems _ items parsed, isFromText, described, parsedFields⟩

end Schema

end BinaryRecords
