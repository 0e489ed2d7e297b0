import BinaryRecords.Proofs.Text.Quoted
import BinaryRecords.Proofs.Text.Utf8
import BinaryRecords.Value.Text

/-!
# Telling values apart by their texts

The text of a value without floating point numbers determines the value.  What makes this so is
that the text also shows where it ends: a number does at the first character that is none of a
number, a quoted text at the closing quote, and what is enclosed at the closing bracket or brace,
since each of its parts shows where it ends.
-/

namespace BinaryRecords

/-- Whether a name shows where it ends before a colon, and is not taken for the end of a record. -/
def IsLabel (name : String) : Prop :=
  ':' ∉ name.toList ∧ name.toList.head? ≠ some '\x7d'

namespace Value

/-- Whether there are no floating point numbers in a value, all strings are UTF-8 and the names
of all entries are labels. -/
inductive IsLegible : Value → Prop
  | integer (number : Int64) : IsLegible (.integer number)
  | string {bytes : List UInt8} {text : String} (isUtf8 : Text.Utf8.decode? bytes = some text) :
      IsLegible (.string bytes)
  | array {elements : List Value} (each : ∀ element ∈ elements, IsLegible element) :
      IsLegible (.array elements)
  | record {entries : Record} (labels : ∀ entry ∈ entries, IsLabel entry.1)
      (each : ∀ entry ∈ entries, IsLegible entry.2) : IsLegible (.record entries)

/-- Whether a character is one that numbers are written with. -/
def isNumberCharacter (character : Char) : Bool :=
  character == '-' || character.isDigit

/-- The kind of the values whose texts begin with a character. -/
def kindOfFirst? (character : Char) : Option Kind :=
  if isNumberCharacter character then some .integer
  else if character = '"' then some .string
  else if character = '[' then some .array
  else if character = '\x7b' then some .record
  else none

/-- Whether a text does not go on with a number. -/
def EndsNumber (text : List Char) : Prop :=
  ∀ character ∈ text.head?, isNumberCharacter character = false

def separator : List Char :=
  [',', ' ']

/-- The characters of a named value. -/
def entryText (entry : String × Value) : List Char :=
  entry.1.toList ++ ([':', ' '] ++ entry.2.render.toList)

theorem endsNumber_cons {character : Char} {text : List Char}
    (notNumber : isNumberCharacter character = false) : EndsNumber (character :: text) := by
  simpa [EndsNumber] using notNumber

theorem toList_enclose (opening : String) (parts : List String) (closing : String) :
    (enclose opening parts closing).toList =
      opening.toList ++ (separator.intercalate (parts.map String.toList) ++ closing.toList) := by
  simp [enclose, separator, String.toList_intercalate]

theorem toList_render_string (bytes : List UInt8) :
    (render (.string bytes)).toList =
      '"' :: ((Text.Utf8.decodeLossy bytes).flatMap Text.escape ++ ['"']) := by
  rw [render, Text.quote, String.toList_ofList]

theorem toList_render_array (elements : List Value) :
    (render (.array elements)).toList =
      '[' :: (separator.intercalate (elements.map fun element => element.render.toList) ++
        [']']) := by
  rw [render, renderElements_eq, toList_enclose]
  simp [Function.comp_def]

theorem toList_render_record (entries : Record) :
    (render (.record entries)).toList =
      '\x7b' :: (separator.intercalate (entries.map entryText) ++ ['\x7d']) := by
  have texts : String.toList ∘ (fun entry => entry.1 ++ ": " ++ render entry.2) = entryText := by
    funext entry
    simp [entryText]
  rw [render, renderEntries_eq, toList_enclose, List.reverse_nil, List.nil_append, List.map_map,
    texts]
  rfl

section

variable {number : Int64}

theorem isNumberCharacter_of_mem {character : Char}
    (member : character ∈ (render (.integer number)).toList) :
    isNumberCharacter character = true := by
  rw [isNumberCharacter, Bool.or_eq_true, beq_iff_eq]
  rw [render] at member
  exact Text.eq_minus_or_isDigit_of_mem_toString member

theorem render_integer_append_inj {other : Int64} {rest others : List Char}
    (ends : EndsNumber rest) (otherEnds : EndsNumber others)
    (same : (render (.integer number)).toList ++ rest =
      (render (.integer other)).toList ++ others) : number = other ∧ rest = others := by
  obtain ⟨text_eq, rest_eq⟩ := Text.append_inj_of_class (fun _ => isNumberCharacter_of_mem)
    (fun _ => isNumberCharacter_of_mem) ends otherEnds same
  have read := Text.signedDecimal?_toString number.toInt
  rw [← render, text_eq, render, Text.signedDecimal?_toString] at read
  exact ⟨(Int64.toInt_inj.mp (Option.some.inj read)).symm, rest_eq⟩

end

section

variable {α : Type} {text : α → List Char} {closing : Char} {rest others : List Char}

/-- Whether the texts of two parts show where they end, before what does not go on with a number,
and differ if the parts do. -/
def TellsApart (text : α → List Char) (part other : α) : Prop :=
  ∀ rest others, EndsNumber rest → EndsNumber others → text part ++ rest = text other ++ others →
    part = other ∧ rest = others

theorem intercalate_cons (part : α) (parts : List α) :
    separator.intercalate ((part :: parts).map text) =
      text part ++ parts.flatMap fun part => separator ++ text part := by
  induction parts generalizing part with
  | nil => simp
  | cons next parts induction =>
      rw [List.map_cons, List.map_cons, List.intercalate_cons_cons, ← List.map_cons, induction]
      simp

theorem endsNumber_behind (parts : List α) (notNumber : isNumberCharacter closing = false) :
    EndsNumber ((parts.flatMap fun part => separator ++ text part) ++ closing :: rest) := by
  cases parts with
  | nil => exact endsNumber_cons notNumber
  | cons part parts => exact endsNumber_cons (by decide)

/-- Parts that each follow a separator. -/
theorem flatMap_separator_append_inj {parts otherParts : List α} (notComma : closing ≠ ',')
    (notNumber : isNumberCharacter closing = false)
    (each : ∀ part ∈ parts, ∀ other ∈ otherParts, TellsApart text part other)
    (same : (parts.flatMap fun part => separator ++ text part) ++ closing :: rest =
      (otherParts.flatMap fun part => separator ++ text part) ++ closing :: others) :
    parts = otherParts ∧ rest = others := by
  induction parts generalizing otherParts with
  | nil =>
      cases otherParts with
      | nil => simpa using same
      | cons other otherParts => simp [separator, notComma] at same
  | cons part parts induction =>
      cases otherParts with
      | nil => simp [separator, notComma.symm] at same
      | cons other otherParts =>
          simp only [List.flatMap_cons, List.append_assoc] at same
          obtain ⟨rfl, behind⟩ := each part List.mem_cons_self other List.mem_cons_self _ _
            (endsNumber_behind parts notNumber) (endsNumber_behind otherParts notNumber)
            (List.append_cancel_left same)
          obtain ⟨rfl, rfl⟩ := induction (fun part member other otherMember =>
            each part (List.mem_cons_of_mem _ member) other (List.mem_cons_of_mem _ otherMember))
            behind
          exact ⟨rfl, rfl⟩

/-- Parts between an opening and a closing character, which none of them begins with. -/
theorem intercalate_append_inj {parts otherParts : List α} (notComma : closing ≠ ',')
    (notNumber : isNumberCharacter closing = false)
    (begins : ∀ part ∈ parts ++ otherParts, ∀ rest others, text part ++ rest ≠ closing :: others)
    (each : ∀ part ∈ parts, ∀ other ∈ otherParts, TellsApart text part other)
    (same : separator.intercalate (parts.map text) ++ closing :: rest =
      separator.intercalate (otherParts.map text) ++ closing :: others) :
    parts = otherParts ∧ rest = others := by
  cases parts with
  | nil =>
      cases otherParts with
      | nil => simpa using same
      | cons other otherParts =>
          rw [intercalate_cons, List.append_assoc] at same
          exact absurd same.symm (begins other (by simp) _ _)
  | cons part parts =>
      cases otherParts with
      | nil =>
          rw [intercalate_cons, List.append_assoc] at same
          exact absurd same (begins part (by simp) _ _)
      | cons other otherParts =>
          rw [intercalate_cons, intercalate_cons, List.append_assoc, List.append_assoc] at same
          obtain ⟨rfl, behind⟩ := each part List.mem_cons_self other List.mem_cons_self _ _
            (endsNumber_behind parts notNumber) (endsNumber_behind otherParts notNumber) same
          obtain ⟨rfl, rfl⟩ := flatMap_separator_append_inj notComma notNumber
            (fun part member other otherMember => each part (List.mem_cons_of_mem _ member) other
              (List.mem_cons_of_mem _ otherMember)) behind
          exact ⟨rfl, rfl⟩

end

/-- The first character of a text tells the kind of the value. -/
theorem IsLegible.exists_first {value : Value} (legible : value.IsLegible) :
    ∃ first behind, value.render.toList = first :: behind ∧
      kindOfFirst? first = some value.kind := by
  cases legible with
  | integer number =>
      obtain ⟨first, behind, text_eq⟩ :=
        List.exists_cons_of_ne_nil (Text.toList_toString_ne_nil number.toInt)
      rw [← render] at text_eq
      have member : first ∈ (render (.integer number)).toList := by simp [text_eq]
      have isNumber := isNumberCharacter_of_mem member
      exact ⟨first, behind, text_eq, by rw [kindOfFirst?, if_pos isNumber]; rfl⟩
  | string isUtf8 => exact ⟨_, _, toList_render_string _, rfl⟩
  | array each => exact ⟨_, _, toList_render_array _, rfl⟩
  | record labels each => exact ⟨_, _, toList_render_record _, rfl⟩

theorem IsLegible.kind_eq {value other : Value} (legible : value.IsLegible)
    (otherLegible : other.IsLegible) {rest others : List Char}
    (same : value.render.toList ++ rest = other.render.toList ++ others) :
    value.kind = other.kind := by
  obtain ⟨first, behind, text_eq, isKind⟩ := legible.exists_first
  obtain ⟨otherFirst, otherBehind, otherText_eq, isOtherKind⟩ := otherLegible.exists_first
  rw [text_eq, otherText_eq, List.cons_append, List.cons_append, List.cons.injEq] at same
  rw [same.1, isOtherKind] at isKind
  exact (Option.some.inj isKind).symm

/-- Where a text goes on with a value, no array ends. -/
theorem IsLegible.append_ne {value : Value} (legible : value.IsLegible) {rest others : List Char} :
    value.render.toList ++ rest ≠ ']' :: others := by
  intro same
  obtain ⟨first, behind, text_eq, isKind⟩ := legible.exists_first
  rw [text_eq, List.cons_append, List.cons.injEq] at same
  rw [same.1] at isKind
  cases isKind

/-- Where a text goes on with a named value, no record ends. -/
theorem entryText_append_ne {entry : String × Value} (label : IsLabel entry.1)
    {rest others : List Char} : entryText entry ++ rest ≠ '\x7d' :: others := by
  intro same
  cases characters : entry.1.toList with
  | nil => simp [entryText, characters] at same
  | cons first more =>
      rw [entryText, characters, List.cons_append, List.cons_append, List.cons.injEq] at same
      exact label.2 (by rw [characters, same.1, List.head?_cons])

/-- A name ends at the first colon. -/
theorem tellsApart_entryText {entry other : String × Value} (label : IsLabel entry.1)
    (otherLabel : IsLabel other.1)
    (values : TellsApart (fun value => value.render.toList) entry.2 other.2) :
    TellsApart entryText entry other := by
  intro rest others ends otherEnds same
  simp only [entryText, List.append_assoc] at same
  have notColon {name : String} (label : IsLabel name) :
      ∀ character ∈ name.toList, (character != ':') = true := by
    intro character member
    rw [bne_iff_ne]
    rintro rfl
    exact label.1 member
  obtain ⟨name_eq, behind⟩ := Text.append_inj_of_class (notColon label) (notColon otherLabel)
    (by simp) (by simp) same
  obtain ⟨value_eq, rest_eq⟩ := values rest others ends otherEnds (List.append_cancel_left behind)
  exact ⟨Prod.ext (String.toList_inj.mp name_eq) value_eq, rest_eq⟩

/-- The induction is on one of the values.  Its kind, which the first character tells, is that of
the other one, and what is inside is told apart one by one. -/
theorem IsLegible.tellsApart {value : Value} (legible : value.IsLegible) :
    ∀ other : Value, other.IsLegible →
      TellsApart (fun value => value.render.toList) value other := by
  induction legible with
  | integer number =>
      intro other otherLegible rest others ends otherEnds same
      have kind_eq := (IsLegible.integer number).kind_eq otherLegible same
      cases otherLegible <;> cases kind_eq
      obtain ⟨rfl, rfl⟩ := render_integer_append_inj ends otherEnds same
      exact ⟨rfl, rfl⟩
  | @string bytes text isUtf8 =>
      intro other otherLegible rest others _ _ same
      have kind_eq := (IsLegible.string isUtf8).kind_eq otherLegible same
      rcases otherLegible with _ | @⟨otherBytes, otherText, otherIsUtf8⟩ | _ | _ <;> cases kind_eq
      rw [Text.Utf8.decode?_eq_some_iff] at isUtf8 otherIsUtf8
      subst isUtf8 otherIsUtf8
      obtain ⟨text_eq, rfl⟩ := Text.quote_append_inj same
      rw [Text.Utf8.decodeLossy_encode, Text.Utf8.decodeLossy_encode, String.toList_inj] at text_eq
      exact ⟨by rw [text_eq], rfl⟩
  | @array elements each induction =>
      intro other otherLegible rest others _ _ same
      have kind_eq := (IsLegible.array each).kind_eq otherLegible same
      rcases otherLegible with _ | _ | @⟨otherElements, otherEach⟩ | _ <;> cases kind_eq
      simp only [toList_render_array, List.cons_append, List.append_assoc, List.cons.injEq,
        true_and, List.nil_append] at same
      have begins : ∀ element ∈ elements ++ otherElements, ∀ rest others,
          element.render.toList ++ rest ≠ ']' :: others := by
        intro element member rest others
        exact ((List.mem_append.mp member).elim (each element) (otherEach element)).append_ne
      have inside : ∀ element ∈ elements, ∀ other ∈ otherElements,
          TellsApart (fun value => value.render.toList) element other :=
        fun element member other otherMember =>
          induction element member other (otherEach other otherMember)
      obtain ⟨rfl, rfl⟩ := intercalate_append_inj (by decide) (by decide) begins inside same
      exact ⟨rfl, rfl⟩
  | @record entries labels each induction =>
      intro other otherLegible rest others _ _ same
      have kind_eq := (IsLegible.record labels each).kind_eq otherLegible same
      rcases otherLegible with _ | _ | _ | @⟨otherEntries, otherLabels, otherEach⟩ <;> cases kind_eq
      simp only [toList_render_record, List.cons_append, List.append_assoc, List.cons.injEq,
        true_and, List.nil_append] at same
      have begins : ∀ entry ∈ entries ++ otherEntries, ∀ rest others,
          entryText entry ++ rest ≠ '\x7d' :: others := by
        intro entry member rest others
        exact entryText_append_ne
          ((List.mem_append.mp member).elim (labels entry) (otherLabels entry))
      have inside : ∀ entry ∈ entries, ∀ other ∈ otherEntries, TellsApart entryText entry other :=
        fun entry member other otherMember =>
          tellsApart_entryText (labels entry member) (otherLabels other otherMember)
            (induction entry member other.2 (otherEach other otherMember))
      obtain ⟨rfl, rfl⟩ := intercalate_append_inj (by decide) (by decide) begins inside same
      exact ⟨rfl, rfl⟩

end Value

/-- A letter and then letters, digits and underscores are a label. -/
theorem isLabel_of_isAlpha {name : String} {first : Char} {others : List Char}
    (characters : name.toList = first :: others) (isLetter : first.isAlpha = true)
    (areWord : ∀ character ∈ others, character.isAlphanum = true ∨ character = '_') :
    IsLabel name := by
  rw [IsLabel, characters, List.head?_cons]
  constructor
  · rintro (_ | ⟨_, member⟩)
    · cases isLetter
    · exact (areWord _ member).elim nofun nofun
  · intro isBrace
    cases isBrace
    cases isLetter

namespace Value

/-- The text of a value determines it, among the values without floating point numbers whose
strings are UTF-8 and whose names are labels, as all names are that begin with a letter and go on
with letters, digits and underscores.  The same is true within a longer text, where what follows
does not go on with a number. -/
theorem text_determines_value :
    (∀ (name : String) (first : Char) (others : List Char), name.toList = first :: others →
      first.isAlpha = true →
        (∀ character ∈ others, character.isAlphanum = true ∨ character = '_') → IsLabel name) ∧
    (∀ value other : Value, value.IsLegible → other.IsLegible →
      value.render = other.render → value = other) ∧
    ∀ value other : Value, value.IsLegible → other.IsLegible →
      TellsApart (fun value => value.render.toList) value other := by
  refine ⟨fun _ _ _ => isLabel_of_isAlpha, fun value other legible otherLegible same => ?_,
    fun value other legible => legible.tellsApart other⟩
  exact (legible.tellsApart other otherLegible [] [] nofun nofun
    (congrArg (fun text => text.toList ++ []) same)).1

/-- One string that looks like the end of a string and the beginning of another one, and two
strings. -/
theorem text_determines_value_quoted :
    let named (parts : List Value) : Value := .record [("a", .array parts)]
    let one := named [.string (Text.Utf8.encode "a\", \"b")]
    let again := named [.string [97, 34, 44, 32, 34, 98]]
    let two := named [.string [97], .string [98]]
    one.IsLegible ∧ again.IsLegible ∧ two.IsLegible ∧ one.render = again.render ∧ one = again ∧
      one.render ≠ two.render := by
  intro named one again two
  obtain ⟨areLabels, determines, _⟩ := text_determines_value
  have label : IsLabel "a" := areLabels "a" 'a' [] rfl rfl (List.forall_mem_nil _)
  have legible {parts : List Value} (each : ∀ part ∈ parts, part.IsLegible) :
      (named parts).IsLegible := by
    refine .record ?_ ?_
    · simpa using label
    · simpa using .array each
  have ofText (text : String) : (Value.string (Text.Utf8.encode text)).IsLegible :=
    .string (Text.Utf8.decode?_encode text)
  have oneLegible : one.IsLegible := legible (List.forall_mem_singleton.mpr (ofText _))
  have againLegible : again.IsLegible :=
    legible (List.forall_mem_singleton.mpr (ofText "a\", \"b"))
  have twoLegible : two.IsLegible :=
    legible (List.forall_mem_cons.mpr
      ⟨ofText "a", List.forall_mem_singleton.mpr (ofText "b")⟩)
  have same : one.render = again.render := rfl
  refine ⟨oneLegible, againLegible, twoLegible, same,
    determines one again oneLegible againLegible same, fun alike => ?_⟩
  simpa [one, two, named] using determines one two oneLegible twoLegible alike

end Value

end BinaryRecords
