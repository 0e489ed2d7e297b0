import BinaryRecords.Proofs.Schema.Deciding
import BinaryRecords.Proofs.Session.StructReads

/-!
# Names and references

The names under which structs can be declared are the texts that are read as a reference to
the struct of this name.  Nothing else is referred to by items and fields, and fields have
only such names too.  So in a session each declared struct can be read and embedded, and each
struct that a text refers to can be declared.
-/

namespace BinaryRecords

namespace Layout

/-- Whether a character is one of the ASCII letters. -/
def IsLetter (character : Char) : Prop :=
  ('A' ≤ character ∧ character ≤ 'Z') ∨ ('a' ≤ character ∧ character ≤ 'z')

/-- Whether a text is an ASCII letter and then only ASCII letters, digits and underscores, and
is not the keyword of a type. -/
structure IsStructName (text : String) : Prop where
  characters : ∃ first rest, text.toList = first :: rest ∧ IsLetter first ∧
    ∀ character ∈ rest, IsLetter character ∨ ('0' ≤ character ∧ character ≤ '9') ∨
      character = '_'
  notKeyword : ∀ type : BuiltinType, text ≠ type.keyword

/-- Whether an item or a field of a text is of the struct with a given name. -/
def RefersTo (text name : String) : Prop :=
  (∃ items, parseItems text = .ok items ∧ ∃ item ∈ items, item.type = .struct name) ∨
    ∃ fields, parseFields text = .ok fields ∧ ∃ field ∈ fields, field.item.type = .struct name

/-- Whether a field of a text has a given name. -/
def HasField (text name : String) : Prop :=
  ∃ fields, parseFields text = .ok fields ∧ ∃ field ∈ fields, field.name = some name

section

variable {character : Char} {text name label : String} {item : Item} {field : Field}

theorem beginsName_iff : beginsName character = true ↔ IsLetter character := by
  have upper : character.isUpper = true ↔ 'A' ≤ character ∧ character ≤ 'Z' :=
    decide_eq_true_iff
  have lower : character.isLower = true ↔ 'a' ≤ character ∧ character ≤ 'z' :=
    Bool.and_eq_true_iff.trans (and_congr decide_eq_true_iff decide_eq_true_iff)
  exact Bool.or_eq_true_iff.trans (or_congr upper lower)

theorem isWord_iff :
    isWord character = true ↔ IsLetter character ∨ ('0' ≤ character ∧ character ≤ '9') ∨
      character = '_' := by
  have digit : character.isDigit = true ↔ '0' ≤ character ∧ character ≤ '9' :=
    Bool.and_eq_true_iff.trans (and_congr decide_eq_true_iff decide_eq_true_iff)
  rw [isWord, Bool.or_eq_true_iff, beq_iff_eq, ← digit, ← or_assoc, ← beginsName_iff]
  exact or_congr_left Bool.or_eq_true_iff

theorem ofKeyword?_eq_none_iff :
    BuiltinType.ofKeyword? text = none ↔ ∀ type : BuiltinType, text ≠ type.keyword := by
  constructor
  · rintro none type rfl
    rw [BuiltinType.ofKeyword?_keyword] at none
    cases none
  · intro different
    apply Option.eq_none_iff_forall_ne_some.mpr
    intro type isKeyword
    exact different type (BuiltinType.keyword_of_ofKeyword? isKeyword).symm

theorem isLexical_name_iff : IsLexical (.name text) ↔ IsStructName text := by
  unfold IsLexical IsName
  simp only [beginsName_iff, isWord_iff, ofKeyword?_eq_none_iff]
  exact ⟨fun ⟨characters, notKeyword⟩ => ⟨characters, notKeyword⟩,
    fun ⟨characters, notKeyword⟩ => ⟨characters, notKeyword⟩⟩

theorem parseName_eq_ok_iff_isStructName :
    parseName text = .ok name ↔ IsStructName text ∧ name = text := by
  rw [parseName_eq_ok_iff, ← isLexical_name_iff]
  apply and_congr_left
  rintro rfl
  constructor
  · intro lexed
    have member : Token.name name ∈ (tokenize name.toList).tokens := by
      rw [lexed]
      exact List.mem_singleton_self _
    exact isLexical_of_mem_tokenize member
  · intro isLexical
    exact (Spells.single isLexical).tokenize_eq

theorem IsStructName.parseName (isStructName : IsStructName text) : parseName text = .ok text :=
  parseName_eq_ok_iff_isStructName.mpr ⟨isStructName, rfl⟩

/-- The name of the struct that an item is of can be a token of a text. -/
theorem IsSpelled.isStructName (isSpelled : IsSpelled ItemPhrase item)
    (type_eq : item.type = .struct name) : IsStructName name := by
  obtain ⟨tokens, phrase, lexical⟩ := isSpelled
  have isLexical := lexical _ (typeToken_mem_of_itemPhrase phrase)
  rw [type_eq] at isLexical
  exact isLexical_name_iff.mp isLexical

theorem IsSpelled.isStructName_of_name (isSpelled : IsSpelled FieldPhrase field)
    (name_eq : field.name = some name) : IsStructName name := by
  obtain ⟨tokens, phrase, lexical⟩ := isSpelled
  cases phrase with
  | gap phrase isVoid => cases name_eq
  | named phrase isValue notKeyword =>
      cases name_eq
      exact isLexical_name_iff.mp (lexical _ (by simp))

theorem RefersTo.isStructName (refers : RefersTo text name) : IsStructName name := by
  rcases refers with ⟨items, parsed, item, member, type_eq⟩ |
    ⟨fields, parsed, field, member, type_eq⟩
  · exact (isSpelled_of_parseItems parsed item member).isStructName type_eq
  · exact (isSpelled_of_parseFields parsed field member).item.isStructName type_eq

theorem HasField.isStructName (hasField : HasField text name) : IsStructName name := by
  obtain ⟨fields, parsed, field, member, name_eq⟩ := hasField
  exact (isSpelled_of_parseFields parsed field member).isStructName_of_name name_eq

theorem parseItems_eq_reference_iff :
    parseItems text = .ok [{ type := .struct text }] ↔ IsStructName text := by
  constructor
  · intro parsed
    have refers : RefersTo text text := .inl ⟨_, parsed, _, List.mem_singleton_self _, rfl⟩
    exact refers.isStructName
  · intro isStructName
    exact parseItems_of_parseName isStructName.parseName

/-- The name of a struct, a colon and another name make a field. -/
theorem parseFields_reference (isStructName : IsStructName name)
    (isFieldName : IsStructName label) :
    parseFields (name ++ ":" ++ label) = .ok [⟨{ type := .struct name }, some label⟩] := by
  have lexicalName := isLexical_name_iff.mpr isStructName
  have lexicalLabel := isLexical_name_iff.mpr isFieldName
  have isSpelled : IsSpelled FieldPhrase ⟨{ type := .struct name }, some label⟩ := by
    refine ⟨_, .named (itemPhrase_struct name) rfl lexicalLabel.2, ?_⟩
    rintro token (_ | ⟨_, _ | ⟨_, _ | ⟨_, none⟩⟩⟩)
    · exact lexicalName
    · trivial
    · exact lexicalLabel
    · cases none
  have render_eq : Field.render ⟨{ type := .struct name }, some label⟩ = name ++ ":" ++ label := by
    simp [Field.render, Item.render, ItemType.render, String.append_assoc]
  have spells := isSpelled.spells_field
  rw [render_eq] at spells
  apply parseFields_of_spells (List.forall_mem_singleton.mpr isSpelled) (by simp)
  rwa [List.flatMap_singleton]

theorem parseFields_empty : parseFields "" = .ok [] :=
  parseFields_of_spells nofun List.nodup_nil (.nil isGap_nil)

end

end Layout

namespace Session

open Layout

variable {σ : Type} {session : Session σ} {name outer label : String}

theorem Reachable.isStructName (reachable : session.Reachable)
    (isDeclared : session.schema.contains name = true) : IsStructName name := by
  obtain ⟨fields, found⟩ := Schema.contains_iff.mp isDeclared
  obtain ⟨text, parsed⟩ := (reachable.isParsed found).name
  obtain ⟨isStructName, rfl⟩ := parseName_eq_ok_iff_isStructName.mp parsed
  exact isStructName

/-- A declared struct can be embedded by a new one. -/
theorem declare_reference (reachable : session.Reachable)
    (isDeclared : session.schema.contains name = true) (isOuterName : IsStructName outer)
    (isFieldName : IsStructName label) (isNew : session.schema.contains outer = false) :
    (session.declare outer (name ++ ":" ++ label)).1 = .ok () := by
  have parsedFields := parseFields_reference (reachable.isStructName isDeclared) isFieldName
  have allDeclared : ∀ inner ∈ embedded [⟨{ type := .struct name }, some label⟩],
      session.schema.contains inner = true := List.forall_mem_singleton.mpr isDeclared
  have success := Schema.declare_of_new reachable.layered isNew allDeclared
  rw [declare_of_parsed isOuterName.parseName parsedFields success]

/-- A struct without fields can be declared under every name, also in place of another. -/
theorem declare_empty (session : Session σ) (isStructName : IsStructName name) :
    (session.declare name "").1 = .ok () ∧
      (session.declare name "").2.schema.contains name = true := by
  have success : session.schema.declare name [] =
      .ok ⟨place session.schema.structs name []⟩ := Schema.declare_of_embedded_eq_nil rfl
  rw [declare_of_parsed isStructName.parseName parseFields_empty success]
  exact ⟨rfl, Schema.contains_iff.mpr ⟨[], Schema.fields?_of_declare success⟩⟩

/-- A text is accepted as the name of a struct if and only if it is a proper name and no keyword,
and if and only if it is read as one item, which is the struct of this name, neither measured nor
repeated.  All names of structs and fields in a text that can be parsed are accepted.  So each
struct to which a text refers can be declared in a session, and each struct of a session can be
read and be embedded in another. -/
theorem names_are_references (σ : Type) :
    (∀ text, ((∃ name, parseName text = .ok name) ↔ IsStructName text) ∧
      (IsStructName text ↔ parseItems text = .ok [⟨.struct text, 0, 1⟩]) ∧
        ∀ name, parseName text = .ok name → name = text) ∧
    (∀ text name, RefersTo text name ∨ HasField text name → parseName name = .ok name) ∧
    ∀ session : Session σ,
      (∀ text name, RefersTo text name →
        (session.declare name "").1 = .ok () ∧
          (session.declare name "").2.schema.contains name = true) ∧
      (session.Reachable → ∀ name, session.schema.contains name = true →
        parseItems name = .ok [⟨.struct name, 0, 1⟩] ∧
        ∀ outer label, parseName outer = .ok outer → parseName label = .ok label →
          session.schema.contains outer = false →
            (session.declare outer (name ++ ":" ++ label)).1 = .ok ()) := by
  have parsed_iff : ∀ {text name}, parseName text = .ok name ↔ IsStructName text ∧ name = text :=
    parseName_eq_ok_iff_isStructName
  refine ⟨fun text => ⟨?_, parseItems_eq_reference_iff.symm, ?_⟩, ?_, fun session => ⟨?_, ?_⟩⟩
  · simp only [parsed_iff, exists_and_left, exists_eq, and_true]
  · intro name parsed
    exact (parsed_iff.mp parsed).2
  · intro text name given
    exact (given.elim RefersTo.isStructName HasField.isStructName).parseName
  · intro text name refers
    exact declare_empty session refers.isStructName
  · intro reachable name isDeclared
    refine ⟨parseItems_eq_reference_iff.mpr (reachable.isStructName isDeclared), ?_⟩
    intro outer label parsedOuter parsedLabel isNew
    exact declare_reference reachable isDeclared (parsed_iff.mp parsedOuter).1
      (parsed_iff.mp parsedLabel).1 isNew

/-- A keyword with more behind it is a name, but not if this is a blank or anything else that
belongs to no word. -/
theorem names_are_references_taggedPairs :
    IsStructName "u8s" ∧ parseItems "u8s" = .ok [⟨.struct "u8s", 0, 1⟩] ∧
    ¬ IsStructName "u8" ∧ ¬ IsStructName "u8s\u00A0" ∧ ¬ IsStructName "u8s;" ∧
    (taggedSession.declare "triple" "tagged:first").1 = .ok () ∧
    (taggedSession.declare "later" "").1 = .ok () := by
  obtain ⟨sameTexts, accepted, inSession⟩ := names_are_references Unit
  obtain ⟨referredNames, declaredNames⟩ := inSession taggedSession
  have isStructName : IsStructName "u8s" := (sameTexts "u8s").1.mp ⟨"u8s", by decide +kernel⟩
  have refused : ∀ {text failure}, parseName text = .error failure → ¬ IsStructName text := by
    intro text failure failed isStructName
    obtain ⟨name, parsed⟩ := (sameTexts text).1.mpr isStructName
    rw [failed] at parsed
    cases parsed
  have keyword : parseName "u8" = .error (.invalidName "u8") := by decide +kernel
  have blank : parseName "u8s\u00A0" = .error (.invalidName "u8s\u00A0") := by decide +kernel
  have mark : parseName "u8s;" = .error (.invalidName "u8s;") := by decide +kernel
  have triple : parseName "triple" = .ok "triple" := by decide +kernel
  have refers : RefersTo "void#4 later*2:both" "later" := by
    refine .inr ⟨[⟨⟨.builtin .void, 4, 1⟩, none⟩, ⟨⟨.struct "later", 0, 2⟩, some "both"⟩], ?_, ?_⟩
    · decide +kernel
    · exact ⟨_, List.mem_cons_of_mem _ (List.mem_singleton_self _), rfl⟩
  have hasFirst : HasField "u8:first" "first" :=
    ⟨[⟨{ type := .builtin (.integer .u8) }, some "first"⟩], by decide +kernel,
      _, List.mem_singleton_self _, rfl⟩
  have first : parseName "first" = .ok "first" := accepted "u8:first" "first" (.inr hasFirst)
  exact ⟨isStructName, (sameTexts "u8s").2.1.mp isStructName, refused keyword, refused blank,
    refused mark,
    (declaredNames reachable_taggedSession "tagged" rfl).2 "triple" "first" triple first rfl,
    (referredNames _ "later" refers).1⟩

end Session

end BinaryRecords
