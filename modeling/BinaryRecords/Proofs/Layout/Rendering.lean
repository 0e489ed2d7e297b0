import BinaryRecords.Proofs.Layout.FieldPhrases
import BinaryRecords.Proofs.Layout.ItemPhrases

/-!
# Texts of items and fields

The text of an item leaves out what is taken for granted, and so is spelled by the
shortest phrase of the item.  Items that have been parsed are read back from their
texts, whatever blanks stand between these, and so are fields.
-/

namespace BinaryRecords

namespace Layout

/-- A number, unless it is the one that is taken for granted. -/
def stated? (granted number : UInt64) : Option UInt64 :=
  if number = granted then none else some number

def itemTokens (item : Item) : List Token :=
  typeToken item.type :: suffixTokens (stated? 0 item.length) (stated? 1 item.count)

def nameTokens : Option String → List Token
  | none => []
  | some name => [.colon, .name name]

def fieldTokens (field : Field) : List Token :=
  itemTokens field.item ++ nameTokens field.name

/-- Whether something is spelled by tokens that a text can have. -/
def IsSpelled {α : Type} (spells : α → List Token → Prop) (result : α) : Prop :=
  ∃ tokens, spells result tokens ∧ ∀ token ∈ tokens, IsLexical token

@[simp] theorem getD_stated? (granted number : UInt64) :
    (stated? granted number).getD granted = number := by
  unfold stated?
  split
  · rename_i isGranted
    exact isGranted.symm
  · rfl

theorem isSome_stated?_getD {number? : Option UInt64} {granted : UInt64}
    (isStated : (stated? granted (number?.getD granted)).isSome) : number?.isSome := by
  cases number? with
  | none => simp [stated?] at isStated
  | some number => rfl

theorem isLexical_suffixTokens {length? count? : Option UInt64} :
    ∀ token ∈ suffixTokens length? count?, IsLexical token := by
  cases length? <;> cases count? <;> simp [suffixTokens, IsLexical]

/-- What is taken for granted may be left out of a phrase. -/
theorem ItemPhrase.itemTokens {item : Item} {tokens : List Token}
    (phrase : ItemPhrase item tokens) : ItemPhrase item (itemTokens item) := by
  obtain @⟨type, length?, count?, fits⟩ := phrase
  obtain ⟨allowed, notEmptyGap⟩ := lengthFits_iff.mp fits
  have fitsStated : LengthFits type (stated? 0 (length?.getD 0)) := by
    rw [lengthFits_iff, getD_stated?]
    exact ⟨fun isStated => allowed (isSome_stated?_getD isStated), notEmptyGap⟩
  simpa [Layout.itemTokens] using
    @spelled type (stated? 0 (length?.getD 0)) (stated? 1 (count?.getD 1)) fitsStated

theorem FieldPhrase.fieldTokens {field : Field} {tokens : List Token}
    (phrase : FieldPhrase field tokens) : FieldPhrase field (fieldTokens field) := by
  cases phrase with
  | gap itemPhrase isVoid =>
      simpa [Layout.fieldTokens, nameTokens] using gap itemPhrase.itemTokens isVoid
  | named itemPhrase isValue notKeyword => exact named itemPhrase.itemTokens isValue notKeyword

theorem ItemPhrase.isLexical_itemTokens {item : Item} {tokens : List Token}
    (phrase : ItemPhrase item tokens) (lexical : ∀ token ∈ tokens, IsLexical token) :
    ∀ token ∈ Layout.itemTokens item, IsLexical token :=
  List.forall_mem_cons.mpr
    ⟨lexical _ (typeToken_mem_of_itemPhrase phrase), isLexical_suffixTokens⟩

theorem FieldPhrase.isLexical_fieldTokens {field : Field} {tokens : List Token}
    (phrase : FieldPhrase field tokens) (lexical : ∀ token ∈ tokens, IsLexical token) :
    ∀ token ∈ Layout.fieldTokens field, IsLexical token := by
  cases phrase with
  | gap itemPhrase isVoid =>
      simpa [Layout.fieldTokens, nameTokens] using itemPhrase.isLexical_itemTokens lexical
  | named itemPhrase isValue notKeyword =>
      obtain ⟨ofItem, ofName⟩ := List.forall_mem_append.mp lexical
      exact List.forall_mem_append.mpr ⟨itemPhrase.isLexical_itemTokens ofItem, ofName⟩

theorem flatMap_render_itemTokens (item : Item) :
    ((itemTokens item).flatMap fun token => token.render.toList) = item.render.toList := by
  have type_eq : (typeToken item.type).render = item.type.render := by
    cases item.type <;> rfl
  have length_eq : ((stated? 0 item.length).toList.map Token.length).flatMap
      (fun token => token.render.toList) =
        (if item.length = 0 then "" else "#" ++ toString item.length.toNat).toList := by
    unfold stated?
    split <;> simp [Token.render]
  have count_eq : ((stated? 1 item.count).toList.map Token.count).flatMap
      (fun token => token.render.toList) =
        (if item.count = 1 then "" else "*" ++ toString item.count.toNat).toList := by
    unfold stated?
    split <;> simp [Token.render]
  rw [itemTokens, suffixTokens, List.flatMap_cons, List.flatMap_append, type_eq, length_eq,
    count_eq, Item.render, String.toList_append, String.toList_append, List.append_assoc]

theorem flatMap_render_fieldTokens (field : Field) :
    ((fieldTokens field).flatMap fun token => token.render.toList) = field.render.toList := by
  rw [fieldTokens, List.flatMap_append, flatMap_render_itemTokens, Field.render,
    String.toList_append]
  cases field.name <;> simp [nameTokens, Token.render]

/-- In the text of an item or field, each token attaches to the one in front of it, or
follows a colon. -/
theorem isChain_itemTokens_append (item : Item) (name : Option String) :
    (itemTokens item ++ nameTokens name).IsChain
      fun first second => first = .colon ∨ Attaches second := by
  unfold itemTokens suffixTokens
  cases stated? 0 item.length <;> cases stated? 1 item.count <;> cases name <;>
    simp [nameTokens, Attaches]

theorem IsSpelled.spells_item {item : Item} (isSpelled : IsSpelled ItemPhrase item) :
    Spells (itemTokens item) item.render.toList := by
  obtain ⟨tokens, phrase, lexical⟩ := isSpelled
  have joined := isChain_itemTokens_append item none
  rw [nameTokens, List.append_nil] at joined
  rw [← flatMap_render_itemTokens]
  exact .of_isChain (phrase.isLexical_itemTokens lexical) joined

theorem IsSpelled.spells_field {field : Field} (isSpelled : IsSpelled FieldPhrase field) :
    Spells (fieldTokens field) field.render.toList := by
  obtain ⟨tokens, phrase, lexical⟩ := isSpelled
  rw [← flatMap_render_fieldTokens]
  exact .of_isChain (phrase.isLexical_fieldTokens lexical)
    (isChain_itemTokens_append field.item field.name)

/-- What is read from the tokens of a text is spelled by tokens that a text can have. -/
theorem IsReading.isSpelled {α : Type} {spells : α → List Token → Prop}
    {phrases : List (α × List Token)} {text : List Char}
    (reading : IsReading spells phrases (tokenize text).tokens) :
    ∀ result ∈ phrases.map Prod.fst, IsSpelled spells result := by
  intro result member
  obtain ⟨phrase, memberPhrases, rfl⟩ := List.mem_map.mp member
  refine ⟨phrase.2, reading.spelled phrase memberPhrases, ?_⟩
  intro token memberPhrase
  have memberTokens : token ∈ (tokenize text).tokens := by
    rw [← reading.joined]
    exact List.mem_flatMap.mpr ⟨phrase, memberPhrases, memberPhrase⟩
  exact isLexical_of_mem_tokenize memberTokens

/-- Texts with single spaces between them spell one behind the other. -/
theorem spells_intercalate_space {α : Type} {tokensOf : α → List Token} {render : α → String}
    {results : List α}
    (spelled : ∀ result ∈ results, Spells (tokensOf result) (render result).toList) :
    Spells (results.flatMap tokensOf) (" ".intercalate (results.map render)).toList := by
  have isGap : IsGap [' '] := List.forall_mem_singleton.mpr (by decide)
  have pieces := Spells.intercalate isGap nofun
    (List.forall_mem_map.mpr spelled :
      ∀ piece ∈ results.map fun result => (tokensOf result, (render result).toList),
        Spells piece.1 piece.2)
  rw [List.flatMap_map, List.map_map] at pieces
  rw [String.toList_intercalate, List.map_map]
  exact pieces

/-- Items are parsed from every text that spells them as their own texts do. -/
theorem parseItems_of_spells {items : List Item} {text : String}
    (spelled : ∀ item ∈ items, IsSpelled ItemPhrase item)
    (spells : Spells (items.flatMap itemTokens) text.toList) : parseItems text = .ok items := by
  have lexed := spells.tokenize_eq
  have reading : IsReading ItemPhrase (items.map fun item => (item, itemTokens item))
      (tokenize text.toList).tokens := by
    rw [lexed]
    apply IsReading.of_forall
    intro item member
    obtain ⟨tokens, phrase, _⟩ := spelled item member
    exact phrase.itemTokens
  have parsed := parseItems_of_reading (congrArg Lexed.failure lexed) reading
  rwa [List.map_map, Function.comp_def, List.map_id'] at parsed

/-- Fields are parsed from every text that spells them as their own texts do. -/
theorem parseFields_of_spells {fields : List Field} {text : String}
    (spelled : ∀ field ∈ fields, IsSpelled FieldPhrase field)
    (distinct : (fields.filterMap Field.name).Nodup)
    (spells : Spells (fields.flatMap fieldTokens) text.toList) : parseFields text = .ok fields := by
  have lexed := spells.tokenize_eq
  have reading : IsReading FieldPhrase (fields.map fun field => (field, fieldTokens field))
      (tokenize text.toList).tokens := by
    rw [lexed]
    apply IsReading.of_forall
    intro field member
    obtain ⟨tokens, phrase, _⟩ := spelled field member
    exact phrase.fieldTokens
  have fields_eq : (fields.map fun field => (field, fieldTokens field)).map Prod.fst = fields := by
    rw [List.map_map, Function.comp_def, List.map_id']
  have parsed :=
    parseFields_of_reading (congrArg Lexed.failure lexed) reading (fields_eq.symm ▸ distinct)
  rwa [fields_eq] at parsed

theorem isSpelled_of_parseItems {text : String} {items : List Item}
    (parsed : parseItems text = .ok items) : ∀ item ∈ items, IsSpelled ItemPhrase item := by
  obtain ⟨_, phrases, reading, rfl⟩ := exists_reading_of_parseItems parsed
  exact reading.isSpelled

theorem isSpelled_of_parseFields {text : String} {fields : List Field}
    (parsed : parseFields text = .ok fields) : ∀ field ∈ fields, IsSpelled FieldPhrase field := by
  obtain ⟨_, ⟨phrases, reading, rfl⟩, _⟩ := exists_reading_of_parseFields parsed
  exact reading.isSpelled

/-- Items that have been parsed are parsed again from their texts. -/
theorem parseItems_render {text : String} {items : List Item}
    (parsed : parseItems text = .ok items) :
    parseItems (" ".intercalate (items.map Item.render)) = .ok items := by
  have spelled := isSpelled_of_parseItems parsed
  exact parseItems_of_spells spelled
    (spells_intercalate_space fun item member => (spelled item member).spells_item)

/-- Fields that have been parsed are parsed again from their texts. -/
theorem parseFields_render {text : String} {fields : List Field}
    (parsed : parseFields text = .ok fields) :
    parseFields (" ".intercalate (fields.map Field.render)) = .ok fields := by
  have spelled := isSpelled_of_parseFields parsed
  exact parseFields_of_spells spelled (exists_reading_of_parseFields parsed).2.2
    (spells_intercalate_space fun field member => (spelled field member).spells_field)

end Layout

end BinaryRecords
