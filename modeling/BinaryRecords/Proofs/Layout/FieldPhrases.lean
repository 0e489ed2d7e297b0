import BinaryRecords.Layout.FieldList
import BinaryRecords.Proofs.Layout.Phrases
import BinaryRecords.Proofs.Layout.Spelling

/-!
# Phrases of fields

The grammar of a struct.  A gap is a phrase by itself, and every other field is
an item, a colon and a name.  The phrase of a gap ends only with the token
behind it, or with the text, so a reader that has seen some tokens has read
whole phrases and the beginning of one more.
-/

namespace BinaryRecords

namespace Layout

/-- Whether some tokens spell a field. -/
inductive FieldPhrase : Field → List Token → Prop
  | gap {item : Item} {tokens : List Token} (phrase : ItemPhrase item tokens)
      (isVoid : item.isVoid = true) :
      FieldPhrase ⟨item, none⟩ tokens
  | named {item : Item} {tokens : List Token} {name : String} (phrase : ItemPhrase item tokens)
      (isValue : item.isVoid = false) (notKeyword : BuiltinType.ofKeyword? name = none) :
      FieldPhrase ⟨item, some name⟩ (tokens ++ [.colon, .name name])

theorem isSeparable_fieldPhrase : IsSeparable FieldPhrase where
  begins := by
    rintro _ _ (⟨phrase, _⟩ | ⟨phrase, _, _⟩)
    · exact isSeparable_itemPhrase.begins phrase
    · obtain ⟨type, rest, rfl⟩ := isSeparable_itemPhrase.begins phrase
      exact ⟨type, _, rfl⟩
  append_inj := by
    intro first second tokens otherTokens rest others firstPhrase secondPhrase ends endsOther same
    cases firstPhrase with
    | gap phrase isVoid =>
        cases secondPhrase with
        | gap otherPhrase _ =>
            obtain ⟨rfl, rfl, rfl⟩ :=
              isSeparable_itemPhrase.append_inj phrase otherPhrase ends endsOther same
            exact ⟨rfl, rfl, rfl⟩
        | named otherPhrase isValue _ =>
            rw [List.append_assoc] at same
            obtain ⟨rfl, _⟩ := isSeparable_itemPhrase.append_inj phrase otherPhrase ends
              (endsItem_colon _) same
            simp [isVoid] at isValue
    | named phrase isValue _ =>
        cases secondPhrase with
        | gap otherPhrase isVoid =>
            rw [List.append_assoc] at same
            obtain ⟨rfl, _⟩ := isSeparable_itemPhrase.append_inj phrase otherPhrase
              (endsItem_colon _) endsOther same
            simp [isVoid] at isValue
        | named otherPhrase _ _ =>
            rw [List.append_assoc, List.append_assoc] at same
            obtain ⟨rfl, rfl, sameRest⟩ := isSeparable_itemPhrase.append_inj phrase otherPhrase
              (endsItem_colon _) (endsItem_colon _) same
            cases sameRest
            exact ⟨rfl, rfl, rfl⟩

namespace FieldProgress

/-- Whether some tokens are what has been read of a field so far, and there is none
if there is no field that has begun. -/
inductive Begun : Option Pending → List Token → Prop
  | none : Begun none []
  | spelling {pending : Pending} {tokens : List Token} (phrase : PendingPhrase pending tokens) :
      Begun (some pending) tokens
  | naming {item : Item} {stage : Stage} {tokens : List Token}
      (phrase : PendingPhrase ⟨item, stage⟩ tokens) (isValue : item.isVoid = false) :
      Begun (some ⟨item, .naming⟩) (tokens ++ [.colon])

/-- Whether some tokens are what has been read when so much is known of the fields. -/
inductive HasRead : FieldProgress → List Token → Prop
  | intro {phrases : List (Field × List Token)} {read begun : List Token}
      {fieldsReverse : List Field} {pending : Option Pending}
      (reading : IsReading FieldPhrase phrases read)
      (fields_eq : phrases.map Prod.fst = fieldsReverse.reverse)
      (distinct : (fieldsReverse.filterMap Field.name).Nodup) (isBegun : Begun pending begun) :
      HasRead ⟨fieldsReverse, pending⟩ (read ++ begun)

variable {progress next : FieldProgress} {tokens : List Token} {token : Token}

theorem hasRead_start : HasRead start [] :=
  .intro IsReading.nil rfl List.nodup_nil .none

/-- A field is named once it has a type, unless an earlier one has the same name. -/
theorem close_eq_ok_iff {pending : Pending} {name : String} :
    progress.close pending name = .ok next ↔
      ∃ item, pending.close = .ok item ∧
        name ∉ progress.fieldsReverse.filterMap Field.name ∧
          next = ⟨⟨item, some name⟩ :: progress.fieldsReverse, none⟩ := by
  have hasName_iff : progress.hasName name = true ↔
      name ∈ progress.fieldsReverse.filterMap Field.name := by
    simp [hasName]
  unfold close
  cases pending.close with
  | error failure => simp [bind, Except.bind]
  | ok item =>
      change (if _ then _ else _) = _ ↔ _
      split
      · rename_i isNamed
        simp [hasName_iff.mp isNamed]
      · rename_i notNamed
        have isNew := mt hasName_iff.mpr notNamed
        simp [isNew, eq_comm]

theorem extend?_eq_some_iff {pending extended : Pending} :
    extend? pending token = some extended ↔
      (token = .colon ∧ pending.stage ≠ .naming ∧ pending.item.isVoid = false ∧
        extended = ⟨pending.item, .naming⟩) ∨ pending.extend? token = some extended := by
  cases token with
  | colon => simp [extend?, Pending.extend?, and_assoc, eq_comm (a := extended)]
  | keyword type | name text | length value | count value | call function => simp [extend?]

/-- A token ends a field with its name, begins a field, goes on to the name or adds to
the item. -/
theorem step_cases (stepped : progress.step token = .ok next) :
    (∃ item name, progress.pending = some ⟨item, .naming⟩ ∧ token = .name name ∧
      progress.close ⟨item, .naming⟩ name = .ok next) ∨
    (∃ type done, token = typeToken type ∧ progress.closed = .ok done ∧
      next = ⟨done, some (Pending.begin type)⟩) ∨
    ∃ pending extended, progress.pending = some pending ∧
      extend? pending token = some extended ∧
        next = ⟨progress.fieldsReverse, some extended⟩ := by
  unfold step at stepped
  split at stepped
  · rename_i item name isNaming
    exact .inl ⟨item, name, isNaming, rfl, stepped⟩
  · split at stepped
    · rename_i type begun
      obtain ⟨done, closed, next_eq⟩ := exceptMap_eq_ok_iff.mp stepped
      exact .inr (.inl ⟨type, done, typeBegun?_eq_some_iff.mp begun, closed, next_eq⟩)
    · split at stepped
      · rename_i extended isExtended
        obtain ⟨pending, isPending, isExtended⟩ := Option.bind_eq_some_iff.mp isExtended
        cases stepped
        exact .inr (.inr ⟨pending, extended, isPending, isExtended, rfl⟩)
      · cases stepped

/-- When the field that has begun ends, all tokens are phrases. -/
theorem HasRead.exists_reading {done : List Field} (hasRead : HasRead progress tokens)
    (closed : progress.closed = .ok done) :
    (∃ phrases, IsReading FieldPhrase phrases tokens ∧ phrases.map Prod.fst = done.reverse) ∧
      (done.filterMap Field.name).Nodup := by
  obtain @⟨phrases, read, begun, fieldsReverse, pending, reading, fields_eq, distinct, isBegun⟩ :=
    hasRead
  cases isBegun with
  | none =>
      cases closed
      rw [List.append_nil]
      exact ⟨⟨phrases, reading, fields_eq⟩, distinct⟩
  | @naming item _ _ phrase isValue => simp [FieldProgress.closed, isValue] at closed
  | @spelling pending _ phrase =>
      simp only [FieldProgress.closed] at closed
      split at closed
      · rename_i isVoid
        obtain ⟨item, closing, rfl⟩ := exceptMap_eq_ok_iff.mp closed
        obtain ⟨_, rfl⟩ := Pending.close_eq_ok_iff.mp closing
        have gap : FieldPhrase ⟨pending.item, none⟩ begun := .gap (phrase.itemPhrase closing) isVoid
        exact ⟨⟨_, reading.append (.singleton gap), by simp [fields_eq]⟩, distinct⟩
      · cases closed

/-- What has been read of a field ends with its name. -/
theorem HasRead.close {item : Item} {name : String} (hasRead : HasRead progress tokens)
    (isNaming : progress.pending = some ⟨item, .naming⟩)
    (closed : progress.close ⟨item, .naming⟩ name = .ok next)
    (notKeyword : BuiltinType.ofKeyword? name = none) :
    HasRead next (tokens ++ [.name name]) := by
  obtain @⟨phrases, read, begun, fieldsReverse, _, reading, fields_eq, distinct, isBegun⟩ := hasRead
  cases isNaming
  obtain ⟨closedItem, closing, isNew, rfl⟩ := close_eq_ok_iff.mp closed
  cases isBegun with
  | spelling phrase => exact absurd rfl phrase.stage_ne_naming
  | @naming _ stage tokens phrase isValue =>
      obtain ⟨_, rfl⟩ := Pending.close_eq_ok_iff.mp closing
      have named : FieldPhrase ⟨item, some name⟩ (tokens ++ [.colon, .name name]) :=
        .named (phrase.itemPhrase closing) isValue notKeyword
      have tokens_eq : read ++ (tokens ++ [.colon]) ++ [.name name] =
          read ++ (tokens ++ [.colon, .name name]) ++ [] := by
        simp
      rw [tokens_eq]
      refine .intro (reading.append (.singleton named)) ?_ ?_ .none
      · simp [fields_eq]
      · simpa [distinct] using isNew

theorem HasRead.step (hasRead : HasRead progress tokens)
    (stepped : progress.step token = .ok next)
    (notKeyword : ∀ name, token = .name name → BuiltinType.ofKeyword? name = none) :
    HasRead next (tokens ++ [token]) := by
  rcases step_cases stepped with ⟨item, name, isNaming, rfl, closed⟩ |
    ⟨type, done, rfl, closed, rfl⟩ | ⟨pending, extended, isPending, isExtended, rfl⟩
  · exact hasRead.close isNaming closed (notKeyword name rfl)
  · obtain ⟨⟨phrases, reading, fields_eq⟩, distinct⟩ := hasRead.exists_reading closed
    exact .intro reading fields_eq distinct (.spelling (.begin type))
  · obtain ⟨reading, fields_eq, distinct, isBegun⟩ := hasRead
    cases isPending
    rw [List.append_assoc]
    refine .intro reading fields_eq distinct ?_
    rcases extend?_eq_some_iff.mp isExtended with ⟨rfl, notNaming, isValue, rfl⟩ | isExtended
    · cases isBegun with
      | spelling phrase => exact .naming phrase isValue
      | naming => exact absurd rfl notNaming
    · cases isBegun with
      | spelling phrase => exact .spelling (phrase.extend isExtended)
      | naming => simp [Pending.extend?_naming] at isExtended

/-- What has been read after some tokens is known of all tokens together. -/
theorem HasRead.foldlM_step {more : List Token} (hasRead : HasRead progress tokens)
    (run : more.foldlM FieldProgress.step progress = .ok next)
    (notKeywords : ∀ name, .name name ∈ more → BuiltinType.ofKeyword? name = none) :
    HasRead next (tokens ++ more) := by
  have allowed : ∀ token ∈ more, ∀ name, token = .name name →
      BuiltinType.ofKeyword? name = none := by
    rintro _ member name rfl
    exact notKeywords name member
  exact foldlM_of_step (fun hasRead notKeyword stepped => hasRead.step stepped notKeyword)
    hasRead allowed run

/-- Whether all fields have been read, but perhaps for the end of a gap, so that another
one may begin. -/
structure Closes (progress : FieldProgress) (fieldsReverse : List Field) : Prop where
  closed : progress.closed = .ok fieldsReverse
  notNaming : ∀ item, progress.pending ≠ some ⟨item, .naming⟩

theorem closes_done (fieldsReverse : List Field) : Closes ⟨fieldsReverse, none⟩ fieldsReverse :=
  ⟨rfl, nofun⟩

variable {fieldsReverse : List Field}

theorem Closes.step_typeToken (closes : progress.Closes fieldsReverse) (type : ItemType) :
    progress.step (typeToken type) = .ok ⟨fieldsReverse, some (Pending.begin type)⟩ := by
  unfold FieldProgress.step
  split
  · rename_i item name isNaming _
    exact absurd isNaming (closes.notNaming item)
  · rw [typeBegun?_typeToken]
    simp only [begin, closes.closed, Except.map]

theorem step_of_extend? {pending extended : Pending}
    (isExtended : extend? pending token = some extended) :
    step ⟨fieldsReverse, some pending⟩ token = .ok ⟨fieldsReverse, some extended⟩ := by
  cases token with
  | keyword type | name text | call function => cases isExtended
  | length value | count value | colon =>
      simp only [step, typeBegun?, Option.bind_some, isExtended]

/-- An item is read where the next field may begin. -/
theorem Closes.foldlM_itemPhrase (closes : progress.Closes fieldsReverse) {item : Item}
    (phrase : ItemPhrase item tokens) :
    ∃ stage, stage ≠ .naming ∧ Pending.close ⟨item, stage⟩ = .ok item ∧
      tokens.foldlM step progress = .ok ⟨fieldsReverse, some ⟨item, stage⟩⟩ := by
  obtain ⟨stage, suffix, rfl, notNaming, run, closing⟩ := phrase.exists_run
  refine ⟨stage, notNaming, closing, ?_⟩
  rw [List.foldlM_cons, closes.step_typeToken]
  exact foldlM_of_extend?
    (fun isExtended => step_of_extend? (extend?_eq_some_iff.mpr (.inr isExtended))) run

/-- A field is read where it may begin, unless its name belongs to an earlier one. -/
theorem Closes.foldlM_fieldPhrase (closes : progress.Closes fieldsReverse) {field : Field}
    (phrase : FieldPhrase field tokens)
    (isNew : ∀ name, field.name = some name → name ∉ fieldsReverse.filterMap Field.name) :
    ∃ next, tokens.foldlM step progress = .ok next ∧ next.Closes (field :: fieldsReverse) := by
  cases phrase with
  | @gap item _ itemPhrase isVoid =>
      obtain ⟨stage, notNaming, closing, run⟩ := closes.foldlM_itemPhrase itemPhrase
      refine ⟨_, run, ?_, ?_⟩
      · simp only [FieldProgress.closed, isVoid, if_true, closing, Except.map]
      · intro naming isNaming
        cases isNaming
        exact notNaming rfl
  | @named item tokens name itemPhrase isValue notKeyword =>
      obtain ⟨stage, notNaming, closing, run⟩ := closes.foldlM_itemPhrase itemPhrase
      have colon : step ⟨fieldsReverse, some ⟨item, stage⟩⟩ .colon =
          .ok ⟨fieldsReverse, some ⟨item, .naming⟩⟩ :=
        step_of_extend? (extend?_eq_some_iff.mpr (.inl ⟨rfl, notNaming, isValue, rfl⟩))
      have notEmptyGap := (Pending.close_eq_ok_iff.mp closing).1
      have ending : step ⟨fieldsReverse, some ⟨item, .naming⟩⟩ (.name name) =
          .ok ⟨⟨item, some name⟩ :: fieldsReverse, none⟩ :=
        close_eq_ok_iff.mpr
          ⟨item, Pending.close_eq_ok_iff.mpr ⟨notEmptyGap, rfl⟩, isNew name rfl, rfl⟩
      refine ⟨_, ?_, closes_done _⟩
      rw [List.foldlM_append, run]
      simp only [List.foldlM_cons, List.foldlM_nil, bind, Except.bind, colon, ending, pure,
        Except.pure]

/-- All fields of a reading are read. -/
theorem Closes.foldlM_reading {phrases : List (Field × List Token)}
    (closes : progress.Closes fieldsReverse) (reading : IsReading FieldPhrase phrases tokens)
    (distinct : (((phrases.map Prod.fst).reverse ++ fieldsReverse).filterMap Field.name).Nodup) :
    ∃ next, tokens.foldlM step progress = .ok next ∧
      next.Closes ((phrases.map Prod.fst).reverse ++ fieldsReverse) := by
  induction phrases generalizing progress fieldsReverse tokens with
  | nil =>
      obtain rfl := reading.joined
      exact ⟨progress, rfl, closes⟩
  | cons phrase phrases induction =>
      obtain rfl := reading.joined
      rw [List.map_cons, List.reverse_cons, List.append_assoc, List.singleton_append] at distinct ⊢
      have isNew : ∀ name, phrase.1.name = some name →
          name ∉ fieldsReverse.filterMap Field.name := by
        intro name name_eq
        rw [List.filterMap_append, List.filterMap_cons_some name_eq] at distinct
        exact (List.nodup_cons.mp (List.nodup_append.mp distinct).2.1).1
      obtain ⟨middle, run, closesMiddle⟩ :=
        closes.foldlM_fieldPhrase (reading.spelled phrase List.mem_cons_self) isNew
      obtain ⟨next, runRest, closesNext⟩ := induction closesMiddle reading.tail distinct
      refine ⟨next, ?_, closesNext⟩
      rw [List.flatMap_cons, List.foldlM_append, run]
      exact runRest

end FieldProgress

theorem fieldsOfTokens_eq_ok_iff {lexed : Lexed} {fields : List Field} :
    fieldsOfTokens lexed = .ok fields ↔ lexed.failure = none ∧
      ∃ progress fieldsReverse,
        lexed.tokens.foldlM FieldProgress.step FieldProgress.start = .ok progress ∧
          progress.closed = .ok fieldsReverse ∧ fields = fieldsReverse.reverse := by
  unfold fieldsOfTokens
  rw [exceptBind_eq_ok_iff]
  cases lexed.failure with
  | some failure => simp
  | none => simp only [exceptMap_eq_ok_iff, true_and, exists_and_left]

/-- What is parsed as fields is a reading of the tokens, with distinct names. -/
theorem exists_reading_of_parseFields {text : String} {fields : List Field}
    (parsed : parseFields text = .ok fields) :
    (tokenize text.toList).failure = none ∧
      (∃ phrases, IsReading FieldPhrase phrases (tokenize text.toList).tokens ∧
        phrases.map Prod.fst = fields) ∧
      (fields.filterMap Field.name).Nodup := by
  obtain ⟨noFailure, progress, fieldsReverse, run, closed, rfl⟩ :=
    fieldsOfTokens_eq_ok_iff.mp parsed
  have hasRead := FieldProgress.hasRead_start.foldlM_step run
    fun name member => (isLexical_of_mem_tokenize member).2
  obtain ⟨reading, distinct⟩ := hasRead.exists_reading closed
  refine ⟨noFailure, reading, ?_⟩
  rw [List.filterMap_reverse]
  exact (List.reverse_perm _).nodup_iff.mpr distinct

/-- A reading of the tokens with distinct names is what is parsed as fields. -/
theorem parseFields_of_reading {text : String} {phrases : List (Field × List Token)}
    (noFailure : (tokenize text.toList).failure = none)
    (reading : IsReading FieldPhrase phrases (tokenize text.toList).tokens)
    (distinct : ((phrases.map Prod.fst).filterMap Field.name).Nodup) :
    parseFields text = .ok (phrases.map Prod.fst) := by
  have distinctReverse :
      (((phrases.map Prod.fst).reverse ++ []).filterMap Field.name).Nodup := by
    rw [List.append_nil, List.filterMap_reverse]
    exact (List.reverse_perm _).nodup_iff.mpr distinct
  obtain ⟨progress, run, closes⟩ :=
    (FieldProgress.closes_done []).foldlM_reading reading distinctReverse
  rw [List.append_nil] at closes
  exact fieldsOfTokens_eq_ok_iff.mpr
    ⟨noFailure, progress, _, run, closes.closed, (List.reverse_reverse _).symm⟩

/-- A text is the layout of a struct exactly if its tokens are phrases of fields with
distinct names, and they are so in one way only. -/
theorem parseFields_eq_ok_iff_reading (text : String) :
    (∀ fields, parseFields text = .ok fields ↔
      (tokenize text.toList).failure = none ∧
        (∃ phrases, IsReading FieldPhrase phrases (tokenize text.toList).tokens ∧
          phrases.map Prod.fst = fields) ∧
        (fields.filterMap Field.name).Nodup) ∧
    ∀ tokens firsts seconds, IsReading FieldPhrase firsts tokens →
      IsReading FieldPhrase seconds tokens → firsts = seconds := by
  constructor
  · intro fields
    constructor
    · exact exists_reading_of_parseFields
    · rintro ⟨noFailure, ⟨phrases, reading, rfl⟩, distinct⟩
      exact parseFields_of_reading noFailure reading distinct
  · intro tokens firsts seconds first second
    exact first.unique isSeparable_fieldPhrase second

end Layout

end BinaryRecords
