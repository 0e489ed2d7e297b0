import BinaryRecords.Layout.ItemList
import BinaryRecords.Proofs.Layout.Phrases

/-!
# Phrases of items

The layout of a single read is a sequence of items.  The last item that has been
seen may still be given a length or a count, so a reader that has seen some
tokens has read whole items and the beginning of one more.
-/

namespace BinaryRecords

namespace Layout

namespace ItemProgress

/-- Whether some tokens are what has been read of an item so far, and there is none
if there is no item that has begun. -/
inductive Begun : Option Pending → List Token → Prop
  | none : Begun none []
  | spelling {pending : Pending} {tokens : List Token} (phrase : PendingPhrase pending tokens) :
      Begun (some pending) tokens

/-- Whether some tokens are what has been read when so much is known of the items. -/
inductive HasRead : ItemProgress → List Token → Prop
  | intro {phrases : List (Item × List Token)} {read begun : List Token}
      {itemsReverse : List Item} {pending : Option Pending}
      (reading : IsReading ItemPhrase phrases read)
      (items_eq : phrases.map Prod.fst = itemsReverse.reverse) (isBegun : Begun pending begun) :
      HasRead ⟨itemsReverse, pending⟩ (read ++ begun)

variable {progress next : ItemProgress} {tokens : List Token} {token : Token}

theorem hasRead_start : HasRead start [] :=
  .intro IsReading.nil rfl .none

/-- A token begins an item or adds to the one that has begun. -/
theorem step_cases (stepped : progress.step token = .ok next) :
    (∃ type done, token = typeToken type ∧ progress.closed = .ok done ∧
      next = ⟨done, some (Pending.begin type)⟩) ∨
    ∃ pending extended, progress.pending = some pending ∧
      pending.extend? token = some extended ∧
        next = ⟨progress.itemsReverse, some extended⟩ := by
  unfold step at stepped
  split at stepped
  · rename_i type begun
    obtain ⟨done, closed, next_eq⟩ := exceptMap_eq_ok_iff.mp stepped
    exact .inl ⟨type, done, typeBegun?_eq_some_iff.mp begun, closed, next_eq⟩
  · split at stepped
    · rename_i extended isExtended
      obtain ⟨pending, isPending, isExtended⟩ := Option.bind_eq_some_iff.mp isExtended
      cases stepped
      exact .inr ⟨pending, extended, isPending, isExtended, rfl⟩
    · cases stepped

/-- When the item that has begun ends, all tokens are phrases. -/
theorem HasRead.exists_reading {done : List Item} (hasRead : HasRead progress tokens)
    (closed : progress.closed = .ok done) :
    ∃ phrases, IsReading ItemPhrase phrases tokens ∧ phrases.map Prod.fst = done.reverse := by
  obtain @⟨phrases, read, begun, itemsReverse, pending, reading, items_eq, isBegun⟩ := hasRead
  cases isBegun with
  | none =>
      cases closed
      rw [List.append_nil]
      exact ⟨phrases, reading, items_eq⟩
  | spelling phrase =>
      obtain ⟨item, closing, rfl⟩ := exceptMap_eq_ok_iff.mp closed
      exact ⟨_, reading.append (.singleton (phrase.itemPhrase closing)), by simp [items_eq]⟩

theorem HasRead.step (hasRead : HasRead progress tokens)
    (stepped : progress.step token = .ok next) : HasRead next (tokens ++ [token]) := by
  rcases step_cases stepped with ⟨type, done, rfl, closed, rfl⟩ |
    ⟨pending, extended, isPending, isExtended, rfl⟩
  · obtain ⟨phrases, reading, items_eq⟩ := hasRead.exists_reading closed
    exact .intro reading items_eq (.spelling (.begin type))
  · obtain ⟨reading, items_eq, isBegun⟩ := hasRead
    cases isPending
    cases isBegun with
    | spelling phrase =>
        rw [List.append_assoc]
        exact .intro reading items_eq (.spelling (phrase.extend isExtended))

/-- What has been read after some tokens is known of all tokens together. -/
theorem HasRead.foldlM_step {more : List Token} (hasRead : HasRead progress tokens)
    (run : more.foldlM ItemProgress.step progress = .ok next) :
    HasRead next (tokens ++ more) := by
  have allowed : ∀ token ∈ more, True := fun _ _ => trivial
  exact foldlM_of_step (fun hasRead _ stepped => hasRead.step stepped) hasRead allowed run

variable {itemsReverse : List Item}

theorem step_typeToken (closed : progress.closed = .ok itemsReverse) (type : ItemType) :
    progress.step (typeToken type) = .ok ⟨itemsReverse, some (Pending.begin type)⟩ := by
  simp only [ItemProgress.step, typeBegun?_typeToken, closed, Except.map]

theorem step_of_extend? {pending extended : Pending}
    (isExtended : pending.extend? token = some extended) :
    ItemProgress.step ⟨itemsReverse, some pending⟩ token =
      .ok ⟨itemsReverse, some extended⟩ := by
  cases token with
  | keyword type | name text | call function | colon => cases isExtended
  | length value | count value =>
      simp only [ItemProgress.step, typeBegun?, Option.bind_some, isExtended]

/-- An item is read where all items before it may end. -/
theorem foldlM_itemPhrase (closed : progress.closed = .ok itemsReverse) {item : Item}
    (phrase : ItemPhrase item tokens) :
    ∃ next, tokens.foldlM ItemProgress.step progress = .ok next ∧
      next.closed = .ok (item :: itemsReverse) := by
  obtain ⟨stage, suffix, rfl, _, run, closing⟩ := phrase.exists_run
  refine ⟨⟨itemsReverse, some ⟨item, stage⟩⟩, ?_, ?_⟩
  · rw [List.foldlM_cons, step_typeToken closed]
    exact foldlM_of_extend? step_of_extend? run
  · simp only [ItemProgress.closed, closing, Except.map]

/-- All items of a reading are read. -/
theorem foldlM_reading {phrases : List (Item × List Token)}
    (closed : progress.closed = .ok itemsReverse)
    (reading : IsReading ItemPhrase phrases tokens) :
    ∃ next, tokens.foldlM ItemProgress.step progress = .ok next ∧
      next.closed = .ok ((phrases.map Prod.fst).reverse ++ itemsReverse) := by
  induction phrases generalizing progress itemsReverse tokens with
  | nil =>
      obtain rfl := reading.joined
      exact ⟨progress, rfl, closed⟩
  | cons phrase phrases induction =>
      obtain rfl := reading.joined
      obtain ⟨middle, run, closedMiddle⟩ :=
        foldlM_itemPhrase closed (reading.spelled phrase List.mem_cons_self)
      obtain ⟨next, runRest, closedNext⟩ := induction closedMiddle reading.tail
      refine ⟨next, ?_, ?_⟩
      · rw [List.flatMap_cons, List.foldlM_append, run]
        exact runRest
      · rw [closedNext, List.map_cons, List.reverse_cons, List.append_assoc, List.singleton_append]

end ItemProgress

/-- What is parsed as items is a reading of the tokens. -/
theorem exists_reading_of_parseItems {text : String} {items : List Item}
    (parsed : parseItems text = .ok items) :
    (tokenize text.toList).failure = none ∧
      ∃ phrases, IsReading ItemPhrase phrases (tokenize text.toList).tokens ∧
        phrases.map Prod.fst = items := by
  unfold parseItems itemsOfTokens at parsed
  obtain ⟨progress, run, ending⟩ := exceptBind_eq_ok_iff.mp parsed
  split at ending
  · cases ending
  · rename_i noFailure
    obtain ⟨itemsReverse, closed, rfl⟩ := exceptMap_eq_ok_iff.mp ending
    exact ⟨noFailure, (ItemProgress.hasRead_start.foldlM_step run).exists_reading closed⟩

/-- A reading of the tokens is what is parsed as items. -/
theorem parseItems_of_reading {text : String} {phrases : List (Item × List Token)}
    (noFailure : (tokenize text.toList).failure = none)
    (reading : IsReading ItemPhrase phrases (tokenize text.toList).tokens) :
    parseItems text = .ok (phrases.map Prod.fst) := by
  have closedStart : ItemProgress.start.closed = .ok [] := rfl
  obtain ⟨progress, run, closed⟩ := ItemProgress.foldlM_reading closedStart reading
  rw [List.append_nil] at closed
  simp only [parseItems, itemsOfTokens, run, noFailure, bind, Except.bind, closed, Except.map,
    List.reverse_reverse]

/-- A text is the layout of a single read exactly if its tokens are phrases of items, and
they are so in one way only.  Every other text is refused. -/
theorem parseItems_eq_ok_iff_reading (text : String) :
    (∀ items, parseItems text = .ok items ↔
      (tokenize text.toList).failure = none ∧
        ∃ phrases, IsReading ItemPhrase phrases (tokenize text.toList).tokens ∧
          phrases.map Prod.fst = items) ∧
    (∀ tokens firsts seconds, IsReading ItemPhrase firsts tokens →
      IsReading ItemPhrase seconds tokens → firsts = seconds) ∧
    ((∃ failure, parseItems text = .error failure) ↔
      ¬ ((tokenize text.toList).failure = none ∧
        ∃ phrases, IsReading ItemPhrase phrases (tokenize text.toList).tokens)) := by
  have accepted : ∀ items, parseItems text = .ok items ↔
      (tokenize text.toList).failure = none ∧
        ∃ phrases, IsReading ItemPhrase phrases (tokenize text.toList).tokens ∧
          phrases.map Prod.fst = items := by
    intro items
    constructor
    · exact exists_reading_of_parseItems
    · rintro ⟨noFailure, phrases, reading, rfl⟩
      exact parseItems_of_reading noFailure reading
  refine ⟨accepted, ?_, ?_⟩
  · intro tokens firsts seconds first second
    exact first.unique isSeparable_itemPhrase second
  · constructor
    · rintro ⟨failure, refused⟩ ⟨noFailure, phrases, reading⟩
      cases refused.symm.trans (parseItems_of_reading noFailure reading)
    · intro noReading
      cases parsed : parseItems text with
      | error failure => exact ⟨failure, rfl⟩
      | ok items =>
          obtain ⟨noFailure, phrases, reading, _⟩ := (accepted items).mp parsed
          exact absurd ⟨noFailure, phrases, reading⟩ noReading

theorem typeToken_mem_of_itemPhrase {item : Item} {tokens : List Token}
    (phrase : ItemPhrase item tokens) : typeToken item.type ∈ tokens := by
  cases phrase
  exact List.mem_cons_self

/-- A struct among the items of a text is named in the text. -/
theorem name_mem_tokenize_of_parseItems {text : String} {items : List Item} {item : Item}
    {name : String} (parsed : parseItems text = .ok items) (member : item ∈ items)
    (type_eq : item.type = .struct name) : .name name ∈ (tokenize text.toList).tokens := by
  obtain ⟨_, phrases, ⟨spelled, joined⟩, rfl⟩ := exists_reading_of_parseItems parsed
  obtain ⟨phrase, memberPhrase, rfl⟩ := List.mem_map.mp member
  have begins := typeToken_mem_of_itemPhrase (spelled phrase memberPhrase)
  rw [type_eq] at begins
  rw [← joined]
  exact List.mem_flatMap.mpr ⟨phrase, memberPhrase, begins⟩

end Layout

end BinaryRecords
