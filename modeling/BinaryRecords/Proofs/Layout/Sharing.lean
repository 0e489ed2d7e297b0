import BinaryRecords.Proofs.Layout.Remembering
import Mathlib.Data.List.Dedup

/-!
# Sharing remembered layouts

A text gets its place in a memo when it is parsed with success for the first time, and
keeps it from then on.  So all successes of one text share one list of items, successes
of two texts never do, and there are as many places as texts that have been parsed with
success.
-/

namespace BinaryRecords

namespace Layout

namespace Memo

/-- The texts that are remembered, in the order of their places. -/
def texts (memo : Memo) : List String :=
  memo.entries.map Prod.fst

/-- Whether a text has the place and the items in a memo that it is said to have. -/
def Keeps (memo : Memo) (text : String) (remembered : Remembered) : Prop :=
  memo.entries[remembered.place]? = some (text, remembered.items)

/-- The memo after some texts. -/
def parseAll (memo : Memo) (texts : List String) : Memo :=
  texts.foldl (fun memo text => (memo.parse text).2) memo

/-- The answers to some texts, one after the other. -/
def transcript (memo : Memo) : List String → List (Except Error Remembered)
  | [] => []
  | text :: texts => (memo.parse text).1 :: (memo.parse text).2.transcript texts

variable {memo after : Memo} {text : String} {remembered : Remembered}

theorem size_eq_length_texts (memo : Memo) : memo.size = memo.texts.length :=
  (List.length_map _).symm

theorem texts_append (memo : Memo) (text : String) (items : List Item) :
    texts ⟨memo.entries ++ [(text, items)]⟩ = memo.texts ++ [text] :=
  List.map_append

namespace Keeps

theorem mem_texts (keeps : memo.Keeps text remembered) : text ∈ memo.texts :=
  List.mem_map.mpr ⟨_, List.mem_of_getElem? keeps, rfl⟩

/-- What is appended to a memo moves nothing. -/
theorem of_extension (keeps : memo.Keeps text remembered) (grows : memo.entries <+: after.entries) :
    after.Keeps text remembered := by
  obtain ⟨later, entries_eq⟩ := grows
  obtain ⟨inside, _⟩ := List.getElem?_eq_some_iff.mp keeps
  rwa [Keeps, ← entries_eq, List.getElem?_append_left inside]

/-- No text has two places in a memo of distinct texts. -/
theorem eq_of_nodup {other : Remembered} (keeps : memo.Keeps text remembered)
    (keepsOther : memo.Keeps text other) (distinct : memo.texts.Nodup) :
    remembered = other := by
  have textAt : memo.texts[remembered.place]? = some text := by
    rw [texts, List.getElem?_map, keeps, Option.map_some]
  have textAtOther : memo.texts[other.place]? = some text := by
    rw [texts, List.getElem?_map, keepsOther, Option.map_some]
  obtain ⟨inside, _⟩ := List.getElem?_eq_some_iff.mp textAt
  have place_eq : remembered.place = other.place :=
    (List.getElem?_inj inside distinct).mp (textAt.trans textAtOther.symm)
  rw [Keeps, place_eq, keepsOther] at keeps
  have items_eq : other.items = remembered.items :=
    congrArg Prod.snd (Option.some.inj keeps)
  cases remembered
  cases other
  cases place_eq
  cases items_eq
  rfl

theorem text_eq {other : Remembered} {otherText : String} (keeps : memo.Keeps text remembered)
    (keepsOther : memo.Keeps otherText other) (place_eq : remembered.place = other.place) :
    text = otherText := by
  rw [Keeps, place_eq, keepsOther] at keeps
  exact (congrArg Prod.fst (Option.some.inj keeps)).symm

end Keeps

theorem keeps_of_find? (found : memo.find? text = some remembered) :
    memo.Keeps text remembered := by
  unfold find? at found
  split at found
  · rename_i items isEntry
    cases found
    obtain ⟨before, later, entries_eq, notBefore⟩ := List.lookup_eq_some_iff.mp isEntry
    -- The search for the place stops where the search for the items has stopped.
    have noneBefore : before.findIdx (fun entry => entry.1 == text) = before.length := by
      apply List.findIdx_eq_length.mpr
      intro entry member
      exact beq_false_of_ne (bne_iff_ne.mp (notBefore entry member)).symm
    have place_eq : memo.entries.findIdx (fun entry => entry.1 == text) = before.length := by
      rw [entries_eq, List.findIdx_append, noneBefore, if_neg (Nat.lt_irrefl _)]
      simp [List.findIdx_cons]
    rw [Keeps, place_eq, entries_eq]
    simp
  · cases found

theorem notMem_texts_of_find? (missing : memo.find? text = none) : text ∉ memo.texts := by
  unfold find? at missing
  split at missing
  · cases missing
  · rename_i isMissing
    intro member
    obtain ⟨entry, memberEntry, rfl⟩ := List.mem_map.mp member
    exact bne_iff_ne.mp (List.lookup_eq_none_iff.mp isMissing entry memberEntry) rfl

/-- A text that has a place keeps it, one that is parsed with success for the first time
gets the next place, and otherwise nothing changes. -/
theorem parse_cases (memo : Memo) (text : String) :
    (∃ remembered, memo.parse text = (.ok remembered, memo) ∧ memo.Keeps text remembered) ∨
    (∃ items, text ∉ memo.texts ∧ parseItems text = .ok items ∧
      memo.parse text = (.ok ⟨memo.size, items⟩, ⟨memo.entries ++ [(text, items)]⟩)) ∨
    ∃ failure, text ∉ memo.texts ∧ parseItems text = .error failure ∧
      memo.parse text = (.error failure, memo) := by
  cases found : memo.find? text with
  | some remembered =>
      refine Or.inl ⟨remembered, ?_, keeps_of_find? found⟩
      simp only [parse, found]
  | none =>
      have notMem := notMem_texts_of_find? found
      cases parsed : parseItems text with
      | ok items =>
          refine Or.inr (Or.inl ⟨items, notMem, rfl, ?_⟩)
          simp only [parse, found, parsed]
      | error failure =>
          refine Or.inr (Or.inr ⟨failure, notMem, rfl, ?_⟩)
          simp only [parse, found, parsed]

theorem entries_prefix_parse (memo : Memo) (text : String) :
    memo.entries <+: (memo.parse text).2.entries := by
  obtain ⟨remembered, run, _⟩ | ⟨items, _, _, run⟩ | ⟨failure, _, _, run⟩ :=
    memo.parse_cases text
  · simp only [run, List.prefix_rfl]
  · simp only [run, List.prefix_append]
  · simp only [run, List.prefix_rfl]

theorem keeps_parse (success : (memo.parse text).1 = .ok remembered) :
    (memo.parse text).2.Keeps text remembered := by
  obtain ⟨known, run, keeps⟩ | ⟨items, _, _, run⟩ | ⟨failure, _, _, run⟩ :=
    memo.parse_cases text
  · rw [run] at success ⊢
    cases success
    exact keeps
  · rw [run] at success ⊢
    cases success
    simp [Keeps, size]
  · rw [run] at success
    cases success

theorem nodup_texts_parse (distinct : memo.texts.Nodup) (text : String) :
    (memo.parse text).2.texts.Nodup := by
  obtain ⟨remembered, run, _⟩ | ⟨items, notMem, _, run⟩ | ⟨failure, _, _, run⟩ :=
    memo.parse_cases text
  · rwa [run]
  · rw [run, texts_append, ← List.concat_eq_append, List.nodup_concat]
    exact ⟨notMem, distinct⟩
  · rwa [run]

theorem mem_texts_parse_iff (memo : Memo) (text other : String) :
    other ∈ (memo.parse text).2.texts ↔
      other ∈ memo.texts ∨ (other = text ∧ (parseItems text).isOk = true) := by
  obtain ⟨remembered, run, keeps⟩ | ⟨items, _, parsed, run⟩ | ⟨failure, _, parsed, run⟩ :=
    memo.parse_cases text
  · rw [run]
    constructor
    · exact Or.inl
    · rintro (member | ⟨rfl, _⟩)
      · exact member
      · exact keeps.mem_texts
  · rw [run, texts_append, parsed]
    simp [Except.isOk, Except.toBool]
  · rw [run, parsed]
    simp [Except.isOk, Except.toBool]

theorem entries_prefix_parseAll (memo : Memo) (texts : List String) :
    memo.entries <+: (memo.parseAll texts).entries := by
  induction texts generalizing memo with
  | nil => exact List.prefix_rfl
  | cons text texts induction =>
      exact (memo.entries_prefix_parse text).trans (induction (memo.parse text).2)

/-- Every success among some texts has its place in the memo after them. -/
theorem keeps_parseAll {texts : List String}
    (success : (text, Except.ok remembered) ∈ texts.zip (memo.transcript texts)) :
    (memo.parseAll texts).Keeps text remembered := by
  induction texts generalizing memo with
  | nil => cases success
  | cons first texts induction =>
      rcases List.mem_cons.mp success with isFirst | isLater
      · obtain ⟨rfl, answer_eq⟩ := Prod.mk.inj isFirst
        exact (keeps_parse answer_eq.symm).of_extension (entries_prefix_parseAll _ texts)
      · exact induction isLater

theorem nodup_texts_parseAll (distinct : memo.texts.Nodup) (texts : List String) :
    (memo.parseAll texts).texts.Nodup := by
  induction texts generalizing memo with
  | nil => exact distinct
  | cons text texts induction => exact induction (nodup_texts_parse distinct text)

theorem mem_texts_parseAll_iff (memo : Memo) (texts : List String) (other : String) :
    other ∈ (memo.parseAll texts).texts ↔
      other ∈ memo.texts ∨ (other ∈ texts ∧ (parseItems other).isOk = true) := by
  induction texts generalizing memo with
  | nil => simp [parseAll]
  | cons text texts induction =>
      have later := induction (memo.parse text).2
      have sameText : (other = text ∧ (parseItems text).isOk = true) ↔
          (other = text ∧ (parseItems other).isOk = true) :=
        and_congr_right fun text_eq => by rw [text_eq]
      rw [mem_texts_parse_iff, sameText] at later
      rw [List.mem_cons, or_and_right, ← or_assoc]
      exact later

/-- A sound memo answers to all texts as parsing does. -/
theorem IsSound.map_items_transcript (isSound : memo.IsSound) (texts : List String) :
    (memo.transcript texts).map (Except.map Remembered.items) = texts.map parseItems := by
  induction texts generalizing memo with
  | nil => rfl
  | cons text texts induction =>
      obtain ⟨answer_eq, isSoundAfter⟩ := isSound.parse text
      rw [transcript, List.map_cons, List.map_cons, answer_eq, induction isSoundAfter]

/-- After some texts, there are as many places as distinct ones that describe items. -/
theorem size_parseAll_empty (texts : List String) :
    (empty.parseAll texts).size =
      (texts.filter fun text => (parseItems text).isOk).dedup.length := by
  rw [size_eq_length_texts]
  apply List.Perm.length_eq
  have emptyDistinct : empty.texts.Nodup := List.nodup_nil
  have distinct := nodup_texts_parseAll emptyDistinct texts
  apply (List.perm_ext_iff_of_nodup distinct (List.nodup_dedup _)).mpr
  intro text
  rw [mem_texts_parseAll_iff, List.mem_dedup, List.mem_filter]
  exact or_iff_right List.not_mem_nil

/-- Successes of one text are one and the same, and those of two texts are in two
places. -/
theorem shares_exactly_same_text {texts : List String} {otherText : String} {other : Remembered}
    (success : (text, Except.ok remembered) ∈ texts.zip (empty.transcript texts))
    (otherSuccess : (otherText, Except.ok other) ∈ texts.zip (empty.transcript texts)) :
    (text = otherText → remembered = other) ∧
      (remembered.place = other.place → text = otherText) := by
  have keeps := keeps_parseAll success
  have keepsOther := keeps_parseAll otherSuccess
  have emptyDistinct : empty.texts.Nodup := List.nodup_nil
  constructor
  · rintro rfl
    exact keeps.eq_of_nodup keepsOther (nodup_texts_parseAll emptyDistinct texts)
  · exact keeps.text_eq keepsOther

end Memo

end Layout

end BinaryRecords
