import BinaryRecords.Layout.Memo

/-!
# Remembering layouts

As long as a memo holds only what parsing gives, asking it is parsing.
-/

namespace BinaryRecords

namespace Layout

namespace Memo

/-- Whether every text is remembered with the items that it describes. -/
def IsSound (memo : Memo) : Prop :=
  ∀ entry ∈ memo.entries, parseItems entry.1 = .ok entry.2

theorem isSound_empty : empty.IsSound := by
  intro entry member
  cases member

namespace IsSound

theorem parseItems_of_find? {memo : Memo} (isSound : memo.IsSound) {text : String}
    {remembered : Remembered} (found : memo.find? text = some remembered) :
    parseItems text = .ok remembered.items := by
  unfold find? at found
  split at found
  · rename_i items isEntry
    cases found
    obtain ⟨before, after, entries_eq, _⟩ := List.lookup_eq_some_iff.mp isEntry
    apply isSound (text, items)
    rw [entries_eq]
    exact List.mem_append_right _ List.mem_cons_self
  · cases found

theorem append {memo : Memo} (isSound : memo.IsSound) {text : String} {items : List Item}
    (parsed : parseItems text = .ok items) :
    IsSound ⟨memo.entries ++ [(text, items)]⟩ := by
  intro entry member
  rcases List.mem_append.mp member with earlier | latest
  · exact isSound entry earlier
  · cases List.mem_singleton.mp latest
    exact parsed

/-- A sound memo answers as parsing does and stays sound. -/
theorem parse {memo : Memo} (isSound : memo.IsSound) (text : String) :
    (memo.parse text).1.map Remembered.items = parseItems text ∧
      (memo.parse text).2.IsSound := by
  unfold Memo.parse
  cases found : memo.find? text with
  | some remembered => exact ⟨(isSound.parseItems_of_find? found).symm, isSound⟩
  | none =>
      cases parsed : parseItems text with
      | ok items => exact ⟨rfl, isSound.append parsed⟩
      | error failure => exact ⟨rfl, isSound⟩

theorem parse_of_error {memo : Memo} (isSound : memo.IsSound) {text : String}
    {failure : Error} (parsed : parseItems text = .error failure) :
    ∃ after, memo.parse text = (.error failure, after) ∧ after.IsSound := by
  obtain ⟨answer_eq, isSoundAfter⟩ := isSound.parse text
  rcases asked : memo.parse text with ⟨found | remembered, after⟩
  · rw [asked, parsed] at answer_eq
    rw [asked] at isSoundAfter
    cases answer_eq
    exact ⟨after, rfl, isSoundAfter⟩
  · rw [asked, parsed] at answer_eq
    cases answer_eq

theorem parse_of_ok {memo : Memo} (isSound : memo.IsSound) {text : String}
    {items : List Item} (parsed : parseItems text = .ok items) :
    ∃ place after, memo.parse text = (.ok ⟨place, items⟩, after) ∧ after.IsSound := by
  obtain ⟨answer_eq, isSoundAfter⟩ := isSound.parse text
  rcases asked : memo.parse text with ⟨found | remembered, after⟩
  · rw [asked, parsed] at answer_eq
    cases answer_eq
  · rw [asked, parsed] at answer_eq
    rw [asked] at isSoundAfter
    cases answer_eq
    exact ⟨remembered.place, after, rfl, isSoundAfter⟩

end IsSound

end Memo

end Layout

end BinaryRecords
