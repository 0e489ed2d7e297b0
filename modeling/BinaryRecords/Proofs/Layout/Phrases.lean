import BinaryRecords.Layout.ItemList
import BinaryRecords.Proofs.Outcomes
import Mathlib.Tactic.Common

/-!
# Phrases of a layout

The grammar of items, apart from how they are read.  An item is spelled by the
token of its type, then a length where the type allows one, then a count; what
is left out stands for length zero and for count one.  Items stand one behind
the other without a separator, so it has to be seen that no phrase can be taken
for the beginning of a longer one.
-/

namespace BinaryRecords

namespace Layout

/-- The token that begins an item of a type. -/
def typeToken : ItemType → Token
  | .builtin type => .keyword type
  | .call function => .call function
  | .struct name => .name name

/-- The tokens of a length and of a count, where they are given. -/
def suffixTokens (length? count? : Option UInt64) : List Token :=
  length?.toList.map .length ++ count?.toList.map .count

/-- Whether an item of a type may be given a length or go without one: a gap has to
have one other than zero, a string may have any or none, and nothing else has
one. -/
def LengthFits : ItemType → Option UInt64 → Prop
  | .builtin .void, length? => ∃ length, length? = some length ∧ length ≠ 0
  | .builtin .string, _ | .builtin .wideString, _ => True
  | .builtin (.integer _), length? | .builtin (.float _), length? => length? = none
  | .call _, length? | .struct _, length? => length? = none

/-- Whether some tokens spell an item. -/
inductive ItemPhrase : Item → List Token → Prop
  | spelled {type : ItemType} {length? count? : Option UInt64}
      (fits : LengthFits type length?) :
      ItemPhrase ⟨type, length?.getD 0, count?.getD 1⟩
        (typeToken type :: suffixTokens length? count?)

/-- A struct is spelled by its name alone. -/
theorem itemPhrase_struct (name : String) :
    ItemPhrase { type := .struct name } [.name name] := by
  have fits : LengthFits (.struct name) none := rfl
  exact @ItemPhrase.spelled (.struct name) none none fits

theorem typeBegun?_eq_some_iff {token : Token} {type : ItemType} :
    typeBegun? token = some type ↔ token = typeToken type := by
  cases token <;> cases type <;> simp [typeBegun?, typeToken]

@[simp] theorem typeBegun?_typeToken (type : ItemType) :
    typeBegun? (typeToken type) = some type :=
  typeBegun?_eq_some_iff.mpr rfl

theorem typeToken_injective {first second : ItemType}
    (same : typeToken first = typeToken second) : first = second := by
  have begun := typeBegun?_typeToken first
  rw [same, typeBegun?_typeToken] at begun
  exact (Option.some.inj begun).symm

/-- Whether some tokens begin neither with a length nor with a count. -/
def EndsItem (tokens : List Token) : Prop :=
  ∀ number, tokens.head? ≠ some (.length number) ∧ tokens.head? ≠ some (.count number)

theorem endsItem_nil : EndsItem [] := by
  intro number
  exact ⟨nofun, nofun⟩

theorem endsItem_colon (tokens : List Token) : EndsItem (.colon :: tokens) := by
  intro number
  exact ⟨nofun, nofun⟩

theorem endsItem_typeToken (type : ItemType) (tokens : List Token) :
    EndsItem (typeToken type :: tokens) := by
  intro number
  cases type <;> exact ⟨nofun, nofun⟩

/-- An optional token is told apart from what follows it, if that does not begin
with a token of the same sort. -/
theorem optional_append_inj {mark : UInt64 → Token} (injective : Function.Injective mark)
    {number? other? : Option UInt64} {rest others : List Token}
    (ends : ∀ number, rest.head? ≠ some (mark number))
    (endsOther : ∀ number, others.head? ≠ some (mark number))
    (same : number?.toList.map mark ++ rest = other?.toList.map mark ++ others) :
    number? = other? ∧ rest = others := by
  cases number? with
  | none =>
      cases other? with
      | none => exact ⟨rfl, by simpa using same⟩
      | some other => exact absurd (congrArg List.head? same) (by simpa using ends other)
  | some number =>
      cases other? with
      | none =>
          exact absurd (congrArg List.head? same).symm (by simpa using endsOther number)
      | some other =>
          simp only [Option.toList_some, List.map_cons, List.map_nil, List.cons_append,
            List.nil_append, List.cons.injEq] at same
          exact ⟨congrArg some (injective same.1), same.2⟩

/-- A length and a count are told apart from what follows them. -/
theorem suffixTokens_append_inj {length? count? otherLength? otherCount? : Option UInt64}
    {rest others : List Token} (ends : EndsItem rest) (endsOther : EndsItem others)
    (same : suffixTokens length? count? ++ rest =
      suffixTokens otherLength? otherCount? ++ others) :
    length? = otherLength? ∧ count? = otherCount? ∧ rest = others := by
  have lengthsInjective : Function.Injective Token.length := fun _ _ => Token.length.inj
  have countsInjective : Function.Injective Token.count := fun _ _ => Token.count.inj
  -- Behind the length there is a count, or else what ends the item.
  have noLength : ∀ {count? : Option UInt64} {rest : List Token}, EndsItem rest → ∀ number,
      (count?.toList.map Token.count ++ rest).head? ≠ some (.length number) := by
    intro count? rest ends number
    cases count? with
    | none => exact (ends number).1
    | some count => exact nofun
  simp only [suffixTokens, List.append_assoc] at same
  obtain ⟨sameLength, sameRest⟩ :=
    optional_append_inj lengthsInjective (noLength ends) (noLength endsOther) same
  exact ⟨sameLength, optional_append_inj countsInjective (fun number => (ends number).2)
    (fun number => (endsOther number).2) sameRest⟩

/-- Whether phrases begin with a type and are told apart from all that may stand
behind the end of an item. -/
structure IsSeparable {α : Type} (spells : α → List Token → Prop) : Prop where
  begins : ∀ {result : α} {tokens : List Token}, spells result tokens →
    ∃ type rest, tokens = typeToken type :: rest
  append_inj : ∀ {first second : α} {tokens otherTokens rest others : List Token},
    spells first tokens → spells second otherTokens → EndsItem rest → EndsItem others →
      tokens ++ rest = otherTokens ++ others →
        first = second ∧ tokens = otherTokens ∧ rest = others

theorem isSeparable_itemPhrase : IsSeparable ItemPhrase where
  begins := by
    rintro _ _ ⟨fits⟩
    exact ⟨_, _, rfl⟩
  append_inj := by
    rintro _ _ _ _ rest others ⟨fits⟩ ⟨otherFits⟩ ends endsOther same
    rw [List.cons_append, List.cons_append, List.cons.injEq] at same
    obtain rfl := typeToken_injective same.1
    obtain ⟨rfl, rfl, rfl⟩ := suffixTokens_append_inj ends endsOther same.2
    exact ⟨rfl, rfl, rfl⟩

/-- Whether phrases, each with what it spells, are some tokens one behind the other. -/
structure IsReading {α : Type} (spells : α → List Token → Prop)
    (phrases : List (α × List Token)) (tokens : List Token) : Prop where
  spelled : ∀ phrase ∈ phrases, spells phrase.1 phrase.2
  joined : phrases.flatMap Prod.snd = tokens

namespace IsReading

variable {α : Type} {spells : α → List Token → Prop} {phrases : List (α × List Token)}
  {tokens : List Token}

theorem nil : IsReading spells [] [] :=
  ⟨nofun, rfl⟩

theorem append {more : List (α × List Token)} {moreTokens : List Token}
    (reading : IsReading spells phrases tokens) (others : IsReading spells more moreTokens) :
    IsReading spells (phrases ++ more) (tokens ++ moreTokens) := by
  constructor
  · intro phrase member
    rcases List.mem_append.mp member with before | behind
    · exact reading.spelled phrase before
    · exact others.spelled phrase behind
  · rw [List.flatMap_append, reading.joined, others.joined]

theorem singleton {result : α} (spelled : spells result tokens) :
    IsReading spells [(result, tokens)] tokens := by
  constructor
  · intro phrase member
    cases List.mem_singleton.mp member
    exact spelled
  · simp

theorem tail {phrase : α × List Token} (reading : IsReading spells (phrase :: phrases) tokens) :
    IsReading spells phrases (phrases.flatMap Prod.snd) :=
  ⟨fun other member => reading.spelled other (List.mem_cons_of_mem _ member), rfl⟩

/-- What is spelled by tokens of its own is read from these tokens. -/
theorem of_forall {results : List α} {tokensOf : α → List Token}
    (spelled : ∀ result ∈ results, spells result (tokensOf result)) :
    IsReading spells (results.map fun result => (result, tokensOf result))
      (results.flatMap tokensOf) := by
  constructor
  · intro phrase member
    obtain ⟨result, memberResults, rfl⟩ := List.mem_map.mp member
    exact spelled result memberResults
  · rw [List.flatMap_map]

/-- Behind a phrase there is nothing more, or the type of the next item. -/
theorem endsItem (separable : IsSeparable spells)
    (reading : IsReading spells phrases tokens) : EndsItem tokens := by
  obtain ⟨spelled, rfl⟩ := reading
  cases phrases with
  | nil => exact endsItem_nil
  | cons phrase others =>
      obtain ⟨type, rest, begin_eq⟩ := separable.begins (spelled phrase List.mem_cons_self)
      rw [List.flatMap_cons, begin_eq, List.cons_append]
      exact endsItem_typeToken type _

theorem joined_ne_nil (separable : IsSeparable spells) {phrase : α × List Token}
    (reading : IsReading spells (phrase :: phrases) tokens) : tokens ≠ [] := by
  obtain ⟨spelled, rfl⟩ := reading
  obtain ⟨type, rest, begin_eq⟩ := separable.begins (spelled phrase List.mem_cons_self)
  rw [List.flatMap_cons, begin_eq]
  exact nofun

/-- Tokens have one reading at most. -/
theorem unique (separable : IsSeparable spells) {others : List (α × List Token)}
    (reading : IsReading spells phrases tokens)
    (otherReading : IsReading spells others tokens) : phrases = others := by
  induction phrases generalizing others tokens with
  | nil =>
      cases others with
      | nil => rfl
      | cons other others =>
          exact absurd reading.joined.symm (otherReading.joined_ne_nil separable)
  | cons phrase phrases induction =>
      cases others with
      | nil => exact absurd otherReading.joined.symm (reading.joined_ne_nil separable)
      | cons other others =>
          have same := reading.joined.trans otherReading.joined.symm
          rw [List.flatMap_cons, List.flatMap_cons] at same
          obtain ⟨sameResult, sameTokens, sameRest⟩ := separable.append_inj
            (reading.spelled phrase List.mem_cons_self)
            (otherReading.spelled other List.mem_cons_self)
            (reading.tail.endsItem separable) (otherReading.tail.endsItem separable) same
          have otherTail := otherReading.tail
          rw [← sameRest] at otherTail
          rw [Prod.ext sameResult sameTokens, induction reading.tail otherTail]

end IsReading

/-- How far an item has been read after a length and a count, where they are given. -/
def stageAfter : (length? count? : Option UInt64) → Stage
  | _, some _ => .counted
  | some _, none => .measured
  | none, none => .typed

theorem stageAfter_eq_typed_iff {length? count? : Option UInt64} :
    stageAfter length? count? = .typed ↔ length? = none ∧ count? = none := by
  cases length? <;> cases count? <;> simp [stageAfter]

theorem stageAfter_eq_typed_or_measured_iff {length? count? : Option UInt64} :
    stageAfter length? count? = .typed ∨ stageAfter length? count? = .measured ↔
      count? = none := by
  cases length? <;> cases count? <;> simp [stageAfter]

/-- Whether some tokens are what has been read of an item so far. -/
inductive PendingPhrase : Pending → List Token → Prop
  | spelled {type : ItemType} {length? count? : Option UInt64}
      (allowed : length?.isSome → type.takesLength = true) :
      PendingPhrase ⟨⟨type, length?.getD 0, count?.getD 1⟩, stageAfter length? count?⟩
        (typeToken type :: suffixTokens length? count?)

theorem lengthFits_iff {type : ItemType} {length? : Option UInt64} :
    LengthFits type length? ↔ (length?.isSome → type.takesLength = true) ∧
      ¬ (type = .builtin .void ∧ length?.getD 0 = 0) := by
  cases type with
  | builtin type =>
      cases type with
      | void => cases length? <;> simp [LengthFits, ItemType.takesLength, BuiltinType.takesLength]
      | string | wideString => simp [LengthFits, ItemType.takesLength, BuiltinType.takesLength]
      | integer type | float type =>
          cases length? <;> simp [LengthFits, ItemType.takesLength, BuiltinType.takesLength]
  | call function | struct name => cases length? <;> simp [LengthFits, ItemType.takesLength]

/-- What each step keeps is kept by a run, if it is kept for all tokens that are read. -/
theorem foldlM_of_step {Progress : Type} {step : Progress → Token → Except Error Progress}
    {hasRead : Progress → List Token → Prop} {allowed : Token → Prop}
    (kept : ∀ {progress next tokens token}, hasRead progress tokens → allowed token →
      step progress token = .ok next → hasRead next (tokens ++ [token]))
    {progress next : Progress} {tokens more : List Token} (start : hasRead progress tokens)
    (allAllowed : ∀ token ∈ more, allowed token)
    (run : more.foldlM step progress = .ok next) : hasRead next (tokens ++ more) := by
  induction more generalizing progress tokens with
  | nil =>
      cases run
      rwa [List.append_nil]
  | cons token more induction =>
      rw [List.foldlM_cons] at run
      obtain ⟨middle, stepped, runRest⟩ := exceptBind_eq_ok_iff.mp run
      have afterToken := kept start (allAllowed token List.mem_cons_self) stepped
      rw [List.append_cons]
      exact induction afterToken
        (fun other member => allAllowed other (List.mem_cons_of_mem _ member)) runRest

theorem Pending.close_eq_ok_iff {pending : Pending} {item : Item} :
    pending.close = .ok item ↔
      ¬ (pending.item.type = .builtin .void ∧ pending.item.length = 0) ∧ pending.item = item := by
  unfold close
  split
  · rename_i emptyGap
    rw [Item.isVoid_eq_true_iff] at emptyGap
    simp [emptyGap]
  · rename_i notEmptyGap
    rw [Item.isVoid_eq_true_iff] at notEmptyGap
    simp [notEmptyGap]

theorem Pending.extend?_naming (item : Item) (token : Token) :
    extend? ⟨item, .naming⟩ token = none := by
  cases token <;> simp [extend?, withLength?, withCount?]

namespace PendingPhrase

theorem begin (type : ItemType) : PendingPhrase (Pending.begin type) [typeToken type] :=
  @spelled type none none nofun

theorem stage_ne_naming {pending : Pending} {tokens : List Token}
    (phrase : PendingPhrase pending tokens) : pending.stage ≠ .naming := by
  obtain @⟨type, length?, count?, _⟩ := phrase
  cases length? <;> cases count? <;> exact nofun

/-- An item that ends is spelled by the tokens read for it. -/
theorem itemPhrase {pending : Pending} {tokens : List Token} {item : Item}
    (phrase : PendingPhrase pending tokens) (closed : pending.close = .ok item) :
    ItemPhrase item tokens := by
  obtain ⟨allowed⟩ := phrase
  obtain ⟨notEmptyGap, rfl⟩ := Pending.close_eq_ok_iff.mp closed
  exact .spelled (lengthFits_iff.mpr ⟨allowed, notEmptyGap⟩)

theorem extend {pending next : Pending} {tokens : List Token} {token : Token}
    (phrase : PendingPhrase pending tokens) (extended : pending.extend? token = some next) :
    PendingPhrase next (tokens ++ [token]) := by
  obtain @⟨type, length?, count?, allowed⟩ := phrase
  cases token with
  | length length =>
      simp only [Pending.extend?, Pending.withLength?, stageAfter_eq_typed_iff,
        Option.ite_none_right_eq_some, Option.some.injEq] at extended
      obtain ⟨⟨⟨rfl, rfl⟩, takes⟩, rfl⟩ := extended
      exact @spelled type (some length) none fun _ => takes
  | count count =>
      simp only [Pending.extend?, Pending.withCount?, stageAfter_eq_typed_or_measured_iff,
        Option.ite_none_right_eq_some, Option.some.injEq] at extended
      obtain ⟨rfl, rfl⟩ := extended
      have phrase := @spelled type length? (some count) allowed
      simpa [suffixTokens, stageAfter] using phrase
  | keyword type | name text | call function | colon => cases extended

end PendingPhrase

/-- All that may follow a type is added to the item. -/
theorem foldlM_extend?_suffixTokens {type : ItemType} {length? count? : Option UInt64}
    (allowed : length?.isSome → type.takesLength = true) :
    (suffixTokens length? count?).foldlM Pending.extend? (Pending.begin type) =
      some ⟨⟨type, length?.getD 0, count?.getD 1⟩, stageAfter length? count?⟩ := by
  cases length? with
  | none => cases count? <;> rfl
  | some length =>
      have measured : (Pending.begin type).withLength? length =
          some ⟨⟨type, length, 1⟩, .measured⟩ := if_pos ⟨rfl, allowed rfl⟩
      cases count? with
      | none => simp [suffixTokens, Pending.extend?, measured, stageAfter]
      | some count =>
          simp [suffixTokens, Pending.extend?, measured, Pending.withCount?, stageAfter]

/-- Behind its type, all that spells an item is added to it, until it may end. -/
theorem ItemPhrase.exists_run {item : Item} {tokens : List Token}
    (phrase : ItemPhrase item tokens) :
    ∃ stage suffix, tokens = typeToken item.type :: suffix ∧ stage ≠ .naming ∧
      suffix.foldlM Pending.extend? (Pending.begin item.type) = some ⟨item, stage⟩ ∧
        Pending.close ⟨item, stage⟩ = .ok item := by
  obtain @⟨type, length?, count?, fits⟩ := phrase
  obtain ⟨allowed, notEmptyGap⟩ := lengthFits_iff.mp fits
  have notNaming := (@PendingPhrase.spelled type length? count? allowed).stage_ne_naming
  exact ⟨stageAfter length? count?, suffixTokens length? count?, rfl, notNaming,
    foldlM_extend?_suffixTokens allowed, Pending.close_eq_ok_iff.mpr ⟨notEmptyGap, rfl⟩⟩

/-- Tokens that add to an item are read by any reader that takes them so one by one. -/
theorem foldlM_of_extend? {Progress : Type} {step : Progress → Token → Except Error Progress}
    {resume : Pending → Progress}
    (steps : ∀ {pending extended : Pending} {token : Token},
      pending.extend? token = some extended → step (resume pending) token = .ok (resume extended))
    {pending extended : Pending} {tokens : List Token}
    (run : tokens.foldlM Pending.extend? pending = some extended) :
    tokens.foldlM step (resume pending) = .ok (resume extended) := by
  induction tokens generalizing pending with
  | nil =>
      cases run
      rfl
  | cons token tokens induction =>
      rw [List.foldlM_cons] at run ⊢
      obtain ⟨middle, isExtended, runRest⟩ := Option.bind_eq_some_iff.mp run
      rw [steps isExtended]
      exact induction runRest

end Layout

end BinaryRecords
