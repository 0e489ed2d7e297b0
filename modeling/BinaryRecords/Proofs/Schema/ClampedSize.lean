import BinaryRecords.Proofs.Schema.Deciding
import BinaryRecords.Proofs.Schema.ExactSize
import Mathlib.Algebra.GroupWithZero.Nat

/-!
# Sizes clamped once

A struct has no size exactly if a terminated string belongs to it or to a struct that it
leads to, however often it is repeated.  Otherwise its size is a sum over its fields, made of
numbers without a bound, and only this sum is clamped, although sizes are clamped wherever
they come up.
-/

namespace BinaryRecords

namespace Item

/-- Whether an item is a string that goes on to a terminator. -/
def IsTerminated (item : Item) : Prop :=
  (item.type = .builtin .string ∨ item.type = .builtin .wideString) ∧ item.length = 0

/-- The number of bytes that one repetition of an item occupies, where the numbers for structs
are given and terminated strings count for nothing. -/
def fixedUnit (structs : String → Nat) (item : Item) : Nat :=
  (item.exactUnit fun name => some (structs name)).getD 0

end Item

/-- The number of bytes that some fields occupy, but for those of terminated strings. -/
def fixedFieldsSize (structs : String → Nat) (fields : List Field) : Nat :=
  (fields.map fun field => field.item.fixedUnit structs * field.item.count.toNat).sum

namespace Schema

/-- The number of bytes that a struct occupies, but for those of terminated strings. -/
def fixedSize (schema : Schema) (name : String) : Nat :=
  (schema.meaning? (fun known => fixedFieldsSize fun inner => (known inner).getD 0) name).getD 0

/-- Whether a terminated string belongs to a struct or to one that it leads to. -/
def LeadsToTerminated (schema : Schema) (name : String) : Prop :=
  ∃ inner fields field, Relation.ReflTransGen schema.Embeds name inner ∧
    schema.fields? inner = some fields ∧ field ∈ fields ∧ field.item.IsTerminated

end Schema

section

variable {sizes : String → Option Nat} {structs : String → Nat} {item : Item}
  {fields : List Field}

theorem Item.exactUnit_eq_none_iff :
    item.exactUnit sizes = none ↔
      item.IsTerminated ∨ ∃ name, item.type = .struct name ∧ sizes name = none := by
  obtain ⟨type, length, count⟩ := item
  cases type with
  | builtin type => cases type <;> simp [exactUnit, IsTerminated]
  | call function => simp [exactUnit, IsTerminated]
  | struct name => simp [exactUnit, IsTerminated]

theorem Item.fixedUnit_eq {unit : Nat} (exact : item.exactUnit sizes = some unit)
    (agree : ∀ name size, item.type = .struct name → sizes name = some size →
      structs name = size) :
    item.fixedUnit structs = unit := by
  have sameUnit : item.exactUnit (fun name => some (structs name)) = item.exactUnit sizes := by
    apply exactUnit_congr
    intro name type_eq
    have known : sizes name = some unit := by simpa only [exactUnit, type_eq] using exact
    rw [known, agree name unit type_eq known]
  rw [fixedUnit, sameUnit, exact, Option.getD_some]

theorem Item.fixedUnit_congr {known other : String → Nat}
    (agree : ∀ name, item.type = .struct name → known name = other name) :
    item.fixedUnit known = item.fixedUnit other := by
  apply congrArg (Option.getD · 0)
  apply exactUnit_congr
  intro name type_eq
  exact congrArg some (agree name type_eq)

theorem exactFieldsSize_eq_none_iff :
    exactFieldsSize sizes fields = none ↔
      ∃ field ∈ fields, field.item.exactUnit sizes = none := by
  induction fields with
  | nil => simp [exactFieldsSize]
  | cons field fields induction =>
      cases unit_eq : field.item.exactUnit sizes with
      | none => simp [exactFieldsSize, Item.exactSize, unit_eq]
      | some unit => simp [exactFieldsSize, Item.exactSize, unit_eq, induction]

theorem fixedFieldsSize_eq {size : Nat} (exact : exactFieldsSize sizes fields = some size)
    (agree : ∀ name ∈ embedded fields, ∀ size, sizes name = some size → structs name = size) :
    fixedFieldsSize structs fields = size := by
  induction fields generalizing size with
  | nil => simpa [exactFieldsSize, fixedFieldsSize] using exact
  | cons field fields induction =>
      obtain ⟨itemSize, item_eq, rest_eq⟩ := Option.bind_eq_some_iff.mp exact
      obtain ⟨unit, unit_eq, rfl⟩ := Option.map_eq_some_iff.mp item_eq
      obtain ⟨others, others_eq, rfl⟩ := Option.map_eq_some_iff.mp rest_eq
      have ofItem : field.item.fixedUnit structs = unit :=
        Item.fixedUnit_eq unit_eq fun name size type_eq =>
          agree name (mem_embedded_cons_of_type type_eq) size
      have ofOthers := induction others_eq fun name embeds => agree name (mem_embedded_cons embeds)
      rw [← ofItem, ← ofOthers]
      rfl

theorem isLocal_fixedFieldsSize :
    IsLocal fun (known : String → Option Nat) =>
      fixedFieldsSize fun inner => (known inner).getD 0 := by
  intro known other fields agree
  apply congrArg List.sum
  apply List.map_congr_left
  intro field member
  have unit_eq := Item.fixedUnit_congr fun name type_eq =>
    congrArg (Option.getD · 0) (agree name (mem_embedded_of_mem member type_eq))
  rw [unit_eq]

end

namespace Schema

variable {schema : Schema} {name : String} {fields : List Field}

theorem fixedSize_of_fields? (layered : Layered schema.structs)
    (found : schema.fields? name = some fields) :
    schema.fixedSize name = fixedFieldsSize schema.fixedSize fields := by
  unfold fixedSize
  rw [meaning?_eq layered isLocal_fixedFieldsSize, found]
  rfl

/-- A struct leads to a terminated string through one of its fields. -/
theorem leadsToTerminated_iff (found : schema.fields? name = some fields) :
    schema.LeadsToTerminated name ↔ ∃ field ∈ fields, field.item.IsTerminated ∨
      ∃ inner, field.item.type = .struct inner ∧ schema.LeadsToTerminated inner := by
  constructor
  · rintro ⟨last, lastFields, terminated, path, foundLast, member, isTerminated⟩
    rcases Relation.ReflTransGen.cases_head path with rfl | ⟨inner, embeds, behind⟩
    · rw [found] at foundLast
      cases foundLast
      exact ⟨terminated, member, .inl isTerminated⟩
    · obtain ⟨outerFields, foundOuter, embeds⟩ := embeds
      rw [found] at foundOuter
      cases foundOuter
      obtain ⟨field, memberField, isStruct⟩ := List.mem_filterMap.mp embeds
      exact ⟨field, memberField, .inr ⟨inner, ItemType.structName?_eq_some_iff.mp isStruct,
        last, lastFields, terminated, behind, foundLast, member, isTerminated⟩⟩
  · rintro ⟨field, member, isTerminated | ⟨inner, type_eq, last, lastFields, terminated, path,
      others⟩⟩
    · exact ⟨name, fields, field, .refl, found, member, isTerminated⟩
    · exact ⟨last, lastFields, terminated,
        .head ⟨fields, found, mem_embedded_of_mem member type_eq⟩ path, others⟩

theorem exactSize?_eq_none_iff (layered : Layered schema.structs)
    (found : schema.fields? name = some fields) :
    schema.exactSize? name = none ↔ schema.LeadsToTerminated name := by
  refine induction_on_embedded layered
    (motive := fun name => schema.exactSize? name = none ↔ schema.LeadsToTerminated name) ?_ found
  intro outer outerFields foundOuter inners
  rw [exactSize?_of_fields? layered foundOuter, leadsToTerminated_iff foundOuter,
    exactFieldsSize_eq_none_iff]
  apply exists_congr
  intro field
  apply and_congr_right
  intro member
  rw [Item.exactUnit_eq_none_iff]
  apply or_congr_right
  apply exists_congr
  intro inner
  apply and_congr_right
  intro type_eq
  exact inners inner (mem_embedded_of_mem member type_eq)

theorem fixedSize_eq (layered : Layered schema.structs)
    (found : schema.fields? name = some fields) {size : Nat}
    (exact : schema.exactSize? name = some size) : schema.fixedSize name = size := by
  refine induction_on_embedded layered (motive := fun name =>
    ∀ size, schema.exactSize? name = some size → schema.fixedSize name = size) ?_ found size exact
  intro outer outerFields foundOuter inners size exactOuter
  rw [exactSize?_of_fields? layered foundOuter] at exactOuter
  rw [fixedSize_of_fields? layered foundOuter]
  exact fixedFieldsSize_eq exactOuter inners

/-- A declared struct has no size exactly if it leads to a terminated string.  Otherwise its
size is the least of the greatest word and of a number that is found without a bound, as the
sum over the fields of what one repetition occupies, as often as it is repeated. -/
theorem sizeOf_is_clamped_once (reachable : schema.Reachable) :
    (∀ name, schema.contains name = true →
      (schema.sizeOf name = .ok none ↔ schema.LeadsToTerminated name) ∧
        (¬ schema.LeadsToTerminated name →
          schema.sizeOf name = .ok (some (min (schema.fixedSize name) (2 ^ 64 - 1))))) ∧
    ∀ name fields, schema.fields? name = some fields →
      schema.fixedSize name =
        (fields.map fun field =>
          field.item.fixedUnit schema.fixedSize * field.item.count.toNat).sum := by
  have layered := reachable.layered
  constructor
  · intro name isDeclared
    obtain ⟨fields, found⟩ := contains_iff.mp isDeclared
    have size_eq := sizeOf_eq_clampWord_exactSize? layered found
    have none_iff := exactSize?_eq_none_iff layered found
    cases exact_eq : schema.exactSize? name with
    | none =>
        have leads := none_iff.mp exact_eq
        rw [exact_eq] at size_eq
        exact ⟨iff_of_true size_eq leads, fun clear => absurd leads clear⟩
    | some size =>
        have clear : ¬ schema.LeadsToTerminated name := by
          rw [← none_iff, exact_eq]
          exact Option.some_ne_none size
        rw [exact_eq, ← fixedSize_eq layered found exact_eq] at size_eq
        refine ⟨iff_of_false ?_ clear, fun _ => size_eq⟩
        rw [size_eq]
        exact nofun
  · intro name fields found
    exact fixedSize_of_fields? layered found

/-- A gap of one byte more than any word holds counts as the greatest word, and for nothing
where it is repeated no times; a line has no size, nor has a page without lines. -/
theorem sizeOf_is_clamped_once_blocks :
    let block : List Field := [⟨⟨.builtin .void, 0x100000000, 0x100000000⟩, none⟩]
    let frame : List Field := [⟨{ type := .struct "block", count := 0 }, some "absent"⟩,
      ⟨{ type := .builtin .wideString, length := 3, count := 2 }, some "tags"⟩]
    let line : List Field := [⟨{ type := .builtin .string }, some "text"⟩]
    let page : List Field := [⟨{ type := .struct "block" }, some "margin"⟩,
      ⟨{ type := .struct "line", count := 0 }, some "lines"⟩]
    let schema : Schema := ⟨[⟨"page", page⟩, ⟨"line", line⟩, ⟨"frame", frame⟩, ⟨"block", block⟩]⟩
    schema.Reachable ∧
      (¬ schema.LeadsToTerminated "block" ∧ schema.fixedSize "block" = 2 ^ 64 ∧
        schema.sizeOf "block" = .ok (some (2 ^ 64 - 1))) ∧
      (¬ schema.LeadsToTerminated "frame" ∧ schema.sizeOf "frame" = .ok (some 12)) ∧
      schema.LeadsToTerminated "page" ∧ schema.sizeOf "page" = .ok none := by
  intro block frame line page schema
  have blockDeclared : empty.declare "block" block = .ok ⟨[⟨"block", block⟩]⟩ :=
    declare_of_embedded_eq_nil rfl
  have reachableBlock := Reachable.of_declare ⟨[], rfl⟩ blockDeclared
  have frameDeclared : Schema.declare ⟨[⟨"block", block⟩]⟩ "frame" frame =
      .ok ⟨[⟨"frame", frame⟩, ⟨"block", block⟩]⟩ :=
    declare_of_new reachableBlock.layered rfl (by decide)
  have reachableFrame := reachableBlock.of_declare frameDeclared
  have lineDeclared : Schema.declare ⟨[⟨"frame", frame⟩, ⟨"block", block⟩]⟩ "line" line =
      .ok ⟨[⟨"line", line⟩, ⟨"frame", frame⟩, ⟨"block", block⟩]⟩ :=
    declare_of_embedded_eq_nil rfl
  have reachableLine := reachableFrame.of_declare lineDeclared
  have pageDeclared : Schema.declare ⟨[⟨"line", line⟩, ⟨"frame", frame⟩, ⟨"block", block⟩]⟩
      "page" page = .ok schema :=
    declare_of_new reachableLine.layered rfl (by decide)
  have reachable := reachableLine.of_declare pageDeclared
  obtain ⟨sizes, sums⟩ := sizeOf_is_clamped_once reachable
  have clearBlock : ¬ schema.LeadsToTerminated "block" := by
    rw [leadsToTerminated_iff (show schema.fields? "block" = some block from rfl)]
    simp [block, Item.IsTerminated]
  have clearFrame : ¬ schema.LeadsToTerminated "frame" := by
    rw [leadsToTerminated_iff (show schema.fields? "frame" = some frame from rfl)]
    simp [frame, Item.IsTerminated, clearBlock]
  have leadsPage : schema.LeadsToTerminated "page" :=
    ⟨"line", line, ⟨{ type := .builtin .string }, some "text"⟩,
      .single ⟨page, rfl, by decide⟩, rfl, List.mem_singleton_self _, .inl rfl, rfl⟩
  have fixedBlock : schema.fixedSize "block" = 2 ^ 64 := by
    rw [sums "block" block rfl]
    simp only [block, Item.fixedUnit, Item.exactUnit, Option.getD_some, List.map_cons,
      List.map_nil, List.sum_cons, List.sum_nil]
    rfl
  have fixedFrame : schema.fixedSize "frame" = 12 := sums "frame" frame rfl
  have sizeBlock := (sizes "block" rfl).2 clearBlock
  have sizeFrame := (sizes "frame" rfl).2 clearFrame
  rw [fixedBlock, Nat.min_eq_right (by decide)] at sizeBlock
  rw [fixedFrame, Nat.min_eq_left (by decide)] at sizeFrame
  exact ⟨reachable, ⟨clearBlock, fixedBlock, sizeBlock⟩, ⟨clearFrame, sizeFrame⟩, leadsPage,
    (sizes "page" rfl).1.mpr leadsPage⟩

end Schema

end BinaryRecords
