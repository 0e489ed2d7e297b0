import BinaryRecords.Proofs.Schema.Reachable
import BinaryRecords.Schema.Size
import Mathlib.Tactic.Common

/-!
# Exact sizes

The size of a struct is a number of 64 bits, clamped wherever it would be greater.
Computed without a bound, sizes add and multiply as they should, and clamping the
result once gives the same.
-/

namespace BinaryRecords

/-- The number of bytes that one repetition of an item occupies, if it is the same
for all. -/
def Item.exactUnit (sizes : String → Option Nat) (item : Item) : Option Nat :=
  match item.type with
  | .builtin (.integer type) => some type.width
  | .builtin (.float type) => some type.width
  | .builtin .string => if item.length = 0 then none else some item.length.toNat
  | .builtin .wideString => if item.length = 0 then none else some (2 * item.length.toNat)
  | .builtin .void => some item.length.toNat
  | .call _ => some 0
  | .struct name => sizes name

/-- The number of bytes that all repetitions of an item occupy. -/
def Item.exactSize (sizes : String → Option Nat) (item : Item) : Option Nat :=
  (item.exactUnit sizes).map fun unit => unit * item.count.toNat

/-- The number of bytes that some fields occupy. -/
def exactFieldsSize (sizes : String → Option Nat) : List Field → Option Nat
  | [] => some 0
  | field :: fields =>
      (field.item.exactSize sizes).bind fun size =>
        (exactFieldsSize sizes fields).map fun others => size + others

/-- The number of bytes that every instance of a struct occupies. -/
def Schema.exactSize? (schema : Schema) (name : String) : Option Nat :=
  (schema.meaning? (fun sizes => exactFieldsSize fun inner => (sizes inner).join) name).join

theorem clampWord_clampWord_add (first second : Nat) :
    clampWord (clampWord first + clampWord second) = clampWord (first + second) := by
  unfold clampWord
  omega

theorem clampWord_clampWord_mul (unit count : Nat) :
    clampWord (clampWord unit * count) = clampWord (unit * count) := by
  rcases Nat.le_total unit largestWord with fits | exceeds
  · rw [clampWord, clampWord, Nat.min_eq_left fits]
    rfl
  · rcases Nat.eq_zero_or_pos count with rfl | positive
    · simp
    · have clampedExceeds : largestWord ≤ largestWord * count :=
        Nat.le_mul_of_pos_right _ positive
      have unitExceeds : largestWord ≤ unit * count :=
        Nat.le_trans exceeds (Nat.le_mul_of_pos_right _ positive)
      simp only [clampWord, Nat.min_eq_right exceeds, Nat.min_eq_right clampedExceeds,
        Nat.min_eq_right unitExceeds]

theorem clampWord_of_le {number : Nat} (fits : number ≤ largestWord) :
    clampWord number = number :=
  Nat.min_eq_left fits

theorem clampWord_toNat (word : UInt64) : clampWord word.toNat = word.toNat := by
  have bound := word.toNat_lt
  apply clampWord_of_le
  unfold largestWord
  omega

theorem Item.exactUnit_congr {known other : String → Option Nat} {item : Item}
    (agree : ∀ name, item.type = .struct name → known name = other name) :
    item.exactUnit known = item.exactUnit other := by
  obtain ⟨type, length, count⟩ := item
  cases type with
  | builtin type => cases type <;> rfl
  | call function => rfl
  | struct name => exact agree name rfl

theorem isLocal_exactFieldsSize :
    IsLocal fun (sizes : String → Option (Option Nat)) =>
      exactFieldsSize fun inner => (sizes inner).join := by
  intro known other fields agree
  induction fields with
  | nil => rfl
  | cons field fields induction =>
      have sameUnit : field.item.exactUnit (fun inner => (known inner).join) =
          field.item.exactUnit fun inner => (other inner).join :=
        Item.exactUnit_congr fun name type_eq =>
          congrArg Option.join (agree name (mem_embedded_cons_of_type type_eq))
      have sameOthers := induction fun inner embeds => agree inner (mem_embedded_cons embeds)
      simp only [exactFieldsSize, Item.exactSize, sameUnit, sameOthers]

theorem Item.size_congr {known other : String → Option (Except Error (Option Nat))}
    {item : Item} (agree : ∀ name, item.type = .struct name → known name = other name) :
    item.size known = item.size other := by
  have sameUnit : item.unitSize known = item.unitSize other := by
    obtain ⟨type, length, count⟩ := item
    cases type with
    | builtin type => cases type <;> rfl
    | call function => rfl
    | struct name => simp only [Item.unitSize, knownSize, agree name rfl]
  simp only [Item.size, sameUnit]

theorem isLocal_fieldsSize (total : Nat) :
    IsLocal fun sizes fields => fieldsSize sizes total fields := by
  intro known other fields agree
  induction fields generalizing total with
  | nil => rfl
  | cons field fields induction =>
      have sameItem : field.item.size known = field.item.size other :=
        Item.size_congr fun name type_eq => agree name (mem_embedded_cons_of_type type_eq)
      have sameOthers := fun start => induction start fun inner embeds =>
        agree inner (mem_embedded_cons embeds)
      simp only [fieldsSize, sameItem]
      split
      · exact sameOthers _
      · rfl
      · rfl

/-- An item whose struct has the clamped exact size has the clamped exact size. -/
theorem Item.size_eq_clampWord_exactSize
    {sizes : String → Option (Except Error (Option Nat))} {full : String → Option Nat}
    {item : Item} (agree : ∀ name, item.type = .struct name →
      knownSize sizes name = .ok ((full name).map clampWord)) :
    item.size sizes = .ok ((item.exactSize full).map clampWord) := by
  have clampedUnit : item.unitSize sizes = .ok ((item.exactUnit full).map clampWord) := by
    obtain ⟨type, length, count⟩ := item
    cases type with
    | builtin type =>
        cases type with
        | integer type => cases type <;> rfl
        | float type => cases type <;> rfl
        | string =>
            by_cases terminated : length = 0 <;>
              simp [Item.unitSize, Item.exactUnit, terminated, clampWord_toNat]
        | wideString =>
            by_cases terminated : length = 0 <;>
              simp [Item.unitSize, Item.exactUnit, terminated]
        | void => simp [Item.unitSize, Item.exactUnit, clampWord_toNat]
    | call function => rfl
    | struct name => exact agree name rfl
  unfold Item.size Item.exactSize
  rw [clampedUnit]
  cases item.exactUnit full with
  | none => rfl
  | some unit => simp [Except.map, clampWord_clampWord_mul]

theorem fieldsSize_eq_clampWord_exactFieldsSize
    {sizes : String → Option (Except Error (Option Nat))} {full : String → Option Nat}
    {fields : List Field} (agree : ∀ name ∈ embedded fields,
      knownSize sizes name = .ok ((full name).map clampWord)) (total : Nat) :
    fieldsSize sizes (clampWord total) fields =
      .ok ((exactFieldsSize full fields).map fun size => clampWord (total + size)) := by
  induction fields generalizing total with
  | nil => simp [fieldsSize, exactFieldsSize]
  | cons field fields induction =>
      have itemSize : field.item.size sizes = .ok ((field.item.exactSize full).map clampWord) :=
        Item.size_eq_clampWord_exactSize fun name type_eq =>
          agree name (mem_embedded_cons_of_type type_eq)
      have others := induction fun name embeds => agree name (mem_embedded_cons embeds)
      simp only [fieldsSize, exactFieldsSize, itemSize]
      cases field.item.exactSize full with
      | none => rfl
      | some size =>
          simp only [Option.map_some, Option.bind_some, clampWord_clampWord_add, others]
          cases exactFieldsSize full fields with
          | none => rfl
          | some rest => simp [Nat.add_assoc]

namespace Schema

theorem exactSize?_of_fields? {schema : Schema} (layered : Layered schema.structs)
    {name : String} {fields : List Field} (found : schema.fields? name = some fields) :
    schema.exactSize? name = exactFieldsSize schema.exactSize? fields := by
  unfold exactSize?
  rw [meaning?_eq layered isLocal_exactFieldsSize, found]
  rfl

/-- The size of a declared struct is its exact size, clamped once. -/
theorem sizeOf_eq_clampWord_exactSize? {schema : Schema} (layered : Layered schema.structs)
    {name : String} {fields : List Field} (found : schema.fields? name = some fields) :
    schema.sizeOf name = .ok ((schema.exactSize? name).map clampWord) := by
  refine induction_on_embedded layered
    (motive := fun name => schema.sizeOf name = .ok ((schema.exactSize? name).map clampWord))
    ?_ found
  intro outer outerFields foundOuter agree
  have unfolded : schema.sizeOf outer = fieldsSize
      (schema.meaning? fun sizes fields => fieldsSize sizes 0 fields) 0 outerFields := by
    unfold sizeOf knownSize
    rw [meaning?_eq layered (isLocal_fieldsSize 0), foundOuter]
    rfl
  have clamped := fieldsSize_eq_clampWord_exactFieldsSize agree 0
  rw [unfolded, exactSize?_of_fields? layered foundOuter]
  have zeroFits : clampWord 0 = 0 := clampWord_of_le (Nat.zero_le _)
  simpa only [zeroFits, Nat.zero_add] using clamped

end Schema

end BinaryRecords
