import BinaryRecords.Proofs.Source.Passing
import BinaryRecords.Source.Cursor
import Mathlib.Data.List.TakeWhile
import Mathlib.Tactic.Common

/-!
# Strings and their bytes

Each way to read a string is described by the bytes that it passes over: a
terminated string by its text and the first terminator behind it, a string of a
fixed length by any bytes of that length.  The text of a wide string is a list
of units.
-/

namespace BinaryRecords

/-- A unit of a wide string, its first byte first. -/
abbrev WideUnit := UInt8 × UInt8

/-- The bytes of some units. -/
def unitBytes (units : List WideUnit) : List UInt8 :=
  units.flatMap fun unit => [unit.1, unit.2]

@[simp] theorem unitBytes_nil : unitBytes [] = [] := rfl

@[simp] theorem unitBytes_cons (unit : WideUnit) (units : List WideUnit) :
    unitBytes (unit :: units) = unit.1 :: unit.2 :: unitBytes units := rfl

@[simp] theorem length_unitBytes (units : List WideUnit) :
    (unitBytes units).length = 2 * units.length := by
  induction units with
  | nil => rfl
  | cons unit units induction =>
      simp only [unitBytes_cons, List.length_cons, induction]
      omega

theorem zero_notMem_beforeZero (bytes : List UInt8) : 0 ∉ beforeZero bytes := by
  intro member
  simpa using List.mem_takeWhile_imp member

theorem bne_zero_of_mem {text : List UInt8} (noZero : 0 ∉ text) :
    ∀ byte ∈ text, (byte != 0) = true := by
  intro byte member
  rw [bne_iff_ne]
  rintro rfl
  exact noZero member

theorem beforeZero_of_notMem {text : List UInt8} (noZero : 0 ∉ text) :
    beforeZero text = text :=
  List.takeWhile_eq_self_iff.mpr (bne_zero_of_mem noZero)

theorem beforeZero_append_zero {text rest : List UInt8} (noZero : 0 ∉ text) :
    beforeZero (text ++ 0 :: rest) = text := by
  rw [beforeZero, List.takeWhile_append_of_pos (bne_zero_of_mem noZero),
    List.takeWhile_cons_of_neg (by simp), List.append_nil]

theorem beforeZero_append_replicate {text : List UInt8} (noZero : 0 ∉ text) (count : Nat) :
    beforeZero (text ++ List.replicate count 0) = text := by
  cases count with
  | zero => rw [List.replicate_zero, List.append_nil, beforeZero_of_notMem noZero]
  | succ count => exact beforeZero_append_zero noZero

theorem dropWhile_append_zero {text rest : List UInt8} (noZero : 0 ∉ text) :
    (text ++ 0 :: rest).dropWhile (· != 0) = 0 :: rest := by
  rw [List.dropWhile_append_of_pos (bne_zero_of_mem noZero),
    List.dropWhile_cons_of_neg (by simp)]

theorem eq_append_zero_of_dropWhile {bytes after : List UInt8} {first : UInt8}
    (found : bytes.dropWhile (· != 0) = first :: after) :
    bytes = beforeZero bytes ++ 0 :: after := by
  have isZero : first = 0 := by
    have notEmpty : bytes.dropWhile (· != 0) ≠ [] := by simp [found]
    have notPassed := List.head_dropWhile_not (· != (0 : UInt8)) notEmpty
    simpa [found] using notPassed
  have split := List.takeWhile_append_dropWhile (p := (· != (0 : UInt8))) (l := bytes)
  rw [found, isZero] at split
  exact split.symm

theorem zeroUnitFrom_unitBytes {units : List WideUnit} (noZero : ((0, 0) : WideUnit) ∉ units)
    (offset : Nat) (rest : List UInt8) :
    zeroUnitFrom offset (unitBytes units ++ 0 :: 0 :: rest) =
      some (offset + 2 * units.length) := by
  induction units generalizing offset with
  | nil => simp [zeroUnitFrom]
  | cons unit units induction =>
      obtain ⟨low, high⟩ := unit
      have isUnit : ¬ (low = 0 ∧ high = 0) := by
        rintro ⟨rfl, rfl⟩
        exact noZero List.mem_cons_self
      have others := induction (fun member => noZero (List.mem_cons_of_mem _ member)) (offset + 2)
      simp only [unitBytes_cons, List.cons_append, zeroUnitFrom, if_neg isUnit, others,
        List.length_cons]
      congr 1
      omega

theorem zeroUnitFrom_unitBytes_eq_none {units : List WideUnit}
    (noZero : ((0, 0) : WideUnit) ∉ units) (offset : Nat) :
    zeroUnitFrom offset (unitBytes units) = none := by
  induction units generalizing offset with
  | nil => rfl
  | cons unit units induction =>
      obtain ⟨low, high⟩ := unit
      have isUnit : ¬ (low = 0 ∧ high = 0) := by
        rintro ⟨rfl, rfl⟩
        exact noZero List.mem_cons_self
      simp only [unitBytes_cons, zeroUnitFrom, if_neg isUnit]
      exact induction (fun member => noZero (List.mem_cons_of_mem _ member)) (offset + 2)

/-- Zero units behind a text do not belong to it. -/
theorem beforeZeroUnit_append_replicate {units : List WideUnit}
    (noZero : ((0, 0) : WideUnit) ∉ units) (count : Nat) :
    beforeZeroUnit (unitBytes units ++ List.replicate (2 * count) 0) = unitBytes units := by
  unfold beforeZeroUnit zeroUnit?
  cases count with
  | zero =>
      rw [Nat.mul_zero, List.replicate_zero, List.append_nil,
        zeroUnitFrom_unitBytes_eq_none noZero]
  | succ count =>
      have padding : List.replicate (2 * (count + 1)) (0 : UInt8) =
          0 :: 0 :: List.replicate (2 * count) 0 := rfl
      rw [padding, zeroUnitFrom_unitBytes noZero, Nat.zero_add]
      exact List.take_left' (length_unitBytes units)

/-- Whether a wide string does not begin like a byte order mark. -/
def IsUnmarked (units : List WideUnit) : Prop :=
  ∀ unit ∈ units.head?, unit.1 ≠ 0xFF ∧ unit.1 ≠ 0xFE

theorem orderMarkLength_unitBytes_append {units : List WideUnit} (unmarked : IsUnmarked units)
    (count : Nat) : orderMarkLength (unitBytes units ++ List.replicate count 0) = 0 := by
  cases units with
  | nil =>
      match count with
      | 0 => rfl
      | 1 => rfl
      | count + 2 => rfl
  | cons unit units =>
      have isText := unmarked unit rfl
      simp [orderMarkLength, isText.1, isText.2]

theorem exists_units_of_zeroUnitFrom {bytes : List UInt8} {offset found : Nat}
    (isFound : zeroUnitFrom offset bytes = some found) :
    ∃ units rest, ((0, 0) : WideUnit) ∉ units ∧ bytes = unitBytes units ++ 0 :: 0 :: rest ∧
      found = offset + 2 * units.length := by
  fun_induction zeroUnitFrom offset bytes with
  | case1 offset low high rest isZero =>
      cases isFound
      exact ⟨[], rest, by simp, by simp [isZero.1, isZero.2], rfl⟩
  | case2 offset low high rest isUnit induction =>
      obtain ⟨units, others, noZero, rfl, rfl⟩ := induction isFound
      refine ⟨(low, high) :: units, others, ?_, rfl, ?_⟩
      · intro member
        rcases List.mem_cons.mp member with same | memberUnits
        · cases same
          exact isUnit ⟨rfl, rfl⟩
        · exact noZero memberUnits
      · simp only [List.length_cons]
        omega
  | case3 => cases isFound

theorem exists_units_of_zeroUnitFrom_eq_none {bytes : List UInt8} {offset : Nat}
    (even : bytes.length % 2 = 0) (isNone : zeroUnitFrom offset bytes = none) :
    ∃ units, ((0, 0) : WideUnit) ∉ units ∧ bytes = unitBytes units := by
  fun_induction zeroUnitFrom offset bytes with
  | case1 => cases isNone
  | case2 offset low high rest isUnit induction =>
      simp only [List.length_cons] at even
      obtain ⟨units, noZero, rfl⟩ := induction (by omega) isNone
      refine ⟨(low, high) :: units, ?_, rfl⟩
      intro member
      rcases List.mem_cons.mp member with same | memberUnits
      · cases same
        exact isUnit ⟨rfl, rfl⟩
      · exact noZero memberUnits
  | case3 bytes offset noUnit =>
      match bytes, even, noUnit with
      | [], _, _ => exact ⟨[], by simp, rfl⟩
      | low :: high :: rest, _, noUnit => exact absurd rfl (noUnit low high rest)

/-- Of whole units those before the first zero unit are left. -/
theorem exists_units_of_beforeZeroUnit {bytes : List UInt8} (even : bytes.length % 2 = 0) :
    ∃ units, ((0, 0) : WideUnit) ∉ units ∧ beforeZeroUnit bytes = unitBytes units ∧
      (unitBytes units).length ≤ bytes.length := by
  unfold beforeZeroUnit
  cases found : zeroUnit? bytes with
  | none =>
      obtain ⟨units, noZero, rfl⟩ := exists_units_of_zeroUnitFrom_eq_none even found
      exact ⟨units, noZero, rfl, Nat.le_refl _⟩
  | some offset =>
      obtain ⟨units, rest, noZero, rfl, rfl⟩ := exists_units_of_zeroUnitFrom found
      refine ⟨units, noZero, ?_, ?_⟩
      · simp only [Nat.zero_add, ← length_unitBytes, List.take_left]
      · simp only [List.length_append, Nat.le_add_right]

theorem even_orderMarkLength (bytes : List UInt8) : orderMarkLength bytes % 2 = 0 := by
  unfold orderMarkLength
  split
  · split <;> rfl
  · rfl

theorem orderMarkLength_append {bytes : List UInt8} (rest : List UInt8)
    (twoBytes : 2 ≤ bytes.length) : orderMarkLength (bytes ++ rest) = orderMarkLength bytes := by
  match bytes, twoBytes with
  | first :: second :: others, _ => rfl

theorem orderMarkLength_le (bytes : List UInt8) : orderMarkLength bytes ≤ bytes.length := by
  unfold orderMarkLength
  split
  · simp only [List.length_cons]
    split <;> omega
  · omega

/-- Where a wide string ends, it stands between its byte order mark and its terminator. -/
theorem exists_mark_of_zeroUnit? {bytes : List UInt8} {offset : Nat}
    (found : zeroUnit? (bytes.drop (orderMarkLength bytes)) = some offset) :
    ∃ mark units rest, bytes = (mark ++ unitBytes units ++ [0, 0]) ++ rest ∧
      mark.length = orderMarkLength (mark ++ unitBytes units ++ [0, 0]) ∧
        ((0, 0) : WideUnit) ∉ units ∧ mark.length = orderMarkLength bytes ∧
          offset = (unitBytes units).length := by
  obtain ⟨units, rest, noZero, text_eq, offset_eq⟩ := exists_units_of_zeroUnitFrom found
  have fits := orderMarkLength_le bytes
  have length_mark : (bytes.take (orderMarkLength bytes)).length = orderMarkLength bytes := by
    rw [List.length_take, Nat.min_eq_left fits]
  have bytes_eq : bytes =
      (bytes.take (orderMarkLength bytes) ++ unitBytes units ++ [0, 0]) ++ rest := by
    rw [List.append_assoc, List.append_assoc]
    exact (List.take_append_drop _ bytes).symm.trans (congrArg _ text_eq)
  have twoBytes :
      2 ≤ (bytes.take (orderMarkLength bytes) ++ unitBytes units ++ [0, 0]).length := by
    rw [List.length_append]
    exact Nat.le_add_left 2 _
  have isMark := orderMarkLength_append rest twoBytes
  rw [← bytes_eq] at isMark
  refine ⟨_, units, rest, bytes_eq, length_mark.trans isMark, noZero, length_mark, ?_⟩
  rw [offset_eq, Nat.zero_add, length_unitBytes]

namespace Cursor

/-- A terminated string is read exactly from its text, free of zero bytes, and a
zero byte. -/
theorem readTerminated_eq_ok_iff {cursor after : Cursor} {text : List UInt8} :
    cursor.readTerminated = .ok (text, after) ↔
      0 ∉ text ∧ cursor.Passes (text ++ [0]) after := by
  constructor
  · intro success
    unfold readTerminated at success
    split at success
    · cases success
    · rename_i first rest found
      cases success
      refine ⟨zero_notMem_beforeZero _, ?_, ?_⟩
      · rw [List.append_assoc, List.singleton_append]
        exact eq_append_zero_of_dropWhile found
      · simp only [List.length_append, List.length_singleton]
        omega
  · rintro ⟨noZero, passes⟩
    have rest_eq : cursor.rest = text ++ 0 :: after.rest := by
      rw [passes.rest_eq, List.append_assoc, List.singleton_append]
    have position_eq := passes.position_eq
    unfold readTerminated
    rw [rest_eq, beforeZero_append_zero noZero, dropWhile_append_zero noZero]
    simp only [List.length_append, List.length_singleton] at position_eq
    cases after
    simp_all [Nat.add_assoc]

theorem readString_fixed_eq_ok_iff {cursor after : Cursor} {length : Nat} {text : List UInt8}
    (length_ne : length ≠ 0) :
    cursor.readString length = .ok (text, after) ↔
      ∃ bytes, bytes.length = length ∧ text = beforeZero bytes ∧ cursor.Passes bytes after := by
  rw [readString, if_neg length_ne]
  exact map_readBytes_eq_ok_iff beforeZero

/-- A terminated wide string is read exactly from an optional byte order mark, the
units of its text and a zero unit. -/
theorem readWideTerminated_eq_ok_iff {cursor after : Cursor} {text : List UInt8} :
    cursor.readWideTerminated = .ok (text, after) ↔
      ∃ mark units, mark.length = orderMarkLength (mark ++ unitBytes units ++ [0, 0]) ∧
        ((0, 0) : WideUnit) ∉ units ∧ text = unitBytes units ∧
          cursor.Passes (mark ++ unitBytes units ++ [0, 0]) after := by
  constructor
  · intro success
    unfold readWideTerminated at success
    simp only at success
    split at success
    · cases success
    · rename_i offset found
      cases success
      obtain ⟨mark, units, rest, rest_eq, isMark, noZero, length_mark, rfl⟩ :=
        exists_mark_of_zeroUnit? found
      have passes := passes_of_rest_eq rest_eq
      rw [List.length_append, List.length_append, length_mark] at passes
      have text_eq : cursor.rest.drop (orderMarkLength cursor.rest) =
          unitBytes units ++ ([0, 0] ++ rest) := by
        rw [← length_mark, rest_eq, List.append_assoc, List.append_assoc, List.drop_left]
      exact ⟨mark, units, isMark, noZero, by rw [text_eq, List.take_left], passes⟩
  · rintro ⟨mark, units, isMark, noZero, rfl, passes⟩
    have twoBytes : 2 ≤ (mark ++ unitBytes units ++ [0, 0]).length := by
      simp only [List.length_append, List.length_cons, List.length_nil]
      omega
    have markLength : orderMarkLength cursor.rest = mark.length := by
      rw [passes.rest_eq, orderMarkLength_append _ twoBytes, isMark]
    have text_eq : cursor.rest.drop mark.length = unitBytes units ++ 0 :: 0 :: after.rest := by
      rw [passes.rest_eq, List.append_assoc, List.append_assoc, List.drop_left']
      · rfl
      · rfl
    have found : zeroUnit? (unitBytes units ++ 0 :: 0 :: after.rest) = some (2 * units.length) := by
      rw [zeroUnit?, zeroUnitFrom_unitBytes noZero, Nat.zero_add]
    have after_eq := passes.eq_advance
    simp only [List.length_append, List.length_cons, List.length_nil, length_unitBytes] at after_eq
    unfold readWideTerminated
    simp only [markLength, text_eq, found]
    rw [List.take_left' (length_unitBytes units), after_eq]

theorem readWideString_fixed_eq_ok_iff {cursor after : Cursor} {length : Nat}
    {text : List UInt8} (length_ne : length ≠ 0) :
    cursor.readWideString length = .ok (text, after) ↔
      2 * length ≤ largestWord ∧ ∃ bytes, bytes.length = 2 * length ∧
        text = beforeZeroUnit (bytes.drop (orderMarkLength bytes)) ∧
          cursor.Passes bytes after := by
  rw [readWideString, if_neg length_ne]
  split
  · rename_i exceeds
    constructor
    · intro success
      cases success
    · rintro ⟨bounded, _⟩
      omega
  · rename_i bounded
    rw [and_iff_right (Nat.le_of_not_lt bounded)]
    exact map_readBytes_eq_ok_iff fun bytes => beforeZeroUnit (bytes.drop (orderMarkLength bytes))

end Cursor

end BinaryRecords
