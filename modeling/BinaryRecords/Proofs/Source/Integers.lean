import BinaryRecords.Proofs.Source.Passing
import BinaryRecords.Source.Cursor
import Mathlib.Algebra.Group.Nat.Defs
import Mathlib.Tactic.Common

/-!
# Integers and their bytes

Within the range of its type an integer has one form of bytes, lowest first and
in two's complement.  Reading an integer inverts it.
-/

namespace BinaryRecords

/-- The lowest bytes of a number, the lowest first. -/
def lowBytes : (width number : Nat) → List UInt8
  | 0, _ => []
  | width + 1, number => UInt8.ofNat number :: lowBytes width (number / 256)

@[simp] theorem length_lowBytes (width number : Nat) :
    (lowBytes width number).length = width := by
  induction width generalizing number with
  | zero => rfl
  | succ width induction => simp [lowBytes, induction]

theorem littleEndian_lt (bytes : List UInt8) :
    littleEndian bytes < 256 ^ bytes.length := by
  induction bytes with
  | nil => simp [littleEndian]
  | cons byte bytes induction =>
      have byteBound := byte.toNat_lt
      simp only [littleEndian, List.length_cons, Nat.pow_succ]
      omega

theorem littleEndian_lowBytes {width number : Nat} (bounded : number < 256 ^ width) :
    littleEndian (lowBytes width number) = number := by
  induction width generalizing number with
  | zero =>
      have numberZero : number = 0 := by simpa using bounded
      simp [lowBytes, littleEndian, numberZero]
  | succ width induction =>
      have quotientBound : number / 256 < 256 ^ width := by
        rw [Nat.pow_succ] at bounded
        omega
      simp only [lowBytes, littleEndian, induction quotientBound, UInt8.toNat_ofNat']
      omega

theorem lowBytes_littleEndian (bytes : List UInt8) :
    lowBytes bytes.length (littleEndian bytes) = bytes := by
  induction bytes with
  | nil => rfl
  | cons byte bytes induction =>
      have byteBound := byte.toNat_lt
      have quotient : (byte.toNat + 256 * littleEndian bytes) / 256 = littleEndian bytes := by
        omega
      have lowest : UInt8.ofNat (byte.toNat + 256 * littleEndian bytes) = byte := by
        apply UInt8.toNat_inj.mp
        rw [UInt8.toNat_ofNat']
        omega
      simp only [littleEndian, List.length_cons, lowBytes, quotient, lowest, induction]

namespace IntegerType

/-- Whether an integer belongs to a type. -/
def InRange (type : IntegerType) (number : Int) : Prop :=
  if type.isSigned then
    -(type.cardinality / 2 : Int) ≤ number ∧ number < (type.cardinality / 2 : Int)
  else
    0 ≤ number ∧ number < type.cardinality

instance (type : IntegerType) (number : Int) : Decidable (type.InRange number) :=
  inferInstanceAs (Decidable (if type.isSigned then
    -(type.cardinality / 2 : Int) ≤ number ∧ number < (type.cardinality / 2 : Int)
  else
    0 ≤ number ∧ number < type.cardinality))

/-- The bytes of an integer of a type. -/
def toBytes (type : IntegerType) (number : Int) : List UInt8 :=
  lowBytes type.width (number % type.cardinality).toNat

@[simp] theorem length_toBytes (type : IntegerType) (number : Int) :
    (type.toBytes number).length = type.width :=
  length_lowBytes _ _

theorem width_pos (type : IntegerType) : 0 < type.width := by
  cases type <;> decide

theorem cardinality_pos (type : IntegerType) : 0 < type.cardinality := by
  cases type <;> decide

theorem two_dvd_cardinality (type : IntegerType) : type.cardinality % 2 = 0 := by
  cases type <;> decide

theorem littleEndian_toBytes (type : IntegerType) (number : Int) :
    (littleEndian (type.toBytes number) : Int) = number % type.cardinality := by
  have positive : (0 : Int) < type.cardinality := by exact_mod_cast type.cardinality_pos
  have nonneg := Int.emod_nonneg number (Int.ne_of_gt positive)
  have bounded := Int.emod_lt_of_pos number positive
  have littleEndianEq : littleEndian (type.toBytes number) =
      (number % type.cardinality).toNat := by
    apply littleEndian_lowBytes
    change _ < type.cardinality
    omega
  rw [littleEndianEq, Int.toNat_of_nonneg nonneg]

theorem ofBytes_toBytes {type : IntegerType} {number : Int} (inRange : type.InRange number) :
    type.ofBytes (type.toBytes number) = number := by
  have even := type.two_dvd_cardinality
  have positive := type.cardinality_pos
  unfold InRange at inRange
  unfold ofBytes
  rw [littleEndian_toBytes]
  split
  · rename_i isSigned
    rw [if_pos isSigned] at inRange
    rw [Int.emod_bmod]
    apply Int.bmod_eq_of_le <;> omega
  · rename_i isUnsigned
    rw [if_neg isUnsigned] at inRange
    exact Int.emod_eq_of_lt inRange.1 inRange.2

theorem inRange_ofBytes {type : IntegerType} {bytes : List UInt8}
    (length_eq : bytes.length = type.width) : type.InRange (type.ofBytes bytes) := by
  have even := type.two_dvd_cardinality
  have positive := type.cardinality_pos
  unfold InRange ofBytes
  split
  · have lower := Int.le_bmod (x := littleEndian bytes) positive
    have upper := Int.bmod_lt (x := littleEndian bytes) positive
    omega
  · have bound := littleEndian_lt bytes
    rw [length_eq] at bound
    change littleEndian bytes < type.cardinality at bound
    omega

theorem toBytes_ofBytes {type : IntegerType} {bytes : List UInt8}
    (length_eq : bytes.length = type.width) : type.toBytes (type.ofBytes bytes) = bytes := by
  have bound := littleEndian_lt bytes
  rw [length_eq] at bound
  change littleEndian bytes < type.cardinality at bound
  have remainder : (littleEndian bytes : Int) % type.cardinality = littleEndian bytes :=
    Int.emod_eq_of_lt (by omega) (by omega)
  have modulus : (type.ofBytes bytes % type.cardinality).toNat = littleEndian bytes := by
    unfold ofBytes
    split
    · rw [Int.bmod_emod, remainder, Int.toNat_natCast]
    · rw [remainder, Int.toNat_natCast]
  unfold toBytes
  rw [modulus, ← length_eq, lowBytes_littleEndian]

/-- Every integer type lies within the signed integers of 64 bits. -/
theorem toInt_ofInt {type : IntegerType} {number : Int} (inRange : type.InRange number) :
    (Int64.ofInt number).toInt = number := by
  have bounds : -(2 ^ 63) ≤ number ∧ number < 2 ^ 63 := by
    unfold InRange at inRange
    cases type <;> simp [isSigned, cardinality, width] at inRange <;> omega
  apply Int64.toInt_ofInt_of_le <;> omega

end IntegerType

/-- An integer is read exactly from the bytes of an integer in the range of its
type. -/
theorem Cursor.readInteger_eq_ok_iff {type : IntegerType} {cursor after : Cursor}
    {number : Int64} :
    cursor.readInteger type = .ok (number, after) ↔
      type.InRange number.toInt ∧ cursor.Passes (type.toBytes number.toInt) after := by
  refine (Cursor.map_readBytes_eq_ok_iff fun bytes => Int64.ofInt (type.ofBytes bytes)).trans ?_
  constructor
  · rintro ⟨bytes, length_eq, rfl, passes⟩
    have inRange := IntegerType.inRange_ofBytes length_eq
    rw [IntegerType.toInt_ofInt inRange, IntegerType.toBytes_ofBytes length_eq]
    exact ⟨inRange, passes⟩
  · rintro ⟨inRange, passes⟩
    refine ⟨_, type.length_toBytes _, ?_, passes⟩
    simp [IntegerType.ofBytes_toBytes inRange]

end BinaryRecords
