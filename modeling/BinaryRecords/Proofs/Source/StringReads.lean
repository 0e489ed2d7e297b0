import BinaryRecords.Proofs.Source.Strings
import BinaryRecords.Source.Basic
import Mathlib.Order.Bounds.Defs

/-!
# What string reads find

When a string can be read, which text it has and how many bytes are consumed for it, said by
offsets into the bytes that remain.  A text ends at the first terminator, so it is the longest
piece without one; the terminators of a wide string are looked for at even offsets behind the
byte order mark only.
-/

namespace BinaryRecords

/-- Whether there is a unit of two zero bytes at an offset, which is even. -/
def HasZeroUnitAt (bytes : List UInt8) (offset : Nat) : Prop :=
  offset % 2 = 0 ∧ bytes[offset]? = some 0 ∧ bytes[offset + 1]? = some 0

/-- Whether an offset is that of the first zero unit. -/
def IsFirstZeroUnit (bytes : List UInt8) (offset : Nat) : Prop :=
  IsLeast {offset | HasZeroUnitAt bytes offset} offset

/-- Whether a text is what some bytes have in front of their first zero unit, or all of
them where there is none. -/
def EndsAtZeroUnit (bytes text : List UInt8) : Prop :=
  (∃ offset, IsFirstZeroUnit bytes offset ∧ text = bytes.take offset) ∨
    (∀ offset, ¬ HasZeroUnitAt bytes offset) ∧ text = bytes

/-- Whether a text is the longest piece without a zero byte that some bytes begin with. -/
def IsLongestText (bytes text : List UInt8) : Prop :=
  0 ∉ text ∧ text <+: bytes ∧ ∀ other, 0 ∉ other → other <+: bytes → other <+: text

section

variable {bytes rest : List UInt8} {low high : UInt8} {offset found : Nat}

theorem hasZeroUnitAt_zero_iff :
    HasZeroUnitAt (low :: high :: rest) 0 ↔ low = 0 ∧ high = 0 := by
  simp [HasZeroUnitAt]

theorem not_hasZeroUnitAt_one (bytes : List UInt8) : ¬ HasZeroUnitAt bytes 1 := by
  rintro ⟨isEven, _⟩
  cases isEven

theorem hasZeroUnitAt_add_two_iff :
    HasZeroUnitAt (low :: high :: rest) (offset + 2) ↔ HasZeroUnitAt rest offset := by
  simp [HasZeroUnitAt]

theorem not_hasZeroUnitAt_of_short (short : ∀ low high rest, bytes ≠ low :: high :: rest)
    (offset : Nat) : ¬ HasZeroUnitAt bytes offset := by
  rintro ⟨_, _, isHigh⟩
  match bytes with
  | [] => simp at isHigh
  | [_] => simp at isHigh
  | low :: high :: rest => exact short low high rest rfl

/-- Behind a unit that is not zero, the first zero unit is the first one in the rest. -/
theorem IsFirstZeroUnit.add_two (isUnit : ¬ (low = 0 ∧ high = 0))
    (isFirst : IsFirstZeroUnit rest offset) :
    IsFirstZeroUnit (low :: high :: rest) (offset + 2) := by
  constructor
  · exact hasZeroUnitAt_add_two_iff.mpr isFirst.1
  · intro other isZero
    rcases other with _ | _ | other
    · exact absurd (hasZeroUnitAt_zero_iff.mp isZero) isUnit
    · exact absurd isZero (not_hasZeroUnitAt_one _)
    · exact Nat.add_le_add_right (isFirst.2 (hasZeroUnitAt_add_two_iff.mp isZero)) 2

/-- The search for a zero unit finds the first one. -/
theorem exists_isFirstZeroUnit_of_zeroUnitFrom (isFound : zeroUnitFrom offset bytes = some found) :
    ∃ distance, found = offset + distance ∧ IsFirstZeroUnit bytes distance := by
  fun_induction zeroUnitFrom offset bytes with
  | case1 offset low high rest isZero =>
      cases isFound
      exact ⟨0, rfl, hasZeroUnitAt_zero_iff.mpr isZero, fun _ _ => Nat.zero_le _⟩
  | case2 offset low high rest isUnit induction =>
      obtain ⟨distance, found_eq, isFirst⟩ := induction isFound
      exact ⟨distance + 2, by omega, isFirst.add_two isUnit⟩
  | case3 => cases isFound

theorem not_hasZeroUnitAt_of_zeroUnitFrom (isNone : zeroUnitFrom offset bytes = none)
    (distance : Nat) : ¬ HasZeroUnitAt bytes distance := by
  fun_induction zeroUnitFrom offset bytes generalizing distance with
  | case1 => cases isNone
  | case2 offset low high rest isUnit induction =>
      intro isZero
      rcases distance with _ | _ | distance
      · exact isUnit (hasZeroUnitAt_zero_iff.mp isZero)
      · exact not_hasZeroUnitAt_one _ isZero
      · exact induction isNone distance (hasZeroUnitAt_add_two_iff.mp isZero)
  | case3 offset bytes short => exact not_hasZeroUnitAt_of_short short distance

theorem isFirstZeroUnit_of_zeroUnit? (isFound : zeroUnit? bytes = some found) :
    IsFirstZeroUnit bytes found := by
  obtain ⟨distance, found_eq, isFirst⟩ := exists_isFirstZeroUnit_of_zeroUnitFrom isFound
  rwa [found_eq, Nat.zero_add]

theorem endsAtZeroUnit_beforeZeroUnit (bytes : List UInt8) :
    EndsAtZeroUnit bytes (beforeZeroUnit bytes) := by
  unfold beforeZeroUnit
  cases found : zeroUnit? bytes with
  | none => exact .inr ⟨not_hasZeroUnitAt_of_zeroUnitFrom found, rfl⟩
  | some offset => exact .inl ⟨offset, isFirstZeroUnit_of_zeroUnit? found, rfl⟩

theorem orderMarkLength_eq (bytes : List UInt8) :
    orderMarkLength bytes =
      if 2 ≤ bytes.length ∧ (bytes[0]? = some 0xFF ∨ bytes[0]? = some 0xFE) then 2 else 0 := by
  match bytes with
  | [] => rfl
  | [_] => rfl
  | first :: second :: rest => simp [orderMarkLength]

/-- The byte order mark is seen from the first two bytes. -/
theorem orderMarkLength_take {count : Nat} (twoBytes : 2 ≤ count) (enough : count ≤ bytes.length) :
    orderMarkLength (bytes.take count) = orderMarkLength bytes := by
  have length_take : 2 ≤ (bytes.take count).length := by
    rwa [List.length_take, Nat.min_eq_left enough]
  have taken := orderMarkLength_append (bytes.drop count) length_take
  rw [List.take_append_drop] at taken
  exact taken.symm

theorem isLongestText_beforeZero (bytes : List UInt8) : IsLongestText bytes (beforeZero bytes) := by
  refine ⟨zero_notMem_beforeZero bytes, List.takeWhile_prefix _, ?_⟩
  rintro other noZero ⟨behind, rfl⟩
  rw [beforeZero, List.takeWhile_append_of_pos (bne_zero_of_mem noZero)]
  exact List.prefix_append _ _

end

namespace Source

variable {source : Source} {α : Type} {action : Cursor → Except Error (α × Cursor)}

theorem read_of_ok {result : α} {after : Cursor}
    (success : action source.cursor = .ok (result, after)) :
    source.read action = (.ok result, { source with position := after.position }) := by
  simp only [read, success]

theorem read_of_error {failure : Error} (failed : action source.cursor = .error failure) :
    source.read action = (.error failure, source) := by
  simp only [read, failed]

/-- Whether a text can be read just under a condition, and which one for how many bytes.
Otherwise the read fails, for a reason, and moves nothing. -/
structure ReadsText (source : Source) (action : Cursor → Except Error (List UInt8 × Cursor))
    (possible : Prop) (finds : List UInt8 → Nat → Prop) (failure : Error) : Prop where
  success : possible → ∃ text count, finds text count ∧
    source.read action = (.ok text, { source with position := source.position + count })
  failure : ¬ possible → source.read action = (.error failure, source)

theorem readsText_terminated (source : Source) :
    source.ReadsText (Cursor.readString 0) (0 ∈ source.remaining)
      (fun text count => 0 ∉ text ∧ text ++ [0] <+: source.remaining ∧ count = text.length + 1)
      (.missingTerminator source.position) where
  success zero := by
    obtain ⟨text, behind, rest_eq, noZero⟩ := List.eq_append_cons_of_mem zero
    have begins : source.remaining = (text ++ [0]) ++ behind := by
      rw [rest_eq, List.append_assoc, List.singleton_append]
    have passes : source.cursor.Passes (text ++ [0])
        (source.cursor.advance (text ++ [0]).length) := Cursor.passes_of_rest_eq begins
    have run : source.cursor.readString 0 = .ok (text, _) :=
      Cursor.readTerminated_eq_ok_iff.mpr ⟨noZero, passes⟩
    have count_eq : (text ++ [0]).length = text.length + 1 := List.length_append
    rw [count_eq] at run
    exact ⟨text, _, ⟨noZero, ⟨behind, begins.symm⟩, rfl⟩, read_of_ok run⟩
  failure noZero := by
    apply read_of_error
    have noRest : source.cursor.rest.dropWhile (· != 0) = [] :=
      List.dropWhile_eq_nil_iff.mpr (bne_zero_of_mem noZero)
    simp only [Cursor.readString, Cursor.readTerminated, noRest, if_pos]
    rfl

theorem readsText_fixed (source : Source) {length : Nat} (length_ne : length ≠ 0) :
    source.ReadsText (Cursor.readString length) (length ≤ source.remaining.length)
      (fun text count => IsLongestText (source.remaining.take length) text ∧ count = length)
      (.insufficientData source.position length (source.position + source.remaining.length)) where
  success enough := by
    have run : source.cursor.readString length = .ok (beforeZero (source.remaining.take length),
        source.cursor.advance length) := by
      rw [Cursor.readString, if_neg length_ne, Cursor.readBytes_of_le enough]
      rfl
    exact ⟨_, length, ⟨isLongestText_beforeZero _, rfl⟩, read_of_ok run⟩
  failure lacking := by
    apply read_of_error
    rw [Cursor.readString, if_neg length_ne, Cursor.readBytes_of_lt (Nat.not_le.mp lacking)]
    rfl

theorem readsText_wideTerminated (source : Source) :
    source.ReadsText (Cursor.readWideString 0)
      (∃ offset, HasZeroUnitAt (source.remaining.drop (orderMarkLength source.remaining)) offset)
      (fun text count => ∃ offset,
        IsFirstZeroUnit (source.remaining.drop (orderMarkLength source.remaining)) offset ∧
          text = (source.remaining.drop (orderMarkLength source.remaining)).take offset ∧
            count = orderMarkLength source.remaining + offset + 2)
      (.missingTerminator source.position) where
  success hasZero := by
    obtain ⟨offset, isZero⟩ := hasZero
    cases found : zeroUnit? (source.remaining.drop (orderMarkLength source.remaining)) with
    | none => exact absurd isZero (not_hasZeroUnitAt_of_zeroUnitFrom found offset)
    | some first =>
        have run : source.cursor.readWideString 0 =
            .ok ((source.remaining.drop (orderMarkLength source.remaining)).take first,
              source.cursor.advance (orderMarkLength source.remaining + first + 2)) := by
          rw [Cursor.readWideString, if_pos rfl, Cursor.readWideTerminated]
          simp only [cursor, found]
        exact ⟨_, _, ⟨first, isFirstZeroUnit_of_zeroUnit? found, rfl, rfl⟩, read_of_ok run⟩
  failure noZero := by
    apply read_of_error
    cases found : zeroUnit? (source.remaining.drop (orderMarkLength source.remaining)) with
    | none =>
        rw [Cursor.readWideString, if_pos rfl, Cursor.readWideTerminated]
        simp only [cursor, found]
    | some first => exact absurd ⟨first, (isFirstZeroUnit_of_zeroUnit? found).1⟩ noZero

theorem readsText_wideFixed (source : Source) (size_le : source.size ≤ largestWord) {length : Nat}
    (length_ne : length ≠ 0) :
    source.ReadsText (Cursor.readWideString length) (2 * length ≤ source.remaining.length)
      (fun text count => EndsAtZeroUnit
        ((source.remaining.take (2 * length)).drop (orderMarkLength source.remaining)) text ∧
          count = 2 * length)
      (.insufficientData source.position (clampWord (2 * length))
        (source.position + source.remaining.length)) where
  success enough := by
    have rest_le : source.remaining.length ≤ source.size := by
      rw [remaining, List.length_drop]
      exact Nat.sub_le _ _
    have fits : ¬ largestWord < 2 * length := by omega
    have mark_eq := orderMarkLength_take (by omega : 2 ≤ 2 * length) enough
    have run : source.cursor.readWideString length =
        .ok (beforeZeroUnit ((source.remaining.take (2 * length)).drop
            (orderMarkLength source.remaining)), source.cursor.advance (2 * length)) := by
      rw [Cursor.readWideString, if_neg length_ne, if_neg fits, Cursor.readBytes_of_le enough,
        ← mark_eq]
      rfl
    exact ⟨_, _, ⟨endsAtZeroUnit_beforeZeroUnit _, rfl⟩, read_of_ok run⟩
  failure lacking := by
    apply read_of_error
    rw [Cursor.readWideString, if_neg length_ne]
    split
    · rename_i exceeds
      rw [clampWord, Nat.min_eq_right exceeds.le]
      rfl
    · rename_i fits
      rw [Cursor.readBytes_of_lt (Nat.not_le.mp lacking), clampWord,
        Nat.min_eq_left (Nat.not_lt.mp fits)]
      rfl

/-- Strings of all four sorts are read just where they can be, to the text up to the first
terminator and no further, and otherwise fail without moving.  Where the bytes of a wide
string are more than 64 bits can count, no source whose size is a word of 64 bits has them. -/
theorem string_reads_are_exact (source : Source) (length : UInt64) :
    let rest := source.remaining
    let mark := if 2 ≤ rest.length ∧ (rest[0]? = some 0xFF ∨ rest[0]? = some 0xFE) then 2 else 0
    source.ReadsText (Cursor.readString 0) (0 ∈ rest)
      (fun text count => 0 ∉ text ∧ text ++ [0] <+: rest ∧ count = text.length + 1)
      (.missingTerminator source.position) ∧
    source.ReadsText (Cursor.readWideString 0) (∃ offset, HasZeroUnitAt (rest.drop mark) offset)
      (fun text count => ∃ offset, IsFirstZeroUnit (rest.drop mark) offset ∧
        text = (rest.drop mark).take offset ∧ count = mark + offset + 2)
      (.missingTerminator source.position) ∧
    (length ≠ 0 →
      source.ReadsText (Cursor.readString length.toNat) (length.toNat ≤ rest.length)
        (fun text count => IsLongestText (rest.take length.toNat) text ∧ count = length.toNat)
        (.insufficientData source.position length.toNat (source.position + rest.length))) ∧
    (length ≠ 0 → source.size ≤ largestWord →
      source.ReadsText (Cursor.readWideString length.toNat) (2 * length.toNat ≤ rest.length)
        (fun text count => EndsAtZeroUnit ((rest.take (2 * length.toNat)).drop mark) text ∧
          count = 2 * length.toNat)
        (.insufficientData source.position (clampWord (2 * length.toNat))
          (source.position + rest.length))) := by
  intro rest mark
  have mark_eq : orderMarkLength rest = mark := orderMarkLength_eq rest
  rw [← mark_eq]
  have notZero (length_ne : length ≠ 0) : length.toNat ≠ 0 := by
    intro isZero
    exact length_ne (UInt64.toNat_inj.mp isZero)
  exact ⟨source.readsText_terminated, source.readsText_wideTerminated,
    fun length_ne => source.readsText_fixed (notZero length_ne),
    fun length_ne size_le => source.readsText_wideFixed size_le (notZero length_ne)⟩

/-- A byte order mark counts for the length of a wide string but not for its text, in which
zero bytes of two different units do not end it. -/
theorem string_reads_are_exact_marked :
    let source : Source := ⟨"texts", [9, 0xFF, 0xFE, 65, 0, 0, 66, 0, 0, 0, 7], 1⟩
    source.size ≤ largestWord ∧
      source.read (Cursor.readWideString 0) =
        (.ok [65, 0, 0, 66], { source with position := 9 }) ∧
      source.read (Cursor.readWideString 3) =
        (.ok [65, 0, 0, 66], { source with position := 7 }) ∧
      (∃ text, IsLongestText [0xFF, 0xFE, 65, 0] text ∧
        source.read (Cursor.readString 4) = (.ok text, { source with position := 5 })) ∧
      source.read (Cursor.readWideString 0x8000000000000000) =
        (.error (.insufficientData 1 0xFFFFFFFFFFFFFFFF 11), source) := by
  intro source
  have size_le : source.size ≤ largestWord := by decide
  obtain ⟨_, _, fixed, _⟩ := string_reads_are_exact source 4
  obtain ⟨_, _, _, wideFixed⟩ := string_reads_are_exact source 0x8000000000000000
  obtain ⟨text, count, ⟨isText, rfl⟩, read⟩ := (fixed (by decide)).success (by decide)
  exact ⟨size_le, rfl, rfl, ⟨text, isText, read⟩,
    (wideFixed (by decide) size_le).failure (by decide)⟩

end Source

end BinaryRecords
