import BinaryRecords.Proofs.Decode.InPlace
import BinaryRecords.Proofs.Decode.Scheduled

/-!
# Operations on a source

All that is read, looked for or decoded in a source, and the moves of its position, as one
type, so that a sequence of them can be performed.  Whatever is performed, the position
stays inside, nothing ever comes to a fault in place, and what fails changes nothing.
-/

namespace BinaryRecords

namespace Source

/-- What can be asked of a source, with the help of hosts with states in `σ`.  Lengths and
positions are any numbers of 64 bits. -/
inductive Operation (σ : Type)
  | readInteger (type : IntegerType)
  | readFloat (type : FloatType)
  | readString (length : UInt64)
  | readWideString (length : UInt64)
  | skip (length : UInt64)
  | moveTo (position : UInt64)
  | find (needle : List UInt8) (limit : UInt64)
  | decodeItems (schema : Schema) (host : Host σ) (items : List Item)
  | decodeRecord (schema : Schema) (host : Host σ) (name : String)

/-- What an operation that succeeds answers. -/
inductive Answer
  | done
  | integer (number : Int64)
  | float (number : Binary64)
  | text (bytes : List UInt8)
  | offset (offset? : Option Nat)
  | values (values : List Value)
  | record (record : Record)

variable {σ α : Type}

/-- Whether an operation only moves the position, maybe back. -/
def Operation.isMove : Operation σ → Bool
  | .moveTo _ => true
  | _ => false

/-- An outcome whose result is given as an answer. -/
def answering (answer : α → Answer) (outcome : Except Error α × Source × σ) :
    Except Error Answer × Source × σ :=
  (outcome.1.map answer, outcome.2)

/-- An outcome of something that has nothing to do with a host. -/
def beside (state : σ) (outcome : Except Error α × Source) : Except Error α × Source × σ :=
  (outcome.1, outcome.2, state)

def perform (source : Source) (state : σ) : Operation σ → Except Error Answer × Source × σ
  | .readInteger type =>
      answering .integer (beside state (source.read (Cursor.readInteger type)))
  | .readFloat type => answering .float (beside state (source.read (Cursor.readFloat type)))
  | .readString length =>
      answering .text (beside state (source.read (Cursor.readString length.toNat)))
  | .readWideString length =>
      answering .text (beside state (source.read (Cursor.readWideString length.toNat)))
  | .skip length => answering (fun _ => .done) (beside state (source.skip length.toNat))
  | .moveTo position => answering (fun _ => .done) (beside state (source.moveTo position.toNat))
  | .find needle limit =>
      answering .offset (beside state (.ok (source.find? needle limit.toNat), source))
  | .decodeItems schema host items =>
      answering .values (source.decode (schema.decodeItems host items) state)
  | .decodeRecord schema host name =>
      answering .record (source.decode (schema.decodeRecord host name) state)

/-- The answers to some operations, and the source and the state of the host after them. -/
def performAll (source : Source) (state : σ) :
    List (Operation σ) → List (Except Error Answer) × Source × σ
  | [] => ([], source, state)
  | operation :: operations =>
      let (answer, source, state) := source.perform state operation
      let (answers, last) := source.performAll state operations
      (answer :: answers, last)

/-- An operation in place. -/
def Operation.inPlace : Operation σ → InPlace σ Answer
  | .readInteger type => .integer <$> InPlace.readInteger type
  | .readFloat type => .float <$> InPlace.readFloat type
  | .readString length => .text <$> InPlace.readString length.toNat
  | .readWideString length => .text <$> InPlace.readWideString length.toNat
  | .skip length => (fun _ => .done) <$> InPlace.skip length.toNat
  | .moveTo position => (fun _ => .done) <$> InPlace.moveTo position.toNat
  | .find needle limit => .offset <$> InPlace.find? needle limit.toNat
  | .decodeItems schema host items => .values <$> schema.readItems host items
  | .decodeRecord schema host name => .record <$> schema.readRecord host name

/-- Some operations in place, unless one of them comes to a fault. -/
def performAllInPlace (source : Source) (state : σ) :
    List (Operation σ) → Option (List (Except Error Answer) × Source × σ)
  | [] => some ([], source, state)
  | operation :: operations =>
      match operation.inPlace source state with
      | none => none
      | some (answer, source, state) =>
          (source.performAllInPlace state operations).map fun (answers, last) =>
            (answer :: answers, last)

/-- Whether an outcome keeps a source, with the position inside and after a failure where
it was. -/
structure IsKept (source : Source) (outcome : Except Error α × Source × σ) : Prop where
  name_eq : outcome.2.1.name = source.name
  bytes_eq : outcome.2.1.bytes = source.bytes
  inside : outcome.2.1.position ≤ source.size
  restored : ∀ failure, outcome.1 = .error failure → outcome.2.1 = source

/-- Whether an operation comes to no fault in place, has the outcome there that it has,
keeps the source, and does not go back unless it is a move. -/
structure IsSafe (source : Source) (state : σ) (operation : Operation σ) : Prop where
  inPlace_eq : operation.inPlace source state = some (source.perform state operation)
  isKept : source.IsKept (source.perform state operation)
  onward : operation.isMove = false →
    source.position ≤ (source.perform state operation).2.1.position

namespace IsKept

variable {source : Source} {outcome : Except Error α × Source × σ} (kept : source.IsKept outcome)
include kept

theorem answering (answer : α → Answer) : source.IsKept (answering answer outcome) where
  name_eq := kept.name_eq
  bytes_eq := kept.bytes_eq
  inside := kept.inside
  restored failure failed := by
    obtain ⟨cause | result, last⟩ := outcome
    · exact kept.restored cause rfl
    · cases failed

theorem isBounded (bounded : source.IsBounded) : outcome.2.1.IsBounded := by
  have size_eq : outcome.2.1.size = source.size := congrArg List.length kept.bytes_eq
  constructor
  · rw [size_eq]
    exact kept.inside
  · rw [size_eq]
    exact bounded.size_le

end IsKept

section

variable {source : Source} {state : σ}

theorem IsSafe.of_outcome {operation : Operation σ} {action : InPlace σ α} {answer : α → Answer}
    {outcome : Except Error α × Source × σ} (inPlace_eq : operation.inPlace = answer <$> action)
    (perform_eq : source.perform state operation = answering answer outcome)
    (run : action source state = some outcome) (kept : source.IsKept outcome)
    (onward : operation.isMove = false → source.position ≤ outcome.2.1.position) :
    source.IsSafe state operation where
  inPlace_eq := by
    rw [inPlace_eq, perform_eq]
    exact InPlace.map_eq run answer
  isKept := by
    rw [perform_eq]
    exact kept.answering answer
  onward notMove := by
    rw [perform_eq]
    exact onward notMove

theorem isKept_decode {action : InPlace σ α} {decode : Decoding σ α} (does : action.Does decode)
    (bounded : source.IsBounded) : source.IsKept (source.decode decode state) := by
  have boundedAfter := (does.restoring_eq bounded state).2.2
  revert boundedAfter
  unfold Source.decode
  split
  · intro boundedAfter
    exact ⟨rfl, rfl, boundedAfter.position_le, fun failure failed => nomatch failed⟩
  · intro boundedAfter
    exact ⟨rfl, rfl, boundedAfter.position_le, fun _ _ => rfl⟩

theorem beside_read (read : Cursor → Except Error (α × Cursor)) :
    beside state (source.read read) = source.decode (.ofRead read) state := by
  simp only [beside, Source.read, decode, Decoding.ofRead]
  cases read source.cursor <;> rfl

/-- What is read in place has the outcome of the read there, without returning. -/
theorem inPlace_of_reads {action : InPlace σ α} {read : Cursor → Except Error (α × Cursor)}
    (reads : action.Reads read) (bounded : source.IsBounded) :
    action source state = some (beside state (source.read read)) := by
  rcases reads source state bounded with
    ⟨result, bytes, after, success, passes, run⟩ | ⟨failure, failed, run⟩
  · simp only [run, beside, Source.read, success]
  · simp only [run, beside, Source.read, failed]

theorem IsSafe.of_reads {operation : Operation σ} {action : InPlace σ α}
    {read : Cursor → Except Error (α × Cursor)} {answer : α → Answer}
    (inPlace_eq : operation.inPlace = answer <$> action)
    (perform_eq : source.perform state operation =
      Source.answering answer (beside state (source.read read)))
    (reads : action.Reads read) (bounded : source.IsBounded) : source.IsSafe state operation := by
  apply IsSafe.of_outcome inPlace_eq perform_eq (inPlace_of_reads reads bounded)
  · rw [beside_read]
    exact isKept_decode reads.does bounded
  · intro _
    rw [beside_read]
    exact (reads.does.restoring_eq bounded state).2.1

theorem IsSafe.of_does {operation : Operation σ} {action : InPlace σ α} {decode : Decoding σ α}
    {answer : α → Answer} (inPlace_eq : operation.inPlace = answer <$> action.restoring)
    (perform_eq : source.perform state operation =
      Source.answering answer (source.decode decode state))
    (does : action.Does decode) (bounded : source.IsBounded) : source.IsSafe state operation := by
  obtain ⟨run, onward, _⟩ := does.restoring_eq bounded state
  exact IsSafe.of_outcome inPlace_eq perform_eq run (isKept_decode does bounded) fun _ => onward

theorem isKept_moveTo (bounded : source.IsBounded) (position : Nat) :
    source.IsKept (beside state (source.moveTo position)) := by
  unfold beside moveTo
  split
  · exact ⟨rfl, rfl, bounded.position_le, fun _ _ => rfl⟩
  case isFalse inside =>
    exact ⟨rfl, rfl, Nat.not_lt.mp inside, fun failure failed => nomatch failed⟩

/-- Inside of a source that is not too large every operation is safe. -/
theorem isSafe_of_isBounded (bounded : source.IsBounded) (state : σ) (operation : Operation σ) :
    source.IsSafe state operation := by
  cases operation with
  | readInteger type => exact .of_reads rfl rfl (InPlace.reads_readInteger type) bounded
  | readFloat type => exact .of_reads rfl rfl (InPlace.reads_readFloat type) bounded
  | readString length => exact .of_reads rfl rfl (InPlace.reads_readString length.toNat) bounded
  | readWideString length =>
      exact .of_reads rfl rfl (InPlace.reads_readWideString length.toNat) bounded
  | skip length => exact .of_reads rfl rfl (InPlace.reads_skip length.toNat) bounded
  | moveTo position =>
      exact .of_outcome rfl rfl (InPlace.moveTo_eq source state position.toNat)
        (isKept_moveTo bounded position.toNat) fun notMove => nomatch notMove
  | find needle limit =>
      exact .of_outcome rfl rfl (InPlace.find?_eq bounded state needle limit.toNat)
        ⟨rfl, rfl, bounded.position_le, fun _ failed => nomatch failed⟩ fun _ => Nat.le_refl _
  | decodeItems schema host items =>
      exact .of_does rfl rfl (schema.does_readItems host items) bounded
  | decodeRecord schema host name =>
      exact .of_does rfl rfl (schema.does_readStruct host name) bounded

end

/-- A sequence of operations comes to no fault in place, has the outcome there that it has,
and ends inside of the same source. -/
theorem performAll_of_isBounded {source : Source} (bounded : source.IsBounded) (state : σ)
    (operations : List (Operation σ)) :
    source.performAllInPlace state operations = some (source.performAll state operations) ∧
      (source.performAll state operations).2.1.name = source.name ∧
        (source.performAll state operations).2.1.bytes = source.bytes ∧
          (source.performAll state operations).2.1.IsBounded := by
  induction operations generalizing source state with
  | nil => exact ⟨rfl, rfl, rfl, bounded⟩
  | cons operation operations induction =>
      obtain ⟨run, kept, _⟩ := isSafe_of_isBounded bounded state operation
      obtain ⟨runRest, name_eq, bytes_eq, boundedLast⟩ := induction (kept.isBounded bounded)
        (source.perform state operation).2.2
      refine ⟨?_, name_eq.trans kept.name_eq, bytes_eq.trans kept.bytes_eq, boundedLast⟩
      simp only [performAllInPlace, run, runRest]
      rfl

/-- Whatever has been performed on a source of at most `2 ^ 63 - 1` bytes, its name and its
bytes are the same, the position is inside, and no part was taken and no sum made in place
that could not be; and whatever is performed next is safe again. -/
theorem position_stays_inside (name : String) (bytes : List UInt8)
    (size_le : bytes.length ≤ 2 ^ 63 - 1) (state : σ) (operations : List (Operation σ)) :
    let reached := ((ofBytes name bytes).performAll state operations).2
    (ofBytes name bytes).performAllInPlace state operations =
        some ((ofBytes name bytes).performAll state operations) ∧
      reached.1.name = name ∧ reached.1.bytes = bytes ∧ reached.1.position ≤ bytes.length ∧
        ∀ operation, reached.1.IsSafe reached.2 operation := by
  intro reached
  have bounded : (ofBytes name bytes).IsBounded := ⟨Nat.zero_le _, size_le⟩
  obtain ⟨run, name_eq, bytes_eq, boundedReached⟩ :=
    performAll_of_isBounded bounded state operations
  have size_eq : reached.1.size = bytes.length := congrArg List.length bytes_eq
  have inside : reached.1.position ≤ bytes.length := boundedReached.position_le.trans_eq size_eq
  exact ⟨run, name_eq, bytes_eq, inside, isSafe_of_isBounded boundedReached reached.2⟩

/-- Entries that lack a byte, after three that have been decoded, and a skip that would exceed
64 bits leave the position where it was. -/
theorem position_stays_inside_entries :
    let items : List Item := [{ type := .struct "entry", count := 5 }]
    let operations : List (Operation Nat) := [.readString 0, .moveTo 1,
      .decodeItems .entries Schema.countingHost items, .skip 0xFFFFFFFFFFFFFFFF, .find [8] 3]
    let source : Source := ofBytes "entries" [7, 8, 9, 0]
    let after : Source := { source with position := 1 }
    source.bytes.length ≤ 2 ^ 63 - 1 ∧
      source.performAllInPlace 4 operations =
        some ([.ok (.text [7, 8, 9]), .ok .done, .error (.insufficientData 4 1 4),
          .error (.insufficientData 1 0xFFFFFFFFFFFFFFFF 4), .ok (.offset (some 1))], after, 8) ∧
      after.IsSafe 8 (.decodeRecord .entries Schema.countingHost "entry") := by
  intro items operations source after
  have size_le : source.bytes.length ≤ 2 ^ 63 - 1 := by decide
  obtain ⟨run, _, _, _, isSafe⟩ := position_stays_inside "entries" [7, 8, 9, 0] size_le 4 operations
  exact ⟨size_le, run, isSafe _⟩

end Source

end BinaryRecords
