import BinaryRecords.Decode.Basic
import BinaryRecords.Proofs.Source.Strings
import Mathlib.Algebra.Group.Nat.Defs

/-!
# Sources in place

A source can be read without cursors: its bytes stay where they are, parts of them are
taken from one place to another, and the position is moved by sums of 64 bits.  Here all of
this is checked, so that taking a part that lies outside of the bytes, or a sum that is too
great, is a fault from which there is no outcome.
-/

namespace BinaryRecords

/-- What is done to a source in place, with the help of a host with states in `σ`.  A fault
has no outcome; a failure leaves the source as far as it has come. -/
def InPlace (σ α : Type) : Type :=
  Source → σ → Option (Except Error α × Source × σ)

variable {σ α β : Type}

namespace InPlace

def done (result : α) : InPlace σ α :=
  fun source state => some (.ok result, source, state)

def fail (failure : Error) : InPlace σ α :=
  fun source state => some (.error failure, source, state)

def andThen (first : InPlace σ α) (next : α → InPlace σ β) : InPlace σ β :=
  fun source state =>
    match first source state with
    | none => none
    | some (.ok result, source, state) => next result source state
    | some (.error failure, source, state) => some (.error failure, source, state)

instance : Monad (InPlace σ) where
  pure := done
  bind := andThen

/-- A result that there is unless something is at fault. -/
def checked (result? : Option α) : InPlace σ α :=
  fun source state => result?.map fun result => (.ok result, source, state)

/-- The source as it is. -/
def look : InPlace σ Source :=
  fun source state => some (.ok source, source, state)

def place (position : Nat) : InPlace σ Unit :=
  fun source state => some (.ok (), { source with position := position }, state)

/-- The part of some bytes from one place to another, which has to be inside. -/
def slice? (bytes : List UInt8) (start stop : Nat) : Option (List UInt8) :=
  if start ≤ stop ∧ stop ≤ bytes.length then some ((bytes.take stop).drop start) else none

/-- A sum of 64 bits. -/
def sum? (first second : Nat) : Option Nat :=
  if first + second ≤ largestWord then some (first + second) else none

def insufficient (needed : Nat) : InPlace σ α := do
  let source ← look
  fail (.insufficientData source.position needed source.size)

/-- The bytes from the position to the end. -/
def remaining : InPlace σ (List UInt8) := do
  let source ← look
  checked (slice? source.bytes source.position source.size)

/-- So many of the bytes that remain, if there are. -/
def span (count : Nat) : InPlace σ (List UInt8) := do
  let rest ← remaining
  if count ≤ rest.length then checked (slice? rest 0 count) else insufficient count

def consume (count : Nat) : InPlace σ Unit := do
  let source ← look
  let position ← checked (sum? source.position count)
  place position

def skip (count : Nat) : InPlace σ Unit := do
  let _ ← span count
  consume count

/-- Read a number of so many bytes. -/
def readScalar (width : Nat) (convert : List UInt8 → α) : InPlace σ α := do
  let bytes ← span width
  consume width
  pure (convert bytes)

def readInteger (type : IntegerType) : InPlace σ Int64 :=
  readScalar type.width fun bytes => Int64.ofInt (type.ofBytes bytes)

def readFloat (type : FloatType) : InPlace σ Binary64 :=
  readScalar type.width type.ofBytes

/-- Take a text from the beginning of some bytes and move on behind what it comes with. -/
def readText (bytes : List UInt8) (stop : Nat) (consumed : Option Nat) :
    InPlace σ (List UInt8) := do
  let text ← checked (slice? bytes 0 stop)
  let consumed ← checked consumed
  consume consumed
  pure text

def readString (length : Nat) : InPlace σ (List UInt8) := do
  if length = 0 then
    let source ← look
    let rest ← remaining
    match rest.findIdx? (· == 0) with
    | none => fail (.missingTerminator source.position)
    | some stop => readText rest stop (sum? stop 1)
  else
    let bytes ← span length
    readText bytes ((bytes.findIdx? (· == 0)).getD length) (some length)

def readWideString (length : Nat) : InPlace σ (List UInt8) := do
  let source ← look
  let rest ← remaining
  let mark := orderMarkLength rest
  if length = 0 then
    let body ← checked (slice? rest mark rest.length)
    match zeroUnit? body with
    | none => fail (.missingTerminator source.position)
    | some stop => readText body stop ((sum? mark stop).bind (sum? · 2))
  else if largestWord < 2 * length then
    insufficient largestWord
  else
    let bytes ← span (2 * length)
    let body ← checked (slice? bytes mark bytes.length)
    readText body ((zeroUnit? body).getD body.length) (some (2 * length))

def moveTo (position : Nat) : InPlace σ Unit := do
  let source ← look
  if source.size < position then
    fail (.invalidPosition position source.size)
  else
    place position

/-- The offset of the first of the windows on some bytes that are the given ones. -/
def windowOffset? (needle bytes : List UInt8) : Option Nat :=
  (List.range (bytes.length - needle.length + 1)).find? fun offset =>
    (bytes.drop offset).take needle.length == needle

def find? (needle : List UInt8) (limit : Nat) : InPlace σ (Option Nat) := do
  let source ← look
  let stop := min limit source.size
  if source.position ≤ stop then
    let window ← checked (slice? source.bytes source.position stop)
    if needle = [] ∨ window.length < needle.length then
      pure none
    else
      match windowOffset? needle window with
      | none => pure none
      | some offset => some <$> checked (sum? source.position offset)
  else
    pure none

section

variable {source middle : Source} {state middleState : σ}

theorem bind_of_ok {first : InPlace σ α} {next : α → InPlace σ β} {result : α}
    (run : first source state = some (.ok result, middle, middleState)) :
    (first >>= next) source state = next result middle middleState := by
  change andThen first next source state = _
  simp only [andThen, run]

theorem bind_of_error {first : InPlace σ α} {next : α → InPlace σ β} {failure : Error}
    (run : first source state = some (.error failure, middle, middleState)) :
    (first >>= next) source state = some (.error failure, middle, middleState) := by
  change andThen first next source state = _
  simp only [andThen, run]

theorem map_eq {action : InPlace σ α} {outcome : Except Error α × Source × σ}
    (run : action source state = some outcome) (function : α → β) :
    (function <$> action) source state = some (outcome.1.map function, outcome.2) := by
  obtain ⟨failure | result, after, afterState⟩ := outcome
  · exact bind_of_error run
  · exact bind_of_ok run

theorem bind_look (next : Source → InPlace σ β) :
    (look >>= next) source state = next source source state :=
  bind_of_ok rfl

theorem bind_checked {result? : Option α} {result : α} (isResult : result? = some result)
    (next : α → InPlace σ β) :
    (checked result? >>= next) source state = next result source state := by
  rw [isResult]
  exact bind_of_ok rfl

theorem slice?_of_le {bytes : List UInt8} {start stop : Nat} (ordered : start ≤ stop)
    (inside : stop ≤ bytes.length) :
    slice? bytes start stop = some ((bytes.take stop).drop start) :=
  if_pos ⟨ordered, inside⟩

theorem slice?_zero {bytes : List UInt8} {stop : Nat} (inside : stop ≤ bytes.length) :
    slice? bytes 0 stop = some (bytes.take stop) :=
  slice?_of_le (Nat.zero_le _) inside

theorem slice?_length {bytes : List UInt8} {start : Nat} (inside : start ≤ bytes.length) :
    slice? bytes start bytes.length = some (bytes.drop start) := by
  rw [slice?_of_le inside (Nat.le_refl _), List.take_length]

end

end InPlace

/-- Whether the position of a source is inside, and the source not too large. -/
structure Source.IsBounded (source : Source) : Prop where
  position_le : source.position ≤ source.size
  size_le : source.size ≤ 2 ^ 63 - 1

namespace Source.IsBounded

variable {source : Source} (bounded : source.IsBounded)
include bounded

theorem length_remaining : source.position + source.remaining.length = source.size := by
  have inside := bounded.position_le
  rw [remaining, List.length_drop]
  exact Nat.add_sub_cancel' inside

theorem insufficient_eq (needed : Nat) :
    source.cursor.insufficient needed = .insufficientData source.position needed source.size := by
  simp only [Cursor.insufficient, Cursor.size, cursor, bounded.length_remaining]

/-- A sum that is a place in a source is one of 64 bits. -/
theorem sum?_of_le_size {first second : Nat} (fits : first + second ≤ source.size) :
    InPlace.sum? first second = some (first + second) := by
  have size_le := bounded.size_le
  apply if_pos
  unfold largestWord
  omega

theorem sum?_position {count : Nat} (enough : count ≤ source.remaining.length) :
    InPlace.sum? source.position count = some (source.position + count) := by
  apply bounded.sum?_of_le_size
  rw [← bounded.length_remaining]
  exact Nat.add_le_add_left enough _

theorem sum?_of_le {first second : Nat} (fits : first + second ≤ source.remaining.length) :
    InPlace.sum? first second = some (first + second) := by
  apply bounded.sum?_of_le_size
  rw [← bounded.length_remaining]
  exact fits.trans (Nat.le_add_left _ _)

/-- A source stays bounded, and is at the cursor behind some bytes, when it has passed over
them. -/
theorem of_passes {bytes : List UInt8} {after : Cursor}
    (passes : source.cursor.Passes bytes after) :
    IsBounded { source with position := after.position } ∧
      ({ source with position := after.position } : Source).cursor = after := by
  have position_eq : after.position = source.position + bytes.length := passes.position_eq
  have rest_eq : source.remaining = bytes ++ after.rest := passes.rest_eq
  have length_eq := bounded.length_remaining
  rw [rest_eq, List.length_append] at length_eq
  refine ⟨⟨?_, bounded.size_le⟩, cursor_of_passes passes⟩
  change after.position ≤ source.size
  omega

end Source.IsBounded

namespace InPlace

section

variable {source : Source} (bounded : source.IsBounded) (state : σ)
include bounded

theorem insufficient_eq (needed : Nat) :
    (insufficient needed : InPlace σ α) source state =
      some (.error (source.cursor.insufficient needed), source, state) := by
  rw [insufficient, bind_look, bounded.insufficient_eq]
  rfl

theorem bind_remaining (next : List UInt8 → InPlace σ β) :
    (remaining >>= next) source state = next source.remaining source state := by
  have rest_eq : slice? source.bytes source.position source.size = some source.remaining :=
    slice?_length bounded.position_le
  apply bind_of_ok
  rw [remaining, bind_look, rest_eq]
  rfl

theorem span_of_le {count : Nat} (enough : count ≤ source.remaining.length) :
    span count source state = some (.ok (source.remaining.take count), source, state) := by
  rw [span, bind_remaining bounded, if_pos enough, slice?_zero enough]
  rfl

theorem span_of_lt {count : Nat} (lacking : source.remaining.length < count) :
    span count source state =
      some (.error (source.cursor.insufficient count), source, state) := by
  rw [span, bind_remaining bounded, if_neg (Nat.not_le.mpr lacking), insufficient_eq bounded]

theorem consume_eq {count : Nat} (enough : count ≤ source.remaining.length) :
    consume count source state =
      some (.ok (), { source with position := source.position + count }, state) := by
  rw [consume, bind_look, bind_checked (bounded.sum?_position enough)]
  rfl

theorem readText_eq {bytes : List UInt8} {stop consumed : Nat} (inside : stop ≤ bytes.length)
    (enough : consumed ≤ source.remaining.length) :
    readText bytes stop (some consumed) source state =
      some (.ok (bytes.take stop), { source with position := source.position + consumed },
        state) := by
  rw [readText, bind_checked (slice?_zero inside), bind_checked rfl,
    bind_of_ok (consume_eq bounded state enough)]
  rfl

end

end InPlace

end BinaryRecords
