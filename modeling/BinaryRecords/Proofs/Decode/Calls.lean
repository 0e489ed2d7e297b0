import BinaryRecords.Proofs.Decode.Items
import BinaryRecords.Proofs.Host.Alike

/-!
# Calls that decoding makes

A decoding that should make the calls of a schedule makes all of them, in this order, if
it succeeds, and some of the first if it fails.  A call that does not return exactly one
value is the last one.  Which calls have been made is seen from a host that records them.
Sequences and arrays of decodings have the schedules of their parts, one after the other.
-/

namespace BinaryRecords

variable {σ α β : Type} {host : Host σ}

namespace Host

/-- The error of a call that does not return exactly one value. -/
def refusal? (function : String) : Option (List Value) → Option Error
  | none => some (.functionNotDefined function)
  | some [_] => none
  | some values => some (.functionArity function values.length)

theorem refusal?_eq_none_iff {function : String} {answer : Option (List Value)} :
    refusal? function answer = none ↔ ∃ value, answer = some [value] := by
  match answer with
  | none => simp [refusal?]
  | some [] => simp [refusal?]
  | some [value] => simp [refusal?]
  | some (first :: second :: values) => simp [refusal?]

/-- Whether each of some calls returns exactly one value, and which one. -/
inductive Serves (host : Host σ) : σ → List String → List Value → Prop
  | nil {state : σ} : Serves host state [] []
  | cons {state : σ} {function : String} {value : Value} {functions : List String}
      {values : List Value} (answer_eq : (host function state).1 = some [value])
      (others : Serves host (host function state).2 functions values) :
      Serves host state (function :: functions) (value :: values)

namespace Serves

variable {state : σ} {functions others : List String} {values more : List Value}

theorem append (serves : host.Serves state functions values)
    (servesOthers : host.Serves (host.afterCalls state functions) others more) :
    host.Serves state (functions ++ others) (values ++ more) := by
  induction serves with
  | nil => exact servesOthers
  | cons answer_eq _ induction => exact .cons answer_eq (induction servesOthers)

theorem refusal?_eq_none {function : String}
    (serves : host.Serves state (functions ++ function :: others) values) :
    refusal? function (host function (host.afterCalls state functions)).1 = none := by
  induction functions generalizing state values with
  | nil =>
      cases serves with
      | cons answer_eq _ => exact refusal?_eq_none_iff.mpr ⟨_, answer_eq⟩
  | cons first functions induction =>
      cases serves with
      | cons _ servesOthers => exact induction servesOthers

end Serves

end Host

namespace Decoding

/-- How a decoding may end that should make the calls of a schedule, and which of them it
has made then. -/
inductive Ends (host : Host σ) (schedule : List String) (holds : α → List Value → Prop)
    (state : σ) : Except Error (α × Cursor) → List String → Prop
  | done {result : α} {after : Cursor} {values : List Value}
      (serves : host.Serves state schedule values) (holdsValues : holds result values) :
      Ends host schedule holds state (.ok (result, after)) schedule
  | failed {failure : Error} {made : List String} {values : List Value}
      (isPrefix : made <+: schedule) (serves : host.Serves state made values) :
      Ends host schedule holds state (.error failure) made
  | refused {failure : Error} {made : List String} {function : String} {values : List Value}
      (isPrefix : made ++ [function] <+: schedule) (serves : host.Serves state made values)
      (refusal_eq :
        Host.refusal? function (host function (host.afterCalls state made)).1 = some failure) :
      Ends host schedule holds state (.error failure) (made ++ [function])

/-- Whether a decoding makes the calls of a schedule, as far as it gets.  It does so with
the host itself and with the one that records the calls. -/
def Follows (host : Host σ) (schedule : List String) (holds : α → List Value → Prop)
    (decode : Decoding σ α) (recording : Decoding (σ × List String) α) : Prop :=
  ∀ cursor state earlier, ∃ outcome made,
    decode cursor state = (outcome, host.afterCalls state made) ∧
      recording cursor (state, earlier) =
        (outcome, (host.afterCalls state made, made.reverse ++ earlier)) ∧
      Ends host schedule holds state outcome made

namespace Ends

variable {schedule others made : List String} {holds : α → List Value → Prop} {state : σ}

theorem of_append {failure : Error}
    (ends : Ends host schedule holds state (.error failure) made)
    {holdsAll : β → List Value → Prop} :
    Ends host (schedule ++ others) holdsAll state (.error failure) made := by
  have longer : schedule <+: schedule ++ others := List.prefix_append schedule others
  cases ends with
  | failed isPrefix serves => exact .failed (isPrefix.trans longer) serves
  | refused isPrefix serves refusal_eq =>
      exact .refused (isPrefix.trans longer) serves refusal_eq

theorem after {values : List Value} {outcome : Except Error (α × Cursor)}
    (serves : host.Serves state schedule values)
    (ends : Ends host others holds (host.afterCalls state schedule) outcome made)
    {holdsAll : α → List Value → Prop}
    (joined : ∀ result more, holds result more → holdsAll result (values ++ more)) :
    Ends host (schedule ++ others) holdsAll state outcome (schedule ++ made) := by
  cases ends with
  | done servesOthers holdsValues =>
      exact .done (serves.append servesOthers) (joined _ _ holdsValues)
  | failed isPrefix servesOthers =>
      exact .failed ((List.prefix_append_right_inj schedule).mpr isPrefix)
        (serves.append servesOthers)
  | refused isPrefix servesOthers refusal_eq =>
      rw [← Host.afterCalls_append] at refusal_eq
      rw [← List.append_assoc]
      refine .refused ?_ (serves.append servesOthers) refusal_eq
      rw [List.append_assoc]
      exact (List.prefix_append_right_inj schedule).mpr isPrefix

end Ends

section

variable {holds : α → List Value → Prop}

theorem follows_pure {result : α} (holdsNothing : holds result []) :
    Follows host [] holds (pure result) (pure result) := by
  intro cursor state earlier
  exact ⟨_, [], rfl, rfl, .done .nil holdsNothing⟩

theorem follows_fail (schedule : List String) (failure : Error) :
    Follows host schedule holds (fail failure) (fail failure) := by
  intro cursor state earlier
  exact ⟨_, [], rfl, rfl, .failed List.nil_prefix .nil⟩

theorem follows_ofRead (read : Cursor → Except Error (α × Cursor)) :
    Follows host [] (fun _ values => values = []) (ofRead read) (ofRead read) := by
  intro cursor state earlier
  refine ⟨read cursor, [], rfl, rfl, ?_⟩
  cases read cursor with
  | error failure => exact .failed List.nil_prefix .nil
  | ok pair => exact .done .nil rfl

theorem call_of_refusal {function : String} {state after : σ} {answer : Option (List Value)}
    {failure : Error} (called : host function state = (answer, after))
    (refusal_eq : Host.refusal? function answer = some failure) (cursor : Cursor) :
    call host function cursor state = (.error failure, after) := by
  match answer with
  | none =>
      cases refusal_eq
      simp only [call, called]
  | some [] | some (_ :: _ :: _) =>
      cases refusal_eq
      simp only [call, called]

theorem call_of_answer {function : String} {state after : σ} {value : Value}
    (called : host function state = (some [value], after)) (cursor : Cursor) :
    call host function cursor state = (.ok (value, cursor), after) := by
  simp only [call, called]

/-- A call is the only one in its schedule, and is recorded whatever it returns. -/
theorem follows_call (function : String) :
    Follows host [function] (fun value values => values = [value]) (call host function)
      (call host.recorded function) := by
  intro cursor state earlier
  rcases called : host function state with ⟨answer, after⟩
  have reached : host.afterCalls state [function] = after := congrArg Prod.snd called
  have recordedCall :
      host.recorded function (state, earlier) = (answer, (after, function :: earlier)) := by
    simp only [Host.recorded, called]
  rw [← reached] at called recordedCall
  cases refusal_eq : Host.refusal? function answer with
  | some failure =>
      refine ⟨.error failure, [function], call_of_refusal called refusal_eq cursor,
        call_of_refusal recordedCall refusal_eq cursor, ?_⟩
      refine .refused (List.prefix_refl ([] ++ [function])) .nil ?_
      exact (congrArg (fun call => Host.refusal? function call.1) called).trans refusal_eq
  | none =>
      obtain ⟨value, rfl⟩ := Host.refusal?_eq_none_iff.mp refusal_eq
      exact ⟨.ok (value, cursor), [function], call_of_answer called cursor,
        call_of_answer recordedCall cursor, .done (.cons (congrArg Prod.fst called) .nil) rfl⟩

end

namespace Follows

variable {schedule others : List String} {holds : α → List Value → Prop}

theorem bind {first : Decoding σ α} {firstRecording : Decoding (σ × List String) α}
    {next : α → Decoding σ β} {nextRecording : α → Decoding (σ × List String) β}
    {holdsNext : α → β → List Value → Prop} {holdsAll : β → List Value → Prop}
    (followsFirst : Follows host schedule holds first firstRecording)
    (followsNext : ∀ intermediate, Follows host others (holdsNext intermediate)
      (next intermediate) (nextRecording intermediate))
    (joined : ∀ intermediate result values more, holds intermediate values →
      holdsNext intermediate result more → holdsAll result (values ++ more)) :
    Follows host (schedule ++ others) holdsAll (first >>= next)
      (firstRecording >>= nextRecording) := by
  intro cursor state earlier
  obtain ⟨outcome, made, run, recordingRun, ends⟩ := followsFirst cursor state earlier
  match outcome with
  | .error failure =>
      -- The next part has not begun, and its calls have not been made.
      exact ⟨_, made, bind_of_error run, bind_of_error recordingRun, ends.of_append⟩
  | .ok (intermediate, middle) =>
      cases ends with
      | done serves holdsFirst =>
          obtain ⟨outcome, more, runNext, recordingNext, endsNext⟩ :=
            followsNext intermediate middle (host.afterCalls state schedule)
              (schedule.reverse ++ earlier)
          refine ⟨outcome, schedule ++ more, ?_, ?_, endsNext.after serves ?_⟩
          · rw [bind_of_ok run, runNext, Host.afterCalls_append]
          · rw [bind_of_ok recordingRun, recordingNext, Host.afterCalls_append,
              List.reverse_append, List.append_assoc]
          · intro result values holdsValues
            exact joined intermediate result _ values holdsFirst holdsValues

theorem map {decode : Decoding σ α} {recording : Decoding (σ × List String) α}
    {function : α → β} {holdsAll : β → List Value → Prop}
    (follows : Follows host schedule holds decode recording)
    (keeps : ∀ result values, holds result values → holdsAll (function result) values) :
    Follows host schedule holdsAll (function <$> decode) (function <$> recording) := by
  have nothing (intermediate : α) : Follows host []
      (fun result values => result = function intermediate ∧ values = [])
      (pure (function intermediate)) (pure (function intermediate)) :=
    follows_pure ⟨rfl, rfl⟩
  have composed : Follows host (schedule ++ []) holdsAll (function <$> decode)
      (function <$> recording) := by
    refine follows.bind nothing ?_
    rintro intermediate _ values _ holdsValues ⟨rfl, rfl⟩
    rw [List.append_nil]
    exact keeps intermediate values holdsValues
  rwa [List.append_nil] at composed

theorem imp {decode : Decoding σ α} {recording : Decoding (σ × List String) α}
    {holdsAll : α → List Value → Prop} (follows : Follows host schedule holds decode recording)
    (keeps : ∀ result values, holds result values → holdsAll result values) :
    Follows host schedule holdsAll decode recording := by
  have mapped : Follows host schedule holdsAll (id <$> decode) (id <$> recording) :=
    follows.map keeps
  rwa [id_map, id_map] at mapped

/-- Every repetition makes the same calls. -/
theorem repeated {decode : Decoding σ α} {recording : Decoding (σ × List String) α}
    {returned : α → List Value}
    (follows : Follows host schedule (fun result values => values = returned result)
      decode recording)
    (count : Nat) (resultsReverse : List α) :
    Follows host (List.replicate count schedule).flatten
      (fun results values => ∃ elements, results = resultsReverse.reverse ++ elements ∧
        values = elements.flatMap returned)
      (decode.repeated count resultsReverse) (recording.repeated count resultsReverse) := by
  induction count generalizing resultsReverse with
  | zero => exact follows_pure ⟨[], (List.append_nil _).symm, rfl⟩
  | succ count induction =>
      rw [repeated_succ, repeated_succ, List.replicate_succ, List.flatten_cons]
      refine follows.bind (fun element => induction (element :: resultsReverse)) ?_
      rintro element results _ _ rfl ⟨elements, rfl, rfl⟩
      exact ⟨element :: elements, by simp, rfl⟩

end Follows

end Decoding

namespace Item

variable {item : Item} {schedule : List String} {unit : Decoding σ Value}
  {recording : Decoding (σ × List String) Value} {unitReturned : Value → List Value}

theorem follows_decodeOthers
    (follows : Decoding.Follows host schedule (fun value values => values = unitReturned value)
      unit recording)
    (others : Nat) (start : Cursor) (first : Value) :
    Decoding.Follows host (List.replicate others schedule).flatten
      (fun elements values => unitReturned first ++ values = elements.flatMap unitReturned)
      (item.decodeOthers unit others start first)
      (item.decodeOthers recording others start first) := by
  intro cursor state earlier
  by_cases refused : cursor.position = start.position ∧ largestEmptyRepeat < item.count.toNat
  · simp only [decodeOthers, if_pos refused]
    exact Decoding.follows_fail _ (.emptyRepeat item.type item.count) cursor state earlier
  · simp only [decodeOthers, if_neg refused]
    refine (follows.repeated others [first]).imp ?_ cursor state earlier
    rintro _ _ ⟨elements, rfl, rfl⟩
    rfl

theorem follows_decodeArray
    (follows : Decoding.Follows host schedule (fun value values => values = unitReturned value)
      unit recording) :
    Decoding.Follows host (List.replicate item.count.toNat schedule).flatten
      (fun elements values => values = elements.flatMap unitReturned)
      (item.decodeArray unit) (item.decodeArray recording) := by
  -- Where the first repetition began decides on the others, so the cursor comes first.
  intro cursor state earlier
  cases count_eq : item.count.toNat with
  | zero =>
      rw [decodeArray_of_zero count_eq, decodeArray_of_zero count_eq]
      exact ⟨_, [], rfl, rfl, .done .nil rfl⟩
  | succ others =>
      rw [decodeArray_succ count_eq, decodeArray_succ count_eq, List.replicate_succ,
        List.flatten_cons]
      refine follows.bind (follows_decodeOthers follows others cursor) ?_ cursor state earlier
      rintro first elements _ values rfl values_eq
      exact values_eq

end Item

end BinaryRecords
