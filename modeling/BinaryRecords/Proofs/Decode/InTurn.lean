import BinaryRecords.Proofs.Decode.Scheduled
import BinaryRecords.Proofs.Decode.SelfContained
import BinaryRecords.Proofs.Layout.Joining

/-!
# Reading in turn

Items that stand one behind the other are read as one list, or as two of which the second
is read where the first has ended.  Both ways have the same values, the same calls and the
same end.  Only a failure of the second part puts the position back to where the first
began, if the two are read as one.
-/

namespace BinaryRecords

variable {σ : Type}

theorem decodeItems_append (host : Host σ) (decoders : Decoders σ) (items others : List Item) :
    decodeItems host decoders (items ++ others) =
      decodeItems host decoders items >>= fun values =>
        (values ++ ·) <$> decodeItems host decoders others := by
  induction items with
  | nil =>
      rw [List.nil_append, decodeItems, pure_bind]
      exact (id_map _).symm
  | cons item items induction =>
      simp only [List.cons_append, decodeItems, induction, bind_assoc, bind_pure_comp,
        bind_map_left, map_bind, Functor.map_map, List.append_assoc]

namespace Source

/-- Read some values at the position, and others where these have ended.  If either
fails, the position is left where it was before both. -/
def decodeInTurn (source : Source) (first second : Decoding σ (List Value)) (state : σ) :
    Except Error (List Value) × Source × σ :=
  match source.decode first state with
  | (.error failure, _, state) => (.error failure, source, state)
  | (.ok values, middle, state) =>
      match middle.decode second state with
      | (.error failure, _, state) => (.error failure, source, state)
      | (.ok others, last, state) => (.ok (values ++ others), last, state)

theorem decode_bind_eq_decodeInTurn {first : Decoding σ (List Value)}
    (contained : first.SelfContained) (source : Source) (second : Decoding σ (List Value))
    (state : σ) :
    source.decode (first >>= fun values => (values ++ ·) <$> second) state =
      source.decodeInTurn first second state := by
  unfold decodeInTurn
  rcases run : first source.cursor state with ⟨failure | ⟨values, middle⟩, middleState⟩
  · simp only [decode, Decoding.bind_of_error run, run]
  · obtain ⟨bytes, passes, _⟩ := contained _ _ _ _ _ run
    have middle_eq := cursor_of_passes passes
    rcases runOthers : second middle middleState with ⟨failure | ⟨others, last⟩, lastState⟩
    · have failed : ((values ++ ·) <$> second) middle middleState = (.error failure, lastState) :=
        Decoding.bind_of_error runOthers
      simp only [decode, Decoding.bind_of_ok run, run, failed, middle_eq, runOthers]
    · simp only [decode, Decoding.bind_of_ok run, run, Decoding.map_of_ok runOthers, middle_eq,
        runOthers]

end Source

namespace Schema

theorem decode_append (schema : Schema) (host : Host σ) (source : Source) (state : σ)
    (items others : List Item) :
    source.decode (schema.decodeItems host (items ++ others)) state =
      source.decodeInTurn (schema.decodeItems host items) (schema.decodeItems host others)
        state := by
  rw [decodeItems, decodeItems_append]
  exact Source.decode_bind_eq_decodeInTurn (schema.selfContained_decodeItems host items) source _
    state

/-- Two texts with blanks in between are parsed to the items of both, and items one behind
the other are read in turn, with the calls of the first before those of the second. -/
theorem joined_reads_are_in_turn (σ : Type) :
    (∀ (first second blanks : String) (items others : List Item),
      Layout.parseItems first = .ok items → Layout.parseItems second = .ok others →
        Layout.IsGap blanks.toList → blanks ≠ "" →
          Layout.parseItems (first ++ blanks ++ second) = .ok (items ++ others)) ∧
    ∀ (schema : Schema) (host : Host σ) (source : Source) (state : σ) (calls : List String)
        (items others : List Item),
      source.decode (schema.decodeItems host (items ++ others)) state =
          source.decodeInTurn (schema.decodeItems host items) (schema.decodeItems host others)
            state ∧
        source.decode (schema.decodeItems host.recorded (items ++ others)) (state, calls) =
          source.decodeInTurn (schema.decodeItems host.recorded items)
            (schema.decodeItems host.recorded others) (state, calls) := by
  constructor
  · intro first second blanks items others parsed parsedOthers isGap notEmpty
    exact Layout.parseItems_append parsed parsedOthers isGap notEmpty
  · intro schema host source state calls items others
    exact ⟨schema.decode_append host source state items others,
      schema.decode_append host.recorded source (state, calls) items others⟩

/-- The second of two texts needs a terminator, without which the position is left in
front of what the first one reads. -/
theorem joined_reads_are_in_turn_entries :
    let items : List Item := [{ type := .builtin (.integer .u8) }, { type := .struct "entry" }]
    let others : List Item := [{ type := .call "serial" }, { type := .builtin .string }]
    let source : Source := ⟨"entries", [7, 5, 9, 104, 105, 0], 1⟩
    let short : Source := ⟨"short", [7, 5, 9, 104, 105], 1⟩
    let decode := entries.decodeItems countingHost.recorded (items ++ others)
    let inTurn (source : Source) := source.decodeInTurn
      (entries.decodeItems countingHost.recorded items)
      (entries.decodeItems countingHost.recorded others) (4, [])
    Layout.parseItems "u8 entry" = .ok items ∧ Layout.parseItems "@serial str" = .ok others ∧
      Layout.IsGap "　\n".toList ∧
      Layout.parseItems ("u8 entry" ++ "　\n" ++ "@serial str") = .ok (items ++ others) ∧
      inTurn source =
        (.ok [.integer 5, .record [("number", .integer 4), ("kind", .integer 9)], .integer 5,
          .string [104, 105]], { source with position := 6 }, (6, ["serial", "serial"])) ∧
      source.decode decode (4, []) = inTurn source ∧
      inTurn short = (.error (.missingTerminator 3), short, (6, ["serial", "serial"])) ∧
      short.decode decode (4, []) = inTurn short := by
  intro items others source short decode inTurn
  obtain ⟨ofTexts, ofItems⟩ := joined_reads_are_in_turn Nat
  have parsed : Layout.parseItems "u8 entry" = .ok items := by decide +kernel
  have parsedOthers : Layout.parseItems "@serial str" = .ok others := by decide +kernel
  have isGap : Layout.IsGap "　\n".toList := List.all_eq_true.mp (by decide)
  exact ⟨parsed, parsedOthers, isGap,
    ofTexts _ _ _ items others parsed parsedOthers isGap (by decide), rfl,
    (ofItems entries countingHost source 4 [] items others).2, rfl,
    (ofItems entries countingHost short 4 [] items others).2⟩

end Schema

end BinaryRecords
