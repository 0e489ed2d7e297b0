import BinaryRecords.Proofs.Extract.Members
import BinaryRecords.Proofs.Session.Failure
import BinaryRecords.Proofs.Session.StructReads

/-!
# Reading shapes

To read a struct into a shape is to read its record and then to look up the members.  Neither
the order of the entries nor entries that are not looked up matter, and where either step fails
the source is back at the position at which it was.
-/

namespace BinaryRecords

namespace Session

variable {σ : Type} {session : Session σ}

/-- The session with its source, if there is one, at a given position. -/
def rewind (session : Session σ) (position : Nat) : Session σ :=
  { session with source := session.source.map fun source => { source with position := position } }

/-- Reading a struct moves the source and changes nothing else in it. -/
theorem source_readRecord (session : Session σ) (name : String) :
    ∃ position, (session.readRecord name).2.source =
      session.source.map fun source => { source with position := position } := by
  cases source_eq : session.source with
  | none =>
      refine ⟨0, ?_⟩
      rw [readRecord_of_none name source_eq, source_eq]
      rfl
  | some source =>
      rw [readRecord_of_some name source_eq, decode]
      rcases run : source.decode (session.schema.decodeRecord session.host name)
        session.hostState with ⟨failure | record, after, state⟩
      · obtain ⟨_, rfl⟩ := Source.decode_eq_error run
        exact ⟨after.position, rfl⟩
      · obtain ⟨cursor, _, rfl⟩ := Source.decode_eq_ok run
        exact ⟨cursor.position, rfl⟩

/-- To rewind after a struct has been read is to give the source back as it was. -/
theorem rewind_readRecord {name : String} {result : Except Error Record} {after : Session σ}
    (run : session.readRecord name = (result, after)) {start : Nat}
    (startsAt : session.position? = some start) :
    after.rewind start = { after with source := session.source } := by
  obtain ⟨position, moved⟩ := source_readRecord session name
  obtain ⟨source, source_eq, rfl⟩ := Option.map_eq_some_iff.mp startsAt
  rw [run, source_eq, Option.map_some] at moved
  change after.source = _ at moved
  simp only [rewind, source_eq, moved, Option.map_some]

/-- A struct is read into a shape by reading its record and looking up the members. -/
theorem readShape_eq (shape : Shape) (name : String) {start : Nat}
    (startsAt : session.position? = some start) :
    session.readShape shape name =
      match session.readRecord name with
      | (.error failure, after) => (.error failure, after)
      | (.ok record, after) =>
          match shape.ofRecord record with
          | .ok extract => (.ok extract, after)
          | .error failure => (.error failure, after.rewind start) := by
  rcases run : session.readRecord name with ⟨failure | record, after⟩
  · exact readShape_of_error run
  · cases made : shape.ofRecord record with
    | ok extract => simp only [readShape_of_ok run made, made]
    | error failure => simp only [readShape_of_unfit run made, made, rewind_readRecord run startsAt]

theorem readShape_of_none (shape : Shape) (name : String) (source_eq : session.source = none) :
    session.readShape shape name = (.error .noSource, session) :=
  readShape_of_error (readRecord_of_none name source_eq)

/-- A shape is made of what a record has under its keys and of nothing else: records that answer
alike for the keys, or that look alike to the shape down to the shapes inside of it, have the same
outcome, and so have a record whose names are distinct in any other order, and a record with more
entries of other names or behind entries of the same name.  All members have to be made, each of
its own entry, and the first that is not decides how it fails.  In a session, a struct is read into
a shape by reading its record first, and the source is left behind it if both steps succeed and
where it was if not. -/
theorem shapes_look_up_by_name (σ : Type) (shape : Shape) :
    (∀ record other : Record,
      ((∀ key ∈ shape.keys, record.get? key = other.get? key) →
        shape.ofRecord record = shape.ofRecord other) ∧
      ((Target.shape shape).SeesAlike (.record record) (.record other) →
        shape.ofRecord record = shape.ofRecord other) ∧
      (record.Perm other → (record.map Prod.fst).Nodup →
        shape.ofRecord record = shape.ofRecord other) ∧
      (Relation.ReflTransGen (Record.Adds shape.keys) record other →
        shape.ofRecord record = shape.ofRecord other)) ∧
    (∀ record : Record,
      ((∃ extract, shape.ofRecord record = .ok extract) ↔
        ∀ key target, .keyed key target ∈ shape →
          (∃ value extract, record.get? key = some value ∧ target.ofValue value = .ok extract) ∨
            record.get? key = none ∧ ∃ content, target = .option content) ∧
      (∀ extract, shape.ofRecord record = .ok extract ↔
        ∃ extracts, extract = .members extracts ∧ List.Forall₂ record.Makes shape extracts) ∧
      ∀ failure, shape.ofRecord record = .error failure ↔
        ∃ before member after, shape = before ++ member :: after ∧
          (∀ earlier ∈ before, ∃ extract, record.Makes earlier extract) ∧
            record.Misses member failure) ∧
    ∀ (session : Session σ) (name : String),
      (session.source = none → session.readShape shape name = (.error .noSource, session)) ∧
      ∀ start, session.position? = some start →
        session.readShape shape name =
          (match session.readRecord name with
          | (.error failure, after) => (.error failure, after)
          | (.ok record, after) =>
              match shape.ofRecord record with
              | .ok extract => (.ok extract, after)
              | .error failure => (.error failure, after.rewind start)) ∧
        ∀ failure, (session.readShape shape name).1 = .error failure →
          (session.readShape shape name).2.source = session.source := by
  refine ⟨fun record other => ⟨Shape.ofRecord_congr, Shape.ofRecord_eq_of_seesAlike, ?_,
    Shape.ofRecord_of_adds⟩, fun record => ⟨Shape.exists_ofRecord_eq_ok_iff,
    fun extract => Shape.ofRecord_eq_ok_iff, fun failure => Shape.ofRecord_eq_error_iff⟩,
    fun session name => ⟨readShape_of_none shape name, fun start startsAt => ?_⟩⟩
  · intro perm distinct
    exact Shape.ofRecord_congr fun key _ => Record.get?_eq_of_perm perm distinct key
  · refine ⟨readShape_eq shape name startsAt, fun failure failed => ?_⟩
    exact (readShape_keeps failed).source_eq

/-- A tagged list of pairs, whose second numbers have a given type, with a note that it need not
have and a comment that is never looked up. -/
def taggedShape (second : IntegerTarget) : Shape :=
  [.keyed "tag" .text, .skipped (.text ""), .keyed "note" (.option .text),
    .keyed "pairs" (.list (.shape
      [.keyed "second" (.integer second), .keyed "first" (.integer .u8)]))]

theorem seesAlike_pair (type : IntegerTarget) (first second other : Int64) :
    (Target.shape [.keyed "second" (.integer type), .keyed "first" (.integer .u8)]).SeesAlike
      (.record [("first", .integer first), ("second", .integer second)])
      (.record [("second", .integer second), ("first", .integer first),
        ("first", .integer other)]) := by
  apply Target.seesAlike_of_get?_eq
  intro key isKey
  simp only [Shape.keys, List.filterMap, Member.key?, List.mem_cons, List.not_mem_nil,
    or_false] at isKey
  rcases isKey with rfl | rfl <;> rfl

/-- Records look alike to the shape if they have the same tag and note and their pairs do. -/
theorem seesAlike_taggedShape {type : IntegerTarget} {record other : Record}
    {pairs others : List Value} (sameTag : record.get? "tag" = other.get? "tag")
    (sameNote : record.get? "note" = other.get? "note")
    (found : record.get? "pairs" = some (.array pairs))
    (otherFound : other.get? "pairs" = some (.array others))
    (length_eq : pairs.length = others.length)
    (each : ∀ pair ∈ pairs.zip others, (Target.shape
      [.keyed "second" (.integer type), .keyed "first" (.integer .u8)]).SeesAlike pair.1 pair.2) :
    (Target.shape (taggedShape type)).SeesAlike (.record record) (.record other) := by
  refine .shape ?_ ?_
  · intro key isKey
    simp only [taggedShape, Shape.keys, List.filterMap, Member.key?, List.mem_cons,
      List.not_mem_nil, or_false] at isKey
    rcases isKey with rfl | rfl | rfl
    · rw [sameTag]
    · rw [sameNote]
    · rw [found, otherFound]
      exact iff_of_false nofun nofun
  · intro key target isMember value otherValue value_eq otherValue_eq
    simp only [taggedShape, List.mem_cons, List.not_mem_nil, Member.keyed.injEq, reduceCtorEq,
      or_false, false_or] at isMember
    rcases isMember with ⟨rfl, rfl⟩ | ⟨rfl, rfl⟩ | ⟨rfl, rfl⟩
    · cases value_eq.symm.trans (sameTag.trans otherValue_eq)
      exact .same _ _
    · cases value_eq.symm.trans (sameNote.trans otherValue_eq)
      exact .same _ _
    · cases found.symm.trans value_eq
      cases otherFound.symm.trans otherValue_eq
      exact .list length_eq each

/-- The order of the entries does not matter, also in records further inside, and neither do
entries that are not looked up.  A number that is negative does not fit where none can be, and
then the source is where it was. -/
theorem shapes_look_up_by_name_taggedPairs :
    let pair (first second : Int64) : Value :=
      .record [("first", .integer first), ("second", .integer second)]
    let swapped (first second : Int64) : Value :=
      .record [("second", .integer second), ("first", .integer first), ("first", .integer 9)]
    let record : Record :=
      [("pairs", .array [pair 1 (-2), pair 2 3]), ("tag", .string [97, 98])]
    let other : Record :=
      [("size", .integer 2), ("tag", .string [97, 98]),
        ("pairs", .array [swapped 1 (-2), swapped 2 3]), ("tag", .integer 0)]
    let extract : Extract := .members [.text "ab", .text "", .absent,
      .list [.members [.integer (-2), .integer 1], .members [.integer 3, .integer 2]]]
    (taggedSession.readRecord "tagged").1 = .ok record ∧
      (taggedShape .i16).ofRecord other = .ok extract ∧
      (taggedSession.readShape (taggedShape .i16) "tagged").1 = .ok extract ∧
      (taggedSession.readShape (taggedShape .i16) "tagged").2.position? = some 13 ∧
      (taggedSession.readShape (taggedShape .u16) "tagged").1 =
        .error (.integerOutOfRange .u16) ∧
      (taggedSession.readShape (taggedShape .u16) "tagged").2.source = taggedSession.source := by
  intro pair swapped record other extract
  obtain ⟨sameOutcome, outcomes, reads⟩ := shapes_look_up_by_name Unit (taggedShape .i16)
  obtain ⟨_, unfitOutcomes, unfitReads⟩ := shapes_look_up_by_name Unit (taggedShape .u16)
  have alike : (Target.shape (taggedShape .i16)).SeesAlike (.record record) (.record other) := by
    refine seesAlike_taggedShape rfl rfl rfl rfl rfl fun values isPair => ?_
    simp only [List.zip_cons_cons, List.zip_nil_right, List.mem_cons, List.not_mem_nil,
      or_false] at isPair
    rcases isPair with rfl | rfl <;> exact seesAlike_pair .i16 _ _ 9
  have made : (taggedShape .i16).ofRecord record = .ok extract := by
    refine ((outcomes record).2.1 extract).mpr ⟨_, rfl, ?_⟩
    exact .cons (.present rfl rfl) (.cons (.skipped _)
      (.cons (.absent rfl) (.cons (.present rfl rfl) .nil)))
  have unfit : (taggedShape .u16).ofRecord record = .error (.integerOutOfRange .u16) := by
    refine ((unfitOutcomes record).2.2 _).mpr
      ⟨[.keyed "tag" .text, .skipped (.text ""), .keyed "note" (.option .text)], _, [], rfl, ?_,
        .unfit rfl rfl⟩
    simp only [List.forall_mem_cons]
    exact ⟨⟨_, .present rfl rfl⟩, ⟨_, .skipped _⟩, ⟨_, .absent rfl⟩, nofun⟩
  have run : taggedSession.readRecord "tagged" = (.ok record, { taggedSession with
      source := some ⟨"pairs", [1, 7, 7, 0xFE, 0xFF, 2, 8, 8, 3, 0, 97, 98, 0], 13⟩ }) := by
    have decoded := Source.decode_of_yields Schema.yields_taggedPairs "pairs" [] [] ()
    exact congrArg (fun outcome : Except Error Record × Source × Unit =>
      (outcome.1, { taggedSession with source := some outcome.2.1 })) decoded
  obtain ⟨fitRun, _⟩ := (reads taggedSession "tagged").2 0 rfl
  obtain ⟨unfitRun, restored⟩ := (unfitReads taggedSession "tagged").2 0 rfl
  rw [run] at fitRun unfitRun
  simp only [made] at fitRun
  simp only [unfit] at unfitRun
  refine ⟨congrArg Prod.fst run, ((sameOutcome record other).2.1 alike).symm.trans made,
    ?_, ?_, ?_, ?_⟩
  · rw [fitRun]
  · rw [fitRun]
    rfl
  · rw [unfitRun]
  · exact restored _ (congrArg Prod.fst unfitRun)

end Session

end BinaryRecords
