import BinaryRecords.Proofs.Schema.Description
import BinaryRecords.Proofs.Schema.Searching

/-!
# Which declarations succeed

A struct can be declared exactly if its fields embed only declared structs, none of which
is the new one or leads back to it.  The errors tell the truth: the first field that embeds
the new struct or an undeclared one decides, and where there is none, a declared struct to
which the fields lead embeds the new one.
-/

namespace BinaryRecords

section

variable {structs : List Struct} {name : String}

/-- Names of other declared structs pass the check of names in front of any others. -/
theorem checkNames_append_of_clear {inners : List String}
    (clear : ∀ inner ∈ inners, inner ≠ name ∧ declares structs inner = true)
    (others : List String) :
    checkNames structs name (inners ++ others) = checkNames structs name others := by
  induction inners with
  | nil => rfl
  | cons inner inners induction =>
      obtain ⟨different, declared⟩ := clear inner List.mem_cons_self
      rw [List.cons_append, checkNames, if_neg different, if_pos declared]
      exact induction fun other member => clear other (List.mem_cons_of_mem _ member)

theorem checkNames_eq_ok_iff {inners : List String} :
    checkNames structs name inners = .ok () ↔
      ∀ inner ∈ inners, inner ≠ name ∧ declares structs inner = true := by
  constructor
  · intro passes inner member
    exact declares_of_checkNames passes member
  · intro clear
    have passes := checkNames_append_of_clear clear []
    rwa [List.append_nil] at passes

/-- Putting a struct in its place changes the fields of no other struct. -/
theorem fieldsOf?_place_of_ne (structs : List Struct) {other : String} (different : other ≠ name)
    (fields : List Field) :
    fieldsOf? (place structs name fields) other = fieldsOf? structs other := by
  have inFront := fieldsOf?_filter structs
    (fun struct => struct != name && (dependents name structs).contains struct) other
  have behind := fieldsOf?_filter structs
    (fun struct => struct != name && !(dependents name structs).contains struct) other
  have isOther : (other != name) = true := bne_iff_ne.mpr different
  have notNew : ¬ (⟨name, fields⟩ : Struct).name = other := fun same => different same.symm
  have appended (first second : List Struct) : fieldsOf? (first ++ second) other =
      (fieldsOf? first other).or (fieldsOf? second other) := by
    simp only [fieldsOf?, List.find?_append, Option.map_or]
  rw [place, placeBehind, appended, fieldsOf?_cons, if_neg notNew, inFront, behind, isOther]
  cases (dependents name structs).contains other <;> simp

end

namespace Schema

variable {schema : Schema} {name : String} {fields : List Field}

/-- Whether a field keeps a struct from being declared on its own, because it embeds this
struct or one that is not declared. -/
def Bars (schema : Schema) (name : String) (field : Field) : Prop :=
  ∃ inner, field.structName? = some inner ∧ (inner = name ∨ schema.contains inner = false)

theorem clear_of_not_bars (unbarred : ∀ field ∈ fields, ¬ schema.Bars name field) :
    ∀ inner ∈ embedded fields, inner ≠ name ∧ declares schema.structs inner = true := by
  intro inner embeds
  obtain ⟨field, member, isStruct⟩ := List.mem_filterMap.mp embeds
  have notBarred := unbarred field member
  constructor
  · intro same
    exact notBarred ⟨inner, isStruct, Or.inl same⟩
  · rw [← Bool.not_eq_false]
    intro undeclared
    exact notBarred ⟨inner, isStruct, Or.inr undeclared⟩

theorem declare_of_checkWidth_error {failure : Error}
    (width : checkWidth schema.structs name fields = .error failure) :
    schema.declare name fields = .error failure := by
  simp only [declare, width, bind, Except.bind]

theorem declare_of_checkDepth_error {failure : Error}
    (width : checkWidth schema.structs name fields = .ok ())
    (depth : checkDepth schema.structs name fields = .error failure) :
    schema.declare name fields = .error failure := by
  simp only [declare, width, depth, bind, Except.bind]

/-- The check of names stops at the first field that embeds the new struct or one that is
not declared. -/
theorem checkWidth_of_first {before : List Field} {field : Field} {inner : String}
    (after : List Field) (unbarred : ∀ earlier ∈ before, ¬ schema.Bars name earlier)
    (isStruct : field.structName? = some inner) :
    checkWidth schema.structs name (before ++ field :: after) =
      checkNames schema.structs name (inner :: embedded after) := by
  have embedded_eq : embedded (before ++ field :: after) =
      embedded before ++ inner :: embedded after := by
    simp only [embedded, List.filterMap_append, List.filterMap_cons_some isStruct]
  rw [checkWidth, embedded_eq]
  exact checkNames_append_of_clear (clear_of_not_bars unbarred) _

/-- A struct to which embeddings of the fields lead is met, as long as all that is met has
another name. -/
theorem meets_of_reflTransGen
    (different : ∀ other, Meets schema.structs name fields other → other ≠ name)
    {inner other : String} (embeds : inner ∈ embedded fields)
    (path : Relation.ReflTransGen schema.Embeds inner other) :
    Meets schema.structs name fields other := by
  induction path with
  | refl => exact .direct embeds
  | tail _ embedsNext meets =>
      obtain ⟨outerFields, found, embedsInner⟩ := embedsNext
      exact .behind meets (different _ meets) found embedsInner

theorem exists_path_of_meets {other : String} (meets : Meets schema.structs name fields other) :
    ∃ inner ∈ embedded fields, Relation.ReflTransGen schema.Embeds inner other := by
  induction meets with
  | direct embeds => exact ⟨_, embeds, .refl⟩
  | behind _ _ found embeds induction =>
      obtain ⟨inner, ofFields, path⟩ := induction
      exact ⟨inner, ofFields, path.tail ⟨_, found, embeds⟩⟩

/-- Fields that pass the check of cycles embed no struct that leads to the name. -/
theorem not_transGen_of_checkDepth (depth : checkDepth schema.structs name fields = .ok ())
    {inner : String} (embeds : inner ∈ embedded fields) :
    ¬ Relation.TransGen schema.Embeds inner name := by
  have clear := checkDepth_eq_ok_iff.mp depth
  intro path
  have meets := meets_of_reflTransGen (fun other meets => (clear other meets).1) embeds
    path.to_reflTransGen
  exact (clear name meets).1 rfl

/-- Where the check of cycles fails behind that of names, a declared struct to which the
fields lead embeds the new one, and it is the one that the error names. -/
theorem exists_via_of_checkDepth_error (layered : Layered schema.structs) {failure : Error}
    (clear : ∀ inner ∈ embedded fields, inner ≠ name ∧ declares schema.structs inner = true)
    (failed : checkDepth schema.structs name fields = .error failure) :
    ∃ via inner, failure = .circularDefinition name via ∧ schema.contains via = true ∧
      inner ∈ embedded fields ∧ Relation.ReflTransGen schema.Embeds inner via ∧
        schema.Embeds via name := by
  rcases exists_isFollowed_of_checkDepth_error failed with
    ⟨via, failure_eq, isFollowed⟩ | ⟨outer, missing, _, _, undeclared, isFollowed⟩
  · rcases isFollowed with ⟨_, ofFields⟩ | ⟨_, meets, viaFields, found, embedsName⟩
    · exact absurd rfl (clear _ ofFields).1
    · obtain ⟨inner, ofFields, path⟩ := exists_path_of_meets meets
      exact ⟨via, inner, failure_eq, contains_iff.mpr ⟨viaFields, found⟩, ofFields, path,
        viaFields, found, embedsName⟩
  · -- Nothing undeclared is ever met, as declared structs embed only declared ones.
    have declared : declares schema.structs missing = true := by
      rcases isFollowed with ⟨_, ofFields⟩ | ⟨_, _, outerFields, found, embeds⟩
      · exact (clear _ ofFields).2
      · exact contains_of_embedded layered found embeds
    rw [undeclared] at declared
    cases declared

theorem exists_declare_eq_ok_iff (layered : Layered schema.structs) :
    (∃ declared, schema.declare name fields = .ok declared) ↔
      name ∉ embedded fields ∧ (∀ inner ∈ embedded fields, schema.contains inner = true) ∧
        ∀ inner ∈ embedded fields, ¬ Relation.TransGen schema.Embeds inner name := by
  constructor
  · rintro ⟨declared, success⟩
    obtain ⟨width, depth, _⟩ := declare_eq_ok_iff.mp success
    have clear := checkNames_eq_ok_iff.mp width
    refine ⟨?_, fun inner embeds => (clear inner embeds).2, fun inner embeds =>
      not_transGen_of_checkDepth depth embeds⟩
    intro embedsItself
    exact (clear name embedsItself).1 rfl
  · rintro ⟨notItself, allDeclared, noneLeadsBack⟩
    have clear : ∀ inner ∈ embedded fields,
        inner ≠ name ∧ declares schema.structs inner = true := by
      intro inner embeds
      refine ⟨?_, allDeclared inner embeds⟩
      rintro rfl
      exact notItself embeds
    have width : checkWidth schema.structs name fields = .ok () := checkNames_eq_ok_iff.mpr clear
    cases depth : checkDepth schema.structs name fields with
    | ok _ => exact ⟨_, declare_eq_ok_iff.mpr ⟨width, depth, rfl⟩⟩
    | error failure =>
        obtain ⟨via, inner, _, _, embeds, path, embedsName⟩ :=
          exists_via_of_checkDepth_error layered clear depth
        exact absurd (Relation.TransGen.tail' path embedsName) (noneLeadsBack inner embeds)

/-- A struct of a new name can be declared if it embeds only declared structs. -/
theorem declare_of_new (layered : Layered schema.structs) (isNew : schema.contains name = false)
    (allDeclared : ∀ inner ∈ embedded fields, schema.contains inner = true) :
    schema.declare name fields = .ok ⟨place schema.structs name fields⟩ := by
  have notDeclared : ¬ schema.contains name = true := by
    rw [isNew]
    exact Bool.false_ne_true
  have noneLeadsBack : ∀ inner ∈ embedded fields,
      ¬ Relation.TransGen schema.Embeds inner name := by
    intro inner _ leads
    obtain ⟨outer, _, outerFields, found, embedsName⟩ := Relation.TransGen.tail'_iff.mp leads
    exact notDeclared (contains_of_embedded layered found embedsName)
  obtain ⟨declared, success⟩ := (exists_declare_eq_ok_iff layered).mpr
    ⟨fun embedsItself => notDeclared (allDeclared name embedsItself), allDeclared, noneLeadsBack⟩
  obtain ⟨_, _, rfl⟩ := declare_eq_ok_iff.mp success
  exact success

/-- A declaration succeeds exactly if the fields embed declared structs that are not the new
one and do not lead back to it, and then it changes nothing but the fields of its name.  If
it fails, the first field that embeds the new struct or an undeclared one is to blame, and
where there is none, a declared struct that the fields lead to and that embeds the new one.
The check of cycles never misses a struct. -/
theorem declare_decides_and_blames (reachable : schema.Reachable) (name : String)
    (fields : List Field) :
    ((∃ declared, schema.declare name fields = .ok declared) ↔
      name ∉ embedded fields ∧ (∀ inner ∈ embedded fields, schema.contains inner = true) ∧
        ∀ inner ∈ embedded fields, ¬ Relation.TransGen schema.Embeds inner name) ∧
    (∀ declared, schema.declare name fields = .ok declared →
      schema.perform (.declare name fields) = declared ∧
        declared.fields? name = some fields ∧
          ∀ other, other ≠ name → declared.fields? other = schema.fields? other) ∧
    (∀ failure, schema.declare name fields = .error failure →
      schema.perform (.declare name fields) = schema) ∧
    (∀ before field after inner, fields = before ++ field :: after →
      (∀ earlier ∈ before, ¬ schema.Bars name earlier) → field.structName? = some inner →
        (inner = name → schema.declare name fields = .error (.selfReference name)) ∧
          (inner ≠ name → schema.contains inner = false →
            schema.declare name fields = .error (.missingDefinition name inner))) ∧
    ((∀ field ∈ fields, ¬ schema.Bars name field) →
      (∀ failure, schema.declare name fields = .error failure →
        ∃ via inner, failure = .circularDefinition name via ∧ schema.contains via = true ∧
          inner ∈ embedded fields ∧ Relation.ReflTransGen schema.Embeds inner via ∧
            schema.Embeds via name) ∧
        ∀ outer missing,
          checkDepth schema.structs name fields ≠ .error (.missingDefinition outer missing)) := by
  have layered := reachable.layered
  refine ⟨exists_declare_eq_ok_iff layered, ?_, ?_, ?_, ?_⟩
  · intro declared success
    have performed : schema.perform (.declare name fields) = declared := by
      simp only [perform, success]
    obtain ⟨_, _, rfl⟩ := declare_eq_ok_iff.mp success
    exact ⟨performed, fieldsOf?_place _ _ _, fun other different =>
      fieldsOf?_place_of_ne _ different fields⟩
  · intro failure failed
    simp only [perform, failed]
  · rintro before field after inner rfl unbarred isStruct
    have width := checkWidth_of_first after unbarred isStruct
    constructor
    · intro same
      apply declare_of_checkWidth_error
      rw [width, checkNames, if_pos same]
    · intro different undeclared
      apply declare_of_checkWidth_error
      have notDeclared : ¬ declares schema.structs inner = true := by
        rw [Bool.not_eq_true]
        exact undeclared
      rw [width, checkNames, if_neg different, if_neg notDeclared]
  · intro unbarred
    have clear := clear_of_not_bars unbarred
    have width : checkWidth schema.structs name fields = .ok () := checkNames_eq_ok_iff.mpr clear
    constructor
    · intro failure failed
      cases depth : checkDepth schema.structs name fields with
      | ok _ =>
          rw [declare_eq_ok_iff.mpr ⟨width, depth, rfl⟩] at failed
          cases failed
      | error found =>
          rw [declare_of_checkDepth_error width depth] at failed
          cases failed
          exact exists_via_of_checkDepth_error layered clear depth
    · intro outer missing failed
      obtain ⟨via, inner, failure_eq, _⟩ := exists_via_of_checkDepth_error layered clear failed
      cases failure_eq

/-- The pair cannot be declared anew with the struct that embeds it. -/
theorem declare_decides_and_blames_taggedPairs :
    taggedPairs.declare "pair" [⟨{ type := .struct "tagged" }, none⟩] =
      .error (.circularDefinition "pair" "tagged") := by
  obtain ⟨decides, _, _, _, blames⟩ := declare_decides_and_blames reachable_taggedPairs "pair"
    [⟨{ type := .struct "tagged" }, none⟩]
  have embeds : taggedPairs.Embeds "tagged" "pair" := ⟨taggedPairsFields, by decide, by decide⟩
  have unbarred : ∀ field ∈ [(⟨{ type := .struct "tagged" }, none⟩ : Field)],
      ¬ taggedPairs.Bars "pair" field := by
    rintro field member ⟨inner, isStruct, bars⟩
    cases List.mem_singleton.mp member
    cases isStruct
    revert bars
    decide
  cases outcome : taggedPairs.declare "pair" [⟨{ type := .struct "tagged" }, none⟩] with
  | ok declared =>
      obtain ⟨_, _, noneLeadsBack⟩ := decides.mp ⟨declared, outcome⟩
      exact absurd (.single embeds) (noneLeadsBack "tagged" (by decide))
  | error failure =>
      obtain ⟨via, _, rfl, _, _, _, fields, found, embedsPair⟩ :=
        (blames unbarred).1 failure outcome
      by_cases isTagged : "tagged" = via
      · rw [← isTagged]
      · by_cases isPair : "pair" = via
        · subst isPair
          cases found
          exact absurd embedsPair (by decide)
        · have missing : taggedPairs.fields? via = none := by
            rw [taggedPairs, Schema.fields?, fieldsOf?_cons, if_neg isTagged, fieldsOf?_cons,
              if_neg isPair]
            rfl
          rw [missing] at found
          cases found

end Schema

end BinaryRecords
