import BinaryRecords.Extract.Basic
import BinaryRecords.Proofs.Outcomes
import Mathlib.Logic.Relation
import Mathlib.Tactic.Common

/-!
# Members of a shape

Each member of a shape is made by itself, from nothing but the first entry of the record under
its key.  So a shape is made exactly if each of its members is, and records that answer alike
for its keys make the same of it, also if they only do so for the members of shapes further
inside.
-/

namespace BinaryRecords

/-- The key of the entry that a member is taken from, if it is not skipped. -/
def Member.key? {α : Type} : Member α → Option String
  | .keyed key _ => some key
  | .skipped _ => none

/-- The keys of the members that are not skipped, in order. -/
def Shape.keys (shape : Shape) : List String :=
  shape.filterMap Member.key?

namespace Record

/-- Whether a record makes an extract of a member: the converted value of its entry, nothing
where the entry is absent and may be, or what a skipped member has anyway. -/
inductive Makes (record : Record) : Member Target → Extract → Prop
  | present {key : String} {target : Target} {value : Value} {extract : Extract}
      (found : record.get? key = some value) (converted : target.ofValue value = .ok extract) :
      Makes record (.keyed key target) extract
  | absent {key : String} {content : Target} (missing : record.get? key = none) :
      Makes record (.keyed key (.option content)) .absent
  | skipped (extract : Extract) : Makes record (.skipped extract) extract

/-- Whether a record fails to make anything of a member: its entry cannot be converted, or is
absent and may not be. -/
inductive Misses (record : Record) : Member Target → Error → Prop
  | unfit {key : String} {target : Target} {value : Value} {failure : Error}
      (found : record.get? key = some value) (refused : target.ofValue value = .error failure) :
      Misses record (.keyed key target) failure
  | missing {key : String} {target : Target} (missing : record.get? key = none)
      (needed : ∀ content, target ≠ .option content) :
      Misses record (.keyed key target) (.missingField key)

/-- Whether a record is another one with one entry more, which has a name of its own that is no
key, or stands somewhere behind an entry of the same name. -/
inductive Adds (keys : List String) : Record → Record → Prop
  | entry {before after : Record} {name : String} {value : Value}
      (unseen : name ∉ keys ∨ name ∈ before.map Prod.fst) :
      Adds keys (before ++ after) (before ++ (name, value) :: after)

theorem get?_eq_some_iff_mem {record : Record} (distinct : (record.map Prod.fst).Nodup)
    {key : String} {value : Value} : record.get? key = some value ↔ (key, value) ∈ record := by
  induction record with
  | nil => simp [get?]
  | cons entry record induction =>
      obtain ⟨name, found⟩ := entry
      obtain ⟨isNew, distinct⟩ := List.nodup_cons.mp distinct
      by_cases same : key = name
      · subst same
        have notBehind : (key, value) ∉ record :=
          fun member => isNew (List.mem_map.mpr ⟨_, member, rfl⟩)
        simp [get?, List.lookup_cons_self, notBehind, eq_comm]
      · have behind := induction distinct
        simp only [get?] at behind
        simp [get?, List.lookup_cons, beq_false_of_ne same, behind, same]

theorem get?_eq_of_perm {record other : Record} (perm : record.Perm other)
    (distinct : (record.map Prod.fst).Nodup) (key : String) :
    record.get? key = other.get? key := by
  have otherDistinct := (perm.map Prod.fst).nodup_iff.mp distinct
  ext value
  rw [get?_eq_some_iff_mem distinct, get?_eq_some_iff_mem otherDistinct, perm.mem_iff]

/-- An entry under a name that is no key, or behind one of the same name, is not looked up. -/
theorem Adds.get?_eq {keys : List String} {record other : Record} (adds : Adds keys record other)
    {key : String} (isKey : key ∈ keys) : record.get? key = other.get? key := by
  obtain ⟨unseen⟩ := adds
  rename_i before after name value
  simp only [get?, List.lookup_append, List.lookup_cons]
  by_cases same : key = name
  · subst same
    have isBefore : key ∈ before.map Prod.fst := unseen.resolve_left fun notKey => notKey isKey
    have isSome : (before.lookup key).isSome = true := by
      simpa [List.lookup_isSome_iff] using isBefore
    obtain ⟨found, lookup_eq⟩ := Option.isSome_iff_exists.mp isSome
    simp [lookup_eq]
  · simp [beq_false_of_ne same]

end Record

namespace Target

/-- What is made of a member. -/
def ofMember (record : Record) : Member Target → Except Error Extract
  | .keyed key target => target.ofEntry record key
  | .skipped extract => .ok extract

/-- Whether two values look alike to a target, so that they differ at most in entries that no
shape inside of it looks up. -/
inductive SeesAlike : Target → Value → Value → Prop
  | same (target : Target) (value : Value) : SeesAlike target value value
  | list {element : Target} {elements others : List Value}
      (length_eq : elements.length = others.length)
      (each : ∀ pair ∈ elements.zip others, SeesAlike element pair.1 pair.2) :
      SeesAlike (.list element) (.array elements) (.array others)
  | option {content : Target} {value other : Value} (alike : SeesAlike content value other) :
      SeesAlike (.option content) value other
  | shape {members : Shape} {record other : Record}
      (absent : ∀ key ∈ members.keys, record.get? key = none ↔ other.get? key = none)
      (present : ∀ key target, .keyed key target ∈ members → ∀ value otherValue,
        record.get? key = some value → other.get? key = some otherValue →
          SeesAlike target value otherValue) :
      SeesAlike (.shape members) (.record record) (.record other)

section

variable {record other : Record} {members : Shape} {member : Member Target} {key : String}
  {target : Target} {value : Value} {extract : Extract} {failure : Error}

theorem ofMember_of_some (found : record.get? key = some value) :
    ofMember record (.keyed key target) = target.ofValue value := by
  simp only [ofMember, ofEntry, found]

theorem ofMember_of_none (missing : record.get? key = none) :
    ofMember record (.keyed key target) = target.ofMissing key := by
  simp only [ofMember, ofEntry, missing]

/-- A shape is made of its members, one after the other. -/
theorem membersOfRecord_eq_mapM (members : Shape) (record : Record) :
    membersOfRecord members record = members.mapM (ofMember record) := by
  induction members with
  | nil => rw [membersOfRecord]; rfl
  | cons member members induction =>
      rw [List.mapM_cons, ← induction]
      cases member with
      | skipped extract => rw [membersOfRecord]; rfl
      | keyed key target =>
          rw [membersOfRecord]
          cases found : record.get? key with
          | some value => rw [ofMember_of_some found]; rfl
          | none => rw [ofMember_of_none found]; rfl

theorem ofMember_eq_ok_iff :
    ofMember record member = .ok extract ↔ record.Makes member extract := by
  constructor
  · intro made
    cases member with
    | skipped fixed =>
        cases made
        exact .skipped extract
    | keyed key target =>
        cases found : record.get? key with
        | some value =>
            rw [ofMember_of_some found] at made
            exact .present found made
        | none =>
            rw [ofMember_of_none found] at made
            cases target <;> cases made
            exact .absent found
  · rintro (⟨found, converted⟩ | ⟨missing⟩ | _)
    · rwa [ofMember_of_some found]
    · rw [ofMember_of_none missing]
      rfl
    · rfl

theorem ofMember_eq_error_iff :
    ofMember record member = .error failure ↔ record.Misses member failure := by
  constructor
  · intro failed
    cases member with
    | skipped fixed => cases failed
    | keyed key target =>
        cases found : record.get? key with
        | some value =>
            rw [ofMember_of_some found] at failed
            exact .unfit found failed
        | none =>
            rw [ofMember_of_none found] at failed
            cases target <;> cases failed <;> exact .missing found nofun
  · rintro (⟨found, refused⟩ | ⟨missing, needed⟩)
    · rwa [ofMember_of_some found]
    · rw [ofMember_of_none missing, ofMissing.eq_def]
      split
      · exact absurd rfl (needed _)
      · rfl

theorem key_mem_keys (isMember : .keyed key target ∈ members) : key ∈ members.keys :=
  List.mem_filterMap.mpr ⟨_, isMember, rfl⟩

theorem seesAlike_of_get?_eq (same : ∀ key ∈ members.keys, record.get? key = other.get? key) :
    (shape members).SeesAlike (.record record) (.record other) := by
  refine .shape (fun key isKey => by rw [same key isKey]) ?_
  intro key target isMember value otherValue found otherFound
  rw [same key (key_mem_keys isMember), otherFound] at found
  cases found
  exact .same target value

end

theorem ofValue_shape_record (members : Shape) (record : Record) :
    (shape members).ofValue (.record record) = (membersOfRecord members record).map .members := by
  rw [ofValue, Value.expectRecord]
  exact bind_ok_eq_map (membersOfRecord members record) Extract.members

theorem ofValue_list_array (element : Target) (elements : List Value) :
    (list element).ofValue (.array elements) = (elements.mapM element.ofValue).map .list := by
  rw [ofValue, Value.expectElements]
  exact bind_ok_eq_map (elements.mapM element.ofValue) Extract.list

/-- Values that look alike to a target are converted alike. -/
theorem SeesAlike.ofValue_eq {target : Target} {value other : Value}
    (alike : target.SeesAlike value other) : target.ofValue value = target.ofValue other := by
  induction alike with
  | same target value => rfl
  | list length_eq _ each =>
      rw [ofValue_list_array, ofValue_list_array]
      congr 1
      exact mapM_eq_of_forall₂ (List.forall₂_iff_zip.mpr ⟨length_eq, fun member => each _ member⟩)
  | option alike induction => rw [ofValue, ofValue, induction]
  | @shape members record other absent present induction =>
      rw [ofValue_shape_record, ofValue_shape_record, membersOfRecord_eq_mapM,
        membersOfRecord_eq_mapM]
      congr 1
      refine mapM_congr fun member isMember => ?_
      cases member with
      | skipped extract => rfl
      | keyed key target =>
          have bothAbsent := absent key (key_mem_keys isMember)
          cases found : record.get? key with
          | none => rw [ofMember_of_none found, ofMember_of_none (bothAbsent.mp found)]
          | some value =>
              cases otherFound : other.get? key with
              | none => simp [bothAbsent.mpr otherFound] at found
              | some otherValue =>
                  rw [ofMember_of_some found, ofMember_of_some otherFound]
                  exact induction key target isMember value otherValue found otherFound

end Target

namespace Shape

variable {shape : Shape} {record other : Record}

theorem ofRecord_eq_ok_iff {extract : Extract} :
    shape.ofRecord record = .ok extract ↔
      ∃ extracts, extract = .members extracts ∧ List.Forall₂ record.Makes shape extracts := by
  simp only [ofRecord, exceptMap_eq_ok_iff, Target.membersOfRecord_eq_mapM, mapM_eq_ok_iff,
    Target.ofMember_eq_ok_iff, and_comm]

theorem ofRecord_eq_error_iff {failure : Error} :
    shape.ofRecord record = .error failure ↔
      ∃ before member after, shape = before ++ member :: after ∧
        (∀ earlier ∈ before, ∃ extract, record.Makes earlier extract) ∧
          record.Misses member failure := by
  simp only [ofRecord, exceptMap_eq_error_iff, Target.membersOfRecord_eq_mapM, mapM_eq_error_iff,
    Target.ofMember_eq_ok_iff, Target.ofMember_eq_error_iff]

theorem exists_makes_iff {key : String} {target : Target} :
    (∃ extract, record.Makes (.keyed key target) extract) ↔
      (∃ value extract, record.get? key = some value ∧ target.ofValue value = .ok extract) ∨
        record.get? key = none ∧ ∃ content, target = .option content := by
  constructor
  · rintro ⟨extract, ⟨found, converted⟩ | ⟨missing⟩⟩
    · exact .inl ⟨_, _, found, converted⟩
    · exact .inr ⟨missing, _, rfl⟩
  · rintro (⟨value, extract, found, converted⟩ | ⟨missing, content, rfl⟩)
    · exact ⟨extract, .present found converted⟩
    · exact ⟨.absent, .absent missing⟩

/-- A shape is made of a record if and only if each of its members is. -/
theorem exists_ofRecord_eq_ok_iff :
    (∃ extract, shape.ofRecord record = .ok extract) ↔
      ∀ key target, .keyed key target ∈ shape →
        (∃ value extract, record.get? key = some value ∧ target.ofValue value = .ok extract) ∨
          record.get? key = none ∧ ∃ content, target = .option content := by
  have allMade : (∃ extract, shape.ofRecord record = .ok extract) ↔
      ∀ member ∈ shape, ∃ extract, record.Makes member extract := by
    simp only [← Target.ofMember_eq_ok_iff, ← exists_mapM_eq_ok_iff, ofRecord,
      exceptMap_eq_ok_iff, Target.membersOfRecord_eq_mapM]
    exact ⟨fun ⟨_, extracts, made, _⟩ => ⟨extracts, made⟩,
      fun ⟨extracts, made⟩ => ⟨_, extracts, made, rfl⟩⟩
  rw [allMade]
  constructor
  · intro each key target isMember
    exact exists_makes_iff.mp (each _ isMember)
  · rintro each (⟨key, target⟩ | ⟨extract⟩) isMember
    · exact exists_makes_iff.mpr (each key target isMember)
    · exact ⟨extract, .skipped extract⟩

theorem ofRecord_eq_of_seesAlike
    (alike : (Target.shape shape).SeesAlike (.record record) (.record other)) :
    shape.ofRecord record = shape.ofRecord other := by
  have converted := alike.ofValue_eq
  rwa [Target.ofValue_shape_record, Target.ofValue_shape_record] at converted

theorem ofRecord_congr (same : ∀ key ∈ shape.keys, record.get? key = other.get? key) :
    shape.ofRecord record = shape.ofRecord other :=
  ofRecord_eq_of_seesAlike (Target.seesAlike_of_get?_eq same)

theorem ofRecord_of_adds (added : Relation.ReflTransGen (Record.Adds shape.keys) record other) :
    shape.ofRecord record = shape.ofRecord other := by
  induction added with
  | refl => rfl
  | tail _ adds induction =>
      exact induction.trans (ofRecord_congr fun key isKey => adds.get?_eq isKey)

end Shape

end BinaryRecords
