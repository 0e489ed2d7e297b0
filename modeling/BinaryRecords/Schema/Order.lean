import BinaryRecords.Schema.Declare

/-!
# The order of the structs

The structs of a schema are layered: each is declared once and embeds only
structs behind it.  Declaring a struct keeps them layered.  In a layered list a
struct means what its fields mean when every struct has its meaning, although
`meanings` looks only at the structs behind it.
-/

namespace BinaryRecords

/-- Whether each struct is declared once and embeds only structs behind it. -/
def Layered : List Struct → Prop
  | [] => True
  | struct :: behind =>
      declares behind struct.name = false ∧
        (∀ inner ∈ embedded struct.fields, declares behind inner = true) ∧
          Layered behind

/-- Whether the meaning of fields depends only on the structs that they embed. -/
def IsLocal {α : Type} (interpret : (String → Option α) → List Field → α) : Prop :=
  ∀ (known other : String → Option α) (fields : List Field),
    (∀ inner ∈ embedded fields, known inner = other inner) →
      interpret known fields = interpret other fields

theorem declares_iff {structs : List Struct} {name : String} :
    declares structs name = true ↔ ∃ struct ∈ structs, struct.name = name := by
  simp [declares]

theorem not_declares_iff {structs : List Struct} {name : String} :
    declares structs name = false ↔ ∀ struct ∈ structs, struct.name ≠ name := by
  simp [declares]

theorem fieldsOf?_cons (struct : Struct) (behind : List Struct) (name : String) :
    fieldsOf? (struct :: behind) name =
      if struct.name = name then some struct.fields else fieldsOf? behind name := by
  by_cases same : struct.name = name <;> simp [fieldsOf?, same]

theorem exists_mem_of_fieldsOf? {structs : List Struct} {name : String}
    {fields : List Field} (found : fieldsOf? structs name = some fields) :
    ∃ struct ∈ structs, struct.name = name ∧ struct.fields = fields := by
  obtain ⟨struct, foundStruct, fieldsEq⟩ := Option.map_eq_some_iff.mp found
  exact ⟨struct, List.mem_of_find?_eq_some foundStruct,
    by simpa using List.find?_some foundStruct, fieldsEq⟩

theorem declares_of_fieldsOf? {structs : List Struct} {name : String}
    {fields : List Field} (found : fieldsOf? structs name = some fields) :
    declares structs name = true := by
  obtain ⟨struct, member, named, _⟩ := exists_mem_of_fieldsOf? found
  exact declares_iff.mpr ⟨struct, member, named⟩

theorem fieldsOf?_filter (structs : List Struct) (kept : String → Bool) (name : String) :
    fieldsOf? (structs.filter fun struct => kept struct.name) name =
      if kept name then fieldsOf? structs name else none := by
  induction structs with
  | nil => simp [fieldsOf?]
  | cons struct behind induction =>
      rw [List.filter_cons, fieldsOf?_cons]
      by_cases same : struct.name = name
      · subst same
        by_cases isKept : kept struct.name
        · rw [if_pos isKept, if_pos isKept, fieldsOf?_cons, if_pos rfl, if_pos rfl]
        · rw [if_neg isKept, induction, if_neg isKept, if_neg isKept]
      · rw [if_neg same, ← induction]
        split
        · rw [fieldsOf?_cons, if_neg same]
        · rfl

theorem fieldsOf?_withoutStruct (structs : List Struct) (name other : String) :
    fieldsOf? (withoutStruct structs name) other =
      if other = name then none else fieldsOf? structs other := by
  rw [withoutStruct, fieldsOf?_filter structs (· != name)]
  by_cases same : other = name <;> simp [same]

theorem mem_embeddingsReverse_iff {name : String} {fields : List Field} {embedding : Embedding} :
    embedding ∈ embeddingsReverse name fields ↔
      embedding.outer = name ∧ embedding.inner ∈ embedded fields := by
  rw [embeddingsReverse, List.mem_reverse, List.mem_map]
  constructor
  · rintro ⟨inner, embeds, rfl⟩
    exact ⟨rfl, embeds⟩
  · rintro ⟨rfl, embeds⟩
    exact ⟨embedding.inner, embeds, rfl⟩

theorem declares_of_mem_dependents {structs : List Struct} {name other : String}
    (leads : other ∈ dependents name structs) : declares structs other = true := by
  induction structs with
  | nil => cases leads
  | cons struct behind induction =>
      simp only [declares, List.any_cons, Bool.or_eq_true, beq_iff_eq]
      simp only [dependents] at leads
      split at leads
      · rcases List.mem_cons.mp leads with same | leadsBehind
        · exact Or.inl same.symm
        · exact Or.inr (induction leadsBehind)
      · exact Or.inr (induction leads)

namespace Layered

theorem fieldsOf?_of_mem {structs : List Struct} (layered : Layered structs)
    {struct : Struct} (member : struct ∈ structs) :
    fieldsOf? structs struct.name = some struct.fields := by
  induction structs with
  | nil => cases member
  | cons first behind induction =>
      rw [fieldsOf?_cons]
      rcases List.mem_cons.mp member with rfl | memberBehind
      · simp
      · have different : first.name ≠ struct.name := fun same =>
          not_declares_iff.mp layered.1 struct memberBehind same.symm
        rw [if_neg different]
        exact induction layered.2.2 memberBehind

/-- In a layered list every embedded struct is declared. -/
theorem declares_of_mem_embedded {structs : List Struct} (layered : Layered structs)
    {struct : Struct} (member : struct ∈ structs) {inner : String}
    (embeds : inner ∈ embedded struct.fields) : declares structs inner = true := by
  induction structs with
  | nil => cases member
  | cons first behind induction =>
      simp only [declares, List.any_cons, Bool.or_eq_true]
      rcases List.mem_cons.mp member with rfl | memberBehind
      · exact Or.inr (layered.2.1 inner embeds)
      · exact Or.inr (induction layered.2.2 memberBehind)

theorem mem_dependents_cons_iff {first : Struct} {behind : List Struct}
    (layered : Layered (first :: behind)) {name other : String}
    (declared : declares behind other = true) :
    other ∈ dependents name (first :: behind) ↔ other ∈ dependents name behind := by
  have different : other ≠ first.name := by
    rintro rfl
    rw [layered.1] at declared
    cases declared
  simp only [dependents]
  split <;> simp [different]

theorem first_mem_dependents_iff {first : Struct} {behind : List Struct}
    (layered : Layered (first :: behind)) {name : String} :
    first.name ∈ dependents name (first :: behind) ↔
      ∃ inner ∈ embedded first.fields,
        inner = name ∨ inner ∈ dependents name behind := by
  have notBehind : first.name ∉ dependents name behind := by
    intro leads
    have declared := declares_of_mem_dependents leads
    rw [layered.1] at declared
    cases declared
  simp only [dependents]
  split
  · rename_i leads
    simpa using leads
  · rename_i clear
    simp only [List.any_eq_true, Bool.or_eq_true, beq_iff_eq,
      List.contains_iff_mem] at clear
    exact ⟨fun leads => absurd leads notBehind, fun leads => absurd leads clear⟩

/-- A struct leads to a name exactly when it embeds the name or a struct that
leads to it. -/
theorem mem_dependents_iff {structs : List Struct} (layered : Layered structs)
    {name : String} {struct : Struct} (member : struct ∈ structs) :
    struct.name ∈ dependents name structs ↔
      ∃ inner ∈ embedded struct.fields,
        inner = name ∨ inner ∈ dependents name structs := by
  induction structs with
  | nil => cases member
  | cons first behind induction =>
      rcases List.mem_cons.mp member with rfl | memberBehind
      · rw [layered.first_mem_dependents_iff]
        exact exists_congr fun inner => and_congr_right fun embeds =>
          or_congr_right
            (layered.mem_dependents_cons_iff (layered.2.1 inner embeds)).symm
      · have declared : declares behind struct.name = true :=
          declares_iff.mpr ⟨struct, memberBehind, rfl⟩
        rw [layered.mem_dependents_cons_iff declared,
          induction layered.2.2 memberBehind]
        exact exists_congr fun inner => and_congr_right fun embeds =>
          or_congr_right (layered.mem_dependents_cons_iff
            (layered.2.2.declares_of_mem_embedded memberBehind embeds)).symm

/-- Structs kept from a layered list are layered in front of others if each of
the structs that they embed is kept as well or declared by the others. -/
theorem filter_append {structs others : List Struct} (layered : Layered structs)
    (layeredOthers : Layered others) (kept : Struct → Bool)
    (fresh : ∀ struct ∈ structs, kept struct = true →
      declares others struct.name = false)
    (closed : ∀ struct ∈ structs, kept struct = true →
      ∀ inner ∈ embedded struct.fields, ∀ other ∈ structs, other.name = inner →
        kept other = true ∨ declares others inner = true) :
    Layered (structs.filter kept ++ others) := by
  induction structs with
  | nil => exact layeredOthers
  | cons first behind induction =>
      have layeredBehind := induction layered.2.2
        (fun struct member => fresh struct (List.mem_cons_of_mem _ member))
        (fun struct member isKept inner embeds other memberOther =>
          closed struct (List.mem_cons_of_mem _ member) isKept inner embeds other
            (List.mem_cons_of_mem _ memberOther))
      rw [List.filter_cons]
      split
      · rename_i isKept
        refine ⟨?_, ?_, layeredBehind⟩
        · apply not_declares_iff.mpr
          intro struct member
          rcases List.mem_append.mp member with memberKept | memberOthers
          · exact not_declares_iff.mp layered.1 struct (List.mem_filter.mp memberKept).1
          · exact not_declares_iff.mp (fresh first List.mem_cons_self isKept)
              struct memberOthers
        · intro inner embeds
          obtain ⟨other, memberOther, named⟩ :=
            declares_iff.mp (layered.2.1 inner embeds)
          apply declares_iff.mpr
          rcases closed first List.mem_cons_self isKept inner embeds other
              (List.mem_cons_of_mem _ memberOther) named with keptOther | declared
          · exact ⟨other, List.mem_append_left _
              (List.mem_filter.mpr ⟨memberOther, keptOther⟩), named⟩
          · obtain ⟨struct, member, namedStruct⟩ := declares_iff.mp declared
            exact ⟨struct, List.mem_append_right _ member, namedStruct⟩
      · exact layeredBehind

end Layered

/-- Whether a set of declared structs, without a given one, contains all to which some
embeddings lead and is closed under the embeddings of the structs left to expand. -/
structure IsClosedUnder (structs unexpanded : List Struct) (name : String)
    (embeddings : List Embedding) (reached : String → Prop) : Prop where
  reaches : ∀ embedding ∈ embeddings, reached embedding.inner
  not_name : ¬ reached name
  declared : ∀ struct, reached struct → declares structs struct = true
  closed : ∀ outer fields, reached outer → fieldsOf? unexpanded outer = some fields →
    ∀ inner ∈ embedded fields, reached inner

/-- A set that is closed with all that a struct embeds may take this struct in. -/
theorem IsClosedUnder.insert {structs unexpanded others : List Struct} {name : String}
    {embedding : Embedding} {embeddings followed : List Embedding} {reached : String → Prop}
    (isClosed : IsClosedUnder structs others name followed reached)
    (later : ∀ other ∈ embeddings, other ∈ followed) (different : embedding.inner ≠ name)
    (isDeclared : declares structs embedding.inner = true)
    (embeds : ∀ fields, fieldsOf? unexpanded embedding.inner = some fields →
      ∀ inner ∈ embedded fields, reached inner)
    (same : ∀ outer, outer ≠ embedding.inner →
      fieldsOf? others outer = fieldsOf? unexpanded outer) :
    IsClosedUnder structs unexpanded name (embedding :: embeddings)
      fun struct => struct = embedding.inner ∨ reached struct where
  reaches := List.forall_mem_cons.mpr
    ⟨.inl rfl, fun other member => .inr (isClosed.reaches other (later other member))⟩
  not_name := by
    rintro (isInner | reachedName)
    · exact different isInner.symm
    · exact isClosed.not_name reachedName
  declared := by
    rintro struct (rfl | reachedStruct)
    · exact isDeclared
    · exact isClosed.declared struct reachedStruct
  closed := by
    intro outer fields reachedOuter found inner embedsInner
    by_cases isInner : outer = embedding.inner
    · subst isInner
      exact .inr (embeds fields found inner embedsInner)
    · rw [← same outer isInner] at found
      exact .inr (isClosed.closed outer fields (reachedOuter.resolve_left isInner) found
        inner embedsInner)

/-- Embeddings that stay clear of a name lead to a set of declared structs that
is closed under the embeddings of the structs left to expand. -/
theorem exists_closed_of_checkEmbeddings {structs : List Struct} {name : String}
    {unexpanded : List Struct} {embeddings : List Embedding}
    (declared : ∀ struct, declares unexpanded struct = true →
      declares structs struct = true)
    (clear : checkEmbeddings structs name unexpanded embeddings = .ok ()) :
    ∃ reached, IsClosedUnder structs unexpanded name embeddings reached := by
  fun_induction checkEmbeddings structs name unexpanded embeddings with
  | case1 unexpanded =>
      exact ⟨fun _ => False, nofun, id, nofun, nofun⟩
  | case2 => cases clear
  | case3 unexpanded embedding embeddings different fields found _ induction =>
      have declaredLeft : ∀ struct,
          declares (withoutStruct unexpanded embedding.inner) struct = true →
            declares structs struct = true := by
        intro struct isDeclared
        obtain ⟨other, member, named⟩ := declares_iff.mp isDeclared
        exact declared struct (declares_iff.mpr ⟨other, (List.mem_filter.mp member).1, named⟩)
      obtain ⟨reached, isClosed⟩ := induction declaredLeft clear
      refine ⟨_, isClosed.insert (fun other => List.mem_append_right _) different
        (declared _ (declares_of_fieldsOf? found)) ?_ ?_⟩
      · intro otherFields foundAgain inner embeds
        cases found.symm.trans foundAgain
        exact isClosed.reaches ⟨embedding.inner, inner⟩
          (List.mem_append_left _ (mem_embeddingsReverse_iff.mpr ⟨rfl, embeds⟩))
      · intro outer isOther
        rw [fieldsOf?_withoutStruct, if_neg isOther]
  | case4 unexpanded embedding embeddings different found isDeclared induction =>
      obtain ⟨reached, isClosed⟩ := induction declared clear
      refine ⟨_, isClosed.insert (fun other => id) different isDeclared ?_ fun _ _ => rfl⟩
      intro fields foundAgain
      cases found.symm.trans foundAgain
  | case5 => cases clear

/-- Fields that pass the check embed no struct that leads to the name. -/
theorem not_mem_dependents_of_checkDepth {structs : List Struct}
    (layered : Layered structs) {name : String} {fields : List Field}
    (clear : checkDepth structs name fields = .ok ()) {inner : String}
    (embeds : inner ∈ embedded fields) : inner ∉ dependents name structs := by
  obtain ⟨reached, isClosed⟩ :=
    exists_closed_of_checkEmbeddings (fun _ isDeclared => isDeclared) clear
  have leadsNot : ∀ behind : List Struct, Layered behind →
      (∀ struct ∈ behind, struct ∈ structs) →
        ∀ struct ∈ dependents name behind, ¬ reached struct := by
    intro behind layeredBehind within
    induction behind with
    | nil => intro struct leads; cases leads
    | cons first behind induction =>
        have behindNot := induction layeredBehind.2.2 fun struct member =>
          within struct (List.mem_cons_of_mem _ member)
        intro struct leads reachedStruct
        by_cases same : struct = first.name
        · subst same
          obtain ⟨other, embedsOther, isName | leadsOther⟩ :=
            layeredBehind.first_mem_dependents_iff.mp leads
          all_goals
            have reachedOther := isClosed.closed first.name first.fields reachedStruct
              (layered.fieldsOf?_of_mem (within first List.mem_cons_self))
              other embedsOther
          · exact isClosed.not_name (isName ▸ reachedOther)
          · exact behindNot other leadsOther reachedOther
        · refine behindNot struct ?_ reachedStruct
          simp only [dependents] at leads
          split at leads
          · exact (List.mem_cons.mp leads).resolve_left same
          · exact leads
  intro leads
  exact leadsNot structs layered (fun _ member => member) inner leads
    (isClosed.reaches ⟨name, inner⟩ (mem_embeddingsReverse_iff.mpr ⟨rfl, embeds⟩))

/-- Names that pass the check are declared and are not the given one. -/
theorem declares_of_checkNames {structs : List Struct} {name : String}
    {inners : List String} (clear : checkNames structs name inners = .ok ())
    {inner : String} (member : inner ∈ inners) :
    inner ≠ name ∧ declares structs inner = true := by
  induction inners with
  | nil => cases member
  | cons first others induction =>
      simp only [checkNames] at clear
      split at clear
      · cases clear
      · rename_i different
        split at clear
        · rename_i declared
          rcases List.mem_cons.mp member with rfl | memberOthers
          · exact ⟨different, declared⟩
          · exact induction clear memberOthers
        · cases clear

/-- Whether a struct has another name and does not lead to it. -/
def isApart (structs : List Struct) (name : String) (struct : Struct) : Bool :=
  struct.name != name && !(dependents name structs).contains struct.name

theorem isApart_iff {structs : List Struct} {name : String} {struct : Struct} :
    isApart structs name struct = true ↔
      struct.name ≠ name ∧ struct.name ∉ dependents name structs := by
  simp [isApart]

/-- The structs that do not lead to a name are layered by themselves. -/
theorem Layered.filter_isApart {structs : List Struct} (layered : Layered structs)
    (name : String) : Layered (structs.filter (isApart structs name)) := by
  have layeredAppend : Layered (structs.filter (isApart structs name) ++ []) := by
    apply layered.filter_append (show Layered [] from trivial)
    · intro struct _ _
      rfl
    · intro struct member apart inner embeds other memberOther named
      have clear := mt (layered.mem_dependents_iff member).mpr (isApart_iff.mp apart).2
      simp only [not_exists, not_and, not_or] at clear
      subst named
      exact Or.inl (isApart_iff.mpr (clear _ embeds))
  rwa [List.append_nil] at layeredAppend

/-- Declaring a struct keeps the structs layered. -/
theorem Layered.place {structs : List Struct} (layered : Layered structs)
    {name : String} {fields : List Field}
    (width : checkWidth structs name fields = .ok ())
    (depth : checkDepth structs name fields = .ok ()) :
    Layered (place structs name fields) := by
  have declaresApart : ∀ inner, declares structs inner = true → inner ≠ name →
      inner ∉ dependents name structs →
        declares (structs.filter (isApart structs name)) inner = true := by
    intro inner declared different clear
    obtain ⟨struct, member, rfl⟩ := declares_iff.mp declared
    exact declares_iff.mpr ⟨struct,
      List.mem_filter.mpr ⟨member, isApart_iff.mpr ⟨different, clear⟩⟩, rfl⟩
  have layeredBehind :
      Layered (⟨name, fields⟩ :: structs.filter (isApart structs name)) := by
    refine ⟨?_, ?_, layered.filter_isApart name⟩
    · apply not_declares_iff.mpr
      intro struct member
      exact (isApart_iff.mp (List.mem_filter.mp member).2).1
    · intro inner embeds
      obtain ⟨different, declared⟩ := declares_of_checkNames width embeds
      exact declaresApart inner declared different
        (not_mem_dependents_of_checkDepth layered depth embeds)
  apply layered.filter_append layeredBehind
  · intro struct _ leads
    simp only [Bool.and_eq_true, bne_iff_ne, ne_eq, List.contains_eq_mem,
      decide_eq_true_eq] at leads
    apply not_declares_iff.mpr
    intro other member same
    rcases List.mem_cons.mp member with rfl | memberApart
    · exact leads.1 same.symm
    · exact (isApart_iff.mp (List.mem_filter.mp memberApart).2).2 (same ▸ leads.2)
  · intro struct member _ inner embeds other memberOther named
    simp only [Bool.and_eq_true, bne_iff_ne, ne_eq, List.contains_eq_mem,
      decide_eq_true_eq]
    by_cases isName : inner = name
    · exact Or.inr (declares_iff.mpr ⟨_, List.mem_cons_self, isName.symm⟩)
    · by_cases leads : inner ∈ dependents name structs
      · exact Or.inl ⟨named ▸ isName, named ▸ leads⟩
      · obtain ⟨apart, memberApart, namedApart⟩ := declares_iff.mp
          (declaresApart inner (layered.declares_of_mem_embedded member embeds)
            isName leads)
        exact Or.inr (declares_iff.mpr
          ⟨apart, List.mem_cons_of_mem _ memberApart, namedApart⟩)

/-- Fields that embed only structs behind the first one mean the same with and
without it. -/
theorem Layered.interpret_cons {α : Type} {first : Struct} {behind : List Struct}
    (layered : Layered (first :: behind))
    {interpret : (String → Option α) → List Field → α} (isLocal : IsLocal interpret)
    {fields : List Field}
    (embeddedBehind : ∀ inner ∈ embedded fields, declares behind inner = true) :
    interpret (fun inner => (meanings interpret (first :: behind)).lookup inner) fields =
      interpret (fun inner => (meanings interpret behind).lookup inner) fields := by
  apply isLocal
  intro inner embeds
  have different : inner ≠ first.name := by
    rintro rfl
    have declared := embeddedBehind _ embeds
    rw [layered.1] at declared
    cases declared
  simp [meanings, List.lookup_cons, beq_false_of_ne different]

/-- In a layered list a struct means what its fields mean when every struct has
its meaning. -/
theorem Layered.lookup_meanings {α : Type} {structs : List Struct}
    (layered : Layered structs)
    {interpret : (String → Option α) → List Field → α} (isLocal : IsLocal interpret)
    (name : String) :
    (meanings interpret structs).lookup name =
      (fieldsOf? structs name).map
        (interpret fun inner => (meanings interpret structs).lookup inner) := by
  induction structs with
  | nil => rfl
  | cons first behind induction =>
      rw [fieldsOf?_cons]
      by_cases same : first.name = name
      · subst same
        rw [if_pos rfl, Option.map_some, layered.interpret_cons isLocal layered.2.1]
        simp [meanings]
      · rw [if_neg same]
        have behindLookup : (meanings interpret (first :: behind)).lookup name =
            (meanings interpret behind).lookup name := by
          simp [meanings, List.lookup_cons, beq_false_of_ne (Ne.symm same)]
        rw [behindLookup, induction layered.2.2]
        cases found : fieldsOf? behind name with
        | none => rfl
        | some fields =>
            obtain ⟨struct, member, _, rfl⟩ := exists_mem_of_fieldsOf? found
            rw [Option.map_some, Option.map_some, layered.interpret_cons isLocal
              fun inner embeds => layered.2.2.declares_of_mem_embedded member embeds]

end BinaryRecords
