import BinaryRecords.Proofs.Schema.Reachable
import Mathlib.Tactic.Common

/-!
# The search for cycles

The check of cycles is a search that keeps a stack of embeddings to follow and the structs
that it has expanded.  On any list of structs, even with cycles and with structs that are not
declared, it ends and expands no struct twice.  It follows all embeddings that can be reached
from the new fields without passing through the new struct, and so it fails exactly where
one of them leads to the new struct or to one that is not declared.
-/

namespace BinaryRecords

/-- How far a search has come: the structs that have been expanded, and the embeddings that
are still to be followed, the next one first. -/
structure Search where
  visited : List String
  pending : List Embedding
  deriving DecidableEq, Inhabited

/-- What a search does in one turn. -/
inductive Turn
  /-- It ends. -/
  | ended (outcome : Except Error Unit)
  /-- It passes over an embedding of a struct that has been expanded before. -/
  | passed (search : Search)
  /-- It adds the embeddings of a struct to those that are to be followed. -/
  | expanded (struct : String) (search : Search)

namespace Search

/-- The search that follows the embeddings of some fields. -/
def start (name : String) (fields : List Field) : Search :=
  ⟨[], embeddingsReverse name fields⟩

/-- Follow the next embedding. -/
def turn (structs : List Struct) (name : String) (search : Search) : Turn :=
  match search.pending with
  | [] => .ended (.ok ())
  | embedding :: pending =>
      if embedding.inner = name then
        .ended (.error (.circularDefinition name embedding.outer))
      else if embedding.inner ∈ search.visited then
        .passed ⟨search.visited, pending⟩
      else
        match fieldsOf? structs embedding.inner with
        | some fields =>
            .expanded embedding.inner ⟨embedding.inner :: search.visited,
              embeddingsReverse embedding.inner fields ++ pending⟩
        | none => .ended (.error (.missingDefinition embedding.outer embedding.inner))

/-- The structs that are expanded within a number of turns, in order, and the outcome of the
search if it has ended by then. -/
def run (structs : List Struct) (name : String) :
    (limit : Nat) → Search → List String × Option (Except Error Unit)
  | 0, _ => ([], none)
  | limit + 1, search =>
      match search.turn structs name with
      | .ended outcome => ([], some outcome)
      | .passed next => run structs name limit next
      | .expanded struct next =>
          let (others, outcome) := run structs name limit next
          (struct :: others, outcome)

end Search

/-- The number of embeddings in all structs of a list. -/
def embeddingCount (structs : List Struct) : Nat :=
  (structs.flatMap fun struct => embedded struct.fields).length

/-- Whether a name is met where embeddings are followed from some fields, through structs of
other names than a given one. -/
inductive Meets (structs : List Struct) (name : String) (fields : List Field) : String → Prop
  | direct {inner : String} (embeds : inner ∈ embedded fields) : Meets structs name fields inner
  | behind {outer inner : String} {outerFields : List Field}
      (meets : Meets structs name fields outer) (different : outer ≠ name)
      (found : fieldsOf? structs outer = some outerFields) (embeds : inner ∈ embedded outerFields) :
      Meets structs name fields inner

/-- Whether a name is embedded by some fields, which stand for the given name, or by a struct
of another name that is met from there. -/
def IsFollowed (structs : List Struct) (name : String) (fields : List Field)
    (outer inner : String) : Prop :=
  (outer = name ∧ inner ∈ embedded fields) ∨
    (outer ≠ name ∧ Meets structs name fields outer ∧
      ∃ outerFields, fieldsOf? structs outer = some outerFields ∧ inner ∈ embedded outerFields)

/-- Whether the structs that are left to expand are those that have not been visited, and all
that have been visited are declared. -/
structure LeavesUnvisited (structs : List Struct) (visited : List String)
    (unexpanded : List Struct) : Prop where
  declares_of_mem : ∀ struct ∈ visited, declares structs struct = true
  fieldsOf?_eq : ∀ struct, fieldsOf? unexpanded struct =
    if struct ∈ visited then none else fieldsOf? structs struct

section

variable {structs unexpanded : List Struct} {name struct : String} {fields : List Field}

namespace Search

variable {search next : Search}

theorem visited_of_turn_eq_passed (turned : search.turn structs name = .passed next) :
    next.visited = search.visited := by
  unfold turn at turned
  split at turned
  · cases turned
  · split at turned
    · cases turned
    · split at turned
      · cases turned
        rfl
      · split at turned <;> cases turned

theorem fresh_of_turn_eq_expanded (turned : search.turn structs name = .expanded struct next) :
    struct ∉ search.visited ∧ declares structs struct = true ∧
      next.visited = struct :: search.visited := by
  unfold turn at turned
  split at turned
  · cases turned
  · split at turned
    · cases turned
    · split at turned
      · cases turned
      · rename_i fresh
        split at turned
        · rename_i found
          cases turned
          exact ⟨fresh, declares_of_fieldsOf? found, rfl⟩
        · cases turned

/-- However long a search goes on, it expands only declared structs that it has not visited,
and none of them twice. -/
theorem expanded_once (structs : List Struct) (name : String) (limit : Nat) (search : Search) :
    (run structs name limit search).1.Nodup ∧
      ∀ struct ∈ (run structs name limit search).1,
        struct ∉ search.visited ∧ declares structs struct = true := by
  induction limit generalizing search with
  | zero => exact ⟨.nil, nofun⟩
  | succ limit induction =>
      rw [run]
      cases turned : search.turn structs name with
      | ended outcome => exact ⟨.nil, nofun⟩
      | passed next =>
          rw [← visited_of_turn_eq_passed turned]
          exact induction next
      | expanded struct next =>
          obtain ⟨fresh, declared, visited_eq⟩ := fresh_of_turn_eq_expanded turned
          obtain ⟨nodup, others⟩ := induction next
          rw [visited_eq] at others
          refine ⟨List.nodup_cons.mpr ⟨?_, nodup⟩, List.forall_mem_cons.mpr ⟨⟨fresh, declared⟩, ?_⟩⟩
          · intro again
            exact (others struct again).1 List.mem_cons_self
          · intro other member
            obtain ⟨notVisited, otherDeclared⟩ := others other member
            exact ⟨fun visited => notVisited (List.mem_cons_of_mem _ visited), otherDeclared⟩

end Search

namespace LeavesUnvisited

variable {visited : List String}

theorem start (structs : List Struct) : LeavesUnvisited structs [] structs :=
  ⟨nofun, fun _ => (if_neg nofun).symm⟩

theorem expand (leaves : LeavesUnvisited structs visited unexpanded)
    (found : fieldsOf? unexpanded struct = some fields) :
    struct ∉ visited ∧ fieldsOf? structs struct = some fields ∧
      LeavesUnvisited structs (struct :: visited) (withoutStruct unexpanded struct) := by
  have fresh : struct ∉ visited := by
    intro member
    rw [leaves.fieldsOf?_eq, if_pos member] at found
    cases found
  have foundAmongAll : fieldsOf? structs struct = some fields := by
    rw [← found, leaves.fieldsOf?_eq, if_neg fresh]
  refine ⟨fresh, foundAmongAll, ?_, ?_⟩
  · exact List.forall_mem_cons.mpr ⟨declares_of_fieldsOf? foundAmongAll, leaves.declares_of_mem⟩
  · intro other
    rw [fieldsOf?_withoutStruct, leaves.fieldsOf?_eq]
    by_cases same : other = struct <;> simp [same]

theorem mem_visited (leaves : LeavesUnvisited structs visited unexpanded)
    (notFound : fieldsOf? unexpanded struct = none) (declared : declares structs struct = true) :
    struct ∈ visited := by
  by_contra fresh
  obtain ⟨fields, found⟩ := declares_eq_true_iff_fieldsOf?.mp declared
  rw [leaves.fieldsOf?_eq, if_neg fresh, found] at notFound
  cases notFound

end LeavesUnvisited

theorem embeddingCount_cons (struct : Struct) (structs : List Struct) :
    embeddingCount (struct :: structs) =
      (embedded struct.fields).length + embeddingCount structs := by
  rw [embeddingCount, List.flatMap_cons, List.length_append, embeddingCount]

/-- A struct that is removed takes at least its own embeddings with it. -/
theorem embeddingCount_withoutStruct_add_le (structs : List Struct) (name : String) :
    embeddingCount (withoutStruct structs name) +
      (embedded ((fieldsOf? structs name).getD [])).length ≤ embeddingCount structs := by
  induction structs with
  | nil => exact Nat.le_refl _
  | cons first behind induction =>
      rw [fieldsOf?_cons, embeddingCount_cons]
      by_cases same : first.name = name
      · have removed : withoutStruct (first :: behind) name = withoutStruct behind name := by
          simp [withoutStruct, same]
        rw [removed, if_pos same, Option.getD_some]
        omega
      · have kept : withoutStruct (first :: behind) name = first :: withoutStruct behind name := by
          simp [withoutStruct, same]
        rw [kept, if_neg same, embeddingCount_cons]
        omega

theorem length_embeddingsReverse (name : String) (fields : List Field) :
    (embeddingsReverse name fields).length = (embedded fields).length := by
  rw [embeddingsReverse, List.length_reverse, List.length_map]

/-- A search ends as the check of the embeddings that are pending, at the latest one turn
after as many as there are of them and in the structs that are left to expand. -/
theorem Search.run_eq_checkEmbeddings {visited : List String} {embeddings : List Embedding}
    (leaves : LeavesUnvisited structs visited unexpanded) {limit : Nat}
    (enough : embeddings.length + embeddingCount unexpanded ≤ limit) :
    (run structs name (limit + 1) ⟨visited, embeddings⟩).2 =
      some (checkEmbeddings structs name unexpanded embeddings) := by
  fun_induction checkEmbeddings structs name unexpanded embeddings generalizing visited limit with
  | case1 unexpanded => rfl
  | case2 unexpanded embedding embeddings same => simp only [run, turn, if_pos same]
  | case3 unexpanded embedding embeddings different fields found _ induction =>
      obtain ⟨fresh, foundAmongAll, leavesOthers⟩ := leaves.expand found
      -- The embeddings that are added have been counted among those of the structs.
      have removed := embeddingCount_withoutStruct_add_le unexpanded embedding.inner
      rw [found, Option.getD_some] at removed
      rw [List.length_cons] at enough
      obtain ⟨rest, rfl⟩ : ∃ rest, limit = rest + 1 := ⟨limit - 1, by omega⟩
      rw [run]
      simp only [turn, if_neg different, if_neg fresh, foundAmongAll]
      apply induction leavesOthers
      rw [List.length_append, length_embeddingsReverse]
      omega
  | case4 unexpanded embedding embeddings different found declared induction =>
      have visited : embedding.inner ∈ visited := leaves.mem_visited found declared
      rw [List.length_cons] at enough
      obtain ⟨rest, rfl⟩ : ∃ rest, limit = rest + 1 := ⟨limit - 1, by omega⟩
      rw [run]
      simp only [turn, if_neg different, if_pos visited]
      apply induction leaves
      omega
  | case5 unexpanded embedding embeddings different found undeclared =>
      have fresh : embedding.inner ∉ visited := fun visited =>
        undeclared (leaves.declares_of_mem _ visited)
      have notFound : fieldsOf? structs embedding.inner = none := by
        rwa [leaves.fieldsOf?_eq, if_neg fresh] at found
      simp only [run, turn, if_neg different, if_neg fresh, notFound]

theorem IsFollowed.meets {outer inner : String}
    (isFollowed : IsFollowed structs name fields outer inner) :
    Meets structs name fields inner := by
  rcases isFollowed with ⟨_, embeds⟩ | ⟨different, meets, outerFields, found, embeds⟩
  · exact .direct embeds
  · exact .behind meets different found embeds

/-- Where following embeddings fails, one that is followed leads to the name or to a struct
that is not declared. -/
theorem exists_isFollowed_of_checkEmbeddings_error {embeddings : List Embedding} {failure : Error}
    (known : ∀ outer outerFields, fieldsOf? unexpanded outer = some outerFields →
      fieldsOf? structs outer = some outerFields)
    (all : ∀ embedding ∈ embeddings,
      IsFollowed structs name fields embedding.outer embedding.inner)
    (failed : checkEmbeddings structs name unexpanded embeddings = .error failure) :
    (∃ via, failure = .circularDefinition name via ∧ IsFollowed structs name fields via name) ∨
      ∃ outer missing, failure = .missingDefinition outer missing ∧ missing ≠ name ∧
        declares structs missing = false ∧ IsFollowed structs name fields outer missing := by
  fun_induction checkEmbeddings structs name unexpanded embeddings with
  | case1 => cases failed
  | case2 unexpanded embedding embeddings same =>
      cases failed
      have isFollowed := all embedding List.mem_cons_self
      rw [same] at isFollowed
      exact .inl ⟨embedding.outer, rfl, isFollowed⟩
  | case3 unexpanded embedding embeddings different innerFields found _ induction =>
      have isFollowed := all embedding List.mem_cons_self
      refine induction ?_ ?_ failed
      · intro outer outerFields foundOuter
        rw [fieldsOf?_withoutStruct] at foundOuter
        split at foundOuter
        · cases foundOuter
        · exact known outer outerFields foundOuter
      · intro other member
        rcases List.mem_append.mp member with inside | later
        · obtain ⟨outer_eq, embeds⟩ := mem_embeddingsReverse_iff.mp inside
          rw [outer_eq]
          exact .inr ⟨different, isFollowed.meets, innerFields, known _ _ found, embeds⟩
        · exact all other (List.mem_cons_of_mem _ later)
  | case4 unexpanded embedding embeddings different found isDeclared induction =>
      exact induction known (fun other member => all other (List.mem_cons_of_mem _ member)) failed
  | case5 unexpanded embedding embeddings different found undeclared =>
      cases failed
      rw [Bool.not_eq_true] at undeclared
      exact .inr ⟨embedding.outer, embedding.inner, rfl, different, undeclared,
        all embedding List.mem_cons_self⟩

/-- Where the check of cycles fails, the error names an embedding that is followed and that
leads to the name or to a struct that is not declared. -/
theorem exists_isFollowed_of_checkDepth_error {failure : Error}
    (failed : checkDepth structs name fields = .error failure) :
    (∃ via, failure = .circularDefinition name via ∧ IsFollowed structs name fields via name) ∨
      ∃ outer missing, failure = .missingDefinition outer missing ∧ missing ≠ name ∧
        declares structs missing = false ∧ IsFollowed structs name fields outer missing := by
  apply exists_isFollowed_of_checkEmbeddings_error (fun _ _ found => found) _ failed
  intro embedding member
  exact .inl (mem_embeddingsReverse_iff.mp member)

/-- The check of cycles passes exactly where all that is met is declared and the name is
never met. -/
theorem checkDepth_eq_ok_iff :
    checkDepth structs name fields = .ok () ↔
      ∀ inner, Meets structs name fields inner → inner ≠ name ∧ declares structs inner = true := by
  constructor
  · intro passes
    obtain ⟨reached, isClosed⟩ :=
      exists_closed_of_checkEmbeddings (fun _ isDeclared => isDeclared) passes
    have isReached : ∀ inner, Meets structs name fields inner → reached inner := by
      intro inner meets
      induction meets with
      | direct embeds =>
          exact isClosed.reaches ⟨name, _⟩ (mem_embeddingsReverse_iff.mpr ⟨rfl, embeds⟩)
      | behind _ _ found embeds reachedOuter =>
          exact isClosed.closed _ _ reachedOuter found _ embeds
    intro inner meets
    refine ⟨?_, isClosed.declared inner (isReached inner meets)⟩
    rintro rfl
    exact isClosed.not_name (isReached inner meets)
  · intro clear
    cases outcome : checkDepth structs name fields with
    | ok _ => rfl
    | error failure =>
        rcases exists_isFollowed_of_checkDepth_error outcome with
          ⟨via, _, isFollowed⟩ | ⟨outer, missing, _, _, undeclared, isFollowed⟩
        · exact absurd rfl (clear name isFollowed.meets).1
        · have declared := (clear missing isFollowed.meets).2
          rw [undeclared] at declared
          cases declared

/-- On any list of structs the search for cycles ends as the check of cycles, at the latest one
turn after as many as there are embeddings.  It expands only declared structs, and none twice.
It passes exactly where all that is met is declared and the new struct is never met.  Where
it fails, the error names the new struct or one that is met, which embeds the new struct or
one that is not declared. -/
theorem search_ends_and_misses_nothing (structs : List Struct) (name : String)
    (fields : List Field) :
    (∀ limit, (embedded fields).length + embeddingCount structs < limit →
      (Search.run structs name limit (.start name fields)).2 =
        some (checkDepth structs name fields)) ∧
    (∀ limit, (Search.run structs name limit (.start name fields)).1.Nodup ∧
      ∀ struct ∈ (Search.run structs name limit (.start name fields)).1,
        declares structs struct = true) ∧
    (checkDepth structs name fields = .ok () ↔
      ∀ inner, Meets structs name fields inner → inner ≠ name ∧ declares structs inner = true) ∧
    ∀ failure, checkDepth structs name fields = .error failure →
      (∃ via, failure = .circularDefinition name via ∧ IsFollowed structs name fields via name) ∨
        ∃ outer missing, failure = .missingDefinition outer missing ∧ missing ≠ name ∧
          declares structs missing = false ∧ IsFollowed structs name fields outer missing := by
  refine ⟨?_, ?_, checkDepth_eq_ok_iff, fun _ => exists_isFollowed_of_checkDepth_error⟩
  · intro limit enough
    obtain ⟨rest, rfl⟩ : ∃ rest, limit = rest + 1 := ⟨limit - 1, by omega⟩
    apply Search.run_eq_checkEmbeddings (.start structs)
    rw [length_embeddingsReverse]
    omega
  · intro limit
    obtain ⟨nodup, others⟩ := Search.expanded_once structs name limit (.start name fields)
    exact ⟨nodup, fun struct member => (others struct member).2⟩

/-- Two structs that embed each other, and one that embeds a struct that is not declared. -/
def knot : List Struct :=
  [⟨"left", [⟨{ type := .struct "right" }, none⟩]⟩,
    ⟨"right", [⟨{ type := .struct "left" }, none⟩]⟩,
    ⟨"loose", [⟨{ type := .struct "gone" }, none⟩]⟩]

/-- The search does not mind a cycle through other structs.  One through the new struct and a
struct that is missing are both found, behind a struct that is met. -/
theorem search_ends_and_misses_nothing_knot :
    checkDepth knot "top" [⟨{ type := .struct "left" }, none⟩] = .ok () ∧
    Meets knot "top" [⟨{ type := .struct "left" }, none⟩] "right" ∧
    checkDepth knot "right" [⟨{ type := .struct "left" }, none⟩] =
      .error (.circularDefinition "right" "left") ∧
    checkDepth knot "top" [⟨{ type := .struct "loose" }, none⟩] =
      .error (.missingDefinition "loose" "gone") ∧
    IsFollowed knot "top" [⟨{ type := .struct "loose" }, none⟩] "loose" "gone" := by
  have ends : ∀ name fields outcome, (embedded fields).length + embeddingCount knot < 5 →
      (Search.run knot name 5 (.start name fields)).2 = some outcome →
        checkDepth knot name fields = outcome := by
    intro name fields outcome enough ran
    have ended := (search_ends_and_misses_nothing knot name fields).1 5 enough
    rw [ran] at ended
    exact (Option.some.inj ended).symm
  have missing : checkDepth knot "top" [⟨{ type := .struct "loose" }, none⟩] =
      .error (.missingDefinition "loose" "gone") := ends _ _ _ (by decide) (by decide)
  refine ⟨ends _ _ _ (by decide) (by decide), ?_, ends _ _ _ (by decide) (by decide), missing, ?_⟩
  · have meetsLeft : Meets knot "top" [⟨{ type := .struct "left" }, none⟩] "left" :=
      .direct (by decide)
    exact .behind meetsLeft (by decide) rfl (by decide)
  · obtain ⟨_, _, _, fails⟩ :=
      search_ends_and_misses_nothing knot "top" [⟨{ type := .struct "loose" }, none⟩]
    rcases fails _ missing with ⟨_, wrong, _⟩ | ⟨outer, inner, failure_eq, _, _, isFollowed⟩
    · cases wrong
    · cases failure_eq
      exact isFollowed

end

end BinaryRecords
