import BinaryRecords.Proofs.Decode.Structs
import BinaryRecords.Proofs.Schema.Agreement
import BinaryRecords.Proofs.Schema.ExactSize

/-!
# Declaring structs anew

What a struct means is its size, its text and how it is decoded.  All of it follows from the
struct and the structs that it leads to, and so it outlasts all declarations of others.  What
leads to a struct that is declared anew decodes the new fields wherever it decoded the old
ones.
-/

namespace BinaryRecords

namespace Schema

/-- Whether a struct has the same size and the same text in another schema, and is decoded
there from every source and with every host to the same outcome, with the same calls. -/
structure MeansSame (schema other : Schema) (name : String) : Prop where
  sizeOf_eq : other.sizeOf name = schema.sizeOf name
  describe_eq : other.describe name = schema.describe name
  decode_eq : ∀ (σ : Type) (host : Host σ) (source : Source) (state : σ),
    source.decode (other.decodeRecord host name) state =
      source.decode (schema.decodeRecord host name) state
  calls_eq : ∀ (σ : Type) (host : Host σ) (source : Source) (state : σ) (calls : List String),
    source.decode (other.decodeRecord host.recorded name) (state, calls) =
      source.decode (schema.decodeRecord host.recorded name) (state, calls)

variable {schema other declared : Schema} {name : String}

theorem AgreesFrom.decodeRecord_eq {σ : Type} (agrees : schema.AgreesFrom other name)
    (layered : Layered schema.structs) (layeredOther : Layered other.structs) (host : Host σ) :
    other.decodeRecord host name = schema.decodeRecord host name := by
  have decoder_eq := agrees.meaning?_eq layered layeredOther (isLocal_decodeFields host)
  simp only [decodeRecord, decodeStruct, decoders, decoder_eq]

theorem AgreesFrom.meansSame (agrees : schema.AgreesFrom other name)
    (layered : Layered schema.structs) (layeredOther : Layered other.structs) :
    schema.MeansSame other name where
  sizeOf_eq := by
    simp only [sizeOf, knownSize,
      agrees.meaning?_eq layered layeredOther (isLocal_fieldsSize 0)]
  describe_eq := agrees.describe_eq
  decode_eq σ host source state := by
    rw [agrees.decodeRecord_eq layered layeredOther host]
  calls_eq σ host source state calls := by
    rw [agrees.decodeRecord_eq layered layeredOther host.recorded]

/-- A struct means the same in two schemas that agree from it on.  So where a struct is
declared, all other structs that do not lead to it mean what they meant; the struct itself
is decoded as its new fields, in which all structs mean what they meant; and what leads to
it is decoded as it was, but for decoding the new fields wherever it embeds the struct. -/
theorem struct_means_what_it_reaches (reachable : schema.Reachable) :
    (∀ other name, other.Reachable → schema.AgreesFrom other name →
      schema.MeansSame other name) ∧
    ∀ name fields declared, schema.declare name fields = .ok declared →
      (∀ outer, outer ≠ name → ¬ Relation.TransGen schema.Embeds outer name →
        schema.MeansSame declared outer) ∧
      (∀ outer, Relation.TransGen declared.Embeds outer name ↔
        Relation.TransGen schema.Embeds outer name) ∧
      ∀ (σ : Type) (host : Host σ),
        let renewed := decodeFields host (schema.decoders host) fields
        declared.decodeRecord host name = renewed ∧
          ∀ outer, Relation.TransGen schema.Embeds outer name →
            declared.decodeRecord host outer =
              decodeStruct (schema.meaningWith? (decodeFields host) name renewed) outer := by
  have layered := reachable.layered
  constructor
  · intro other name reachableOther agrees
    exact agrees.meansSame layered reachableOther.layered
  · intro name fields declared success
    have layeredDeclared := layered_of_declare success layered
    refine ⟨?_, ?_, ?_⟩
    · intro outer different apart
      exact (agreesFrom_of_declare success different apart).meansSame layered layeredDeclared
    · intro outer
      exact transGen_embeds_of_declare_iff success layered
    · intro σ host renewed
      have isLocal := isLocal_decodeFields host
      constructor
      · have renewed_eq := meaning?_of_declare success layered isLocal
        simp only [decodeRecord, decodeStruct, decoders, renewed_eq]
        rfl
      · intro outer leads
        have different : outer ≠ name := by
          rintro rfl
          exact not_transGen_embeds_self layered _ leads
        have outer_eq := meaning?_of_declare_of_ne success layered isLocal different
        simp only [decodeRecord, decodeStruct, decoders, outer_eq]
        rfl

/-- When the pair gets one number instead of two, so do the pairs of what embeds it; the pair
does not notice when what embeds it is declared anew. -/
theorem struct_means_what_it_reaches_taggedPairs :
    let shortFields : List Field := [⟨{ type := .builtin (.integer .u8) }, some "only"⟩]
    let short : Schema := ⟨[⟨"tagged", taggedPairsFields⟩, ⟨"pair", shortFields⟩]⟩
    let empty : Schema := ⟨[⟨"tagged", []⟩, ⟨"pair", pairFields⟩]⟩
    let alone : Schema := ⟨[⟨"pair", pairFields⟩]⟩
    let source : Source := ⟨"pairs", [1, 2, 97, 98, 0], 0⟩
    let host : Host Unit := Host.silent
    (alone.Reachable ∧ taggedPairs.AgreesFrom alone "pair" ∧ taggedPairs.MeansSame alone "pair") ∧
      (taggedPairs.declare "tagged" [] = .ok empty ∧
        ¬ Relation.TransGen taggedPairs.Embeds "pair" "tagged" ∧
          empty.sizeOf "pair" = .ok (some 5)) ∧
      taggedPairs.declare "pair" shortFields = .ok short ∧
      Relation.TransGen taggedPairs.Embeds "tagged" "pair" ∧
      short.decodeRecord host "tagged" =
        decodeStruct (taggedPairs.meaningWith? (decodeFields host) "pair"
          (decodeFields host (taggedPairs.decoders host) shortFields)) "tagged" ∧
      source.decode (short.decodeRecord host "tagged") () =
        (.ok [("pairs", .array [.record [("only", .integer 1)], .record [("only", .integer 2)]]),
          ("tag", .string [97, 98])], { source with position := 5 }, ()) := by
  intro shortFields short empty alone source host
  obtain ⟨ofAgreement, ofDeclaration⟩ := struct_means_what_it_reaches reachable_taggedPairs
  have reachableAlone : alone.Reachable :=
    Reachable.of_declare ⟨[], rfl⟩ (declare_of_embedded_eq_nil rfl)
  have embedsNothing (inner : String) : ¬ taggedPairs.Embeds "pair" inner := by
    rintro ⟨fields, found, embeds⟩
    cases found
    cases embeds
  have agrees : taggedPairs.AgreesFrom alone "pair" := by
    intro inner path
    rcases Relation.ReflTransGen.cases_head path with rfl | ⟨next, embeds, _⟩
    · rfl
    · exact absurd embeds (embedsNothing next)
  have apart : ¬ Relation.TransGen taggedPairs.Embeds "pair" "tagged" := by
    intro leads
    obtain ⟨next, embeds, _⟩ := Relation.TransGen.head'_iff.mp leads
    exact embedsNothing next embeds
  have leads : Relation.TransGen taggedPairs.Embeds "tagged" "pair" :=
    .single ⟨taggedPairsFields, rfl, by decide⟩
  have declaredEmpty : taggedPairs.declare "tagged" [] = .ok empty :=
    declare_of_embedded_eq_nil rfl
  have declaredShort : taggedPairs.declare "pair" shortFields = .ok short :=
    declare_of_embedded_eq_nil rfl
  obtain ⟨same, _, _⟩ := ofDeclaration "tagged" [] empty declaredEmpty
  obtain ⟨_, _, renewed⟩ := ofDeclaration "pair" shortFields short declaredShort
  exact ⟨⟨reachableAlone, agrees, ofAgreement alone "pair" reachableAlone agrees⟩,
    ⟨declaredEmpty, apart, (same "pair" (by decide) apart).sizeOf_eq⟩, declaredShort, leads,
    (renewed Unit host).2 "tagged" leads, rfl⟩

end Schema

end BinaryRecords
