import BinaryRecords.Proofs.Decode.Unrolling

/-!
# Parts of what is decoded

Items and structs are decoded part by part.  Every repetition of a number, a string or a call
is a part, and so is a gap, which is passed over at once whatever its count is.  Decoding all
of it ends as decoding the parts in turn does, unless an array is refused.  So any other
failure is that of a part, where the parts before it have ended.
-/

namespace BinaryRecords

variable {σ α β γ δ : Type}

namespace Item

/-- The parts of one repetition of an item, where those of structs are given.  A struct that
is not known is a part itself. -/
def unitParts (structs : String → Option (List Item)) (item : Item) : List Item :=
  match item.type with
  | .builtin _ | .call _ => [item.once]
  | .struct name => (structs name).getD [item.once]

/-- The parts of all repetitions of an item. -/
def parts (structs : String → Option (List Item)) (item : Item) : List Item :=
  if item.isVoid then [item]
  else (List.replicate item.count.toNat (item.unitParts structs)).flatten

variable {item : Item} {structs : String → Option (List Item)}

theorem parts_congr {other : String → Option (List Item)}
    (agree : ∀ name, item.type = .struct name → structs name = other name) :
    item.parts structs = item.parts other := by
  have sameUnit : item.unitParts structs = item.unitParts other := by
    obtain ⟨type, length, count⟩ := item
    cases type with
    | builtin type => rfl
    | call function => rfl
    | struct name => simp only [unitParts, agree name rfl]
  simp only [parts, sameUnit]

theorem parts_of_gap (isGap : item.isVoid = true) : item.parts structs = [item] :=
  if_pos isGap

theorem parts_of_value (isValue : item.isVoid = false) :
    item.parts structs = (List.replicate item.count.toNat (item.unitParts structs)).flatten := by
  simp only [parts, isValue, Bool.false_eq_true, if_false]

theorem unitParts_of_own (isOwn : item.type.structName? = none) :
    item.unitParts structs = [item.once] := by
  obtain ⟨type, length, count⟩ := item
  cases type with
  | builtin type => rfl
  | call function => rfl
  | struct name => cases isOwn

theorem unitParts_of_struct {name : String} (type_eq : item.type = .struct name) :
    item.unitParts structs = (structs name).getD [item.once] := by
  simp only [unitParts, type_eq]

end Item

theorem isLocal_parts : IsLocal fun known fields =>
    fields.flatMap fun field => field.item.parts known := by
  intro known other fields agree
  apply congrArg List.flatten
  apply List.map_congr_left
  intro field member
  exact Item.parts_congr fun name type_eq => agree name (mem_embedded_of_mem member type_eq)

namespace Schema

/-- The parts of a declared struct. -/
def structParts? (schema : Schema) (name : String) : Option (List Item) :=
  schema.meaning? (fun known fields => fields.flatMap fun field => field.item.parts known) name

/-- The parts of some items, in the order in which they are decoded. -/
def parts (schema : Schema) (items : List Item) : List Item :=
  items.flatMap (Item.parts schema.structParts?)

/-- Whether an item is decoded at once: a gap, or a single value of no declared struct. -/
def IsPart (schema : Schema) (item : Item) : Prop :=
  item.isVoid = true ∨
    item.count = 1 ∧ ∀ name, item.type = .struct name → schema.fields? name = none

variable {schema : Schema}

/-- The parts of a struct are those of its fields. -/
theorem structParts?_eq (layered : Layered schema.structs) (name : String) :
    schema.structParts? name =
      (schema.fields? name).map fun fields => schema.parts (fields.map Field.item) := by
  unfold structParts?
  rw [meaning?_eq layered isLocal_parts]
  simp only [parts, List.flatMap_map]
  rfl

/-- What is part of a repetition of an item is a part, if that is so for structs. -/
theorem isPart_of_mem_unitParts (layered : Layered schema.structs) {item part : Item}
    (structs : ∀ name fields, item.type = .struct name → schema.fields? name = some fields →
      ∀ part ∈ schema.parts (fields.map Field.item), schema.IsPart part)
    (member : part ∈ item.unitParts schema.structParts?) : schema.IsPart part := by
  cases type_eq : item.type.structName? with
  | none =>
      rw [Item.unitParts_of_own type_eq, List.mem_singleton] at member
      subst member
      refine Or.inr ⟨rfl, ?_⟩
      intro name (isStruct : item.type = .struct name)
      rw [ItemType.structName?_eq_some_iff.mpr isStruct] at type_eq
      cases type_eq
  | some name =>
      have isStruct := ItemType.structName?_eq_some_iff.mp type_eq
      rw [Item.unitParts_of_struct isStruct, structParts?_eq layered] at member
      cases found : schema.fields? name with
      | none =>
          rw [found, Option.map_none, Option.getD_none, List.mem_singleton] at member
          subst member
          refine Or.inr ⟨rfl, ?_⟩
          intro other isOther
          cases isStruct.symm.trans isOther
          exact found
      | some fields =>
          rw [found] at member
          exact structs name fields isStruct found part member

theorem isPart_of_mem_parts_of_structs (layered : Layered schema.structs) {items : List Item}
    (structs : ∀ item ∈ items, ∀ name fields, item.type = .struct name →
      schema.fields? name = some fields →
        ∀ part ∈ schema.parts (fields.map Field.item), schema.IsPart part)
    {part : Item} (member : part ∈ schema.parts items) : schema.IsPart part := by
  obtain ⟨item, memberItem, memberPart⟩ := List.mem_flatMap.mp member
  cases isVoid : item.isVoid with
  | true =>
      rw [Item.parts_of_gap isVoid, List.mem_singleton] at memberPart
      exact Or.inl (memberPart ▸ isVoid)
  | false =>
      rw [Item.parts_of_value isVoid] at memberPart
      obtain ⟨unit, memberUnit, memberPart⟩ := List.mem_flatten.mp memberPart
      rw [List.eq_of_mem_replicate memberUnit] at memberPart
      exact isPart_of_mem_unitParts layered (structs item memberItem) memberPart

/-- All parts of some items are decoded at once. -/
theorem isPart_of_mem_parts (layered : Layered schema.structs) {items : List Item} {part : Item}
    (member : part ∈ schema.parts items) : schema.IsPart part := by
  refine isPart_of_mem_parts_of_structs layered ?_ member
  intro item _ name fields _ found
  refine induction_on_fields? layered
    (motive := fun _ fields => ∀ part ∈ schema.parts (fields.map Field.item), schema.IsPart part)
    ?_ found
  intro outer outerFields foundOuter inners other memberOther
  refine isPart_of_mem_parts_of_structs layered ?_ memberOther
  intro inner memberInner innerName innerFields isStruct foundInner
  obtain ⟨field, memberField, rfl⟩ := List.mem_map.mp memberInner
  exact inners innerName innerFields (mem_embedded_of_mem memberField isStruct) foundInner

end Schema

namespace Decoding

/-- Whether two decodings end at the same cursor or with the same failure, in the same state
of the host, unless the first one refuses an array. -/
inductive EndsAlike : Except Error (α × Cursor) × σ → Except Error (β × Cursor) × σ → Prop
  | done {result : α} {other : β} {after : Cursor} {state : σ} :
      EndsAlike (.ok (result, after), state) (.ok (other, after), state)
  | failed {failure : Error} {state : σ} : EndsAlike (.error failure, state) (.error failure, state)
  | refused {type : ItemType} {count : UInt64} {state : σ}
      {other : Except Error (β × Cursor) × σ} :
      EndsAlike (.error (.emptyRepeat type count), state) other

/-- Whether a decoding always ends as another one does, unless it refuses an array. -/
def GoesAs (decode : Decoding σ α) (other : Decoding σ β) : Prop :=
  ∀ cursor state, EndsAlike (decode cursor state) (other cursor state)

theorem goesAs_refl (decode : Decoding σ α) : decode.GoesAs decode := by
  intro cursor state
  rcases decode cursor state with ⟨failure | ⟨result, after⟩, afterState⟩
  · exact .failed
  · exact .done

theorem goesAs_pure (result : α) (other : β) :
    (pure result : Decoding σ α).GoesAs (pure other : Decoding σ β) :=
  fun _ _ => .done

namespace GoesAs

theorem bind {first : Decoding σ α} {next : α → Decoding σ β} {firstOther : Decoding σ γ}
    {nextOther : γ → Decoding σ δ} (goesFirst : first.GoesAs firstOther)
    (goesNext : ∀ result other, (next result).GoesAs (nextOther other)) :
    (first >>= next).GoesAs (firstOther >>= nextOther) := by
  intro cursor state
  have alike := goesFirst cursor state
  generalize run : first cursor state = outcome at alike
  generalize runOther : firstOther cursor state = outcomeOther at alike
  cases alike with
  | done =>
      rw [bind_of_ok run, bind_of_ok runOther]
      exact goesNext _ _ _ _
  | failed =>
      rw [bind_of_error run, bind_of_error runOther]
      exact .failed
  | refused =>
      rw [bind_of_error run]
      exact .refused

theorem map_left {decode : Decoding σ α} {other : Decoding σ γ} (goes : decode.GoesAs other)
    (function : α → β) : (function <$> decode).GoesAs other := by
  have mapped := goes.bind fun result found => goesAs_pure (function result) found
  rwa [bind_pure_comp, bind_pure] at mapped

theorem map_right {decode : Decoding σ α} {other : Decoding σ γ} (goes : decode.GoesAs other)
    (function : γ → β) : decode.GoesAs (function <$> other) := by
  have mapped := goes.bind fun result found => goesAs_pure result (function found)
  rwa [bind_pure, bind_pure_comp] at mapped

theorem trans {first : Decoding σ α} {middle : Decoding σ β} {last : Decoding σ γ}
    (goes : first.GoesAs middle) (goesOn : middle.GoesAs last) : first.GoesAs last := by
  intro cursor state
  have alike := goes cursor state
  have alikeOn := goesOn cursor state
  generalize first cursor state = outcome at alike
  generalize middle cursor state = outcomeMiddle at alike alikeOn
  generalize last cursor state = outcomeLast at alikeOn
  cases alike with
  | done =>
      cases alikeOn
      exact .done
  | failed =>
      cases alikeOn with
      | failed => exact .failed
      | refused => exact .refused
  | refused => exact .refused

end GoesAs

end Decoding

section

variable {host : Host σ} {decoders : Decoders σ} {items others : List Item}

/-- One decoding after another goes as all the items that the two go as. -/
theorem Decoding.GoesAs.append {first : Decoding σ α} {next : α → Decoding σ β}
    (goesFirst : first.GoesAs (decodeItems host decoders items))
    (goesNext : ∀ result, (next result).GoesAs (decodeItems host decoders others)) :
    (first >>= next).GoesAs (decodeItems host decoders (items ++ others)) := by
  rw [decodeItems_append]
  exact goesFirst.bind fun result values => (goesNext result).map_right (values ++ ·)

theorem Decoding.GoesAs.repeated {decode : Decoding σ α}
    (goes : decode.GoesAs (decodeItems host decoders items)) (count : Nat)
    (resultsReverse : List α) :
    (decode.repeated count resultsReverse).GoesAs
      (decodeItems host decoders (List.replicate count items).flatten) := by
  induction count generalizing resultsReverse with
  | zero => exact goesAs_pure _ _
  | succ count induction =>
      rw [repeated_succ, List.replicate_succ, List.flatten_cons]
      exact goes.append fun result => induction (result :: resultsReverse)

/-- An array goes as the parts of its repetitions, unless it is refused. -/
theorem Item.goesAs_decodeArray (item : Item) {unit : Decoding σ Value}
    (goes : unit.GoesAs (decodeItems host decoders items)) :
    (item.decodeArray unit).GoesAs
      (decodeItems host decoders (List.replicate item.count.toNat items).flatten) := by
  intro cursor state
  obtain ⟨_, _, _, _, _, _, refused⟩ | repeated := item.decodeArray_eq_or unit cursor state
  · rw [refused]
    exact .refused
  · rw [repeated]
    exact goes.repeated item.count.toNat [] cursor state

end

namespace Schema

variable {schema : Schema} {host : Host σ}

/-- Whether decoding a struct goes as decoding the parts of its fields. -/
def StructGoesAsParts (schema : Schema) (host : Host σ) (name : String) (fields : List Field) :
    Prop :=
  (schema.decodeRecord host name).GoesAs
    (schema.decodeItems host (schema.parts (fields.map Field.item)))

/-- A repetition of an item goes as its parts, if that is so for a declared struct. -/
theorem goesAs_unitParts (layered : Layered schema.structs) {item : Item}
    {unit : Decoding σ Value}
    (structs : ∀ name fields, item.type = .struct name → schema.fields? name = some fields →
      schema.StructGoesAsParts host name fields)
    (isUnit : item.decodeUnit? host (schema.decoders host) = some unit) :
    unit.GoesAs (schema.decodeItems host (item.unitParts schema.structParts?)) := by
  have goesOnce : unit.GoesAs (schema.decodeItems host [item.once]) := by
    rw [decodeItems_once isUnit]
    exact (Decoding.goesAs_refl unit).map_right _
  cases type_eq : item.type.structName? with
  | none =>
      rw [Item.unitParts_of_own type_eq]
      exact goesOnce
  | some name =>
      have isStruct := ItemType.structName?_eq_some_iff.mp type_eq
      rw [Item.unitParts_of_struct isStruct, structParts?_eq layered]
      cases found : schema.fields? name with
      | none => exact goesOnce
      | some fields =>
          cases (Item.decodeUnit?_of_struct isStruct).symm.trans isUnit
          exact Decoding.GoesAs.map_left (structs name fields isStruct found) Value.record

theorem goesAs_itemParts (layered : Layered schema.structs) {item : Item}
    (structs : ∀ name fields, item.type = .struct name → schema.fields? name = some fields →
      schema.StructGoesAsParts host name fields) :
    (item.decode host (schema.decoders host)).GoesAs
      (schema.decodeItems host (item.parts schema.structParts?)) := by
  cases isVoid : item.isVoid with
  | true =>
      rw [Item.parts_of_gap isVoid, decodeItems_singleton]
      exact (Decoding.goesAs_refl _).map_right _
  | false =>
      obtain ⟨unit, isUnit⟩ :=
        Item.exists_decodeUnit? (Item.isVoid_eq_false_iff.mp isVoid) host (schema.decoders host)
      have goes := goesAs_unitParts layered structs isUnit
      rw [Item.parts_of_value isVoid]
      by_cases count_eq : item.count = 1
      · rw [Item.decode_of_single isUnit count_eq, count_eq]
        simp only [UInt64.toNat_one, List.replicate_one, List.flatten_cons, List.flatten_nil,
          List.append_nil]
        exact goes.map_left some
      · rw [Item.decode_of_array isUnit count_eq]
        exact (item.goesAs_decodeArray goes).map_left _

theorem goesAs_parts_of_structs (layered : Layered schema.structs) {items : List Item}
    (structs : ∀ item ∈ items, ∀ name fields, item.type = .struct name →
      schema.fields? name = some fields → schema.StructGoesAsParts host name fields) :
    (schema.decodeItems host items).GoesAs (schema.decodeItems host (schema.parts items)) := by
  induction items with
  | nil => exact Decoding.goesAs_refl _
  | cons item items induction =>
      have goesFirst := goesAs_itemParts layered (structs item List.mem_cons_self)
      have goesOthers := induction fun other member => structs other (List.mem_cons_of_mem _ member)
      exact goesFirst.append fun value? => goesOthers.map_left (value?.toList ++ ·)

/-- Decoding items goes as decoding their parts in turn, down to those of all structs. -/
theorem goesAs_parts (layered : Layered schema.structs) (host : Host σ) (items : List Item) :
    (schema.decodeItems host items).GoesAs (schema.decodeItems host (schema.parts items)) := by
  refine goesAs_parts_of_structs layered ?_
  intro item _ name fields _ found
  refine induction_on_fields? layered (motive := schema.StructGoesAsParts host) ?_ found
  intro outer outerFields foundOuter inners
  have goesFields : (schema.decodeRecord host outer).GoesAs
      (schema.decodeItems host (outerFields.map Field.item)) := by
    rw [decodeItems_of_fields? layered host foundOuter]
    exact (Decoding.goesAs_refl _).map_right _
  refine goesFields.trans (goesAs_parts_of_structs layered ?_)
  intro inner member name fields isStruct found
  obtain ⟨field, memberField, rfl⟩ := List.mem_map.mp member
  exact inners name fields (mem_embedded_of_mem memberField isStruct) found

end Schema

end BinaryRecords
