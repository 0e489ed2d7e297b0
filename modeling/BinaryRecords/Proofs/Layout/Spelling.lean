import BinaryRecords.Layout.Lexer
import BinaryRecords.Proofs.Text.Numeral
import Mathlib.Data.List.Chain

/-!
# Texts of tokens

Names in a text begin with a letter and go on with letters, digits and underscores.
The text of a token that keeps to this is read back as that token, wherever what
follows does not continue the name or number.  So tokens are read back from a text in
which they stand one behind the other, with blanks where they would run together.
-/

namespace BinaryRecords

namespace Layout

/-- Whether a text is a letter and then only letters, digits and underscores. -/
def IsName (text : String) : Prop :=
  ∃ first rest, text.toList = first :: rest ∧ beginsName first = true ∧
    ∀ character ∈ rest, isWord character = true

/-- Whether a token has a proper name, if it has one. -/
def IsLexical : Token → Prop
  | .name text => IsName text ∧ BuiltinType.ofKeyword? text = none
  | .call function => IsName function
  | .keyword _ | .length _ | .count _ | .colon => True

/-- Whether a token begins with a mark, so that it continues no name or number in front
of it. -/
def Attaches : Token → Prop
  | .length _ | .count _ | .call _ | .colon => True
  | .keyword _ | .name _ => False

/-- Whether a text does not continue a name or number in front of it. -/
def EndsWord (text : List Char) : Prop :=
  ∀ character, text.head? = some character → isWord character = false

/-- Whether all characters of a text are blank. -/
def IsGap (text : List Char) : Prop :=
  ∀ character ∈ text, Text.isBlank character = true

theorem isBlank_eq_false_of_isWord {character : Char} (continues : isWord character = true) :
    Text.isBlank character = false := by
  have codes : character.toNat = 95 ∨ (48 ≤ character.toNat ∧ character.toNat ≤ 57) ∨
      (65 ≤ character.toNat ∧ character.toNat ≤ 90) ∨
        97 ≤ character.toNat ∧ character.toNat ≤ 122 := by
    change ((character.isUpper || character.isLower) || character.isDigit ||
      character == '_') = true at continues
    simp only [Bool.or_eq_true, beq_iff_eq] at continues
    rcases continues with ((upper | lower) | digit) | rfl
    · exact .inr (.inr (.inl (of_decide_eq_true upper)))
    · obtain ⟨above, below⟩ := Bool.and_eq_true_iff.mp lower
      exact .inr (.inr (.inr ⟨of_decide_eq_true above, of_decide_eq_true below⟩))
    · obtain ⟨above, below⟩ := Bool.and_eq_true_iff.mp digit
      exact .inr (.inl ⟨of_decide_eq_true above, of_decide_eq_true below⟩)
    · exact .inl rfl
  simp [Text.isBlank, Text.blankRanges, Text.CodeRanges.holds]
  omega

section Words

variable {name : String} {text word rest : List Char}

theorem endsWord_nil : EndsWord [] :=
  nofun

theorem isGap_nil : IsGap [] :=
  nofun

theorem endsWord_cons {character : Char} (ends : isWord character = false) :
    EndsWord (character :: rest) := by
  intro other head_eq
  cases head_eq
  exact ends

theorem EndsWord.append (ends : EndsWord text) (endsRest : EndsWord rest) :
    EndsWord (text ++ rest) := by
  cases text with
  | nil => exact endsRest
  | cons character others => exact endsWord_cons (ends character rfl)

theorem isWord_eq_false_of_isBlank {character : Char} (blank : Text.isBlank character = true) :
    isWord character = false := by
  cases continues : isWord character with
  | false => rfl
  | true =>
      rw [isBlank_eq_false_of_isWord continues] at blank
      cases blank

theorem IsGap.endsWord_append (isGap : IsGap text) (notEmpty : text ≠ []) :
    EndsWord (text ++ rest) := by
  cases text with
  | nil => exact absurd rfl notEmpty
  | cons character others =>
      exact endsWord_cons (isWord_eq_false_of_isBlank (isGap character List.mem_cons_self))

theorem IsGap.endsWord (isGap : IsGap text) : EndsWord text := by
  intro character head_eq
  exact isWord_eq_false_of_isBlank (isGap character (List.mem_of_head? head_eq))

theorem Attaches.endsWord {token : Token} (attaches : Attaches token) :
    EndsWord (token.render.toList ++ rest) := by
  cases token with
  | keyword type | name text => cases attaches
  | length value | count value | call function | colon =>
      simp only [Token.render, String.toList_append]
      exact endsWord_cons (by decide)

theorem takeWhile_isWord_eq_nil (ends : EndsWord rest) : rest.takeWhile isWord = [] := by
  cases rest with
  | nil => rfl
  | cons character others => simp [ends character rfl]

theorem wordOf_append (continues : ∀ character ∈ word, isWord character = true)
    (ends : EndsWord rest) : wordOf (word ++ rest) = word := by
  rw [wordOf, List.takeWhile_append_of_pos continues, takeWhile_isWord_eq_nil ends, List.append_nil]

theorem afterWord_append (continues : ∀ character ∈ word, isWord character = true)
    (ends : EndsWord rest) : afterWord (word ++ rest) = rest := by
  rw [afterWord, List.dropWhile_append_of_pos continues]
  cases rest with
  | nil => rfl
  | cons character others => simp [ends character rfl]

theorem isName_keyword (type : BuiltinType) : IsName type.keyword := by
  cases type with
  | integer type =>
      cases type <;> exact ⟨_, _, rfl, by decide, List.all_eq_true.mp (by decide)⟩
  | float type => cases type <;> exact ⟨_, _, rfl, by decide, List.all_eq_true.mp (by decide)⟩
  | string | wideString | void => exact ⟨_, _, rfl, by decide, List.all_eq_true.mp (by decide)⟩

theorem IsName.isWord_of_mem (isName : IsName name) :
    ∀ character ∈ name.toList, isWord character = true := by
  obtain ⟨first, others, toList_eq, begins, all⟩ := isName
  rw [toList_eq]
  intro character member
  rcases List.mem_cons.mp member with rfl | behind
  · exact isWord_of_beginsName begins
  · exact all character behind

theorem isWord_of_mem_toDigits {number : Nat} :
    ∀ character ∈ Nat.toDigits 10 number, isWord character = true := by
  intro character member
  have isDigit := Nat.isDigit_of_mem_toDigits (by decide) (by decide) member
  simp [isWord, Char.isAlphanum, isDigit]

theorem isName_of_readName (read : readName text = .ok name) : IsName name := by
  unfold readName at read
  split at read
  · rename_i first others
    split at read
    · rename_i begins
      cases read
      refine ⟨first, wordOf others, ?_, begins, ?_⟩
      · simp [wordOf, isWord_of_beginsName begins]
      · exact List.all_eq_true.mp List.all_takeWhile
    · cases read
  · cases read

/-- A name is read where it is not continued. -/
theorem readName_append (isName : IsName name) (ends : EndsWord rest) :
    readName (name.toList ++ rest) = .ok name := by
  have word_eq := wordOf_append isName.isWord_of_mem ends
  obtain ⟨first, others, toList_eq, begins, _⟩ := isName
  rw [toList_eq] at word_eq
  rw [toList_eq, List.cons_append, readName, if_pos begins]
  rw [List.cons_append] at word_eq
  rw [word_eq, ← toList_eq, String.ofList_toList]

/-- A number is read where it is not continued. -/
theorem readNumber_append (number : UInt64) (ends : EndsWord rest) :
    readNumber (Nat.toDigits 10 number.toNat ++ rest) = .ok number ∧
      afterWord (Nat.toDigits 10 number.toNat ++ rest) = rest := by
  constructor
  · rw [readNumber, wordOf_append isWord_of_mem_toDigits ends,
      Text.word?_toDigits (by decide) (by decide)]
  · exact afterWord_append isWord_of_mem_toDigits ends

theorem readToken_of_beginsName {first : Char} (begins : beginsName first = true) :
    readToken first rest = (readName (first :: rest)).map fun name =>
      (tokenOfName name, afterWord (first :: rest)) := by
  unfold readToken
  split
  · exact absurd begins (by decide)
  · exact absurd begins (by decide)
  · exact absurd begins (by decide)
  · exact absurd begins (by decide)
  · rfl

end Words

section Tokens

variable {token : Token} {tokens others : List Token} {first : Char}
  {text rest after more : List Char}

theorem isLexical_tokenOfName {name : String} (isName : IsName name) :
    IsLexical (tokenOfName name) := by
  unfold tokenOfName
  split
  · trivial
  · rename_i notKeyword
    exact ⟨isName, notKeyword⟩

theorem isLexical_of_readToken (read : readToken first rest = .ok (token, after)) :
    IsLexical token := by
  unfold readToken at read
  split at read
  · cases read
    trivial
  · cases number : readNumber rest <;> rw [number] at read <;> cases read
    trivial
  · cases number : readNumber rest <;> rw [number] at read <;> cases read
    trivial
  · cases name : readName rest <;> rw [name] at read <;> cases read
    exact isName_of_readName name
  · cases name : readName (first :: rest) <;> rw [name] at read <;> cases read
    exact isLexical_tokenOfName (isName_of_readName name)

/-- Every token of a text has a proper name, if it has one. -/
theorem isLexical_of_mem_tokenize (member : token ∈ (tokenize text).tokens) :
    IsLexical token := by
  fun_induction tokenize text with
  | case1 => cases member
  | case2 => cases member
  | case3 text first rest unread token after read shorter others induction =>
      rcases List.mem_cons.mp member with rfl | behind
      · exact isLexical_of_readToken read
      · exact induction behind

/-- A name stands for the token that it is, keyword or not. -/
theorem exists_readToken_name {name : String} (isName : IsName name) (ends : EndsWord rest) :
    ∃ first others, name.toList = first :: others ∧ Text.isBlank first = false ∧
      readToken first (others ++ rest) = .ok (tokenOfName name, rest) := by
  have read := readName_append isName ends
  have after_eq := afterWord_append isName.isWord_of_mem ends
  obtain ⟨first, others, toList_eq, begins, _⟩ := isName
  rw [toList_eq, List.cons_append] at read after_eq
  refine ⟨first, others, toList_eq, isBlank_eq_false_of_isWord (isWord_of_beginsName begins), ?_⟩
  rw [readToken_of_beginsName begins, read, after_eq]
  rfl

/-- A token is read from its text where that is not continued; nothing continues a
colon. -/
theorem exists_readToken_render (isLexical : IsLexical token)
    (ends : token = .colon ∨ EndsWord rest) :
    ∃ first others, token.render.toList = first :: others ∧ Text.isBlank first = false ∧
      readToken first (others ++ rest) = .ok (token, rest) := by
  cases token with
  | colon => exact ⟨':', [], rfl, by decide, rfl⟩
  | keyword type =>
      have read := exists_readToken_name (isName_keyword type) (ends.resolve_left nofun)
      rwa [tokenOfName, BuiltinType.ofKeyword?_keyword] at read
  | name text =>
      have read := exists_readToken_name isLexical.1 (ends.resolve_left nofun)
      rwa [tokenOfName, isLexical.2] at read
  | length value =>
      obtain ⟨read, after_eq⟩ := readNumber_append value (ends.resolve_left nofun)
      refine ⟨'#', Nat.toDigits 10 value.toNat, ?_, by decide, ?_⟩
      · simp [Token.render]
      · simp only [readToken, read, after_eq, Except.map]
  | count value =>
      obtain ⟨read, after_eq⟩ := readNumber_append value (ends.resolve_left nofun)
      refine ⟨'*', Nat.toDigits 10 value.toNat, ?_, by decide, ?_⟩
      · simp [Token.render]
      · simp only [readToken, read, after_eq, Except.map]
  | call function =>
      have endsWord := ends.resolve_left nofun
      have read := readName_append isLexical endsWord
      have after_eq := afterWord_append (IsName.isWord_of_mem isLexical) endsWord
      refine ⟨'@', function.toList, ?_, by decide, ?_⟩
      · simp [Token.render]
      · simp only [readToken, read, after_eq, Except.map]

/-- No token contains a blank. -/
theorem isBlank_eq_false_of_mem_render (isLexical : IsLexical token) :
    ∀ character ∈ token.render.toList, Text.isBlank character = false := by
  have ofDigits : ∀ number, ∀ character ∈ Nat.toDigits 10 number,
      Text.isBlank character = false := fun number character member =>
    isBlank_eq_false_of_isWord (isWord_of_mem_toDigits character member)
  have ofName : ∀ {name}, IsName name → ∀ character ∈ name.toList,
      Text.isBlank character = false := fun isName character member =>
    isBlank_eq_false_of_isWord (isName.isWord_of_mem character member)
  cases token with
  | keyword type => exact ofName (isName_keyword type)
  | name text => exact ofName isLexical.1
  | length value | count value =>
      simp only [Token.render, String.toList_append, List.forall_mem_append]
      exact ⟨List.forall_mem_singleton.mpr (by decide), by simpa using ofDigits value.toNat⟩
  | call function =>
      simp only [Token.render, String.toList_append, List.forall_mem_append]
      exact ⟨List.forall_mem_singleton.mpr (by decide), ofName isLexical⟩
  | colon => exact List.forall_mem_singleton.mpr (by decide)

theorem tokenize_of_gap (isGap : IsGap text) : tokenize text = ⟨[], none⟩ := by
  have unread : Text.skipBlanks text = [] := by
    rw [Text.skipBlanks, ← List.append_nil text, List.dropWhile_append_of_pos isGap]
    rfl
  rw [tokenize]
  split
  · rfl
  · rename_i begins
    rw [unread] at begins
    cases begins

theorem tokenize_of_readToken (unread : Text.skipBlanks text = first :: rest)
    (read : readToken first rest = .ok (token, after)) :
    tokenize text = ⟨token :: (tokenize after).tokens, (tokenize after).failure⟩ := by
  rw [tokenize]
  split
  · rename_i none
    rw [unread] at none
    cases none
  · rename_i begins
    cases unread.symm.trans begins
    split
    · rename_i failed
      cases read.symm.trans failed
    · rename_i found
      cases read.symm.trans found
      rfl

/-- Whether a text consists of the texts of some tokens, with blanks between them where
one would be continued by the next. -/
inductive Spells : List Token → List Char → Prop
  | nil {gap : List Char} (isGap : IsGap gap) : Spells [] gap
  | cons {token : Token} {tokens : List Token} {gap text : List Char} (isGap : IsGap gap)
      (isLexical : IsLexical token) (ends : token = .colon ∨ EndsWord text)
      (others : Spells tokens text) :
      Spells (token :: tokens) (gap ++ (token.render.toList ++ text))

/-- A token of a text, with the blanks in front of it. -/
structure Placed where
  gap : List Char
  token : Token
  deriving DecidableEq, Inhabited

/-- The text of tokens that stand one behind the other. -/
def placedText (placed : List Placed) : List Char :=
  placed.flatMap fun piece => piece.gap ++ piece.token.render.toList

/-- Whether blanks may be left out between two tokens: behind a colon, and in front of a mark
with which the second one begins. -/
def MayTouch (first second : Token) : Prop :=
  first = .colon ∨ ∃ mark ∈ ['#', '*', '@', ':'], second.render.toList.head? = some mark

/-- Whether there is nothing but blanks in front of each token, and at least one where blanks
may not be left out. -/
def IsSpaced (placed : List Placed) : Prop :=
  (∀ piece ∈ placed, IsGap piece.gap) ∧
    placed.IsChain fun first second => second.gap ≠ [] ∨ MayTouch first.token second.token

theorem Attaches.exists_mark (attaches : Attaches token) :
    ∃ mark ∈ ['#', '*', '@', ':'], token.render.toList.head? = some mark := by
  cases token with
  | keyword type | name text => cases attaches
  | length value => exact ⟨'#', by simp, by simp [Token.render]⟩
  | count value => exact ⟨'*', by simp, by simp [Token.render]⟩
  | call function => exact ⟨'@', by simp, by simp [Token.render]⟩
  | colon => exact ⟨':', by simp, rfl⟩

/-- A token that begins with a mark is no keyword or name. -/
theorem attaches_of_mark (isLexical : IsLexical token) {mark : Char}
    (isMark : mark ∈ ['#', '*', '@', ':']) (begins : token.render.toList.head? = some mark) :
    Attaches token := by
  have noLetter : beginsName mark = false := by
    simp only [List.mem_cons, List.not_mem_nil, or_false] at isMark
    rcases isMark with rfl | rfl | rfl | rfl <;> decide
  have notName : ∀ {name : String}, IsName name → name.toList.head? ≠ some mark := by
    rintro name ⟨first, rest, toList_eq, beginsFirst, _⟩ head_eq
    rw [toList_eq, List.head?_cons, Option.some_inj] at head_eq
    rw [head_eq, noLetter] at beginsFirst
    cases beginsFirst
  cases token with
  | keyword type => exact notName (isName_keyword type) begins
  | name text => exact notName isLexical.1 begins
  | length value | count value | call function | colon => trivial

theorem placedText_cons (piece : Placed) (placed : List Placed) :
    placedText (piece :: placed) =
      piece.gap ++ piece.token.render.toList ++ placedText placed :=
  List.flatMap_cons

namespace Spells

/-- Tokens are read back from their texts. -/
theorem tokenize_eq (spells : Spells tokens text) : tokenize text = ⟨tokens, none⟩ := by
  induction spells with
  | nil isGap => exact tokenize_of_gap isGap
  | @cons token tokens gap text isGap isLexical ends others induction =>
      obtain ⟨first, behind, render_eq, notBlank, read⟩ := exists_readToken_render isLexical ends
      have unread : Text.skipBlanks (gap ++ (token.render.toList ++ text)) =
          first :: (behind ++ text) := by
        rw [Text.skipBlanks, List.dropWhile_append_of_pos isGap, render_eq, List.cons_append,
          List.dropWhile_cons_of_neg (by simp [notBlank])]
      rw [tokenize_of_readToken unread read, induction]

theorem single (isLexical : IsLexical token) : Spells [token] token.render.toList := by
  simpa using cons isGap_nil isLexical (.inr endsWord_nil) (nil isGap_nil)

/-- Blanks in front of the first token are passed over. -/
theorem gap_append {gap : List Char} (isGap : IsGap gap) (spells : Spells tokens text) :
    Spells tokens (gap ++ text) := by
  have joined : ∀ {other}, IsGap other → IsGap (gap ++ other) := by
    intro other isOther character member
    exact (List.mem_append.mp member).elim (isGap character) (isOther character)
  cases spells with
  | nil isOther => exact nil (joined isOther)
  | cons isOther isLexical ends others =>
      rw [← List.append_assoc]
      exact cons (joined isOther) isLexical ends others

theorem append (spells : Spells tokens text) (spellsMore : Spells others more)
    (endsMore : EndsWord more) : Spells (tokens ++ others) (text ++ more) := by
  induction spells with
  | nil isGap => exact spellsMore.gap_append isGap
  | cons isGap isLexical ends _ induction =>
      rw [List.append_assoc, List.append_assoc]
      exact cons isGap isLexical (ends.imp_right fun endsText => endsText.append endsMore) induction

/-- Tokens with enough blanks between them are spelled, with any blanks behind them. -/
theorem of_isSpaced {placed : List Placed} {gap : List Char} (isSpaced : IsSpaced placed)
    (lexical : ∀ piece ∈ placed, IsLexical piece.token) (isGap : IsGap gap) :
    Spells (placed.map Placed.token) (placedText placed ++ gap) := by
  induction placed with
  | nil => exact nil isGap
  | cons piece placed induction =>
      obtain ⟨⟨isGapFirst, gaps⟩, joined⟩ := And.imp_left List.forall_mem_cons.mp isSpaced
      obtain ⟨isLexical, lexicalBehind⟩ := List.forall_mem_cons.mp lexical
      have others := induction ⟨gaps, joined.tail⟩ lexicalBehind
      rw [placedText_cons, List.map_cons, List.append_assoc, List.append_assoc]
      refine cons isGapFirst isLexical ?_ others
      cases placed with
      | nil => exact .inr isGap.endsWord
      | cons next placed =>
          obtain ⟨isGapNext, _⟩ := List.forall_mem_cons.mp gaps
          obtain ⟨isLexicalNext, _⟩ := List.forall_mem_cons.mp lexicalBehind
          rw [placedText_cons, List.append_assoc, List.append_assoc]
          rcases (List.isChain_cons_cons.mp joined).1 with
            someBlank | isColon | ⟨mark, isMark, begins⟩
          · exact .inr (isGapNext.endsWord_append someBlank)
          · exact .inl isColon
          · have attaches := attaches_of_mark isLexicalNext isMark begins
            exact .inr (isGapNext.endsWord.append attaches.endsWord)

/-- No blanks are needed where a token attaches to the one in front of it, nor behind a
colon. -/
theorem of_isChain (lexical : ∀ token ∈ tokens, IsLexical token)
    (joined : tokens.IsChain fun first second => first = .colon ∨ Attaches second) :
    Spells tokens (tokens.flatMap fun token => token.render.toList) := by
  let placed : List Placed := tokens.map fun token => ⟨[], token⟩
  have isSpaced : IsSpaced placed := by
    refine ⟨List.forall_mem_map.mpr fun _ _ => isGap_nil, ?_⟩
    exact (List.isChain_map _).mpr
      (joined.imp fun _ _ touches => .inr (touches.imp_right Attaches.exists_mark))
  have spells := of_isSpaced isSpaced (List.forall_mem_map.mpr lexical) isGap_nil
  simpa [placed, placedText, List.flatMap_map, Function.comp_def] using spells

/-- Texts that are separated by blanks spell one behind the other. -/
theorem intercalate {separator : List Char} (isGap : IsGap separator) (notEmpty : separator ≠ [])
    {pieces : List (List Token × List Char)} (spelled : ∀ piece ∈ pieces, Spells piece.1 piece.2) :
    Spells (pieces.flatMap Prod.fst) (separator.intercalate (pieces.map Prod.snd)) := by
  induction pieces with
  | nil => exact nil isGap_nil
  | cons piece pieces induction =>
      have first := spelled piece List.mem_cons_self
      have behind := induction fun other member => spelled other (List.mem_cons_of_mem _ member)
      cases pieces with
      | nil => simpa using first
      | cons next pieces =>
          rw [List.map_cons, List.intercalate_cons_of_ne_nil (by simp), List.append_assoc]
          exact first.append (behind.gap_append isGap) (isGap.endsWord_append notEmpty)

end Spells

end Tokens

end Layout

end BinaryRecords
