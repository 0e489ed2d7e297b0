import BinaryRecords.Proofs.Layout.Joining

/-!
# Asking for tokens one by one

A scanner reads the tokens of a text one at a time and stops for good at the first failure.
However often it is asked, it answers with the tokens of the text, in order, then with the
failure at which reading them stopped, if there is one, and then with nothing.  The texts of
tokens are read back as these tokens, with blanks of any kind in front of each, at least
wherever the token begins with no mark and does not follow a colon.
-/

namespace BinaryRecords

namespace Layout

/-- What is left of a text that is read token by token, unless reading has failed. -/
inductive Scanner
  | reading (text : List Char)
  | stopped
  deriving DecidableEq, Inhabited

namespace Scanner

/-- The answer to a request for a token, and the scanner behind it. -/
def next : Scanner → Option (Except Error Token) × Scanner
  | reading text =>
      match Text.skipBlanks text with
      | [] => (none, reading [])
      | first :: rest =>
          match readToken first rest with
          | .ok (token, after) => (some (.ok token), reading after)
          | .error failure => (some (.error failure), stopped)
  | stopped => (none, stopped)

/-- The answer to a request behind a number of earlier ones. -/
def answer (scanner : Scanner) : (earlier : Nat) → Option (Except Error Token)
  | 0 => scanner.next.1
  | earlier + 1 => scanner.next.2.answer earlier

end Scanner

namespace Lexed

/-- The tokens and then the failure, if there is one. -/
def answers (lexed : Lexed) : List (Except Error Token) :=
  lexed.tokens.map .ok ++ (lexed.failure.map .error).toList

theorem length_answers_le (lexed : Lexed) : lexed.answers.length ≤ lexed.tokens.length + 1 := by
  rw [answers, List.length_append, List.length_map]
  exact Nat.add_le_add_left Option.length_toList_le _

end Lexed

/-- A scanner that answers with nothing and stays as it is never answers again. -/
theorem Scanner.answer_of_silent {scanner : Scanner} (silent : scanner.next = (none, scanner))
    (earlier : Nat) : scanner.answer earlier = none := by
  induction earlier with
  | zero => rw [answer, silent]
  | succ earlier induction =>
      rw [answer, silent]
      exact induction

/-- A scanner answers with the tokens of its text, then with the failure, then with nothing. -/
theorem Scanner.answer_reading (text : List Char) (earlier : Nat) :
    (reading text).answer earlier = (tokenize text).answers[earlier]? := by
  fun_induction tokenize text generalizing earlier with
  | case1 text unread =>
      have next_eq : (reading text).next = (none, reading []) := by
        simp only [next, unread]
      cases earlier with
      | zero => rw [answer, next_eq]; rfl
      | succ earlier => rw [answer, next_eq, answer_of_silent rfl]; rfl
  | case2 text first rest unread failure read =>
      have next_eq : (reading text).next = (some (.error failure), stopped) := by
        simp only [next, unread, read]
      cases earlier with
      | zero => rw [answer, next_eq]; rfl
      | succ earlier => rw [answer, next_eq, answer_of_silent rfl]; rfl
  | case3 text first rest unread token after read shorter others induction =>
      have next_eq : (reading text).next = (some (.ok token), reading after) := by
        simp only [next, unread, read]
      cases earlier with
      | zero => rw [answer, next_eq]; rfl
      | succ earlier => rw [answer, next_eq, induction]; rfl

theorem length_tokens_tokenize_le (text : List Char) :
    (tokenize text).tokens.length ≤ text.length := by
  fun_induction tokenize text with
  | case1 => exact Nat.zero_le _
  | case2 => exact Nat.zero_le _
  | case3 text first rest unread token after read shorter others induction =>
      exact Nat.lt_of_le_of_lt induction shorter

/-- The texts of tokens are read back as these tokens, where blanks are left out at most behind
a colon or in front of a mark.  A text has no more tokens than characters.  Asked again and
again, a scanner answers with all of them, then with the failure, if there is one, and from
then on with nothing, and the tokens that it has answered with are read back as well. -/
theorem tokens_are_read_back :
    (∀ placed gap, IsSpaced placed → (∀ piece ∈ placed, IsLexical piece.token) → IsGap gap →
      tokenize (placedText placed ++ gap) = ⟨placed.map Placed.token, none⟩) ∧
    ∀ text, (tokenize text).tokens.length ≤ text.length ∧
      (∀ earlier, earlier < (tokenize text).tokens.length →
        (Scanner.reading text).answer earlier = (tokenize text).tokens[earlier]?.map .ok) ∧
      (Scanner.reading text).answer (tokenize text).tokens.length =
        (tokenize text).failure.map .error ∧
      (∀ earlier, (tokenize text).tokens.length < earlier →
        (Scanner.reading text).answer earlier = none) ∧
      ∀ placed gap, IsSpaced placed → placed.map Placed.token = (tokenize text).tokens →
        IsGap gap → tokenize (placedText placed ++ gap) = ⟨(tokenize text).tokens, none⟩ := by
  have readBack : ∀ placed gap, IsSpaced placed → (∀ piece ∈ placed, IsLexical piece.token) →
      IsGap gap → tokenize (placedText placed ++ gap) = ⟨placed.map Placed.token, none⟩ :=
    fun placed gap isSpaced lexical isGap =>
      (Spells.of_isSpaced isSpaced lexical isGap).tokenize_eq
  refine ⟨readBack, fun text => ⟨length_tokens_tokenize_le text, ?_, ?_, ?_, ?_⟩⟩
  · intro earlier inside
    rw [Scanner.answer_reading, Lexed.answers, List.getElem?_append_left (by simpa using inside),
      List.getElem?_map]
  · rw [Scanner.answer_reading, Lexed.answers, List.getElem?_append_right (by simp)]
    cases (tokenize text).failure <;> simp
  · intro earlier behind
    rw [Scanner.answer_reading, List.getElem?_eq_none_iff]
    exact (tokenize text).length_answers_le.trans behind
  · intro placed gap isSpaced tokens_eq isGap
    rw [← tokens_eq]
    apply readBack placed gap isSpaced _ isGap
    intro piece member
    have isRead : piece.token ∈ (tokenize text).tokens := by
      rw [← tokens_eq]
      exact List.mem_map_of_mem member
    exact isLexical_of_mem_tokenize isRead

/-- A length and a count attach to their type, a colon to both, and the next type follows
behind a blank.  A scanner stops for good where a text goes on with what is no token. -/
theorem tokens_are_read_back_attached :
    tokenize "str#32*8:name\u3000u16 ".toList =
      ⟨[.keyword .string, .length 32, .count 8, .colon, .name "name", .keyword (.integer .u16)],
        none⟩ ∧
    (Scanner.reading "u8 ,aa u8".toList).answer 0 = some (.ok (.keyword (.integer .u8))) ∧
    (Scanner.reading "u8 ,aa u8".toList).answer 1 = some (.error (.unknownInput ",aa")) ∧
    (Scanner.reading "u8 ,aa u8".toList).answer 2 = none ∧
    tokenize "\tu8".toList = ⟨[.keyword (.integer .u8)], none⟩ := by
  have lexed : tokenize "u8 ,aa u8".toList =
      ⟨[.keyword (.integer .u8)], some (.unknownInput ",aa")⟩ := by
    have read : readToken 'u' "8 ,aa u8".toList =
        .ok (.keyword (.integer .u8), " ,aa u8".toList) := by decide
    have failed : readToken ',' "aa u8".toList = .error (.unknownInput ",aa") := by decide
    rw [tokenize_of_readToken (by decide) read, tokenize_of_failure (by decide) failed]
  have isName : IsName "name" := ⟨_, _, rfl, by decide, List.all_eq_true.mp (by decide)⟩
  have notKeyword : BuiltinType.ofKeyword? "name" = none := by decide
  have blanks : Text.isBlank ' ' = true ∧ Text.isBlank '\t' = true ∧
      Text.isBlank '\u3000' = true := by decide
  obtain ⟨readBack, asked⟩ := tokens_are_read_back
  obtain ⟨_, answers, failure, silent, again⟩ := asked "u8 ,aa u8".toList
  rw [lexed] at answers failure silent again
  refine ⟨?_, answers 0 (by decide), failure, silent 2 (by decide), ?_⟩
  · refine readBack [⟨[], .keyword .string⟩, ⟨[], .length 32⟩, ⟨[], .count 8⟩, ⟨[], .colon⟩,
      ⟨[], .name "name"⟩, ⟨['\u3000'], .keyword (.integer .u16)⟩] [' '] ?_ ?_ ?_
    · constructor
      · simp [IsGap, blanks]
      · simp [MayTouch, Token.render]
    · simp [IsLexical, isName, notKeyword]
    · simp [IsGap, blanks]
  · refine again [⟨['\t'], .keyword (.integer .u8)⟩] [] ?_ rfl isGap_nil
    exact ⟨by simp [IsGap, blanks], .singleton _⟩

end Layout

end BinaryRecords
