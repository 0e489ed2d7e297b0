import BinaryRecords.Error
import BinaryRecords.Text.Words

/-!
# Reading tokens

A layout text is read token by token, and reading stops at the first part that
is no token.  Every token takes at least one character, so each text has
finitely many.
-/

namespace BinaryRecords

namespace Layout

/-- Whether a character may continue a name or number: an ASCII letter or digit,
or an underscore. -/
def isWord (character : Char) : Bool :=
  character.isAlphanum || character == '_'

/-- Whether a character may begin a name: an ASCII letter. -/
def beginsName (character : Char) : Bool :=
  character.isAlpha

def wordOf (text : List Char) : List Char :=
  text.takeWhile isWord

def afterWord (text : List Char) : List Char :=
  text.dropWhile isWord

/-- The failure at characters that begin no token: all up to the next blank. -/
def unknown (text : List Char) : Error :=
  .unknownInput (String.ofList (text.takeWhile fun character => !Text.isBlank character))

def readNumber (text : List Char) : Except Error UInt64 :=
  match Text.word? 10 (wordOf text) with
  | some number => .ok number
  | none => .error (.invalidNumber (String.ofList (wordOf text)))

def readName (text : List Char) : Except Error String :=
  match text with
  | first :: _ =>
      if beginsName first then .ok (String.ofList (wordOf text)) else .error (unknown text)
  | [] => .error (unknown text)

/-- A name is a keyword or stands for itself. -/
def tokenOfName (name : String) : Token :=
  match BuiltinType.ofKeyword? name with
  | some type => .keyword type
  | none => .name name

/-- The token that begins with a given character, and what follows it. -/
def readToken (first : Char) (rest : List Char) : Except Error (Token × List Char) :=
  match first with
  | ':' => .ok (.colon, rest)
  | '#' => (readNumber rest).map fun number => (.length number, afterWord rest)
  | '*' => (readNumber rest).map fun number => (.count number, afterWord rest)
  | '@' => (readName rest).map fun name => (.call name, afterWord rest)
  | _ => (readName (first :: rest)).map fun name =>
      (tokenOfName name, afterWord (first :: rest))

theorem afterWord_length_le (text : List Char) :
    (afterWord text).length ≤ text.length :=
  (List.dropWhile_suffix isWord).length_le

theorem isWord_of_beginsName {character : Char}
    (begins : beginsName character = true) : isWord character = true := by
  simp only [beginsName] at begins
  simp [isWord, Char.isAlphanum, begins]

/-- A token takes at least the character that it begins with. -/
theorem readToken_rest_length {first : Char} {rest after : List Char} {token : Token}
    (read : readToken first rest = .ok (token, after)) :
    after.length ≤ rest.length := by
  unfold readToken at read
  split at read
  · cases read
    exact Nat.le_refl _
  · cases number : readNumber rest <;> rw [number] at read <;> cases read
    exact afterWord_length_le rest
  · cases number : readNumber rest <;> rw [number] at read <;> cases read
    exact afterWord_length_le rest
  · cases name : readName rest <;> rw [name] at read <;> cases read
    exact afterWord_length_le rest
  · simp only [readName] at read
    split at read
    · rename_i begins
      cases read
      simp only [afterWord, List.dropWhile_cons, isWord_of_beginsName begins, if_true]
      exact afterWord_length_le rest
    · cases read

/-- The tokens of a text, and the failure at which reading them stopped. -/
structure Lexed where
  tokens : List Token
  failure : Option Error
  deriving DecidableEq, Inhabited

/-- All tokens of a text up to its end or to the first failure. -/
def tokenize (text : List Char) : Lexed :=
  match unread : Text.skipBlanks text with
  | [] => ⟨[], none⟩
  | first :: rest =>
      match read : readToken first rest with
      | .error failure => ⟨[], some failure⟩
      | .ok (token, after) =>
          have : after.length < text.length := by
            have blanksDropped : (Text.skipBlanks text).length ≤ text.length :=
              (List.dropWhile_suffix Text.isBlank).length_le
            have tokenDropped := readToken_rest_length read
            rw [unread, List.length_cons] at blanksDropped
            omega
          let others := tokenize after
          ⟨token :: others.tokens, others.failure⟩
termination_by text.length

end Layout

end BinaryRecords
