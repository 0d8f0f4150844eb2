import Templating.Proofs.Number.Written
import Templating.Proofs.Printing.Tags

/-!
# Texts of tokens

What the scanner reads at the front of a text, token by token. Each token is read
back from its canonical text, as long as what follows does not go on with it, and the
texts of several tokens are read one after the other.
-/

namespace Templating

namespace Token

/-- In front of a rest, a text is read as tokens. No tag ends in the text. -/
structure Writes
    (source : String)
    (position : Nat)
    (text : List Char)
    (tokens : List Token)
    (rest : List Char) :
    Prop where
  scans :
    scanFrom source position (text ++ rest) =
      (scanFrom source (position + text.length) rest).map (tokens ++ ·)
  passes : Tag.Passes text

/-- Neither a word nor a number goes on in a text. -/
def Ends (rest : List Char) : Prop :=
  ∀ character ∈ rest.head?, Text.isWord character = false ∧ character ≠ '.'

theorem Ends.nil : Ends [] := by
  simp [Ends]

theorem Ends.cons
    {character : Char}
    (separates : Text.isWord character = false ∧ character ≠ '.')
    (rest : List Char) :
    Ends (character :: rest) := by
  rintro _ ⟨⟩
  exact separates

theorem Ends.isWord
    {rest : List Char}
    (ends : Ends rest) :
    ∀ character ∈ rest.head?, Text.isWord character = false :=
  fun character first => (ends character first).1

theorem Ends.isDigit
    {rest : List Char}
    (ends : Ends rest) :
    ∀ character ∈ rest.head?, character.isDigit = false := by
  intro character first
  cases digit : character.isDigit with
  | false => rfl
  | true =>
      rw [← (ends character first).1]
      exact (Text.isWord_of_isDigit digit).symm

/-- A text is read back from its quotes, up to the closing one. -/
theorem stringBody?_escaped (text rest : List Char) :
    stringBody? (text.flatMap Text.escaped ++ '\x22' :: rest) =
      some (text, (text.flatMap Text.escaped).length + 1) := by
  induction text with
  | nil => rfl
  | cons character text inductionHypothesis =>
      rw [List.flatMap_cons, List.append_assoc, Text.escaped]
      split
      · rw [List.cons_append, List.singleton_append, stringBody?, inductionHypothesis]
        simp only [Option.map_some, List.length_append, List.length_cons,
          List.length_nil, Option.some.injEq, Prod.mk.injEq, true_and]
        omega
      · next plain =>
          obtain ⟨notQuote, notBackslash⟩ := not_or.1 plain
          rw [List.singleton_append, stringBody?, inductionHypothesis]
          · simp [Nat.add_comm]
          · exact notQuote
          · intro other others same
            exact absurd same notBackslash

namespace Writes

variable {source : String} {position : Nat} {rest : List Char}

theorem nil : Writes source position [] [] rest where
  scans := by
    cases scanned : scanFrom source position rest <;> simp [scanned, Except.map]
  passes := .nil

theorem append
    {text others : List Char}
    {tokens more : List Token}
    (first : Writes source position text tokens (others ++ rest))
    (second : Writes source (position + text.length) others more rest) :
    Writes source position (text ++ others) (tokens ++ more) rest where
  scans := by
    rw [List.append_assoc, first.scans, second.scans, List.length_append, Nat.add_assoc]
    cases scanFrom source (position + (text.length + others.length)) rest <;>
      simp [Except.map]
  passes := first.passes.append second.passes

theorem blank : Writes source position [' '] [] rest where
  scans := by
    rw [List.singleton_append, scanFrom, if_pos (by decide)]
    exact nil.scans
  passes := .single (by decide) (by decide)

theorem ofLexeme
    {first : Char}
    {more : List Char}
    {found : Lexeme}
    (visible : Text.isBlank first = false)
    (read : lexeme first (more ++ rest) = .ok found)
    (size : found.more = more.length)
    (passes : Tag.Passes (first :: more)) :
    Writes source position (first :: more)
      [{ kind := found.kind, text := String.ofList found.text, position }] rest where
  scans := by
    rw [List.cons_append, scanFrom, if_neg (by simp [visible]), read]
    simp only [size, List.drop_left, List.length_cons, Nat.add_assoc, Nat.add_comm 1]
    cases scanFrom source (position + (more.length + 1)) rest <;> rfl
  passes := passes

theorem string (text : List Char) :
    Writes source position (Text.doubleQuoted text)
      [⟨.string, String.ofList text, position⟩] rest := by
  have read :
      lexeme '\x22' (text.flatMap Text.escaped ++ ['\x22'] ++ rest) =
        .ok ⟨.string, text, (text.flatMap Text.escaped).length + 1⟩ := by
    rw [List.append_assoc, List.singleton_append, lexeme, if_pos rfl,
      stringBody?_escaped]
  exact ofLexeme (by decide) read (by simp) (.doubleQuoted text)

/-- A word is read up to its end. -/
theorem word
    {word : String}
    {first : Char}
    {others : List Char}
    (spelled : word.toList = first :: others)
    (begins : Text.isNameStart first = true)
    (othersWord : ∀ character ∈ others, Text.isWord character = true)
    (ends : ∀ character ∈ rest.head?, Text.isWord character = false) :
    Writes source position word.toList [⟨.ofWord word, word, position⟩] rest := by
  have firstWord := Text.isWord_of_isNameStart first begins
  obtain ⟨whole, -⟩ := Text.takeWhile_append_of_head othersWord ends
  have read := lexeme_of_isNameStart begins (others ++ rest)
  rw [whole] at read
  have written :=
    @ofLexeme source position rest _ _ _ (Text.not_isBlank_of_isWord firstWord) read rfl
      (.ofWord (List.forall_mem_cons.2 ⟨firstWord, othersWord⟩))
  rwa [← spelled, String.ofList_toList] at written

/-- A keyword is a word of its own kind. -/
theorem keyword
    {word : String}
    {kind : TokenKind}
    (isKeyword : (word, kind) ∈ TokenKind.keywords)
    (ends : ∀ character ∈ rest.head?, Text.isWord character = false) :
    Writes source position word.toList [⟨kind, word, position⟩] rest := by
  obtain ⟨first, others, spelled, begins, isWord, ofWord⟩ :=
    TokenKind.keyword_spelled isKeyword
  exact ofWord ▸ Writes.word spelled begins isWord ends

/-- A name of the language is a word, and no other token. -/
theorem name
    {name : String}
    (isName : isFunctionName name = true)
    (ends : ∀ character ∈ rest.head?, Text.isWord character = false) :
    Writes source position name.toList [⟨.name, name, position⟩] rest := by
  unfold isFunctionName at isName
  split at isName
  · cases isName
  · next first others spelled =>
      simp only [Bool.and_eq_true, List.all_eq_true, Bool.not_eq_true'] at isName
      obtain ⟨⟨begins, othersWord⟩, noKeyword⟩ := isName
      exact TokenKind.ofWord_eq_name noKeyword ▸ word spelled begins othersWord ends

/-- The decimal digits of a natural number are read as a number. -/
theorem number (number : Nat) (ends : Ends rest) :
    Writes source position (Nat.toDigits 10 number)
      [⟨.number, String.ofList (Nat.toDigits 10 number), position⟩] rest := by
  have nonempty : Nat.toDigits 10 number ≠ [] := Nat.toDigits_ne_nil
  have digits : ∀ character ∈ Nat.toDigits 10 number, character.isDigit = true :=
    fun character inside =>
      Nat.isDigit_of_mem_toDigits (by decide) (by decide) inside
  generalize Nat.toDigits 10 number = text at nonempty digits
  obtain ⟨first, others, rfl⟩ := List.exists_cons_of_ne_nil nonempty
  obtain ⟨digit, othersDigits⟩ := List.forall_mem_cons.1 digits
  have isWord := Text.isWord_of_isDigit digit
  have whole : numberRest (others ++ rest) = others := by
    obtain ⟨front, back⟩ := Text.takeWhile_append_of_head othersDigits ends.isDigit
    unfold numberRest
    simp only [front, back]
    split
    · exact absurd rfl (ends '.' rfl).2
    · rfl
  have read := lexeme_of_isDigit digit (others ++ rest)
  rw [whole] at read
  exact ofLexeme (Text.not_isBlank_of_isWord isWord) read rfl
    (.ofWord fun character inside => Text.isWord_of_isDigit (digits character inside))

/-- A token of a single character is read where no operator of two characters
stands. -/
theorem single
    {character : Char}
    {kind : TokenKind}
    (isSingle : singleOperator? character = some kind)
    (noDouble : doubleOperator? character rest = none) :
    Writes source position [character]
      [⟨kind, String.ofList [character], position⟩] rest := by
  have plain :
      Text.isBlank character = false ∧ character ≠ '\x7d' ∧ character ≠ '\x22' := by
    unfold singleOperator? at isSingle
    split at isSingle
    all_goals first | decide | cases isSingle
  obtain ⟨visible, notBrace, notQuote⟩ := plain
  have read : lexeme character ([] ++ rest) = .ok ⟨kind, [character], 0⟩ := by
    rw [List.nil_append, lexeme, if_neg notQuote, noDouble, isSingle]
  exact ofLexeme visible read rfl (.single notBrace notQuote)

theorem double
    {first : Char}
    {kind : TokenKind}
    (isDouble : doubleOperator? first ('=' :: rest) = some kind) :
    Writes source position [first, '=']
      [⟨kind, String.ofList [first, '='], position⟩] rest := by
  have plain :
      Text.isBlank first = false ∧ first ≠ '\x7d' ∧ first ≠ '\x22' := by
    unfold doubleOperator? at isDouble
    split at isDouble
    all_goals first | decide | cases isDouble
  obtain ⟨visible, notBrace, notQuote⟩ := plain
  have read : lexeme first (['='] ++ rest) = .ok ⟨kind, [first, '='], 1⟩ := by
    rw [List.singleton_append, lexeme, if_neg notQuote, isDouble]
  exact ofLexeme visible read rfl
    ((Tag.Passes.single notBrace notQuote).append (.single (by decide) (by decide)))

theorem parenthesized
    {text : List Char}
    {tokens : List Token}
    (inside : Writes source (position + 1) text tokens (')' :: rest)) :
    Writes source position (Text.parenthesized text)
      (⟨.openParenthesis, String.ofList ['('], position⟩ ::
        (tokens ++
          [⟨.closeParenthesis, String.ofList [')'], position + 1 + text.length⟩]))
      rest := by
  have opening := @single source position (text ++ [')'] ++ rest) '(' _ rfl rfl
  have closing := @single source (position + 1 + text.length) rest ')' _ rfl rfl
  exact opening.append (inside.append closing)

/-- The sign of a relation is read in front of a blank. -/
theorem relation (kind : Relation) (rest : List Char) :
    Writes source position kind.symbol.toList
      [⟨.relation kind, kind.symbol, position⟩] (' ' :: rest) := by
  cases kind with
  | equal => exact double rfl
  | notEqual => exact double rfl
  | order comparison =>
      cases comparison with
      | less => exact single rfl rfl
      | atMost => exact double rfl
      | greater => exact single rfl rfl
      | atLeast => exact double rfl

/-- The sign of an operator between two texts, with blanks around it. -/
theorem between
    {text sign others : List Char}
    {tokens more : List Token}
    {operator : Token}
    (left :
      Writes source position text tokens (' ' :: (sign ++ ' ' :: others) ++ rest))
    (read :
      Writes source (position + text.length + 1) sign [operator]
        (' ' :: others ++ rest))
    (right :
      Writes source (position + text.length + 1 + sign.length + 1) others more rest) :
    Writes source position (text ++ ' ' :: (sign ++ ' ' :: others))
      (tokens ++ operator :: more) rest :=
  left.append (blank.append (read.append (blank.append right)))

end Writes
end Token
end Templating
