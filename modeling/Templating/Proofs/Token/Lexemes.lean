import Templating.Proofs.Text.Classes
import Templating.Proofs.Text.Strings

/-!
# The lexemes of the language

What a token may be written as: a string between quotes, one of the operators, digits with
or without decimals, a keyword or a name. At the front of a text the scanner takes the
longest of them all, and it stops where none can be taken.
-/

namespace Templating

namespace TokenKind

/-- A word that is no keyword is a name. -/
theorem ofWord_eq_name
    {word : String}
    (noKeyword : isKeyword word = false) :
    ofWord word = .name := by
  have missing : keywords.lookup word = none := by
    rw [List.lookup_eq_none_iff]
    intro entry inside
    rw [bne_iff_ne]
    rintro rfl
    have isKeyword : (keywords.map Prod.fst).contains entry.1 = true :=
      List.contains_iff_mem.2 (List.mem_map_of_mem inside)
    exact Bool.false_ne_true (noKeyword.symm.trans isKeyword)
  rw [ofWord, missing, Option.getD_none]

/-- A keyword is a word of its own kind. -/
theorem keyword_spelled
    {word : String}
    {kind : TokenKind}
    (isKeyword : (word, kind) ∈ keywords) :
    ∃ first others,
      word.toList = first :: others ∧ Text.isNameStart first = true ∧
        (∀ character ∈ others, Text.isWord character = true) ∧ ofWord word = kind := by
  simp only [keywords, List.mem_cons, Prod.mk.injEq, List.not_mem_nil, or_false]
    at isKeyword
  rcases isKeyword with ⟨rfl, rfl⟩ | ⟨rfl, rfl⟩ | ⟨rfl, rfl⟩ | ⟨rfl, rfl⟩ | ⟨rfl, rfl⟩ |
    ⟨rfl, rfl⟩ <;>
    exact ⟨_, _, rfl, by decide, List.all_eq_true.1 (by decide), by decide⟩

/-- A word is a keyword of this kind, or a name. -/
theorem ofWord_cases (word : String) :
    (word, ofWord word) ∈ keywords ∨ isKeyword word = false ∧ ofWord word = .name := by
  cases found : keywords.lookup word with
  | none =>
      have noKeyword : isKeyword word = false := by
        rw [isKeyword, List.contains_eq_mem, decide_eq_false_iff_not, List.mem_map]
        rintro ⟨entry, inside, rfl⟩
        exact bne_iff_ne.1 (List.lookup_eq_none_iff.1 found entry inside) rfl
      exact .inr ⟨noKeyword, ofWord_eq_name noKeyword⟩
  | some kind =>
      obtain ⟨before, after, split, -⟩ := List.lookup_eq_some_iff.1 found
      left
      rw [ofWord, found, Option.getD_some, split]
      exact List.mem_append_right _ List.mem_cons_self

end TokenKind

namespace Token

open Text (ClosesString)

/-- The operators and the marks between tokens, with what they are. -/
def operators : List (String × TokenKind) :=
  [("==", .relation .equal), ("!=", .relation .notEqual),
    (">=", .relation (.order .atLeast)), ("<=", .relation (.order .atMost)),
    (">", .relation (.order .greater)), ("<", .relation (.order .less)),
    ("(", .openParenthesis), (")", .closeParenthesis), (",", .comma), (".", .dot)]

/-- The lexemes: how a token is written, what it is, and the text that it carries. -/
inductive Lexical : (spelling : List Char) → TokenKind → (text : List Char) → Prop
  | string
      {inside meaning : List Char}
      (closes : ClosesString inside meaning) :
      Lexical ('\x22' :: inside) .string meaning
  | operator
      {sign : String}
      {kind : TokenKind}
      (isOperator : (sign, kind) ∈ operators) :
      Lexical sign.toList kind sign.toList
  | whole
      {first : Char}
      {others : List Char}
      (digits : ∀ character ∈ first :: others, character.isDigit = true) :
      Lexical (first :: others) .number (first :: others)
  /-- A point belongs to a number when a digit stands behind it. -/
  | decimal
      {first next : Char}
      {others further : List Char}
      (digits : ∀ character ∈ first :: others, character.isDigit = true)
      (decimals : ∀ character ∈ next :: further, character.isDigit = true) :
      Lexical (first :: (others ++ '.' :: next :: further)) .number
        (first :: (others ++ '.' :: next :: further))
  | keyword
      {word : String}
      {kind : TokenKind}
      (isKeyword : (word, kind) ∈ TokenKind.keywords) :
      Lexical word.toList kind word.toList
  | name
      {first : Char}
      {others : List Char}
      (begins : Text.isNameStart first = true)
      (goesOn : ∀ character ∈ others, Text.isWord character = true)
      (noKeyword : isKeyword (String.ofList (first :: others)) = false) :
      Lexical (first :: others) .name (first :: others)

/-- No lexeme at the front of a text is longer. -/
def Longest (spelling text : List Char) : Prop :=
  ∀ other kind meaning,
    Lexical other kind meaning → other <+: text → other.length ≤ spelling.length

/-- A text is at a place where no token can be read: at a string that is not closed, or at
a character that is no blank and begins no lexeme. -/
inductive Stuck : TokenCause → List Char → Prop
  | unterminated
      {behind : List Char}
      (unclosed : ∀ inside meaning, ClosesString inside meaning → ¬inside <+: behind) :
      Stuck .unterminatedString ('\x22' :: behind)
  | unexpected
      {character : Char}
      {behind : List Char}
      (visible : Text.isBlank character = false)
      (notQuote : character ≠ '\x22')
      (noLexeme :
        ∀ spelling kind text,
          Lexical spelling kind text → ¬spelling <+: character :: behind) :
      Stuck (.unexpectedCharacter character) (character :: behind)

theorem Stuck.ne_nil {cause : TokenCause} {text : List Char} (stuck : Stuck cause text) :
    text ≠ [] := by
  cases stuck <;> exact List.cons_ne_nil _ _

/-- A word character is no operator. -/
theorem no_operator_of_isWord
    {character : Char}
    (word : Text.isWord character = true)
    (rest : List Char) :
    doubleOperator? character rest = none ∧ singleOperator? character = none := by
  constructor
  · unfold doubleOperator?
    split
    all_goals first | rfl | exact absurd word (by decide)
  · unfold singleOperator?
    split
    all_goals first | rfl | exact absurd word (by decide)

theorem ne_quote_of_isWord
    {character : Char}
    (word : Text.isWord character = true) :
    character ≠ '\x22' := by
  rintro rfl
  cases word

/-- Where a digit stands, a number is taken. -/
theorem lexeme_of_isDigit
    {first : Char}
    (digit : first.isDigit = true)
    (rest : List Char) :
    lexeme first rest =
      .ok ⟨.number, first :: numberRest rest, (numberRest rest).length⟩ := by
  have isWord := Text.isWord_of_isDigit digit
  obtain ⟨noDouble, noSingle⟩ := no_operator_of_isWord isWord rest
  rw [lexeme, if_neg (ne_quote_of_isWord isWord), noDouble, noSingle]
  simp [digit]

/-- Where a word may begin, the whole word is taken. -/
theorem lexeme_of_isNameStart
    {first : Char}
    (begins : Text.isNameStart first = true)
    (rest : List Char) :
    lexeme first rest =
      .ok
        ⟨.ofWord (String.ofList (first :: rest.takeWhile Text.isWord)),
          first :: rest.takeWhile Text.isWord, (rest.takeWhile Text.isWord).length⟩ := by
  have isWord := Text.isWord_of_isNameStart first begins
  obtain ⟨noDouble, noSingle⟩ := no_operator_of_isWord isWord rest
  rw [lexeme, if_neg (ne_quote_of_isWord isWord), noDouble, noSingle]
  simp [Text.not_isDigit_of_isNameStart begins, begins]

/-- The digits at the front of a text belong to the number. -/
theorem takeWhile_prefix_numberRest (rest : List Char) :
    rest.takeWhile Char.isDigit <+: numberRest rest := by
  unfold numberRest
  split
  · dsimp only
    split
    · exact List.prefix_append _ _
    · exact List.prefix_rfl
  · exact List.prefix_rfl

/-- Decimals at the front of a text belong to the number too. -/
theorem numberRest_decimals
    {others : List Char}
    {next : Char}
    (digits : ∀ character ∈ others, character.isDigit = true)
    (decimal : next.isDigit = true)
    (further : List Char) :
    numberRest (others ++ '.' :: next :: further) =
      others ++ '.' :: next :: further.takeWhile Char.isDigit := by
  have point : ∀ character ∈ ('.' :: next :: further).head?, character.isDigit = false := by
    rintro _ ⟨⟩
    rfl
  obtain ⟨front, behind⟩ := Text.takeWhile_append_of_head digits point
  unfold numberRest
  simp only [front, behind, decimal, if_true]

/-- What is taken of a number is at the front of the text: digits, or digits with
decimals. -/
theorem numberRest_spec (rest : List Char) :
    ∃ behind,
      rest = numberRest rest ++ behind ∧
        ((∀ character ∈ numberRest rest, character.isDigit = true) ∨
          ∃ others next further,
            numberRest rest = others ++ '.' :: next :: further ∧
              (∀ character ∈ others, character.isDigit = true) ∧
                ∀ character ∈ next :: further, character.isDigit = true) := by
  have whole := @List.takeWhile_append_dropWhile _ Char.isDigit rest
  have digits (text : List Char) :
      ∀ character ∈ text.takeWhile Char.isDigit, character.isDigit = true :=
    fun character => List.mem_takeWhile_imp
  unfold numberRest
  split
  · next next further behind =>
      dsimp only
      split
      · next decimal =>
          refine ⟨further.dropWhile Char.isDigit, ?_, .inr ⟨_, _, _, rfl, digits rest,
            List.forall_mem_cons.2 ⟨decimal, digits further⟩⟩⟩
          rw [List.append_assoc, List.cons_append, List.cons_append,
            List.takeWhile_append_dropWhile, ← behind, whole]
      · exact ⟨_, whole.symm, .inl (digits rest)⟩
  · exact ⟨_, whole.symm, .inl (digits rest)⟩

/-- The rest of a string, read by the scanner, is closed by its last quote. -/
theorem closesString_of_stringBody?
    {text meaning : List Char}
    {size : Nat}
    (read : stringBody? text = some (meaning, size)) :
    ∃ inside behind,
      text = inside ++ behind ∧ inside.length = size ∧ ClosesString inside meaning := by
  fun_induction stringBody? text generalizing meaning size with
  | case1 => cases read
  | case2 behind =>
      cases read
      exact ⟨['\x22'], behind, rfl, rfl, .closing⟩
  | case3 character rest inductionHypothesis =>
      obtain ⟨⟨others, size⟩, readOthers, pair⟩ := Option.map_eq_some_iff.1 read
      cases pair
      obtain ⟨inside, behind, rfl, rfl, closes⟩ := inductionHypothesis readOthers
      exact ⟨_, behind, rfl, rfl, .escaped character closes⟩
  | case4 character rest notQuote unescaped inductionHypothesis =>
      obtain ⟨⟨others, size⟩, readOthers, pair⟩ := Option.map_eq_some_iff.1 read
      cases pair
      obtain ⟨inside, behind, rfl, rfl, closes⟩ := inductionHypothesis readOthers
      refine ⟨_, behind, rfl, rfl, .plain notQuote ?_ closes⟩
      rintro rfl
      -- A backslash that escapes nothing would be the last character of the text.
      obtain ⟨next, others, begins⟩ := closes.exists_append_eq_cons behind
      exact unescaped next others rfl begins

theorem lexical_of_double
    {first : Char}
    {rest : List Char}
    {kind : TokenKind}
    (isDouble : doubleOperator? first rest = some kind) :
    Lexical [first, '='] kind [first, '='] ∧ ∃ behind, rest = '=' :: behind := by
  unfold doubleOperator? at isDouble
  split at isDouble
  · cases isDouble
    exact ⟨@Lexical.operator "==" _ (by decide), _, rfl⟩
  · cases isDouble
    exact ⟨@Lexical.operator "!=" _ (by decide), _, rfl⟩
  · cases isDouble
    exact ⟨@Lexical.operator ">=" _ (by decide), _, rfl⟩
  · cases isDouble
    exact ⟨@Lexical.operator "<=" _ (by decide), _, rfl⟩
  · cases isDouble

theorem lexical_of_single
    {first : Char}
    {kind : TokenKind}
    (isSingle : singleOperator? first = some kind) :
    Lexical [first] kind [first] := by
  unfold singleOperator? at isSingle
  split at isSingle
  · cases isSingle
    exact @Lexical.operator ">" _ (by decide)
  · cases isSingle
    exact @Lexical.operator "<" _ (by decide)
  · cases isSingle
    exact @Lexical.operator "(" _ (by decide)
  · cases isSingle
    exact @Lexical.operator ")" _ (by decide)
  · cases isSingle
    exact @Lexical.operator "," _ (by decide)
  · cases isSingle
    exact @Lexical.operator "." _ (by decide)
  · cases isSingle

theorem lexical_of_isDigit
    {first : Char}
    (digit : first.isDigit = true)
    (rest : List Char) :
    ∃ behind,
      rest = numberRest rest ++ behind ∧
        Lexical (first :: numberRest rest) .number (first :: numberRest rest) := by
  obtain ⟨behind, whole, digits | ⟨others, next, further, isNumber, digits, decimals⟩⟩ :=
    numberRest_spec rest
  · exact ⟨behind, whole, .whole (List.forall_mem_cons.2 ⟨digit, digits⟩)⟩
  · refine ⟨behind, whole, ?_⟩
    rw [isNumber]
    exact .decimal (List.forall_mem_cons.2 ⟨digit, digits⟩) decimals

theorem lexical_of_word
    {first : Char}
    {others : List Char}
    (begins : Text.isNameStart first = true)
    (goesOn : ∀ character ∈ others, Text.isWord character = true) :
    Lexical (first :: others) (.ofWord (String.ofList (first :: others)))
      (first :: others) := by
  rcases TokenKind.ofWord_cases (String.ofList (first :: others)) with
    keyword | ⟨noKeyword, isName⟩
  · have lexical := Lexical.keyword keyword
    rwa [String.toList_ofList] at lexical
  · rw [isName]
    exact .name begins goesOn noKeyword

/-- What the scanner takes is a lexeme at the front of the text. -/
theorem lexical_of_lexeme
    {first : Char}
    {rest : List Char}
    {found : Lexeme}
    (read : lexeme first rest = .ok found) :
    ∃ more behind,
      rest = more ++ behind ∧ found.more = more.length ∧
        Lexical (first :: more) found.kind found.text := by
  unfold lexeme at read
  split at read
  · next isQuote =>
      split at read
      · next meaning size readString =>
          cases read
          obtain ⟨inside, behind, rfl, rfl, closes⟩ :=
            closesString_of_stringBody? readString
          exact ⟨inside, behind, rfl, rfl, isQuote ▸ .string closes⟩
      · cases read
  · split at read
    · next kind isDouble =>
        cases read
        obtain ⟨lexical, behind, rfl⟩ := lexical_of_double isDouble
        exact ⟨['='], behind, rfl, rfl, lexical⟩
    · split at read
      · next kind isSingle =>
          cases read
          exact ⟨[], rest, rfl, rfl, lexical_of_single isSingle⟩
      · split at read
        · next digit =>
            cases read
            obtain ⟨behind, whole, lexical⟩ := lexical_of_isDigit digit rest
            exact ⟨_, behind, whole, rfl, lexical⟩
        · split at read
          · next begins =>
              cases read
              exact ⟨_, _, List.takeWhile_append_dropWhile.symm, rfl,
                lexical_of_word begins fun character => List.mem_takeWhile_imp⟩
          · cases read

/-- The scanner takes a lexeme at the front of a text, or a longer one. -/
def Reaches (spelling : List Char) (kind : TokenKind) (text rest : List Char) : Prop :=
  ∃ first more found,
    spelling = first :: more ∧ lexeme first (more ++ rest) = .ok found ∧
      more.length ≤ found.more ∧
        (found.more = more.length → found = ⟨kind, text, more.length⟩)

theorem reaches_operator
    {sign : String}
    {kind : TokenKind}
    (isOperator : (sign, kind) ∈ operators)
    (rest : List Char) :
    Reaches sign.toList kind sign.toList rest := by
  have double {first : Char} {kind : TokenKind}
      (notQuote : first ≠ '\x22')
      (isDouble : doubleOperator? first ('=' :: rest) = some kind) :
      Reaches [first, '='] kind [first, '='] rest := by
    refine ⟨first, ['='], ⟨kind, [first, '='], 1⟩, rfl, ?_, Nat.le_refl _, fun _ => rfl⟩
    rw [lexeme, if_neg notQuote, List.singleton_append, isDouble]
  have single {first : Char} {kind : TokenKind}
      (notQuote : first ≠ '\x22')
      (isSingle : singleOperator? first = some kind) :
      Reaches [first] kind [first] rest := by
    cases isDouble : doubleOperator? first rest with
    | none =>
        refine ⟨first, [], ⟨kind, [first], 0⟩, rfl, ?_, Nat.le_refl _, fun _ => rfl⟩
        rw [lexeme, if_neg notQuote, List.nil_append, isDouble, isSingle]
    | some other =>
        refine ⟨first, [], ⟨other, [first, '='], 1⟩, rfl, ?_, Nat.zero_le _, nofun⟩
        rw [lexeme, if_neg notQuote, List.nil_append, isDouble]
  simp only [operators, List.mem_cons, Prod.mk.injEq, List.not_mem_nil, or_false]
    at isOperator
  rcases isOperator with ⟨rfl, rfl⟩ | ⟨rfl, rfl⟩ | ⟨rfl, rfl⟩ | ⟨rfl, rfl⟩ | ⟨rfl, rfl⟩ |
    ⟨rfl, rfl⟩ | ⟨rfl, rfl⟩ | ⟨rfl, rfl⟩ | ⟨rfl, rfl⟩ | ⟨rfl, rfl⟩
  all_goals first
    | exact double (by decide) rfl
    | exact single (by decide) rfl

/-- A number at the front of a text is taken with all digits that follow. -/
theorem reaches_number
    {first : Char}
    {more rest : List Char}
    (digit : first.isDigit = true)
    (front : more <+: numberRest (more ++ rest)) :
    Reaches (first :: more) .number (first :: more) rest := by
  refine ⟨first, more, _, rfl, lexeme_of_isDigit digit _, front.length_le, fun size => ?_⟩
  rw [← front.eq_of_length size.symm]

theorem reaches_word
    {first : Char}
    {others : List Char}
    (begins : Text.isNameStart first = true)
    (goesOn : ∀ character ∈ others, Text.isWord character = true)
    (rest : List Char) :
    Reaches (first :: others) (.ofWord (String.ofList (first :: others)))
      (first :: others) rest := by
  have front : others <+: (others ++ rest).takeWhile Text.isWord := by
    rw [List.takeWhile_append_of_pos goesOn]
    exact List.prefix_append _ _
  refine ⟨first, others, _, rfl, lexeme_of_isNameStart begins _, front.length_le,
    fun size => ?_⟩
  rw [← front.eq_of_length size.symm]

theorem Lexical.reaches
    {spelling text : List Char}
    {kind : TokenKind}
    (lexical : Lexical spelling kind text)
    (rest : List Char) :
    Reaches spelling kind text rest := by
  cases lexical with
  | @string inside _ closes =>
      refine ⟨'\x22', inside, ⟨.string, text, inside.length⟩, rfl, ?_, Nat.le_refl _,
        fun _ => rfl⟩
      rw [lexeme, if_pos rfl, closes.stringBody?_append]
  | operator isOperator => exact reaches_operator isOperator rest
  | whole digits =>
      obtain ⟨digit, digits⟩ := List.forall_mem_cons.1 digits
      refine reaches_number digit (List.IsPrefix.trans ?_ (takeWhile_prefix_numberRest _))
      rw [List.takeWhile_append_of_pos digits]
      exact List.prefix_append _ _
  | decimal digits decimals =>
      obtain ⟨digit, digits⟩ := List.forall_mem_cons.1 digits
      obtain ⟨decimal, decimals⟩ := List.forall_mem_cons.1 decimals
      refine reaches_number digit ?_
      rw [List.append_assoc, List.cons_append, List.cons_append,
        numberRest_decimals digits decimal, List.takeWhile_append_of_pos decimals]
      simp
  | keyword isKeyword =>
      obtain ⟨first, others, spelled, begins, goesOn, isKind⟩ :=
        TokenKind.keyword_spelled isKeyword
      have reaches := reaches_word begins goesOn rest
      rwa [← spelled, String.ofList_toList, isKind] at reaches
  | name begins goesOn noKeyword =>
      have reaches := reaches_word begins goesOn rest
      rwa [TokenKind.ofWord_eq_name noKeyword] at reaches

/-- The scanner takes the longest lexeme at the front of a text. -/
theorem lexeme_eq_ok_iff {first : Char} {rest : List Char} {found : Lexeme} :
    lexeme first rest = .ok found ↔
      ∃ more behind,
        rest = more ++ behind ∧ found.more = more.length ∧
          Lexical (first :: more) found.kind found.text ∧
            Longest (first :: more) (first :: rest) := by
  constructor
  · intro read
    obtain ⟨more, behind, whole, size, lexical⟩ := lexical_of_lexeme read
    refine ⟨more, behind, whole, size, lexical, ?_⟩
    intro other kind meaning otherLexical front
    obtain ⟨last, isText⟩ := front
    obtain ⟨_, others, otherFound, rfl, otherRead, reaches, -⟩ := otherLexical.reaches last
    obtain ⟨rfl, rfl⟩ := List.cons.inj isText
    cases otherRead.symm.trans read
    rw [size] at reaches
    exact Nat.succ_le_succ reaches
  · rintro ⟨more, behind, rfl, size, lexical, longest⟩
    obtain ⟨_, _, taken, same, read, reaches, unique⟩ := lexical.reaches behind
    obtain ⟨rfl, rfl⟩ := List.cons.inj same
    -- What is taken is a lexeme as well, so it is not longer.
    obtain ⟨others, last, whole, takenSize, takenLexical⟩ := lexical_of_lexeme read
    have front : first :: others <+: first :: (more ++ behind) := ⟨last, by rw [whole]; rfl⟩
    have atMost := Nat.le_of_succ_le_succ (longest _ _ _ takenLexical front)
    rw [read, unique (Nat.le_antisymm (takenSize ▸ atMost) reaches), ← size]

/-- Only a string can be left open. -/
theorem lexeme_error
    {first : Char}
    {rest : List Char}
    {cause : TokenCause}
    (notQuote : first ≠ '\x22')
    (failed : lexeme first rest = .error cause) :
    cause = .unexpectedCharacter first := by
  rw [lexeme, if_neg notQuote] at failed
  repeat' split at failed
  all_goals cases failed
  rfl

/-- The scanner fails where no token can be read. -/
theorem lexeme_eq_error_iff
    {first : Char}
    {rest : List Char}
    {cause : TokenCause}
    (visible : Text.isBlank first = false) :
    lexeme first rest = .error cause ↔ Stuck cause (first :: rest) := by
  constructor
  · intro failed
    by_cases isQuote : first = '\x22'
    · subst isQuote
      have unclosed : stringBody? rest = none := by
        cases read : stringBody? rest with
        | none => rfl
        | some found =>
            rw [lexeme, if_pos rfl, read] at failed
            cases failed
      rw [lexeme, if_pos rfl, unclosed] at failed
      cases failed
      refine .unterminated fun inside meaning closes ⟨behind, whole⟩ => ?_
      have read := closes.stringBody?_append behind
      rw [whole, unclosed] at read
      cases read
    · obtain rfl := lexeme_error isQuote failed
      refine .unexpected visible isQuote ?_
      rintro spelling kind text lexical ⟨behind, whole⟩
      obtain ⟨_, more, found, rfl, read, -⟩ := lexical.reaches behind
      obtain ⟨rfl, rfl⟩ := List.cons.inj whole
      cases read.symm.trans failed
  · intro stuck
    cases stuck with
    | unterminated unclosed =>
        cases read : stringBody? rest with
        | none => rw [lexeme, if_pos rfl, read]
        | some found =>
            obtain ⟨inside, behind, rfl, -, closes⟩ := closesString_of_stringBody? read
            exact absurd (List.prefix_append _ _) (unclosed inside _ closes)
    | unexpected _ notQuote noLexeme =>
        cases read : lexeme first rest with
        | error other => rw [lexeme_error notQuote read]
        | ok found =>
            obtain ⟨more, behind, rfl, -, lexical⟩ := lexical_of_lexeme read
            exact absurd (List.prefix_append (first :: more) behind)
              (noLexeme _ _ _ lexical)

end Token
end Templating
