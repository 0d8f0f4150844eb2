import Templating.Proofs.Token.Lexemes

/-!
# The strings among the tokens

In a text whose strings are all closed, the scanner for tokens reads these strings and
no others: a lexeme that is no string has no quote, so the scanner stands at a quote
only where a string begins. It may stop early, at a character that begins no lexeme,
and for no other reason.
-/

namespace Templating
namespace Token

open Text (Stretch Strings)

/-- What a token of a text is written as. -/
def written (source : List Char) (token : Token) : List Char :=
  match source.drop token.position with
  | [] => []
  | first :: rest =>
    match lexeme first rest with
    | .error _ => []
    | .ok found => first :: rest.take found.more

/-- The strings among the tokens of a text that begins at an offset. -/
def strings (offset : Nat) (source : List Char) (tokens : List Token) : List Stretch :=
  (tokens.filter (·.kind = .string)).map fun token =>
    ⟨offset + token.position, token.written source⟩

/-- A lexeme that does not begin with a quote is no string and has no quote. -/
theorem Lexical.plain
    {spelling text : List Char}
    {kind : TokenKind}
    (lexical : Lexical spelling kind text)
    (noString : spelling.head? ≠ some '\x22') :
    kind ≠ .string ∧ '\x22' ∉ spelling := by
  cases lexical with
  | string closes => exact absurd rfl noString
  | operator isOperator =>
      simp only [operators, List.mem_cons, Prod.mk.injEq, List.not_mem_nil, or_false]
        at isOperator
      rcases isOperator with ⟨rfl, rfl⟩ | ⟨rfl, rfl⟩ | ⟨rfl, rfl⟩ | ⟨rfl, rfl⟩ | ⟨rfl, rfl⟩ |
        ⟨rfl, rfl⟩ | ⟨rfl, rfl⟩ | ⟨rfl, rfl⟩ | ⟨rfl, rfl⟩ | ⟨rfl, rfl⟩ <;> decide
  | whole digits => exact ⟨by simp, Text.no_quote_of_class (by decide) digits⟩
  | decimal digits decimals =>
      have front := Text.no_quote_of_class (by decide) digits
      have behind := Text.no_quote_of_class (by decide) decimals
      refine ⟨by simp, ?_⟩
      rw [← List.cons_append]
      exact List.not_mem_append front
        (List.not_mem_cons_of_ne_of_not_mem (by decide) behind)
  | keyword isKeyword =>
      simp only [TokenKind.keywords, List.mem_cons, Prod.mk.injEq, List.not_mem_nil,
        or_false] at isKeyword
      rcases isKeyword with ⟨rfl, rfl⟩ | ⟨rfl, rfl⟩ | ⟨rfl, rfl⟩ | ⟨rfl, rfl⟩ | ⟨rfl, rfl⟩ |
        ⟨rfl, rfl⟩ <;> decide
  | name begins goesOn noKeyword =>
      have isWord := Text.isWord_of_isNameStart _ begins
      exact ⟨by simp, Text.no_quote_of_class (by decide)
        (List.forall_mem_cons.2 ⟨isWord, goesOn⟩)⟩

theorem lexeme_of_ne_quote
    {first : Char}
    {rest : List Char}
    {found : Lexeme}
    (notQuote : first ≠ '\x22')
    (read : lexeme first rest = .ok found) :
    found.kind ≠ .string ∧
      ∃ more behind,
        rest = more ++ behind ∧ more.length = found.more ∧ '\x22' ∉ first :: more := by
  obtain ⟨more, behind, whole, size, lexical⟩ := lexical_of_lexeme read
  obtain ⟨noString, noQuote⟩ :=
    lexical.plain fun isQuote => notQuote (Option.some.inj isQuote)
  exact ⟨noString, more, behind, whole, size.symm, noQuote⟩

/-- From an offset on, the scanner finds these strings, or it stops at a character that
begins no lexeme. The text it scans begins at an offset of its own. -/
def FindsStrings
    (source : String)
    (offset position : Nat)
    (text : List Char)
    (stretches : List Stretch) :
    Prop :=
  (∃ tokens,
    scanFrom source position text = .ok tokens ∧
      strings offset source.toList tokens = stretches) ∨
    ∃ character place,
      scanFrom source position text =
        .error
          { cause := .token (.unexpectedCharacter character)
            position := some place
            source := some source }

/-- A lexeme is read in front of what is found behind it. -/
theorem FindsStrings.lexeme
    {source : String}
    {offset position : Nat}
    {first : Char}
    {more behind : List Char}
    {found : Lexeme}
    {stretches : List Stretch}
    (place : source.toList.drop position = first :: (more ++ behind))
    (visible : ¬Text.isBlank first = true)
    (read : Token.lexeme first (more ++ behind) = .ok found)
    (size : more.length = found.more)
    (others : FindsStrings source offset (position + 1 + found.more) behind stretches) :
    FindsStrings source offset position (first :: (more ++ behind))
      (if found.kind = .string then ⟨offset + position, first :: more⟩ :: stretches
      else stretches) := by
  have remaining : (more ++ behind).drop found.more = behind := by
    rw [← size, List.drop_left]
  unfold FindsStrings
  rw [scanFrom, if_neg visible, read]
  dsimp only
  rw [remaining]
  rcases others with ⟨tokens, scanned, rfl⟩ | ⟨character, stop, failed⟩
  · rw [scanned]
    refine .inl ⟨_, rfl, ?_⟩
    have spelled :
        written source.toList
            { kind := found.kind, text := String.ofList found.text, position } =
          first :: more := by
      simp only [written, place, read]
      rw [← size, List.take_left]
    by_cases isString : found.kind = .string
    · rw [strings, List.filter_cons_of_pos (by simpa using isString), List.map_cons,
        spelled, if_pos isString]
      rfl
    · rw [strings, List.filter_cons_of_neg (by simpa using isString), if_neg isString]
      rfl
  · rw [failed]
    exact .inr ⟨character, stop, rfl⟩

/-- When all strings of a text are closed, the scanner for tokens finds them. -/
theorem findsStrings_of_strings
    {source : String}
    {offset position : Nat}
    {text : List Char}
    {stretches : List Stretch}
    (place : source.toList.drop position = text)
    (closed : Strings (offset + position) text stretches) :
    FindsStrings source offset position text stretches := by
  fun_induction scanFrom source position text generalizing stretches with
  | case1 =>
      cases closed
      exact .inl ⟨[], by rw [scanFrom], rfl⟩
  | case2 position first rest blank inductionHypothesis =>
      have notQuote : '\x22' ∉ [first] := by
        rw [List.mem_singleton]
        rintro rfl
        cases blank
      have others := Strings.cut_front [first] closed notQuote
      have found := inductionHypothesis
        (by rw [← List.drop_drop, place, List.drop_one, List.tail_cons]) others
      unfold FindsStrings
      rwa [scanFrom, if_pos blank]
  | case3 position first rest visible cause failed =>
      by_cases isQuote : first = '\x22'
      · subst isQuote
        cases closed with
        | plain notQuote others => exact absurd rfl notQuote
        | string closes others =>
            rw [lexeme, if_pos rfl, closes.stringBody?_append] at failed
            cases failed
      · refine .inr ⟨first, position, ?_⟩
        rw [scanFrom, if_neg visible, failed, lexeme_error isQuote failed]
  | case4 position first rest visible found read inductionHypothesis =>
      have behind :
          source.toList.drop (position + 1 + found.more) = rest.drop found.more := by
        rw [← List.drop_drop, ← List.drop_drop, place, List.drop_one, List.tail_cons]
      by_cases isQuote : first = '\x22'
      · subst isQuote
        cases closed with
        | plain notQuote others => exact absurd rfl notQuote
        | @string _ inside meaning rest stretches closes others =>
            have isString :
                lexeme '\x22' (inside ++ rest) =
                  .ok ⟨.string, meaning, inside.length⟩ := by
              rw [lexeme, if_pos rfl, closes.stringBody?_append]
            obtain rfl := Except.ok.inj (read.symm.trans isString)
            dsimp only at behind inductionHypothesis
            rw [List.drop_left] at behind inductionHypothesis
            rw [Nat.add_comm inside.length, ← Nat.add_assoc, Nat.add_assoc offset,
              Nat.add_assoc offset] at others
            exact .lexeme place visible isString rfl (inductionHypothesis behind others)
      · obtain ⟨noString, more, rest, rfl, size, noQuote⟩ :=
          lexeme_of_ne_quote isQuote read
        rw [← size, List.drop_left] at behind inductionHypothesis
        have others := Strings.cut_front (first :: more) closed noQuote
        rw [List.length_cons, Nat.add_comm more.length, ← Nat.add_assoc,
          Nat.add_assoc offset, Nat.add_assoc offset] at others
        have found := FindsStrings.lexeme place visible read size
          (size ▸ inductionHypothesis behind others)
        rwa [if_neg noString] at found

end Token
end Templating
