import Templating.Proofs.Expr.Parsing
import Templating.Proofs.Printing.Tokens

/-!
# The derivations of canonical texts

The canonical text of an expression is read as the tokens of a derivation that means
the expression, up to offsets. The derivation is built along the expression: an
operand in parentheses may stand wherever the grammar wants one.
-/

namespace Templating
namespace Grammar

variable {known : String → Bool} {source : String} {position : Nat}
  {text rest : List Char} {nesting : Nat} {expr : Expr}

/-- In front of a rest, a text is read as the tokens of a derivation that calls known
functions only and has a nesting. -/
structure Derivation.Writes
    (known : String → Bool)
    (source : String)
    (position : Nat)
    (text rest : List Char)
    (nesting : Nat)
    {symbol : Symbol}
    (derivation : Derivation symbol) :
    Prop where
  written : Token.Writes source position text derivation.tokens rest
  calls : ∀ name ∈ derivation.calls, known name = true
  nests : derivation.nesting = nesting

/-- A derivation with two parts calls what they call and nests as deep as the deeper
one. -/
theorem Derivation.Writes.ofParts
    {symbol first second : Symbol}
    {derivation : Derivation symbol}
    {left : Derivation first}
    {right : Derivation second}
    {leftPosition rightPosition leftNesting rightNesting : Nat}
    {leftText leftRest rightText rightRest : List Char}
    (leftWrites :
      left.Writes known source leftPosition leftText leftRest leftNesting)
    (rightWrites :
      right.Writes known source rightPosition rightText rightRest rightNesting)
    (written : Token.Writes source position text derivation.tokens rest)
    (calls : derivation.calls = left.calls ++ right.calls)
    (nesting : derivation.nesting = max left.nesting right.nesting) :
    derivation.Writes known source position text rest
      (max leftNesting rightNesting) where
  written := written
  calls := by
    rw [calls]
    exact List.forall_mem_append.2 ⟨leftWrites.calls, rightWrites.calls⟩
  nests := by rw [nesting, leftWrites.nests, rightWrites.nests]

/-- In front of its closing parenthesis, a text writes an argument list, up to
offsets. -/
def WritesArguments
    (known : String → Bool)
    (source : String)
    (position : Nat)
    (text rest : List Char)
    (nesting : Nat)
    (exprs : List Expr) :
    Prop :=
  ∃ derivation : Derivation .arguments,
    derivation.Writes known source position text (')' :: rest) nesting ∧
      Expr.unplacedAll derivation.meaning = Expr.unplacedAll exprs

/-- In front of the closing parenthesis, a text writes the arguments after the first
one, up to offsets. -/
def WritesFurther
    (known : String → Bool)
    (source : String)
    (position : Nat)
    (text rest : List Char)
    (nesting : Nat)
    (exprs : List Expr) :
    Prop :=
  ∃ derivation : Derivation .furtherArguments,
    derivation.Writes known source position text (')' :: rest) nesting ∧
      Expr.unplacedAll derivation.meaning = Expr.unplacedAll exprs

/-- In front of a rest, a text writes an expression of a rank, up to offsets. -/
def Rank.Writes
    (rank : Rank)
    (known : String → Bool)
    (source : String)
    (position : Nat)
    (text rest : List Char)
    (nesting : Nat)
    (expr : Expr) :
    Prop :=
  ∃ derivation : Derivation (.expression rank),
    derivation.Writes known source position text rest nesting ∧
      derivation.meaning.unplaced = expr.unplaced

namespace Rank.Writes

/-- An operand alone is a comparison. -/
theorem comparison
    (writes : Rank.operand.Writes known source position text rest nesting expr) :
    Rank.comparison.Writes known source position text rest nesting expr := by
  obtain ⟨derivation, ⟨written, calls, nests⟩, meant⟩ := writes
  exact ⟨.single derivation, ⟨written, calls, nests⟩, meant⟩

/-- What a connective stands between is a chain without links. -/
theorem alone
    {connective : Connective}
    (writes :
      connective.operand.Writes known source position text rest nesting expr) :
    (Rank.chain connective).Writes known source position text rest nesting expr := by
  obtain ⟨derivation, ⟨written, calls, nests⟩, meant⟩ := writes
  refine ⟨.chain derivation .noLink, ⟨?_, ?_, ?_⟩, meant⟩
  · simpa using written
  · simpa using calls
  · simpa using nests

theorem whole
    (writes : Rank.operand.Writes known source position text rest nesting expr) :
    (Rank.chain .disjunction).Writes known source position text rest nesting expr :=
  @alone _ _ _ _ _ _ _ .disjunction (@alone _ _ _ _ _ _ _ .conjunction writes.comparison)

theorem operand
    (writes : Rank.primary.Writes known source position text rest nesting expr) :
    Rank.operand.Writes known source position text rest nesting expr := by
  obtain ⟨derivation, ⟨written, calls, nests⟩, meant⟩ := writes
  exact ⟨.primary derivation, ⟨written, calls, nests⟩, meant⟩

theorem parenthesized
    (writes :
      (Rank.chain .disjunction).Writes known source (position + 1) text (')' :: rest)
        nesting expr) :
    Rank.operand.Writes known source position (Text.parenthesized text) rest
      (nesting + 1) expr := by
  obtain ⟨derivation, ⟨written, calls, nests⟩, meant⟩ := writes
  refine operand
    ⟨.parenthesized ⟨String.ofList ['('], position⟩ derivation
        ⟨String.ofList [')'], position + 1 + text.length⟩,
      ⟨?_, ?_, ?_⟩, ?_⟩
  · simpa [Leaf.token] using written.parenthesized
  · simpa using calls
  · simpa using nests
  · simpa [Derivation.meaning] using meant

theorem literal
    (constant : Literal)
    {word : String}
    (written : Token.Writes source position text [⟨constant.kind, word, position⟩] rest)
    (meant : (constant.expr ⟨word, position⟩).unplaced = expr.unplaced) :
    Rank.operand.Writes known source position text rest 0 expr :=
  operand ⟨.literal constant ⟨word, position⟩, ⟨written, by simp, by simp⟩, meant⟩

theorem reference
    {name : String}
    (isName : isFunctionName name = true)
    (ends : Token.Ends rest)
    (offset : Int) :
    Rank.operand.Writes known source position name.toList rest 0
      (.reference offset name) :=
  operand
    ⟨.reference ⟨name, position⟩, ⟨.name isName ends.isWord, by simp, by simp⟩, rfl⟩

theorem negation
    (writes :
      Rank.operand.Writes known source (position + 4) text rest nesting expr)
    (offset : Int) :
    Rank.operand.Writes known source position ("not".toList ++ ' ' :: text) rest
      (nesting + 1) (.unary offset .negation expr) := by
  obtain ⟨derivation, ⟨written, calls, nests⟩, meant⟩ := writes
  have sign :
      Token.Writes source position "not".toList [⟨.negation, "not", position⟩]
        (' ' :: text ++ rest) :=
    .keyword (by decide) (by rintro _ ⟨⟩; decide)
  refine ⟨.negation ⟨"not", position⟩ derivation, ⟨?_, ?_, ?_⟩, ?_⟩
  · exact sign.append (Token.Writes.blank.append written)
  · simpa using calls
  · simpa using nests
  · simp [Derivation.meaning, Expr.unplaced, meant]

/-- A connective between two of its operands. -/
theorem linked
    {connective : Connective}
    {others : List Char}
    {inner : Nat}
    {left right : Expr}
    (leftWrites :
      connective.operand.Writes known source position text
        (' ' :: (connective.operator.symbol.toList ++ ' ' :: others) ++ rest) nesting
        left)
    (rightWrites :
      connective.operand.Writes known source
        (position + text.length + 1 + connective.operator.symbol.toList.length + 1)
        others rest inner right)
    (offset : Int) :
    (Rank.chain connective).Writes known source position
      (text ++ ' ' :: (connective.operator.symbol.toList ++ ' ' :: others)) rest
      (max nesting inner) (.binary offset connective.operator left right) := by
  obtain ⟨first, firstWrites, meant⟩ := leftWrites
  obtain ⟨second, secondWrites, otherMeant⟩ := rightWrites
  have sign :
      Token.Writes source (position + text.length + 1) connective.operator.symbol.toList
        [⟨connective.kind, connective.operator.symbol, position + text.length + 1⟩]
        (' ' :: others ++ rest) := by
    refine .keyword ?_ (by rintro _ ⟨⟩; decide)
    cases connective <;> decide
  refine ⟨.chain first (.link
      ⟨connective.operator.symbol, position + text.length + 1⟩ second .noLink),
    firstWrites.ofParts secondWrites ?_ (by simp) (by simp), ?_⟩
  · simpa [Leaf.token] using
      Token.Writes.between firstWrites.written sign secondWrites.written
  · simp [Derivation.meaning, Expr.unplaced, meant, otherMeant]

/-- A relation between two operands. -/
theorem compared
    {relation : Relation}
    {others : List Char}
    {inner : Nat}
    {left right : Expr}
    (leftWrites :
      Rank.operand.Writes known source position text
        (' ' :: (relation.symbol.toList ++ ' ' :: others) ++ rest) nesting left)
    (rightWrites :
      Rank.operand.Writes known source
        (position + text.length + 1 + relation.symbol.toList.length + 1) others rest
        inner right)
    (offset : Int) :
    Rank.comparison.Writes known source position
      (text ++ ' ' :: (relation.symbol.toList ++ ' ' :: others)) rest
      (max nesting inner) (.binary offset (.relation relation) left right) := by
  obtain ⟨first, firstWrites, meant⟩ := leftWrites
  obtain ⟨second, secondWrites, otherMeant⟩ := rightWrites
  refine ⟨.compared first relation ⟨relation.symbol, position + text.length + 1⟩ second,
    firstWrites.ofParts secondWrites ?_ rfl rfl, ?_⟩
  · exact firstWrites.written.between (.relation relation _) secondWrites.written
  · simp [Derivation.meaning, Expr.unplaced, meant, otherMeant]

/-- An operator of the language between two operands. -/
theorem binary
    {operator : BinaryOperator}
    {others : List Char}
    {inner : Nat}
    {left right : Expr}
    (isKnown : ∀ symbol, operator ≠ .other symbol)
    (leftWrites :
      Rank.operand.Writes known source position text
        (' ' :: (operator.symbol.toList ++ ' ' :: others) ++ rest) nesting left)
    (rightWrites :
      Rank.operand.Writes known source
        (position + text.length + 1 + operator.symbol.toList.length + 1) others rest
        inner right)
    (offset : Int) :
    (Rank.chain .disjunction).Writes known source position
      (text ++ ' ' :: (operator.symbol.toList ++ ' ' :: others)) rest
      (max nesting inner) (.binary offset operator left right) := by
  cases operator with
  | conjunction =>
      exact alone (@linked _ _ _ _ _ _ .conjunction _ _ _ _
        leftWrites.comparison rightWrites.comparison offset)
  | disjunction =>
      exact @linked _ _ _ _ _ _ .disjunction _ _ _ _
        (alone leftWrites.comparison) (alone rightWrites.comparison) offset
  | relation relation =>
      exact alone (alone (leftWrites.compared rightWrites offset))
  | other symbol => exact absurd rfl (isKnown symbol)

/-- The name in front of a point, and the one behind it. -/
theorem access
    {object property : String}
    (isObject : isFunctionName object = true)
    (isProperty : isFunctionName property = true)
    (ends : Token.Ends rest)
    (offset : Int) :
    Rank.operand.Writes known source position (object.toList ++ '.' :: property.toList)
      rest 0 (.access offset object property) := by
  have objectWritten :
      Token.Writes source position object.toList [⟨.name, object, position⟩]
        ('.' :: property.toList ++ rest) :=
    .name isObject (by rintro _ ⟨⟩; decide)
  have dotWritten :
      Token.Writes source (position + object.toList.length) ['.'] _
        (property.toList ++ rest) :=
    .single rfl rfl
  have propertyWritten := @Token.Writes.name source
    (position + object.toList.length + 1) rest property isProperty ends.isWord
  refine operand
    ⟨.access ⟨object, position⟩ ⟨String.ofList ['.'], position + object.toList.length⟩
        ⟨property, position + object.toList.length + 1⟩,
      ⟨?_, by simp, by simp⟩, rfl⟩
  exact objectWritten.append (dotWritten.append propertyWritten)

theorem call
    {name : String}
    {exprs : List Expr}
    (isName : isFunctionName name = true)
    (isKnown : known name = true)
    (writes :
      WritesArguments known source (position + name.toList.length + 1) text rest nesting
        exprs)
    (offset : Int) :
    Rank.operand.Writes known source position (name.toList ++ Text.parenthesized text)
      rest (nesting + 1) (.call offset name exprs) := by
  obtain ⟨derivation, ⟨written, calls, nests⟩, meant⟩ := writes
  have nameWritten :
      Token.Writes source position name.toList [⟨.name, name, position⟩]
        (Text.parenthesized text ++ rest) :=
    .name isName (by rintro _ ⟨⟩; decide)
  refine operand
    ⟨.call ⟨name, position⟩ ⟨String.ofList ['('], position + name.toList.length⟩
        derivation
        ⟨String.ofList [')'], position + name.toList.length + 1 + text.length⟩,
      ⟨?_, ?_, ?_⟩, ?_⟩
  · simpa [Leaf.token] using nameWritten.append written.parenthesized
  · simpa using ⟨isKnown, calls⟩
  · simpa using nests
  · simp [Derivation.meaning, Expr.unplaced, meant]

end Rank.Writes

theorem WritesArguments.nil :
    WritesArguments known source position [] rest 0 [] :=
  ⟨.noArgument, ⟨.nil, by simp, by simp⟩, rfl⟩

theorem WritesFurther.nil :
    WritesFurther known source position [] rest 0 [] :=
  ⟨.noFurtherArgument, ⟨.nil, by simp, by simp⟩, rfl⟩

section

variable {others : List Char} {inner : Nat} {exprs : List Expr}

theorem WritesArguments.cons
    (writes :
      (Rank.chain .disjunction).Writes known source position text
        (others ++ ')' :: rest) nesting expr)
    (further :
      WritesFurther known source (position + text.length) others rest inner exprs) :
    WritesArguments known source position (text ++ others) rest (max nesting inner)
      (expr :: exprs) := by
  obtain ⟨derivation, derivationWrites, meant⟩ := writes
  obtain ⟨list, listWrites, listMeant⟩ := further
  refine ⟨.firstArgument derivation list,
    derivationWrites.ofParts listWrites ?_ rfl rfl, ?_⟩
  · exact derivationWrites.written.append listWrites.written
  · simp [Derivation.meaning, Expr.unplacedAll, meant, listMeant]

theorem WritesFurther.cons
    (writes :
      (Rank.chain .disjunction).Writes known source (position + 2) text
        (others ++ ')' :: rest) nesting expr)
    (further :
      WritesFurther known source (position + 2 + text.length) others rest inner exprs) :
    WritesFurther known source position (',' :: ' ' :: (text ++ others)) rest
      (max nesting inner) (expr :: exprs) := by
  obtain ⟨derivation, derivationWrites, meant⟩ := writes
  obtain ⟨list, listWrites, listMeant⟩ := further
  have comma :
      Token.Writes source position [','] _
        (' ' :: (text ++ others) ++ ')' :: rest) :=
    .single rfl rfl
  refine ⟨.furtherArgument ⟨String.ofList [','], position⟩ derivation list,
    derivationWrites.ofParts listWrites ?_ rfl rfl, ?_⟩
  · exact comma.append (Token.Writes.blank.append
      (derivationWrites.written.append listWrites.written))
  · simp [Derivation.meaning, Expr.unplacedAll, meant, listMeant]

end
end Grammar

/-- The decimal digits of a natural number write the double that it is. -/
theorem Token.number_eq
    {token : Token}
    {number : Nat}
    {value : Double}
    (spelled : token.text = String.ofList (Nat.toDigits 10 number))
    (fits : number < 2 ^ 53)
    (whole : value.IsWhole number) :
    token.number = value := by
  have digits : ∀ character ∈ Nat.toDigits 10 number, character.isDigit = true :=
    fun character inside =>
      Nat.isDigit_of_mem_toDigits (by decide) (by decide) inside
  have read := Numeral.ofText?_written Nat.toDigits_ne_nil digits
    (List.forall_mem_nil (fun character => Char.isDigit character = true))
  rw [Numeral.written, if_pos rfl, List.append_nil] at read
  rw [Token.number, spelled, String.toList_ofList, read]
  exact (Numeral.toDouble_toDigits fits).unique whole

namespace Expr

open Grammar

variable {known : String → Bool} {source : String}

theorem ends_closing (rest : List Char) : Token.Ends (')' :: rest) :=
  .cons (by decide) rest

/-- The text behind an argument is its closing parenthesis, or a comma. -/
theorem ends_printedFurther (exprs : List Expr) (rest : List Char) :
    Token.Ends (printedFurther exprs ++ ')' :: rest) := by
  cases exprs with
  | nil => exact ends_closing rest
  | cons expr further => exact .cons (by decide) _

mutual

/-- The canonical text of an expression is read as the expression, up to offsets. -/
theorem Writable.writes
    {expr : Expr}
    (writable : expr.Writable known)
    (position : Nat)
    {rest : List Char}
    (ends : Token.Ends rest) :
    (Rank.chain .disjunction).Writes known source position expr.printed rest
      expr.printedNesting expr := by
  cases expr with
  | string offset text =>
      refine (Rank.Writes.literal .string (.string text.toList) ?_).whole
      rw [String.ofList_toList]
      rfl
  | number offset value =>
      obtain ⟨number, fits, isWhole⟩ := writable
      simp only [printed, isWhole.decimal_eq]
      refine (Rank.Writes.literal .number (.number number ends) ?_).whole
      rw [Literal.expr, Token.number_eq rfl fits isWhole]
      rfl
  | boolean offset value =>
      cases value with
      | true =>
          exact (Rank.Writes.literal (.boolean true)
            (@Token.Writes.keyword _ _ _ "true" _ (by decide) ends.isWord) rfl).whole
      | false =>
          exact (Rank.Writes.literal (.boolean false)
            (@Token.Writes.keyword _ _ _ "false" _ (by decide) ends.isWord) rfl).whole
  | null offset =>
      exact (Rank.Writes.literal .null
        (@Token.Writes.keyword _ _ _ "null" _ (by decide) ends.isWord) rfl).whole
  | reference offset name => exact (Rank.Writes.reference writable ends offset).whole
  | access offset object property =>
      exact (Rank.Writes.access writable.1 writable.2 ends offset).whole
  | call offset function arguments =>
      obtain ⟨isName, isKnown, argumentsWritable⟩ := writable
      exact (Rank.Writes.call isName isKnown
        (argumentsWritable.writesArguments _ rest) offset).whole
  | unary offset operator operand =>
      obtain ⟨rfl, operandWritable⟩ := writable
      have inside := operandWritable.writes (position + 4 + 1) (ends_closing rest)
      exact (inside.parenthesized.negation offset).whole
  | binary offset operator left right =>
      obtain ⟨isKnown, leftWritable, rightWritable⟩ := writable
      have whole := Rank.Writes.binary isKnown
        (leftWritable.writes (position + 1) (ends_closing _)).parenthesized
        (rightWritable.writes _ (ends_closing rest)).parenthesized offset
      rwa [Nat.add_max_add_right] at whole
  | unknown kind => exact writable.elim

/-- The canonical text of an argument list is read as the arguments. -/
theorem WritableAll.writesArguments
    {exprs : List Expr}
    (writable : WritableAll known exprs)
    (position : Nat)
    (rest : List Char) :
    WritesArguments known source position (printedArguments exprs) rest
      (printedNestingAll exprs) exprs := by
  cases exprs with
  | nil => exact .nil
  | cons expr further =>
      exact .cons (writable.1.writes position (ends_printedFurther further rest))
        (writable.2.writesFurther _ rest)

theorem WritableAll.writesFurther
    {exprs : List Expr}
    (writable : WritableAll known exprs)
    (position : Nat)
    (rest : List Char) :
    WritesFurther known source position (printedFurther exprs) rest
      (printedNestingAll exprs) exprs := by
  cases exprs with
  | nil => exact .nil
  | cons expr further =>
      exact .cons (writable.1.writes _ (ends_printedFurther further rest))
        (writable.2.writesFurther _ rest)

end

variable {expr : Expr}

/-- No tag ends in the canonical text of an expression. -/
theorem Writable.passes (writable : expr.Writable known) : Tag.Passes expr.printed := by
  obtain ⟨derivation, ⟨written, -, -⟩, -⟩ := @writes known "" expr writable 0 [] .nil
  exact written.passes

/-- The canonical text of an expression, in parentheses, is parsed as the expression,
up to offsets. -/
theorem Writable.parse_parenthesized
    {limits : Limits}
    (writable : expr.Writable known)
    (short : (Text.parenthesized expr.printed).length ≤ limits.expressionLength)
    (shallow : expr.printedNesting + 1 ≤ limits.expressionDepth) :
    ∃ parsed,
      parse limits known (String.ofList (Text.parenthesized expr.printed)) = .ok parsed ∧
        parsed.unplaced = expr.unplaced := by
  have inside :=
    @writes known (String.ofList (Text.parenthesized expr.printed)) expr writable 1 _
      (ends_closing [])
  obtain ⟨derivation, ⟨written, calls, nests⟩, meant⟩ := inside.parenthesized.whole
  have scanned := written.scans
  rw [List.append_nil, Token.scanFrom] at scanned
  refine ⟨derivation.meaning, (parse_eq_ok ..).2 ⟨?_, derivation.tokens, ?_, ?_⟩, meant⟩
  · rwa [String.toList_ofList]
  · rw [String.toList_ofList, scanned]
    simp [Except.map]
  · exact (parseFrom_eq_ok ..).2
      ⟨derivation, rfl, ⟨calls, nests.trans_le shallow⟩, rfl⟩

end Expr
end Templating
