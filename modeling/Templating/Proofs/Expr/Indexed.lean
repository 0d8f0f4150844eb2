import Templating.Proofs.Expr.Rereading
import Templating.Proofs.Number.Written

/-!
# Parsing by index

A parser can also keep all the entries of a listing and the index of the next one. Such a
parser looks at indices where there may be no entry, and reads numbers from texts that may
write none. It is put together here like the parsers of lists, and it gives what they give:
behind the last token there is the ending, and no parser goes past it.
-/

namespace Templating

/-- Why parsing by index ends without a result. -/
inductive Halt
  | rejected (error : Error)
  /-- There is nothing at an index that was looked at. -/
  | outside (index : Nat)
  /-- A text that was read as a number writes none. -/
  | unreadable (text : String)

/-- What stands at an index of a list, which is then known to be inside of the list. -/
def look {α : Type} (items : List α) (current : Nat) :
    Except Halt { _item : α // current < items.length } :=
  if inside : current < items.length then .ok ⟨items[current], inside⟩
  else .error (.outside current)

/-- What is parsed from an index on, and the index behind it. -/
abbrev IndexedParser (α : Type) :=
  (current : Nat) → Except Halt (α × { later : Nat // current < later })

namespace IndexedParser

variable (context : ParserContext) (entries : List Entry)

/-- Reject an expression at an offset. -/
def reject {α : Type} (cause : ParseCause) (position : Nat) : Except Halt α :=
  .error (.rejected (.parse cause (some position) (some context.source)))

/-- The token at an index, if it is of a given kind. -/
def accept (kind : TokenKind) (current : Nat) :
    Except Halt (Option { _token : Token // current < entries.length }) := do
  match ← look entries current with
  | ⟨.token token, inside⟩ =>
      return if token.kind = kind then some ⟨token, inside⟩ else none
  | ⟨.ending _, _⟩ => return none

/-- Read one token of a given kind; anything else is not what was expected. -/
def expect (kind : TokenKind) (expected : Expected) : IndexedParser Token :=
  fun current => do
    match ← look entries current with
    | ⟨.token token, _⟩ =>
        if token.kind = kind then return (token, ⟨current + 1, Nat.lt_succ_self _⟩)
        else reject context (.missing expected (some token.text)) token.position
    | ⟨.ending position, _⟩ => reject context (.missing expected none) position

/-- Extend an expression by further operands, each behind the operator. -/
def chainFrom
    (kind : TokenKind)
    (operator : BinaryOperator)
    (operand : IndexedParser Expr)
    (left : Expr)
    (current : Nat) :
    Except Halt (Expr × { later : Nat // current ≤ later }) := do
  match ← accept entries kind current with
  | none => return (left, ⟨current, Nat.le_refl _⟩)
  | some ⟨token, inside⟩ =>
    let (right, ⟨later, further⟩) ← operand (current + 1)
    let (result, ⟨last, beyond⟩) ←
      chainFrom kind operator operand (.binary token.position operator left right) later
    return (result, ⟨last, by omega⟩)
termination_by entries.length - current
decreasing_by omega

/-- One operand, or several with the operator between them. -/
def chain
    (kind : TokenKind)
    (operator : BinaryOperator)
    (operand : IndexedParser Expr) :
    IndexedParser Expr :=
  fun current => do
    let (left, ⟨later, further⟩) ← operand current
    let (result, ⟨last, beyond⟩) ← chainFrom entries kind operator operand left later
    return (result, ⟨last, by omega⟩)

/-- One operand, or two with a relation between them. -/
def comparison (operand : IndexedParser Expr) : IndexedParser Expr :=
  fun current => do
    let (left, ⟨later, further⟩) ← operand current
    match ← look entries later with
    | ⟨.ending _, _⟩ => return (left, ⟨later, further⟩)
    | ⟨.token token, _⟩ =>
      match token.kind with
      | .relation kind =>
        let (right, ⟨last, beyond⟩) ← operand (later + 1)
        return (.binary token.position (.relation kind) left right, ⟨last, by omega⟩)
      | _ => return (left, ⟨later, further⟩)

/-- The expressions after the first one of an argument list. -/
def argumentsFrom (expression : IndexedParser Expr) (current : Nat) :
    Except Halt (List Expr × { later : Nat // current ≤ later }) := do
  match ← accept entries .comma current with
  | none => return ([], ⟨current, Nat.le_refl _⟩)
  | some ⟨_, inside⟩ =>
    let (argument, ⟨later, further⟩) ← expression (current + 1)
    let (others, ⟨last, beyond⟩) ← argumentsFrom expression later
    return (argument :: others, ⟨last, by omega⟩)
termination_by entries.length - current
decreasing_by omega

/-- The expressions of an argument list, if it has any. -/
def optionalArguments (expression : IndexedParser Expr) (current : Nat) :
    Except Halt (List Expr × { later : Nat // current ≤ later }) := do
  match ← accept entries .closeParenthesis current with
  | some _ => return ([], ⟨current, Nat.le_refl _⟩)
  | none =>
    let (argument, ⟨later, further⟩) ← expression current
    let (others, ⟨last, beyond⟩) ← argumentsFrom entries expression later
    return (argument :: others, ⟨last, by omega⟩)

/-- The argument list of a call behind its opening parenthesis. -/
def arguments (expression : IndexedParser Expr) : IndexedParser (List Expr) :=
  fun current => do
    let (arguments, ⟨later, further⟩) ← optionalArguments entries expression current
    let (_, ⟨last, beyond⟩) ← expect context entries .closeParenthesis .argumentsEnd later
    return (arguments, ⟨last, by omega⟩)

variable (depth : Nat) (nested : Option (Level → IndexedParser Expr))

/-- Go one deeper, where that is allowed. -/
def deeper (position : Nat) : Except Halt (Level → IndexedParser Expr) :=
  match nested with
  | some inside => .ok inside
  | none =>
      reject context (.expressionTooDeep (depth + 1) context.limits.expressionDepth)
        position

/-- What begins with a name that ends before an index. -/
def named (name : Token) (current : Nat) :
    Except Halt (Expr × { later : Nat // current ≤ later }) := do
  match ← accept entries .openParenthesis current with
  | some _ =>
    if context.known name.text then
      let inside ← deeper context depth nested name.position
      let (arguments, ⟨last, beyond⟩) ←
        arguments context entries (inside .whole) (current + 1)
      return (.call name.position name.text arguments, ⟨last, by omega⟩)
    else reject context (.unknownFunction name.text) name.position
  | none =>
    match ← accept entries .dot current with
    | some _ =>
      let (property, ⟨last, beyond⟩) ←
        expect context entries .name .propertyName (current + 1)
      return (.access name.position name.text property.text, ⟨last, by omega⟩)
    | none => return (.reference name.position name.text, ⟨current, Nat.le_refl _⟩)

/-- An operand that is no negation. -/
def primary : IndexedParser Expr := fun current => do
  match ← look entries current with
  | ⟨.ending position, _⟩ => reject context .unexpectedEnd position
  | ⟨.token token, _⟩ =>
    let behind : { later : Nat // current < later } := ⟨current + 1, Nat.lt_succ_self _⟩
    match token.kind with
    | .openParenthesis =>
      let inside ← deeper context depth nested token.position
      let (expr, ⟨later, further⟩) ← inside .whole (current + 1)
      let (_, ⟨last, beyond⟩) ←
        expect context entries .closeParenthesis .closingParenthesis later
      return (expr, ⟨last, by omega⟩)
    | .string => return (.string token.position token.text, behind)
    | .number =>
      match Double.ofText? token.text.toList with
      | some value => return (.number token.position value, behind)
      | none => .error (.unreadable token.text)
    | .boolean value => return (.boolean token.position value, behind)
    | .null => return (.null token.position, behind)
    | .name =>
      let (expr, ⟨last, beyond⟩) ← named context entries depth nested token (current + 1)
      return (expr, ⟨last, by omega⟩)
    | _ => reject context (.unexpectedToken token.text) token.position

/-- An operand. -/
def unary : IndexedParser Expr := fun current => do
  match ← accept entries .negation current with
  | some ⟨token, _⟩ =>
    let inside ← deeper context depth nested token.position
    let (operand, ⟨last, beyond⟩) ← inside .operand (current + 1)
    return (.unary token.position .negation operand, ⟨last, by omega⟩)
  | none => primary context entries depth nested current

/-- What is parsed at a level, with what is parsed one deeper. -/
def atLevel : Level → IndexedParser Expr
  | .operand => unary context entries depth nested
  | .whole =>
      chain entries .disjunction .disjunction
        (chain entries .conjunction .conjunction
          (comparison entries (unary context entries depth nested)))

/-- What is parsed at a level, where one may go deeper a number of times. -/
def within : (allowance depth : Nat) → Level → IndexedParser Expr
  | 0, depth => atLevel context entries depth none
  | allowance + 1, depth =>
      atLevel context entries depth (some (within allowance (depth + 1)))

/-- The expression that all the entries make up. -/
def whole : Except Halt Expr := do
  match ← look entries 0 with
  | ⟨.ending _, _⟩ => reject context .emptyExpression 0
  | _ =>
    let (expr, ⟨last, _⟩) ← within context entries context.limits.expressionDepth 0 .whole 0
    match ← look entries last with
    | ⟨.ending _, _⟩ => return expr
    | ⟨.token token, _⟩ => reject context (.unexpectedToken token.text) token.position

end IndexedParser

/-- The expression that a text writes, read by index. -/
def Expr.parseByIndex (limits : Limits) (known : String → Bool) (source : String) :
    Except Halt Expr :=
  match Token.scan limits source with
  | .error error => .error (.rejected error)
  | .ok tokens =>
      IndexedParser.whole { source, known, limits } (Token.listing source tokens)

/-! ## Agreement with the parsers of lists -/

namespace Parser

/-- Reading tokens and reading entries by index give the same result, and go on at the same
token or at the ending behind the last one, or they fail with the same error. -/
inductive Agrees (tokens : List Token) {α : Type} {bound : Nat → Prop} :
    Reading α → Except Halt (α × { later : Nat // bound later }) → Prop
  | read
      (result : α)
      (later : { later : Nat // bound later })
      (inside : later.val ≤ tokens.length) :
      Agrees tokens (.ok (result, tokens.drop later.val)) (.ok (result, later))
  | stopped (stop : Stop) : Agrees tokens (.error stop) (.error (.rejected stop.error))

/-- A parser of tokens and a parser by index agree at every token and behind the last
one. -/
abbrev AgreesAll
    {α : Type}
    (tokens : List Token)
    (parser : Parser α)
    (indexed : IndexedParser α) :
    Prop :=
  ∀ current ≤ tokens.length,
    Agrees tokens (parser.run (tokens.drop current)) (indexed current)

/-- Whatever goes on with a reading and a reading by index goes on with the same result at
the same place, or behind the same error. -/
@[elab_as_elim]
theorem Agrees.elim
    {tokens : List Token}
    {α : Type}
    {bound : Nat → Prop}
    {motive : Reading α → Except Halt (α × { later : Nat // bound later }) → Prop}
    {reading : Reading α}
    {indexed : Except Halt (α × { later : Nat // bound later })}
    (agrees : Agrees tokens reading indexed)
    (onRead :
      ∀ result later, later.val ≤ tokens.length →
        motive (.ok (result, tokens.drop later.val)) (.ok (result, later)))
    (onStop : ∀ stop, motive (.error stop) (.error (.rejected stop.error))) :
    motive reading indexed := by
  cases agrees with
  | read result later inside => exact onRead result later inside
  | stopped stop => exact onStop stop

end Parser

namespace IndexedParser

variable (context : ParserContext) {tokens : List Token}

/-- At every index up to the number of tokens there is a token or the ending. -/
theorem look_listing
    (source : String)
    {current : Nat}
    (inside : current ≤ tokens.length) :
    (∃ token ∈ tokens, current + 1 ≤ tokens.length ∧
      tokens.drop current = token :: tokens.drop (current + 1) ∧
      ∃ bounded, look (Token.listing source tokens) current =
        .ok ⟨.token token, bounded⟩) ∨
      tokens.drop current = [] ∧
        ∃ bounded, look (Token.listing source tokens) current =
          .ok ⟨.ending source.length, bounded⟩ := by
  have size : (Token.listing source tokens).length = tokens.length + 1 := by
    simp [Token.listing]
  obtain before | rfl := Nat.lt_or_eq_of_le inside
  · refine .inl ⟨tokens[current], List.getElem_mem before, before,
      List.drop_eq_getElem_cons before, by omega, ?_⟩
    rw [look, dif_pos (by omega)]
    simp [Token.listing, before]
  · refine .inr ⟨List.drop_length, by omega, ?_⟩
    rw [look, dif_pos (by omega)]
    simp [Token.listing]

theorem expect_agrees
    (kind : TokenKind)
    (expected : Expected)
    (depth : Nat)
    {current : Nat}
    (inside : current ≤ tokens.length) :
    Parser.Agrees tokens (context.expect kind expected depth (tokens.drop current))
      (expect context (Token.listing context.source tokens) kind expected current) := by
  obtain ⟨token, -, more, listed, bounded, looked⟩ | ⟨listed, bounded, looked⟩ :=
    look_listing context.source inside
  · rw [listed, ParserContext.expect, expect, looked, ok_bind]
    by_cases isKind : token.kind = kind
    · simp only [if_pos isKind]
      exact .read token ⟨current + 1, Nat.lt_succ_self _⟩ more
    · simp only [if_neg isKind]
      exact .stopped _
  · rw [listed, expect, looked]
    exact .stopped _

theorem chainFrom_agrees
    {kind : TokenKind}
    {operator : BinaryOperator}
    {operand : Parser Expr}
    {indexed : IndexedParser Expr}
    (same : operand.AgreesAll tokens indexed)
    (left : Expr)
    {current : Nat}
    (inside : current ≤ tokens.length) :
    Parser.Agrees tokens
      (Parser.chainFrom kind operator operand left (tokens.drop current))
      (chainFrom (Token.listing context.source tokens) kind operator indexed left
        current) := by
  induction remaining : tokens.length - current using Nat.strong_induction_on
    generalizing left current with
  | h remaining inductionHypothesis =>
      rw [chainFrom, accept]
      obtain ⟨token, -, more, listed, bounded, looked⟩ | ⟨listed, bounded, looked⟩ :=
        look_listing context.source inside
      · rw [listed, Parser.chainFrom_cons, looked]
        simp only [ok_bind]
        by_cases isKind : token.kind = kind
        · simp only [if_pos isKind, pure_bind]
          refine (same _ more).elim (fun right later within => ?_) (fun stop => .stopped stop)
          have further := later.property
          simp only [ok_bind]
          refine (inductionHypothesis (tokens.length - later.val) (by omega) _ within
            rfl).elim (fun result last within => ?_) (fun stop => .stopped stop)
          exact .read result ⟨last.val, _⟩ within
        · simp only [if_neg isKind]
          rw [← listed]
          exact .read left ⟨current, Nat.le_refl _⟩ inside
      · rw [looked]
        have ends : Parser.chainFrom kind operator operand left (tokens.drop current) =
            .ok (left, tokens.drop current) := by
          rw [listed, Parser.chainFrom]
        rw [ends]
        exact .read left ⟨current, Nat.le_refl _⟩ inside

theorem chain_agrees
    {kind : TokenKind}
    {operator : BinaryOperator}
    {operand : Parser Expr}
    {indexed : IndexedParser Expr}
    (same : operand.AgreesAll tokens indexed) :
    (Parser.chain kind operator operand).AgreesAll tokens
      (chain (Token.listing context.source tokens) kind operator indexed) := by
  intro current inside
  simp only [chain, Parser.chain]
  refine (same current inside).elim (fun left later within => ?_) (fun stop => .stopped stop)
  simp only [ok_bind]
  refine (chainFrom_agrees context same left within).elim
    (fun result last within => ?_) (fun stop => .stopped stop)
  exact .read result ⟨last.val, _⟩ within

theorem comparison_agrees
    {operand : Parser Expr}
    {indexed : IndexedParser Expr}
    (same : operand.AgreesAll tokens indexed) :
    (Parser.comparison operand).AgreesAll tokens
      (comparison (Token.listing context.source tokens) indexed) := by
  intro current inside
  simp only [comparison, Parser.comparison]
  refine (same current inside).elim (fun left later within => ?_) (fun stop => .stopped stop)
  simp only [ok_bind]
  obtain ⟨token, -, more, listed, bounded, looked⟩ | ⟨listed, bounded, looked⟩ :=
    look_listing context.source within
  · rw [looked, listed]
    simp only [ok_bind]
    cases isRelation : token.kind with
    | relation kind =>
        dsimp only
        refine (same _ more).elim (fun right last within => ?_) (fun stop => .stopped stop)
        exact .read _ ⟨last.val, _⟩ within
    | _ =>
        dsimp only
        rw [← listed]
        exact .read left later within
  · rw [looked, listed]
    dsimp only
    rw [← listed]
    exact .read left later within

/-- An argument list ends at a token that is no comma. -/
theorem argumentsFrom_of_ne_comma
    {token : Token}
    (other : token.kind ≠ .comma)
    (depth : Nat)
    (expression : Parser Expr)
    (rest : List Token) :
    Parser.argumentsFrom context depth expression (token :: rest) =
      match context.expect .closeParenthesis .argumentsEnd depth (token :: rest) with
      | .error stop => .error stop
      | .ok (_, rest) => .ok ([], rest) := by
  by_cases isClosing : token.kind = .closeParenthesis
  · rw [Parser.argumentsFrom_closing isClosing, ParserContext.expect, if_pos isClosing]
  · rw [Parser.argumentsFrom, ParserContext.expect, if_neg isClosing]
    split
    · next closes => exact absurd closes isClosing
    · next isComma => exact absurd isComma other
    · rfl

/-- A parser of tokens reads the further expressions of an argument list by index, and then
its closing parenthesis. -/
theorem argumentsFrom_agrees
    {expression : Parser Expr}
    {indexed : IndexedParser Expr}
    (same : expression.AgreesAll tokens indexed)
    (depth : Nat)
    {current : Nat}
    (inside : current ≤ tokens.length) :
    (∃ stop,
      Parser.argumentsFrom context depth expression (tokens.drop current) = .error stop ∧
        argumentsFrom (Token.listing context.source tokens) indexed current =
          .error (.rejected stop.error)) ∨
      ∃ others later, later.val ≤ tokens.length ∧
        argumentsFrom (Token.listing context.source tokens) indexed current =
          .ok (others, later) ∧
        Parser.argumentsFrom context depth expression (tokens.drop current) =
          match
            context.expect .closeParenthesis .argumentsEnd depth (tokens.drop later.val)
          with
          | .error stop => .error stop
          | .ok (_, rest) => .ok (others, rest) := by
  induction remaining : tokens.length - current using Nat.strong_induction_on
    generalizing current with
  | h remaining inductionHypothesis =>
      rw [argumentsFrom, accept]
      obtain ⟨token, -, more, listed, bounded, looked⟩ | ⟨listed, bounded, looked⟩ :=
        look_listing context.source inside
      · rw [listed, looked]
        simp only [ok_bind]
        by_cases isComma : token.kind = .comma
        · rw [Parser.argumentsFrom_comma isComma]
          simp only [if_pos isComma, pure_bind]
          refine (same _ more).elim (fun argument later within => ?_)
            (fun stop => .inl ⟨stop, rfl, rfl⟩)
          have further := later.property
          simp only [ok_bind]
          obtain ⟨stop, stops, indexedStops⟩ | ⟨others, last, ends, indexedRead, read⟩ :=
            inductionHypothesis (tokens.length - later.val) (by omega) within rfl
          · rw [stops, indexedStops]
            exact .inl ⟨stop, rfl, rfl⟩
          · rw [read, indexedRead]
            refine .inr ⟨argument :: others, ⟨last.val, _⟩, ends, rfl, ?_⟩
            cases context.expect _ _ depth (tokens.drop last.val) <;> rfl
        · simp only [if_neg isComma, pure_bind]
          refine .inr ⟨[], ⟨current, Nat.le_refl _⟩, inside, rfl, ?_⟩
          rw [listed, argumentsFrom_of_ne_comma context isComma]
      · rw [looked]
        refine .inr ⟨[], ⟨current, Nat.le_refl _⟩, inside, rfl, ?_⟩
        rw [listed, Parser.argumentsFrom]
        rfl

/-- The first expression of an argument list is read where no closing parenthesis is. -/
theorem arguments_of_not_closing
    {rest : List Token}
    (goesOn : ∀ token ∈ rest.head?, token.kind ≠ .closeParenthesis)
    (depth : Nat)
    (expression : Parser Expr) :
    (Parser.arguments context depth expression).run rest =
      match expression.run rest with
      | .error stop => .error stop
      | .ok (argument, after) =>
        match Parser.argumentsFrom context depth expression after with
        | .error stop => .error stop
        | .ok (others, last) => .ok (argument :: others, last) := by
  simp only [Parser.arguments]
  split
  · exact absurd rfl (goesOn _ rfl)
  · rfl

theorem arguments_agrees
    {expression : Parser Expr}
    {indexed : IndexedParser Expr}
    (same : expression.AgreesAll tokens indexed)
    (depth : Nat) :
    (Parser.arguments context depth expression).AgreesAll tokens
      (arguments context (Token.listing context.source tokens) indexed) := by
  intro current inside
  have behind (goesOn : ∀ token ∈ (tokens.drop current).head?,
      token.kind ≠ .closeParenthesis)
      (accepted : accept (Token.listing context.source tokens) .closeParenthesis current =
        .ok none) :
      Parser.Agrees tokens
        ((Parser.arguments context depth expression).run (tokens.drop current))
        (arguments context (Token.listing context.source tokens) indexed current) := by
    rw [arguments_of_not_closing context goesOn, arguments, optionalArguments, accepted]
    simp only [ok_bind]
    refine (same current inside).elim (fun argument later within => ?_)
      (fun stop => .stopped stop)
    simp only [ok_bind]
    obtain ⟨stop, stops, indexedStops⟩ | ⟨others, last, ends, indexedRead, read⟩ :=
      argumentsFrom_agrees context same depth within
    · rw [stops, indexedStops]
      exact .stopped stop
    · rw [read, indexedRead]
      simp only [ok_bind, pure_bind]
      refine (expect_agrees context .closeParenthesis .argumentsEnd depth ends).elim
        (fun closing final within => ?_) (fun stop => .stopped stop)
      exact .read _ ⟨final.val, _⟩ within
  obtain ⟨token, -, more, listed, bounded, looked⟩ | ⟨listed, bounded, looked⟩ :=
    look_listing context.source inside
  · by_cases isClosing : token.kind = .closeParenthesis
    · rw [arguments, optionalArguments, accept, looked, listed]
      obtain ⟨kind, text, position⟩ := token
      subst isClosing
      simp only [ok_bind, if_pos, pure_bind, expect, looked, Parser.arguments]
      exact .read [] ⟨current + 1, Nat.lt_succ_self _⟩ more
    · refine behind ?_ ?_
      · simpa [listed] using isClosing
      · rw [accept, looked, ok_bind]
        simp only [if_neg isClosing]
        rfl
  · refine behind ?_ ?_
    · simp [listed]
    · rw [accept, looked]
      rfl

section

variable
  {nested : Option (Level → Parser Expr)}
  {indexed : Option (Level → IndexedParser Expr)}
  (same :
    Option.Rel (fun inside other => ∀ level, (inside level).AgreesAll tokens (other level))
      nested indexed)

include same

/-- Going deeper is allowed to both parsers, or refused with the same error. -/
@[elab_as_elim]
theorem deeper_elim
    {motive :
      Except Stop (Level → Parser Expr) → Except Halt (Level → IndexedParser Expr) → Prop}
    (depth position : Nat)
    (rest : List Token)
    (onRead :
      ∀ inside other, (∀ level, (inside level).AgreesAll tokens (other level)) →
        motive (.ok inside) (.ok other))
    (onStop : ∀ stop, motive (.error stop) (.error (.rejected stop.error))) :
    motive (Parser.deeper context depth nested position rest)
      (deeper context depth indexed position) := by
  cases same with
  | none => exact onStop _
  | some agrees => exact onRead _ _ agrees

theorem named_agrees
    (depth : Nat)
    (name : Token)
    {current : Nat}
    (inside : current ≤ tokens.length) :
    Parser.Agrees tokens
      (Parser.named context depth nested name (tokens.drop current))
      (named context (Token.listing context.source tokens) depth indexed name
        current) := by
  obtain ⟨⟨kind, text, position⟩, -, more, listed, bounded, looked⟩ |
      ⟨listed, bounded, looked⟩ := look_listing context.source inside
  · rw [listed, named, accept, looked]
    simp only [ok_bind]
    by_cases isOpening : kind = .openParenthesis
    · subst isOpening
      simp only [if_pos, pure_bind, Parser.named]
      by_cases known : context.known name.text
      · simp only [if_pos known, Parser.called]
        refine deeper_elim context same depth name.position (tokens.drop (current + 1))
          (fun inside other agrees => ?_) (fun stop => .stopped stop)
        simp only [ok_bind]
        refine (arguments_agrees context (agrees .whole) (depth + 1) _ more).elim
          (fun arguments last within => ?_) (fun stop => .stopped stop)
        exact .read _ ⟨last.val, _⟩ within
      · simp only [if_neg known]
        exact .stopped _
    · simp only [if_neg isOpening, pure_bind, accept, looked, ok_bind]
      by_cases isDot : kind = .dot
      · subst isDot
        simp only [if_pos, Parser.named]
        refine (expect_agrees context .name .propertyName depth more).elim
          (fun property last within => ?_) (fun stop => .stopped stop)
        exact .read _ ⟨last.val, _⟩ within
      · simp only [if_neg isDot]
        have alone : Parser.named context depth nested name
            (⟨kind, text, position⟩ :: tokens.drop (current + 1)) =
              .ok (.reference name.position name.text, tokens.drop current) := by
          rw [Parser.named, listed]
          · rintro _ _ _ opens
            cases opens
            exact isOpening rfl
          · rintro _ _ _ opens
            cases opens
            exact isDot rfl
        rw [alone]
        exact .read _ ⟨current, Nat.le_refl _⟩ inside
  · rw [listed, named, accept, looked]
    simp only [ok_bind, pure_bind, accept, looked, Parser.named]
    rw [← listed]
    exact .read _ ⟨current, Nat.le_refl _⟩ inside

theorem primary_agrees
    (numbers :
      ∀ token ∈ tokens, token.kind = .number →
        (Double.ofText? token.text.toList).isSome)
    (depth : Nat) :
    (Parser.primary context depth nested).AgreesAll tokens
      (primary context (Token.listing context.source tokens) depth indexed) := by
  intro current inside
  simp only [primary, Parser.primary]
  obtain ⟨token, given, more, listed, bounded, looked⟩ | ⟨listed, bounded, looked⟩ :=
    look_listing context.source inside
  · rw [listed, looked]
    simp only [ok_bind]
    cases isKind : token.kind with
    | openParenthesis =>
        simp only [Parser.parenthesized]
        refine deeper_elim context same depth token.position (tokens.drop (current + 1))
          (fun inside other agrees => ?_) (fun stop => .stopped stop)
        simp only [ok_bind]
        refine (agrees .whole _ more).elim (fun expr later within => ?_)
          (fun stop => .stopped stop)
        simp only [ok_bind]
        refine (expect_agrees context .closeParenthesis .closingParenthesis (depth + 1)
          within).elim (fun closing last within => ?_) (fun stop => .stopped stop)
        exact .read _ ⟨last.val, _⟩ within
    | number =>
        obtain ⟨value, means⟩ := Option.isSome_iff_exists.1 (numbers token given isKind)
        simp only [means, Token.number]
        exact .read _ ⟨current + 1, Nat.lt_succ_self _⟩ more
    | name =>
        dsimp only
        refine (named_agrees context same depth token more).elim (fun expr last within => ?_)
          (fun stop => .stopped stop)
        exact .read _ ⟨last.val, _⟩ within
    | string | boolean value | null =>
        exact .read _ ⟨current + 1, Nat.lt_succ_self _⟩ more
    | _ => exact .stopped _
  · rw [listed, looked]
    exact .stopped _

theorem unary_agrees
    (numbers :
      ∀ token ∈ tokens, token.kind = .number →
        (Double.ofText? token.text.toList).isSome)
    (depth : Nat) :
    (Parser.unary context depth nested).AgreesAll tokens
      (unary context (Token.listing context.source tokens) depth indexed) := by
  intro current inside
  have primaries := primary_agrees context same numbers depth current inside
  obtain ⟨⟨kind, text, position⟩, -, more, listed, bounded, looked⟩ |
      ⟨listed, bounded, looked⟩ := look_listing context.source inside
  · by_cases isNegation : kind = .negation
    · subst isNegation
      simp only [unary, Parser.unary, accept, listed, looked, ok_bind, if_pos, pure_bind]
      refine deeper_elim context same depth position (tokens.drop (current + 1))
        (fun inside other agrees => ?_) (fun stop => .stopped stop)
      simp only [ok_bind]
      refine (agrees .operand _ more).elim (fun operand last within => ?_)
        (fun stop => .stopped stop)
      exact .read _ ⟨last.val, _⟩ within
    · have same : (Parser.unary context depth nested).run (tokens.drop current) =
          (Parser.primary context depth nested).run (tokens.drop current) := by
        simp only [Parser.unary, listed]
        split
        · next opens =>
            cases opens
            exact absurd rfl isNegation
        · rfl
      rw [same, unary, accept, looked]
      simp only [ok_bind, if_neg isNegation, pure_bind]
      exact primaries
  · have same : (Parser.unary context depth nested).run (tokens.drop current) =
        (Parser.primary context depth nested).run (tokens.drop current) := by
      simp only [Parser.unary, listed]
    rw [same, unary, accept, looked]
    exact primaries

theorem atLevel_agrees
    (numbers :
      ∀ token ∈ tokens, token.kind = .number →
        (Double.ofText? token.text.toList).isSome)
    (depth : Nat)
    (level : Level) :
    (Parser.atLevel context depth nested level).AgreesAll tokens
      (atLevel context (Token.listing context.source tokens) depth indexed level) := by
  have operands := unary_agrees context same numbers depth
  cases level with
  | operand => exact operands
  | whole => exact chain_agrees context (chain_agrees context (comparison_agrees context operands))

end

theorem within_agrees
    (numbers :
      ∀ token ∈ tokens, token.kind = .number →
        (Double.ofText? token.text.toList).isSome)
    (allowance depth : Nat)
    (level : Level) :
    (Parser.within context allowance depth level).AgreesAll tokens
      (within context (Token.listing context.source tokens) allowance depth level) := by
  induction allowance generalizing depth level with
  | zero => exact atLevel_agrees context .none numbers depth level
  | succ allowance inductionHypothesis =>
      exact atLevel_agrees context
        (.some fun level => inductionHypothesis (depth + 1) level) numbers depth level

/-- All entries of a listing make up the expression that its tokens make up. -/
theorem whole_listing
    (numbers :
      ∀ token ∈ tokens, token.kind = .number →
        (Double.ofText? token.text.toList).isSome) :
    whole context (Token.listing context.source tokens) =
      match Expr.parseFrom context { tokens, depth := 0 } with
      | .error stop => .error (.rejected stop.error)
      | .ok expr => .ok expr := by
  cases tokens with
  | nil => rfl
  | cons first others =>
      have begins : look (Token.listing context.source (first :: others)) 0 =
          .ok ⟨.token first, by simp [Token.listing]⟩ := rfl
      rw [whole, begins, Expr.parseFrom]
      simp only [ok_bind]
      refine (within_agrees context numbers context.limits.expressionDepth 0 .whole 0
        (Nat.zero_le _)).elim (fun expr last within => ?_) (fun stop => rfl)
      obtain ⟨token, -, -, listed, bounded, looked⟩ | ⟨listed, bounded, looked⟩ :=
        look_listing context.source within
      · rw [listed, ok_bind]
        simp only [looked]
        rfl
      · rw [listed, ok_bind]
        simp only [looked]
        rfl

end IndexedParser

/-- Parsing by index gives what parsing gives: it never looks outside of the listing of
tokens, and never reads a number from a text that writes none. -/
theorem Expr.parseByIndex_eq (limits : Limits) (known : String → Bool) (source : String) :
    parseByIndex limits known source =
      match parse limits known source with
      | .error error => .error (.rejected error)
      | .ok expr => .ok expr := by
  rw [parseByIndex, parse]
  cases scanned : Token.scan limits source with
  | error error => rfl
  | ok tokens =>
      obtain ⟨_, -, read⟩ := (bind_eq_ok ..).1 scanned
      have whole := IndexedParser.whole_listing { source, known, limits }
        (Token.ofText?_of_scanFrom read)
      refine whole.trans ?_
      dsimp only
      cases parseFrom { source, known, limits } { tokens, depth := 0 } <;> rfl

end Templating
