import Templating.Proofs.Expr.Functions

/-!
# Reading an expression with fewer functions

A parser that knows fewer functions reads the same tokens in the same steps, up to the
first call of a function that it does not know. There it stops. So whatever was read
with more functions is read again, or the first call of a missing function is told.
-/

namespace Templating

/-- The first call of a function that is not known. -/
def missing? (known : String → Bool) (sites : List CallSite) : Option CallSite :=
  sites.find? fun site => !known site.function

theorem missing?_append (known : String → Bool) (sites others : List CallSite) :
    missing? known (sites ++ others) = (missing? known sites).or (missing? known others) :=
  List.find?_append

theorem missing?_eq_none {known : String → Bool} {sites : List CallSite} :
    missing? known sites = none ↔ ∀ site ∈ sites, known site.function = true := by
  simp [missing?]

/-- The error of a call of a missing function. -/
def missingError (source : String) (site : CallSite) : Error :=
  .parse (.unknownFunction site.function) (some site.position) (some source)

/-- The same context with other functions. -/
def ParserContext.withKnown (context : ParserContext) (known : String → Bool) :
    ParserContext :=
  { context with known }

namespace Parser

/-- What becomes of a reading when other functions are known. Nothing is said about a
reading that has stopped. -/
inductive Rereads
    (context : ParserContext)
    (known : String → Bool)
    {α : Type}
    (sites : α → List CallSite) :
    Reading α → Reading α → Prop
  | same
      {result : α}
      {rest : List Token}
      (complete : missing? known (sites result) = none) :
      Rereads context known sites (.ok (result, rest)) (.ok (result, rest))
  | missing
      {result : α}
      {rest : List Token}
      {site : CallSite}
      (found : missing? known (sites result) = some site)
      (cursor : Cursor) :
      Rereads context known sites (.ok (result, rest))
        (context.stop (.unknownFunction site.function) site.position cursor)
  | stopped (stop : Stop) (reading : Reading α) :
      Rereads context known sites (.error stop) reading

variable {context : ParserContext} {known : String → Bool}

/-- A parser reads again what another one has read. -/
abbrev RereadsAll
    (context : ParserContext)
    (known : String → Bool)
    (parser reparser : Parser Expr) :
    Prop :=
  ∀ tokens,
    Rereads context known Expr.calls (parser.run tokens) (reparser.run tokens)

/-- Whatever goes on with a reading and its rereading goes on with the same result, or
behind a call of a missing function, or behind a stop. -/
@[elab_as_elim]
theorem Rereads.elim
    {α : Type}
    {sites : α → List CallSite}
    {motive : Reading α → Reading α → Prop}
    {reading rereading : Reading α}
    (rereads : Rereads context known sites reading rereading)
    (onSame :
      ∀ result rest, missing? known (sites result) = none →
        motive (.ok (result, rest)) (.ok (result, rest)))
    (onMissing :
      ∀ result rest site cursor, missing? known (sites result) = some site →
        motive (.ok (result, rest))
          (context.stop (.unknownFunction site.function) site.position cursor))
    (onStop : ∀ stop rereading, motive (.error stop) rereading) :
    motive reading rereading := by
  cases rereads with
  | same complete => exact onSame _ _ complete
  | missing found cursor => exact onMissing _ _ _ cursor found
  | stopped stop rereading => exact onStop stop rereading

/-- A reading that goes on behind a call of a missing function. -/
theorem Rereads.behind
    {α : Type}
    {sites : α → List CallSite}
    {reading : Reading α}
    {site : CallSite}
    (found :
      ∀ {result rest}, reading = .ok (result, rest) →
        missing? known (sites result) = some site)
    (cursor : Cursor) :
    Rereads context known sites reading
      (context.stop (.unknownFunction site.function) site.position cursor) := by
  cases reading with
  | error stop => exact .stopped stop _
  | ok pair => exact .missing (found rfl) cursor

/-- How a chain goes on at a token. -/
theorem chainFrom_cons
    (kind : TokenKind)
    (operator : BinaryOperator)
    (operand : Parser Expr)
    (left : Expr)
    (token : Token)
    (rest : List Token) :
    chainFrom kind operator operand left (token :: rest) =
      if token.kind = kind then
        match operand.run rest with
        | .error stop => .error stop
        | .ok (right, after) =>
            chainFrom kind operator operand
              (.binary token.position operator left right) after
      else .ok (left, token :: rest) := by
  rw [chainFrom]
  split
  · split <;> simp_all
  · rfl

/-- An argument list ends at its closing parenthesis. -/
theorem argumentsFrom_closing
    {token : Token}
    (isClosing : token.kind = .closeParenthesis)
    (context : ParserContext)
    (depth : Nat)
    (expression : Parser Expr)
    (rest : List Token) :
    argumentsFrom context depth expression (token :: rest) = .ok ([], rest) := by
  rw [argumentsFrom]
  split
  · rfl
  · next isComma =>
      rw [isClosing] at isComma
      cases isComma
  · next other _ => exact absurd isClosing other

/-- How an argument list goes on behind a comma. -/
theorem argumentsFrom_comma
    {token : Token}
    (isComma : token.kind = .comma)
    (context : ParserContext)
    (depth : Nat)
    (expression : Parser Expr)
    (rest : List Token) :
    argumentsFrom context depth expression (token :: rest) =
      match expression.run rest with
      | .error stop => .error stop
      | .ok (argument, after) =>
        match argumentsFrom context depth expression after with
        | .error stop => .error stop
        | .ok (others, last) => .ok (argument :: others, last) := by
  rw [argumentsFrom]
  split
  · next isClosing =>
      rw [isComma] at isClosing
      cases isClosing
  · split
    · next failed => rw [failed]
    · next read =>
        generalize expression.run rest = reading at read
        cases read
        rfl
  · next other => exact absurd isComma other

/-- The calls of a chain begin with those of its first operand. -/
theorem calls_of_chainFrom
    {kind : TokenKind}
    {operator : BinaryOperator}
    {operand : Parser Expr}
    {left result : Expr}
    {tokens rest : List Token}
    (read : chainFrom kind operator operand left tokens = .ok (result, rest)) :
    ∃ more, result.calls = left.calls ++ more := by
  fun_induction chainFrom kind operator operand left tokens with
  | case1 left =>
      cases read
      exact ⟨[], (List.append_nil _).symm⟩
  | case2 => cases read
  | case3 left token others isKind right after operandRead inductionHypothesis =>
      obtain ⟨more, whole⟩ := inductionHypothesis read
      exact ⟨right.calls ++ more, by rw [whole, Expr.calls, List.append_assoc]⟩
  | case4 left =>
      cases read
      exact ⟨[], (List.append_nil _).symm⟩

theorem missing?_of_chainFrom
    {kind : TokenKind}
    {operator : BinaryOperator}
    {operand : Parser Expr}
    {left result : Expr}
    {tokens rest : List Token}
    {site : CallSite}
    (found : missing? known left.calls = some site)
    (read : chainFrom kind operator operand left tokens = .ok (result, rest)) :
    missing? known result.calls = some site := by
  obtain ⟨more, whole⟩ := calls_of_chainFrom read
  rw [whole, missing?_append, found, Option.some_or]

section

variable {operand reoperand : Parser Expr}

theorem chainFrom_rereads
    (rereads : RereadsAll context known operand reoperand)
    (kind : TokenKind)
    (operator : BinaryOperator)
    (left : Expr)
    (complete : missing? known left.calls = none)
    (tokens : List Token) :
    Rereads context known Expr.calls (chainFrom kind operator operand left tokens)
      (chainFrom kind operator reoperand left tokens) := by
  fun_induction chainFrom kind operator operand left tokens with
  | case1 left =>
      rw [chainFrom]
      exact .same complete
  | case2 left token rest isKind stop read => exact .stopped stop _
  | case3 left token rest isKind right after read inductionHypothesis =>
      rw [chainFrom_cons, if_pos isKind]
      have first := rereads rest
      rw [read] at first
      generalize reoperand.run rest = rereading at first
      have both :
          missing? known (Expr.binary token.position operator left right).calls =
            missing? known right.calls := by
        rw [Expr.calls, missing?_append, complete, Option.none_or]
      cases first with
      | same rightComplete => exact inductionHypothesis (both.trans rightComplete)
      | missing found cursor =>
          exact .behind (missing?_of_chainFrom (both.trans found)) cursor
  | case4 left token rest other =>
      rw [chainFrom_cons, if_neg other]
      exact .same complete

theorem chain_rereads
    (rereads : RereadsAll context known operand reoperand)
    (kind : TokenKind)
    (operator : BinaryOperator) :
    RereadsAll context known (chain kind operator operand)
      (chain kind operator reoperand) := by
  intro tokens
  simp only [chain]
  refine Rereads.elim (rereads tokens) ?_ ?_ fun stop _ => .stopped stop _
  · intro left rest complete
    exact chainFrom_rereads rereads kind operator left complete rest
  · intro left rest site cursor found
    exact .behind (missing?_of_chainFrom found) cursor

theorem comparison_rereads (rereads : RereadsAll context known operand reoperand) :
    RereadsAll context known (comparison operand) (comparison reoperand) := by
  intro tokens
  simp only [comparison]
  refine Rereads.elim (rereads tokens) ?_ ?_ fun stop _ => .stopped stop _
  · intro left rest complete
    cases rest with
    | nil => exact .same complete
    | cons token rest =>
        dsimp only
        split
        · next relation isRelation =>
            refine Rereads.elim (rereads rest) ?_ ?_ fun stop _ => .stopped stop _
            · intro right last rightComplete
              refine .same ?_
              rw [Expr.calls, missing?_append, complete, rightComplete, Option.none_or]
            · intro right last site cursor found
              refine .missing ?_ cursor
              rw [Expr.calls, missing?_append, complete, found, Option.none_or]
        · exact .same complete
  · intro left rest site cursor found
    refine .behind ?_ cursor
    intro result last read
    cases rest with
    | nil =>
        cases read
        exact found
    | cons token rest =>
        dsimp only at read
        split at read
        · split at read
          · cases read
          · next right after _ =>
              cases read
              rw [Expr.calls, missing?_append, found, Option.some_or]
        · cases read
          exact found

theorem argumentsFrom_rereads
    (rereads : RereadsAll context known operand reoperand)
    (depth : Nat)
    (tokens : List Token) :
    Rereads context known Expr.callsAll (argumentsFrom context depth operand tokens)
      (argumentsFrom (context.withKnown known) depth reoperand tokens) := by
  fun_induction argumentsFrom context depth operand tokens with
  | case1 => exact .stopped _ _
  | case2 token rest isClosing =>
      rw [argumentsFrom_closing isClosing]
      exact .same rfl
  | case3 => exact .stopped _ _
  | case4 => exact .stopped _ _
  | case5 token rest isComma argument after read others last readOthers
      inductionHypothesis =>
      rw [argumentsFrom_comma isComma]
      rw [readOthers] at inductionHypothesis
      have first := rereads rest
      rw [read] at first
      generalize reoperand.run rest = rereading at first
      cases first with
      | same complete =>
          dsimp only
          generalize argumentsFrom (context.withKnown known) depth reoperand after =
            rereading at inductionHypothesis
          cases inductionHypothesis with
          | same othersComplete =>
              refine .same ?_
              rw [Expr.callsAll, missing?_append, complete, othersComplete, Option.none_or]
          | missing found cursor =>
              refine .missing ?_ cursor
              rw [Expr.callsAll, missing?_append, complete, found, Option.none_or]
      | missing found cursor =>
          refine .missing ?_ cursor
          rw [Expr.callsAll, missing?_append, found, Option.some_or]
  | case6 => exact .stopped _ _

theorem arguments_rereads
    (rereads : RereadsAll context known operand reoperand)
    (depth : Nat)
    (tokens : List Token) :
    Rereads context known Expr.callsAll ((arguments context depth operand).run tokens)
      ((arguments (context.withKnown known) depth reoperand).run tokens) := by
  simp only [arguments]
  split
  · exact .same rfl
  · refine Rereads.elim (rereads tokens) ?_ ?_ fun stop _ => .stopped stop _
    · intro argument rest complete
      dsimp only
      refine Rereads.elim (argumentsFrom_rereads rereads depth rest) ?_ ?_
        fun stop _ => .stopped stop _
      · intro others last othersComplete
        refine .same ?_
        rw [Expr.callsAll, missing?_append, complete, othersComplete, Option.none_or]
      · intro others last site cursor found
        refine .missing ?_ cursor
        rw [Expr.callsAll, missing?_append, complete, found, Option.none_or]
    · intro argument rest site cursor found
      refine .behind ?_ cursor
      intro result last read
      dsimp only at read
      split at read
      · cases read
      · cases read
        rw [Expr.callsAll, missing?_append, found, Option.some_or]

end

section

variable {nested renested : Option (Level → Parser Expr)}

/-- What is parsed one deeper is read again, or both parsers may go no deeper. -/
abbrev RereadsInside
    (context : ParserContext)
    (known : String → Bool)
    (nested renested : Option (Level → Parser Expr)) :
    Prop :=
  Option.Rel
    (fun inside reinside =>
      ∀ level, RereadsAll context known (inside level) (reinside level))
    nested renested

/-- Behind a token that is expected nothing is called. -/
theorem expect_rereads
    {α : Type}
    {sites : α → List CallSite}
    (kind : TokenKind)
    (expected : Expected)
    (depth : Nat)
    (make : Token → α)
    (complete : ∀ token, missing? known (sites (make token)) = none)
    (tokens : List Token) :
    Rereads context known sites
      (match context.expect kind expected depth tokens with
        | .error stop => .error stop
        | .ok (token, rest) => .ok (make token, rest))
      (match (context.withKnown known).expect kind expected depth tokens with
        | .error stop => .error stop
        | .ok (token, rest) => .ok (make token, rest)) := by
  have same : (context.withKnown known).expect kind expected depth tokens =
      context.expect kind expected depth tokens := by
    cases tokens <;> rfl
  rw [same]
  cases context.expect kind expected depth tokens with
  | error stop => exact .stopped stop _
  | ok pair => exact .same (complete pair.1)

theorem parenthesized_rereads
    (inside : RereadsInside context known nested renested)
    (depth : Nat)
    (position : Int)
    (tokens : List Token) :
    Rereads context known Expr.calls (parenthesized context depth nested position tokens)
      (parenthesized (context.withKnown known) depth renested position tokens) := by
  unfold parenthesized deeper
  cases inside with
  | none => exact .stopped _ _
  | some rereads =>
      dsimp only
      refine Rereads.elim (rereads .whole tokens) ?_ ?_ fun stop _ => .stopped stop _
      · intro expr rest complete
        exact expect_rereads .closeParenthesis .closingParenthesis (depth + 1)
          (fun _ => expr) (fun _ => complete) rest
      · intro expr rest site cursor found
        refine .behind ?_ cursor
        intro result last read
        dsimp only at read
        split at read
        · cases read
        · cases read
          exact found

theorem called_rereads
    (inside : RereadsInside context known nested renested)
    (depth : Nat)
    (name : Token)
    (isKnown : known name.text = true)
    (tokens : List Token) :
    Rereads context known Expr.calls (called context depth nested name tokens)
      (called (context.withKnown known) depth renested name tokens) := by
  have first : ∀ exprs,
      missing? known (Expr.call name.position name.text exprs).calls =
        missing? known (Expr.callsAll exprs) := by
    intro exprs
    rw [Expr.calls, missing?, List.find?_cons_of_neg (by simp [isKnown]), missing?]
  unfold called deeper
  cases inside with
  | none => exact .stopped _ _
  | some rereads =>
      dsimp only
      refine Rereads.elim (arguments_rereads (rereads .whole) (depth + 1) tokens) ?_ ?_
        fun stop _ => .stopped stop _
      · intro exprs rest complete
        exact .same ((first exprs).trans complete)
      · intro exprs rest site cursor found
        exact .missing ((first exprs).trans found) cursor

/-- A call of a missing function stops the parser at its name. -/
theorem named_rereads
    (inside : RereadsInside context known nested renested)
    (depth : Nat)
    (name : Token)
    (tokens : List Token) :
    Rereads context known Expr.calls (named context depth nested name tokens)
      (named (context.withKnown known) depth renested name tokens) := by
  unfold named
  split
  · next text position after =>
      have isKnown : (context.withKnown known).known name.text = known name.text := rfl
      rw [isKnown]
      split
      · cases stays : known name.text with
        | true =>
            rw [if_pos rfl]
            exact called_rereads inside depth name stays after
        | false =>
            rw [if_neg (by simp)]
            have atName :
                ∀ {result rest}, called context depth nested name after =
                    .ok (result, rest) →
                  missing? known result.calls = some ⟨name.position, name.text⟩ := by
              intro result rest read
              unfold called at read
              split at read
              · cases read
              · split at read
                · cases read
                · cases read
                  exact List.find?_cons_of_pos (by simp [stays])
            exact .behind atName _
      · exact .stopped _ _
  · next text position after =>
      exact expect_rereads .name .propertyName depth
        (fun property => Expr.access name.position name.text property.text)
        (fun _ => rfl) after
  · exact .same rfl

theorem primary_rereads
    (inside : RereadsInside context known nested renested)
    (depth : Nat) :
    RereadsAll context known (primary context depth nested)
      (primary (context.withKnown known) depth renested) := by
  intro tokens
  simp only [primary]
  cases tokens with
  | nil => exact .stopped _ _
  | cons token rest =>
      dsimp only
      split
      · exact parenthesized_rereads inside depth token.position rest
      · exact .same rfl
      · exact .same rfl
      · exact .same rfl
      · exact .same rfl
      · exact named_rereads inside depth token rest
      · exact .stopped _ _

theorem unary_rereads
    (inside : RereadsInside context known nested renested)
    (depth : Nat) :
    RereadsAll context known (unary context depth nested)
      (unary (context.withKnown known) depth renested) := by
  intro tokens
  simp only [unary]
  split
  · next text position rest =>
      unfold deeper
      cases inside with
      | none => exact .stopped _ _
      | some rereads =>
          dsimp only
          refine Rereads.elim (rereads .operand rest) ?_ ?_ fun stop _ => .stopped stop _
          · intro operand last complete
            exact .same complete
          · intro operand last site cursor found
            have unaryFound :
                missing? known (Expr.unary position .negation operand).calls =
                  some site :=
              found
            exact .missing unaryFound cursor
  · exact primary_rereads inside depth tokens

theorem atLevel_rereads
    (inside : RereadsInside context known nested renested)
    (depth : Nat)
    (level : Level) :
    RereadsAll context known (atLevel context depth nested level)
      (atLevel (context.withKnown known) depth renested level) := by
  cases level with
  | operand => exact unary_rereads inside depth
  | whole =>
      exact chain_rereads
        (chain_rereads (comparison_rereads (unary_rereads inside depth)) _ _) _ _

end

theorem within_rereads
    (context : ParserContext)
    (known : String → Bool)
    (allowance depth : Nat)
    (level : Level) :
    RereadsAll context known (within context allowance depth level)
      (within (context.withKnown known) allowance depth level) := by
  induction allowance generalizing depth level with
  | zero => exact atLevel_rereads .none depth level
  | succ allowance inductionHypothesis =>
      exact atLevel_rereads (.some (inductionHypothesis (depth + 1))) depth level

end Parser

namespace Expr

/-- What is parsed with some functions is parsed again with others, or the first call of
a missing function is told. -/
theorem parse_withKnown
    {limits : Limits}
    {known : String → Bool}
    {source : String}
    {expr : Expr}
    (parsed : parse limits known source = .ok expr)
    (fewer : String → Bool) :
    parse limits fewer source =
      match missing? fewer expr.calls with
      | none => .ok expr
      | some site => .error (missingError source site) := by
  obtain ⟨short, tokens, scanned, read⟩ := (parse_eq_ok ..).1 parsed
  have fits : limits.checkLength source.toList.length (some 0) (some source) = .ok () :=
    (Limits.checkLength_eq_ok ..).2 short
  have scannedAll : Token.scan limits source = .ok tokens := by
    rw [Token.scan, fits]
    exact scanned
  unfold parse
  rw [scannedAll]
  dsimp only
  cases tokens with
  | nil => cases read
  | cons first others =>
      simp only [parseFrom] at read ⊢
      revert read
      refine Parser.Rereads.elim
        (Parser.within_rereads { source, known, limits } fewer
          (limits.expressionDepth - 0) 0 .whole (first :: others)) ?_ ?_ ?_
      · intro result rest complete read
        cases rest with
        | nil =>
            cases read
            rw [complete]
        | cons token rest => cases read
      · intro result rest site cursor found read
        cases rest with
        | nil =>
            cases read
            rw [found]
            rfl
        | cons token rest => cases read
      · intro stop rereading read
        cases read

end Expr
end Templating
