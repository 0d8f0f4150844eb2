import Templating.Expr.Parser.Levels
import Templating.Proofs.Text.Places
import Templating.Proofs.Token.Longest
import Templating.Proofs.Token.Order

/-!
# Where the parser of expressions stops, and why

Whatever a parser leaves unread is among the tokens that it was given, and when it stops,
its error points to one of these tokens or behind the last one. This is kept by every way
of making a parser from others. The tokens of an expression stand in its text, and so does
a character at which there is no token, so every error points into the text.
-/

namespace Templating

/-- A cause that is found in the text of a single expression. -/
def ParseCause.IsOfExpression : ParseCause → Prop
  | .expressionTooLong _ | .expressionTooDeep _ _ | .emptyExpression | .unexpectedEnd
  | .unexpectedToken _ | .missing _ _ | .unknownFunction _ => True
  | _ => False

/-- The text of an expression has no tokens, or they make up no expression. -/
def Error.IsOfExpression (error : Error) : Prop :=
  match error.cause with
  | .parse cause => cause.IsOfExpression
  | .token _ => True
  | _ => False

namespace Parser

variable {α : Type} {context : ParserContext}

/-- An error points to one of several tokens, or to the end of the expression. -/
inductive StopsAt (context : ParserContext) (tokens : List Token) : Error → Prop
  | token
      {token : Token}
      {cause : ParseCause}
      (ofExpression : cause.IsOfExpression)
      (given : token ∈ tokens) :
      StopsAt context tokens
        (.parse cause (some (token.position : Int)) (some context.source))
  | ending {cause : ParseCause} (ofExpression : cause.IsOfExpression) :
      StopsAt context tokens (.parse cause (some context.ending) (some context.source))

/-- A reading leaves some of the tokens that it was given, or it stops at one of them. -/
inductive Stays (context : ParserContext) (tokens : List Token) : Reading α → Prop
  | read
      {rest : List Token}
      (result : α)
      (left : rest ⊆ tokens) :
      Stays context tokens (.ok (result, rest))
  | stopped
      {stop : Stop}
      (atToken : StopsAt context tokens stop.error) :
      Stays context tokens (.error stop)

/-- A parser leaves some of the tokens that it is given, or it stops at one of them. -/
abbrev StaysAll (context : ParserContext) (parser : Parser α) : Prop :=
  ∀ tokens, Stays context tokens (parser.run tokens)

theorem StopsAt.mono
    {tokens more : List Token}
    {error : Error}
    (stops : StopsAt context tokens error)
    (within : tokens ⊆ more) :
    StopsAt context more error := by
  cases stops with
  | token ofExpression given => exact .token ofExpression (within given)
  | ending ofExpression => exact .ending ofExpression

theorem StopsAt.pointsInto
    {tokens : List Token}
    {error : Error}
    (stops : StopsAt context tokens error)
    (inside : ∀ token ∈ tokens, token.position ≤ context.source.toList.length) :
    error.PointsInto context.source := by
  cases stops with
  | token ofExpression given => exact ⟨rfl, _, rfl, inside _ given⟩
  | ending ofExpression =>
      exact ⟨rfl, context.source.length, rfl, Nat.le_of_eq String.length_toList.symm⟩

theorem StopsAt.isOfExpression
    {tokens : List Token}
    {error : Error}
    (stops : StopsAt context tokens error) :
    error.IsOfExpression := by
  cases stops with
  | token ofExpression given => exact ofExpression
  | ending ofExpression => exact ofExpression

theorem Stays.mono
    {tokens more : List Token}
    {reading : Reading α}
    (stays : Stays context tokens reading)
    (within : tokens ⊆ more) :
    Stays context more reading := by
  cases stays with
  | read result left => exact .read result (List.Subset.trans left within)
  | stopped atToken => exact .stopped (atToken.mono within)

/-- Whatever goes on with a reading goes on with a result and some of the tokens, or
behind a stop at one of them. -/
@[elab_as_elim]
theorem Stays.elim
    {tokens : List Token}
    {motive : Reading α → Prop}
    {reading : Reading α}
    (stays : Stays context tokens reading)
    (onRead : ∀ result rest, rest ⊆ tokens → motive (.ok (result, rest)))
    (onStop : ∀ stop, StopsAt context tokens stop.error → motive (.error stop)) :
    motive reading := by
  cases stays with
  | read result left => exact onRead result _ left
  | stopped atToken => exact onStop _ atToken

theorem Stays.left
    {tokens rest : List Token}
    {result : α}
    (stays : Stays context tokens (.ok (result, rest))) :
    rest ⊆ tokens := by
  cases stays with
  | read result left => exact left

theorem Stays.atToken
    {tokens : List Token}
    {stop : Stop}
    (stays : Stays (α := α) context tokens (.error stop)) :
    StopsAt context tokens stop.error := by
  cases stays with
  | stopped atToken => exact atToken

section

variable {operand : Parser Expr} (stays : StaysAll context operand)

include stays

theorem chainFrom_stays
    (kind : TokenKind)
    (operator : BinaryOperator)
    (left : Expr)
    (tokens : List Token) :
    Stays context tokens (chainFrom kind operator operand left tokens) := by
  fun_induction chainFrom kind operator operand left tokens with
  | case1 left => exact .read left (List.Subset.refl _)
  | case2 left token rest isKind stop read =>
      have first := stays rest
      rw [read] at first
      exact .stopped (first.atToken.mono (List.subset_cons_self ..))
  | case3 left token rest isKind right after read inductionHypothesis =>
      have first := stays rest
      rw [read] at first
      exact inductionHypothesis.mono (List.subset_cons_of_subset _ first.left)
  | case4 left token rest other => exact .read left (List.Subset.refl _)

theorem chain_stays (kind : TokenKind) (operator : BinaryOperator) :
    StaysAll context (chain kind operator operand) := by
  intro tokens
  simp only [chain]
  refine Stays.elim (stays tokens) ?_ fun stop atToken => .stopped atToken
  intro left rest within
  exact (chainFrom_stays stays kind operator left rest).mono within

theorem comparison_stays : StaysAll context (comparison operand) := by
  intro tokens
  simp only [comparison]
  refine Stays.elim (stays tokens) ?_ fun stop atToken => .stopped atToken
  intro left rest within
  cases rest with
  | nil => exact .read left within
  | cons token rest =>
      dsimp only
      split
      · have behind := List.Subset.trans (List.subset_cons_self token rest) within
        refine Stays.elim (stays rest) ?_
          fun stop atToken => .stopped (atToken.mono behind)
        intro right last further
        exact .read _ (List.Subset.trans further behind)
      · exact .read left within

theorem argumentsFrom_stays (depth : Nat) (tokens : List Token) :
    Stays context tokens (argumentsFrom context depth operand tokens) := by
  fun_induction argumentsFrom context depth operand tokens with
  | case1 => exact .stopped (.ending trivial)
  | case2 token rest isClosing => exact .read [] (List.subset_cons_self ..)
  | case3 token rest isComma stop read =>
      have first := stays rest
      rw [read] at first
      exact .stopped (first.atToken.mono (List.subset_cons_self ..))
  | case4 token rest isComma argument after read stop readOthers inductionHypothesis =>
      have first := stays rest
      rw [read] at first
      rw [readOthers] at inductionHypothesis
      exact inductionHypothesis.mono (List.subset_cons_of_subset _ first.left)
  | case5 token rest isComma argument after read others last readOthers
      inductionHypothesis =>
      have first := stays rest
      rw [read] at first
      rw [readOthers] at inductionHypothesis
      exact .read _
        (List.subset_cons_of_subset _ (List.Subset.trans inductionHypothesis.left first.left))
  | case6 token rest => exact .stopped (.token trivial List.mem_cons_self)

theorem arguments_stays (depth : Nat) :
    StaysAll context (arguments context depth operand) := by
  intro tokens
  simp only [arguments]
  split
  · exact .read [] (List.subset_cons_self ..)
  · refine Stays.elim (stays tokens) ?_ fun stop atToken => .stopped atToken
    intro argument rest within
    dsimp only
    refine Stays.elim (argumentsFrom_stays stays depth rest) ?_
      fun stop atToken => .stopped (atToken.mono within)
    intro others last further
    exact .read _ (List.Subset.trans further within)

end

theorem expect_stays
    (kind : TokenKind)
    (expected : Expected)
    (depth : Nat)
    (tokens : List Token) :
    Stays context tokens (context.expect kind expected depth tokens) := by
  cases tokens with
  | nil => exact .stopped (.ending trivial)
  | cons token rest =>
      rw [ParserContext.expect]
      split
      · exact .read token (List.subset_cons_self ..)
      · exact .stopped (.token trivial List.mem_cons_self)

section

variable {nested : Option (Level → Parser Expr)}
  (inside : ∀ parser ∈ nested, ∀ level, StaysAll context (parser level))

include inside

/-- The opening parenthesis is among the tokens that the parser was given. -/
theorem parenthesized_stays (depth : Nat) (token : Token) (rest : List Token) :
    Stays context (token :: rest)
      (parenthesized context depth nested token.position rest) := by
  have behind := List.subset_cons_self token rest
  unfold parenthesized deeper
  cases nested with
  | none => exact .stopped (.token trivial List.mem_cons_self)
  | some parser =>
      dsimp only
      refine Stays.elim (inside parser rfl .whole rest) ?_
        fun stop atToken => .stopped (atToken.mono behind)
      intro expr after within
      have afterToken := List.Subset.trans within behind
      dsimp only
      refine Stays.elim
        (expect_stays .closeParenthesis .closingParenthesis (depth + 1) after) ?_
        fun stop atToken => .stopped (atToken.mono afterToken)
      intro closing last further
      exact .read expr (List.Subset.trans further afterToken)

/-- The name of the function is among the tokens that the parser was given. -/
theorem called_stays (depth : Nat) (name : Token) (rest : List Token) :
    Stays context (name :: rest) (called context depth nested name rest) := by
  have behind := List.subset_cons_self name rest
  unfold called deeper
  cases nested with
  | none => exact .stopped (.token trivial List.mem_cons_self)
  | some parser =>
      dsimp only
      refine Stays.elim (arguments_stays (inside parser rfl .whole) (depth + 1) rest) ?_
        fun stop atToken => .stopped (atToken.mono behind)
      intro arguments last within
      exact .read _ (List.Subset.trans within behind)

theorem named_stays (depth : Nat) (name : Token) (rest : List Token) :
    Stays context (name :: rest) (named context depth nested name rest) := by
  unfold named
  split
  · split
    · exact (called_stays inside depth name _).mono
        (List.cons_subset_cons _ (List.subset_cons_self ..))
    · exact .stopped (.token trivial List.mem_cons_self)
  · next text position after =>
      have behind : after ⊆ name :: ⟨.dot, text, position⟩ :: after :=
        List.subset_cons_of_subset _ (List.subset_cons_self ..)
      refine Stays.elim (expect_stays .name .propertyName depth after) ?_
        fun stop atToken => .stopped (atToken.mono behind)
      intro property last within
      exact .read _ (List.Subset.trans within behind)
  · exact .read _ (List.subset_cons_self ..)

theorem primary_stays (depth : Nat) : StaysAll context (primary context depth nested) := by
  intro tokens
  simp only [primary]
  split
  · exact .stopped (.ending trivial)
  · next token rest =>
      split
      · exact parenthesized_stays inside depth token rest
      · exact .read _ (List.subset_cons_self ..)
      · exact .read _ (List.subset_cons_self ..)
      · exact .read _ (List.subset_cons_self ..)
      · exact .read _ (List.subset_cons_self ..)
      · exact named_stays inside depth token rest
      · exact .stopped (.token trivial List.mem_cons_self)

theorem unary_stays (depth : Nat) : StaysAll context (unary context depth nested) := by
  intro tokens
  simp only [unary]
  split
  · next text position rest =>
      let sign : Token := ⟨.negation, text, position⟩
      have behind : rest ⊆ sign :: rest := List.subset_cons_self ..
      unfold deeper
      cases nested with
      | none =>
          have given : sign ∈ sign :: rest := List.mem_cons_self
          refine .stopped (.token ?_ given)
          trivial
      | some parser =>
          dsimp only
          refine Stays.elim (inside parser rfl .operand rest) ?_
            fun stop atToken => .stopped (atToken.mono behind)
          intro operand last within
          exact .read _ (List.Subset.trans within behind)
  · exact primary_stays inside depth tokens

theorem atLevel_stays (depth : Nat) (level : Level) :
    StaysAll context (atLevel context depth nested level) := by
  cases level with
  | operand => exact unary_stays inside depth
  | whole =>
      exact chain_stays
        (chain_stays (comparison_stays (unary_stays inside depth)) _ _) _ _

end

theorem within_stays (allowance depth : Nat) (level : Level) :
    StaysAll context (within context allowance depth level) := by
  induction allowance generalizing depth level with
  | zero => exact atLevel_stays (by simp) depth level
  | succ allowance inductionHypothesis =>
      refine atLevel_stays ?_ depth level
      rintro parser ⟨⟩
      exact inductionHypothesis (depth + 1)

end Parser

namespace Token

/-- The tokens of the rest of a text begin in it. -/
theorem position_lt_of_scanFrom
    {source : String}
    {position : Nat}
    {text : List Char}
    {tokens : List Token}
    (scanned : scanFrom source position text = .ok tokens) :
    ∀ token ∈ tokens, token.position < position + text.length := by
  fun_induction scanFrom source position text generalizing tokens with
  | case1 =>
      cases scanned
      simp
  | case2 position first rest blank inductionHypothesis =>
      intro token member
      have inside := inductionHypothesis scanned token member
      rw [List.length_cons]
      omega
  | case3 => cases scanned
  | case4 position first rest visible found read inductionHypothesis =>
      obtain ⟨others, scannedOthers, made⟩ := (bind_eq_ok ..).1 scanned
      cases made
      refine List.forall_mem_cons.2 ⟨by simp, fun token member => ?_⟩
      -- A lexeme that reaches behind the text leaves nothing to begin there.
      have inside := inductionHypothesis scannedOthers token member
      have behind := (pairwise_of_scanFrom scannedOthers).1 token member
      rw [List.length_drop] at inside
      rw [List.length_cons]
      omega

/-- The scanner stops where no token can be read, at a character of the text. -/
theorem stops_of_scanFrom
    {source : String}
    {position : Nat}
    {text : List Char}
    {error : Error}
    (failed : scanFrom source position text = .error error) :
    ∃ cause stopped,
      error = failure source cause stopped ∧ position ≤ stopped ∧
        stopped < position + text.length := by
  cases scanned source position text with
  | whole scanned reads => cases failed.symm.trans scanned
  | @upTo tokens stop rest cause found reads stuck =>
      cases failed.symm.trans found
      obtain ⟨front, rfl, rfl, -⟩ := reads.exists_front
      have nonempty := List.length_pos_iff.2 stuck.ne_nil
      refine ⟨cause, _, rfl, Nat.le_add_right _ _, ?_⟩
      rw [List.length_append]
      omega

end Token

namespace Expr

/-- The parser of a whole expression stops at one of its tokens, or behind the last one,
and at the front of an expression without tokens. -/
theorem stops_of_parseFrom
    {context : ParserContext}
    {tokens : List Token}
    {depth : Nat}
    {stop : Stop}
    (failed : parseFrom context ⟨tokens, depth⟩ = .error stop) :
    Parser.StopsAt context tokens stop.error ∨
      stop.error = .parse .emptyExpression (some 0) (some context.source) := by
  cases tokens with
  | nil =>
      cases failed
      exact .inr rfl
  | cons first others =>
      left
      let allowance := context.limits.expressionDepth - depth
      have whole : Parser.StaysAll context (Parser.within context allowance depth .whole) :=
        Parser.within_stays allowance depth .whole
      have stays := whole (first :: others)
      simp only [parseFrom] at failed
      split at failed
      · next read =>
          cases failed
          rw [read] at stays
          exact stays.atToken
      · cases failed
      · next read =>
          cases failed
          rw [read] at stays
          exact .token trivial (stays.left List.mem_cons_self)

/-- The text of an expression that is rejected is what the error points into. -/
theorem pointsInto_of_parse
    {limits : Limits}
    {known : String → Bool}
    {source : String}
    {error : Error}
    (failed : parse limits known source = .error error) :
    error.PointsInto source := by
  unfold parse at failed
  split at failed
  · next scanFailed =>
      cases failed
      obtain tooLong | ⟨_, stopped⟩ := bind_error scanFailed
      · unfold Limits.checkLength at tooLong
        split at tooLong
        · cases tooLong
        · cases tooLong
          exact ⟨rfl, 0, rfl, Nat.zero_le _⟩
      · obtain ⟨cause, position, rfl, -, inside⟩ := Token.stops_of_scanFrom stopped
        exact ⟨rfl, position, rfl, by omega⟩
  · next tokens scanned =>
      obtain ⟨_, _, read⟩ := (bind_eq_ok ..).1 scanned
      split at failed
      · next stop stopped =>
          cases failed
          obtain atToken | empty := stops_of_parseFrom stopped
          · exact atToken.pointsInto fun token given => by
              have inside := Token.position_lt_of_scanFrom read token given
              dsimp only
              omega
          · rw [empty]
            exact ⟨rfl, 0, rfl, Nat.zero_le _⟩
      · cases failed

/-- Whatever is wrong with the text of an expression is found in it alone. -/
theorem isOfExpression_of_parse
    {limits : Limits}
    {known : String → Bool}
    {source : String}
    {error : Error}
    (failed : parse limits known source = .error error) :
    error.IsOfExpression := by
  unfold parse at failed
  split at failed
  · next scanFailed =>
      cases failed
      obtain tooLong | ⟨_, stopped⟩ := bind_error scanFailed
      · unfold Limits.checkLength at tooLong
        split at tooLong
        · cases tooLong
        · cases tooLong
          trivial
      · obtain ⟨cause, position, rfl, -⟩ := Token.stops_of_scanFrom stopped
        trivial
  · next tokens scanned =>
      split at failed
      · next stop stopped =>
          cases failed
          obtain atToken | empty := stops_of_parseFrom stopped
          · exact atToken.isOfExpression
          · rw [empty]
            trivial
      · cases failed

end Expr
end Templating
