import Templating.Text.Place

/-!
# Errors

Everything that goes wrong while a template is parsed or rendered is an error: a
cause, and where known the offset and the text that the offset points into. For
the text of a tag that text is the expression; for the structure of blocks it is
the whole template. The wording of every cause is in one place,
`Cause.message`.
-/

namespace Templating

/-- What a parser was looking for. -/
inductive Expected
  | closingParenthesis
  | argumentsEnd
  | propertyName
  deriving DecidableEq

/-- Why a template or an expression is rejected before it is rendered. -/
inductive ParseCause
  | unclosedTag
  | expressionTooLong (limit : Nat)
  | expressionTooDeep (depth limit : Nat)
  | nestingTooDeep (limit : Nat)
  | emptyExpression
  | unexpectedEnd
  | unexpectedToken (token : String)
  /-- Something else was found, or the end of the expression. -/
  | missing (expected : Expected) (found : Option String)
  | unknownFunction (name : String)
  | malformedEach
  | unexpectedClosing (keyword expected : Option String)
  | unmatchedBranch (keyword : String)
  | branchAfterElse (keyword : String)
  | unknownKeyword (keyword : Option String)
  | unclosedBlock (closing : String)
  /-- A cause in a host's own words. -/
  | stated (text : String)
  deriving DecidableEq

/-- Why the text of a tag has no tokens. -/
inductive TokenCause
  | unexpectedCharacter (character : Char)
  | unterminatedString
  /-- A cause in a host's own words. -/
  | stated (text : String)
  deriving DecidableEq

/-- Why rendering a parsed template fails, other than by a limit. -/
inductive EvaluationCause
  | integerTooLarge (bits : Nat)
  | unknownFunction (name : String)
  | unknownExpression (kind : String)
  | unknownNode (kind : String)
  /-- A cause in a host's own words. -/
  | stated (text : String)
  deriving DecidableEq

/-- What a render may use only so much of. -/
inductive Resource
  | loopIterations
  | nestingDepth
  | callDepth
  | outputSize
  /-- A resource that a host counts. -/
  | named (name : String)
  deriving DecidableEq

/-- The name of a resource. -/
def Resource.name : Resource → String
  | .loopIterations => "loop_iterations"
  | .nestingDepth => "nesting_depth"
  | .callDepth => "function_call_depth"
  | .outputSize => "output_size"
  | .named name => name

/-- The kind of an error together with its reason. -/
inductive Cause
  /-- An error of no particular kind, in a host's own words. -/
  | general (text : String)
  | parse (cause : ParseCause)
  | token (cause : TokenCause)
  | evaluation (cause : EvaluationCause)
  /-- A function of the host failed with a text of its own. -/
  | function (name text : String)
  | limit (resource : Resource) (bound actual : Int)
  deriving DecidableEq

/-- What was looked for, as a message says it. -/
def Expected.message : Expected → String
  | .closingParenthesis => "Expected ')' after expression"
  | .argumentsEnd => "Expected ')' after function arguments"
  | .propertyName => "Expected property name after '.'"

/-- A keyword as a message shows it; a block tag without one shows `None`. -/
def keywordText (keyword : Option String) : String :=
  keyword.getD "None"

/-- The wording of a rejected template. -/
def ParseCause.message : ParseCause → String
  | .unclosedTag => "Unclosed expression: missing \x7d\x7d"
  | .expressionTooLong limit =>
      "Expression exceeds maximum length of " ++ limit.repr ++ " characters"
  | .expressionTooDeep depth limit =>
      "Expression nesting depth " ++ depth.repr ++ " exceeds limit of " ++
        limit.repr
  | .nestingTooDeep limit =>
      "Maximum nesting depth of " ++ limit.repr ++ " exceeded"
  | .emptyExpression => "Empty expression"
  | .unexpectedEnd => "Unexpected end of expression"
  | .unexpectedToken token => "Unexpected token: " ++ token
  | .missing expected found =>
      expected.message ++ ", got '" ++ found.getD "end of expression" ++ "'"
  | .unknownFunction name => "Unknown function: " ++ name
  | .malformedEach =>
      "Invalid each syntax: expected 'variable in expression'"
  | .unexpectedClosing keyword expected =>
      "Unexpected closing tag: " ++ keywordText keyword ++
        (match expected with
        | none => ""
        | some closing => " (expected " ++ closing ++ ")")
  | .unmatchedBranch keyword =>
      "Unexpected " ++ keyword ++ " without matching if"
  | .branchAfterElse keyword => "Unexpected " ++ keyword ++ " after else"
  | .unknownKeyword keyword =>
      "Unknown block keyword: " ++ keywordText keyword
  | .unclosedBlock closing => "Unclosed block: expected " ++ closing
  | .stated text => text

/-- The wording of a text without tokens. -/
def TokenCause.message : TokenCause → String
  | .unexpectedCharacter character =>
      "Unexpected character: '" ++ String.singleton character ++ "'"
  | .unterminatedString => "Unterminated string literal"
  | .stated text => text

/-- The wording of a failed render. -/
def EvaluationCause.message : EvaluationCause → String
  | .integerTooLarge bits =>
      "Integer too large to display (" ++ bits.repr ++ " bits)"
  | .unknownFunction name => "Unknown function: " ++ name
  | .unknownExpression kind => "Unknown expression node: " ++ kind
  | .unknownNode kind => "Unknown template node: " ++ kind
  | .stated text => text

/-- The name of the kind of an error, as it is logged. -/
def Cause.kindName : Cause → String
  | .general _ => "ExpressionError"
  | .parse _ => "ParseError"
  | .token _ => "TokenizerError"
  | .evaluation _ => "EvaluationError"
  | .function _ _ => "FunctionError"
  | .limit _ _ _ => "LimitExceededError"

/-- The wording of every cause. -/
def Cause.message : Cause → String
  | .general text => text
  | .parse cause => cause.message
  | .token cause => cause.message
  | .evaluation cause => cause.message
  | .function name text => name ++ ": " ++ text
  | .limit resource bound actual =>
      "Limit exceeded: " ++ resource.name ++ " (limit: " ++ bound.repr ++
        ", actual: " ++ actual.repr ++ ")"

/-- A failure to parse or render a template. -/
structure Error where
  cause : Cause
  /-- The offset of the failure in its text. -/
  position : Option Int
  /-- The text that the offset points into. -/
  source : Option String
  deriving DecidableEq

namespace Error

/-- The wording of an error. -/
def message (error : Error) : String := error.cause.message

/-- A rejected template or expression. -/
def parse (cause : ParseCause) (position : Option Int) (source : Option String) :
    Error :=
  { cause := .parse cause, position, source }

/-- A failure of a render that no limit caused. -/
def evaluation
    (cause : EvaluationCause)
    (position : Option Int)
    (source : Option String) :
    Error :=
  { cause := .evaluation cause, position, source }

/-- A resource is used up; its error points nowhere. -/
def exhausted (resource : Resource) (bound actual : Int) : Error :=
  { cause := .limit resource bound actual, position := none, source := none }

/-- A template is rejected: its structure is wrong, or the text of a tag has no
tokens. -/
def IsParse (error : Error) : Prop :=
  match error.cause with
  | .parse _ | .token _ => True
  | _ => False

/-- A resource is used up. -/
def IsLimit (error : Error) : Prop :=
  match error.cause with
  | .limit _ _ _ => True
  | _ => False

/-- A render fails other than by a limit. -/
def IsEvaluation (error : Error) : Prop :=
  match error.cause with
  | .evaluation _ | .function _ _ => True
  | _ => False

/-- The line and column of an error whose offset and text are known. -/
def place? (error : Error) : Option Text.Place :=
  match error.source, error.position with
  | some source, some position => some (Text.placeOf source.toList position)
  | _, _ => none

/-- The line that a place is on. -/
def sourceLine (source : String) (place : Text.Place) : String :=
  String.ofList ((Text.lines source.toList)[place.line - 1]?.getD [])

/-- The message, followed where the place is known by the line it is on and a
caret below it. Line and column are told when the text has several lines. -/
def context (error : Error) : String :=
  match error.source, error.place? with
  | some source, some place =>
      let header :=
        if (Text.lines source.toList).length ≤ 1 then error.message
        else
          error.message ++ " (line " ++ place.line.repr ++ ", column " ++
            place.column.repr ++ ")"
      header ++ "\n  " ++ sourceLine source place ++ "\n  " ++
        Text.indentation (place.column - 1) ++ "^"
  | _, _ => error.message

end Error
end Templating
