import Templating.Operator

/-!
# Tokens

The text of an expression is a sequence of tokens with blanks between them. A
token carries its text, which for a string is the text that the string stands
for, and its offset. A listing of tokens ends with an entry of its own, so that
there is something to look at behind the last token.
-/

namespace Templating

/-- What a token is. -/
inductive TokenKind
  | string
  | number
  | name
  | boolean (value : Bool)
  | null
  | conjunction
  | disjunction
  | negation
  | relation (kind : Relation)
  | openParenthesis
  | closeParenthesis
  | comma
  | dot
  deriving DecidableEq

/-- A token of an expression. -/
structure Token where
  kind : TokenKind
  text : String
  position : Nat
  deriving DecidableEq

namespace TokenKind

/-- The words that are no names. -/
def keywords : List (String × TokenKind) :=
  [("and", .conjunction), ("or", .disjunction), ("not", .negation),
    ("true", .boolean true), ("false", .boolean false), ("null", .null)]

/-- What a word is. -/
def ofWord (word : String) : TokenKind :=
  (keywords.lookup word).getD .name

end TokenKind

namespace TokenKind

/-- The name of a kind of token in a listing. -/
def label : TokenKind → String
  | .string => "STRING"
  | .number => "NUMBER"
  | .name => "IDENTIFIER"
  | .boolean true => "TRUE"
  | .boolean false => "FALSE"
  | .null => "NULL"
  | .conjunction => "AND"
  | .disjunction => "OR"
  | .negation => "NOT"
  | .relation .equal => "EQ"
  | .relation .notEqual => "NE"
  | .relation (.order .greater) => "GT"
  | .relation (.order .less) => "LT"
  | .relation (.order .atLeast) => "GE"
  | .relation (.order .atMost) => "LE"
  | .openParenthesis => "LPAREN"
  | .closeParenthesis => "RPAREN"
  | .comma => "COMMA"
  | .dot => "DOT"

/-- The name of the coarse kind that a kind of token belongs to. -/
def group : TokenKind → String
  | .string => "string"
  | .number => "number"
  | .name => "identifier"
  | .boolean _ | .null | .conjunction | .disjunction | .negation => "keyword"
  | .relation _ => "operator"
  | .openParenthesis | .closeParenthesis => "paren"
  | .comma => "comma"
  | .dot => "dot"

end TokenKind

/-- An entry of a listing of tokens. -/
inductive Entry
  | token (token : Token)
  /-- The end of an expression of a given length. -/
  | ending (position : Nat)
  deriving DecidableEq

namespace Entry

/-- The name of the kind of an entry. -/
def label : Entry → String
  | .token found => found.kind.label
  | .ending _ => "EOF"

/-- The name of the coarse kind of an entry. -/
def group : Entry → String
  | .token found => found.kind.group
  | .ending _ => "eof"

/-- The text that an entry carries. -/
def text : Entry → String
  | .token found => found.text
  | .ending _ => ""

/-- The offset of an entry. -/
def position : Entry → Nat
  | .token found => found.position
  | .ending position => position

end Entry

/-- A word that is no name. -/
def isKeyword (word : String) : Bool :=
  (TokenKind.keywords.map Prod.fst).contains word

end Templating
