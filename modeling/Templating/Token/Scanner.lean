import Templating.Limits.Check
import Templating.Text.Character
import Templating.Token.Basic

/-!
# The tokens of an expression

At each offset the longest lexeme that can begin there is taken: a string, an
operator of two characters before one of a single character, a number, whose
point must be followed by a digit, or a word. Blanks are skipped. A string
without its closing quote and a character that begins no lexeme are errors.
-/

namespace Templating
namespace Token

/-- A lexeme at the front of a text. -/
structure Lexeme where
  kind : TokenKind
  /-- The text that the token carries. -/
  text : List Char
  /-- The number of characters of the lexeme after its first. -/
  more : Nat
  deriving DecidableEq

/-- The text of a string and the number of characters up to its closing quote,
the quote included. A backslash stands for the character after it. -/
def stringBody? : List Char → Option (List Char × Nat)
  | [] => none
  | '\x22' :: _ => some ([], 1)
  | '\x5c' :: character :: rest =>
      (stringBody? rest).map fun (text, size) => (character :: text, size + 2)
  | character :: rest =>
      (stringBody? rest).map fun (text, size) => (character :: text, size + 1)

/-- The operator of two characters at the front of a text. -/
def doubleOperator? : Char → List Char → Option TokenKind
  | '=', '=' :: _ => some (.relation .equal)
  | '!', '=' :: _ => some (.relation .notEqual)
  | '>', '=' :: _ => some (.relation (.order .atLeast))
  | '<', '=' :: _ => some (.relation (.order .atMost))
  | _, _ => none

/-- The token of a single character. -/
def singleOperator? : Char → Option TokenKind
  | '>' => some (.relation (.order .greater))
  | '<' => some (.relation (.order .less))
  | '(' => some .openParenthesis
  | ')' => some .closeParenthesis
  | ',' => some .comma
  | '.' => some .dot
  | _ => none

/-- The digits of a number after its first one. -/
def numberRest (rest : List Char) : List Char :=
  let whole := rest.takeWhile Char.isDigit
  match rest.dropWhile Char.isDigit with
  | '.' :: digit :: others =>
      if digit.isDigit then
        whole ++ '.' :: digit :: others.takeWhile Char.isDigit
      else whole
  | _ => whole

/-- The lexeme that begins with a character before the rest of a text. -/
def lexeme (first : Char) (rest : List Char) : Except TokenCause Lexeme :=
  if first = '\x22' then
    match stringBody? rest with
    | some (text, size) => .ok ⟨.string, text, size⟩
    | none => .error .unterminatedString
  else
    match doubleOperator? first rest with
    | some kind => .ok ⟨kind, [first, '='], 1⟩
    | none =>
      match singleOperator? first with
      | some kind => .ok ⟨kind, [first], 0⟩
      | none =>
        if first.isDigit then
          .ok ⟨.number, first :: numberRest rest, (numberRest rest).length⟩
        else if Text.isNameStart first then
          let word := first :: rest.takeWhile Text.isWord
          .ok ⟨.ofWord (String.ofList word), word, word.length - 1⟩
        else .error (.unexpectedCharacter first)

/-- The tokens of the rest of an expression, which begins at an offset. -/
def scanFrom (source : String) (position : Nat) :
    List Char → Except Error (List Token)
  | [] => .ok []
  | first :: rest =>
    if Text.isBlank first then scanFrom source (position + 1) rest
    else
      match lexeme first rest with
      | .error cause =>
        .error
          { cause := .token cause, position := some position
            source := some source }
      | .ok found => do
        let tokens ←
          scanFrom source (position + 1 + found.more) (rest.drop found.more)
        return { kind := found.kind, text := String.ofList found.text, position } ::
          tokens
termination_by text => text.length
decreasing_by
  · simp
  · simp only [List.length_drop, List.length_cons]
    omega

/-- The tokens of an expression, whose text must not be too long. -/
def scan (limits : Limits) (source : String) : Except Error (List Token) := do
  limits.checkLength source.toList.length (some 0) (some source)
  scanFrom source 0 source.toList

/-- The listing of tokens, which the end of their expression follows. -/
def listing (source : String) (tokens : List Token) : List Entry :=
  tokens.map .token ++ [.ending source.length]

end Token
end Templating
