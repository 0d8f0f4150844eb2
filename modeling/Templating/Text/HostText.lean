import Templating.Text.Quoted

/-!
# Texts of a host

A host may hand over texts that no encoding has bytes for: besides characters
they hold surrogates, the halves of pairs that stand for one character
elsewhere. A text that has any is not encoded, and the failure names the first
stretch of them.
-/

namespace Templating

/-- One place of a text of a host. -/
inductive CodePoint
  | character (letter : Char)
  /-- One of the 2048 surrogates, the lowest one first. -/
  | surrogate (index : Fin 2048)
  deriving DecidableEq

/-- A text as a host has it. -/
abbrev HostText := List CodePoint

namespace CodePoint

/-- A surrogate is no character. -/
def isSurrogate : CodePoint → Bool
  | .character _ => false
  | .surrogate _ => true

/-- The character that stands at a place, if one does. -/
def toChar? : CodePoint → Option Char
  | .character letter => some letter
  | .surrogate _ => none

/-- The number of a code point. -/
def number : CodePoint → Nat
  | .character letter => letter.toNat
  | .surrogate index => 0xd800 + index.val

end CodePoint

/-- A stretch of surrogates in a text, which has no encoding. -/
structure EncodingFailure where
  /-- The first of the surrogates. -/
  first : CodePoint
  /-- The offset of the first surrogate. -/
  start : Nat
  /-- The number of further surrogates right behind the first one. -/
  more : Nat
  deriving DecidableEq

/-- The wording of a failure to encode a text. -/
def EncodingFailure.message (failure : EncodingFailure) : String :=
  let place :=
    if failure.more = 0 then
      " '\x5cu" ++ String.ofList (Text.hexadecimal 4 failure.first.number) ++
        "' in position " ++ failure.start.repr
    else
      "s in position " ++ failure.start.repr ++ "-" ++
        (failure.start + failure.more).repr
  "'utf-8' codec can't encode character" ++ place ++ ": surrogates not allowed"

namespace HostText

/-- The number of bytes that encode the rest of a text, which begins at an
offset. -/
def utf8SizeFrom (position : Nat) : HostText → Except EncodingFailure Nat
  | [] => .ok 0
  | .character letter :: rest => do
      let size ← utf8SizeFrom (position + 1) rest
      return letter.utf8Size + size
  | .surrogate index :: rest =>
      .error
        { first := .surrogate index
          start := position
          more := (rest.takeWhile CodePoint.isSurrogate).length }

/-- The number of bytes that encode a text. -/
def utf8Size (text : HostText) : Except EncodingFailure Nat :=
  utf8SizeFrom 0 text

/-- The characters of a text. -/
def characters (text : HostText) : String :=
  String.ofList (text.filterMap CodePoint.toChar?)

/-- A text has a surrogate, so that it cannot be encoded. -/
def hasSurrogate (text : HostText) : Bool :=
  text.any CodePoint.isSurrogate

end HostText
end Templating
