import Mathlib.Data.List.Infix
import Templating.Tag

/-!
# The first closing braces outside of strings

Read from its front, a text is at every offset outside of strings, inside of one, or
there behind a backslash. The closing braces of a tag are the first ones that stand
outside, and a tag without such braces is not closed.
-/

namespace Templating
namespace Tag

/-- Where an offset of a text is. -/
inductive Quotation
  | outside
  | inside
  /-- In a string behind a backslash, which takes the meaning from the next character. -/
  | escaped
  deriving DecidableEq

/-- Where the offset behind a character is. -/
def Quotation.behind : Quotation → Char → Quotation
  | .outside, '\x22' => .inside
  | .outside, _ => .outside
  | .inside, '\x22' => .outside
  | .inside, '\x5c' => .escaped
  | .inside, _ => .inside
  | .escaped, _ => .inside

/-- Where the end of a text is. -/
def quotation (text : List Char) : Quotation :=
  text.foldl Quotation.behind .outside

/-- Behind a front of a text stand closing braces that are in no string. -/
structure ClosesBehind (front text : List Char) : Prop where
  braces : front ++ ['\x7d', '\x7d'] <+: text
  outside : quotation front = .outside

/-- Of the closing braces of a text that are in no string, the first ones stand behind
this front. -/
structure EndsBehind (front text : List Char) : Prop extends ClosesBehind front text where
  first : ∀ {other : List Char}, ClosesBehind other text → front.length ≤ other.length

/-- The scanner for closing braces is outside of strings or inside. -/
def Quotation.ofScanner (inString : Bool) : Quotation :=
  if inString then .inside else .outside

@[simp] theorem Quotation.ofScanner_false : ofScanner false = .outside := rfl

@[simp] theorem Quotation.ofScanner_true : ofScanner true = .inside := rfl

theorem Quotation.outside_behind (character : Char) :
    Quotation.outside.behind character = ofScanner (character = '\x22') := by
  unfold behind ofScanner
  split <;> simp_all

/-- Only at its end, a text may hold a backslash that takes no meaning. -/
theorem Quotation.inside_behind
    {character : Char}
    (notBackslash : character ≠ '\x5c') :
    Quotation.inside.behind character = ofScanner (character ≠ '\x22') := by
  unfold behind ofScanner
  split <;> simp_all

/-- A backslash that takes the meaning from a character has one behind it. -/
theorem ne_backslash_of_unescaped
    {character : Char}
    {text : List Char}
    (nonempty : text ≠ [])
    (unescaped : ∀ next others, character = '\x5c' → text = next :: others → False) :
    character ≠ '\x5c' := by
  obtain ⟨next, others, rfl⟩ := List.exists_cons_of_ne_nil nonempty
  exact fun isBackslash => unescaped next others isBackslash rfl

/-- What the scanner splits off ends outside of strings. -/
theorem outside_of_splitClosing?
    {inString : Bool}
    {text body rest : List Char}
    (found : splitClosing? inString text = some (body, rest)) :
    body.foldl Quotation.behind (.ofScanner inString) = .outside := by
  fun_induction splitClosing? inString text generalizing body with
  | case1 => cases found
  | case2 rest =>
      cases found
      rfl
  | case3 character text noBraces inductionHypothesis =>
      obtain ⟨⟨inner, last⟩, foundInner, pair⟩ := Option.map_eq_some_iff.1 found
      cases pair
      simpa [Quotation.outside_behind] using inductionHypothesis foundInner
  | case4 character text inductionHypothesis =>
      obtain ⟨⟨inner, last⟩, foundInner, pair⟩ := Option.map_eq_some_iff.1 found
      cases pair
      simpa [Quotation.behind] using inductionHypothesis foundInner
  | case5 character text unescaped inductionHypothesis =>
      obtain ⟨⟨inner, last⟩, foundInner, pair⟩ := Option.map_eq_some_iff.1 found
      cases pair
      have nonempty : text ≠ [] := by
        rintro rfl
        cases foundInner
      have notBackslash := ne_backslash_of_unescaped nonempty unescaped
      simpa [Quotation.inside_behind notBackslash] using inductionHypothesis foundInner

/-- The scanner does not read over closing braces that are outside of strings. -/
theorem exists_splitClosing?
    {inString : Bool}
    {text front behind : List Char}
    (braces : text = front ++ '\x7d' :: '\x7d' :: behind)
    (outside : front.foldl Quotation.behind (.ofScanner inString) = .outside) :
    ∃ body rest,
      splitClosing? inString text = some (body, rest) ∧ body.length ≤ front.length := by
  fun_induction splitClosing? inString text generalizing front with
  | case1 => simp at braces
  | case2 rest => exact ⟨[], rest, rfl, Nat.zero_le _⟩
  | case3 character text noBraces inductionHypothesis =>
      cases front with
      | nil =>
          obtain ⟨first, second⟩ := List.cons.inj braces
          exact absurd second (noBraces behind first)
      | cons first front =>
          obtain ⟨rfl, others⟩ := List.cons.inj braces
          rw [List.foldl_cons, Quotation.ofScanner_false, Quotation.outside_behind]
            at outside
          obtain ⟨body, rest, found, shorter⟩ := inductionHypothesis others outside
          exact ⟨character :: body, rest, by rw [found]; rfl, Nat.succ_le_succ shorter⟩
  | case4 character text inductionHypothesis =>
      rcases front with _ | ⟨first, _ | ⟨second, front⟩⟩
      · cases outside
      · obtain ⟨rfl, -⟩ := List.cons.inj braces
        cases outside
      · obtain ⟨rfl, behindFirst⟩ := List.cons.inj braces
        obtain ⟨rfl, others⟩ := List.cons.inj behindFirst
        obtain ⟨body, rest, found, shorter⟩ := inductionHypothesis others outside
        exact ⟨'\x5c' :: character :: body, rest, by rw [found]; rfl,
          Nat.succ_le_succ (Nat.succ_le_succ shorter)⟩
  | case5 character text unescaped inductionHypothesis =>
      cases front with
      | nil => cases outside
      | cons first front =>
          obtain ⟨rfl, others⟩ := List.cons.inj braces
          have nonempty : text ≠ [] := by
            rw [others]
            simp
          have notBackslash := ne_backslash_of_unescaped nonempty unescaped
          rw [List.foldl_cons, Quotation.ofScanner_true,
            Quotation.inside_behind notBackslash] at outside
          obtain ⟨body, rest, found, shorter⟩ := inductionHypothesis others outside
          exact ⟨character :: body, rest, by rw [found]; rfl, Nat.succ_le_succ shorter⟩

theorem closesBehind_iff {front text : List Char} :
    ClosesBehind front text ↔
      quotation front = .outside ∧
        ∃ behind, text = front ++ '\x7d' :: '\x7d' :: behind := by
  constructor
  · rintro ⟨⟨behind, rfl⟩, outside⟩
    exact ⟨outside, behind, by simp⟩
  · rintro ⟨outside, behind, rfl⟩
    exact ⟨⟨behind, by simp⟩, outside⟩

/-- The scanner finds the first closing braces that are in no string. -/
theorem splitClosing?_eq_some_iff {text body rest : List Char} :
    splitClosing? false text = some (body, rest) ↔
      text = body ++ '\x7d' :: '\x7d' :: rest ∧ EndsBehind body text := by
  constructor
  · intro found
    have whole := (splitClosing?_append found).symm
    have closes := closesBehind_iff.2 ⟨outside_of_splitClosing? found, rest, whole⟩
    refine ⟨whole, closes, fun {other} otherCloses => ?_⟩
    obtain ⟨outside, behind, braces⟩ := closesBehind_iff.1 otherCloses
    obtain ⟨first, last, foundFirst, shorter⟩ :=
      @exists_splitClosing? false _ _ _ braces outside
    cases found.symm.trans foundFirst
    exact shorter
  · rintro ⟨whole, ends⟩
    obtain ⟨other, behind, found, shorter⟩ :=
      @exists_splitClosing? false _ _ _ whole ends.outside
    have braces := (splitClosing?_append found).symm
    have closes := closesBehind_iff.2 ⟨outside_of_splitClosing? found, behind, braces⟩
    have longer := ends.first closes
    obtain ⟨rfl, last⟩ :=
      List.append_inj (whole.symm.trans braces) (Nat.le_antisymm longer shorter)
    cases last
    exact found

/-- The scanner finds nothing in a text without such braces. -/
theorem splitClosing?_eq_none_iff {text : List Char} :
    splitClosing? false text = none ↔ ∀ front, ¬ClosesBehind front text := by
  constructor
  · intro unclosed front closes
    obtain ⟨outside, behind, braces⟩ := closesBehind_iff.1 closes
    obtain ⟨body, rest, found, -⟩ := @exists_splitClosing? false _ _ _ braces outside
    cases unclosed.symm.trans found
  · intro none
    cases found : splitClosing? false text with
    | none => rfl
    | some pair =>
        obtain ⟨body, rest⟩ := pair
        exact absurd (splitClosing?_eq_some_iff.1 found).2.toClosesBehind (none body)

end Tag
end Templating
