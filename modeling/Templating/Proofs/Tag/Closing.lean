import Templating.Proofs.Text.Strings

/-!
# Where a tag ends

The scanner for the closing braces reads strings whole, and everything else character
by character. A tag therefore ends at the first closing braces that stand in no string
of it: those in a string never end it, and all others do.
-/

namespace Templating
namespace Tag

open Text (ClosesString Stretch Strings)

/-- From an offset on, a text is read up to its closing braces. The stretches are the
strings that are skipped on the way; in front of the braces stands the body of the tag,
and behind them the rest of the text. -/
inductive Closes :
    (position : Nat) → List Char → List Stretch → (body rest : List Char) → Prop
  | braces (position : Nat) (rest : List Char) :
      Closes position ('\x7d' :: '\x7d' :: rest) [] [] rest
  | plain
      {position : Nat}
      {character : Char}
      {text body rest : List Char}
      {skipped : List Stretch}
      (notQuote : character ≠ '\x22')
      (noBraces : ∀ others, character :: text ≠ '\x7d' :: '\x7d' :: others)
      (closes : Closes (position + 1) text skipped body rest) :
      Closes position (character :: text) skipped (character :: body) rest
  | string
      {position : Nat}
      {inside meaning text body rest : List Char}
      {skipped : List Stretch}
      (closed : ClosesString inside meaning)
      (closes : Closes (position + (inside.length + 1)) text skipped body rest) :
      Closes position ('\x22' :: (inside ++ text))
        (⟨position, '\x22' :: inside⟩ :: skipped) ('\x22' :: (inside ++ body)) rest

/-- What the scanner finds, it has read in these steps. -/
theorem closes_of_splitClosing?
    {text body rest : List Char}
    (found : splitClosing? false text = some (body, rest))
    (position : Nat) :
    ∃ skipped, Closes position text skipped body rest := by
  match text with
  | [] => cases found
  | character :: text =>
      by_cases braces : ∃ others, character :: text = '\x7d' :: '\x7d' :: others
      · obtain ⟨others, begins⟩ := braces
        rw [begins] at found ⊢
        cases found
        exact ⟨[], .braces position rest⟩
      · have noBraces : ∀ others, character :: text ≠ '\x7d' :: '\x7d' :: others :=
          fun others begins => braces ⟨others, begins⟩
        rw [splitClosing?] at found
        · obtain ⟨⟨others, last⟩, foundOthers, pair⟩ := Option.map_eq_some_iff.1 found
          cases pair
          by_cases isQuote : character = '\x22'
          · subst isQuote
            obtain ⟨inside, meaning, after, more, closed, isText, rfl, foundMore⟩ :=
              Text.closesString_of_splitClosing? foundOthers
            have shorter : after.length ≤ text.length := by
              rw [isText, List.length_append]
              omega
            obtain ⟨skipped, closes⟩ :=
              closes_of_splitClosing? foundMore (position + (inside.length + 1))
            rw [isText]
            exact ⟨_, .string closed closes⟩
          · rw [decide_eq_false isQuote] at foundOthers
            obtain ⟨skipped, closes⟩ := closes_of_splitClosing? foundOthers (position + 1)
            exact ⟨skipped, .plain isQuote noBraces closes⟩
        · intro others first begins
          exact noBraces others (by rw [first, begins])
termination_by text.length
decreasing_by
  · rw [List.length_cons]
    omega
  · simp

namespace Closes

variable {position : Nat} {text body rest : List Char} {skipped : List Stretch}

/-- What is read in these steps, the scanner finds. -/
theorem splitClosing?_eq (closes : Closes position text skipped body rest) :
    splitClosing? false text = some (body, rest) := by
  induction closes with
  | braces position rest => rw [splitClosing?]
  | plain notQuote noBraces closes inductionHypothesis =>
      rw [splitClosing?, decide_eq_false notQuote, inductionHypothesis]
      · rfl
      · intro others first begins
        exact noBraces others (by rw [first, begins])
  | string closed closes inductionHypothesis =>
      rw [splitClosing?, decide_eq_true rfl, closed.splitClosing?_append,
        inductionHypothesis]
      · rfl
      · simp

/-- The strings that are skipped are those of the body, and they are all closed. -/
theorem strings (closes : Closes position text skipped body rest) :
    Strings position body skipped := by
  induction closes with
  | braces position rest => exact .nil position
  | plain notQuote noBraces closes inductionHypothesis =>
      exact .plain notQuote inductionHypothesis
  | string closed closes inductionHypothesis => exact .string closed inductionHypothesis

theorem text_eq (closes : Closes position text skipped body rest) :
    text = body ++ '\x7d' :: '\x7d' :: rest :=
  (splitClosing?_append closes.splitClosing?_eq).symm

/-- Closing braces in front of those that end the tag stand inside a string. -/
theorem braces_in_string
    {before after : List Char}
    (closes : Closes position text skipped body rest)
    (braces : body ++ ['\x7d', '\x7d'] = before ++ '\x7d' :: '\x7d' :: after)
    (earlier : after ≠ []) :
    ∃ string ∈ skipped,
      string.position < position + before.length ∧
        position + before.length + 2 < string.ending := by
  induction closes generalizing before with
  | braces position rest =>
      have sizes := congrArg List.length braces
      simp only [List.length_append, List.length_cons, List.length_nil] at sizes
      exact absurd (List.eq_nil_of_length_eq_zero (by omega)) earlier
  | @plain position character text body rest skipped notQuote noBraces closes
      inductionHypothesis =>
      cases before with
      | nil =>
          obtain ⟨rfl, behind⟩ := List.cons.inj braces
          have begins : text = '\x7d' :: (after ++ rest) := by
            rw [closes.text_eq]
            simpa using congrArg (· ++ rest) behind
          exact absurd (by rw [begins]) (noBraces (after ++ rest))
      | cons first before =>
          obtain ⟨string, member, starts, ends⟩ :=
            inductionHypothesis (List.cons.inj braces).2
          refine ⟨string, member, ?_, ?_⟩
          · rw [List.length_cons]
            omega
          · rw [List.length_cons]
            omega
  | @string position inside meaning text body rest skipped closed closes
      inductionHypothesis =>
      cases before with
      | nil => cases (List.cons.inj braces).1
      | cons first before =>
          have behind :
              inside ++ (body ++ ['\x7d', '\x7d']) =
                before ++ '\x7d' :: '\x7d' :: after := by
            simpa using (List.cons.inj braces).2
          rcases List.append_eq_append_iff.1 behind with
            ⟨more, rfl, isBody⟩ | ⟨more, isInside, isBraces⟩
          · -- The braces stand behind the string.
            obtain ⟨string, member, starts, ends⟩ := inductionHypothesis isBody
            refine ⟨string, List.mem_cons_of_mem _ member, ?_, ?_⟩
            · rw [List.length_cons, List.length_append]
              omega
            · rw [List.length_cons, List.length_append]
              omega
          · -- They begin inside the string, so its closing quote is behind them.
            have last := closed.getLast?_eq
            rw [isInside, List.getLast?_append] at last
            match more with
            | [] =>
                have isBody :
                    body ++ ['\x7d', '\x7d'] = [] ++ '\x7d' :: '\x7d' :: after :=
                  isBraces.symm
                obtain ⟨string, member, starts, ends⟩ := inductionHypothesis isBody
                rw [List.append_nil] at isInside
                refine ⟨string, List.mem_cons_of_mem _ member, ?_, ?_⟩
                · rw [List.length_cons, ← isInside]
                  rw [List.length_nil] at starts
                  omega
                · rw [List.length_cons, ← isInside]
                  rw [List.length_nil] at ends
                  omega
            | [only] =>
                obtain ⟨rfl, -⟩ := List.cons.inj isBraces
                simp at last
            | [first, second] =>
                obtain ⟨-, others⟩ := List.cons.inj isBraces
                obtain ⟨rfl, -⟩ := List.cons.inj others
                simp at last
            | first :: second :: third :: more =>
                refine ⟨_, List.mem_cons_self, ?_, ?_⟩
                · simp only [List.length_cons]
                  omega
                · simp only [Stretch.ending, isInside, List.length_cons,
                    List.length_append]
                  omega

end Closes
end Tag
end Templating
