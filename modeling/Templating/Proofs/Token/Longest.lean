import Templating.Proofs.Outcome
import Templating.Proofs.Token.Lexemes

/-!
# The longest lexemes of a text

An expression is read from left to right: blanks, then the longest lexeme that stands
there, and so on. The tokens of a text are these lexemes with their offsets. A text that
cannot be read to its end is read up to the place where no lexeme can be taken, and the
error stands there.
-/

namespace Templating
namespace Token

variable {source : String} {start stop : Nat} {text rest : List Char} {tokens : List Token}

/-- From an offset on, a text is read as tokens up to another offset, and there a rest
begins. Blanks are read over, and every token is the longest lexeme that stands at its
offset. -/
inductive Reads : (start : Nat) → List Char → List Token → (stop : Nat) → List Char → Prop
  | done (start : Nat) (rest : List Char) : Reads start rest [] start rest
  | blank
      {start stop : Nat}
      {first : Char}
      {others rest : List Char}
      {tokens : List Token}
      (isBlank : Text.isBlank first = true)
      (reads : Reads (start + 1) others tokens stop rest) :
      Reads start (first :: others) tokens stop rest
  | token
      {start stop : Nat}
      {spelling carried behind rest : List Char}
      {kind : TokenKind}
      {tokens : List Token}
      (lexical : Lexical spelling kind carried)
      (longest : Longest spelling (spelling ++ behind))
      (reads : Reads (start + spelling.length) behind tokens stop rest) :
      Reads start (spelling ++ behind) (⟨kind, String.ofList carried, start⟩ :: tokens)
        stop rest

/-- The error of a text in which no token can be read at an offset. -/
def failure (source : String) (cause : TokenCause) (position : Nat) : Error where
  cause := .token cause
  position := some position
  source := some source

/-- No lexeme begins with a blank. -/
theorem visible_of_lexeme
    {first : Char}
    {found : Lexeme}
    (read : lexeme first rest = .ok found) :
    Text.isBlank first = false := by
  by_contra blank
  simp only [Bool.not_eq_false, Text.isBlank, Bool.or_eq_true, decide_eq_true_eq] at blank
  rcases blank with ((((rfl | rfl) | rfl) | rfl) | rfl) | rfl <;> cases read

/-- A lexeme that is the longest one at the front of a text is scanned there. -/
theorem Lexical.scanFrom_append
    {spelling carried behind : List Char}
    {kind : TokenKind}
    (lexical : Lexical spelling kind carried)
    (longest : Longest spelling (spelling ++ behind))
    (source : String)
    (start : Nat) :
    scanFrom source start (spelling ++ behind) = do
      let others ← scanFrom source (start + spelling.length) behind
      return ⟨kind, String.ofList carried, start⟩ :: others := by
  obtain ⟨first, more, _, rfl, -⟩ := lexical.reaches behind
  have read : lexeme first (more ++ behind) = .ok ⟨kind, carried, more.length⟩ :=
    lexeme_eq_ok_iff.2 ⟨more, behind, rfl, rfl, lexical, longest⟩
  have visible := visible_of_lexeme read
  rw [List.cons_append, scanFrom, if_neg (by simp [visible]), read]
  simp only [List.drop_left, List.length_cons, Nat.add_assoc, Nat.add_comm 1]

/-- Where no token can be read, the scanner fails. -/
theorem scanFrom_of_stuck
    {cause : TokenCause}
    (stuck : Stuck cause text)
    (source : String)
    (start : Nat) :
    scanFrom source start text = .error (failure source cause start) := by
  obtain ⟨first, others, rfl, visible⟩ :
      ∃ first others, text = first :: others ∧ Text.isBlank first = false := by
    cases stuck with
    | unterminated unclosed => exact ⟨_, _, rfl, rfl⟩
    | unexpected visible notQuote noLexeme => exact ⟨_, _, rfl, visible⟩
  rw [scanFrom, if_neg (by simp [visible]), (lexeme_eq_error_iff visible).2 stuck]
  rfl

/-- Tokens are scanned one behind the other. -/
theorem Reads.scanFrom_eq
    (reads : Reads start text tokens stop rest)
    (source : String) :
    scanFrom source start text = do
      let others ← scanFrom source stop rest
      return tokens ++ others := by
  induction reads with
  | done start rest => cases scanFrom source start rest <;> rfl
  | blank isBlank reads inductionHypothesis =>
      rw [scanFrom, if_pos isBlank, inductionHypothesis]
  | @token start stop spelling carried behind rest kind tokens lexical longest reads
      inductionHypothesis =>
      rw [lexical.scanFrom_append longest, inductionHypothesis]
      cases scanFrom source stop rest <;> rfl

/-- What becomes of a text from an offset on: it is read to its end, or up to where no
token can be read. -/
inductive Scanned (source : String) (start : Nat) (text : List Char) : Prop
  | whole
      {tokens : List Token}
      {stop : Nat}
      (scanned : scanFrom source start text = .ok tokens)
      (reads : Reads start text tokens stop [])
  | upTo
      {tokens : List Token}
      {stop : Nat}
      {rest : List Char}
      {cause : TokenCause}
      (failed : scanFrom source start text = .error (failure source cause stop))
      (reads : Reads start text tokens stop rest)
      (stuck : Stuck cause rest)

theorem scanned (source : String) (start : Nat) (text : List Char) :
    Scanned source start text := by
  fun_induction scanFrom source start text with
  | case1 start => exact .whole (by rw [scanFrom]) (.done start [])
  | case2 start first rest blank inductionHypothesis =>
      have step :
          scanFrom source start (first :: rest) = scanFrom source (start + 1) rest := by
        rw [scanFrom, if_pos blank]
      cases inductionHypothesis with
      | whole scanned reads => exact .whole (step.trans scanned) (.blank blank reads)
      | upTo failed reads stuck =>
          exact .upTo (step.trans failed) (.blank blank reads) stuck
  | case3 start first rest visible cause failed =>
      have stuck := (lexeme_eq_error_iff (eq_false_of_ne_true visible)).1 failed
      exact .upTo (scanFrom_of_stuck stuck source start) (.done start _) stuck
  | case4 start first rest visible found read inductionHypothesis =>
      obtain ⟨more, behind, rfl, size, lexical, longest⟩ := lexeme_eq_ok_iff.1 read
      have step := lexical.scanFrom_append longest source start
      rw [size, List.drop_left, Nat.add_assoc, Nat.add_comm 1] at inductionHypothesis
      cases inductionHypothesis with
      | whole scanned reads =>
          rw [List.length_cons, scanned] at step
          exact .whole step (.token lexical longest reads)
      | upTo failed reads stuck =>
          rw [List.length_cons, failed] at step
          exact .upTo step (.token lexical longest reads) stuck

/-- What is read stands in front of the rest, and on its own it is read in the same way. -/
theorem Reads.exists_front (reads : Reads start text tokens stop rest) :
    ∃ front,
      text = front ++ rest ∧ stop = start + front.length ∧
        Reads start front tokens stop [] := by
  induction reads with
  | done start rest => exact ⟨[], rfl, rfl, .done start []⟩
  | @blank start stop first others rest tokens isBlank reads inductionHypothesis =>
      obtain ⟨front, rfl, rfl, readsFront⟩ := inductionHypothesis
      refine ⟨first :: front, rfl, ?_, .blank isBlank readsFront⟩
      rw [List.length_cons]
      omega
  | @token start stop spelling carried behind rest kind tokens lexical longest reads
      inductionHypothesis =>
      obtain ⟨front, rfl, rfl, readsFront⟩ := inductionHypothesis
      refine ⟨spelling ++ front, by rw [List.append_assoc],
        by rw [List.length_append, Nat.add_assoc], .token lexical ?_ readsFront⟩
      -- There are no other lexemes in front of a part of the text.
      intro other kind meaning otherLexical isFront
      refine longest other kind meaning otherLexical (isFront.trans ?_)
      rw [← List.append_assoc]
      exact List.prefix_append _ _

theorem scan_eq_scanFrom
    {limits : Limits}
    (short : source.toList.length ≤ limits.expressionLength) :
    scan limits source = scanFrom source 0 source.toList := by
  rw [scan, (Limits.checkLength_eq_ok ..).2 short]
  rfl

/-- What has been read in front of a rest is scanned on its own. -/
theorem Reads.scan_take
    {limits : Limits}
    (reads : Reads 0 source.toList tokens stop rest)
    (short : source.toList.length ≤ limits.expressionLength) :
    scan limits (String.ofList (source.toList.take stop)) = .ok tokens := by
  obtain ⟨front, whole, rfl, readsFront⟩ := reads.exists_front
  rw [whole, List.length_append] at short
  rw [whole, Nat.zero_add, List.take_left]
  have shorter : (String.ofList front).toList.length ≤ limits.expressionLength := by
    rw [String.toList_ofList]
    omega
  rw [scan_eq_scanFrom shorter, String.toList_ofList, readsFront.scanFrom_eq, scanFrom]
  exact congrArg Except.ok (List.append_nil tokens)

/-- The tokens of an expression are the longest lexemes, with blanks between them, and the
last one ends at the end of the text or in front of the last blanks. An expression is
rejected exactly when such lexemes reach up to a string that is not closed or a character
that begins no lexeme. The error stands there, and the text in front of it is accepted on
its own. -/
theorem scan_reads
    (limits : Limits)
    (source : String)
    (short : source.toList.length ≤ limits.expressionLength) :
    (∀ tokens,
      scan limits source = .ok tokens ↔
        Reads 0 source.toList tokens source.length []) ∧
      ∀ error,
        scan limits source = .error error ↔
          ∃ tokens stop rest cause,
            Reads 0 source.toList tokens stop rest ∧ Stuck cause rest ∧
              scan limits (String.ofList (source.toList.take stop)) = .ok tokens ∧
                error = failure source cause stop := by
  have outcome := scanned source 0 source.toList
  rw [scan_eq_scanFrom short]
  refine ⟨fun tokens => ⟨fun found => ?_, fun reads => ?_⟩,
    fun error => ⟨fun failed => ?_, ?_⟩⟩
  · cases outcome with
    | upTo failed reads stuck => cases found.symm.trans failed
    | whole scanned reads =>
        cases found.symm.trans scanned
        obtain ⟨front, whole, rfl, -⟩ := reads.exists_front
        rw [List.append_nil] at whole
        rwa [← whole, Nat.zero_add, String.length_toList] at reads
  · have whole := reads.scanFrom_eq source
    rw [scanFrom] at whole
    simpa using whole
  · cases outcome with
    | whole scanned reads => cases failed.symm.trans scanned
    | upTo found reads stuck =>
        cases failed.symm.trans found
        exact ⟨_, _, _, _, reads, stuck, reads.scan_take short, rfl⟩
  · rintro ⟨tokens, stop, rest, cause, reads, stuck, -, rfl⟩
    have whole := reads.scanFrom_eq source
    rwa [scanFrom_of_stuck stuck] at whole

/-- A point without decimals is a token of its own, and an operator of two characters is
one token. -/
theorem scan_reads_point :
    Reads 0 "1.>=".toList [⟨.number, "1", 0⟩, ⟨.dot, ".", 1⟩,
      ⟨.relation (.order .atLeast), ">=", 2⟩] 4 [] := by
  refine ((scan_reads .standard "1.>=" (by decide)).1 _).1 ?_
  rw [scan_eq_scanFrom (by decide)]
  change scanFrom _ 0 ['1', '.', '>', '='] = _
  simp [scanFrom, lexeme, Text.isBlank, doubleOperator?, singleOperator?, numberRest]

end Token
end Templating
