import Templating.Proofs.Outcome
import Templating.Token.Scanner

/-!
# The order of tokens

The tokens of a text come in the order of their offsets, and no two of them begin at
the same one. There are no more of them than characters.
-/

namespace Templating
namespace Token

/-- The tokens of the rest of a text begin behind its offset, one after the other. -/
theorem pairwise_of_scanFrom
    {source : String}
    {position : Nat}
    {text : List Char}
    {tokens : List Token}
    (scanned : scanFrom source position text = .ok tokens) :
    (∀ token ∈ tokens, position ≤ token.position) ∧
      tokens.Pairwise fun token other => token.position < other.position := by
  fun_induction scanFrom source position text generalizing tokens with
  | case1 =>
      cases scanned
      simp
  | case2 position first rest blank inductionHypothesis =>
      obtain ⟨behind, ordered⟩ := inductionHypothesis scanned
      exact ⟨fun token member => Nat.le_of_succ_le (behind token member), ordered⟩
  | case3 => cases scanned
  | case4 position first rest visible found read inductionHypothesis =>
      obtain ⟨others, scannedOthers, made⟩ := (bind_eq_ok ..).1 scanned
      cases made
      obtain ⟨behind, ordered⟩ := inductionHypothesis scannedOthers
      constructor
      · refine List.forall_mem_cons.2 ⟨Nat.le_refl _, fun token member => ?_⟩
        have later := behind token member
        omega
      · refine List.pairwise_cons.2 ⟨fun token member => ?_, ordered⟩
        have later := behind token member
        dsimp only
        omega

/-- Every token takes a character at least. -/
theorem length_le_of_scanFrom
    {source : String}
    {position : Nat}
    {text : List Char}
    {tokens : List Token}
    (scanned : scanFrom source position text = .ok tokens) :
    tokens.length ≤ text.length := by
  fun_induction scanFrom source position text generalizing tokens with
  | case1 =>
      cases scanned
      exact Nat.le_refl 0
  | case2 position first rest blank inductionHypothesis =>
      exact Nat.le_succ_of_le (inductionHypothesis scanned)
  | case3 => cases scanned
  | case4 position first rest visible found read inductionHypothesis =>
      obtain ⟨others, scannedOthers, made⟩ := (bind_eq_ok ..).1 scanned
      cases made
      have behind := inductionHypothesis scannedOthers
      rw [List.length_drop] at behind
      simp only [List.length_cons]
      omega

end Token
end Templating
