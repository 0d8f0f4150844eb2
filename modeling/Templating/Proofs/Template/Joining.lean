import Templating.Proofs.Segment.Joining
import Templating.Proofs.Template.Sources

/-!
# The templates of joined texts

Two templates that stand one behind the other are one template. Its nodes are those of
the first and those of the second, but text at the end of the first and at the front of
the second is one node. Blocks are nested as deep as in either of the two.
-/

namespace Templating

/-- A template behind another one. Text at the end of the first and at the front of the
second becomes one text. -/
def Template.join : Template → Template → Template
  | [], other => other
  | [.text content], .text further :: rest => .text (content ++ further) :: rest
  | node :: rest, other => node :: join rest other

/-- Two nodes that are not both text stay apart. -/
theorem Template.join_cons
    {node : Node}
    {rest other : Template}
    (apart :
      (∀ content, node ≠ .text content) ∨ rest ≠ [] ∨
        ∀ content behind, other ≠ .text content :: behind) :
    join (node :: rest) other = node :: join rest other := by
  rw [join]
  rintro content further behind rfl rfl rfl
  simp at apart

theorem Template.blockDepth_join (template other : Template) :
    (join template other).blockDepth = max template.blockDepth other.blockDepth := by
  fun_induction join template other with
  | case1 other => simp [blockDepth, Node.blockDepthAll]
  | case2 content further rest => simp [blockDepth, Node.blockDepthAll, Node.blockDepth]
  | case3 node rest other apart inductionHypothesis =>
      simp only [blockDepth, Node.blockDepthAll] at inductionHypothesis ⊢
      rw [inductionHypothesis, max_assoc]

variable {context : AssemblyContext}

mutual

/-- The same segments write a node when they stand further behind, in another text. -/
theorem Node.Spelled.shift
    {node : Node}
    {segments : List Segment}
    (spelled : node.Spelled context segments)
    (source : Option String)
    (offset : Nat) :
    node.Spelled { context with source } (segments.map (Segment.shift offset)) := by
  cases spelled with
  | text content position => exact .text content _
  | output position reads => exact .output _ reads
  | rawOutput position reads => exact .rawOutput _ reads
  | conditional position reads bodySpelled branchesSpelled =>
      rw [List.map_cons, List.map_append]
      exact .conditional _ reads (bodySpelled.shift source offset)
        (branchesSpelled.shift source offset)
  | loop position closingPosition binds reads bodySpelled =>
      rw [List.map_cons, List.map_append]
      exact .loop _ _ binds reads (bodySpelled.shift source offset)

/-- The same segments write branches when they stand further behind. -/
theorem Branches.Spelled.shift
    {branches : Branches}
    {segments : List Segment}
    (spelled : branches.Spelled context segments)
    (source : Option String)
    (offset : Nat) :
    branches.Spelled { context with source } (segments.map (Segment.shift offset)) := by
  cases spelled with
  | done content position => exact .done content _
  | elif position reads bodySpelled branchesSpelled =>
      rw [List.map_cons, List.map_append]
      exact .elif _ reads (bodySpelled.shift source offset)
        (branchesSpelled.shift source offset)
  | otherwise content closingContent position closingPosition bodySpelled =>
      rw [List.map_cons, List.map_append]
      exact .otherwise content closingContent _ _ (bodySpelled.shift source offset)

/-- The same segments write several nodes when they stand further behind. -/
theorem Node.AllSpelled.shift
    {nodes : List Node}
    {segments : List Segment}
    (spelled : Node.AllSpelled context nodes segments)
    (source : Option String)
    (offset : Nat) :
    Node.AllSpelled { context with source } nodes
      (segments.map (Segment.shift offset)) := by
  cases spelled with
  | nil => exact .nil
  | cons nodeSpelled othersSpelled =>
      rw [List.map_append]
      exact .cons (nodeSpelled.shift source offset) (othersSpelled.shift source offset)

end

/-- Branches end with a tag. -/
theorem Branches.Spelled.exists_append
    {branches : Branches}
    {segments : List Segment}
    (spelled : branches.Spelled context segments) :
    ∃ front last, segments = front ++ [last] ∧ last.kind ≠ .text := by
  cases spelled with
  | done content position => exact ⟨[], _, rfl, nofun⟩
  | elif position reads bodySpelled branchesSpelled =>
      obtain ⟨front, last, rfl, isTag⟩ := branchesSpelled.exists_append
      exact ⟨_ :: (_ ++ front), last,
        congrArg (List.cons _) (List.append_assoc ..).symm, isTag⟩
  | otherwise content closingContent position closingPosition bodySpelled =>
      exact ⟨_ :: _, _, rfl, nofun⟩

/-- A node other than text ends with a tag. -/
theorem Node.Spelled.exists_append
    {node : Node}
    {segments : List Segment}
    (spelled : node.Spelled context segments)
    (isTag : ∀ content, node ≠ .text content) :
    ∃ front last, segments = front ++ [last] ∧ last.kind ≠ .text := by
  cases spelled with
  | text content position => exact absurd rfl (isTag content)
  | output position reads => exact ⟨[], _, rfl, nofun⟩
  | rawOutput position reads => exact ⟨[], _, rfl, nofun⟩
  | conditional position reads bodySpelled branchesSpelled =>
      obtain ⟨front, last, rfl, isTag⟩ := branchesSpelled.exists_append
      exact ⟨_ :: (_ ++ front), last,
        congrArg (List.cons _) (List.append_assoc ..).symm, isTag⟩
  | loop position closingPosition binds reads bodySpelled =>
      exact ⟨_ :: _, _, rfl, nofun⟩

theorem Node.AllSpelled.ne_nil
    {nodes : List Node}
    {segments : List Segment}
    (spelled : Node.AllSpelled context nodes segments)
    (nonempty : nodes ≠ []) :
    segments ≠ [] := by
  cases spelled with
  | nil => exact absurd rfl nonempty
  | cons nodeSpelled othersSpelled => cases nodeSpelled <;> exact List.cons_ne_nil _ _

/-- Text in front of several nodes is written by its segment in front of theirs. -/
theorem Node.AllSpelled.join_text
    {nodes : List Node}
    {segments : List Segment}
    (spelled : Node.AllSpelled context nodes segments)
    (content : String)
    (position : Int) :
    Node.AllSpelled context (Template.join [.text content] nodes)
      (Segment.join [⟨.text, content, position⟩] segments) := by
  have text : Node.Spelled context (.text content) [⟨.text, content, position⟩] :=
    .text content position
  have apart := Node.AllSpelled.cons text spelled
  cases spelled with
  | nil => exact apart
  | cons nodeSpelled othersSpelled =>
      cases nodeSpelled with
      | text further start =>
          exact .cons (.text (content ++ further) position) othersSpelled
      | _ => exact apart

/-- The segments of several nodes, joined with those of further nodes, write all of
them. -/
theorem Node.AllSpelled.join
    {nodes others : List Node}
    {segments more : List Segment}
    (spelled : Node.AllSpelled context nodes segments)
    (further : Node.AllSpelled context others more) :
    Node.AllSpelled context (Template.join nodes others) (Segment.join segments more) := by
  cases spelled with
  | nil => exact further
  | @cons node rest _ _ nodeSpelled restSpelled =>
      have joined := restSpelled.join further
      by_cases isTag : ∀ content, node ≠ .text content
      · obtain ⟨front, last, rfl, lastIsTag⟩ := nodeSpelled.exists_append isTag
        rw [Template.join_cons (.inl isTag), List.append_assoc, List.singleton_append,
          Segment.join_append lastIsTag, List.append_cons]
        exact .cons nodeSpelled joined
      · obtain ⟨content, isText⟩ := not_forall_not.1 isTag
        subst isText
        cases nodeSpelled with
        | text content position =>
            -- Only the last node can meet what follows.
            by_cases isLast : rest = []
            · subst isLast
              cases restSpelled
              exact further.join_text content position
            · rw [Template.join_cons (.inr (.inl isLast)), List.singleton_append,
                Segment.join_cons (.inr (.inl (restSpelled.ne_nil isLast)))]
              exact .cons (.text content position) joined

namespace Template

variable {limits : Limits} {known : String → Bool} {source other : String}

/-- A text behind another one is parsed to its template behind that of the other. -/
theorem parseWithSegments_join
    {segments others : List Segment}
    {template behind : Template}
    (parsed : parseWithSegments limits known source = .ok (segments, template))
    (further : parseWithSegments limits known other = .ok (others, behind))
    (apart : ¬Tag.BracesMeet source.toList other.toList) :
    parseWithSegments limits known (source ++ other) =
      .ok
        (Segment.join segments (others.map (Segment.shift source.toList.length)),
          template.join behind) := by
  obtain ⟨lexed, spelled, fits⟩ := spelled_of_parseWithSegments parsed
  obtain ⟨furtherLexed, furtherSpelled, furtherFits⟩ :=
    spelled_of_parseWithSegments further
  have cuts := (Segment.cuts_of_lexFrom lexed).join
    ((Segment.cuts_of_lexFrom furtherLexed).shift source.toList.length) apart
  rw [← String.toList_append] at cuts
  have spelledHere := spelled.shift (some (source ++ other)) 0
  rw [Segment.map_shift_zero] at spelledHere
  have spelledBehind :=
    furtherSpelled.shift (some (source ++ other)) source.toList.length
  refine parseWithSegments_of_cuts cuts
    (ofSegments_of_allSpelled (spelledHere.join spelledBehind) ?_)
  rw [blockDepth_join]
  exact max_le fits furtherFits

end Template
end Templating
