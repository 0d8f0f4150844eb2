import Templating.Proofs.Engine.Calling
import Templating.Proofs.Engine.Joining
import Templating.Proofs.Render.Looping
import Templating.Proofs.Template.Looping

/-!
# Engines and the variables of loops

A word that a loop tag takes for its variable is usable in the body when the expression
language reads it as a name and it is no keyword of a block; the name `loop` stands for
the state of the loop. With such a word, a loop that shows its variable gives the texts of
its items, one after another.
-/

namespace Templating
namespace Engine

open Template (loopText shown)

variable {σ : Type}

/-- The variable of a loop can be used in its body. When a loop without a body is accepted
and its variable is usable, the loop is accepted with a tag in its body that shows the
variable, and the tag is read as a reference to the variable. For all data it is rendered
when what it runs over has a value, the items of this value have texts, and they are
within the limits; what is rendered are these texts in the order of the items. -/
theorem loop_shows_items
    {engine : Engine σ}
    {name iterable variableName : String}
    {expr : Expr}
    {event : Event}
    (usable : isLoopVariable name = true)
    (parsed :
      engine.parse (loopText name iterable "") =
        .ok ([.loop variableName expr []], event)) :
    let source := loopText name iterable (shown name)
    (∃ event,
        engine.parse source =
          .ok ([.loop name expr [.rawOutput (.reference 0 name)]], event)) ∧
      ∀ (data : Scope) (host : σ) (output : String),
        (engine.render source data host).outcome = .ok output ↔
          ∃ value after texts,
            Render.evaluate engine.environment expr (.start data host) = .ok value after ∧
              (value.iterationItems.map Prod.snd).mapM Value.display = .ok texts ∧
              texts.length ≤ engine.limits.loopIterations ∧
              (String.join texts).utf8ByteSize ≤ engine.limits.outputSize ∧
              output = String.join texts := by
  obtain ⟨isName, notLoop, -⟩ := Template.isLoopVariable_iff.1 usable
  have nonempty := ne_nil_of_isFunctionName isName
  obtain ⟨⟨segments, template⟩, read, made⟩ := (bind_eq_ok ..).1 parsed
  cases made
  obtain ⟨-, loops⟩ :=
    Template.loops_of_parse nonempty (isWord_of_isFunctionName isName) read
  obtain ⟨others, shows⟩ := Template.parse_shown usable loops
  have accepted :
      engine.parse (loopText name iterable (shown name)) =
        .ok ([.loop name expr [.rawOutput (.reference 0 name)]], _) :=
    (bind_eq_ok ..).2 ⟨_, shows, rfl⟩
  refine ⟨⟨_, accepted⟩, fun data host output => ?_⟩
  exact (outcome_eq_ok accepted data host output).trans
    (Unbounded.renderTemplate_loop_shown engine.environment notLoop expr data host output)

/-- A tag takes a literal for the variable of a loop as it takes a name. -/
theorem loops_over_name
    {name : String}
    (oneOf : name = "x" ∨ name = "true")
    (known : String → Bool) :
    Template.Loops .standard known name "xs" (.reference 0 "xs") := by
  have reads : Expr.parse .standard known "xs" = .ok (.reference 0 "xs") :=
    Expr.parse_reference (by decide) (by decide)
  have binds :
      Tag.Binds (name.toList ++ " in xs".toList) name.toList "xs".toList := by
    refine ⟨[' '], [' '], "xs".toList, by simp, ⟨?_, ?_⟩,
      ⟨by simp, by simp [Text.isBlank]⟩, ⟨by simp, by simp [Text.isBlank]⟩, by decide, rfl⟩
    · rcases oneOf with rfl | rfl <;> decide
    · rcases oneOf with rfl | rfl <;> exact List.all_eq_true.1 (by decide)
  rcases oneOf with rfl | rfl
  · exact ⟨.ofPlain (by decide) (by decide), by decide, by decide, "x in xs", _, rfl,
      binds, reads⟩
  · exact ⟨.ofPlain (by decide) (by decide), by decide, by decide, "true in xs", _, rfl,
      binds, reads⟩

/-- A loop over a list of two texts that shows its variable. -/
theorem loop_shows_items_list :
    let engine : Engine Unit := .create .empty .standard
    let data : Scope := [("xs", .list [.string "a", .string "b"])]
    isLoopVariable "x" = true ∧
      (∃ event,
        engine.parse (loopText "x" "xs" "") =
          .ok ([.loop "x" (.reference 0 "xs") []], event)) ∧
      (engine.render (loopText "x" "xs" (shown "x")) data ()).outcome = .ok "ab" := by
  intro engine data
  obtain ⟨segments, bare⟩ :=
    @Template.parse_loop _ _ _ _ _ "" [] []
      (loops_over_name (.inl rfl) engine.registry.has) .nil .nil (by decide)
  have parsed :
      engine.parse (loopText "x" "xs" "") =
        .ok ([.loop "x" (.reference 0 "xs") []], _) :=
    (bind_eq_ok ..).2 ⟨_, bare, rfl⟩
  obtain ⟨-, renders⟩ := loop_shows_items (by decide) parsed
  refine ⟨by decide, ⟨_, parsed⟩, ?_⟩
  exact (renders data () "ab").2
    ⟨.list [.string "a", .string "b"], .start data (), ["a", "b"], rfl, by rfl, by decide,
      by decide, by decide⟩

/-- A loop whose variable is a literal is accepted, and its body shows the literal in
place of the items. -/
theorem loop_shows_literal :
    let engine : Engine Unit := .create .empty .standard
    let list : Value := .list [.string "a", .string "b"]
    let data : Scope := [("xs", list)]
    (∃ segments,
        Segment.ofTemplate .standard (loopText "true" "xs" (shown "true")) =
          .ok segments) ∧
      (∃ event,
        engine.parse (loopText "true" "xs" "") =
          .ok ([.loop "true" (.reference 0 "xs") []], event)) ∧
      (∃ after,
        Render.evaluate engine.environment (.reference 0 "xs") (.start data ()) =
          .ok list after) ∧
      (list.iterationItems.map Prod.snd).mapM Value.display = .ok ["a", "b"] ∧
      (engine.render (loopText "true" "xs" (shown "true")) data ()).outcome =
        .ok "truetrue" := by
  intro engine list data
  have loops := loops_over_name (.inr rfl) engine.registry.has
  obtain ⟨segments, bare⟩ := @Template.parse_loop _ _ _ _ _ "" [] [] loops .nil .nil
    (by decide)
  have reads :
      Expr.parse .standard engine.registry.has "true" = .ok (.boolean 0 true) := by
    with_unfolding_all rfl
  have yields :=
    @Template.yields_shown .standard "true" (by decide) (List.all_eq_true.1 (by decide))
      (by decide)
  obtain ⟨others, shows⟩ :=
    @Template.parse_loop _ _ _ _ _ (shown "true") _ [.rawOutput (.boolean 0 true)] loops
      (yields _ _) (.cons (.rawOutput _ reads) .nil) (by decide)
  obtain ⟨lexed, -⟩ := Template.spelled_of_parseWithSegments shows
  have accepted :
      engine.parse (loopText "true" "xs" (shown "true")) =
        .ok ([.loop "true" (.reference 0 "xs") [.rawOutput (.boolean 0 true)]], _) :=
    (bind_eq_ok ..).2 ⟨_, shows, rfl⟩
  refine ⟨⟨others, lexed⟩, ⟨_, (bind_eq_ok ..).2 ⟨_, bare, rfl⟩⟩, ⟨_, rfl⟩, rfl,
    ?_⟩
  rw [(render_of_template accepted data ()).1]
  decide +kernel

end Engine
end Templating
