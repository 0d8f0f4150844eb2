import Templating.Proofs.Render.Coincidence
import Templating.Proofs.Render.Emission

/-!
# The run of a loop that shows its variable

In every iteration the variable of a loop stands for the item of this iteration, whatever
else has the name outside of the loop. A loop whose body shows the variable therefore
shows the items one after another. Evaluating what it runs over begins no iteration and
emits nothing, so the loop is within the limits when this evaluation, the number of the
items and the size of their texts are.
-/

namespace Templating
namespace Unbounded

variable {σ α : Type} {limits : Limits}

/-- No iteration begins and nothing is emitted. -/
structure AddsNothing (occurrences : List (Occurrence σ)) : Prop where
  iterations : iterations occurrences = 0
  output : output occurrences = ""

theorem AddsNothing.append
    {occurrences others : List (Occurrence σ)}
    (first : AddsNothing occurrences)
    (second : AddsNothing others) :
    AddsNothing (occurrences ++ others) where
  iterations := by rw [iterations_append, first.iterations, second.iterations]
  output := by rw [output_append, first.output, second.output, String.append_empty]

/-- Evaluating adds nothing to the counts that only grow. -/
def addsNothingInvariant (environment : Environment σ) :
    EvaluationInvariant environment where
  Holds computation := ∀ host, AddsNothing (computation.run host).occurrences
  pure _ _ := ⟨rfl, output_nil⟩
  fail _ _ := ⟨rfl, output_nil⟩
  bind first next host := by
    rw [run_bind]
    split
    · exact first host
    · exact (first host).append (next _ _)
  call depth _ := ⟨rfl, by simp [record, Occurrence.text]⟩
  callHost name arguments position host := by
    unfold callHost
    split
    · exact ⟨rfl, output_nil⟩
    · dsimp only
      split <;> exact ⟨rfl, by simp [Occurrence.text]⟩

/-- Texts are shown one after another, each in an iteration of its own. -/
inductive Shows : List String → List (Occurrence σ) → Prop
  | nil : Shows [] []
  | cons
      (piece : Piece)
      {texts : List String}
      {occurrences : List (Occurrence σ)}
      (shows : Shows texts occurrences) :
      Shows (piece.text :: texts) (.iteration :: .emission piece :: occurrences)

namespace Shows

variable {texts : List String} {occurrences : List (Occurrence σ)}

theorem iterations_eq (shows : Shows texts occurrences) :
    iterations occurrences = texts.length := by
  induction shows with
  | nil => rfl
  | cons piece shows inductionHypothesis =>
      simp [inductionHypothesis, Occurrence.isIteration]

theorem output_eq (shows : Shows texts occurrences) :
    output occurrences = String.join texts := by
  induction shows with
  | nil => simp
  | cons piece shows inductionHypothesis =>
      simp [inductionHypothesis, Occurrence.text]

theorem depth_notMem (shows : Shows texts occurrences) (depth : Int) :
    .block depth ∉ occurrences ∧ .call depth ∉ occurrences := by
  induction shows with
  | nil => simp
  | cons piece shows inductionHypothesis => simpa using inductionHypothesis

/-- Texts that are shown in the outermost block, behind what adds nothing, are within the
limits when they are few and short and what is in front of them is within the limits. -/
theorem within_iff
    {before : List (Occurrence σ)}
    (shows : Shows texts occurrences)
    (nothing : AddsNothing before) :
    Within limits (.block 1 :: (before ++ occurrences)) ↔
      Within limits before ∧ texts.length ≤ limits.loopIterations ∧
        (String.join texts).utf8ByteSize ≤ limits.outputSize := by
  have total : iterations (.block 1 :: (before ++ occurrences)) = texts.length := by
    simp [nothing.iterations, shows.iterations_eq, Occurrence.isIteration]
  have written : output (.block 1 :: (before ++ occurrences)) = String.join texts := by
    simp [nothing.output, shows.output_eq, Occurrence.text]
  constructor
  · intro whole
    refine ⟨⟨nothing.iterations.trans_le (Nat.zero_le _), fun depth inside => ?_,
      fun depth inside => ?_, by simp [nothing.output]⟩, total ▸ whole.iterations,
      written ▸ whole.output⟩
    · exact whole.blocks depth (by simp [inside])
    · exact whole.calls depth (by simp [inside])
  · rintro ⟨first, few, short⟩
    refine ⟨total ▸ few, fun depth inside => ?_, fun depth inside => ?_, written ▸ short⟩
    · simp only [List.mem_cons, List.mem_append, Occurrence.block.injEq,
        (shows.depth_notMem depth).1, or_false] at inside
      rcases inside with rfl | earlier
      · exact_mod_cast limits.nestingDepth_pos
      · exact first.blocks depth earlier
    · simp only [List.mem_cons, List.mem_append, reduceCtorEq, false_or,
        (shows.depth_notMem depth).2, or_false] at inside
      exact first.calls depth inside

end Shows

variable (environment : Environment σ)

/-- The run of the body shows the item of the iteration. -/
theorem run_shown
    {name : String}
    (notLoop : name ≠ "loop")
    (surroundings : Surroundings)
    (element loop : Value)
    (host : σ) :
    (renderAll environment [.rawOutput (.reference 0 name)]
        (surroundings.withScope (Render.loopScope name element loop))).run host =
      match element.display with
      | .ok text => ⟨[.emission (.raw (.reference 0 name) element text)], .ok ()⟩
      | .error error => ⟨[], .error (.error error)⟩ := by
  have value :
      (surroundings.withScope (Render.loopScope name element loop)).lookup name =
        element := by
    simp [Surroundings.lookup_loopScope, notLoop]
  simp only [renderAll, renderNode, evaluate, value, pure_bind]
  cases element.display with
  | ok text => simp [ofExcept, run_bind, record, pure]
  | error error => simp [ofExcept, run_bind, fail]

/-- The iterations show the texts of the items, or one of the items has none. -/
theorem run_iterate_shown
    {name : String}
    (notLoop : name ≠ "loop")
    (surroundings : Surroundings)
    (total position : Nat)
    (items : List (Value × Value))
    (host : σ) :
    let course :=
      (iterate surroundings name total
        (renderAll environment [.rawOutput (.reference 0 name)]) position items).run host
    (∃ texts,
        (items.map Prod.snd).mapM Value.display = .ok texts ∧ course.outcome = .ok () ∧
          Shows texts course.occurrences) ∨
      ∃ error,
        (items.map Prod.snd).mapM Value.display = .error error ∧
          course.outcome = .error (.error error) := by
  induction items generalizing position host with
  | nil => exact .inl ⟨[], rfl, rfl, .nil⟩
  | cons item rest inductionHypothesis =>
      obtain ⟨index, element⟩ := item
      have body :=
        run_shown environment notLoop surroundings element
          (Render.loopValue index position total) host
      simp only [iterate, run_bind, record, List.map_cons, List.mapM_cons, hostAfter,
        body]
      cases element.display with
      | error error => exact .inr ⟨error, rfl, rfl⟩
      | ok text =>
          dsimp only
          rcases inductionHypothesis (position + 1) host with
            ⟨texts, displays, ended, shows⟩ | ⟨error, fails, ended⟩
          · refine .inl ⟨text :: texts, by rw [displays]; rfl, ended, ?_⟩
            exact .cons (.raw (.reference 0 name) element text) shows
          · exact .inr ⟨error, by rw [fails]; rfl, ended⟩

/-- Within the limits an expression has the value of its run. -/
theorem exists_evaluate_iff
    (expr : Expr)
    (data : Scope)
    (host : σ)
    (value : Value) :
    (∃ after,
        Render.evaluate environment expr (Session.start data host) = .ok value after) ↔
      let course := (evaluate environment (.start data) expr).run host
      course.outcome = .ok value ∧ Within environment.limits course.occurrences := by
  have follows :=
    evaluate_follows environment expr (.start data) (Session.start data host) rfl
  rw [follows]
  constructor
  · rintro ⟨after, evaluated⟩
    rcases within_or_fails host (evaluate environment (.start data) expr)
      environment.limits with ⟨other, ended, within⟩ | ⟨before, failure, fails⟩
    · rw [bounded_of_within data host _ ended within] at evaluated
      cases evaluated
      exact ⟨ended, within⟩
    · obtain ⟨stop, stopped, -⟩ := bounded_of_fails data host _ fails
      rw [stopped] at evaluated
      cases evaluated
  · rintro ⟨ended, within⟩
    exact ⟨_, bounded_of_within data host _ ended within⟩

/-- The run of a loop that shows its variable evaluates what the loop runs over and shows
the texts of the items behind it, or it fails. -/
theorem run_loop_shown
    {name : String}
    (notLoop : name ≠ "loop")
    (expr : Expr)
    (data : Scope)
    (host : σ) :
    let evaluated := (evaluate environment (.start data) expr).run host
    let course :=
      (renderTemplate environment data
        [.loop name expr [.rawOutput (.reference 0 name)]]).run host
    (∃ value texts shown,
        evaluated.outcome = .ok value ∧
          (value.iterationItems.map Prod.snd).mapM Value.display = .ok texts ∧
            Shows texts shown ∧
              course = ⟨.block 1 :: (evaluated.occurrences ++ shown), .ok ()⟩) ∨
      course.outcome ≠ .ok () ∧
        ∀ value texts,
          evaluated.outcome = .ok value →
            (value.iterationItems.map Prod.snd).mapM Value.display ≠ .ok texts := by
  have whole :
      renderTemplate environment data [.loop name expr [.rawOutput (.reference 0 name)]] =
        (do
          record (.block 1)
          let value ← evaluate environment (.start data) expr
          iterate (Surroundings.start data).inBlock name value.iterationItems.length
            (renderAll environment [.rawOutput (.reference 0 name)]) 0
            value.iterationItems) := by
    rw [renderTemplate, renderAll]
    simp only [renderAll, renderNode, evaluate_inBlock, bind_pure_unit]
    rfl
  rw [whole, run_bind]
  simp only [record, hostAfter, run_bind]
  generalize (evaluate environment (.start data) expr).run host = evaluated
  obtain ⟨occurrences, outcome⟩ := evaluated
  cases outcome with
  | error failure => exact .inr ⟨by simp, by simp⟩
  | ok value =>
      rcases run_iterate_shown environment notLoop (Surroundings.start data).inBlock
          value.iterationItems.length 0 value.iterationItems
          (hostAfter host occurrences) with
        ⟨texts, displays, ended, shows⟩ | ⟨error, fails, ended⟩
      · exact .inl ⟨value, texts, _, rfl, displays, shows, by simp [ended]⟩
      · refine .inr ⟨by simp [ended], ?_⟩
        rintro other texts ⟨⟩ displays
        rw [fails] at displays
        cases displays

/-- A loop that shows its variable is rendered when what it runs over has a value, the
items of this value have texts, and they are within the limits. What is rendered are the
texts, one after another. -/
theorem renderTemplate_loop_shown
    {name : String}
    (notLoop : name ≠ "loop")
    (expr : Expr)
    (data : Scope)
    (host : σ)
    (output : String) :
    (∃ final,
        Render.renderTemplate environment data
            [.loop name expr [.rawOutput (.reference 0 name)]] (.start data host) =
          .ok output final) ↔
      ∃ value after texts,
        Render.evaluate environment expr (.start data host) = .ok value after ∧
          (value.iterationItems.map Prod.snd).mapM Value.display = .ok texts ∧
          texts.length ≤ environment.limits.loopIterations ∧
          (String.join texts).utf8ByteSize ≤ environment.limits.outputSize ∧
          output = String.join texts := by
  have evaluates := exists_evaluate_iff environment expr data host
  have nothing := (addsNothingInvariant environment).evaluate expr (.start data) host
  constructor
  · rintro ⟨final, rendered⟩
    obtain ⟨ended, within, rfl, -⟩ := reached_of_renderTemplate _ _ _ _ rendered
    rw [Session.host_start] at ended within ⊢
    rcases run_loop_shown environment notLoop expr data host with
      ⟨value, texts, shown, hasValue, displays, shows, course⟩ | ⟨fails, -⟩
    · rw [course] at within ⊢
      obtain ⟨inside, few, short⟩ := (shows.within_iff nothing).1 within
      obtain ⟨after, evaluated⟩ := (evaluates value).2 ⟨hasValue, inside⟩
      refine ⟨value, after, texts, evaluated, displays, few, short, ?_⟩
      simp [Occurrence.text, nothing.output, shows.output_eq]
    · exact absurd ended fails
  · rintro ⟨value, after, texts, evaluated, displays, few, short, rfl⟩
    obtain ⟨hasValue, inside⟩ := (evaluates value).1 ⟨after, evaluated⟩
    rcases run_loop_shown environment notLoop expr data host with
      ⟨other, otherTexts, shown, otherValue, otherDisplays, shows, course⟩ | ⟨-, none⟩
    · cases hasValue.symm.trans otherValue
      cases displays.symm.trans otherDisplays
      have within := (shows.within_iff nothing).2 ⟨inside, few, short⟩
      have rendered :=
        renderTemplate_of_within environment data
          [.loop name expr [.rawOutput (.reference 0 name)]] (.start data host)
          (by rw [Session.host_start, course]) (by rwa [Session.host_start, course])
      rw [Session.host_start, course] at rendered
      refine ⟨_, rendered.trans (congrArg (EStateM.Result.ok · _) ?_)⟩
      simp [Occurrence.text, nothing.output, shows.output_eq]
    · exact absurd displays (none value texts hasValue)

end Unbounded
end Templating
