import Templating.Proofs.Engine.Limits
import Templating.Proofs.Segment.Joining

/-!
# Templates without tags

A template without two opening braces is a single text, or none when it is empty, and is
rendered as it is. So a host may leave such a template alone, as long as it fits into the
output. Any other template has a segment that is no text, if it is cut into segments.
-/

namespace Templating

theorem hasTags_iff (source : String) :
    hasTags source = true ↔ ['\x7b', '\x7b'] <:+: source.toList := by
  have split := Tag.splitOpening_eq_nil source.toList
  rw [hasTags, Bool.not_eq_true', ← Bool.not_eq_true, List.isEmpty_iff, split, not_not]

namespace Segment

variable {limits : Limits} {source : String}

/-- A text in which a tag begins has a segment that is no text. -/
theorem Cuts.exists_tag
    {start : Nat}
    {text : List Char}
    {segments : List Segment}
    (cuts : Cuts limits start text segments)
    (tagged : (Tag.splitOpening text).2 ≠ []) :
    ∃ segment ∈ segments, segment.kind ≠ .text := by
  cases cuts with
  | done position => exact absurd rfl tagged
  | tag closed short cuts => exact ⟨_, List.mem_cons_self, kind_ofTag _ _ _⟩
  | text literal cuts =>
      rw [Tag.splitOpening_cons literal] at tagged
      obtain nothing | ⟨inside, opens⟩ := Tag.splitOpening_opens _
      · exact absurd nothing tagged
      · rw [opens] at cuts
        cases cuts with
        | tag closed short cuts =>
            exact ⟨_, List.mem_cons_of_mem _ List.mem_cons_self, kind_ofTag _ _ _⟩
        | text literal cuts => exact absurd rfl (literal inside)

/-- The segments of a template without tags. -/
def ofUntagged (source : String) : List Segment :=
  if source = "" then [] else [⟨.text, source, 0⟩]

theorem cuts_untagged (limits : Limits) (untagged : hasTags source = false) :
    Cuts limits 0 source.toList (ofUntagged source) := by
  unfold ofUntagged
  split
  · next empty =>
      subst empty
      exact .done 0
  · next nonempty =>
      have noTag : (Tag.splitOpening source.toList).2 = [] := by
        simpa [hasTags] using untagged
      have whole := Tag.splitOpening_append source.toList
      rw [noTag, List.append_nil] at whole
      have split : Tag.splitOpening source.toList = (source.toList, []) :=
        Prod.ext whole noTag
      have cuts : Cuts limits 0 source.toList [ofText source.toList 0] :=
        .text_of_split split (by simpa using nonempty) (.done _)
      rwa [ofText, String.ofList_toList] at cuts

end Segment

/-- A template without tags. -/
def Template.ofUntagged (source : String) : Template :=
  if source = "" then [] else [.text source]

theorem Template.ofSegments_untagged (context : AssemblyContext) (source : String) :
    ofSegments context (Segment.ofUntagged source) = .ok (ofUntagged source) := by
  unfold Segment.ofUntagged ofUntagged
  split <;> rfl

/-- A text is rendered as it is when it fits into the output. -/
theorem Render.renderTemplate_untagged
    {σ : Type}
    (environment : Environment σ)
    (data : Scope)
    (source : String)
    (host : σ) :
    renderTemplate environment data (Template.ofUntagged source) (.start data host) =
      match Budget.addOutput environment.limits source .fresh with
      | .ok _ budget =>
          .ok source
            { Session.start data host with
              budget
              pieces := if source = "" then [] else [source] }
      | .error error budget =>
          .error (.error error) { Session.start data host with budget } := by
  rw [renderTemplate_start, Template.ofUntagged]
  by_cases empty : source = ""
  · subst empty
    rfl
  · simp only [if_neg empty, renderAll, renderNode, render_bind, emit_apply,
      Budget.addOutput, Budget.addBytes, Budget.spend]
    by_cases fits : source.utf8ByteSize ≤ environment.limits.outputSize
    · simp [fits, Session.start, Session.output, Budget.fresh, pure, EStateM.pure]
    · simp [fits, Session.start, Budget.fresh]

namespace Engine

variable {σ : Type} (engine : Engine σ) (source : String)

theorem parse_of_untagged (untagged : hasTags source = false) :
    engine.parse source =
      .ok
        (Template.ofUntagged source,
          parsedEvent (Segment.ofUntagged source) (Template.ofUntagged source)) :=
  (bind_eq_ok ..).2
    ⟨_,
      Template.parseWithSegments_of_cuts (Segment.cuts_untagged engine.limits untagged)
        (Template.ofSegments_untagged _ source),
      rfl⟩

/-- Rendering a template without tags runs no function of the host and gives the template,
or exceeds the output. -/
theorem render_of_untagged
    (untagged : hasTags source = false)
    (data : Scope)
    (host : σ) :
    let run := engine.render source data host
    run.outcome =
        (if source.utf8ByteSize ≤ engine.limits.outputSize then .ok source
          else
            .error
              (.error
                (.exhausted .outputSize engine.limits.outputSize source.utf8ByteSize))) ∧
      run.host = host := by
  simp only [render, engine.parse_of_untagged source untagged, renderParsed,
    Render.renderTemplate_untagged, Budget.addOutput, Budget.addBytes, Budget.spend]
  by_cases fits : source.utf8ByteSize ≤ engine.limits.outputSize
  · simp [Engine.environment, Budget.fresh, fits, Session.start]
  · simp [Engine.environment, Budget.fresh, fits, Session.start]

/-- The shortcut for templates without tags agrees with parsing and rendering. A template
has tags when it holds two opening braces. Without them it is rendered as it is, if its
size in bytes is within the output, and no function of the host runs. With them, it is
rejected where it is cut into segments, or one of its segments is no text. -/
theorem shortcut_agrees :
    (hasTags source = true ↔ ['\x7b', '\x7b'] <:+: source.toList) ∧
      (hasTags source = false →
        ∀ (data : Scope) (host : σ),
          (engine.render source data host).outcome =
              (if source.utf8ByteSize ≤ engine.limits.outputSize then .ok source
                else
                  .error
                    (.error
                      (.exhausted .outputSize engine.limits.outputSize
                        source.utf8ByteSize))) ∧
            (engine.render source data host).host = host ∧
            engine.calls source data host = []) ∧
      (hasTags source = true →
        (∃ error, Segment.ofTemplate engine.limits source = .error error ∧ error.IsParse) ∨
          ∃ segments,
            Segment.ofTemplate engine.limits source = .ok segments ∧
              ∃ segment ∈ segments, segment.kind ≠ .text) := by
  refine ⟨hasTags_iff source, fun untagged data host => ?_, fun tagged => ?_⟩
  · obtain ⟨outcome, sameHost⟩ := engine.render_of_untagged source untagged data host
    have recorded :=
      (engine.recording.render_of_untagged source untagged data (host, [])).2
    exact ⟨outcome, sameHost, congrArg Prod.snd recorded⟩
  · have opens : (Tag.splitOpening source.toList).2 ≠ [] := by
      simpa [hasTags] using tagged
    cases lexed : Segment.ofTemplate engine.limits source with
    | error error => exact .inl ⟨error, rfl, Segment.lexFrom_error lexed⟩
    | ok segments =>
        exact .inr ⟨segments, rfl, (Segment.cuts_of_lexFrom lexed).exists_tag opens⟩

/-- A brace alone is text, also at the end of a template. -/
theorem shortcut_agrees_lone_braces :
    hasTags "\x7b a \x7d\x7b" = false ∧
      (identifying.render "\x7b a \x7d\x7b" [] ()).outcome = .ok "\x7b a \x7d\x7b" := by
  have untagged : hasTags "\x7b a \x7d\x7b" = false := by decide
  obtain ⟨-, rendered, -⟩ := shortcut_agrees identifying "\x7b a \x7d\x7b"
  exact ⟨untagged, (rendered untagged [] ()).1.trans (if_pos (by decide))⟩

end Engine
end Templating
