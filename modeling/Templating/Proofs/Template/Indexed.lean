import Templating.Proofs.Expr.Indexed
import Templating.Proofs.Template.Assembling

/-!
# Reading blocks by index

Blocks can also be read by descending into them: a body goes on up to a tag that may end
its block, and the block goes on from there. Such a parser keeps all segments and the index
of the next one, and it looks at the tag behind a body without asking whether there is one.
It gives what assembling the segments gives, since a body that is read ends at a segment.
-/

namespace Templating

/-- What a body belongs to: the template, or a block and the offset of the tag that opened
it. -/
inductive Enclosing
  | template
  | conditional (opened : Int)
  | loop (opened : Int)

/-- The tag that ends a body for good. -/
def Enclosing.closing : Enclosing → Closing
  | .template => .other none
  | .conditional _ => .endIf
  | .loop _ => .endEach

namespace IndexedAssembly

variable (context : AssemblyContext) (segments : List Segment)

/-- Reject the segments because of an offset. -/
def reject {α : Type} (cause : ParseCause) (position : Int) : Except Halt α :=
  .error (.rejected (.parse cause (some position) context.source))

/-- The expression that a text writes. -/
def readExpr (content : String) : Except Halt Expr :=
  Expr.parseByIndex context.limits context.known content

/-- Go into a block, which must not be nested too deep. -/
def enter (depth : Nat) (opening : Segment) : Except Halt Unit :=
  (context.limits.checkNesting depth (some opening.position) context.source).mapError
    .rejected

/-- There is a segment of a given kind at an index. -/
def isAt (kind : SegmentKind) (current : Nat) : Bool :=
  segments[current]?.any fun segment => segment.kind = kind

mutual

/-- The nodes of a body, up to a tag that may end it. -/
def body (enclosing : Enclosing) (depth current : Nat) :
    Except Halt (List Node × { later : Nat // current ≤ later }) :=
  if inside : current < segments.length then
    let segment := segments[current]
    let goOn (node : Node) : Except Halt (List Node × { later : Nat // current ≤ later }) :=
      do
        let (others, ⟨later, _⟩) ← body enclosing depth (current + 1)
        return (node :: others, ⟨later, by omega⟩)
    match segment.kind with
    | .text => goOn (.text segment.content)
    | .output => do
        let expr ← readExpr context segment.content
        goOn (.output expr)
    | .rawOutput => do
        let expr ← readExpr context segment.content
        goOn (.rawOutput expr)
    | .closing closing =>
        if closing = enclosing.closing then return ([], ⟨current, Nat.le_refl _⟩)
        else
          reject context (.unexpectedClosing closing.keyword enclosing.closing.keyword)
            segment.position
    | .opening .elifBranch =>
        match enclosing with
        | .conditional _ => return ([], ⟨current, Nat.le_refl _⟩)
        | _ => reject context (.unmatchedBranch "elif") segment.position
    | .opening .elseBranch =>
        match enclosing with
        | .conditional _ => return ([], ⟨current, Nat.le_refl _⟩)
        | _ => reject context (.unmatchedBranch "else") segment.position
    | .opening .ifBlock => do
        let (node, ⟨later, _⟩) ← conditional depth current
        let (others, ⟨last, _⟩) ← body enclosing depth later
        return (node :: others, ⟨last, by omega⟩)
    | .opening .eachBlock => do
        let (node, ⟨later, _⟩) ← loop depth current
        let (others, ⟨last, _⟩) ← body enclosing depth later
        return (node :: others, ⟨last, by omega⟩)
    | .opening (.other keyword) =>
        reject context (.unknownKeyword keyword) segment.position
  else
    match enclosing with
    | .template => return ([], ⟨current, Nat.le_refl _⟩)
    | .conditional opened => reject context (.unclosedBlock "endif") opened
    | .loop opened => reject context (.unclosedBlock "endeach") opened
termination_by 2 * (segments.length - current) + 1

/-- The conditional that a tag begins, with the tag that closes it. -/
def conditional (depth current : Nat) :
    Except Halt (Node × { later : Nat // current < later }) := do
  let ⟨opening, inside⟩ ← look segments current
  enter context (depth + 1) opening
  let condition ← readExpr context opening.content
  let (nodes, ⟨later, _⟩) ← body (.conditional opening.position) (depth + 1) (current + 1)
  let (after, ⟨last, _⟩) ← branches opening.position (depth + 1) later
  let _closing ← look segments last
  return (.conditional condition nodes after, ⟨last + 1, by omega⟩)
termination_by 2 * (segments.length - current)

/-- The branches of a conditional behind a body. -/
def branches (opened : Int) (depth current : Nat) :
    Except Halt (Branches × { later : Nat // current ≤ later }) :=
  if isAt segments (.opening .elifBranch) current then do
    let ⟨segment, inside⟩ ← look segments current
    let condition ← readExpr context segment.content
    let (nodes, ⟨later, _⟩) ← body (.conditional opened) depth (current + 1)
    let (after, ⟨last, _⟩) ← branches opened depth later
    return (.elif condition nodes after, ⟨last, by omega⟩)
  else if isAt segments (.opening .elseBranch) current then do
    let ⟨_, inside⟩ ← look segments current
    let (nodes, ⟨later, _⟩) ← body (.conditional opened) depth (current + 1)
    if isAt segments (.closing .endIf) later then
      return (.otherwise nodes, ⟨later, by omega⟩)
    else
      let ⟨segment, _⟩ ← look segments later
      reject context (.branchAfterElse (keywordText segment.keyword)) segment.position
  else return (.done, ⟨current, Nat.le_refl _⟩)
termination_by 2 * (segments.length - current)

/-- The loop that a tag begins, with the tag that closes it. -/
def loop (depth current : Nat) :
    Except Halt (Node × { later : Nat // current < later }) := do
  let ⟨opening, _⟩ ← look segments current
  enter context (depth + 1) opening
  match Tag.binding? opening.content.toList with
  | none => reject context .malformedEach opening.position
  | some (variableName, source) =>
    let iterable ← readExpr context (String.ofList source)
    let (nodes, ⟨later, behind⟩) ← body (.loop opening.position) (depth + 1) (current + 1)
    let _closing ← look segments later
    return (.loop (String.ofList variableName) iterable nodes,
      ⟨later + 1, Nat.lt_add_one_of_lt behind⟩)
termination_by 2 * (segments.length - current)

end

/-! ## Agreement with assembling -/

/-- The innermost open block of an assembly is the one that a body belongs to. -/
inductive Reads : Enclosing → List Frame → Prop
  | template : Reads .template []
  | branch
      (condition : Expr)
      (earlier : List Branch)
      (opened : Int)
      (before : List Node)
      (outer : List Frame) :
      Reads (.conditional opened) (⟨.branch condition earlier, opened, before⟩ :: outer)
  | otherwise
      (last : Branch)
      (earlier : List Branch)
      (opened : Int)
      (before : List Node)
      (outer : List Frame) :
      Reads (.conditional opened) (⟨.otherwise last earlier, opened, before⟩ :: outer)
  | loop
      (variableName : String)
      (iterable : Expr)
      (opened : Int)
      (before : List Node)
      (outer : List Frame) :
      Reads (.loop opened) (⟨.loop variableName iterable, opened, before⟩ :: outer)

/-- Where a body ends: at the tag that ends it for good, at the next branch of its
conditional, or behind all segments of a template. -/
inductive Ends : Enclosing → Nat → Prop
  | closing
      {enclosing : Enclosing}
      {current : Nat}
      {content : String}
      {position : Int}
      (found : segments[current]? = some ⟨.closing enclosing.closing, content, position⟩) :
      Ends enclosing current
  | elifBranch
      {opened : Int}
      {current : Nat}
      {content : String}
      {position : Int}
      (found : segments[current]? = some ⟨.opening .elifBranch, content, position⟩) :
      Ends (.conditional opened) current
  | elseBranch
      {opened : Int}
      {current : Nat}
      {content : String}
      {position : Int}
      (found : segments[current]? = some ⟨.opening .elseBranch, content, position⟩) :
      Ends (.conditional opened) current
  | done {current : Nat} (none : segments.drop current = []) : Ends .template current

/-- What is read by index is what an assembly goes on with, or the error that it ends
with. -/
inductive Agrees
    (assembled : Template.Reading)
    {α : Type}
    {bound : Nat → Prop}
    (reaches : α → Nat → Prop) :
    Except Halt (α × { later : Nat // bound later }) → Prop
  | read
      {result : α}
      {later : { later : Nat // bound later }}
      (reached : reaches result later.val) :
      Agrees assembled reaches (.ok (result, later))
  | stopped {error : Error} (fails : assembled.1 = .error error) :
      Agrees assembled reaches (.error (.rejected error))

/-- Whatever goes on with what is read by index goes on where an assembly goes on, or behind
the error that it ends with. -/
@[elab_as_elim]
theorem Agrees.elim
    {assembled : Template.Reading}
    {α : Type}
    {bound : Nat → Prop}
    {reaches : α → Nat → Prop}
    {motive : Except Halt (α × { later : Nat // bound later }) → Prop}
    {indexed : Except Halt (α × { later : Nat // bound later })}
    (agrees : Agrees assembled reaches indexed)
    (onRead : ∀ result later, reaches result later.val → motive (.ok (result, later)))
    (onStop : ∀ error, assembled.1 = .error error → motive (.error (.rejected error))) :
    motive indexed := by
  cases agrees with
  | read reached => exact onRead _ _ reached
  | stopped fails => exact onStop _ fails

variable (base : Nat)

/-- Reading a body at an index agrees with assembling from there. -/
def BodyAgrees (current : Nat) : Prop :=
  ∀ {enclosing : Enclosing} {frames : List Frame} (nodes : List Node),
    Reads enclosing frames →
      Agrees (Template.assembleFrom context base ⟨nodes, frames⟩ (segments.drop current))
        (fun body later =>
          Ends segments enclosing later ∧
            Template.assembleFrom context base ⟨nodes, frames⟩ (segments.drop current) =
              Template.assembleFrom context base ⟨body.reverse ++ nodes, frames⟩
                (segments.drop later))
        (body context segments enclosing (base + frames.length) current)

variable {context segments base}

theorem look_of_getElem?
    {current : Nat}
    {segment : Segment}
    (found : segments[current]? = some segment) :
    ∃ inside, look segments current = .ok ⟨segment, inside⟩ := by
  obtain ⟨inside, rfl⟩ := List.getElem?_eq_some_iff.1 found
  exact ⟨inside, dif_pos inside⟩

theorem drop_of_getElem?
    {current : Nat}
    {segment : Segment}
    (found : segments[current]? = some segment) :
    segments.drop current = segment :: segments.drop (current + 1) := by
  obtain ⟨inside, rfl⟩ := List.getElem?_eq_some_iff.1 found
  exact List.drop_eq_getElem_cons inside

/-- A segment that cannot be added is where assembling ends. -/
theorem assembleFrom_of_refusal
    {assembly : Assembly}
    {current : Nat}
    {segment : Segment}
    {error : Error}
    {consumed : Bool}
    {depth : Nat}
    (found : segments[current]? = some segment)
    (goesOn : segment.kind ≠ .closing (.other none) ∨ assembly.frames ≠ [])
    (refused : assembly.step context base segment = .error ⟨error, consumed, depth⟩) :
    (Template.assembleFrom context base assembly (segments.drop current)).1 =
      .error error := by
  rw [drop_of_getElem? found, Template.assembleFrom,
    if_neg (fun ends => goesOn.elim (· ends.1) (· ends.2))]
  simp only [refused]

/-- The text of an expression is read as it is parsed. -/
theorem readExpr_elim
    {assembled : Template.Reading}
    {α : Type}
    {bound : Nat → Prop}
    {reaches : α → Nat → Prop}
    {content : String}
    {next : Expr → Except Halt (α × { later : Nat // bound later })}
    (onRead :
      ∀ expr, Expr.parse context.limits context.known content = .ok expr →
        Agrees assembled reaches (next expr))
    (onStop :
      ∀ error, Expr.parse context.limits context.known content = .error error →
        assembled.1 = .error error) :
    Agrees assembled reaches (readExpr context content >>= next) := by
  rw [readExpr, Expr.parseByIndex_eq]
  cases read : Expr.parse context.limits context.known content with
  | error error => exact .stopped (onStop error read)
  | ok expr => exact onRead expr read

/-- An output whose expression does not parse is not added. -/
theorem step_of_unread
    {kind : SegmentKind}
    (isOutput : kind = .output ∨ kind = .rawOutput)
    {content : String}
    {error : Error}
    (unread : Expr.parse context.limits context.known content = .error error)
    (assembly : Assembly)
    (position : Int) :
    assembly.step context base ⟨kind, content, position⟩ =
      .error ⟨error, false, assembly.depth base⟩ := by
  obtain rfl | rfl := isOutput <;>
    simp only [Assembly.step, Assembly.readExpr, unread] <;> rfl

/-- A block that is nested too deep is not added. -/
theorem step_of_not_fits
    {opening : Opening}
    (opens : opening = .ifBlock ∨ opening = .eachBlock)
    {nodes : List Node}
    {frames : List Frame}
    (tooDeep : ¬base + frames.length + 1 ≤ context.limits.nestingDepth)
    (content : String)
    (position : Int) :
    Assembly.step context base ⟨nodes, frames⟩ ⟨.opening opening, content, position⟩ =
      .error
        ⟨.parse (.nestingTooDeep context.limits.nestingDepth) (some position)
            context.source, true, base + frames.length + 1⟩ := by
  obtain rfl | rfl := opens <;>
    simp [Assembly.step, Assembly.stepIf, Assembly.stepEach, Assembly.enter,
      Limits.checkNesting, Assembly.depth, tooDeep, bind, Except.bind]

theorem enter_of_fits
    {depth : Nat}
    (fits : depth ≤ context.limits.nestingDepth)
    (opening : Segment) :
    enter context depth opening = .ok () := by
  rw [enter, (Limits.checkNesting_eq_ok ..).2 fits]
  rfl

theorem isAt_of_getElem?
    {current : Nat}
    {segment : Segment}
    (found : segments[current]? = some segment)
    (kind : SegmentKind) :
    isAt segments kind current = decide (segment.kind = kind) := by
  rw [isAt, found]
  rfl

/-- The branches behind a body are read where an assembly reads them, and the closing tag
stands behind them. -/
theorem branches_agrees
    {current : Nat}
    (behind : ∀ later, current < later → BodyAgrees context segments base later)
    (condition : Expr)
    (earlier : List Branch)
    (opened : Int)
    (before body : List Node)
    (outer : List Frame)
    (ends : Ends segments (.conditional opened) current) :
    Agrees
      (Template.assembleFrom context base
        ⟨body.reverse, ⟨.branch condition earlier, opened, before⟩ :: outer⟩
        (segments.drop current))
      (fun after later =>
        (∃ content position,
          segments[later]? = some ⟨.closing .endIf, content, position⟩) ∧
          Template.assembleFrom context base
              ⟨body.reverse, ⟨.branch condition earlier, opened, before⟩ :: outer⟩
              (segments.drop current) =
            Template.assembleFrom context base
              ⟨Node.ofBranches (condition, body) earlier after :: before, outer⟩
              (segments.drop (later + 1)))
      (branches context segments opened (base + (outer.length + 1)) current) := by
  induction remaining : segments.length - current using Nat.strong_induction_on
    generalizing current condition earlier body with
  | h remaining inductionHypothesis =>
  rw [branches]
  cases ends with
  | @closing _ _ content position found =>
      simp only [isAt_of_getElem? found, reduceCtorEq, decide_false, if_false]
      refine .read ⟨⟨content, position, found⟩, ?_⟩
      rw [drop_of_getElem? found]
      refine (Assembly.assembleFrom_closing ⟨.branch condition earlier, opened, before⟩ _ _ _
        _ _).trans ?_
      rw [List.reverse_reverse]
      rfl
  | @elifBranch _ _ content position found =>
      obtain ⟨inside, looked⟩ := look_of_getElem? found
      simp only [isAt_of_getElem? found, decide_true, if_true, looked, ok_bind]
      refine readExpr_elim (fun added read => ?_) (fun error read => ?_)
      · rw [drop_of_getElem? found,
          Assembly.assembleFrom_of_adds (.elifBranch position rfl read)]
        refine (behind (current + 1) (Nat.lt_succ_self _) []
          (.branch added ((condition, body.reverse.reverse) :: earlier) opened before
            outer)).elim (fun nodes later reached => ?_) (fun error fails => .stopped fails)
        have further := later.property
        obtain ⟨ends, goesOn⟩ := reached
        rw [goesOn, List.reverse_reverse, List.append_nil]
        simp only [ok_bind]
        refine (inductionHypothesis (segments.length - later.val) (by omega)
          (fun other beyond => behind other (by omega)) added
          ((condition, body) :: earlier) nodes ends rfl).elim
          (fun after last reached => ?_) (fun error fails => .stopped fails)
        obtain ⟨closed, goesOn⟩ := reached
        exact .read ⟨closed, goesOn⟩
      · have refused :
            Assembly.step context base
                ⟨body.reverse, ⟨.branch condition earlier, opened, before⟩ :: outer⟩
                ⟨.opening .elifBranch, content, position⟩ =
              .error ⟨error, true, base + (outer.length + 1)⟩ := by
          simp only [Assembly.step, Assembly.stepElif, Assembly.readExpr, read]
          rfl
        exact assembleFrom_of_refusal found (.inl (by simp)) refused
  | @elseBranch _ _ content position found =>
      obtain ⟨inside, looked⟩ := look_of_getElem? found
      simp only [isAt_of_getElem? found, looked, ok_bind, SegmentKind.opening.injEq,
        reduceCtorEq, decide_false, decide_true, Bool.false_eq_true, if_false, if_true]
      rw [drop_of_getElem? found,
        Assembly.assembleFrom_of_adds (.elseBranch content position rfl)]
      refine (behind (current + 1) (Nat.lt_succ_self _) []
        (.otherwise (condition, body.reverse.reverse) earlier opened before outer)).elim
        (fun nodes later reached => ?_) (fun error fails => .stopped fails)
      have further := later.property
      obtain ⟨ends, goesOn⟩ := reached
      rw [goesOn, List.reverse_reverse, List.append_nil]
      simp only [ok_bind]
      cases ends with
      | @closing _ _ content position found =>
          rw [if_pos (by rw [isAt_of_getElem? found]; rfl)]
          refine .read ⟨⟨content, position, found⟩, ?_⟩
          rw [drop_of_getElem? found]
          refine (Assembly.assembleFrom_closing
            ⟨.otherwise (condition, body) earlier, opened, before⟩ _ _ _ _ _).trans ?_
          rw [List.reverse_reverse]
          rfl
      | @elifBranch _ _ content position found =>
          obtain ⟨within, looked⟩ := look_of_getElem? found
          rw [isAt_of_getElem? found, looked]
          exact .stopped (assembleFrom_of_refusal found (.inl (by simp)) rfl)
      | @elseBranch _ _ content position found =>
          obtain ⟨within, looked⟩ := look_of_getElem? found
          rw [isAt_of_getElem? found, looked]
          exact .stopped (assembleFrom_of_refusal found (.inl (by simp)) rfl)

/-- A conditional is read where an assembly reads it. -/
theorem conditional_agrees
    {current : Nat}
    (behind : ∀ later, current < later → BodyAgrees context segments base later)
    {content : String}
    {position : Int}
    (found : segments[current]? = some ⟨.opening .ifBlock, content, position⟩)
    (nodes : List Node)
    (frames : List Frame) :
    Agrees (Template.assembleFrom context base ⟨nodes, frames⟩ (segments.drop current))
      (fun node later =>
        Template.assembleFrom context base ⟨nodes, frames⟩ (segments.drop current) =
          Template.assembleFrom context base ⟨node :: nodes, frames⟩ (segments.drop later))
      (conditional context segments (base + frames.length) current) := by
  obtain ⟨inside, looked⟩ := look_of_getElem? found
  rw [conditional, looked]
  simp only [ok_bind]
  by_cases fits : base + frames.length + 1 ≤ context.limits.nestingDepth
  · have entered (segment : Segment) :
        Assembly.enter context base ⟨nodes, frames⟩ segment =
          .ok (base + frames.length + 1) :=
      Assembly.enter_of_fits fits segment
    simp only [enter_of_fits fits, ok_bind]
    refine readExpr_elim (fun condition read => ?_) (fun error read => ?_)
    · rw [drop_of_getElem? found,
        Assembly.assembleFrom_of_adds (.ifBlock position fits read)]
      refine (behind (current + 1) (Nat.lt_succ_self _) []
        (.branch condition [] position nodes frames)).elim
        (fun body later reached => ?_) (fun error fails => .stopped fails)
      have further := later.property
      obtain ⟨ends, goesOn⟩ := reached
      rw [Assembly.openBlock, goesOn, List.append_nil]
      simp only [ok_bind]
      refine (branches_agrees (fun other beyond => behind other (by omega)) condition []
        position nodes body frames ends).elim (fun after last reached => ?_)
        (fun error fails => .stopped fails)
      obtain ⟨⟨closingContent, closingPosition, closes⟩, goesOn⟩ := reached
      obtain ⟨within, lookedClosing⟩ := look_of_getElem? closes
      simp only [ok_bind, lookedClosing]
      exact .read goesOn
    · have refused :
          Assembly.step context base ⟨nodes, frames⟩
              ⟨.opening .ifBlock, content, position⟩ =
            .error ⟨error, true, base + frames.length + 1⟩ := by
        simp only [Assembly.step, Assembly.stepIf, entered, ok_bind, Assembly.readExpr, read]
        rfl
      exact assembleFrom_of_refusal found (.inl (by simp)) refused
  · simp only [enter, Limits.checkNesting, if_neg fits]
    exact .stopped (assembleFrom_of_refusal found (.inl (by simp))
      (step_of_not_fits (.inl rfl) fits content position))

/-- A loop is read where an assembly reads it. -/
theorem loop_agrees
    {current : Nat}
    (behind : ∀ later, current < later → BodyAgrees context segments base later)
    {content : String}
    {position : Int}
    (found : segments[current]? = some ⟨.opening .eachBlock, content, position⟩)
    (nodes : List Node)
    (frames : List Frame) :
    Agrees (Template.assembleFrom context base ⟨nodes, frames⟩ (segments.drop current))
      (fun node later =>
        Template.assembleFrom context base ⟨nodes, frames⟩ (segments.drop current) =
          Template.assembleFrom context base ⟨node :: nodes, frames⟩ (segments.drop later))
      (loop context segments (base + frames.length) current) := by
  obtain ⟨inside, looked⟩ := look_of_getElem? found
  rw [loop, looked]
  simp only [ok_bind]
  by_cases fits : base + frames.length + 1 ≤ context.limits.nestingDepth
  · have entered (segment : Segment) :
        Assembly.enter context base ⟨nodes, frames⟩ segment =
          .ok (base + frames.length + 1) :=
      Assembly.enter_of_fits fits segment
    simp only [enter_of_fits fits, ok_bind]
    cases binds : Tag.binding? content.toList with
    | none =>
        have refused :
            Assembly.step context base ⟨nodes, frames⟩
                ⟨.opening .eachBlock, content, position⟩ =
              .error
                ⟨.parse .malformedEach (some position) context.source, true,
                  base + frames.length + 1⟩ := by
          simp only [Assembly.step, Assembly.stepEach, entered, ok_bind, binds]
        exact .stopped (assembleFrom_of_refusal found (.inl (by simp)) refused)
    | some binding =>
        obtain ⟨variableName, source⟩ := binding
        refine readExpr_elim (fun iterable read => ?_) (fun error read => ?_)
        · rw [drop_of_getElem? found, Assembly.assembleFrom_of_adds
            (.eachBlock position fits ((Tag.binding?_eq_some ..).1 binds) read)]
          refine (behind (current + 1) (Nat.lt_succ_self _) []
            (.loop (String.ofList variableName) iterable position nodes frames)).elim
            (fun body later reached => ?_) (fun error fails => .stopped fails)
          obtain ⟨ends, goesOn⟩ := reached
          rw [Assembly.openBlock, goesOn, List.append_nil]
          cases ends with
          | @closing _ _ content position closes =>
              obtain ⟨within, lookedClosing⟩ := look_of_getElem? closes
              simp only [ok_bind, lookedClosing]
              refine .read ?_
              rw [drop_of_getElem? closes]
              refine (Assembly.assembleFrom_closing _ _ _ _ _ _).trans ?_
              rw [List.reverse_reverse]
              rfl
        · have refused :
              Assembly.step context base ⟨nodes, frames⟩
                  ⟨.opening .eachBlock, content, position⟩ =
                .error ⟨error, true, base + frames.length + 1⟩ := by
            simp only [Assembly.step, Assembly.stepEach, entered, ok_bind, binds,
              Assembly.readExpr, read]
            rfl
          exact assembleFrom_of_refusal found (.inl (by simp)) refused
  · simp only [enter, Limits.checkNesting, if_neg fits]
    exact .stopped (assembleFrom_of_refusal found (.inl (by simp))
      (step_of_not_fits (.inr rfl) fits content position))

/-- A node in front of what an assembly goes on with. -/
theorem Agrees.push
    {start : Template.Reading}
    {enclosing : Enclosing}
    {frames : List Frame}
    {nodes : List Node}
    {node : Node}
    {current floor : Nat}
    {indexed : Except Halt (List Node × { later : Nat // current ≤ later })}
    (goesOn :
      start =
        Template.assembleFrom context base ⟨node :: nodes, frames⟩ (segments.drop current))
    (agrees :
      Agrees
        (Template.assembleFrom context base ⟨node :: nodes, frames⟩ (segments.drop current))
        (fun body later =>
          Ends segments enclosing later ∧
            Template.assembleFrom context base ⟨node :: nodes, frames⟩
                (segments.drop current) =
              Template.assembleFrom context base ⟨body.reverse ++ node :: nodes, frames⟩
                (segments.drop later))
        indexed)
    (inside : floor ≤ current) :
    Agrees start
      (fun body later =>
        Ends segments enclosing later ∧
          start =
            Template.assembleFrom context base ⟨body.reverse ++ nodes, frames⟩
              (segments.drop later))
      (do
        let (others, ⟨later, further⟩) ← indexed
        return (node :: others, (⟨later, by omega⟩ : { later : Nat // floor ≤ later }))) := by
  refine agrees.elim (fun others later reached => ?_) (fun error fails => ?_)
  · refine .read ⟨reached.1, ?_⟩
    rw [goesOn, reached.2]
    simp
  · exact .stopped (by rw [goesOn, fails])

/-- A closing tag does not close another block. -/
theorem step_of_ne_closing
    {closing : Closing}
    {frame : Frame}
    (other : closing ≠ frame.block.closing)
    {nodes : List Node}
    {outer : List Frame}
    {content : String}
    {position : Int} :
    Assembly.step context base ⟨nodes, frame :: outer⟩ ⟨.closing closing, content, position⟩ =
      .error
        ⟨.parse (.unexpectedClosing closing.keyword (some frame.block.closingKeyword))
            (some position) context.source, false, base + (outer.length + 1)⟩ := by
  simp only [Assembly.step, Assembly.stepClosing, if_neg other]
  rfl

/-- Wherever a body is read by index, an assembly reads it from there. -/
theorem body_agrees (current : Nat) : BodyAgrees context segments base current := by
  induction remaining : segments.length - current using Nat.strong_induction_on
    generalizing current with
  | h remaining inductionHypothesis =>
  intro enclosing frames nodes reads
  rw [body.eq_def]
  by_cases inside : current < segments.length
  · rw [dif_pos inside]
    have behind : ∀ later, current < later → BodyAgrees context segments base later :=
      fun later beyond => inductionHypothesis (segments.length - later) (by omega) later rfl
    have found : segments[current]? = some segments[current] :=
      List.getElem?_eq_getElem inside
    generalize segments[current] = segment at found
    obtain ⟨kind, content, position⟩ := segment
    have listed := drop_of_getElem? found
    cases kind with
    | text =>
        refine .push ?_ (behind (current + 1) (Nat.lt_succ_self _) (.text content :: nodes)
          reads) (Nat.le_succ _)
        rw [listed]
        exact Assembly.assembleFrom_of_adds (.text content position) _
    | output =>
        refine readExpr_elim (fun expr read => ?_) (fun error read => ?_)
        · refine .push ?_ (behind (current + 1) (Nat.lt_succ_self _)
            (.output expr :: nodes) reads) (Nat.le_succ _)
          rw [listed]
          exact Assembly.assembleFrom_of_adds (.output position read) _
        · exact assembleFrom_of_refusal found (.inl (by simp))
            (step_of_unread (.inl rfl) read _ position)
    | rawOutput =>
        refine readExpr_elim (fun expr read => ?_) (fun error read => ?_)
        · refine .push ?_ (behind (current + 1) (Nat.lt_succ_self _)
            (.rawOutput expr :: nodes) reads) (Nat.le_succ _)
          rw [listed]
          exact Assembly.assembleFrom_of_adds (.rawOutput position read) _
        · exact assembleFrom_of_refusal found (.inl (by simp))
            (step_of_unread (.inr rfl) read _ position)
    | opening opening =>
        cases opening with
        | ifBlock =>
            dsimp only
            refine (conditional_agrees behind found nodes frames).elim
              (fun node later goesOn => ?_) (fun error fails => .stopped fails)
            exact .push goesOn (behind later.val later.property (node :: nodes) reads)
              (Nat.le_of_lt later.property)
        | eachBlock =>
            dsimp only
            refine (loop_agrees behind found nodes frames).elim
              (fun node later goesOn => ?_) (fun error fails => .stopped fails)
            exact .push goesOn (behind later.val later.property (node :: nodes) reads)
              (Nat.le_of_lt later.property)
        | elifBranch =>
            cases reads with
            | branch | otherwise => exact .read ⟨.elifBranch found, rfl⟩
            | template | loop =>
                exact .stopped (assembleFrom_of_refusal found (.inl (by simp)) rfl)
        | elseBranch =>
            cases reads with
            | branch | otherwise => exact .read ⟨.elseBranch found, rfl⟩
            | template | loop =>
                exact .stopped (assembleFrom_of_refusal found (.inl (by simp)) rfl)
        | other keyword =>
            exact .stopped (assembleFrom_of_refusal found (.inl (by simp)) rfl)
    | closing closing =>
        by_cases closes : closing = enclosing.closing
        · subst closes
          simp only [if_true]
          exact .read ⟨.closing found, rfl⟩
        · simp only [if_neg closes]
          refine .stopped ?_
          cases reads with
          | template =>
              exact assembleFrom_of_refusal found
                (.inl fun same => closes (SegmentKind.closing.inj same)) rfl
          | _ =>
              exact assembleFrom_of_refusal found (.inr (by simp)) (step_of_ne_closing closes)
  · rw [dif_neg inside]
    have none : segments.drop current = [] := List.drop_of_length_le (by omega)
    cases reads with
    | template => exact .read ⟨.done none, rfl⟩
    | _ =>
        refine .stopped ?_
        rw [none]
        rfl

end IndexedAssembly

/-- The template that a text writes, read by index. -/
def Template.parseByIndex (limits : Limits) (known : String → Bool) (source : String) :
    Except Halt Template :=
  match Segment.ofTemplate limits source with
  | .error error => .error (.rejected error)
  | .ok segments => do
    let context : AssemblyContext := { source := some source, known, limits }
    let (nodes, _) ← IndexedAssembly.body context segments .template 0 0
    return nodes

/-- Reading blocks by index gives what parsing gives: it never looks behind the last segment,
nor do the parsers of its expressions look outside of their tokens. -/
theorem Template.parseByIndex_eq (limits : Limits) (known : String → Bool) (source : String) :
    parseByIndex limits known source =
      match parse limits known source with
      | .error error => .error (.rejected error)
      | .ok template => .ok template := by
  simp only [parseByIndex, parse, parseWithSegments]
  cases Segment.ofTemplate limits source with
  | error error => rfl
  | ok segments =>
      simp only [ok_bind, ofSegments, parseFrom]
      refine (@IndexedAssembly.body_agrees _ segments 0 0 _ _ [] .template).elim
        (fun nodes last reached => ?_) (fun error fails => ?_)
      · obtain ⟨ends, goesOn⟩ := reached
        rw [List.drop_zero, List.append_nil] at goesOn
        have whole :
            (assembleFrom { source := some source, known, limits } 0 .empty segments).1 =
              .ok nodes := by
          refine (congrArg Prod.fst goesOn).trans ?_
          cases ends with
          | closing found =>
              rw [IndexedAssembly.drop_of_getElem? found, assembleFrom, if_pos ⟨rfl, rfl⟩,
                List.reverse_reverse]
          | done none =>
              rw [none, assembleFrom, Assembly.finish]
              exact congrArg Except.ok (List.reverse_reverse nodes)
        rw [whole]
        rfl
      · have whole :
            (assembleFrom { source := some source, known, limits } 0 .empty segments).1 =
              .error error := fails
        rw [whole]
        rfl

end Templating
