import Templating.Proofs.Expr.Names
import Templating.Proofs.Printing.Derivations
import Templating.Proofs.Segment.Padding
import Templating.Proofs.Template.Sources

/-!
# Templates of one call

A name that a function can have is scanned as one token, and no other text is scanned as
a name. With an argument list behind it the name is a call, also where it spells the
keyword of a block: such a keyword stands alone or has a blank behind it.
-/

namespace Templating

namespace Token

variable {limits : Limits} {name : String}

/-- The names that a function can have are the texts that are scanned as a single name,
which begins with the text and ends with it. -/
theorem scan_eq_name_iff (short : name.toList.length ≤ limits.expressionLength) :
    scan limits name = .ok [⟨.name, name, 0⟩] ↔ isFunctionName name = true := by
  rw [scan_eq_scanFrom short]
  constructor
  · intro scanned
    exact isFunctionName_of_scanFrom scanned _ List.mem_cons_self rfl
  · intro isName
    have written := (@Writes.name name 0 [] name isName (by simp)).scans
    rwa [List.append_nil, scanFrom] at written

end Token

namespace Tag

/-- The text of a call without arguments. -/
def call (name : String) : List Char := name.toList ++ ['(', ')']

variable {name : String}

/-- A text without blanks that is no keyword makes no block tag. -/
theorem not_isBlock_of_visible
    {text : List Char}
    (visible : ∀ character ∈ text, Text.isBlank character = false)
    (notLone : ∀ entry ∈ loneKeywords, text ≠ entry.1.toList) :
    ¬IsBlock text := by
  rintro (⟨entry, -, argument, holds⟩ | ⟨entry, isLone, same⟩)
  · obtain ⟨blanks, split, someBlanks, blank⟩ := holds.split
    obtain ⟨first, others, rfl⟩ := List.exists_cons_of_ne_nil someBlanks
    have seen := visible first (by simp [split])
    exact Bool.false_ne_true (seen.symm.trans (blank first List.mem_cons_self))
  · exact notLone entry isLone same

/-- A call is no block tag, whatever the name of the function spells. -/
theorem not_isBlock_call
    (isName : ∀ character ∈ name.toList, Text.isWord character = true) :
    ¬IsBlock (call name) := by
  refine not_isBlock_of_visible (List.forall_mem_append.2
    ⟨fun character inside => Text.not_isBlank_of_isWord (isName character inside),
      by simp [Text.isBlank]⟩) fun entry isLone same => ?_
  have parenthesis : '(' ∈ entry.1.toList := same ▸ by simp [call]
  simp only [loneKeywords, List.mem_cons, List.not_mem_nil, or_false] at isLone
  rcases isLone with rfl | rfl | rfl <;> exact absurd parenthesis (by decide)

end Tag

variable {limits : Limits} {known : String → Bool} {name : String}

/-- A text that writes an operand alone is parsed to what the operand means. -/
theorem Expr.parse_primary
    {source : String}
    {nesting : Nat}
    {primary : Grammar.Derivation (.expression .primary)}
    (writes : primary.Writes known source 0 source.toList [] nesting)
    (short : source.toList.length ≤ limits.expressionLength)
    (shallow : nesting ≤ limits.expressionDepth) :
    parse limits known source = .ok primary.meaning := by
  obtain ⟨written, calls, nests⟩ := writes
  let derivation : Grammar.Derivation Grammar.whole :=
    @Grammar.Derivation.chain .disjunction
      (@Grammar.Derivation.chain .conjunction (.single (.primary primary)) .noLink)
      .noLink
  have scanned := written.scans
  rw [List.append_nil, Token.scanFrom] at scanned
  refine (parse_eq_ok ..).2 ⟨short, derivation.tokens, ?_, ?_⟩
  · simpa [derivation, Except.map] using scanned
  · refine (Grammar.parseFrom_eq_ok ..).2 ⟨derivation, rfl, ⟨?_, ?_⟩, rfl⟩
    · simpa [derivation] using calls
    · simpa [derivation, nests] using shallow

/-- A call without arguments is parsed to the call of the function. -/
theorem Expr.parse_call
    (isName : isFunctionName name = true)
    (isKnown : known name = true)
    (short : (Tag.call name).length ≤ limits.expressionLength) :
    parse limits known (String.ofList (Tag.call name)) = .ok (.call 0 name []) := by
  have named :
      Token.Writes (String.ofList (Tag.call name)) 0 name.toList [⟨.name, name, 0⟩]
        (Text.parenthesized [] ++ []) :=
    .name isName (by rintro _ ⟨⟩; decide)
  have written := named.append Token.Writes.nil.parenthesized
  let called : Grammar.Derivation (.expression .primary) :=
    .call ⟨name, 0⟩ ⟨String.ofList ['('], 0 + name.toList.length⟩ .noArgument
      ⟨String.ofList [')'], 0 + name.toList.length + 1⟩
  have writes :
      called.Writes known (String.ofList (Tag.call name)) 0
        (String.ofList (Tag.call name)).toList [] 1 :=
    ⟨by rwa [String.toList_ofList], by simpa [called] using isKnown, rfl⟩
  rw [← String.toList_ofList (l := Tag.call name)] at short
  exact parse_primary writes short limits.expressionDepth_pos

/-- A name is parsed to the reference to it. -/
theorem Expr.parse_reference
    (isName : isFunctionName name = true)
    (short : name.toList.length ≤ limits.expressionLength) :
    parse limits known name = .ok (.reference 0 name) := by
  have writes :
      (Grammar.Derivation.reference ⟨name, 0⟩).Writes known name 0 name.toList [] 0 :=
    ⟨.name isName (by simp), by simp, rfl⟩
  exact parse_primary writes short (Nat.zero_le _)

theorem ne_nil_of_isFunctionName (isName : isFunctionName name = true) :
    name.toList ≠ [] := by
  intro empty
  simp [isFunctionName, empty] at isName

/-- The characters of a name that a function can have. -/
theorem isWord_of_isFunctionName
    (isName : isFunctionName name = true) :
    ∀ character ∈ name.toList, Text.isWord character = true := by
  unfold isFunctionName at isName
  split at isName
  · cases isName
  · next first others spelled =>
      simp only [Bool.and_eq_true, List.all_eq_true] at isName
      rw [spelled]
      exact List.forall_mem_cons.2
        ⟨Text.isWord_of_isNameStart first isName.1.1, isName.1.2⟩

/-- A tag that holds a call without arguments is a template of this call. -/
theorem Template.parseWithSegments_call
    (isName : isFunctionName name = true)
    (isKnown : known name = true)
    (short : name.toList.length + 2 ≤ limits.expressionLength) :
    parseWithSegments limits known ("\x7b\x7b" ++ name ++ "()\x7d\x7d") =
      .ok ([⟨.output, name ++ "()", 0⟩], [.output (.call 0 name [])]) := by
  have isWord := isWord_of_isFunctionName isName
  have passes : Tag.Passes (Tag.call name) :=
    (Tag.Passes.ofWord isWord).append (.ofPlain (by decide) (by decide))
  have unmarked : (Tag.call name).head? ≠ some '!' := by
    intro marked
    rcases List.mem_append.1 (List.mem_of_mem_head? marked) with inside | inside
    · exact absurd (isWord _ inside) (by decide)
    · exact absurd inside (by decide)
  have kept : Text.trim Text.isMargin (Tag.call name) = Tag.call name :=
    Text.trim_eq_self (List.forall_mem_append.2
      ⟨fun character inside => Text.not_isMargin_of_isWord (isWord character inside),
        by simp [Text.isMargin]⟩)
  have classified : Tag.classify false (Tag.call name) = (.output, Tag.call name) :=
    Tag.classify_of_means (.expression (Tag.not_isBlock_call isWord))
  have size : (Tag.call name).length = name.toList.length + 2 := by simp [Tag.call]
  rw [← size] at short
  have lexed :
      Segment.ofTemplate limits (Tag.alone (Tag.call name)) =
        .ok [⟨.output, String.ofList (Tag.call name), 0⟩] := by
    refine (Segment.ofTemplate_alone_iff unmarked).2 ?_
    rw [kept, Segment.ofTag, classified]
    exact ⟨passes, short, rfl⟩
  have reads :
      Expr.parse limits known (String.ofList (Tag.call name)) = .ok (.call 0 name []) :=
    Expr.parse_call isName isKnown short
  have source :
      "\x7b\x7b" ++ name ++ "()\x7d\x7d" = Tag.alone (Tag.call name) := by
    rw [← String.toList_inj]
    simp [Tag.alone, Tag.call, Piece.printed]
  have content : name ++ "()" = String.ofList (Tag.call name) := by
    rw [← String.toList_inj]
    simp [Tag.call]
  have spelled :
      Node.Spelled ⟨some (Tag.alone (Tag.call name)), known, limits⟩
        (.output (.call 0 name [])) [⟨.output, String.ofList (Tag.call name), 0⟩] :=
    .output 0 reads
  rw [source, content]
  exact (bind_eq_ok ..).2 ⟨_, lexed, (bind_eq_ok ..).2
    ⟨_, ofSegments_of_allSpelled (.cons spelled .nil) (Nat.zero_le _), rfl⟩⟩

end Templating
