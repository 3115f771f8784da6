import Assay.Proofs.Mutation.Distinct
import Assay.Proofs.Print.Indentation
import Assay.Proofs.Print.Levels
import Assay.Proofs.Print.Tokens

/-!
# Where the altered node stands in the text

`Print.Lies` says at which level a node stands in the text of a whole, and between which tokens.
The node that a mutant reports lies so in the altered program, and its text there is the text that
the mutant reports, which is printed on its own, up to the indentation of that level.
-/

set_option autoImplicit false

namespace Assay

open Outcome

namespace Print

/-- A node stands at some level in the text of a whole, between the given tokens. -/
inductive Lies : Nat → Node → List Lexeme → Nat → Node → List Lexeme → Prop
  | here {level : Nat} {node : Node} : Lies level node [] level node []
  | inside {level lower inner : Nat} {whole part node : Node} {before after : List Stretch}
      {front back : List Lexeme} : unfolded level whole = before ++ .part lower part :: after →
      Lies lower part front inner node back →
      Lies level whole (strung before ++ front) inner node (back ++ strung after)

variable {level lower inner : Nat} {whole part node : Node} {front back : List Lexeme}

theorem Lies.tokens_eq (h : Lies level whole front inner node back) :
    tokens level whole = front ++ tokens inner node ++ back := by
  induction h with
  | here => simp
  | inside hUnfolded _ ih => rw [Print.tokens_eq, hUnfolded]; simp [ih]

/-- The node stands somewhere in the text of the whole. -/
def Stands (node : Node) (level : Nat) (whole : Node) : Prop :=
  ∃ front inner back, Lies level whole front inner node back

theorem Stands.inside (hMem : .part lower part ∈ unfolded level whole)
    (h : Stands node lower part) : Stands node level whole := by
  obtain ⟨front, inner, back, hLies⟩ := h
  obtain ⟨before, after, hUnfolded⟩ := List.append_of_mem hMem
  exact ⟨_, _, _, .inside hUnfolded hLies⟩

/-- The node stands in the text of the whole, in whatever setting the whole is printed. -/
def Shown (node whole : Node) : Prop :=
  ∀ level (setting : Setting), Succeeds (setting.write level whole) →
    ∃ lower part, .part lower part ∈ setting.stretches level whole ∧ Stands node lower part

/-- Only a declaration in the head of a loop and a method are not printed as they are. -/
theorem mem_setting {setting : Setting} {t : Text} (hT : setting.write level whole = .ok t) :
    (∃ lower, .part lower whole ∈ setting.stretches level whole) ∨
      setting = .head ∧ isDeclaration whole = true ∨
      setting = .method ∧ (signature? whole).isSome = true := by
  cases setting
  case head =>
    cases whole
    case variableDeclaration => exact .inr (.inl ⟨rfl, rfl⟩)
    all_goals exact .inl ⟨level, List.mem_singleton.mpr rfl⟩
  case method =>
    cases whole
    case function => exact .inr (.inr ⟨rfl, rfl⟩)
    all_goals cases hT
  case arm => cases hBlock : whole.isBlock <;> simp [Setting.stretches, hBlock]
  all_goals exact .inl ⟨level, by simp [Setting.stretches, part_mem_parenthesized]⟩

theorem mem_templateStretches {quasis : List Quasi} {expressions : List Node} {segment : Segment}
    (hSegment : segment ∈ templateSegments level quasis expressions)
    (h : .part lower part ∈ segment.stretches) :
    .part lower part ∈ templateStretches level quasis expressions := by
  fun_induction templateSegments level quasis expressions with
  | case1 | case2 => simp_all [Segment.stretches]
  | case3 quasi quasis expression rest ih =>
    simp only [List.mem_cons] at hSegment
    rcases hSegment with rfl | rfl | rfl | rfl | hRest
    all_goals simp_all [templateStretches, Segment.stretches, Setting.stretches]

/-- The parts of the segments are those of the text. -/
theorem mem_unfolded {segment : Segment} (hSegment : segment ∈ segments level whole)
    (h : .part lower part ∈ segment.stretches) : .part lower part ∈ unfolded level whole := by
  have hMem := List.mem_flatMap.mpr ⟨segment, hSegment, h⟩
  cases whole
  case identifier | privateIdentifier | literal => simp [segments, Segment.stretches] at hMem
  case templateLiteral =>
    rcases List.mem_cons.mp hSegment with rfl | hSegment
    · simp [Segment.stretches] at h
    rcases List.mem_append.mp hSegment with hInner | hLast
    · exact List.mem_cons_of_mem _ (List.mem_append_left _ (mem_templateStretches hInner h))
    · rw [List.mem_singleton.mp hLast] at h
      simp [Segment.stretches] at h
  case update leading _ =>
    cases leading <;> simpa [unfolded, stretches, segments, Segment.stretches] using hMem
  case variableDeclaration | unary | binary | logical | assignment =>
    simpa [unfolded, stretches, segments, headSegments, Segment.stretches, Setting.stretches,
      stretches_items] using hMem
  all_goals exact hMem

/-- What stands in a part that is printed stands in the whole. -/
theorem Shown.stands (h : Shown node part)
    (hSegment : ∃ setting lower, .part setting lower part ∈ segments level whole)
    (hPrint : Succeeds (printAt level whole)) : Stands node level whole := by
  obtain ⟨setting, lower, hSegment⟩ := hSegment
  obtain ⟨t, hT⟩ := hPrint
  have hWrite := succeeds_of_mem_segments (spell_segments hT) hSegment
  obtain ⟨depth, inner, hMem, hStands⟩ := h lower setting hWrite
  exact hStands.inside (mem_unfolded hSegment hMem)

theorem mem_templateSegments {quasis : List Quasi} {expressions : List Node}
    (hLength : expressions.length ≤ quasis.length) (h : node ∈ expressions) :
    .part .plain level node ∈ templateSegments level quasis expressions := by
  fun_induction templateSegments level quasis expressions with
  | case1 | case2 => simp_all
  | case3 quasi quasis expression rest ih =>
    rcases List.mem_cons.mp h with rfl | hRest
    · simp
    · simp [ih (by simpa using hLength) hRest]

/-- A part that was replaced has a segment. -/
theorem exists_segment {lexicon : Lexicon} {x y other : Node}
    (h : Node.Replaced x y node other) (hProper : node.Proper lexicon) (level : Nat) :
    ∃ setting lower, .part setting lower y ∈ segments level other := by
  cases h
  case' ifTest alternate | ifConsequent alternate => cases alternate
  case' caseBody test _ _ _ => cases test
  case' catchBody param => cases param
  case' declaratorName init => cases init
  case' functionParams form _ _ _ _ _ _ _ _ _ | functionBody form _ _ _ _ _ _ => cases form
  case' updateArgument leading => cases leading
  case' memberProperty computed _ => cases computed
  case propertyKey kind shorthand method =>
    obtain rfl : shorthand = false := by
      cases shorthand
      · rfl
      · cases hProper.2 rfl
    by_cases hMethod : (kind == "get" || kind == "set" || method) = true
    all_goals exact ⟨.plain, level, by simp [segments, hMethod, keySegments]⟩
  case propertyValue kind _ shorthand method =>
    by_cases hMethod : (kind == "get" || kind == "set" || method) = true
    · exact ⟨.method, level, by simp [segments, hMethod]⟩
    · refine ⟨.plain, level, ?_⟩
      cases shorthand <;> simp [segments, hMethod, item]
  case templateParts hIn =>
    refine ⟨.plain, level, List.mem_cons_of_mem _ (List.mem_append_left _ ?_)⟩
    refine mem_templateSegments ?_ hIn.mem_right
    rw [hIn.length_eq, show _ = _ from hProper]
    exact Nat.le_succ _
  all_goals try have hMem := ReplacedIn.mem_right ‹_›
  all_goals simp_all [segments, part_mem_series, part_mem_enclosed, headSegments, methodSegments,
    keySegments, item, line, mem_elim, part_mem_optional, part_mem_element, exists_or]

/-- What is shown by a part is shown by the whole in which the part was put. -/
theorem Shown.replaced {lexicon : Lexicon} {reported x y other : Node} (h : Shown reported y)
    (hReplaced : Node.Replaced x y node other) (hProper : node.Proper lexicon) :
    Shown reported other := by
  rintro level setting ⟨t, hT⟩
  have hPart (hMem : .part level y ∈ setting.stretches level other) : ∃ lower part,
      .part lower part ∈ setting.stretches level other ∧ Stands reported lower part := by
    obtain ⟨lower, part, hPart, hStands⟩ := h level .plain (Setting.succeeds_of_mem hT hMem)
    obtain ⟨rfl, rfl⟩ : lower = level ∧ part = y := by simpa [Setting.stretches] using hPart
    exact ⟨lower, part, hMem, hStands⟩
  rcases mem_setting hT with ⟨lower, hMem⟩ | ⟨rfl, hHead⟩ | ⟨rfl, hMethod⟩
  · exact ⟨lower, other, hMem, h.stands (exists_segment hReplaced hProper lower)
      (Setting.succeeds_of_mem hT hMem)⟩
  · apply hPart
    cases hReplaced <;> cases hHead
    rename_i hIn
    simp [Setting.stretches, part_mem_listed, hIn.mem_right]
  · apply hPart
    cases hReplaced <;> cases hMethod
    · rename_i hIn
      simp [Setting.stretches, part_mem_listed, hIn.mem_right]
    · simp [Setting.stretches]

end Print

namespace Mutate

open Print

end Mutate

namespace Mutation

open Mutate Print

end Mutation

end Assay
