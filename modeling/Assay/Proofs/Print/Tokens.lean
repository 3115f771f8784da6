import Assay.Proofs.Print.Depth

/-!
# Tokens of a text, templates included

`lexemes` keeps a template as one lexeme. `tokens` goes on into its substitutions, so that all that the
printer writes itself is a lexeme of its own, however deep it stands, and `texts_tokens` says that the
tokens are still the whole text.
-/

set_option autoImplicit false

namespace Assay.Print

open Outcome

/-- The stretches of a template between its backticks. -/
def templateStretches (level : Nat) : List Quasi → List Node → List Stretch
  | quasis, [] => [.lexeme (.spelled (quasis.flatMap (·.raw)))]
  | [], _ :: _ => []
  | quasi :: quasis, expression :: rest =>
    .lexeme (.spelled quasi.raw) :: .own "$\x7b" :: .part level expression :: .own "\x7d" ::
      templateStretches level quasis rest

/-- The stretches of the text of a node, with those of a template. -/
def unfolded (level : Nat) : Node → List Stretch
  | .templateLiteral _ quasis expressions =>
    .own "`" :: templateStretches level quasis expressions ++ [.own "`"]
  | node => stretches level node

variable {level lower : Nat} {node part : Node} {t : Text}

theorem mem_of_mem_templateStretches {quasis : List Quasi} {expressions : List Node}
    (h : .part lower part ∈ templateStretches level quasis expressions) :
    lower = level ∧ part ∈ expressions := by
  fun_induction templateStretches level quasis expressions with
  | case1 | case2 => simp at h
  | case3 quasi quasis expression rest ih =>
    simp only [List.mem_cons, reduceCtorEq, Stretch.part.injEq, false_or] at h ⊢
    rcases h with ⟨rfl, rfl⟩ | hRest
    · exact ⟨rfl, .inl rfl⟩
    · exact ⟨(ih hRest).1, .inr (ih hRest).2⟩

theorem mem_parts_or_of_mem_unfolded (h : .part lower part ∈ unfolded level node) :
    part ∈ node.parts ∨ .part lower part ∈ stretches level node := by
  cases node
  case templateLiteral quasis expressions =>
    have hInner : .part lower part ∈ templateStretches level quasis expressions := by
      simpa [unfolded] using h
    exact .inl (List.mem_append_left _ (mem_of_mem_templateStretches hInner).2)
  all_goals exact .inr h

theorem sizeOf_lt_of_mem_unfolded (h : .part lower part ∈ unfolded level node) :
    sizeOf part < sizeOf node :=
  (mem_parts_or_of_mem_unfolded h).elim Node.sizeOf_lt_of_mem_parts sizeOf_lt_of_mem_stretches

/-- The tokens of the text of a node. -/
def tokens (level : Nat) (node : Node) : List Lexeme :=
  (unfolded level node).attach.flatMap fun
    | ⟨.lexeme lexeme, _⟩ => [lexeme]
    | ⟨.part lower part, _⟩ => tokens lower part
termination_by sizeOf node
decreasing_by exact sizeOf_lt_of_mem_unfolded ‹_›

/-- The tokens of several stretches. -/
def strung (parts : List Stretch) : List Lexeme :=
  parts.flatMap fun
    | .lexeme lexeme => [lexeme]
    | .part level node => tokens level node

theorem tokens_eq (level : Nat) (node : Node) : tokens level node = strung (unfolded level node) := by
  rw [tokens, strung]
  conv_rhs => rw [← List.attach_map_subtype_val (unfolded level node), List.flatMap_map]
  congr
  funext ⟨stretch, _⟩
  cases stretch <;> rfl

@[simp]
theorem strung_nil : strung [] = [] := rfl

@[simp]
theorem strung_lexeme (lexeme : Lexeme) (rest : List Stretch) :
    strung (.lexeme lexeme :: rest) = lexeme :: strung rest := rfl

@[simp]
theorem strung_part (rest : List Stretch) :
    strung (.part level node :: rest) = tokens level node ++ strung rest := rfl

@[simp]
theorem strung_append (first second : List Stretch) :
    strung (first ++ second) = strung first ++ strung second :=
  List.flatMap_append

/-! ## The tokens are the text -/

theorem succeeds_of_mem_segments {segments : List Segment} (h : spell segments = .ok t)
    {segment : Segment} (hMem : segment ∈ segments) : Succeeds segment.write := by
  induction segments generalizing t with
  | nil => cases hMem
  | cons first rest ih =>
    obtain ⟨text, hFirst, others, hOthers, -⟩ := spell_cons_eq_ok.1 h
    rcases List.mem_cons.1 hMem with rfl | hRest
    · exact ⟨text, hFirst⟩
    · exact ih hOthers hRest

theorem succeeds_of_printList {nodes : List Node} {items : List Text}
    (h : printList level nodes = .ok items) (hMem : node ∈ nodes) : Succeeds (printAt level node) := by
  rw [printList_eq_mapM] at h
  exact succeeds_of_mapM h node hMem

/-- What is set into a text is printed, if the text is. -/
theorem Setting.succeeds_of_mem {setting : Setting} (h : setting.write level node = .ok t)
    (hMem : .part lower part ∈ setting.stretches level node) : Succeeds (printAt lower part) := by
  cases setting with
  | plain =>
    obtain ⟨rfl, rfl⟩ : lower = level ∧ part = node := by simpa [Setting.stretches] using hMem
    exact ⟨t, h⟩
  | wrapped parens =>
    simp only [Setting.write, bind_eq_ok] at h
    obtain ⟨inner, hInner, -⟩ := h
    obtain ⟨rfl, rfl⟩ := part_mem_parenthesized.1 hMem
    exact ⟨inner, hInner⟩
  | operand parent operator side =>
    simp only [Setting.write, bind_eq_ok] at h
    obtain ⟨parens, -, inner, hInner, -⟩ := h
    obtain ⟨rfl, rfl⟩ := part_mem_parenthesized.1 hMem
    exact ⟨inner, hInner⟩
  | argument operator =>
    have hInner : Succeeds (printAt level node) := by
      by_cases hRank : precedence node < 15
      · simp only [Setting.write, hRank, if_true, bind_eq_ok] at h
        obtain ⟨space, -, inner, hInner, -⟩ := h
        exact ⟨inner, hInner⟩
      · simp only [Setting.write, hRank, if_false, bind_eq_ok] at h
        obtain ⟨space, -, inner, hInner, -⟩ := h
        exact ⟨inner, hInner⟩
    simp only [Setting.stretches, List.mem_cons, reduceCtorEq, false_or] at hMem
    obtain ⟨rfl, rfl⟩ := part_mem_parenthesized.1 hMem
    exact hInner
  | statement =>
    simp only [Setting.write, bind_eq_ok] at h
    obtain ⟨inner, hInner, -⟩ := h
    simp only [Setting.stretches, List.mem_append, List.mem_singleton, reduceCtorEq,
      or_false] at hMem
    obtain ⟨rfl, rfl⟩ := part_mem_parenthesized.1 hMem
    exact ⟨inner, hInner⟩
  | head =>
    simp only [Setting.write, bind_eq_ok] at h
    obtain ⟨inner, hInner, -⟩ := h
    cases node
    case variableDeclaration =>
      simp only [printAt, bind_eq_ok] at hInner
      obtain ⟨items, hItems, -⟩ := hInner
      simp only [Setting.stretches, List.mem_cons, reduceCtorEq, false_or] at hMem
      obtain ⟨rfl, hPart⟩ := part_mem_listed.1 hMem
      exact succeeds_of_printList hItems hPart
    all_goals
      simp only [Setting.stretches, List.mem_singleton, Stretch.part.injEq] at hMem
      obtain ⟨rfl, rfl⟩ := hMem
      exact ⟨inner, hInner⟩
  | arm =>
    by_cases hBlock : node.isBlock = true
    · simp only [Setting.write, hBlock, if_true] at h
      simp only [Setting.stretches, hBlock, if_true, List.mem_singleton, Stretch.part.injEq] at hMem
      obtain ⟨rfl, rfl⟩ := hMem
      exact ⟨t, h⟩
    · simp only [Setting.write, hBlock, Bool.false_eq_true, if_false, bind_eq_ok] at h
      obtain ⟨inner, hInner, -⟩ := h
      simp only [Setting.stretches, hBlock, Bool.false_eq_true, if_false, List.mem_cons,
        List.not_mem_nil, reduceCtorEq, Stretch.part.injEq, false_or, or_false] at hMem
      obtain ⟨rfl, rfl⟩ := hMem
      exact ⟨inner, hInner⟩
  | method =>
    cases node
    case function =>
      simp only [Setting.write, methodTail, bind_eq_ok] at h
      obtain ⟨items, hItems, inner, hInner, -⟩ := h
      simp only [Setting.stretches, List.mem_append, List.mem_cons, List.not_mem_nil, reduceCtorEq,
        Stretch.part.injEq, false_or, or_false, part_mem_listed] at hMem
      rcases hMem with ⟨rfl, hPart⟩ | ⟨rfl, rfl⟩
      · exact succeeds_of_printList hItems hPart
      · exact ⟨inner, hInner⟩
    all_goals cases h

theorem Segment.succeeds_of_mem {segment : Segment} (h : Succeeds segment.write)
    (hMem : .part lower part ∈ segment.stretches) : Succeeds (printAt lower part) := by
  cases segment with
  | token text => simp [Segment.stretches] at hMem
  | part setting outer inner =>
    obtain ⟨text, hText⟩ := h
    exact Setting.succeeds_of_mem hText hMem

/-- A sign that counts as one of the program does not change the parts. -/
theorem mem_segments_of_mem_stretches (h : .part lower part ∈ stretches level node) :
    ∃ segment ∈ segments level node, .part lower part ∈ segment.stretches := by
  cases node
  case identifier | privateIdentifier | literal | templateLiteral => simp [stretches] at h
  case variableDeclaration =>
    apply List.mem_flatMap.1
    simpa [stretches, segments, headSegments, Segment.stretches, Setting.stretches,
      stretches_items] using h
  case update leading _ =>
    cases leading <;> simpa [stretches, segments, Segment.stretches] using h
  case unary | binary | logical | assignment =>
    simpa [stretches, segments, Segment.stretches, Setting.stretches] using h
  all_goals exact List.mem_flatMap.1 h

theorem succeeds_of_mem_stretches (h : printAt level node = .ok t)
    (hMem : .part lower part ∈ stretches level node) : Succeeds (printAt lower part) := by
  obtain ⟨segment, hSegment, hPart⟩ := mem_segments_of_mem_stretches hMem
  exact Segment.succeeds_of_mem (succeeds_of_mem_segments (spell_segments h) hSegment) hPart

theorem texts_strung {parts : List Stretch}
    (h : ∀ lower part, .part lower part ∈ parts →
      texts (tokens lower part) = texts (lexemes lower part)) :
    texts (strung parts) = texts (laid parts) := by
  induction parts with
  | nil => rfl
  | cons stretch rest ih =>
    have hRest := ih fun lower part hMem => h lower part (List.mem_cons_of_mem stretch hMem)
    cases stretch with
    | lexeme lexeme => simp [hRest]
    | part lower part => simp [hRest, h lower part List.mem_cons_self]

theorem texts_templateStretches {quasis : List Quasi} {expressions : List Node}
    (hPrint : printTemplate level quasis expressions = .ok t)
    (h : ∀ part, .part level part ∈ templateStretches level quasis expressions →
      ∀ text, printAt level part = .ok text → texts (tokens level part) = text) :
    texts (strung (templateStretches level quasis expressions)) = t := by
  fun_induction templateStretches level quasis expressions generalizing t with
  | case1 quasis =>
    cases hPrint
    simp [Lexeme.text]
  | case2 =>
    cases hPrint
    rfl
  | case3 quasi quasis expression rest ih =>
    simp only [printTemplate, bind_eq_ok, pure_eq_ok] at hPrint
    obtain ⟨inside, hInside, more, hMore, rfl⟩ := hPrint
    have hFirst := h expression (by simp) inside hInside
    have hRest := ih hMore fun part hPart => h part (by simp [hPart])
    simp [hFirst, hRest, Lexeme.text]

/-- The tokens of a node are the text that is printed for it. -/
theorem texts_tokens (level : Nat) (node : Node) (t : Text) (h : printAt level node = .ok t) :
    texts (tokens level node) = t := by
  have hParts (lower : Nat) (part : Node) (hMem : .part lower part ∈ unfolded level node)
      (text : Text) (hText : printAt lower part = .ok text) : texts (tokens lower part) = text :=
    texts_tokens lower part text hText
  rw [tokens_eq]
  by_cases hTemplate : ∃ span quasis expressions, node = .templateLiteral span quasis expressions
  · obtain ⟨span, quasis, expressions, rfl⟩ := hTemplate
    simp only [printAt, bind_eq_ok, pure_eq_ok] at h
    obtain ⟨inner, hInner, rfl⟩ := h
    have hInside := texts_templateStretches hInner fun part hMem =>
      hParts level part (by simp [unfolded, hMem])
    simp [unfolded, hInside, Lexeme.text]
  · have hSame : unfolded level node = stretches level node := by
      unfold unfolded
      split
      · exact absurd ⟨_, _, _, rfl⟩ hTemplate
      · rfl
    rw [hSame] at hParts ⊢
    rw [texts_strung, ← lexemes_eq, told node level t h]
    intro lower part hMem
    obtain ⟨text, hText⟩ := succeeds_of_mem_stretches h hMem
    rw [hParts lower part hMem text hText, told part lower text hText]
termination_by sizeOf node
decreasing_by exact sizeOf_lt_of_mem_unfolded hMem

end Assay.Print
