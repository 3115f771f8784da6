import Assay.Proofs.Print.Segments

/-!
# Lexemes of a text and the brackets around them

`lexemes` are what the text of a node is put together from: what the printer writes itself, what is
spelled as in the program, and the operators of binary expressions. Brackets are counted in what
the printer writes itself only, so that those in a string or a template count for nothing, and
`told` says that the lexemes are the whole text.
-/

set_option autoImplicit false

namespace Assay

namespace Print

open Outcome

/-! ## Lexemes -/

variable {setting : Setting} {outer lower : Nat} {part : Node} {t : Text}

/-- A lexeme of a text. -/
inductive Lexeme where
  /-- A word, a sign, brackets or blanks of the printer. -/
  | own (text : Text)
  /-- A name, a literal, a template or a sign, spelled as in the program. -/
  | spelled (text : Text)
  /-- The operator of a binary expression. -/
  | operator (text : Text)
  deriving DecidableEq

namespace Lexeme

/-- The text of a lexeme. -/
def text : Lexeme → Text
  | own text | spelled text | operator text => text

/-- How many brackets a text opens that it does not close. -/
def opened (t : Text) : Int :=
  t.countP (Text.ofString "([\x7b").contains - t.countP (Text.ofString ")]\x7d").contains

/-- How many brackets are open behind a lexeme that are not open before it. -/
def shift : Lexeme → Int
  | own text => opened text
  | spelled _ | operator _ => 0

end Lexeme

/-- The text of several lexemes. -/
def texts (lexemes : List Lexeme) : Text := lexemes.flatMap Lexeme.text

/-- How many brackets are open behind several lexemes that are not open before them. -/
def shift : List Lexeme → Int
  | [] => 0
  | lexeme :: rest => lexeme.shift + shift rest

/-- An operator `in` stands outside of all brackets, if so many are open before the lexemes. -/
def BareIn : Int → List Lexeme → Prop
  | _, [] => False
  | depth, lexeme :: rest => depth = 0 ∧ lexeme = .operator "in" ∨ BareIn (depth + lexeme.shift) rest

/-! ## From nodes to lexemes -/

/-- A lexeme, or a part whose lexemes stand here. -/
inductive Stretch where
  | lexeme (lexeme : Lexeme)
  | part (level : Nat) (node : Node)

/-- What the printer writes itself. -/
abbrev Stretch.own (text : Text) : Stretch := .lexeme (.own text)

/-- A part, between parentheses or not. -/
def parenthesized (parens : Bool) (level : Nat) (node : Node) : List Stretch :=
  if parens then [.own "(", .part level node, .own ")"] else [.part level node]

/-- Parts one after the other, with commas. -/
def listed (level : Nat) (nodes : List Node) : List Stretch :=
  List.intercalate [.own ", "] (nodes.map fun node => [.part level node])

/-- Whether a part stands between parentheses as an operand. -/
def isEnclosed (node : Node) (parent : Nat) (operator : Text) (side : Side) : Bool :=
  (needsParens node parent operator side).toOption.getD false

/-- Whether an argument needs a blank before it. -/
def isSpaced (operator : Text) (argument : Node) : Bool :=
  15 ≤ precedence argument && (needsSpace operator argument).toOption.getD false

/-- Whether an expression stands between parentheses as a statement. -/
def isAmbiguous (level : Nat) (expression : Node) : Bool :=
  isAmbiguousStart ((printAt level expression).toOption.getD [])

/-- The stretches of a part in its setting. -/
def Setting.stretches (level : Nat) (node : Node) : Setting → List Stretch
  | .plain => [.part level node]
  | .wrapped parens => parenthesized (parens (outline node) (hints node)) level node
  | .operand parent operator side =>
    parenthesized (isEnclosed node parent operator side) level node
  | .argument operator =>
    .own (Text.ofString (if isSpaced operator node then " " else "")) ::
      parenthesized (precedence node < 15) level node
  | .statement => parenthesized (isAmbiguous level node) level node ++ [.own ";"]
  | .head =>
    match node with
    | .variableDeclaration _ kind declarations =>
      .lexeme (.spelled kind) :: .own " " :: listed level declarations
    | node => [.part level node]
  | .arm =>
    if node.isBlock then [.part level node]
    else [.own "\x7b\n", .own (indent (level + 1)), .part (level + 1) node, .own "\n",
      .own (indent level), .own "\x7d"]
  | .method =>
    match node with
    | .function _ _ _ params body _ _ _ =>
      listed level params ++ [.own ") ", .part level body]
    | _ => [.own ")"]

/-- The stretches of a segment. -/
def Segment.stretches : Segment → List Stretch
  | .token text => [.own text]
  | .part setting level node => setting.stretches level node

/-- The stretches of the text of a node. -/
def stretches (level : Nat) (node : Node) : List Stretch :=
  match node with
  | .identifier .. | .privateIdentifier .. | .literal .. | .templateLiteral .. =>
    [.lexeme (.spelled ((printAt level node).toOption.getD []))]
  | .variableDeclaration .. => Setting.head.stretches level node ++ [.own ";"]
  | .unary _ operator argument =>
    .lexeme (.spelled operator) :: (Setting.argument operator).stretches level argument
  | .update _ operator leading argument =>
    let argument := (Setting.wrapped (.below 19)).stretches level argument
    if leading then .lexeme (.spelled operator) :: argument
    else argument ++ [.lexeme (.spelled operator)]
  | .binary _ left operator right =>
    (Setting.operand 14 operator .left).stretches level left ++
      .own " " :: .lexeme (.operator operator) :: .own " " ::
      (Setting.operand 14 operator .right).stretches level right
  | .logical _ left operator right =>
    (Setting.operand 13 operator .left).stretches level left ++
      .own " " :: .lexeme (.spelled operator) :: .own " " ::
      (Setting.operand 13 operator .right).stretches level right
  | .assignment _ left operator right =>
    [.part level left, .own " ", .lexeme (.spelled operator), .own " ", .part level right]
  | node => (segments level node).flatMap Segment.stretches

variable {level : Nat} {node : Node}

theorem part_mem_series {separator : Text} {items : List (List Segment)} :
    .part setting level node ∈ series separator items ↔
      ∃ item ∈ items, .part setting level node ∈ item := by
  induction items with
  | nil => simp [series]
  | cons item items ih =>
    rw [series_cons]
    cases items <;> simp_all

theorem part_mem_enclosed {separator : Text} {lines : List (List Segment)} :
    .part setting level node ∈ enclosed outer separator lines ↔
      ∃ item ∈ lines, .part setting level node ∈ item := by
  unfold enclosed
  cases lines <;> simp [part_mem_series]

theorem part_mem_template {quasis : List Quasi} {expressions : List Node} :
    .part setting level node ∈ templateSegments outer quasis expressions → node ∈ expressions := by
  fun_induction templateSegments outer quasis expressions with
  | case1 | case2 => simp
  | case3 quasi quasis expression rest ih =>
    simp only [List.mem_cons, reduceCtorEq, Segment.part.injEq, false_or]
    rintro (⟨-, -, rfl⟩ | hRest)
    · exact .inl rfl
    · exact .inr (ih hRest)

theorem mem_elim {segment : Segment} {part : Option Node} {f : Node → List Segment} :
    segment ∈ part.elim [] f ↔ ∃ node ∈ part, segment ∈ f node := by
  cases part <;> simp

theorem part_mem_optional {lead : Text} {part : Option Node} :
    .part setting level node ∈ optional outer lead part ↔
      part = some node ∧ setting = .plain ∧ level = outer := by
  cases part with
  | none => simp [optional]
  | some part =>
    simp only [optional, List.mem_cons, reduceCtorEq, Segment.part.injEq, List.not_mem_nil,
      false_or, or_false, Option.some.injEq]
    grind

theorem part_mem_element {part : Option Node} :
    .part setting level node ∈ element outer part ↔
      part = some node ∧ setting = .plain ∧ level = outer := by
  cases part with
  | none => simp [element]
  | some part =>
    simp only [element, item, List.mem_singleton, Segment.part.injEq, Option.some.injEq]
    grind

/-- The segments of a node hold no other nodes than its parts. -/
theorem mem_parts_of_segments (h : .part setting lower part ∈ segments level node) :
    part ∈ node.parts := by
  fun_cases segments level node <;>
    simp_all [segments, Node.parts, Node.looseParts, Node.placedParts, part_mem_series,
      part_mem_enclosed, headSegments, methodSegments, keySegments, item, line, mem_elim,
      part_mem_optional, part_mem_element] <;>
    grind [part_mem_template]

theorem part_mem_parenthesized {parens : Bool} {inner : Node} :
    .part level node ∈ parenthesized parens outer inner ↔ level = outer ∧ node = inner := by
  cases parens <;> simp [parenthesized]

theorem part_mem_listed {nodes : List Node} :
    .part level node ∈ listed outer nodes ↔ level = outer ∧ node ∈ nodes := by
  unfold listed
  induction nodes with
  | nil => simp
  | cons first rest ih =>
    cases rest with
    | nil => simp
    | cons second rest =>
      simp only [List.map_cons, List.intercalate_cons_cons, List.mem_append, List.mem_cons] at ih ⊢
      rw [ih]
      simp only [Stretch.part.injEq, reduceCtorEq, List.not_mem_nil]
      grind

/-- What is set into a text is the node itself or its parts. -/
theorem Setting.eq_or_mem_parts (h : .part lower part ∈ setting.stretches level node) :
    part = node ∨ part ∈ node.parts := by
  fun_cases Setting.stretches level node setting <;>
    simp_all [Setting.stretches, part_mem_parenthesized, part_mem_listed, Node.parts,
      Node.looseParts, Node.placedParts]
  grind

theorem Setting.sizeOf_le (h : .part lower part ∈ setting.stretches level node) :
    sizeOf part ≤ sizeOf node := by
  obtain rfl | hPart := Setting.eq_or_mem_parts h
  · exact Nat.le_refl _
  · exact Nat.le_of_lt (Node.sizeOf_lt_of_mem_parts hPart)

theorem Segment.sizeOf_lt {segment : Segment} (hSegment : segment ∈ segments level node)
    (h : .part lower part ∈ segment.stretches) : sizeOf part < sizeOf node := by
  cases segment with
  | token text => simp [Segment.stretches] at h
  | part setting outer inner =>
    exact Nat.lt_of_le_of_lt (Setting.sizeOf_le h)
      (Node.sizeOf_lt_of_mem_parts (mem_parts_of_segments hSegment))

theorem sizeOf_lt_of_mem_stretches (h : .part lower part ∈ stretches level node) :
    sizeOf part < sizeOf node := by
  have hSet {setting : Setting} {inner : Node} (hPart : inner ∈ node.parts)
      (hMem : .part lower part ∈ setting.stretches level inner) : sizeOf part < sizeOf node :=
    Nat.lt_of_le_of_lt (Setting.sizeOf_le hMem) (Node.sizeOf_lt_of_mem_parts hPart)
  cases node
  case identifier | privateIdentifier | literal | templateLiteral => simp [stretches] at h
  case variableDeclaration =>
    refine Node.sizeOf_lt_of_mem_parts ?_
    simp only [stretches, Setting.stretches, List.cons_append, List.mem_cons, List.mem_append,
      part_mem_listed, reduceCtorEq, List.not_mem_nil, false_or, or_false] at h
    exact h.2
  case unary =>
    simp only [stretches, List.mem_cons, reduceCtorEq, false_or] at h
    exact hSet (by simp [Node.parts, Node.looseParts]) h
  case update leading argument =>
    have h : .part lower part ∈ (Setting.wrapped (.below 19)).stretches level argument := by
      cases leading <;> simpa [stretches] using h
    exact hSet (by simp [Node.parts, Node.looseParts]) h
  case binary | logical =>
    simp only [stretches, List.mem_cons, List.mem_append, reduceCtorEq, false_or] at h
    obtain hLeft | hRight := h
    · exact hSet (by simp [Node.parts, Node.looseParts]) hLeft
    · exact hSet (by simp [Node.parts, Node.looseParts]) hRight
  case assignment =>
    refine Node.sizeOf_lt_of_mem_parts ?_
    simp only [stretches, List.mem_cons, reduceCtorEq, Stretch.part.injEq, List.not_mem_nil,
      false_or, or_false] at h
    obtain ⟨-, rfl⟩ | ⟨-, rfl⟩ := h <;> simp [Node.parts, Node.looseParts]
  all_goals
    obtain ⟨segment, hSegment, hMem⟩ := List.mem_flatMap.1 h
    exact Segment.sizeOf_lt hSegment hMem

/-- The lexemes of the text of a node. -/
def lexemes (level : Nat) (node : Node) : List Lexeme :=
  (stretches level node).attach.flatMap fun
    | ⟨.lexeme lexeme, _⟩ => [lexeme]
    | ⟨.part lower part, _⟩ => lexemes lower part
termination_by sizeOf node
decreasing_by exact sizeOf_lt_of_mem_stretches ‹_›

/-- The lexemes of several stretches. -/
def laid (parts : List Stretch) : List Lexeme :=
  parts.flatMap fun
    | .lexeme lexeme => [lexeme]
    | .part level node => lexemes level node

theorem lexemes_eq (level : Nat) (node : Node) :
    lexemes level node = laid (stretches level node) := by
  rw [lexemes, laid]
  conv_rhs => rw [← List.attach_map_subtype_val (stretches level node), List.flatMap_map]
  congr
  funext ⟨stretch, _⟩
  cases stretch <;> rfl

@[simp]
theorem laid_nil : laid [] = [] := rfl

@[simp]
theorem laid_lexeme (lexeme : Lexeme) (rest : List Stretch) :
    laid (.lexeme lexeme :: rest) = lexeme :: laid rest := rfl

@[simp]
theorem laid_part (rest : List Stretch) :
    laid (.part level node :: rest) = lexemes level node ++ laid rest := rfl

@[simp]
theorem laid_append (first second : List Stretch) :
    laid (first ++ second) = laid first ++ laid second :=
  List.flatMap_append

@[simp]
theorem texts_nil : texts [] = [] := rfl

@[simp]
theorem texts_cons (lexeme : Lexeme) (rest : List Lexeme) :
    texts (lexeme :: rest) = lexeme.text ++ texts rest := rfl

@[simp]
theorem texts_append (first second : List Lexeme) :
    texts (first ++ second) = texts first ++ texts second :=
  List.flatMap_append

/-! ## The lexemes are the text -/

/-- The lexemes of a node are its text at every level. -/
def Told (node : Node) : Prop :=
  ∀ level, Ensures (printAt level node) fun t => texts (lexemes level node) = t

theorem texts_parenthesized {parens : Bool} (hNode : Told node) (hT : printAt level node = .ok t) :
    texts (laid (parenthesized parens level node)) = wrap parens t := by
  cases parens <;> simp [parenthesized, hNode level t hT, wrap, Lexeme.text]

theorem texts_listed {nodes : List Node} {items : List Text} (hNodes : ∀ part ∈ nodes, Told part)
    (h : printList level nodes = .ok items) : texts (laid (listed level nodes)) = commas items := by
  rw [printList_eq_mapM] at h
  have hItems := forall₂_of_mapM h
  clear h
  unfold listed commas Text.join
  induction hItems with
  | nil => rfl
  | @cons first t rest items hT hItems ih =>
    have hFirst := hNodes first List.mem_cons_self level t hT
    have hRest := ih fun part hPart => hNodes part (List.mem_cons_of_mem first hPart)
    cases hItems with
    | nil => simp [hFirst]
    | cons hSecond hItems =>
      simp only [List.map_cons, List.intercalate_cons_cons, laid_append, texts_append] at hRest ⊢
      rw [hRest]
      simp [hFirst, Lexeme.text]

theorem Setting.texts_stretches (hNode : Told node) (hParts : ∀ part ∈ node.parts, Told part)
    (hT : setting.write level node = .ok t) : texts (laid (setting.stretches level node)) = t := by
  cases setting with
  | plain => simpa [Setting.stretches] using hNode level t hT
  | wrapped parens =>
    simp only [Setting.write, bind_eq_ok, pure_eq_ok] at hT
    obtain ⟨inner, hInner, rfl⟩ := hT
    exact texts_parenthesized hNode hInner
  | operand parent operator side =>
    simp only [Setting.write, bind_eq_ok, pure_eq_ok] at hT
    obtain ⟨parens, hParens, inner, hInner, rfl⟩ := hT
    simp only [Setting.stretches, isEnclosed, hParens]
    exact texts_parenthesized hNode hInner
  | argument operator =>
    by_cases hRank : precedence node < 15
    · simp only [Setting.write, hRank, if_true, bind_eq_ok, pure_eq_ok,
        exists_eq_left'] at hT
      obtain ⟨inner, hInner, rfl⟩ := hT
      simp [Setting.stretches, isSpaced, hRank, Nat.not_le.2 hRank,
        texts_parenthesized hNode hInner,
        Lexeme.text]
    · simp only [Setting.write, hRank, if_false, bind_eq_ok, pure_eq_ok] at hT
      obtain ⟨space, hSpace, inner, hInner, rfl⟩ := hT
      have hSpaced : isSpaced operator node = space := by
        simp [isSpaced, hSpace, Nat.not_lt.1 hRank, Except.toOption]
      cases space <;>
        simp [Setting.stretches, hRank, hSpaced, texts_parenthesized hNode hInner, Lexeme.text]
  | statement =>
    simp only [Setting.write, bind_eq_ok, pure_eq_ok] at hT
    obtain ⟨inner, hInner, rfl⟩ := hT
    simp [Setting.stretches, isAmbiguous, hInner, texts_parenthesized hNode hInner, Except.toOption,
      statementText, Lexeme.text]
  | head =>
    simp only [Setting.write, bind_eq_ok, pure_eq_ok] at hT
    obtain ⟨inner, hInner, rfl⟩ := hT
    cases node
    case variableDeclaration span kind declarations =>
      simp only [printAt, bind_eq_ok, pure_eq_ok] at hInner
      obtain ⟨items, hItems, rfl⟩ := hInner
      have hList := texts_listed (fun part hPart => hParts part (by simp [Node.parts, hPart,
        Node.placedParts])) hItems
      have hDrop : loopHead (.variableDeclaration span kind declarations)
          (kind ++ Text.ofString " " ++ commas items ++ Text.ofString ";") =
          kind ++ Text.ofString " " ++ commas items :=
        List.dropLast_concat
      rw [hDrop]
      simp [Setting.stretches, hList, Lexeme.text]
    all_goals simpa [Setting.stretches, loopHead] using hNode level inner hInner
  | arm =>
    by_cases hBlock : node.isBlock = true
    · simp only [Setting.write, hBlock, if_true] at hT
      simpa [Setting.stretches, hBlock] using hNode level t hT
    · simp only [Setting.write, hBlock, Bool.false_eq_true, if_false, bind_eq_ok, pure_eq_ok] at hT
      obtain ⟨inner, hInner, rfl⟩ := hT
      simp [Setting.stretches, hBlock, hNode (level + 1) inner hInner, braces, Lexeme.text,
        Text.join]
  | method =>
    cases node
    case function body _ _ _ =>
      simp only [Setting.write, methodTail, bind_eq_ok, pure_eq_ok] at hT
      obtain ⟨items, hItems, inner, hInner, rfl⟩ := hT
      have hList := texts_listed (fun part hPart => hParts part (by simp [Node.parts, hPart,
        Node.looseParts])) hItems
      have hBody := hParts body (by simp [Node.parts, Node.looseParts]) level inner hInner
      simp [Setting.stretches, hList, hBody, Lexeme.text]
    all_goals cases hT

theorem texts_segments {parts : List Segment}
    (hParts : ∀ setting lower part, .part setting lower part ∈ parts → Told part ∧
      ∀ inner ∈ part.parts, Told inner)
    (h : spell parts = .ok t) : texts (laid (parts.flatMap Segment.stretches)) = t := by
  induction parts generalizing t with
  | nil =>
    cases h
    rfl
  | cons segment rest ih =>
    obtain ⟨first, hFirst, others, hOthers, rfl⟩ := spell_cons_eq_ok.1 h
    have hRest := ih (fun setting lower part hMem =>
      hParts setting lower part (List.mem_cons_of_mem segment hMem)) hOthers
    rw [List.flatMap_cons, laid_append, texts_append, hRest]
    cases segment with
    | token text =>
      cases hFirst
      simp [Segment.stretches, Lexeme.text]
    | part setting lower part =>
      obtain ⟨hPart, hInner⟩ := hParts setting lower part List.mem_cons_self
      rw [Segment.stretches, Setting.texts_stretches hPart hInner hFirst]

theorem stretches_items (nodes : List Node) :
    (series ", " (nodes.map (item level))).flatMap Segment.stretches = listed level nodes := by
  unfold series listed
  induction nodes with
  | nil => rfl
  | cons first rest ih =>
    cases rest with
    | nil => rfl
    | cons second rest =>
      simp only [List.map_cons, List.intercalate_cons_cons, List.flatMap_append] at ih ⊢
      rw [ih]
      rfl

/-- Whether a node has one lexeme for its whole text. -/
def isKept : Node → Bool
  | .identifier .. | .privateIdentifier .. | .literal .. | .templateLiteral .. => true
  | _ => false

/-- For the text it does not matter whether a token is counted as a sign of the program. -/
theorem texts_stretches (h : isKept node = false) :
    texts (laid (stretches level node)) =
      texts (laid ((segments level node).flatMap Segment.stretches)) := by
  cases node
  case variableDeclaration =>
    simp [stretches, segments, headSegments, Segment.stretches, Setting.stretches, stretches_items,
      Lexeme.text]
  case update leading _ =>
    cases leading <;> simp [stretches, segments, Segment.stretches, Lexeme.text]
  case unary | binary | logical | assignment =>
    simp [stretches, segments, Segment.stretches, Setting.stretches, Lexeme.text]
  case identifier | privateIdentifier | literal | templateLiteral => cases h
  all_goals rfl

/-- The lexemes of a node are the text that is printed for it. -/
theorem told (node : Node) : Told node := by
  have hParts (part : Node) (hPart : part ∈ node.parts) : Told part := told part
  have hInner (part : Node) (hPart : part ∈ node.parts) (inner : Node)
      (hInner : inner ∈ part.parts) : Told inner := told inner
  intro level t hT
  rw [lexemes_eq]
  by_cases hKept : isKept node = true
  · cases node
    case identifier | privateIdentifier | literal | templateLiteral =>
      simp [stretches, hT, Except.toOption, Lexeme.text]
    all_goals cases hKept
  · rw [texts_stretches (Bool.not_eq_true _ ▸ hKept)]
    exact texts_segments (fun setting lower part hMem =>
      ⟨hParts part (mem_parts_of_segments hMem), hInner part (mem_parts_of_segments hMem)⟩)
      (spell_segments hT)
termination_by sizeOf node
decreasing_by
  · exact Node.sizeOf_lt_of_mem_parts hPart
  · exact Nat.lt_trans (Node.sizeOf_lt_of_mem_parts hInner) (Node.sizeOf_lt_of_mem_parts hPart)

end Print

end Assay
