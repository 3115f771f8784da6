import Assay.Proofs.Print.Matching

/-!
# The branches of a tree and of its text

`Node.tally` counts the `if` statements of a tree in the order of the text and notes for each alternate
the statement that it belongs to. Two things can be said of the tokens of a node, whatever stands before
them: they end no statement outside of their own brackets (`Quiet`), or they at least leave no `do` open
(`Clear`). `run_strung` brings both from parts to the whole, if the printer writes no words of statements
between the parts, which is so for all nodes but those that are a clause (`tally?_stretches`). The
trees are those in which statements stand only where the grammar has statements (`Node.isSeated`).
-/

set_option autoImplicit false

namespace Assay

open Print

namespace Node

/-- The parts of a node in the order of its text. -/
def written : Node → List Node
  | .tryStatement _ block handler finalizer => block :: handler.toList ++ finalizer.toList
  | node => node.parts

theorem mem_parts_of_mem_written {node part : Node} (h : part ∈ node.written) : part ∈ node.parts := by
  cases node
  case tryStatement =>
    simp only [written, List.cons_append, List.mem_cons, List.mem_append] at h
    simp only [parts, looseParts, placedParts, List.cons_append, List.mem_cons, List.mem_append]
    tauto
  all_goals exact h

/-- The `if` statements of a tree and their alternates, counted in the order of the text: each alternate
has the number of the statement that it belongs to. -/
def tally (node : Node) (seen : Tally) : Tally :=
  match node with
  | .ifStatement _ test consequent none => consequent.tally (test.tally seen.branch)
  | .ifStatement _ test consequent (some alternate) =>
    alternate.tally ((consequent.tally (test.tally seen.branch)).bind (some seen.count))
  | node => node.written.attach.foldl (fun seen part => part.1.tally seen) seen
termination_by sizeOf node
decreasing_by
  all_goals first
    | (simp <;> omega)
    | exact sizeOf_lt_of_mem_parts (mem_parts_of_mem_written part.2)

/-- The same for several nodes, one after the other. -/
def tallyAll (nodes : List Node) (seen : Tally) : Tally :=
  nodes.foldl (fun seen node => node.tally seen) seen

/-- Whether a node is an `if` statement. -/
def isIf : Node → Bool
  | .ifStatement .. => true
  | _ => false

theorem tally_eq {node : Node} (h : node.isIf = false) (seen : Tally) :
    node.tally seen = tallyAll node.written seen := by
  rw [tally]
  · rw [tallyAll]
    conv_rhs => rw [← List.foldl_attach]
  · rintro span test consequent rfl
    cases h
  · rintro span test consequent alternate rfl
    cases h

@[simp]
theorem tallyAll_nil (seen : Tally) : tallyAll [] seen = seen := rfl

@[simp]
theorem tallyAll_cons (node : Node) (nodes : List Node) (seen : Tally) :
    tallyAll (node :: nodes) seen = tallyAll nodes (node.tally seen) := rfl

@[simp]
theorem tallyAll_append (first second : List Node) (seen : Tally) :
    tallyAll (first ++ second) seen = tallyAll second (tallyAll first seen) :=
  List.foldl_append

end Node

namespace Print

/-! ## What the tokens of a node do to a scope -/

/-- The tokens of a node lead to a scope of which the same is true, and all `if`s and `else`s that are
seen on the way are those of the node. -/
def Passes (inv : Scope → Prop) (level : Nat) (node : Node) : Prop :=
  ∀ ⦃scope⦄, inv scope → ∀ outer seen, ∃ scope', inv scope' ∧
    Reader.run ⟨scope :: outer, seen⟩ (marks (tokens level node)) =
      ⟨scope' :: outer, node.tally seen⟩

/-- No statement of the node that is not between brackets ends. -/
def Quiet (level : Nat) (node : Node) : Prop :=
  ∀ frames, Passes (fun scope => scope.settled = frames) level node

/-- No `do` is left open. -/
abbrev Clear (level : Nat) (node : Node) : Prop := Passes Scope.NoLoops level node

theorem Quiet.clear {level : Nat} {node : Node} (h : Quiet level node) : Clear level node := by
  intro scope hScope outer seen
  obtain ⟨scope', hSame, hRun⟩ := h scope.settled rfl outer seen
  exact ⟨scope', noLoops_iff.2 (hSame ▸ noLoops_iff.1 hScope), hRun⟩

/-- Whether the text of a lexeme has no words of statements, and no semicolons unless it may. -/
def Lexeme.isSmooth (ends : Bool) : Lexeme → Bool
  | own text => Print.isSmooth text && (ends || !(Mark.scan [] text).contains .semicolon)
  | spelled _ | operator _ => true

theorem Lexeme.depth?_marks {lexeme : Lexeme} {ends : Bool} (h : lexeme.isSmooth ends = true)
    {depth : Nat} (hDepth : 0 ≤ depth + lexeme.shift) :
    Mark.depth? depth lexeme.marks = some (depth + lexeme.shift).toNat ∧
      (.semicolon ∈ lexeme.marks → ends = true) := by
  cases lexeme with
  | own text =>
    obtain ⟨hSmooth, hEnds⟩ := Bool.and_eq_true_iff.1 h
    refine ⟨depth?_of_isSmooth hSmooth hDepth, fun hMem => ?_⟩
    have hFound : (Mark.scan [] text).contains .semicolon = true := List.contains_iff_mem.2 hMem
    rw [hFound] at hEnds
    simpa using hEnds
  | spelled text | operator text =>
    refine ⟨?_, ?_⟩
    · simp [Lexeme.marks, Lexeme.shift, Mark.depth?, Mark.nest]
    · simp [Lexeme.marks]

/-- The tally of the parts among stretches, if all texts between them are smooth. -/
def tally? (ends : Bool) : List Stretch → Tally → Option Tally
  | [], seen => some seen
  | .lexeme lexeme :: rest, seen => if lexeme.isSmooth ends then tally? ends rest seen else none
  | .part _ node :: rest, seen => tally? ends rest (node.tally seen)

/-- Stretches whose brackets are closed keep what their parts outside of brackets keep. -/
theorem run_strung {ends : Bool} {inv : Scope → Prop} (hInv : IsKept ends inv) {depth : Int}
    {parts shown : List Stretch} (hOutside : outside depth parts = some shown)
    (hShown : ∀ level node, .part level node ∈ shown → Passes inv level node)
    (hParts : ∀ level node, .part level node ∈ parts → Clear level node)
    {inner : List Scope} (hLength : inner.length = depth) (hInner : ∀ scope ∈ inner, scope.NoLoops)
    {base : Scope} (hBase : inv base) (outer : List Scope) {seen tally : Tally}
    (hTally : tally? ends parts seen = some tally) :
    ∃ base', inv base' ∧ Reader.run ⟨inner ++ base :: outer, seen⟩ (marks (strung parts)) =
      ⟨base' :: outer, tally⟩ := by
  induction parts generalizing depth shown inner base seen with
  | nil =>
    simp only [outside, Option.ite_none_right_eq_some] at hOutside
    obtain rfl := List.eq_nil_of_length_eq_zero (Int.ofNat_eq_zero.1 (hLength.trans hOutside.1))
    cases hTally
    exact ⟨base, hBase, rfl⟩
  | cons stretch rest ih =>
    have hRestParts (level : Nat) (node : Node) (hMem : .part level node ∈ rest) :=
      hParts level node (List.mem_cons_of_mem stretch hMem)
    cases stretch with
    | lexeme lexeme =>
      simp only [outside, Option.ite_none_left_eq_some, Option.map_eq_map,
        Option.map_eq_some_iff] at hOutside
      obtain ⟨hShift, others, hOthers, rfl⟩ := hOutside
      have hRestShown (level : Nat) (node : Node) (hMem : .part level node ∈ others) :=
        hShown level node (List.mem_append_right _ hMem)
      obtain ⟨hText, hRestTally⟩ := Option.ite_none_right_eq_some.1 hTally
      obtain ⟨hDepth, hEnds⟩ := Lexeme.depth?_marks hText (hLength ▸ Int.not_lt.1 hShift)
      obtain ⟨inner', base', hLength', hInner', hBase', hRun⟩ :=
        run_depth hInv outer hDepth hEnds rfl hInner hBase seen
      have hDeeper : (inner'.length : Int) = depth + lexeme.shift := by omega
      obtain ⟨final, hFinal, hRest⟩ :=
        ih hOthers hRestShown hRestParts hDeeper hInner' hBase' hRestTally
      refine ⟨final, hFinal, ?_⟩
      rw [strung_lexeme, marks_cons, run_append, hRun, hRest]
    | part level node =>
      simp only [outside, Option.map_eq_map, Option.map_eq_some_iff] at hOutside
      obtain ⟨others, hOthers, rfl⟩ := hOutside
      have hRestShown (level : Nat) (node : Node) (hMem : .part level node ∈ others) :=
        hShown level node (List.mem_append_right _ hMem)
      rw [strung_part, marks_append, run_append]
      cases inner with
      | nil =>
        have hZero : depth = 0 := hLength.symm
        obtain ⟨base', hBase', hRun⟩ :=
          hShown level node (by simp [shownAt, hZero]) hBase outer seen
        rw [List.nil_append, hRun]
        exact ih hOthers hRestShown hRestParts hLength hInner hBase' hTally
      | cons top inner =>
        obtain ⟨hTop, hBelow⟩ := List.forall_mem_cons.1 hInner
        obtain ⟨top', hTop', hRun⟩ :=
          hParts level node List.mem_cons_self hTop (inner ++ base :: outer) seen
        have hLength' : (top' :: inner).length = depth := hLength
        rw [List.cons_append, hRun]
        exact ih hOthers hRestShown hRestParts hLength'
          (List.forall_mem_cons.2 ⟨hTop', hBelow⟩) hBase hTally

/-! ## The parts of a node and its texts -/

section Stretches

variable {rest : List Stretch} {text : Text}
  {ends : Bool} {level : Nat} {node : Node} {seen : Tally}

/-- Texts of the printer that have no words of statements and no semicolons. -/
theorem isSmooth_words : ∀ word ∈ ["", " ", ",", ", ", ",\n", "\n", ": ", ".", "?.", "...", " = ", " ? ",
    " : ", "\x7b\x7d", "static ", "try ", " finally ", "catch ", "class", " extends ", "new ", "await ",
    "yield", "yield*", "this", "super", "async ", "(", "[", "\x7b", "\x7b\n", "?.(", "?.[", "switch (",
    "catch (", ")", "]", "\x7d", ") ", ") => "],
    (Lexeme.own (Text.ofString word)).isSmooth false = true := by
  decide

theorem scan_indent (level : Nat) : Mark.scan [] (indent level) = [] := by
  unfold indent Text.fill
  induction 2 * level with
  | zero => rfl
  | succ n ih =>
    rw [List.replicate_succ, Mark.scan]
    exact ih

theorem isSmooth_indent (level : Nat) : (Lexeme.own (indent level)).isSmooth false = true := by
  rw [Lexeme.isSmooth, isSmooth, scan_indent, Lexeme.opened_indent]
  rfl

theorem isSmooth_closingComma {α : Type} (items : List (Option α)) :
    (Lexeme.own (closingComma items)).isSmooth false = true := by
  unfold closingComma
  split <;> decide

theorem isSmooth_functionLead (isAsync isGenerator : Bool) :
    (Lexeme.own (functionLead isAsync isGenerator)).isSmooth false = true := by
  revert isAsync isGenerator
  decide

theorem isSmooth_staticLead (isStatic : Bool) :
    (Lexeme.own (staticLead isStatic)).isSmooth false = true := by
  revert isStatic
  decide

theorem isSmooth_accessorLead (kind : Text) :
    (Lexeme.own (accessorLead kind)).isSmooth false = true := by
  unfold accessorLead
  split
  next h =>
    simp only [Bool.or_eq_true, beq_iff_eq] at h
    obtain rfl | rfl := h <;> decide
  next => decide

theorem isSmooth_methodWords (value : Node) :
    (Lexeme.own (methodWords value)).isSmooth false = true := by
  have hLead : ∀ isAsync isGenerator,
      (Lexeme.own (methodLead isAsync isGenerator)).isSmooth false = true := by decide
  unfold methodWords
  split
  · exact hLead _ _
  · decide

theorem tally?_nil : tally? ends [] seen = some seen := rfl

theorem tally?_own (h : (Lexeme.own text).isSmooth ends = true) :
    tally? ends (.own text :: rest) seen = tally? ends rest seen :=
  if_pos h

theorem tally?_spelled :
    tally? ends (.lexeme (.spelled text) :: rest) seen = tally? ends rest seen := rfl

theorem tally?_operator :
    tally? ends (.lexeme (.operator text) :: rest) seen = tally? ends rest seen := rfl

theorem tally?_part :
    tally? ends (.part level node :: rest) seen = tally? ends rest (node.tally seen) := rfl

theorem tally?_append (first second : List Stretch) :
    tally? ends (first ++ second) seen = (tally? ends first seen).bind (tally? ends second) := by
  induction first generalizing seen with
  | nil => rfl
  | cons stretch rest ih =>
    cases stretch with
    | lexeme lexeme =>
      rw [List.cons_append, tally?, tally?, ih]
      split <;> rfl
    | part level node => exact ih

theorem tally?_parenthesized (parens : Bool) :
    tally? false (parenthesized parens level node) seen = some (node.tally seen) := by
  cases parens <;> rfl

theorem tally?_series {α : Type} {separator : Text}
    (hSeparator : (Lexeme.own separator).isSmooth false = true) {segments : α → List Segment}
    {parts : α → List Node} (items : List α)
    (hItems : ∀ item seen, tally? false ((segments item).flatMap Segment.stretches) seen =
      some (Node.tallyAll (parts item) seen)) :
    tally? false ((series separator (items.map segments)).flatMap Segment.stretches) seen =
      some (Node.tallyAll (items.flatMap parts) seen) := by
  induction items generalizing seen with
  | nil => rfl
  | cons item items ih =>
    rw [List.map_cons, series_cons, List.flatMap_append, tally?_append, hItems, Option.bind_some,
      List.flatMap_cons, Node.tallyAll_append, ← ih]
    cases items with
    | nil => rfl
    | cons next items => exact tally?_own hSeparator

theorem tally?_items (nodes : List Node) :
    tally? false ((series ", " (nodes.map (item level))).flatMap Segment.stretches) seen =
      some (Node.tallyAll nodes seen) := by
  have hItem (node : Node) (seen : Tally) :
      tally? false ((item level node).flatMap Segment.stretches) seen =
        some (Node.tallyAll [node] seen) := rfl
  rw [tally?_series (by decide) nodes hItem, List.flatMap_singleton']

theorem tally?_listed (nodes : List Node) :
    tally? false (listed level nodes) seen = some (Node.tallyAll nodes seen) := by
  rw [← stretches_items, tally?_items]

theorem tally?_elements (nodes : List (Option Node)) :
    tally? false ((series ", " (nodes.map (element level))).flatMap Segment.stretches) seen =
      some (Node.tallyAll (nodes.flatMap Option.toList) seen) :=
  tally?_series (by decide) nodes fun node _ => by cases node <;> rfl

theorem tally?_lines {separator : Text}
    (hSeparator : (Lexeme.own separator).isSmooth false = true) (nodes : List Node) :
    tally? false ((series separator (nodes.map (line level))).flatMap Segment.stretches) seen =
      some (Node.tallyAll nodes seen) := by
  have hLine (node : Node) (seen : Tally) :
      tally? false ((line level node).flatMap Segment.stretches) seen =
        some (Node.tallyAll [node] seen) := tally?_own (isSmooth_indent level)
  rw [tally?_series hSeparator nodes hLine, List.flatMap_singleton']

theorem tally?_enclosed {separator : Text}
    (hSeparator : (Lexeme.own (separator ++ "\n")).isSmooth false = true) (nodes : List Node) :
    tally? false ((enclosed level separator (nodes.map (line (level + 1)))).flatMap
      Segment.stretches) seen = some (Node.tallyAll nodes seen) := by
  have hLines := @tally?_lines (level + 1) seen _ hSeparator nodes
  have hWords := isSmooth_words
  simp only [List.forall_mem_cons] at hWords
  cases nodes with
  | nil => rfl
  | cons node nodes =>
    simp only [enclosed, List.map_cons, List.isEmpty_cons, Bool.false_eq_true, if_false,
      List.flatMap_cons, List.flatMap_append, List.cons_append] at hLines ⊢
    simp [Segment.stretches, tally?_own, tally?_append, tally?_nil, hWords, isSmooth_indent, hLines]

theorem tally?_optional {lead : Text} (hLead : (Lexeme.own lead).isSmooth false = true)
    (part : Option Node) :
    tally? false ((optional level lead part).flatMap Segment.stretches) seen =
      some (Node.tallyAll part.toList seen) := by
  cases part with
  | none => rfl
  | some node => exact tally?_own hLead

theorem tally?_key (computed : Bool) :
    tally? false ((keySegments level computed node).flatMap Segment.stretches) seen =
      some (node.tally seen) := by
  cases computed <;> rfl

end Stretches

end Print

namespace Node

/-- Whether a node has semicolons or words of statements outside of brackets. -/
def isClause : Node → Bool
  | .program .. | .expressionStatement .. | .emptyStatement .. | .debuggerStatement ..
  | .returnStatement .. | .throwStatement .. | .breakStatement .. | .continueStatement ..
  | .labeledStatement .. | .ifStatement .. | .switchCase .. | .whileStatement ..
  | .doWhileStatement .. | .forStatement .. | .forInStatement .. | .forOfStatement ..
  | .variableDeclaration .. | .propertyDefinition .. => true
  | _ => false

/-- Whether a node ends with a semicolon of its own and has no statements outside of brackets. -/
def isSimple : Node → Bool
  | .expressionStatement .. | .emptyStatement .. | .debuggerStatement .. | .returnStatement ..
  | .throwStatement .. | .breakStatement .. | .continueStatement .. | .variableDeclaration .. => true
  | _ => false

/-- Whether a node ends with the brace that closes its last part. -/
def isCompound : Node → Bool
  | .blockStatement .. | .classBody .. | .switchStatement .. | .tryStatement .. | .catchClause ..
  | .classNode .. => true
  | .function _ _ _ _ _ _ _ isExpression => !isExpression
  | _ => false

/-- Whether a node is a list of lines between braces, maybe with a head. -/
def isLined : Node → Bool
  | .blockStatement .. | .classBody .. | .switchStatement .. => true
  | _ => false

/-- Whether a node may be the body of a loop or an arm of an `if`. -/
def isStatement : Node → Bool
  | .program .. | .switchCase .. | .propertyDefinition .. => false
  | node => node.isClause || node.isCompound

/-- Whether a node may stand in the head of a loop. -/
def isHead : Node → Bool
  | .variableDeclaration .. => true
  | node => !node.isClause

/-- Whether statements are where statements may be: as bodies and arms, and in lists of their own. What
a node may not print, which is the name of an arrow function or of a method and the key of a shorthand,
is a name. -/
def isSeated : Node → Bool
  | .program .. | .blockStatement .. | .staticBlock .. | .classBody .. => true
  | .labeledStatement _ part body | .whileStatement _ part body | .doWhileStatement _ body part =>
    !part.isClause && body.isStatement
  | .ifStatement _ test consequent alternate =>
    !test.isClause && consequent.isStatement && alternate.all isStatement
  | .forStatement _ init test step body =>
    init.all isHead && test.all (!·.isClause) && step.all (!·.isClause) && body.isStatement
  | .forInStatement _ left right body | .forOfStatement _ left right body _ =>
    left.isHead && !right.isClause && body.isStatement
  | .switchStatement _ discriminant _ => !discriminant.isClause
  | .switchCase _ test _ => test.all (!·.isClause)
  | .tryStatement _ block handler finalizer =>
    block.isCompound && handler.all isCompound && finalizer.all isCompound
  | .catchClause _ param body => param.all (!·.isClause) && body.isCompound
  | .function _ _ id params body _ _ isExpression =>
    id.all isName && params.all (!·.isClause) && !body.isClause &&
      (isExpression || body.isCompound)
  | .classNode _ _ id superClass body =>
    id.all (!·.isClause) && superClass.all (!·.isClause) && body.isCompound
  | .methodDefinition _ key value _ _ _ => !key.isClause && value.isFunction
  | .property _ key value kind _ shorthand method =>
    !key.isClause && !value.isClause &&
      if kind == "get" || kind == "set" || method then value.isFunction
      else !shorthand || key.isName
  | .templateLiteral _ quasis expressions => expressions.length < quasis.length
  | node => node.parts.all (!·.isClause)

theorem isClause_of_isCompound {node : Node} (h : node.isCompound = true) : node.isClause = false := by
  cases node <;> first | rfl | cases h

theorem isClause_of_isName {node : Node} (h : node.isName = true) : node.isClause = false := by
  cases node <;> first | rfl | cases h

theorem tally_of_isName {node : Node} (h : node.isName = true) (seen : Tally) :
    node.tally seen = seen := by
  cases node
  case identifier =>
    rw [tally_eq rfl]
    rfl
  all_goals cases h

end Node

namespace Print

section Nodes

attribute [local simp] stretches segments Segment.stretches Setting.stretches item headSegments
  methodSegments stretches_items tally?_nil tally?_own tally?_spelled tally?_operator tally?_part
  tally?_append tally?_parenthesized tally?_items tally?_listed tally?_elements tally?_key
  tally?_optional tally?_enclosed isSmooth_closingComma isSmooth_functionLead isSmooth_staticLead
  isSmooth_accessorLead isSmooth_methodWords Node.written Node.parts Node.looseParts
  Node.placedParts

theorem tallyAll_names {names : Option Node} (h : names.all Node.isName = true) (seen : Tally) :
    Node.tallyAll names.toList seen = seen := by
  cases names with
  | none => rfl
  | some name => exact Node.tally_of_isName h seen

/-- The parameters and the body of a method are all that there is of its function. -/
theorem tally?_method {value : Node} (hFunction : value.isFunction = true)
    (hSeated : value.isSeated = true) (level : Nat) (seen : Tally) :
    tally? false (Setting.method.stretches level value) seen = some (value.tally seen) := by
  have hClose : (Lexeme.own (Text.ofString ") ")).isSmooth false = true := by decide
  cases value
  case function id _ _ _ _ _ =>
    have hName : id.all Node.isName = true := by
      simp only [Node.isSeated, Bool.and_eq_true] at hSeated
      exact hSeated.1.1.1
    rw [Node.tally_eq rfl]
    simp [tallyAll_names hName, hClose]
  all_goals cases hFunction

/-- The parts are printed in their order, with smooth texts between them. -/
theorem tally?_stretches (level : Nat) {node : Node} (hClause : node.isClause = false)
    (hSeated : node.isSeated = true) (hParts : ∀ part ∈ node.parts, part.isSeated = true)
    (hTemplate : node.isTemplate = false) (seen : Tally) :
    tally? false (stretches level node) seen = some (node.tally seen) := by
  have hIf : node.isIf = false := by
    cases node <;> first | rfl | cases hClause
  have hWords := isSmooth_words
  simp only [List.forall_mem_cons] at hWords
  have hBreak : (Lexeme.own (Text.ofString "" ++ Text.ofString "\n")).isSmooth false = true := by decide
  have hComma : (Lexeme.own (Text.ofString "," ++ Text.ofString "\n")).isSmooth false = true := by decide
  rw [Node.tally_eq hIf]
  cases node
  case program | expressionStatement | emptyStatement | debuggerStatement | returnStatement |
      throwStatement | breakStatement | continueStatement | labeledStatement | ifStatement |
      switchCase | whileStatement | doWhileStatement | forStatement | forInStatement |
      forOfStatement | variableDeclaration | propertyDefinition => cases hClause
  case templateLiteral => cases hTemplate
  case catchClause param _ => cases param <;> simp [hWords]
  case variableDeclarator init => cases init <;> simp [hWords]
  case classNode superClass _ => cases superClass <;> simp [hWords]
  case unary operator argument =>
    have hBlank : (Lexeme.own (Text.ofString
        (if isSpaced operator argument then " " else ""))).isSmooth false = true := by
      split <;> decide
    simp [hBlank]
  case update leading _ => cases leading <;> simp
  case call optional => cases optional <;> simp [hWords]
  case member computed optional =>
    cases computed <;> cases optional <;> simp [hWords]
  case yieldExpression delegate => cases delegate <;> simp [hWords]
  case function form _ _ _ _ isAsync _ _ =>
    simp only [Node.isSeated, Bool.and_eq_true] at hSeated
    cases form <;> cases isAsync <;> simp [hWords, tallyAll_names hSeated.1.1.1]
  case methodDefinition value _ _ _ =>
    simp only [Node.isSeated, Bool.and_eq_true] at hSeated
    have hValue := tally?_method hSeated.2 (hParts value (by simp)) level
    simp [-Setting.stretches, hWords, hValue]
  case property span key value kind computed shorthand method =>
    have hStretches : stretches level (.property span key value kind computed shorthand method) =
      (segments level (.property span key value kind computed shorthand method)).flatMap
        Segment.stretches := rfl
    simp only [Node.isSeated, Bool.and_eq_true] at hSeated
    obtain ⟨-, hValue⟩ := hSeated
    rw [hStretches, segments]
    split
    · rename_i hKind
      rw [if_pos hKind] at hValue
      have hMethod := tally?_method hValue (hParts value (by simp)) level
      simp [-Setting.stretches, hWords, hMethod]
    · rename_i hKind
      rw [if_neg hKind] at hValue
      cases shorthand with
      | false => simp [hWords]
      | true => simp [Node.tally_of_isName hValue]
  all_goals simp [hWords, hBreak, hComma]

end Nodes

section Shown

variable {level lower : Nat} {node part : Node}

theorem part_mem_bareAll {nodes : List Node} :
    .part lower part ∈ bareAll level nodes ↔ lower = level ∧ part ∈ nodes := by
  simp only [bareAll, List.mem_flatMap, List.mem_singleton, Stretch.part.injEq]
  constructor
  · rintro ⟨inner, hInner, rfl, rfl⟩
    exact ⟨rfl, hInner⟩
  · rintro ⟨rfl, hPart⟩
    exact ⟨part, hPart, rfl, rfl⟩

theorem part_mem_bare {parens : Bool} :
    .part lower part ∈ bare parens level node ↔ parens = false ∧ lower = level ∧ part = node := by
  cases parens <;> simp [bare]

theorem isClause_methodBody {value : Node} (hSeated : value.isSeated = true)
    (h : .part lower part ∈ methodBody level value) : part.isClause = false := by
  cases value
  case function body _ _ _ =>
    obtain ⟨-, rfl⟩ : lower = level ∧ part = body := by simpa [methodBody] using h
    simp only [Node.isSeated, Bool.and_eq_true, Bool.not_eq_true'] at hSeated
    exact hSeated.1.2
  all_goals cases h

/-- What stands outside of brackets in a node without semicolons, or with one at its end, has none. -/
theorem isClause_of_mem_outer (hClause : node.isClause = true → node.isSimple = true)
    (hSeated : node.isSeated = true)
    (hParts : ∀ part ∈ node.parts, part.isSeated = true)
    (h : .part lower part ∈ outer level node) : part.isClause = false := by
  have hPlain (hAll : node.parts.all (!·.isClause) = true) (hMem : part ∈ node.parts) :
      part.isClause = false := by
    simpa using List.all_eq_true.1 hAll part hMem
  cases node
  case program | labeledStatement | ifStatement | switchCase | whileStatement | doWhileStatement |
      forStatement | forInStatement | forOfStatement | propertyDefinition => cases hClause rfl
  case expressionStatement | returnStatement | throwStatement | breakStatement | continueStatement |
      variableDeclaration | variableDeclarator | unary | update | binary | logical | assignment |
      conditional | call | newExpression | member | chain | awaitExpression | yieldExpression |
      metaProperty | assignmentPattern | restElement | spreadElement | taggedTemplate =>
    apply hPlain hSeated
    simp [outer, part_mem_bare, part_mem_bareAll] at h
    simp [Node.parts, Node.looseParts, Node.placedParts]
    tauto
  all_goals try
    simp only [Node.isSeated, Bool.and_eq_true, Option.all_eq_true, Bool.not_eq_true'] at hSeated
  case tryStatement | catchClause | classNode =>
    simp only [outer, List.mem_append, List.mem_flatMap, Option.mem_toList, part_mem_bare,
      part_mem_bareAll, List.mem_cons, List.not_mem_nil, or_false] at h
    grind [Node.isClause_of_isCompound]
  case function form _ _ _ _ _ _ _ =>
    cases form <;>
      simp only [outer, part_mem_bare, part_mem_bareAll, List.mem_append, Option.mem_toList,
        List.mem_singleton] at h
    all_goals grind [Node.isClause_of_isName]
  case methodDefinition value _ _ _ =>
    rcases List.mem_append.1 h with hKey | hBody
    · exact (part_mem_bare.1 hKey).2.2 ▸ hSeated.1
    · exact isClause_methodBody (hParts value (by simp [Node.parts, Node.looseParts])) hBody
  case property value _ _ shorthand _ =>
    simp only [outer] at h
    split at h
    · rcases List.mem_append.1 h with hKey | hBody
      · exact (part_mem_bare.1 hKey).2.2 ▸ hSeated.1.1
      · exact isClause_methodBody (hParts value (by simp [Node.parts, Node.looseParts])) hBody
    · cases shorthand <;>
        simp only [if_true, if_false, Bool.false_eq_true, List.mem_append, part_mem_bare,
          part_mem_bareAll, List.mem_singleton] at h
      all_goals grind
  all_goals cases h

/-- What holds of all nodes of a tree holds of all nodes of the parts that are printed. -/
theorem every_of_mem_unfolded {p : Node → Prop} (hEvery : node.Every p)
    (h : .part lower part ∈ unfolded level node) : part.Every p := by
  rcases mem_parts_or_of_mem_unfolded h with hPart | hMem
  · exact hEvery.part hPart
  · obtain ⟨segment, hSegment, hPart⟩ := mem_segments_of_mem_stretches hMem
    cases segment with
    | token text => simp [Segment.stretches] at hPart
    | part setting outer inner =>
      have hInner := hEvery.part (mem_parts_of_segments hSegment)
      obtain rfl | hDeeper := Setting.eq_or_mem_parts hPart
      · exact hInner
      · exact hInner.part hDeeper

end Shown

end Print

end Assay
