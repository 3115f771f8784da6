import Assay.Proofs.Coverage.Placement

/-!
# Placements and targets balance

A step of the walk adds as many targets as it puts marks into the tree. `Instrument.Counts` says so
for one imprint at a time, a tracking call or its placement, so that each case of the induction over
the tree is a sum; `Instrument.counts` is the result for all trees.
-/

set_option autoImplicit false

namespace Assay

/-- What tracking leaves in a tree. -/
inductive Imprint where
  /-- A call. -/
  | call (key : Space × Int)
  /-- A call in front of a construct. -/
  | mark (placement : Placement)
  deriving DecidableEq

namespace Imprint

/-- The call of an imprint. -/
def call? : Imprint → Option (Space × Int)
  | call key => some key
  | mark _ => none

/-- The placement of an imprint. -/
def mark? : Imprint → Option Placement
  | call _ => none
  | mark placement => some placement

end Imprint

/-- What targets leave in a tree: their calls, and these in front of their constructs. -/
def Target.imprints (targets : List Target) : List Imprint :=
  (numbered targets).flatMap fun placement => [.call placement.key, .mark placement]

namespace Node

variable (handle : Text)

/-- What a node shows of tracking: the call that it is and the calls in front of its parts. -/
def imprints (node : Node) : List Imprint :=
  (calls handle node).map .call ++ (marks handle node).map .mark

/-- What stands in the source is no tracking call. -/
theorem imprints_of_isKnown {node : Node} (h : node.span.isKnown = true) :
    imprints handle node = (marks handle node).map .mark := by
  rw [imprints, calls, trackingCall?_of_isKnown handle h]
  rfl

theorem imprints_of_located {node : Node} (h : node.Located) : imprints handle node = [] := by
  rw [imprints_of_isKnown handle h.isKnown, marks_of_located handle h]
  rfl

/-- An added sequence shows what its parts show. -/
@[simp]
theorem gather_imprints_sequence (items : List Node) :
    View.gather (imprints handle) (View.ofNode (Build.sequence items)) =
      View.gatherItems (imprints handle) (View.ofList items) := by
  rw [View.gather_ofNode, Build.sequence]
  simp [imprints, calls, trackingCall?, marks, View.ofNode, View.located, View.gatherParts,
    View.gatherFields]

@[simp]
theorem gather_imprints_trackingCall (space : Space) (id : Int) :
    View.gather (imprints handle) (View.ofNode (Build.trackingCall handle space id)) =
      [.call (space, id)] := by
  rw [View.gather_ofNode, imprints, calls, Build.trackingCall?_trackingCall]
  rfl

@[simp]
theorem gather_imprints_trackingStatement (space : Space) (id : Int) :
    View.gather (imprints handle) (View.ofNode (Build.trackingStatement handle space id)) =
      [.call (space, id)] := by
  have hCall := gather_imprints_trackingCall handle space id
  rw [Build.trackingStatement, View.gather_ofNode, View.ofNode, View.located, View.gatherParts,
    View.gatherFields, hCall]
  rfl

/-- A block shows the marks of its statements and what they show. -/
@[simp]
theorem gather_imprints_block (span : Span) (body : List Node) :
    View.gather (imprints handle) (View.ofNode (.blockStatement span body)) =
      (statementMarks handle body).map .mark ++
        View.gatherItems (imprints handle) (View.ofList body) := by
  rw [View.gather_ofNode]
  simp [imprints, calls, trackingCall?, marks, View.ofNode, View.located, View.gatherParts,
    View.gatherFields]

end Node

namespace Instrument

open View Target Tracking

section

variable {nodes : List Node} {handle : Text} (x : Imprint) (targets : List Target)

/-! ## One construct at a time -/

/-- How often targets leave an imprint. -/
def owed (targets : List Target) : Nat := (imprints targets).count x

/-- A further target leaves its call and its placement. -/
theorem owed_assign (space : Space) (kind : Kind) (span : Span) :
    owed x ((assign space kind span).after targets) = owed x targets +
      [Imprint.call (space, ((assign space kind span).result targets : Int)),
        .mark ⟨space, (assign space kind span).result targets, span⟩].count x := by
  have hAfter : (assign space kind span).after targets = targets ++ [⟨space, kind, span⟩] := rfl
  rw [owed, hAfter, imprints, numbered_concat, List.flatMap_append, List.count_append]
  rfl

variable (handle) in
/-- The walk over a located tree adds an imprint to the targets as often as it puts it into the
tree. -/
structure Counts (node : Node) : Prop where
  located : isLocated (ofNode node) = true
  adds : ∀ targets, owed x ((walk handle node).after targets) = owed x targets +
    (gather (Node.imprints handle) (ofNode ((walk handle node).result targets))).count x

variable {node : Node} (h : Counts handle x node)

include h

/-- A statement of a block stands behind its mark. -/
theorem Counts.owed_statement (rest : List Node) (span : Span) :
    owed x ((statement handle node (walk handle node)).after targets) +
        (gather (Node.imprints handle) (ofNode (.blockStatement span rest))).count x =
      owed x targets + (gather (Node.imprints handle) (ofNode (.blockStatement span
        ((statement handle node (walk handle node)).result targets ++ rest)))).count x := by
  unfold Instrument.statement
  split
  · have hKnown := isKnown_walk handle ((assign .stmt node.kind node.span).after targets) h.located
    simp [markStatement, Node.statementMarks_trackingStatement handle _ hKnown, ofList, gatherItems,
      h.adds, owed_assign, List.count_cons]
    omega
  · have hKnown := isKnown_walk handle targets h.located
    simp [Node.statementMarks_of_isKnown handle hKnown, ofList, gatherItems, h.adds]
    omega

/-- An expression stands behind its mark, which its parent finds in the sequence of the two. -/
theorem Counts.owed_tracked (space : Space) :
    owed x ((tracked handle space node (walk handle node)).after targets) =
      owed x targets +
        ((Node.sequenceMark handle space Node.span
          ((tracked handle space node (walk handle node)).result targets)).map .mark).count x +
        (gather (Node.imprints handle)
          (ofNode ((tracked handle space node (walk handle node)).result targets))).count x := by
  simp [Instrument.tracked, markCall, ofList, gatherItems, h.adds, owed_assign,
    List.count_cons]
  omega

/-- An operand of a logical expression stands behind its mark, if it has one. -/
theorem Counts.owed_operand :
    owed x ((operand handle node (walk handle node)).after targets) =
      owed x targets +
        ((Node.sequenceMark handle .branch Node.span
          ((operand handle node (walk handle node)).result targets)).map .mark).count x +
        (gather (Node.imprints handle)
          (ofNode ((operand handle node (walk handle node)).result targets))).count x := by
  unfold Instrument.operand
  split
  · have hKnown := isKnown_walk handle targets h.located
    simp [Node.sequenceMark_of_isKnown handle _ _ hKnown, h.adds]
  · exact h.owed_tracked x targets .branch

/-- The body of a loop becomes a block. -/
theorem Counts.asBlock_eq :
    ∃ body, (asBlock handle node (walk handle node)).result targets =
        .blockStatement node.span body ∧
      owed x ((asBlock handle node (walk handle node)).after targets) =
        owed x targets +
          (gather (Node.imprints handle) (ofNode (.blockStatement node.span body))).count x := by
  unfold Instrument.asBlock
  cases hBlock : node.isBlock with
  | true =>
    cases node <;> simp only [Node.isBlock, Bool.false_eq_true] at hBlock
    case blockStatement body =>
      refine ⟨(walkStatements handle body).result targets, ?_, ?_⟩
      · simp [walk, Node.span]
      · rw [if_pos rfl, h.adds, walk_blockStatement]
        rfl
  | false =>
    have hStatement := h.owed_statement x targets [] node.span
    refine ⟨(statement handle node (walk handle node)).result targets, ?_, ?_⟩
    · simp
    · simpa [Node.statementMarks, ofList, gatherItems] using hStatement

theorem Counts.owed_asBlock :
    owed x ((asBlock handle node (walk handle node)).after targets) =
      owed x targets + (gather (Node.imprints handle)
        (ofNode ((asBlock handle node (walk handle node)).result targets))).count x := by
  obtain ⟨body, hBlock, hOwed⟩ := h.asBlock_eq x targets
  rw [hBlock, hOwed]

/-- An arm of an `if` becomes a block at the same place that starts with the mark of the arm. -/
theorem Counts.owed_arm :
    ((arm handle node (walk handle node)).result targets).span = node.span ∧
      owed x ((arm handle node (walk handle node)).after targets) =
        owed x targets +
          ((Node.blockMark handle .branch node.span
            ((arm handle node (walk handle node)).result targets)).map .mark).count x +
          (gather (Node.imprints handle)
            (ofNode ((arm handle node (walk handle node)).result targets))).count x := by
  obtain ⟨body, hBlock, hOwed⟩ := h.asBlock_eq x
    ((assign .branch node.kind node.span).after targets)
  simp only [arm, markStatement, result_bind, after_bind, result_pure,
    after_pure, hBlock, Build.prepend]
  refine ⟨rfl, ?_⟩
  simp [Node.blockMark, Node.firstMark, Placement.ofCall?, Node.statementMarks_of_ne, ofList,
    gatherItems, hOwed, owed_assign, List.count_cons]
  omega

/-- The body of a function starts with the marks of the function and of the body. -/
theorem Counts.owed_functionBody (span : Span) (form : FunctionForm) :
    owed x ((functionBody handle span form node (walk handle node)).after targets) =
      owed x targets +
        ((Node.functionMarks handle span ((functionBody handle span form node
          (walk handle node)).result targets)).map .mark).count x +
        (gather (Node.imprints handle) (ofNode ((functionBody handle span form node
          (walk handle node)).result targets))).count x := by
  unfold Instrument.functionBody
  cases hBlock : node.isBlock with
  | true =>
    cases node <;> simp only [Node.isBlock, Bool.false_eq_true] at hBlock
    case blockStatement =>
      have hWalk := h.adds ((assign .func form.kind span).after targets)
      rw [walk_blockStatement] at hWalk
      simp [walk_blockStatement, Build.prepend, Node.functionMarks, Node.blockMark, Node.firstMark,
        Placement.ofCall?, Node.statementMarks_of_ne, ofList, gatherItems, owed_assign,
        List.count_cons] at hWalk ⊢
      omega
  | false =>
    simp [markCall, ofList, gatherItems, h.adds, owed_assign, List.count_cons]
    omega

omit h

variable (handle) in
/-- The arm of an `if` without `else` is a block that stands nowhere and holds only its mark. -/
theorem owed_missingArm (consequent whole : Span) :
    ((missingArm handle consequent whole).result targets).span = .none ∧
      owed x ((missingArm handle consequent whole).after targets) =
        owed x targets +
          ((Node.blockMark handle .branch ⟨consequent.stop, whole.stop⟩
            ((missingArm handle consequent whole).result targets)).map .mark).count x +
          (gather (Node.imprints handle)
            (ofNode ((missingArm handle consequent whole).result targets))).count x := by
  simp only [missingArm, markStatement, result_bind, after_bind,
    result_pure, after_pure, Build.prepend]
  refine ⟨rfl, ?_⟩
  simp [Node.blockMark, Node.firstMark, Placement.ofCall?, Node.statementMarks, ofList, gatherItems,
    owed_assign, List.count_cons]
  omega

/-! ## Whole trees -/

/-- No statement of a list that is walked over without marks is a mark. -/
theorem statementMarks_walkList (h : ∀ node ∈ nodes, node.Located) (targets : List Target) :
    Node.statementMarks handle ((walkList handle nodes).result targets) = [] := by
  induction nodes generalizing targets with
  | nil => simp [walkList, Node.statementMarks]
  | cons node rest ih =>
    obtain ⟨hNode, hRest⟩ := List.forall_mem_cons.1 h
    simp [walkList, Node.statementMarks_of_isKnown handle (isKnown_walk handle targets hNode),
      ih hRest]

theorem firstMark_walkList (h : ∀ node ∈ nodes, node.Located) (space : Space) (span : Span)
    (targets : List Target) :
    Node.firstMark handle space span ((walkList handle nodes).result targets) = [] := by
  cases nodes with
  | nil => simp [walkList, Node.firstMark]
  | cons node rest =>
    have hKnown := isKnown_walk handle targets (h node List.mem_cons_self)
    simp [walkList, Node.firstMark, Node.trackingStatement?_of_isKnown handle hKnown,
      Placement.ofCall?]

theorem owed_each {α β : Type} {view : β → View} {step : α → Tracking β} {items : List α}
    (h : ∀ item ∈ items, ∀ targets, owed x ((step item).after targets) = owed x targets +
      (gather (Node.imprints handle) (view ((step item).result targets))).count x) :
    owed x ((items.mapM step).after targets) = owed x targets + (gatherItems (Node.imprints handle)
      (((items.mapM step).result targets).map view)).count x := by
  induction items generalizing targets with
  | nil => rfl
  | cons item rest ih =>
    obtain ⟨hItem, hRest⟩ := List.forall_mem_cons.1 h
    simp [gatherItems, hItem, ih _ hRest, Nat.add_assoc]

theorem owed_list (h : ∀ node ∈ nodes, Counts handle x node) :
    owed x ((walkList handle nodes).after targets) = owed x targets +
      (gatherItems (Node.imprints handle)
        (ofList ((walkList handle nodes).result targets))).count x := by
  rw [walkList_eq, ofList_eq_map]
  exact owed_each x targets fun node hNode => (h node hNode).adds

theorem owed_optional {part : Option Node} (h : ∀ node, part = some node → Counts handle x node) :
    owed x ((walkOptional handle part).after targets) = owed x targets +
      (gather (Node.imprints handle)
        (ofOptional ((walkOptional handle part).result targets))).count x := by
  cases part with
  | none => simp [walkOptional, ofOptional]
  | some node => simpa [walkOptional, ofOptional] using (h node rfl).adds targets

theorem owed_holes {elements : List (Option Node)}
    (h : ∀ node, some node ∈ elements → Counts handle x node) :
    owed x ((walkHoles handle elements).after targets) = owed x targets +
      (gatherItems (Node.imprints handle)
        (ofHoles ((walkHoles handle elements).result targets))).count x := by
  rw [walkHoles_eq, ofHoles_eq_map]
  refine owed_each x targets fun element hElement targets => owed_optional x targets ?_
  rintro node rfl
  exact h node hElement

theorem owed_statements (h : ∀ node ∈ nodes, Counts handle x node) :
    owed x ((walkStatements handle nodes).after targets) = owed x targets +
      ((Node.statementMarks handle
        ((walkStatements handle nodes).result targets)).map .mark).count x +
      (gatherItems (Node.imprints handle)
        (ofList ((walkStatements handle nodes).result targets))).count x := by
  induction nodes generalizing targets with
  | nil => simp [walkStatements, Node.statementMarks, ofList, gatherItems]
  | cons node rest ih =>
    obtain ⟨hNode, hRest⟩ := List.forall_mem_cons.1 h
    have hFirst := hNode.owed_statement x targets ((walkStatements handle rest).result
      ((statement handle node (walk handle node)).after targets)) .none
    simp [walkStatements, ih _ hRest] at hFirst ⊢
    omega

/-- What the walk over a node adds, where it stands as any node and in the place for its kind. -/
structure CountsAll (handle : Text) (node : Node) : Prop extends Counts handle x node where
  declarator : ∀ targets, owed x ((walkDeclarator handle node).after targets) = owed x targets +
    (gather (Node.imprints handle) (ofNode ((walkDeclarator handle node).result targets))).count x
  case : ∀ targets, owed x ((walkCase handle node).after targets) = owed x targets +
    (gather (Node.imprints handle) (ofNode ((walkCase handle node).result targets))).count x

attribute [local simp] walk ofNode ofOptional located gatherParts gatherFields Node.marks Node.parts
  Node.looseParts Node.placedParts

variable (handle) in
/-- The walk over a located tree adds each imprint to the targets as often as it puts it into the
tree. -/
theorem countsAll (node : Node) : node.Located → CountsAll x handle node := by
  induction node using Node.induction_parts with
  | h tree ih =>
  intro hLocated
  have hPart (part : Node) (hPart : part ∈ tree.parts) : Counts handle x part :=
    (ih part hPart (hLocated.part hPart)).toCounts
  have hNone (node : Node) (h : node.Located) : gather (Node.imprints handle) (ofNode node) = [] :=
    Node.gather_of_located (fun _ => rfl) (fun _ => Node.imprints_of_located handle) h
  have hQuasis (quasis : List Quasi) : quasis.flatMap
      (fun quasi => Node.imprints handle (.templateElement quasi)) = [] :=
    List.flatMap_eq_nil_iff.2 fun _ _ => rfl
  have hWalk : Counts handle x tree := by
    refine ⟨hLocated, fun targets => ?_⟩
    rw [gather_ofNode, Node.imprints_of_isKnown handle (isKnown_walk handle targets hLocated)]
    cases tree
    case variableDeclaration declarations =>
      have hEach : ∀ node ∈ declarations, _ := fun node hNode =>
        (ih node (by simp [hNode]) (hLocated.part (by simp [hNode]))).declarator
      simp [walkDeclarators_eq, ofList_eq_map, owed_each x _ hEach]
    case switchStatement discriminant cases =>
      have hEach : ∀ node ∈ cases, _ := fun node hNode =>
        (ih node (by simp [hNode]) (hLocated.part (by simp [hNode]))).case
      have hFirst := hPart discriminant (by simp)
      simp [walkCases_eq, ofList_eq_map, owed_each x _ hEach, hFirst.adds, Nat.add_assoc]
    case function id _ _ _ _ _ =>
      have hId : gather (Node.imprints handle) (ofOptional id) = [] := by
        cases id with
        | none => simp
        | some name =>
          exact hNone name (hLocated.part (by simp))
      simp (disch := (intros; apply hPart; simp [*]; done)) [owed_list, Counts.owed_functionBody,
        hId]
      omega
    case labeledStatement label _ =>
      have hLabel := hNone label (hLocated.part (by simp))
      simp (disch := (apply hPart; simp; done)) [Counts.adds, hLabel]
    case ifStatement span test consequent alternate =>
      have hTest := hPart test (by simp)
      have hConsequent := hPart consequent (by simp)
      have hSpan (targets) := (hConsequent.owed_arm x targets).1
      have hFirst (targets) := (hConsequent.owed_arm x targets).2
      cases alternate with
      | none =>
        have hMissing (targets) := owed_missingArm handle x targets consequent.span span
        simp [hTest.adds, hSpan, hFirst, hMissing, Node.armSpan]
        omega
      | some alternate =>
        have hAlternate := hPart alternate (by simp)
        have hSecond (targets) := hAlternate.owed_arm x targets
        have hKnown := Node.Located.isKnown hAlternate.located
        simp [hTest.adds, hSpan, hFirst, hSecond, Node.armSpan_of_isKnown _ _ hKnown]
        omega
    case switchCase consequent =>
      have hLocated (node : Node) (hNode : node ∈ consequent) : node.Located :=
        (hPart node (by simp [hNode])).located
      simp (disch := (intros; apply hPart; simp [*]; done)) [owed_list, owed_optional,
        firstMark_walkList hLocated, statementMarks_walkList hLocated, Nat.add_assoc]
    case variableDeclarator id init =>
      have hId := hPart id (by simp)
      cases init with
      | none => simp [walkOptional, hId.adds]
      | some value =>
        have hValue := hPart value (by simp)
        simp [walkOptional, hId.adds, hValue.adds, Nat.add_assoc,
          Node.sequenceMark_of_isKnown handle _ _ (isKnown_walk handle _ hValue.located)]
    case templateElement => simp [ofQuasi]
    all_goals
      simp (disch := (intros; apply hPart; simp [*]; done)) [Counts.adds,
        Counts.owed_tracked, Counts.owed_operand, Counts.owed_asBlock, owed_list, owed_optional,
        owed_holes, owed_statements, hQuasis, Nat.add_assoc] <;>
        omega
  refine ⟨hWalk, fun targets => ?_, fun targets => ?_⟩
  · fun_cases walkDeclarator handle tree with
    | case1 span id =>
      have hId := hPart id (by simp)
      simp only [result_bind, after_bind, result_pure,
        after_pure]
      rw [gather_ofNode, Node.imprints_of_isKnown handle (by exact hLocated.isKnown)]
      simp [hId.adds]
    | case2 span id init =>
      have hId := hPart id (by simp)
      have hInit := hPart init (by simp)
      simp only [result_bind, after_bind, result_pure,
        after_pure, markCall]
      rw [gather_ofNode, Node.imprints_of_isKnown handle (by exact hLocated.isKnown)]
      simp [ofList, gatherItems, hId.adds, hInit.adds, owed_assign, List.count_cons]
      omega
    | case3 node _ _ => exact hWalk.adds targets
  · fun_cases walkCase handle tree with
    | case1 span test consequent =>
      simp only [result_bind, after_bind, result_pure,
        after_pure, markStatement]
      rw [gather_ofNode, Node.imprints_of_isKnown handle (by exact hLocated.isKnown)]
      have hMark := Node.statementMarks_of_ne handle (by decide : Space.branch ≠ .stmt)
      simp (disch := (intros; apply hPart; simp [*]; done)) [ofList, gatherItems, Node.firstMark,
        Placement.ofCall?, hMark, owed_optional, owed_statements, owed_assign, List.count_cons]
      omega
    | case2 node _ => exact hWalk.adds targets

end

end Instrument

end Assay
