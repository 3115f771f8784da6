import Assay.Proofs.Concrete.Extents
import Assay.Proofs.Coverage.Tracking

/-!
# Instrumentation only adds tracking

Two functions on views say what instrumentation does to a program. `View.strip` takes out what
stands nowhere in the source: it deletes tracking statements from lists, and puts the last
expression in the place of a sequence that starts with tracking calls. `View.braced` puts blocks
around the arms of an `if` and the bodies of loops. `Instrument.strip_instrument` says that an
instrumented program without its tracking is the program itself with braces.

The induction follows the walk, over trees whose nodes all have a place in the source; what a walk
inserts has none, so the two are never taken for each other.
-/

set_option autoImplicit false

namespace Assay

namespace View

/-! ## Taking tracking out -/

section

variable (handle : Text)

/-- Whether a view shows a tracking call. -/
def isTrackingCall (view : View) : Bool := (view.node?.bind (Node.trackingCall? handle)).isSome

/-- Whether a view shows a tracking call as a statement that stands nowhere in the source. -/
def isTrackingStatement : View → Bool
  | .node .expressionStatement .null .null [(_, call)] => isTrackingCall handle call
  | _ => false

/-- Whether a view shows a sequence that stands nowhere in the source and has one or two tracking
calls before its last expression. -/
def isTrackedSequence : View → Bool
  | .node .sequenceExpression .null .null [(_, .list [first, _])] => isTrackingCall handle first
  | .node .sequenceExpression .null .null [(_, .list [first, second, _])] =>
    isTrackingCall handle first && isTrackingCall handle second
  | _ => false

/-- The last expression of a sequence, from its fields. -/
def lastExpression : List (String × View) → View
  | [(_, .list items)] => items.getLast?.getD (.data .null)
  | _ => .data .null

mutual

/-- The view without the tracking in it. -/
def strip : View → View
  | .node kind start stop fields =>
    if isTrackedSequence handle (.node kind start stop fields) then
      lastExpression (stripFields fields)
    else .node kind start stop (stripFields fields)
  | .list items => .list (stripItems items)
  | view => view

/-- The fields of a node without the tracking in them. -/
def stripFields : List (String × View) → List (String × View)
  | [] => []
  | (name, value) :: rest => (name, strip value) :: stripFields rest

/-- The items of a list without tracking statements and without the tracking in the others. -/
def stripItems : List View → List View
  | [] => []
  | item :: rest =>
    if isTrackingStatement handle item then stripItems rest else strip item :: stripItems rest

end

end

/-! ## Putting braces in -/

/-- Whether a field holds a statement that is put into braces. -/
def takesBraces : Kind → String → Bool
  | .ifStatement, field => field == "consequent" || field == "alternate"
  | .whileStatement, field | .doWhileStatement, field | .forStatement, field
  | .forInStatement, field | .forOfStatement, field => field == "body"
  | _, _ => false

/-- Whether a field holds a name and no statement can be in it. -/
def isName : Kind → String → Bool
  | .labeledStatement, field => field == "label"
  | .functionDeclaration, field | .functionExpression, field
  | .arrowFunctionExpression, field => field == "id"
  | _, _ => false

/-- The block of some items. -/
def block (start stop : Data) (items : List View) : View :=
  .node .blockStatement start stop [("body", .list items)]

/-- The statement as a block: a block as it is, another statement alone in a block of its own place,
and for no statement an empty block without a place. -/
def inBraces : View → View
  | .node .blockStatement start stop fields => .node .blockStatement start stop fields
  | .node kind start stop fields => block start stop [.node kind start stop fields]
  | _ => block .null .null []

mutual

/-- The view with braces around arms and loop bodies. -/
def braced : View → View
  | .node kind start stop fields => .node kind start stop (bracedFields kind fields)
  | .list items => .list (bracedItems items)
  | view => view

/-- The fields of a node with braces. -/
def bracedFields (kind : Kind) : List (String × View) → List (String × View)
  | [] => []
  | (name, value) :: rest =>
    (name,
      if isName kind name then value
      else if takesBraces kind name then inBraces (braced value)
      else braced value) :: bracedFields kind rest

/-- The items of a list with braces. -/
def bracedItems : List View → List View
  | [] => []
  | item :: rest => braced item :: bracedItems rest

end

/-! ## Located views -/

section

variable (handle : Text)

/-- What has a place in the source is no tracking statement. -/
theorem isTrackingStatement_of_isOffset {start : Data} (h : isOffset start = true) (kind : Kind)
    (stop : Data) (fields : List (String × View)) :
    isTrackingStatement handle (.node kind start stop fields) = false := by
  unfold isTrackingStatement
  split <;> simp_all [isOffset]

/-- What has a place in the source is no tracked sequence. -/
theorem isTrackedSequence_of_isOffset {start : Data} (h : isOffset start = true) (kind : Kind)
    (stop : Data) (fields : List (String × View)) :
    isTrackedSequence handle (.node kind start stop fields) = false := by
  unfold isTrackedSequence
  split <;> simp_all [isOffset]

/-- The tracking in what has a place in the source is in its fields. -/
theorem strip_located (kind : Kind) {span : Span} (h : span.isKnown = true)
    (fields : List (String × View)) :
    strip handle (located kind span fields) = located kind span (stripFields handle fields) := by
  have hStart : isOffset (offset span.start) = true := by
    simp only [Span.isKnown, Bool.and_eq_true] at h
    rw [isOffset_offset, h.1]
  rw [located, strip, isTrackedSequence_of_isOffset handle hStart]
  rfl

/-- The braces in a node are in its fields. -/
theorem braced_located (kind : Kind) (span : Span) (fields : List (String × View)) :
    braced (located kind span fields) = located kind span (bracedFields kind fields) := by
  rw [located, braced, located]

@[simp]
theorem strip_data (value : Data) : strip handle (.data value) = .data value := by
  simp [strip]

@[simp]
theorem braced_data (value : Data) : braced (.data value) = .data value := by
  simp [braced]

@[simp]
theorem strip_list (items : List View) :
    strip handle (.list items) = .list (stripItems handle items) := by
  simp [strip]

@[simp]
theorem braced_list (items : List View) : braced (.list items) = .list (bracedItems items) := by
  simp [braced]

/-- The spelling of a literal stays as it is. -/
@[simp]
theorem braced_spelling (raw : Option Text) : braced (.spelling raw) = .spelling raw := by
  cases raw <;> exact braced_data _

/-- The parts of a regular expression stay as they are. -/
@[simp]
theorem braced_regex (parts : Option (Text × Text)) : braced (.regex parts) = .regex parts := by
  cases parts <;> simp [regex, braced]

/-- A piece of a template stays as it is. -/
@[simp]
theorem braced_ofQuasi (quasi : Quasi) : braced (ofQuasi quasi) = ofQuasi quasi := by
  simp [ofQuasi, braced_located, bracedFields, isName, takesBraces, flag]

@[simp]
theorem bracedItems_quasis (quasis : List Quasi) :
    bracedItems (quasis.map ofQuasi) = quasis.map ofQuasi := by
  induction quasis with
  | nil => rfl
  | cons quasi rest ih => simp [bracedItems, ih]

@[simp]
theorem isTrackingStatement_ofNode {tree : Node} (h : tree.span.isKnown = true) :
    isTrackingStatement handle (ofNode tree) = false := by
  obtain ⟨fields, hView⟩ := ofNode_eq_located tree
  rw [hView]
  apply isTrackingStatement_of_isOffset
  simp only [Span.isKnown, Bool.and_eq_true] at h
  rw [isOffset_offset, h.1]

mutual

/-- There is no tracking in what has a place in the source. -/
theorem strip_of_isLocated : (view : View) → isLocated view = true → strip handle view = view
  | .node kind start stop fields, h => by
    simp only [isLocated, Bool.and_eq_true] at h
    rw [strip, isTrackedSequence_of_isOffset handle h.1.1, stripFields_of_areLocated fields h.2]
    rfl
  | .list items, h => by
    rw [isLocated_list] at h
    rw [strip, stripItems_of_areLocated items h]
  | .data value, _ => by simp [strip]
  | .tuple items, _ => by simp [strip]

theorem stripFields_of_areLocated : (fields : List (String × View)) →
    areFieldsLocated fields = true → stripFields handle fields = fields
  | [], _ => by simp [stripFields]
  | (name, value) :: rest, h => by
    simp only [areFieldsLocated, Bool.and_eq_true] at h
    rw [stripFields, strip_of_isLocated value h.1, stripFields_of_areLocated rest h.2]

theorem stripItems_of_areLocated : (items : List View) →
    areLocated items = true → stripItems handle items = items
  | [], _ => by simp [stripItems]
  | item :: rest, h => by
    simp only [areLocated, Bool.and_eq_true] at h
    have hStatement : isTrackingStatement handle item = false := by
      cases item with
      | node kind start stop fields =>
        simp only [isLocated, Bool.and_eq_true] at h
        exact isTrackingStatement_of_isOffset handle h.1.1.1 kind stop fields
      | _ => rfl
    rw [stripItems, hStatement, strip_of_isLocated item h.1, stripItems_of_areLocated rest h.2]
    rfl

end

end

end View

namespace Instrument

open View

variable (handle : Text) (targets : List Target) (space : Space) (span : Span)

/-! ## What is put in -/

/-- A tracking statement is taken out of a list. -/
@[simp]
theorem stripItems_trackingStatement (id : Int) (rest : List View) :
    stripItems handle (ofNode (Build.trackingStatement handle space id) :: rest) =
      stripItems handle rest := by
  have hStatement : isTrackingStatement handle
      (ofNode (Build.trackingStatement handle space id)) = true := by
    simp [Build.trackingStatement, Span.none, ofNode, located, offset, isTrackingStatement,
      isTrackingCall]
  rw [stripItems, hStatement]
  rfl

/-- What is no tracking statement stays in a list. -/
theorem stripItems_cons {node : Node} (h : node.span.isKnown = true) (rest : List View) :
    stripItems handle (ofNode node :: rest) =
      strip handle (ofNode node) :: stripItems handle rest := by
  rw [stripItems, isTrackingStatement_ofNode handle h]
  rfl

/-- A tracking call is no statement. -/
@[simp]
theorem isTrackingStatement_trackingCall (id : Int) :
    isTrackingStatement handle (ofNode (Build.trackingCall handle space id)) = false := by
  simp [Build.trackingCall, ofNode, located, isTrackingStatement]

/-- A sequence of a tracking call and an expression is the expression. -/
theorem strip_sequence (id : Int) {node : Node} (h : node.span.isKnown = true) :
    strip handle (ofNode (Build.sequence [Build.trackingCall handle space id, node])) =
      strip handle (ofNode node) := by
  have hNode := isTrackingStatement_ofNode handle h
  simp [Build.sequence, Span.none, ofNode, ofList, located, offset, strip, stripFields, stripItems,
    isTrackedSequence, isTrackingCall, hNode, lastExpression]

/-- A sequence of two tracking calls and an expression is the expression. -/
theorem strip_sequence_two (first second : Space) (id other : Int) {node : Node}
    (h : node.span.isKnown = true) :
    strip handle (ofNode (Build.sequence [Build.trackingCall handle first id,
      Build.trackingCall handle second other, node])) = strip handle (ofNode node) := by
  have hNode := isTrackingStatement_ofNode handle h
  simp [Build.sequence, Span.none, ofNode, ofList, located, offset, strip, stripFields, stripItems,
    isTrackedSequence, isTrackingCall, hNode, lastExpression]

/-! ## One construct at a time -/

/-- What the walk over a located tree gives is the tree with braces, once the tracking in it is taken
out. -/
structure Leaves (node : Node) : Prop where
  located : isLocated (ofNode node) = true
  strip_walk : ∀ targets,
    strip handle (ofNode ((walk handle node).result targets)) = braced (ofNode node)

variable {handle}

/-- A block without its tracking. -/
theorem strip_blockStatement (body : List Node) :
    strip handle (ofNode (.blockStatement span body)) =
      block (offset span.start) (offset span.stop) (stripItems handle (ofList body)) := by
  simp [ofNode, located, strip, stripFields, isTrackedSequence, block]

/-- What is no block is put into one. -/
theorem inBraces_braced_ofNode {node : Node} (h : node.isBlock = false) :
    inBraces (braced (ofNode node)) =
      block (offset node.span.start) (offset node.span.stop) [braced (ofNode node)] := by
  have hKind : node.kind ≠ .blockStatement := by
    cases node
    case' function form _ _ _ _ _ _ _ | classNode form _ _ _ _ => cases form
    case' bare category _ => cases category
    all_goals simp_all [Node.isBlock, Node.kind, Category.kind, FunctionForm.kind, ClassForm.kind]
  obtain ⟨fields, hView⟩ := ofNode_eq_located node
  rw [hView, located, braced, inBraces]
  exact hKind

/-- A block is in braces already. -/
theorem inBraces_braced_blockStatement (body : List Node) :
    inBraces (braced (ofNode (.blockStatement span body))) =
      braced (ofNode (.blockStatement span body)) := by
  simp [ofNode, located, braced, inBraces]

/-- The arm of an `if` without `else` is an empty block without its tracking. -/
theorem strip_missingArm (consequent whole : Span) :
    strip handle (ofNode ((missingArm handle consequent whole).result targets)) =
      inBraces (.data .null) := by
  simp [missingArm, markStatement, Build.prepend, strip_blockStatement, ofList, stripItems,
    inBraces, Span.none, offset]

section

variable {node : Node} (h : Leaves handle node)

include h

/-- A statement of a block is left over from it and its mark. -/
theorem Leaves.strip_statement (rest : List View) :
    stripItems handle
        (ofList ((statement handle node (walk handle node)).result targets) ++ rest) =
      braced (ofNode node) :: stripItems handle rest := by
  have hWalk (targets : List Target) : stripItems handle
      (ofNode ((walk handle node).result targets) :: rest) =
        braced (ofNode node) :: stripItems handle rest := by
    rw [stripItems_cons handle (isKnown_walk handle targets h.located), h.strip_walk]
  unfold Instrument.statement
  split
  · simp [ofList, markStatement, hWalk]
  · simp [ofList, hWalk]

/-- An expression is left over from it and its mark. -/
theorem Leaves.strip_tracked :
    strip handle (ofNode ((tracked handle space node (walk handle node)).result targets)) =
      braced (ofNode node) := by
  simp only [Instrument.tracked, markCall, Tracking.result_bind, Tracking.result_pure]
  rw [strip_sequence handle _ _ (isKnown_walk handle _ h.located), h.strip_walk]

/-- An operand of a logical expression is left over from it and its mark, if it has one. -/
theorem Leaves.strip_operand :
    strip handle (ofNode ((operand handle node (walk handle node)).result targets)) =
      braced (ofNode node) := by
  unfold Instrument.operand
  split
  · exact h.strip_walk targets
  · exact h.strip_tracked targets .branch

/-- The body of a loop is left over as a block. -/
theorem Leaves.asBlock_eq :
    ∃ span body, (asBlock handle node (walk handle node)).result targets =
        .blockStatement span body ∧
      strip handle (ofNode (.blockStatement span body)) = inBraces (braced (ofNode node)) := by
  unfold Instrument.asBlock
  cases hBlock : node.isBlock with
  | true =>
    cases node <;> simp only [Node.isBlock, Bool.false_eq_true] at hBlock
    case blockStatement span body =>
      refine ⟨span, (walkStatements handle body).result targets, ?_, ?_⟩
      · simp [walk]
      · rw [inBraces_braced_blockStatement, ← h.strip_walk targets, walk_blockStatement]
  | false =>
    have hLeft := h.strip_statement targets []
    rw [List.append_nil] at hLeft
    refine ⟨node.span, (statement handle node (walk handle node)).result targets, ?_, ?_⟩
    · simp
    · rw [strip_blockStatement, hLeft, inBraces_braced_ofNode hBlock]
      simp [stripItems]

/-- The body of a loop without its tracking is the body in braces. -/
theorem Leaves.strip_asBlock :
    strip handle (ofNode ((asBlock handle node (walk handle node)).result targets)) =
      inBraces (braced (ofNode node)) := by
  obtain ⟨span, body, hBlock, hStrip⟩ := h.asBlock_eq targets
  rw [hBlock, hStrip]

/-- An arm of an `if` without its tracking is the arm in braces. -/
theorem Leaves.strip_arm :
    strip handle (ofNode ((arm handle node (walk handle node)).result targets)) =
      inBraces (braced (ofNode node)) := by
  simp only [arm, markStatement, Tracking.result_bind, Tracking.result_pure]
  obtain ⟨span, body, hBlock, hStrip⟩ := h.asBlock_eq
    ((do return Build.trackingStatement handle .branch (← assign .branch node.kind node.span) :
      Tracking Node).after targets)
  rw [← hStrip, hBlock, Build.prepend, strip_blockStatement, strip_blockStatement, ofList,
    stripItems_trackingStatement]

/-- The body of a function is left over from it and its marks. -/
theorem Leaves.strip_functionBody (form : FunctionForm) :
    strip handle (ofNode ((functionBody handle span form node (walk handle node)).result targets)) =
      braced (ofNode node) := by
  unfold Instrument.functionBody
  cases hBlock : node.isBlock with
  | true =>
    cases node <;> simp only [Node.isBlock, Bool.false_eq_true] at hBlock
    case blockStatement =>
      have hBody := h.strip_walk ((assign .func form.kind span).after targets)
      rw [walk_blockStatement, strip_blockStatement] at hBody
      simp only [Tracking.result_bind, if_true, Tracking.result_pure, walk_blockStatement,
        Build.prepend]
      rw [strip_blockStatement, ofList, stripItems_trackingStatement, hBody]
  | false =>
    simp only [Tracking.result_bind, markCall, Tracking.result_pure, Bool.false_eq_true, if_false]
    rw [strip_sequence_two handle _ _ _ _ (isKnown_walk handle _ h.located), h.strip_walk]

end

/-! ## Whole trees -/

theorem strip_each {α β : Type} {view : α → View} {shown : β → View} {step : α → Tracking β}
    {items : List α} (h : ∀ item ∈ items, ∀ targets,
      isTrackingStatement handle (shown ((step item).result targets)) = false ∧
      strip handle (shown ((step item).result targets)) = braced (view item)) :
    stripItems handle (((items.mapM step).result targets).map shown) =
      bracedItems (items.map view) := by
  induction items generalizing targets with
  | nil => simp [stripItems, bracedItems]
  | cons item rest ih =>
    obtain ⟨hItem, hRest⟩ := List.forall_mem_cons.1 h
    simp [stripItems, bracedItems, hItem, ih _ hRest]

theorem strip_list_walk {nodes : List Node} (h : ∀ node ∈ nodes, Leaves handle node) :
    stripItems handle (ofList ((walkList handle nodes).result targets)) =
      bracedItems (ofList nodes) := by
  rw [walkList_eq, ofList_eq_map, ofList_eq_map]
  refine strip_each targets fun node hNode targets => ⟨?_, (h node hNode).strip_walk targets⟩
  exact isTrackingStatement_ofNode handle (isKnown_walk handle targets (h node hNode).located)

theorem strip_optional {part : Option Node} (h : ∀ node, part = some node → Leaves handle node) :
    strip handle (ofOptional ((walkOptional handle part).result targets)) =
      braced (ofOptional part) := by
  cases part with
  | none => simp [walkOptional, ofOptional]
  | some node => simpa [walkOptional, ofOptional] using (h node rfl).strip_walk targets

theorem strip_holes {elements : List (Option Node)}
    (h : ∀ node, some node ∈ elements → Leaves handle node) :
    stripItems handle (ofHoles ((walkHoles handle elements).result targets)) =
      bracedItems (ofHoles elements) := by
  rw [walkHoles_eq, ofHoles_eq_map, ofHoles_eq_map]
  refine strip_each targets fun element hElement targets => ⟨?_, strip_optional targets ?_⟩
  · cases element with
    | none => rfl
    | some node =>
      exact isTrackingStatement_ofNode handle (isKnown_walk handle targets (h node hElement).located)
  · rintro node rfl
    exact h node hElement

theorem strip_statements {nodes : List Node} (h : ∀ node ∈ nodes, Leaves handle node) :
    stripItems handle (ofList ((walkStatements handle nodes).result targets)) =
      bracedItems (ofList nodes) := by
  induction nodes generalizing targets with
  | nil => simp [walkStatements, ofList, stripItems, bracedItems]
  | cons node rest ih =>
    obtain ⟨hNode, hRest⟩ := List.forall_mem_cons.1 h
    simp [walkStatements, ofList_append, ofList, bracedItems, hNode.strip_statement, ih _ hRest]

/-- What is left of a node, where it stands as any node and in the place for its kind. -/
structure LeavesAll (handle : Text) (node : Node) : Prop extends Leaves handle node where
  declarator : ∀ targets,
    isTrackingStatement handle (ofNode ((walkDeclarator handle node).result targets)) = false ∧
    strip handle (ofNode ((walkDeclarator handle node).result targets)) = braced (ofNode node)
  case : ∀ targets,
    isTrackingStatement handle (ofNode ((walkCase handle node).result targets)) = false ∧
    strip handle (ofNode ((walkCase handle node).result targets)) = braced (ofNode node)

attribute [local simp] walk ofNode ofOptional strip_located braced_located stripFields bracedFields
  isName takesBraces flag Node.parts Node.looseParts Node.placedParts

variable (handle)

/-- The walk over a tree leaves the tree. -/
theorem leaves (node : Node) : node.Located → LeavesAll handle node := by
  induction node using Node.induction_parts with
  | h tree ih =>
  intro hLocated
  have hPart (part : Node) (hPart : part ∈ tree.parts) : Leaves handle part :=
    (ih part hPart (hLocated.part hPart)).toLeaves
  have hKnown := hLocated.isKnown
  have hWalk : Leaves handle tree := by
    refine ⟨hLocated, fun targets => ?_⟩
    cases tree <;> simp only [Node.span] at hKnown
    case variableDeclaration declarations =>
      have hEach : ∀ node ∈ declarations, _ := fun node hNode =>
        (ih node (by simp [hNode]) (hLocated.part (by simp [hNode]))).declarator
      simp [walkDeclarators_eq, ofList_eq_map, strip_each _ hEach, hKnown]
    case switchStatement discriminant cases =>
      have hEach : ∀ node ∈ cases, _ := fun node hNode =>
        (ih node (by simp [hNode]) (hLocated.part (by simp [hNode]))).case
      have hFirst := hPart discriminant (by simp)
      simp [walkCases_eq, ofList_eq_map, strip_each _ hEach, hFirst.strip_walk, hKnown]
    case function form _ id _ _ _ _ _ =>
      have hId : strip handle (ofOptional id) = ofOptional id := by
        refine strip_of_isLocated handle _ ((isLocated_ofOptional id).2 ?_)
        rintro name rfl
        exact hLocated.part (by simp)
      cases form <;>
        simp (disch := first | assumption | (intros; apply hPart; simp [*]; done)) [strip_list_walk,
          Leaves.strip_functionBody, hId, FunctionForm.kind]
    case classNode form _ _ _ _ =>
      cases form <;>
        simp (disch := first | assumption | (intros; apply hPart; simp [*]; done)) [strip_optional,
          Leaves.strip_walk, ClassForm.kind]
    case ifStatement alternate =>
      cases alternate <;>
        simp (disch := first | assumption | (apply hPart; simp; done)) [Leaves.strip_walk,
          Leaves.strip_arm, strip_missingArm]
    case labeledStatement label _ =>
      have hLabel := strip_of_isLocated handle _ (hPart label (by simp)).located
      simp (disch := first | assumption | (apply hPart; simp; done)) [Leaves.strip_walk, hLabel]
    case templateElement => simp [ofQuasi, hKnown]
    case literal => simp [strip_of_isLocated, hKnown]
    case templateLiteral quasis _ =>
      have hQuasis : isLocated (.list (quasis.map ofQuasi)) = true := by
        simp only [Node.Located, ofNode, isLocated_located, areFieldsLocated, Bool.and_eq_true]
          at hLocated
        exact hLocated.2.1
      have hStrip := strip_of_isLocated handle _ hQuasis
      rw [strip_list, View.list.injEq] at hStrip
      simp (disch := first | assumption | (intros; apply hPart; simp [*]; done)) [strip_list_walk,
        hStrip]
    all_goals
      simp (disch := first | assumption | (intros; apply hPart; simp [*]; done)) [Leaves.strip_walk,
        Leaves.strip_tracked, Leaves.strip_operand, Leaves.strip_asBlock, strip_list_walk,
        strip_optional, strip_holes, strip_statements]
  refine ⟨hWalk, fun targets => ?_, fun targets => ?_⟩
  · refine ⟨isTrackingStatement_ofNode handle (by rwa [walkDeclarator_span]), ?_⟩
    fun_cases walkDeclarator handle tree with
    | case1 span id =>
      simp only [Node.span] at hKnown
      have hId := hPart id (by simp)
      simp [hId.strip_walk, hKnown]
    | case2 span id init =>
      simp only [Node.span] at hKnown
      have hId := hPart id (by simp)
      have hInit := hPart init (by simp)
      simp [markCall, strip_sequence handle _ _ (isKnown_walk handle _ hInit.located),
        hId.strip_walk, hInit.strip_walk, hKnown]
    | case3 => exact hWalk.strip_walk targets
  · refine ⟨isTrackingStatement_ofNode handle (by rwa [walkCase_span]), ?_⟩
    fun_cases walkCase handle tree with
    | case1 span test consequent =>
      simp only [Node.span] at hKnown
      simp (disch := first | assumption | (intros; apply hPart; simp [*]; done)) [markStatement,
        ofList, strip_optional, strip_statements]
    | case2 => exact hWalk.strip_walk targets

/-- Without its tracking an instrumented program is the program itself, with braces around the arms of
each `if` and the bodies of the loops. -/
theorem strip_instrument {script : Script} {program : Node} (h : script.parse = .ok program) :
    strip handle (ofNode (program.instrument handle).1) = braced (ofNode program) :=
  (leaves handle program (Script.parse_located h)).strip_walk []

/-- The program `if (a) b` as it comes from the grammar. -/
def bareArm : Script where
  code := "if (a) b"
  tree :=
    .part .program 0 8 "" [.part .ifStatement 0 8 ""
      [.part .parenthesizedExpression 3 6 "condition" [.part .identifier 4 5 "" []],
       .part .expressionStatement 7 8 "consequence" [.part .identifier 7 8 "" []]]]

/-- The syntax tree of `if (a) b`. -/
def bareArmTree : Node :=
  .program (.between 0 8) [.ifStatement (.between 0 8) (.identifier (.between 4 5) "a")
    (.expressionStatement (.between 7 8) (.identifier (.between 7 8) "b")) none]

/-- The arm gets braces and the missing arm is an empty block. -/
theorem strip_instrument_bareArm :
    bareArm.parse = .ok bareArmTree ∧
      strip "__cov__" (ofNode (bareArmTree.instrument "__cov__").1) =
        ofNode (.program (.between 0 8) [.ifStatement (.between 0 8) (.identifier (.between 4 5) "a")
          (.blockStatement (.between 7 8)
            [.expressionStatement (.between 7 8) (.identifier (.between 7 8) "b")])
          (some (.blockStatement .none []))]) := by
  have hParse : bareArm.parse = .ok bareArmTree := rfl
  exact ⟨hParse, strip_instrument "__cov__" hParse⟩

end Instrument

end Assay
