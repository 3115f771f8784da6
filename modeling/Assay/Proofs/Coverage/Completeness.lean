import Assay.Proofs.Coverage.Placement
import Assay.Proofs.Tree.WellFormed

/-!
# The targets of a program

`Node.spots` says which places a node contributes to what is counted, from the node and its parts
alone. The walk of the instrumentation leaves exactly these places of all nodes as targets, up to
their order: `Instrument.perm_spots`.
-/

set_option autoImplicit false

namespace Assay

/-! ## What is counted -/

namespace Node

/-- The place of a statement, which is counted unless it is a declaration or an `if`. -/
def statementSpots (node : Node) : List (Space × Span) :=
  if node.isDeclaration || node.kind = .ifStatement then [] else [(.stmt, node.span)]

/-- The place of an arm of an `if` or of the body of a loop, counted as a statement if it has no
braces. -/
def bodySpots (node : Node) : List (Space × Span) :=
  if node.isBlock then [] else node.statementSpots

/-- The place of an operand of a logical expression, unless it is logical itself. -/
def operandSpots (node : Node) : List (Space × Span) :=
  if node.kind = .logicalExpression then [] else [(.branch, node.span)]

/-- The places that are counted because of a node. -/
def spots : Node → List (Space × Span)
  | .function _ span _ _ body _ _ _ =>
    (.func, span) :: if body.isBlock then [] else [(.stmt, body.span)]
  | .variableDeclarator span _ (some _) => [(.stmt, span)]
  | .assignmentPattern _ _ right => [(.stmt, right.span)]
  | .blockStatement _ body | .staticBlock _ body => body.flatMap statementSpots
  | .switchCase span _ consequent => (.branch, span) :: consequent.flatMap statementSpots
  | .ifStatement span _ consequent none =>
    (.branch, consequent.span) :: consequent.bodySpots ++
      [(.branch, ⟨consequent.span.stop, span.stop⟩)]
  | .ifStatement _ _ consequent (some alternate) =>
    (.branch, consequent.span) :: consequent.bodySpots ++
      (.branch, alternate.span) :: alternate.bodySpots
  | .conditional _ _ consequent alternate =>
    [(.branch, consequent.span), (.branch, alternate.span)]
  | .logical _ left _ right => left.operandSpots ++ right.operandSpots
  | .whileStatement _ _ body | .doWhileStatement _ body _ | .forStatement _ _ _ _ body
  | .forInStatement _ _ _ body | .forOfStatement _ _ _ body _ => body.bodySpots
  | _ => []

/-- Whether a node is counted wherever it stands: declarators and cases are counted by what they
are parts of. -/
def isSurveyed : Node → Bool
  | .variableDeclarator .. | .switchCase .. => false
  | _ => true

theorem isSurveyed_of_isFree {node : Node} (h : node.isFree = true) : node.isSurveyed = true := by
  cases node <;> first | rfl | cases h

theorem eq_switchCase_of_kind {node : Node} (h : node.kind = .switchCase) :
    ∃ span test consequent, node = .switchCase span test consequent := by
  cases node
  case switchCase span test consequent => exact ⟨span, test, consequent, rfl⟩
  case' function form _ _ _ _ _ _ _ | classNode form _ _ _ _ => cases form
  case' bare category _ => cases category
  all_goals cases h

theorem eq_variableDeclarator_of_kind {node : Node} (h : node.kind = .variableDeclarator) :
    ∃ span id init, node = .variableDeclarator span id init := by
  cases node
  case variableDeclarator span id init => exact ⟨span, id, init, rfl⟩
  case' function form _ _ _ _ _ _ _ | classNode form _ _ _ _ => cases form
  case' bare category _ => cases category
  all_goals cases h

/-- A name has nothing that is counted. -/
theorem gather_spots_of_isName {node : Node} (h : node.isName = true) :
    View.gather spots (View.ofNode node) = [] := by
  cases node <;> try cases h
  rw [View.gather_ofNode]
  simp [spots, View.ofNode, View.located, View.gatherParts, View.gatherFields]

end Node

/-- A tree whose nodes fit and whose root is counted wherever it stands. -/
structure Node.Surveyed (lexicon : Lexicon) (limit : Int) (node : Node) : Prop where
  fits : node.Every (Node.Fits lexicon limit)
  root : node.isSurveyed = true

/-- The parts of a node that is no declaration of variables and no `switch` are counted wherever
they stand. -/
theorem Node.surveyed_parts {lexicon : Lexicon} {limit : Int} {node : Node}
    (h : node.Every (Node.Fits lexicon limit))
    (hKinds : ∀ kind ∈ node.placedKinds, kind ≠ .variableDeclarator ∧ kind ≠ .switchCase) :
    ∀ part ∈ node.parts, part.Surveyed lexicon limit := by
  intro part hPart
  refine ⟨h.part hPart, ?_⟩
  rcases List.mem_append.1 hPart with hLoose | hPlaced
  · exact Node.isSurveyed_of_isFree (h.here.loose part hLoose)
  · rcases h.here.placed part hPlaced with hKind | hFree
    · have := hKinds _ hKind
      cases part <;> simp_all [Node.isSurveyed, Node.kind]
    · exact Node.isSurveyed_of_isFree hFree

/-! ## Where it lies -/

/-- The gap behind a part at the end of a whole lies in the text if both do. -/
theorem Span.within_gap {limit : Int} {inner outer : Span} (hInner : inner.Within limit)
    (hOuter : outer.Within limit) (h : inner.EndsIn outer) :
    Span.Within limit ⟨inner.stop, outer.stop⟩ := by
  obtain ⟨first, stop, rfl, hFirst, hOrder, -⟩ := hInner
  obtain ⟨start, last, rfl, -, -, hLimit⟩ := hOuter
  obtain ⟨stop', last', hStop, hLast, hLe⟩ := h
  cases hStop
  cases hLast
  exact ⟨stop, last, rfl, by omega, hLe, hLimit⟩

namespace Node

variable {spot : Space × Span} {lexicon : Lexicon} {limit : Int} {node : Node}

theorem snd_of_mem_statementSpots (h : spot ∈ node.statementSpots) : spot.2 = node.span := by
  unfold statementSpots at h
  split at h <;> simp_all

theorem snd_of_mem_bodySpots (h : spot ∈ node.bodySpots) : spot.2 = node.span := by
  unfold bodySpots at h
  split at h
  · cases h
  · exact snd_of_mem_statementSpots h

theorem snd_of_mem_operandSpots (h : spot ∈ node.operandSpots) : spot.2 = node.span := by
  unfold operandSpots at h
  split at h <;> simp_all

/-- The places that are counted because of a node lie in the text. -/
theorem within_of_mem_spots (h : node.Every (Fits lexicon limit)) (hSpot : spot ∈ node.spots) :
    spot.2.Within limit := by
  have hHere : node.span.Within limit := h.here.within
  have hParts (part : Node) (hPart : part ∈ node.parts) : part.span.Within limit :=
    (h.part hPart).here.within
  unfold spots at hSpot
  split at hSpot
  case h_7 consequent =>
    have hConsequent := hParts consequent (by simp [parts, looseParts])
    have hGap := Span.within_gap hConsequent hHere h.here.proper.2
    simp only [List.cons_append, List.mem_cons, List.mem_append, List.not_mem_nil, or_false]
      at hSpot
    rcases hSpot with rfl | hSpot | rfl
    · exact hConsequent
    · exact snd_of_mem_bodySpots hSpot ▸ hConsequent
    · exact hGap
  case h_16 => cases hSpot
  all_goals
    simp only [Node.span] at hHere
    simp only [parts, looseParts, placedParts, List.cons_append, List.mem_cons, List.mem_append,
      List.mem_flatMap] at hParts hSpot
    grind [→ snd_of_mem_statementSpots, → snd_of_mem_bodySpots, → snd_of_mem_operandSpots]

end Node

/-! ## What the walk finds -/

/-- The place of a target and what is counted there. -/
def Target.spot (target : Target) : Space × Span := (target.space, target.span)

namespace Instrument

open View Tracking

section

variable {handle : Text} {lexicon : Lexicon} {limit : Int} (x : Space × Span)

/-- How often a place is among the targets. -/
def found (targets : List Target) : Nat := (targets.map Target.spot).count x

variable (handle) in
/-- The walk over a tree adds a place to the targets as often as the tree has it. -/
def Finds (node : Node) : Prop := ∀ targets,
  found x ((walk handle node).after targets) =
    found x targets + (gather Node.spots (ofNode node)).count x

variable (targets : List Target)

theorem found_assign (space : Space) (kind : Kind) (span : Span) :
    found x ((assign space kind span).after targets) =
      found x targets + [(space, span)].count x := by
  have hAfter : (assign space kind span).after targets = targets ++ [⟨space, kind, span⟩] := rfl
  rw [hAfter, found, List.map_append, List.count_append]
  rfl

theorem Finds.found_statement {node : Node} (h : Finds handle x node) :
    found x ((statement handle node (walk handle node)).after targets) =
      found x targets + node.statementSpots.count x + (gather Node.spots (ofNode node)).count x := by
  unfold Instrument.statement Node.statementSpots isMarked
  cases node.isDeclaration || decide (node.kind = .ifStatement) with
  | true => simpa using h targets
  | false =>
    have hMark := found_assign x targets .stmt node.kind node.span
    have hWalk := h ((assign .stmt node.kind node.span).after targets)
    simp only [Bool.not_false, if_true, markStatement, after_bind, after_pure,
      Bool.false_eq_true, if_false]
    omega

theorem Finds.found_tracked {node : Node} (h : Finds handle x node) (space : Space) :
    found x ((tracked handle space node (walk handle node)).after targets) =
      found x targets + [(space, node.span)].count x +
        (gather Node.spots (ofNode node)).count x := by
  have hMark := found_assign x targets space node.kind node.span
  have hWalk := h ((assign space node.kind node.span).after targets)
  simp only [tracked, markCall, after_bind, after_pure]
  omega

theorem Finds.found_operand {node : Node} (h : Finds handle x node) :
    found x ((operand handle node (walk handle node)).after targets) =
      found x targets + node.operandSpots.count x + (gather Node.spots (ofNode node)).count x := by
  unfold Instrument.operand Node.operandSpots
  split
  · exact h targets
  · exact h.found_tracked x targets .branch

theorem Finds.found_asBlock {node : Node} (h : Finds handle x node) :
    found x ((asBlock handle node (walk handle node)).after targets) =
      found x targets + node.bodySpots.count x + (gather Node.spots (ofNode node)).count x := by
  unfold Instrument.asBlock Node.bodySpots
  split
  · exact h targets
  · exact h.found_statement x targets

theorem Finds.found_arm {node : Node} (h : Finds handle x node) :
    found x ((arm handle node (walk handle node)).after targets) =
      found x targets + [(Space.branch, node.span)].count x + node.bodySpots.count x +
        (gather Node.spots (ofNode node)).count x := by
  have hMark := found_assign x targets .branch node.kind node.span
  have hBlock := h.found_asBlock x ((assign .branch node.kind node.span).after targets)
  simp only [arm, markStatement, after_bind, after_pure]
  omega

variable (handle) in
theorem found_missingArm (consequent whole : Span) :
    found x ((missingArm handle consequent whole).after targets) =
      found x targets + [(Space.branch, Span.mk consequent.stop whole.stop)].count x := by
  simp only [missingArm, markStatement, after_bind, after_pure]
  exact found_assign x targets .branch .ifStatement _

theorem Finds.found_functionBody {body : Node} (h : Finds handle x body) (span : Span)
    (form : FunctionForm) :
    found x ((functionBody handle span form body (walk handle body)).after targets) =
      found x targets + [(Space.func, span)].count x +
        (if body.isBlock then [] else [(Space.stmt, body.span)]).count x +
        (gather Node.spots (ofNode body)).count x := by
  have hMark := found_assign x targets .func form.kind span
  unfold functionBody
  cases body.isBlock with
  | true =>
    have hWalk := h ((assign .func form.kind span).after targets)
    simp only [if_true, after_bind, after_pure, List.count_nil]
    omega
  | false =>
    have hBody := found_assign x ((assign .func form.kind span).after targets) .stmt body.kind
      body.span
    have hWalk := h
      ((assign .stmt body.kind body.span).after ((assign .func form.kind span).after targets))
    simp only [Bool.false_eq_true, if_false, markCall, after_bind, after_pure]
    omega

/-! ## Whole trees -/

theorem found_each {α β : Type} {view : α → View} {step : α → Tracking β} {items : List α}
    (h : ∀ item ∈ items, ∀ targets, found x ((step item).after targets) =
      found x targets + (gather Node.spots (view item)).count x) :
    found x ((items.mapM step).after targets) =
      found x targets + (gatherItems Node.spots (items.map view)).count x := by
  induction items generalizing targets with
  | nil => rfl
  | cons item rest ih =>
    obtain ⟨hItem, hRest⟩ := List.forall_mem_cons.1 h
    simp [gatherItems, hItem, ih _ hRest, Nat.add_assoc]

theorem found_list {nodes : List Node} (h : ∀ node ∈ nodes, Finds handle x node) :
    found x ((walkList handle nodes).after targets) =
      found x targets + (gatherItems Node.spots (ofList nodes)).count x := by
  rw [walkList_eq, ofList_eq_map]
  exact found_each x targets h

theorem found_optional {part : Option Node} (h : ∀ node, part = some node → Finds handle x node) :
    found x ((walkOptional handle part).after targets) =
      found x targets + (gather Node.spots (ofOptional part)).count x := by
  cases part with
  | none => simp [walkOptional, ofOptional]
  | some node => simpa [walkOptional, ofOptional] using h node rfl targets

theorem found_holes {elements : List (Option Node)}
    (h : ∀ node, some node ∈ elements → Finds handle x node) :
    found x ((walkHoles handle elements).after targets) =
      found x targets + (gatherItems Node.spots (ofHoles elements)).count x := by
  rw [walkHoles_eq, ofHoles_eq_map]
  refine found_each x targets fun element hElement targets => found_optional x targets ?_
  rintro node rfl
  exact h node hElement

theorem found_statements {nodes : List Node} (h : ∀ node ∈ nodes, Finds handle x node) :
    found x ((walkStatements handle nodes).after targets) =
      found x targets + (nodes.flatMap Node.statementSpots).count x +
        (gatherItems Node.spots (ofList nodes)).count x := by
  induction nodes generalizing targets with
  | nil => simp [walkStatements, ofList, gatherItems]
  | cons node rest ih =>
    obtain ⟨hNode, hRest⟩ := List.forall_mem_cons.1 h
    simp [walkStatements, ofList, gatherItems, hNode.found_statement, ih _ hRest]
    omega

attribute [local simp] walk ofNode ofOptional located gatherParts gatherFields Node.spots Node.parts
  Node.looseParts Node.placedParts Node.placedKinds

theorem Finds.found_walk {node : Node} (h : Finds handle x node) :
    found x ((walk handle node).after targets) =
      found x targets + (gather Node.spots (ofNode node)).count x :=
  h targets

/-- What the walk over a node finds, where it stands as any node and in the place for its kind. -/
structure FindsAll (handle : Text) (node : Node) : Prop where
  walk : node.isSurveyed = true → Finds handle x node
  declarator : node.kind = .variableDeclarator ∨ node.isFree = true → ∀ targets,
    found x ((walkDeclarator handle node).after targets) =
      found x targets + (gather Node.spots (ofNode node)).count x
  case : node.kind = .switchCase ∨ node.isFree = true → ∀ targets,
    found x ((walkCase handle node).after targets) =
      found x targets + (gather Node.spots (ofNode node)).count x

variable (handle) in
theorem findsAll {node : Node} (h : node.Every (Node.Fits lexicon limit)) :
    FindsAll x handle node := by
  induction h with
  | @mk tree hFits hParts ih =>
  have hLoose (part : Node) (hPart : part ∈ tree.looseParts) : Finds handle x part :=
    (ih part (List.mem_append_left _ hPart)).walk
      (Node.isSurveyed_of_isFree (hFits.loose part hPart))
  have hPart (hKinds : ∀ kind ∈ tree.placedKinds, kind ≠ .variableDeclarator ∧ kind ≠ .switchCase)
      (part : Node) (hPart : part ∈ tree.parts) : Finds handle x part :=
    (ih part hPart).walk (Node.surveyed_parts ⟨hFits, hParts⟩ hKinds part hPart).root
  have hQuasis (quasis : List Quasi) : quasis.flatMap (fun _ => ([] : List (Space × Span))) = [] :=
    List.flatMap_eq_nil_iff.2 fun _ _ => rfl
  have hWalk : tree.isSurveyed = true → Finds handle x tree := by
    intro hSurveyed targets
    rw [gather_ofNode]
    cases tree
    case variableDeclarator | switchCase => cases hSurveyed
    case variableDeclaration declarations =>
      have hEach : ∀ node ∈ declarations, _ := fun node hNode =>
        (ih node (by simp [hNode])).declarator (by simpa using hFits.placed node hNode)
      simp [walkDeclarators_eq, ofList_eq_map, found_each x _ hEach]
    case switchStatement discriminant cases =>
      have hEach : ∀ node ∈ cases, _ := fun node hNode =>
        (ih node (by simp [hNode])).case (by simpa using hFits.placed node hNode)
      have hFirst := hLoose discriminant (by simp)
      simp [walkCases_eq, ofList_eq_map, found_each x _ hEach, hFirst _, Nat.add_assoc]
    case ifStatement alternate =>
      cases alternate <;>
        simp (disch := (apply hPart <;> simp; done)) [Finds.found_walk, Finds.found_arm,
          found_missingArm, List.count_cons] <;>
        omega
    case templateElement => simp [ofQuasi]
    case labeledStatement =>
      have hLabel := Node.gather_spots_of_isName hFits.proper
      simp (disch := (apply hPart <;> simp; done)) [Finds.found_walk, hLabel]
    case function id _ _ _ _ _ =>
      have hId : gather Node.spots (ofOptional id) = [] := by
        cases id with
        | none => simp
        | some name => exact Node.gather_spots_of_isName (hFits.proper name rfl)
      simp (disch := (intros; apply hPart <;> simp [*]; done)) [found_list,
        Finds.found_functionBody, hId, List.count_cons]
      omega
    all_goals
      simp (disch := (intros; apply hPart <;> simp [*]; done)) [Finds.found_walk,
        Finds.found_tracked, Finds.found_operand, Finds.found_asBlock, found_list, found_optional,
        found_holes, found_statements, hQuasis, List.count_cons, Nat.add_assoc] <;>
        omega
  refine ⟨hWalk, fun hKind targets => ?_, fun hKind targets => ?_⟩
  · fun_cases walkDeclarator handle tree with
    | case1 span id =>
      have hId := hLoose id (by simp)
      rw [gather_ofNode]
      simp [hId _]
    | case2 span id init =>
      have hId := hLoose id (by simp)
      have hInit := hLoose init (by simp)
      rw [gather_ofNode]
      simp [markCall, found_assign, hId _, hInit _, List.count_cons]
      omega
    | case3 node hNone hSome =>
      refine hWalk (Node.isSurveyed_of_isFree (hKind.resolve_left fun hDeclarator => ?_)) targets
      obtain ⟨span, id, init, rfl⟩ := Node.eq_variableDeclarator_of_kind hDeclarator
      cases init with
      | none => exact hNone span id rfl
      | some value => exact hSome span id value rfl
  · fun_cases walkCase handle tree with
    | case1 span test consequent =>
      rw [gather_ofNode]
      simp (disch := (intros; apply hLoose; simp [*]; done)) [markStatement, found_assign,
        found_optional, found_statements, List.count_cons]
      omega
    | case2 node hOther =>
      refine hWalk (Node.isSurveyed_of_isFree (hKind.resolve_left fun hCase => ?_)) targets
      obtain ⟨span, test, consequent, rfl⟩ := Node.eq_switchCase_of_kind hCase
      exact hOther span test consequent rfl

variable (handle) in
/-- The walk over a tree finds the places that are counted, each as often as the tree has it. -/
theorem finds (node : Node) : node.Surveyed lexicon limit → Finds handle x node :=
  fun h => (findsAll handle x h.fits).walk h.root

end

variable {handle : Text} {lexicon : Lexicon} {limit : Int} {program tree : Node}
  {targets : List Target}

/-- The targets of a program are the places that are counted in it, up to their order. -/
theorem perm_spots (h : program.Surveyed lexicon limit)
    (hTree : program.instrument handle = (tree, targets)) :
    (targets.map Target.spot).Perm (gather Node.spots (ofNode program)) := by
  rw [List.perm_iff_count]
  intro x
  have hFinds := finds handle x program h []
  have hAfter : (walk handle program).after [] = targets := congrArg Prod.snd hTree
  rw [hAfter] at hFinds
  simpa [found] using hFinds

end Instrument

end Assay
