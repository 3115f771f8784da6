import Assay.Proofs.Coverage.Correspondence
import Assay.Proofs.Concrete.Formation
import Mathlib.Data.List.Forall2

/-!
# Instrumentation and directives

A directive is a statement that is only a string; those at the start of a script or of a function
body, its prologue, say how the rest is to be run. The script keeps its prologue. A function loses
its own: the mark of the function is put in front of everything else, and each directive is a
statement like others and gets a mark too. `Instrument.directives_displaced` says so of every
function of a program. The induction follows the walk and pairs the functions of the two trees in
the order of the source.
-/

set_option autoImplicit false

namespace Assay

namespace Node

/-- Whether a statement is only a string. -/
def isDirective : Node → Bool
  | .expressionStatement _ (.literal _ (.text _) _ _) => true
  | _ => false

/-- The directives that a list of statements starts with. -/
def prologue (body : List Node) : List Node := body.takeWhile isDirective

/-- The place and the statements of a function whose body is a block. -/
def blockBody : Node → List (Span × List Node)
  | .function _ span _ _ (.blockStatement _ body) _ _ _ => [(span, body)]
  | _ => []

/-- The functions of a tree whose bodies are blocks, in the order of the source. -/
def blockBodies (tree : Node) : List (Span × List Node) := View.gather blockBody (View.ofNode tree)

/-- Whether what names a function or a statement is a name. -/
def hasNames : Node → Bool
  | .labeledStatement _ label _ => label.isName
  | .function _ _ id _ _ _ _ _ => id.all isName
  | _ => true

/-- A name has no functions in it. -/
theorem blockBodies_of_isName {node : Node} (h : node.isName = true) : node.blockBodies = [] := by
  cases node <;> try cases h
  rw [blockBodies, View.gather_ofNode]
  simp [blockBody, View.ofNode, View.located, View.gatherParts, View.gatherFields]

end Node

/-- In a program that was read functions and statements are named by names. -/
theorem Script.parse_hasNames {script : Script} {program : Node}
    (hGrammar : script.isGrammatical = true) (h : script.parse = .ok program) :
    program.Every (·.hasNames = true) := by
  refine (script.parse_fits hGrammar script.isSpelled_any h).1.imp fun node hFits => ?_
  have hProper := hFits.proper
  cases node
  case labeledStatement => exact hProper
  case function id _ _ _ _ _ =>
    cases id with
    | none => rfl
    | some name => exact hProper name rfl
  all_goals rfl

namespace Instrument

open View Node Tracking

/-- Some statements, each behind the mark of a statement. -/
inductive Marked (handle : Text) : List Node → List Node → Prop
  | nil : Marked handle [] []
  | cons (id : Int) {node : Node} {nodes marked : List Node} : Marked handle nodes marked →
      Marked handle (node :: nodes) (Build.trackingStatement handle .stmt id :: node :: marked)

/-- What instrumentation makes of the statements of a function. -/
structure Displaced (handle : Text) (before after : Span × List Node) : Prop where
  /-- It is the same function. -/
  place : after.1 = before.1
  /-- The mark of the function comes first, and each directive is there behind a mark of its own. -/
  opening : ∃ (id : Int) (marked rest : List Node), Marked handle (prologue before.2) marked ∧
    after.2 = Build.trackingStatement handle .func id :: (marked ++ rest)
  /-- So there is no prologue any more. -/
  lost : prologue after.2 = []

variable (handle : Text)

/-! ## Statements -/

/-- A directive is left as it is. -/
theorem walk_of_isDirective {node : Node} (h : node.isDirective = true) (targets : List Target) :
    (walk handle node).result targets = node := by
  fun_cases isDirective node with
  | case1 span place value raw regex => simp [walk]
  | case2 => simp [isDirective] at h

/-- The walk over a node gives a directive only for a directive. -/
theorem isDirective_walk (node : Node) (targets : List Target) :
    ((walk handle node).result targets).isDirective = node.isDirective := by
  cases node
  case expressionStatement expression =>
    cases expression
    case ifStatement alternate => cases alternate <;> rfl
    all_goals rfl
  case ifStatement alternate => cases alternate <;> rfl
  all_goals rfl

/-- A list of statements without marks keeps its prologue. -/
theorem prologue_walkList (body : List Node) (targets : List Target) :
    prologue ((walkList handle body).result targets) = prologue body := by
  induction body generalizing targets with
  | nil => simp [walkList]
  | cons node rest ih =>
    simp only [prologue] at ih
    simp only [walkList, prologue, result_bind, result_pure, List.takeWhile_cons,
      isDirective_walk, ih]
    cases hNode : node.isDirective with
    | true => simp [walk_of_isDirective handle hNode]
    | false => rfl

/-- The directives in front of the statements of a block come behind marks. -/
theorem exists_marked_walkStatements (body : List Node) (targets : List Target) :
    ∃ marked rest, Marked handle (prologue body) marked ∧
      (walkStatements handle body).result targets = marked ++ rest := by
  induction body generalizing targets with
  | nil => exact ⟨[], _, .nil, rfl⟩
  | cons node nodes ih =>
    cases hNode : node.isDirective with
    | false => exact ⟨[], _, by simpa [prologue, hNode] using Marked.nil, rfl⟩
    | true =>
      have hMarked : isMarked node = true := by
        fun_cases isDirective node with
        | case1 => rfl
        | case2 => simp [isDirective] at hNode
      obtain ⟨marked, rest, hPrologue, hRest⟩ :=
        ih ((statement handle node (walk handle node)).after targets)
      simp only [prologue] at hPrologue
      refine ⟨Build.trackingStatement handle .stmt ((assign .stmt node.kind node.span).result targets)
        :: node :: marked, rest, ?_, ?_⟩
      · rw [prologue, List.takeWhile_cons_of_pos hNode]
        exact .cons _ hPrologue
      · simpa [walkStatements, statement, hMarked, markStatement,
          walk_of_isDirective handle hNode] using hRest

/-- A function whose body is a block loses its prologue; the body of any other is no block
afterwards either. -/
theorem displaced_function (form : FunctionForm) (span : Span) (id : Option Node)
    (before after : List Node) (body : Node) (isAsync isGenerator isExpression : Bool)
    (targets : List Target) :
    List.Forall₂ (Displaced handle)
      (blockBody (.function form span id before body isAsync isGenerator isExpression))
      (blockBody (.function form span id after
        ((functionBody handle span form body (walk handle body)).result targets)
        isAsync isGenerator isExpression)) := by
  cases body
  case blockStatement body =>
    obtain ⟨marked, rest, hPrologue, hRest⟩ :=
      exists_marked_walkStatements handle body ((assign .func form.kind span).after targets)
    simp only [functionBody, Node.isBlock, walk_blockStatement, Build.prepend, hRest, blockBody,
      if_true, result_bind, result_pure]
    exact .cons ⟨rfl, ⟨_, marked, rest, hPrologue, rfl⟩, rfl⟩ .nil
  all_goals exact .nil

/-! ## What is put in -/

/-- There is no function in a tracking call. -/
@[simp]
theorem gather_blockBody_trackingCall (space : Space) (id : Int) :
    gather blockBody (ofNode (Build.trackingCall handle space id)) = [] := by
  rfl

/-- There is no function in a tracking statement. -/
@[simp]
theorem gather_blockBody_trackingStatement (space : Space) (id : Int) :
    gather blockBody (ofNode (Build.trackingStatement handle space id)) = [] := by
  rfl

/-- The functions in an added sequence are those in its parts. -/
@[simp]
theorem gather_blockBody_sequence (items : List Node) :
    gather blockBody (ofNode (Build.sequence items)) = gatherItems blockBody (ofList items) := by
  rw [gather_ofNode, Build.sequence]
  simp [blockBody, ofNode, located, gatherParts, gatherFields]

/-- The functions in a block are those in its statements. -/
@[simp]
theorem gather_blockBody_block (span : Span) (body : List Node) :
    gather blockBody (ofNode (.blockStatement span body)) = gatherItems blockBody (ofList body) := by
  rw [gather_ofNode]
  simp [blockBody, ofNode, located, gatherParts, gatherFields]

/-- The functions in a block with a further statement in front. -/
@[simp]
theorem gather_blockBody_prepend (statement node : Node) :
    gather blockBody (ofNode (Build.prepend statement (some node))) =
      gather blockBody (ofNode statement) ++ gather blockBody (ofNode node) := by
  cases node <;> simp [Build.prepend, ofList, gatherItems]

/-! ## Whole trees -/

section

variable {handle}

variable (handle) in
/-- The walk over a tree displaces the directives of its functions. -/
def Displaces (node : Node) : Prop := ∀ targets,
  List.Forall₂ (Displaced handle) (gather blockBody (ofNode node))
    (gather blockBody (ofNode ((walk handle node).result targets)))

variable {node : Node} (h : Displaces handle node) (targets : List Target)

include h

theorem Displaces.statement :
    List.Forall₂ (Displaced handle) (gather blockBody (ofNode node))
      (gatherItems blockBody
        (ofList ((statement handle node (walk handle node)).result targets))) := by
  unfold Instrument.statement
  split
  · simpa [markStatement, ofList, gatherItems] using h _
  · simpa [ofList, gatherItems] using h _

theorem Displaces.tracked (space : Space) :
    List.Forall₂ (Displaced handle) (gather blockBody (ofNode node))
      (gather blockBody (ofNode ((tracked handle space node (walk handle node)).result targets))) := by
  simpa [Instrument.tracked, markCall, ofList, gatherItems] using h _

theorem Displaces.operand :
    List.Forall₂ (Displaced handle) (gather blockBody (ofNode node))
      (gather blockBody (ofNode ((operand handle node (walk handle node)).result targets))) := by
  unfold Instrument.operand
  split
  · exact h targets
  · exact h.tracked targets .branch

theorem Displaces.asBlock :
    List.Forall₂ (Displaced handle) (gather blockBody (ofNode node))
      (gather blockBody (ofNode ((asBlock handle node (walk handle node)).result targets))) := by
  unfold Instrument.asBlock
  split
  · exact h targets
  · simpa using h.statement targets

theorem Displaces.arm :
    List.Forall₂ (Displaced handle) (gather blockBody (ofNode node))
      (gather blockBody (ofNode ((arm handle node (walk handle node)).result targets))) := by
  simpa [Instrument.arm, markStatement] using h.asBlock _

theorem Displaces.functionBody (span : Span) (form : FunctionForm) :
    List.Forall₂ (Displaced handle) (gather blockBody (ofNode node))
      (gather blockBody (ofNode
        ((functionBody handle span form node (walk handle node)).result targets))) := by
  unfold Instrument.functionBody
  cases hBlock : node.isBlock with
  | true => simpa using h _
  | false => simpa [markCall, ofList, gatherItems] using h _

end

/-- There is no function in the arm of an `if` without `else`. -/
@[simp]
theorem gather_blockBody_missingArm (consequent whole : Span) (targets : List Target) :
    gather blockBody (ofNode ((missingArm handle consequent whole).result targets)) = [] := by
  simp [missingArm, markStatement, Build.prepend, ofList, gatherItems]

/-- The functions of two lists of parts are paired if those of the parts are. -/
theorem forall₂_append {α : Type} {r : α → α → Prop} {a b a' b' : List α}
    (h : List.Forall₂ r a a') (h' : List.Forall₂ r b b') : List.Forall₂ r (a ++ b) (a' ++ b') :=
  List.rel_append h h'

theorem displaces_each {α β : Type} {view : α → View} {shown : β → View} {step : α → Tracking β}
    {items : List α} (h : ∀ item ∈ items, ∀ targets, List.Forall₂ (Displaced handle)
      (gather blockBody (view item)) (gather blockBody (shown ((step item).result targets))))
    (targets : List Target) :
    List.Forall₂ (Displaced handle) (gatherItems blockBody (items.map view))
      (gatherItems blockBody (((items.mapM step).result targets).map shown)) := by
  induction items generalizing targets with
  | nil => exact .nil
  | cons item rest ih =>
    obtain ⟨hItem, hRest⟩ := List.forall_mem_cons.1 h
    simpa [gatherItems] using forall₂_append (hItem targets) (ih hRest _)

variable {handle}

theorem displaces_list {nodes : List Node} (h : ∀ node ∈ nodes, Displaces handle node)
    (targets : List Target) :
    List.Forall₂ (Displaced handle) (gatherItems blockBody (ofList nodes))
      (gatherItems blockBody (ofList ((walkList handle nodes).result targets))) := by
  rw [walkList_eq, ofList_eq_map, ofList_eq_map]
  exact displaces_each handle h targets

theorem displaces_optional {part : Option Node}
    (h : ∀ node, part = some node → Displaces handle node) (targets : List Target) :
    List.Forall₂ (Displaced handle) (gather blockBody (ofOptional part))
      (gather blockBody (ofOptional ((walkOptional handle part).result targets))) := by
  cases part with
  | none => simp [walkOptional, ofOptional]
  | some node => simpa [walkOptional, ofOptional] using h node rfl targets

theorem displaces_holes {elements : List (Option Node)}
    (h : ∀ node, some node ∈ elements → Displaces handle node) (targets : List Target) :
    List.Forall₂ (Displaced handle) (gatherItems blockBody (ofHoles elements))
      (gatherItems blockBody (ofHoles ((walkHoles handle elements).result targets))) := by
  rw [walkHoles_eq, ofHoles_eq_map, ofHoles_eq_map]
  refine displaces_each handle (fun element hElement => displaces_optional ?_) targets
  rintro node rfl
  exact h node hElement

theorem displaces_statements {nodes : List Node} (h : ∀ node ∈ nodes, Displaces handle node)
    (targets : List Target) :
    List.Forall₂ (Displaced handle) (gatherItems blockBody (ofList nodes))
      (gatherItems blockBody (ofList ((walkStatements handle nodes).result targets))) := by
  induction nodes generalizing targets with
  | nil => simp [walkStatements, ofList, gatherItems]
  | cons node rest ih =>
    obtain ⟨hNode, hRest⟩ := List.forall_mem_cons.1 h
    simpa [walkStatements, ofList, ofList_append, gatherItems, gatherItems_append] using
      forall₂_append (hNode.statement targets) (ih hRest _)

/-- The walk over a node displaces the directives of its functions, where the node stands as any
node and in the place for its kind. -/
structure DisplacesAll (handle : Text) (node : Node) : Prop where
  walk : Displaces handle node
  declarator : ∀ targets, List.Forall₂ (Displaced handle) (gather blockBody (ofNode node))
    (gather blockBody (ofNode ((walkDeclarator handle node).result targets)))
  case : ∀ targets, List.Forall₂ (Displaced handle) (gather blockBody (ofNode node))
    (gather blockBody (ofNode ((walkCase handle node).result targets)))

variable (handle)

attribute [local simp] walk ofNode ofOptional located gatherParts gatherFields blockBody Node.parts
  Node.looseParts Node.placedParts

/-- The walk over a tree displaces the directives of its functions. -/
theorem displacesAll {node : Node} (h : node.Every (·.hasNames = true)) :
    DisplacesAll handle node := by
  induction h with
  | @mk tree hNames hEvery ih =>
  have hPart (part : Node) (hPart : part ∈ tree.parts) : Displaces handle part :=
    (ih part hPart).walk
  have hQuasis (quasis : List Quasi) :
      quasis.flatMap (fun _ => ([] : List (Span × List Node))) = [] :=
    List.flatMap_eq_nil_iff.2 fun _ _ => rfl
  have hWalk : Displaces handle tree := by
    intro targets
    rw [gather_ofNode, gather_ofNode]
    cases tree
    case variableDeclaration declarations =>
      have hEach : ∀ node ∈ declarations, _ := fun node hNode =>
        (ih node (by simp [hNode])).declarator
      simpa [walkDeclarators_eq, ofList_eq_map] using displaces_each handle hEach targets
    case switchStatement discriminant cases =>
      have hEach : ∀ node ∈ cases, _ := fun node hNode => (ih node (by simp [hNode])).case
      simpa [walkCases_eq, ofList_eq_map] using
        forall₂_append (hPart discriminant (by simp) targets) (displaces_each handle hEach _)
    case function form span id params body _ _ _ =>
      have hId : gather blockBody (ofOptional id) = [] := by
        cases id with
        | none => simp
        | some name => exact blockBodies_of_isName (by simpa [hasNames] using hNames)
      have hParams : ∀ part ∈ params, Displaces handle part := fun part hMem =>
        hPart part (by simp [hMem])
      have hBody := (hPart body (by simp)).functionBody ((walkList handle params).after targets) span
        form
      simp only [walk, ofNode, located, gatherParts, gatherFields, gather_list, gather_flag, hId,
        result_bind, result_pure, List.append_nil, List.nil_append]
      exact forall₂_append (displaced_function handle ..)
        (forall₂_append (displaces_list hParams targets) hBody)
    case labeledStatement label body =>
      have hLabel : gather blockBody (ofNode label) = [] := blockBodies_of_isName hNames
      simpa [hLabel] using hPart body (by simp) targets
    case ifStatement test consequent alternate =>
      have hTest := hPart test (by simp)
      have hFirst := hPart consequent (by simp)
      cases alternate with
      | none => simpa using forall₂_append (hTest targets) (hFirst.arm _)
      | some alternate =>
        have hSecond := hPart alternate (by simp)
        simpa using forall₂_append (hTest targets) (forall₂_append (hFirst.arm _) (hSecond.arm _))
    case templateElement => simp [ofQuasi]
    all_goals
      simp [hQuasis] <;> (repeat' apply forall₂_append)
    all_goals first
      | exact hPart _ (by simp) _
      | exact (hPart _ (by simp)).tracked _ _
      | exact (hPart _ (by simp)).operand _
      | exact (hPart _ (by simp)).asBlock _
      | exact displaces_list (fun part hMem => hPart part (by simp [hMem])) _
      | exact displaces_optional (fun part hMem => hPart part (by simp [hMem])) _
      | exact displaces_holes (fun part hMem => hPart part (by simp [hMem])) _
      | exact displaces_statements (fun part hMem => hPart part (by simp [hMem])) _
  refine ⟨hWalk, fun targets => ?_, fun targets => ?_⟩
  · fun_cases walkDeclarator handle tree with
    | case1 span id =>
      simp only [result_bind, result_pure]
      rw [gather_ofNode, gather_ofNode]
      simpa using hPart id (by simp) targets
    | case2 span id init =>
      have hId := hPart id (by simp)
      have hInit := hPart init (by simp)
      simp only [result_bind, result_pure, markCall]
      rw [gather_ofNode, gather_ofNode]
      simpa [ofList, gatherItems] using forall₂_append (hId targets) (hInit _)
    | case3 => exact hWalk targets
  · fun_cases walkCase handle tree with
    | case1 span test consequent =>
      have hTest : ∀ part, test = some part → Displaces handle part := fun part hMem =>
        hPart part (by simp [hMem])
      have hBody : ∀ part ∈ consequent, Displaces handle part := fun part hMem =>
        hPart part (by simp [hMem])
      simp only [result_bind, result_pure, markStatement]
      rw [gather_ofNode, gather_ofNode]
      simpa [ofList, gatherItems] using
        forall₂_append (displaces_optional hTest _) (displaces_statements hBody _)
    | case2 => exact hWalk targets

/-- No function of an instrumented program has a prologue: in each of them the mark of the function
comes first, and the directives it had come next, each behind a mark. Only the prologue of the
script itself is kept. -/
theorem directives_displaced {program : Node} (h : program.Every (·.hasNames = true)) :
    List.Forall₂ (Displaced handle) program.blockBodies
        (program.instrument handle).1.blockBodies ∧
      ∀ span body, program = .program span body →
        ∃ after, (program.instrument handle).1 = .program span after ∧
          prologue after = prologue body := by
  refine ⟨(displacesAll handle h).walk [], ?_⟩
  rintro span body rfl
  refine ⟨(walkList handle body).result [], ?_, prologue_walkList handle body []⟩
  rw [instrument, walk]
  rfl

/-- The program `function f() { "use strict"; return 1; }` as it comes from the grammar. -/
def strictFunction : Script where
  code := "function f() \x7b \"use strict\"; return 1; \x7d"
  tree :=
    .part .program 0 40 "" [.part .functionDeclaration 0 40 ""
      [.part .identifier 9 10 "name" [], .part (.other "formal_parameters") 10 12 "parameters" [],
       .part .statementBlock 13 40 "body"
        [.part .expressionStatement 15 28 "" [.part .stringLiteral 15 27 "" []],
         .part .returnStatement 29 38 "" [.part .numberLiteral 36 37 "" []]]]]

/-- The statement `"use strict";` of that program. -/
def strictDirective : Node :=
  .expressionStatement (.between 15 28)
    (.literal (.between 15 27) (.text "use strict") (some "\"use strict\"") none)

/-- The statement `return 1;` of that program. -/
def strictReturn : Node :=
  .returnStatement (.between 29 38) (some (.literal (.between 36 37) (.int 1) (some "1") none))

/-- The syntax tree of `function f() { "use strict"; return 1; }`. -/
def strictFunctionTree : Node :=
  .program (.between 0 40) [.function .declaration (.between 0 40)
    (some (.identifier (.between 9 10) "f")) []
    (.blockStatement (.between 13 40) [strictDirective, strictReturn]) false false false]

/-- The body of the function began with its directive. -/
theorem directives_displaced_strictFunction :
    strictFunctionTree.Every (·.hasNames = true) ∧
      List.Forall₂ (Displaced "__cov__") [(.between 0 40, [strictDirective, strictReturn])]
        (strictFunctionTree.instrument "__cov__").1.blockBodies := by
  have hGrammar : strictFunction.isGrammatical = true := by decide
  have hParse : strictFunction.parse = .ok strictFunctionTree := rfl
  have hNames := Script.parse_hasNames hGrammar hParse
  exact ⟨hNames, (directives_displaced "__cov__" hNames).1⟩

/-- The function is no longer strict. -/
theorem prologue_strictFunction :
    strictFunction.parse = .ok strictFunctionTree ∧
      strictFunctionTree.blockBodies.map (fun body => prologue body.2) = [[strictDirective]] ∧
      (strictFunctionTree.instrument "__cov__").1.blockBodies.map (·.2) =
        [[Build.trackingStatement "__cov__" .func 0, Build.trackingStatement "__cov__" .stmt 0,
          strictDirective, Build.trackingStatement "__cov__" .stmt 1, strictReturn]] ∧
      (strictFunctionTree.instrument "__cov__").1.blockBodies.map (fun body => prologue body.2) =
        [[]] :=
  ⟨rfl, rfl, rfl, rfl⟩

end Instrument

end Assay
