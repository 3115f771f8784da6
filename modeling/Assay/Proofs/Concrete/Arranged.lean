import Assay.Proofs.Concrete.Parsing
import Assay.Proofs.Print.Openings

/-!
# Operands in their places

`Script.isArranged` says of a concrete tree that operands stand where the grammar has them, that
conditions are operands and so are the bodies of arrow functions that are no blocks, and that object
patterns stand only where something is assigned. `Node.Arranged` says the same of a single node of a
syntax tree, and `Script.parse_arranged` that all nodes of a program are arranged if its concrete
tree is.
-/

set_option autoImplicit false

namespace Assay

/-- Whether a node of the kind is a term: an operand, and no object pattern. -/
def Kind.isTerm (kind : Kind) : Bool := kind.isOperand && kind != .objectPattern

theorem Kind.isOperand_of_isTerm {kind : Kind} (h : kind.isTerm = true) :
    kind.isOperand = true := by
  rw [isTerm, Bool.and_eq_true] at h
  exact h.1

namespace Node

/-- The operands of a node are operands, and terms unless something is assigned to them; the first
piece of a template does not end it. -/
def Arranged : Node → Prop
  | .binary _ part _ _ | .logical _ part _ _ | .conditional _ part _ _ | .taggedTemplate _ part _
  | .member _ part _ _ _ | .update _ _ _ part | .ifStatement _ part _ _ | .whileStatement _ part _
  | .doWhileStatement _ _ part => part.kind.isTerm = true
  | .assignment _ part _ _ => part.kind.isOperand = true
  | .forStatement _ _ test _ _ => ∀ part ∈ test, part.kind.isTerm = true
  | .call _ callee arguments _ =>
    callee.kind.isTerm = true ∧ ∀ part ∈ arguments, part.kind.isOperand = true
  | .newExpression _ _ arguments => ∀ part ∈ arguments, part.kind.isOperand = true
  | .arrayExpression _ elements =>
    ∀ element ∈ elements, ∀ part ∈ element, part.kind.isOperand = true
  | .function .arrow _ _ _ body _ _ isExpression =>
    isExpression = true → body.kind.isTerm = true
  | .metaProperty _ head _ => head.kind = .identifier
  | .templateLiteral _ quasis _ => ∀ first ∈ quasis.head?, Lexicon.isPiece first.raw = true
  | _ => True

theorem Arranged.operands {node : Node} (h : node.Arranged) :
    ∀ part ∈ node.leadingParts, part.kind.isOperand = true := by
  have hOperand (part : Node) (hPart : part.kind.isTerm = true) : part.kind.isOperand = true :=
    Kind.isOperand_of_isTerm hPart
  cases node
  case arrayExpression =>
    intro part hPart
    obtain ⟨element, hElement, hMem⟩ := List.mem_flatMap.1 hPart
    exact h element hElement part (Option.mem_toList.1 hMem)
  case forStatement => exact fun part hPart => hOperand part (h part (Option.mem_toList.1 hPart))
  case call => exact List.forall_mem_cons.2 ⟨hOperand _ h.1, h.2⟩
  case newExpression => exact h
  case assignment => exact List.forall_mem_singleton.2 h
  case binary | logical | conditional | taggedTemplate | member | update | ifStatement |
      whileStatement | doWhileStatement =>
    simpa [leadingParts] using hOperand _ h
  all_goals simp [leadingParts]

theorem Fits.startsWell {limit : Int} {node : Node} (h : node.Fits Lexicon.strict limit)
    (hArranged : node.Arranged) : node.StartsWell := by
  have hProper := h.proper
  cases node
  case identifier | unary | update => exact hProper
  case literal => exact .inl hProper
  case templateLiteral | metaProperty => exact hArranged
  case taggedTemplate quasi => cases quasi <;> first | rfl | cases hProper
  case chain expression =>
    cases expression <;> first | simp [StartsWell, Node.kind]; done | cases hProper
  all_goals trivial

/-- What an arranged node with proper tokens starts with is an operand, if it has to be one. -/
theorem Fits.leading {limit : Int} {node : Node} (h : node.Fits Lexicon.strict limit)
    (hArranged : node.Arranged) : node.Leading :=
  ⟨h.startsWell hArranged, hArranged.operands⟩

end Node

/-! ## Concrete trees -/

namespace Form

/-- Whether what has the form is a statement. -/
def isStatement : Form → Bool
  | .program | .expressionStatement | .variableDeclaration | .lexicalDeclaration | .statementBlock
  | .emptyStatement | .debuggerStatement | .ifStatement | .switchStatement | .forStatement
  | .forInStatement | .whileStatement | .doStatement | .tryStatement | .returnStatement
  | .throwStatement | .breakStatement | .continueStatement | .labeledStatement
  | .functionDeclaration | .generatorFunctionDeclaration | .classDeclaration => true
  | _ => false

/-- Whether what has the form may stand as an operand. -/
def isOperand (form : Form) : Bool := !form.isStatement && form != .assignmentPattern

/-- Whether what has the form is a term. -/
def isTerm (form : Form) : Bool := form.isOperand && form != .objectPattern

/-- The role of the term that what has the form is about. -/
def termRole? : Form → Option String
  | .binaryExpression => some "left"
  | .ternaryExpression | .ifStatement | .whileStatement | .doStatement => some "condition"
  | .callExpression => some "function"
  | .memberExpression | .subscriptExpression => some "object"
  | .updateExpression => some "argument"
  | _ => none

/-- Whether what has the form may have a child of the given shape where it stands. -/
def arranges (form : Form) (child : Shape) : Bool :=
  (form.termRole? != some child.field || child.form.isTerm) &&
    match form with
    | .parenthesizedExpression | .expressionStatement => child.form.isTerm
    | .arrayLiteral => child.form.isOperand
    | .assignmentExpression | .augmentedAssignmentExpression =>
      child.field != "left" || child.form.isOperand
    | .arrowFunction =>
      child.field != "body" || child.form = .statementBlock || child.form.isTerm
    | .forStatement =>
      child.field != "condition" || child.form.isTerm ||
        child.form = .emptyStatement || child.form = .expressionStatement
    | _ => true

end Form

namespace Shape

/-- Whether a template of the shape starts with a piece. -/
def startsWithPiece (source : Source) (shape : Shape) (children : List Shape) : Bool :=
  let first := children.find? fun child => child.named && child.form = .templateSubstitution
  (source.text? (shape.start + 1) (first.elim (shape.stop - 1) (·.start))).all Lexicon.isPiece

/-- Whether what has the shape has its children where the grammar has them. -/
def isArranged (source : Source) (shape : Shape) (children : List Shape) : Bool :=
  children.all (fun child => shape.form.arranges child &&
    (shape.field != "arguments" || child.form.isOperand)) &&
    (shape.form != .templateString || shape.startsWithPiece source children)

end Shape

/-- Whether operands stand where the grammar has them. -/
def Script.isArranged (script : Script) : Bool :=
  script.tree.all (Shape.isArranged (Source.ofText script.code))

/-! ## Readings -/

/-- What may be read at a form: operands at those of operands, terms at those of terms. -/
structure Form.Suits (form : Form) (tree : Node) : Prop where
  operand : form.isOperand = true → tree.kind.isOperand = true
  term : form.isTerm = true → tree.kind.isTerm = true

/-- The kinds that a form is read as suit it. -/
theorem Form.suits_of_mem_kinds {form : Form} {tree : Node} (h : tree.kind ∈ form.kinds) :
    form.Suits tree := by
  have hKinds : ∀ kind ∈ form.kinds, (form.isOperand = true → kind.isOperand = true) ∧
      (form.isTerm = true → kind.isTerm = true) := by
    cases form
    case other => simp [kinds]
    all_goals decide
  exact ⟨(hKinds _ h).1, (hKinds _ h).2⟩

/-- The kinds of nodes that are arranged whatever their parts are. -/
def Kind.isLax (kind : Kind) : Bool :=
  !([Kind.binaryExpression, .logicalExpression, .conditionalExpression, .taggedTemplateExpression,
    .memberExpression, .updateExpression, .ifStatement, .whileStatement, .doWhileStatement,
    .assignmentExpression, .forStatement, .callExpression, .newExpression, .arrayExpression,
    FunctionForm.arrow.kind, .metaProperty, .templateLiteral].contains kind)

theorem Node.arranged_of_isLax {node : Node} (h : node.kind.isLax = true) : node.Arranged := by
  cases node
  case function form _ _ _ _ _ _ _ => cases form <;> trivial
  all_goals trivial

/-- What is read at a form, with all that is in it. -/
structure Form.Yields (form : Form) (tree : Node) : Prop extends form.Suits tree where
  every : tree.Every Node.Arranged

/-- What was read at a concrete node and inside of it is arranged. -/
inductive Reading.Arranged (source : Source) : Reading → Prop
  | mk (shape : Shape) (node link : Read Node) (parts : Parts)
      (hShape : shape.isArranged source (parts.map Reading.shape) = true)
      (hNode : node.Gives shape.form.Yields) (hLink : link.Gives shape.form.Yields)
      (hParts : ∀ part ∈ parts, part.Arranged source) :
      Reading.Arranged source (.mk shape node link parts)

/-- The parts of a concrete node are arranged. -/
structure Parts.Arranged (source : Source) (shape : Shape) (parts : Parts) : Prop where
  shape : shape.isArranged source (parts.map Reading.shape) = true
  each : ∀ part ∈ parts, part.Arranged source

namespace Reading.Arranged

variable {source : Source} {r : Reading} (h : r.Arranged source)

include h

theorem node : r.node.Gives r.form.Yields := by
  obtain ⟨_, _, _, _, -, hNode, -, -⟩ := h
  exact hNode

theorem link : r.link.Gives r.form.Yields := by
  obtain ⟨_, _, _, _, -, -, hLink, -⟩ := h
  exact hLink

theorem parts : Parts.Arranged source r.shape r.parts := by
  obtain ⟨_, _, _, _, hShape, -, -, hParts⟩ := h
  exact ⟨hShape, hParts⟩

theorem holds : r.Holds (Node.Every Node.Arranged) (Node.Every Node.Arranged) := by
  induction h with
  | mk shape node link parts _ hNode hLink _ ih =>
    exact ⟨_, _, _, _, fun tree hTree => (hNode tree hTree).every,
      fun tree hTree => (hLink tree hTree).every, ih⟩

end Reading.Arranged

namespace Parts.Arranged

variable {source : Source} {shape : Shape} {parts : Parts} (h : Parts.Arranged source shape parts)

include h

theorem arranges {r : Reading} (hr : r ∈ parts) : shape.form.arranges r.shape = true := by
  have hShape := h.shape
  simp only [Shape.isArranged, Bool.and_eq_true, List.all_eq_true] at hShape
  exact (hShape.1 r.shape (List.mem_map_of_mem hr)).1

theorem isTerm_of_role (role : String) (hRole : shape.form.termRole? = some role)
    {r : Reading} (hr : parts.find? role = some r) : r.form.isTerm = true := by
  obtain ⟨hMem, hField⟩ := Parts.mem_of_find? hr
  have hArranges := h.arranges hMem
  simp only [Form.arranges, hRole, hField, bne_self_eq_false, Bool.false_or, Bool.and_eq_true]
    at hArranges
  exact hArranges.1

/-- What is read in the role of a term. -/
theorem gives_term (role : String) (hRole : shape.form.termRole? = some role) :
    (parts.node role).Gives fun tree => tree.kind.isTerm = true := by
  refine (Parts.gives_get_find? _).bind fun r hr tree hTree => ?_
  exact ((h.each r (mem_of_find? hr).1).node.of_eq hTree).term (h.isTerm_of_role role hRole hr)

/-- What is read at the first child of what holds nothing but terms. -/
theorem gives_operand (hForm : ∀ child, shape.form.arranges child = true →
      child.form.isTerm = true) :
    parts.operand.Gives fun tree => tree.kind.isTerm = true := by
  unfold Parts.operand
  split
  · rename_i r _ hNamed
    have hr : r ∈ parts := mem_of_named (by simp [hNamed])
    exact fun tree hTree => ((h.each r hr).node.of_eq hTree).term (hForm _ (h.arranges hr))
  · exact Read.gives_error _

end Parts.Arranged

namespace Parts

/-- What is read of the arguments of a call. -/
theorem gives_arguments {source : Source} {r : Reading} (h : r.Arranged source)
    (hField : r.shape.field = "arguments") :
    r.parts.nodes.Gives fun trees => ∀ tree ∈ trees, tree.kind.isOperand = true := by
  refine Read.gives_mapM _ _ fun part hPart tree hTree => ?_
  have hMem := mem_of_named hPart
  have hShape := h.parts.shape
  simp only [Shape.isArranged, Bool.and_eq_true, List.all_eq_true, hField, bne_self_eq_false,
    Bool.false_or] at hShape
  have hForm := (hShape.1 part.shape (List.mem_map_of_mem hMem)).2
  exact ((h.parts.each part hMem).node.of_eq hTree).operand hForm

end Parts

namespace Lower

open Parts.Arranged

variable {source : Source} {shape : Shape} {parts : Parts} {span : Span}

theorem framed_every : Node.Framed (Node.Every Node.Arranged) := by
  intro node hFrame
  rw [Node.every_iff]
  refine and_iff_right ?_
  cases node
  case function form _ _ _ _ _ _ _ => cases form <;> trivial
  all_goals trivial

/-- The first piece of a template is what stands before its first substitution. -/
theorem templateParts_arranged (stop cursor : Int) {readings : List Reading}
    (h : (source.text? cursor (((readings.map Reading.shape).find? fun child =>
      child.named && child.form = .templateSubstitution).elim (stop - 1) (·.start))).all
        Lexicon.isPiece = true) :
    (templateParts source stop cursor readings).Gives fun found =>
      ∀ first ∈ found.1.head?, Lexicon.isPiece first.raw = true := by
  have hQuasi (last : Int) (tail : Bool)
      (hPiece : (source.text? cursor last).all Lexicon.isPiece = true) :
      (quasi source cursor last tail).Gives fun piece => Lexicon.isPiece piece.raw = true := by
    have hText : (source.text cursor last).Gives fun raw => Lexicon.isPiece raw = true := by
      unfold Source.text
      split
      · rename_i raw hRaw
        rw [hRaw] at hPiece
        exact (Read.gives_ok raw).2 hPiece
      · exact Read.gives_error _
    refine hText.bind fun raw hRaw => ?_
    exact .skip fun place => .skip fun value =>
      .pure hRaw
  induction readings with
  | nil =>
    refine (hQuasi (stop - 1) true h).bind fun piece hPiece => ?_
    simpa using hPiece
  | cons r rest ih =>
    rw [List.map_cons, List.find?_cons] at h
    unfold templateParts
    split
    · rename_i hFirst
      have hFirst : (r.shape.named && decide (r.shape.form = .templateSubstitution)) = true :=
        hFirst
      rw [hFirst] at h
      refine (hQuasi _ false h).bind fun piece hPiece => ?_
      refine .skip fun expression => .skip fun found => ?_
      simpa using hPiece
    · rename_i hOther
      have hOther : (r.shape.named && decide (r.shape.form = .templateSubstitution)) = false :=
        Bool.not_eq_true _ ▸ hOther
      rw [hOther] at h
      exact ih h

section

variable (h : Parts.Arranged source shape parts)

include h

theorem elements_arranged (hForm : shape.form = .arrayLiteral) :
    (elements true parts).Gives fun found =>
      ∀ element ∈ found, ∀ part ∈ element, part.kind.isOperand = true := by
  refine elements_gives true fun r hr tree hTree => ?_
  have hArranges := h.arranges hr
  simp only [Form.arranges, hForm, Bool.and_eq_true] at hArranges
  exact ((h.each r hr).node tree hTree).operand hArranges.2

theorem loopClause_arranged (hForm : shape.form = .forStatement) :
    (loopClause parts "condition").Gives fun clause =>
      ∀ part ∈ clause, part.kind.isTerm = true := by
  unfold loopClause
  split
  · simp
  · rename_i r hFind
    obtain ⟨hMem, hField⟩ := Parts.mem_of_find? hFind
    have hr := h.each r hMem
    have hArranges := h.arranges hMem
    simp only [Form.arranges, hForm, hField, bne_self_eq_false, Bool.false_or, Bool.and_eq_true,
      Bool.or_eq_true, decide_eq_true_eq] at hArranges
    split
    · simp
    · rename_i hToken
      have hFull : r.form ≠ .emptyStatement := fun hEmpty => hToken (by simp [hEmpty])
      split
      · rename_i hStatement
        have hInner : r.parts.operand.Gives fun tree => tree.kind.isTerm = true := by
          refine hr.parts.gives_operand fun child hChild => ?_
          rw [show r.shape.form = .expressionStatement from hStatement] at hChild
          simp only [Form.arranges, Bool.and_eq_true] at hChild
          exact hChild.2
        exact hInner.bind fun tree hTree => by simpa using hTree
      · rename_i hStatement
        have hTerm : r.form.isTerm = true := by
          rcases hArranges.2 with (hTerm | hEmpty) | hOther
          · exact hTerm
          · exact absurd hEmpty hFull
          · exact absurd hOther hStatement
        exact hr.node.bind fun tree hTree => by simpa using hTree.term hTerm

theorem arrow_arranged (hForm : shape.form = .arrowFunction) :
    (arrow span parts).Gives Node.Arranged := by
  have hRest (params : List Node) : Read.Gives (do
      let body ← parts.get "body"
      let tree ← body.node
      return Node.function .arrow span none params tree (parts.hasToken ["async"]) false
        (body.form != .statementBlock)) Node.Arranged := by
    refine (Parts.gives_get_find? _).bind fun body hBody => ?_
    obtain ⟨hMem, hField⟩ := Parts.mem_of_find? hBody
    refine (h.each body hMem).node.bind fun tree hTree => .pure ?_
    refine fun hExpression => hTree.term ?_
    have hArranges := h.arranges hMem
    simp only [Form.arranges, hForm, hField, bne_self_eq_false, Bool.false_or, Bool.and_eq_true,
      Bool.or_eq_true, decide_eq_true_eq] at hArranges
    have hBlock : body.shape.form ≠ .statementBlock := by simpa [Reading.form] using hExpression
    exact hArranges.2.resolve_left hBlock
  unfold arrow
  dsimp only
  split
  · exact .skip fun param => hRest [param]
  · exact .skip fun head => .skip fun params => hRest params

theorem binary_arranged (hForm : shape.form = .binaryExpression) :
    (binary span parts).Gives Node.Arranged := by
  refine .skip fun operator => ?_
  refine (h.gives_term "left" (by rw [hForm]; rfl)).bind fun left hLeft => ?_
  refine .skip fun right => ?_
  split
  · exact .pure hLeft
  · exact .pure hLeft

theorem assignment_arranged
    (hForm : shape.form = .assignmentExpression ∨ shape.form = .augmentedAssignmentExpression) :
    (assignment span parts).Gives Node.Arranged := by
  have hLeft : (parts.node "left").Gives fun tree => tree.kind.isOperand = true := by
    refine (Parts.gives_get_find? _).bind fun r hr tree hTree => ?_
    obtain ⟨hMem, hField⟩ := Parts.mem_of_find? hr
    have hArranges := h.arranges hMem
    refine ((h.each r hMem).node.of_eq hTree).operand ?_
    rcases hForm with hForm | hForm <;>
    · simp only [Form.arranges, hForm, hField, bne_self_eq_false, Bool.false_or,
        Bool.and_eq_true] at hArranges
      exact hArranges.2
  refine hLeft.bind fun left hLeft => .skip fun right => ?_
  exact .pure hLeft

theorem update_arranged (hForm : shape.form = .updateExpression) :
    (update span parts).Gives Node.Arranged := by
  refine .skip fun operator => ?_
  have hRest (leading : Bool) : Read.Gives (do
      let argument ← parts.node "argument"
      return Node.update span operator.form.name leading argument) Node.Arranged := by
    refine (h.gives_term "argument" (by rw [hForm]; rfl)).bind fun argument hArgument => ?_
    exact .pure hArgument
  dsimp only
  split
  · exact Read.gives_error _
  · exact hRest _

theorem call_arranged (hForm : shape.form = .callExpression) :
    (call source span parts).Gives Node.Arranged := by
  refine (Parts.gives_get_find? _).bind fun callee hCallee => ?_
  have hTerm := h.isTerm_of_role "function" (by rw [hForm]; rfl) hCallee
  have hr := h.each callee (Parts.mem_of_find? hCallee).1
  split
  · exact Read.gives_refuse _ _ _
  refine (Parts.gives_get_find? _).bind fun arguments hArguments => ?_
  obtain ⟨hMem, hField⟩ := Parts.mem_of_find? hArguments
  split
  · refine hr.node.bind fun tag hTag => .skip fun quasi => ?_
    exact .pure (hTag.term hTerm)
  · refine hr.link.bind fun base hBase => ?_
    refine (Parts.gives_arguments (h.each arguments hMem) hField).bind fun items hItems => ?_
    exact .pure ⟨hBase.term hTerm, hItems⟩

theorem member_arranged (hRole : shape.form.termRole? = some "object") (field : String)
    (computed : Bool) : (member span parts field computed).Gives Node.Arranged := by
  refine (Parts.gives_get_find? _).bind fun object hObject => ?_
  have hTerm := h.isTerm_of_role "object" hRole hObject
  refine (h.each object (Parts.mem_of_find? hObject).1).link.bind fun base hBase => ?_
  exact .skip fun property => .pure (hBase.term hTerm)

/-- The operands of what is read at a concrete node are what they should be. -/
theorem linkAt_arranged : (linkAt source shape parts span).Gives Node.Arranged := by
  have hLax (hKinds : shape.form.kinds.all Kind.isLax = true) :
      (linkAt source shape parts span).Gives Node.Arranged := by
    intro node hNode
    exact Node.arranged_of_isLax (List.all_eq_true.1 hKinds _ (linkAt_root.of_eq hNode).2)
  obtain ⟨form, start, stop, field, named, missing, faulty⟩ := shape
  cases form
  case arrowFunction => exact arrow_arranged h rfl
  case binaryExpression => exact binary_arranged h rfl
  case assignmentExpression => exact assignment_arranged h (.inl rfl)
  case augmentedAssignmentExpression => exact assignment_arranged h (.inr rfl)
  case updateExpression => exact update_arranged h rfl
  case callExpression => exact call_arranged h rfl
  case memberExpression | subscriptExpression => exact member_arranged h rfl _ _
  case ifStatement =>
    have hRest (alternate : Option Node) : Read.Gives (do
        let test ← parts.node "condition"
        let consequent ← parts.node "consequence"
        return Node.ifStatement span test consequent alternate) Node.Arranged := by
      refine (h.gives_term "condition" rfl).bind fun test hTest => ?_
      exact .skip fun consequent => .pure hTest
    unfold linkAt
    dsimp only
    split
    · exact .skip fun alternate => hRest (some alternate)
    · exact hRest none
  case whileStatement =>
    refine (h.gives_term "condition" rfl).bind fun test hTest => ?_
    exact .skip fun body => .pure hTest
  case doStatement =>
    refine .skip fun body => ?_
    exact (h.gives_term "condition" rfl).bind fun test hTest => .pure hTest
  case forStatement =>
    refine .skip fun init => ?_
    refine (loopClause_arranged h rfl).bind fun test hTest => ?_
    refine .skip fun step => .skip fun body => ?_
    exact .pure hTest
  case ternaryExpression =>
    refine (h.gives_term "condition" rfl).bind fun test hTest => ?_
    refine .skip fun consequent => .skip fun alternate => ?_
    exact .pure hTest
  case newExpression =>
    refine .skip fun callee => ?_
    dsimp only
    split
    · rename_i r hFind
      obtain ⟨hMem, hField⟩ := Parts.mem_of_find? hFind
      exact (Parts.gives_arguments (h.each r hMem) hField).bind fun items hItems =>
        .pure hItems
    · exact .pure (by simp [Node.Arranged])
  case arrayLiteral =>
    exact (elements_arranged h rfl).bind fun elements hElements =>
      .pure hElements
  case templateString =>
    have hPiece := h.shape
    simp only [Shape.isArranged, bne_self_eq_false, Bool.false_or, Bool.and_eq_true] at hPiece
    exact (templateParts_arranged stop (start + 1) hPiece.2).bind fun found hFound =>
      .pure hFound
  case metaProperty =>
    exact .skip fun text => .pure rfl
  -- The other forms are read as nodes that leave their parts their freedom.
  all_goals exact hLax rfl

/-- What is read at a concrete node, chains left open. -/
theorem link_yields : (link source shape parts).Gives shape.form.Yields := by
  have hHolds : ∀ part ∈ parts, part.Holds (Node.Every Node.Arranged) (Node.Every Node.Arranged) :=
    fun part hPart => (h.each part hPart).holds
  unfold link
  split
  · rename_i hForm
    have hTerm : parts.operand.Gives fun tree => tree.kind.isTerm = true :=
      h.gives_operand fun child hChild => by
        simp only [Form.arranges, hForm, Bool.and_eq_true] at hChild
        exact hChild.2
    intro tree hTree
    have hKind := hTerm.of_eq hTree
    exact ⟨⟨fun _ => Kind.isOperand_of_isTerm hKind, fun _ => hKind⟩,
      (Parts.gives_operand hHolds).of_eq hTree⟩
  · refine Read.gives_place _ _ _ fun span _ tree hTree => ?_
    have hArranged := (linkAt_arranged h).of_eq hTree
    refine ⟨Form.suits_of_mem_kinds (linkAt_root.of_eq hTree).2, ⟨hArranged, ?_⟩⟩
    exact ((linkAt_parts framed_every.framable ⟨trivial, hHolds⟩ fun _ =>
      metaProperty_framed framed_every).of_eq hTree).parts

end

theorem closeChain_yields {form : Form} {tree : Node} (h : form.Yields tree) :
    form.Yields (closeChain tree) := by
  unfold closeChain
  split
  · refine ⟨⟨fun _ => rfl, fun _ => rfl⟩, trivial, ?_⟩
    simpa [Node.parts, Node.looseParts, Node.placedParts] using h.every
  · exact h

end Lower

namespace Concrete

/-- Whatever is read anywhere in an arranged concrete tree is arranged. -/
theorem reading_arranged (source : Source) (tree : Concrete)
    (h : tree.all (Shape.isArranged source) = true) : (reading source tree).Arranged source := by
  induction tree using Concrete.induction with
  | mk shape children ih =>
    obtain ⟨hShape, hChildren⟩ := all_iff.1 h
    have hParts : Parts.Arranged source shape (readings source children) := by
      refine ⟨?_, forall_readings.2 fun child hChild => ih child hChild (hChildren child hChild)⟩
      rw [map_shape_readings]
      exact hShape
    have hLink := Lower.link_yields hParts
    unfold reading
    refine ⟨shape, _, _, _, hParts.shape, ?_, hLink, hParts.each⟩
    split
    · cases hRead : Lower.link source shape (readings source children) with
      | error error => exact Read.gives_error error
      | ok chain => exact (Read.gives_ok _).2 (Lower.closeChain_yields (hLink.of_eq hRead))
    · exact hLink

end Concrete

/-- All nodes of a program are arranged if its concrete tree is. -/
theorem Script.parse_arranged {script : Script} {program : Node} (h : script.isArranged = true)
    (hParse : script.parse = .ok program) : program.Every Node.Arranged :=
  ((Concrete.reading_arranged (Source.ofText script.code) script.tree h).node.of_eq
    (reading_of_parse hParse)).every

end Assay
