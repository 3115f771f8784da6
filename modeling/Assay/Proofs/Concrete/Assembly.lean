import Assay.Proofs.Concrete.Grammatical
import Assay.Proofs.Concrete.Located

/-!
# What readers put together

The reader of a construct puts together what was read in the parts of the construct. So a property of
trees that a node has if its parts have it (`Node.Compositional`) holds of all that is read. Some nodes
are frames, which are only put around what was read: `Node.Framable` says what a property needs of them,
and `Lower.linkAt_composed` is what follows for the parts of what is read at one concrete node.
Members and calls are read in two ways, as links of a longer chain and at the end of their chain, so
there are two properties, one for each, and how they go together is a matter of the property:
`Concrete.holds_reading` asks what a link has to do with the chain before it and what happens where a
chain ends. What kind of node a form is read as, and where it stands, is said by `Lower.linkAt_root`.
-/

set_option autoImplicit false

namespace Assay

namespace Node

/-- What stands before a link of a chain: the object of a member or the callee of a call. -/
def base? : Node → Option Node
  | .member _ object _ _ _ => some object
  | .call _ callee _ _ => some callee
  | _ => none

/-- Whether a node is the top of a chain. -/
def isChain : Node → Bool
  | .chain .. => true
  | _ => false

/-- The node is neither a link nor the top of a chain, and its parts have the property. -/
structure Assembled (p : Node → Prop) (node : Node) : Prop where
  base?_eq : node.base? = none
  isChain_eq : node.isChain = false
  parts : ∀ part ∈ node.parts, p part

/-- The node is a link behind the base, and its other parts have the property. -/
structure Extends (p : Node → Prop) (node base : Node) : Prop where
  base?_eq : node.base? = some base
  parts : ∃ others, node.parts = base :: others ∧ ∀ part ∈ others, p part

/-- Whether a node is only put around what is read in the parts of a construct, or is only taken off
from it. -/
def isFrame : Node → Bool
  | .program .. | .blockStatement .. | .staticBlock .. | .switchCase .. | .catchClause ..
  | .variableDeclaration .. | .variableDeclarator .. | .function .expression .. | .classBody ..
  | .methodDefinition .. | .propertyDefinition .. | .identifier .. | .property .. | .sequence ..
  | .assignmentPattern .. => true
  | _ => false

/-- A frame has the property if its parts have it. -/
def Framed (p : Node → Prop) : Prop :=
  ∀ node : Node, node.isFrame = true → (p node ↔ ∀ part ∈ node.parts, p part)

/-- A node has the property if its parts have it, chains and their links apart. -/
def Compositional (p : Node → Prop) : Prop :=
  ∀ node : Node, node.base? = none → node.isChain = false → (p node ↔ ∀ part ∈ node.parts, p part)

theorem Assembled.of_compositional {p : Node → Prop} (hp : Compositional p) {node : Node}
    (h : node.Assembled p) : p node :=
  (hp node h.base?_eq h.isChain_eq).2 h.parts

theorem Compositional.framed {p : Node → Prop} (hp : Compositional p) : Framed p := by
  intro node hFrame
  refine hp node ?_ ?_ <;> cases node <;> first | rfl | cases hFrame

/-- The node has the first property, or it has the second one and one of the kinds. -/
def Fills (p f : Node → Prop) (kinds : List Kind) (node : Node) : Prop :=
  p node ∨ f node ∧ node.kind ∈ kinds

/-- The loose parts of the node have the first property, and its other parts fill their places. -/
def Composed (p f : Node → Prop) (node : Node) : Prop :=
  (∀ part ∈ node.looseParts, p part) ∧ ∀ part ∈ node.placedParts, part.Fills p f node.placedKinds

theorem composed_of_parts {p f : Node → Prop} {node : Node} (h : ∀ part ∈ node.parts, p part) :
    node.Composed p f :=
  ⟨fun part hPart => h part (List.mem_append_left _ hPart),
    fun part hPart => .inl (h part (List.mem_append_right _ hPart))⟩

theorem Composed.parts {p : Node → Prop} {node : Node} (h : node.Composed p p) :
    ∀ part ∈ node.parts, p part := by
  intro part hPart
  rcases List.mem_append.1 hPart with hLoose | hPlaced
  · exact h.1 part hLoose
  · exact (h.2 part hPlaced).elim id And.left

end Node

/-! ## Frames -/

/-- The kinds of nodes that are built from a concrete node besides the node that it is read as: those
of a form, those of a role, and cases, because all that stands in the body of a `switch` is one. -/
def Shape.frames (shape : Shape) : List Kind :=
  Kind.switchCase ::
    (match shape.form with
      | .variableDeclarator => [Kind.variableDeclarator]
      | .methodDefinition => [Kind.methodDefinition, Kind.property]
      | .fieldDefinition => [Kind.propertyDefinition]
      | .classStaticBlock => [Kind.staticBlock]
      | .pair | .pairPattern => [Kind.property]
      | .shorthandPropertyIdentifier | .shorthandPropertyIdentifierPattern =>
        [Kind.property, Kind.identifier]
      | .objectAssignmentPattern => [Kind.property, Kind.assignmentPattern]
      | .metaProperty => [Kind.identifier]
      | _ => []) ++
    (if shape.field = "left" then [Kind.variableDeclarator] else []) ++
    (if shape.field = "handler" then [Kind.catchClause] else []) ++
    (if shape.field = "body" then [Kind.classBody] else [])

namespace Node

/-- The node reaches from the start of one concrete node to the end of another. -/
def Joins (first last : Shape) : Node → Prop
  | .variableDeclaration .. => first.field = "kind" ∧ last.field = "left"
  | .function .expression .. => first.field = "parameters" ∧ last.field = "body"
  | _ => False

theorem Joins.isFrame {first last : Shape} {node : Node} (h : node.Joins first last) :
    node.isFrame = true := by
  unfold Joins at h
  split at h
  · rfl
  · rfl
  · cases h

/-- What a frame that is put around parts at a concrete node holds besides: a name is what stands
there, the function of a method has none, what is called as a method is a function, and a shorthand is
not computed. -/
def Matches (source : Source) (shape : Shape) : Node → Prop
  | .function _ _ id _ _ _ _ _ => id = none
  | .identifier _ name => shape.form.isName = true ∧ source.textOf shape = .ok name
  | .methodDefinition _ _ value _ _ _ => value.isFunction = true
  | .property _ _ value kind computed shorthand method =>
    (kind == "get" || kind == "set" || method → value.isFunction) ∧ (shorthand → computed = false)
  | _ => True

theorem frames_subset (shape : Shape) :
    shape.frames ⊆ [Kind.switchCase, .variableDeclarator, .methodDefinition, .property,
      .propertyDefinition, .staticBlock, .identifier, .assignmentPattern, .catchClause,
      .classBody] := by
  simp only [Shape.frames, List.append_subset]
  refine ⟨⟨⟨?_, ?_⟩, ?_⟩, ?_⟩ <;> split <;> decide

/-- Only frames are put around parts. -/
theorem isFrame_of_mem_frames {node : Node} {shape : Shape} (h : node.kind ∈ shape.frames) :
    node.isFrame = true := by
  have hKind := frames_subset shape h
  cases node
  case' function form _ _ _ _ _ _ _ | classNode form _ _ _ _ => cases form
  case' bare category _ => cases category
  all_goals simp [kind, Category.kind, FunctionForm.kind, ClassForm.kind, isFrame] at hKind ⊢

end Node

/-- The role of what stands before a link. -/
def Form.baseRole : Form → String
  | .callExpression => "function"
  | _ => "object"

/-- What was read at a concrete node and inside of it has the first property at the end of a chain and
the second one inside of a chain. -/
inductive Reading.Holds (p q : Node → Prop) : Reading → Prop
  | mk (shape : Shape) (node link : Read Node) (parts : Parts) (hNode : node.Gives p)
      (hLink : link.Gives q) (hParts : ∀ part ∈ parts, part.Holds p q) :
      Reading.Holds p q (.mk shape node link parts)

namespace Reading.Holds

variable {p q : Node → Prop} {r : Reading} (h : r.Holds p q)

include h

theorem node : r.node.Gives p := by
  obtain ⟨_, _, _, _, hNode, -, -⟩ := h
  exact hNode

theorem link : r.link.Gives q := by
  obtain ⟨_, _, _, _, -, hLink, -⟩ := h
  exact hLink

theorem parts : ∀ part ∈ r.parts, part.Holds p q := by
  obtain ⟨_, _, _, _, -, -, hParts⟩ := h
  exact hParts

end Reading.Holds

theorem Read.Gives.bind {α β : Type} {p : α → Prop} {q : β → Prop} {read : Read α}
    {next : α → Read β} (h : read.Gives p) (hNext : ∀ value, p value → (next value).Gives q) :
    (read >>= next).Gives q :=
  (Read.gives_bind read next).2 fun value hValue => hNext value (h.of_eq hValue)

/-- Whatever is read first. -/
theorem Read.Gives.skip {α β : Type} {q : β → Prop} {read : Read α} {next : α → Read β}
    (h : ∀ value, (next value).Gives q) : (read >>= next).Gives q :=
  (Read.gives_bind read next).2 fun value _ => h value

theorem Read.Gives.pure {α : Type} {p : α → Prop} {value : α} (h : p value) :
    Read.Gives (pure value) p :=
  (Read.gives_pure value).2 h

namespace Parts

variable {field : String}

theorem mem_of_find? {parts : Parts} {r : Reading} (h : parts.find? field = some r) :
    r ∈ parts ∧ r.shape.field = field :=
  ⟨List.mem_of_find?_eq_some h, by simpa using List.find?_some h⟩

theorem find?_of_get {parts : Parts} {r : Reading} (h : parts.get field = .ok r) :
    parts.find? field = some r := by
  unfold Parts.get at h
  split at h
  · rename_i found hFind
    cases h
    exact hFind
  · cases h

theorem gives_get_find? {parts : Parts} (field : String) :
    (parts.get field).Gives fun r => parts.find? field = some r :=
  fun _ hr => find?_of_get hr

theorem mem_of_named {parts : Parts} {r : Reading} (h : r ∈ parts.named) : r ∈ parts :=
  (List.mem_filter.1 h).1

variable {p q : Node → Prop} {parts : Parts} (h : ∀ part ∈ parts, part.Holds p q)

include h

theorem holds_find? {r : Reading} (hr : parts.find? field = some r) : r.Holds p q :=
  h r (mem_of_find? hr).1

theorem holds_named : ∀ r ∈ parts.named, r.Holds p q := fun r hr => h r (mem_of_named hr)

theorem gives_get (field : String) : (parts.get field).Gives (Reading.Holds p q) :=
  fun _ hr => holds_find? h (find?_of_get hr)

theorem gives_node (field : String) : (parts.node field).Gives p :=
  (gives_get h field).bind fun _ hr => hr.node

theorem gives_node? (field : String) :
    (parts.node? field).Gives fun part => ∀ tree ∈ part, p tree := by
  unfold Parts.node?
  split
  · rename_i r hFind
    exact (holds_find? h hFind).node.bind fun tree hTree => by simpa using hTree
  · simp

theorem gives_operand : parts.operand.Gives p := by
  unfold Parts.operand
  split
  · rename_i r _ hNamed
    exact (holds_named h r (by simp [hNamed])).node
  · exact Read.gives_error _

theorem gives_operand? : parts.operand?.Gives fun part => ∀ tree ∈ part, p tree := by
  unfold Parts.operand?
  split
  · rename_i r _ hNamed
    exact (holds_named h r (by simp [hNamed])).node.bind fun tree hTree => by simpa using hTree
  · simp

theorem gives_nodes : parts.nodes.Gives fun trees => ∀ tree ∈ trees, p tree :=
  Read.gives_mapM _ _ fun r hr => (holds_named h r hr).node

end Parts

/-- The reading has the first property, and what was read in it the other two. -/
structure Reading.Sits (c : Reading → Prop) (p q : Node → Prop) (r : Reading) : Prop where
  origin : c r
  holds : r.Holds p q

/-- The parts of a concrete node have the first property, and what was read in them the other two. -/
structure Parts.Sit (d : Shape → Parts → Prop) (p q : Node → Prop) (shape : Shape) (parts : Parts) :
    Prop where
  origin : d shape parts
  holds : ∀ part ∈ parts, part.Holds p q

/-- A frame that is put around parts where a reading or two stand has the second property, and the first
one if it is loose, provided that its parts have them. What is taken out of a frame has the first
property if the frame has it. -/
structure Node.Framable (source : Source) (c : Reading → Prop) (d : Shape → Parts → Prop)
    (p f : Node → Prop) : Prop where
  whole : ∀ {r : Reading}, c r → d r.shape r.parts
  part : ∀ {shape : Shape} {parts : Parts}, d shape parts → ∀ r ∈ parts, c r
  place : ∀ {r : Reading} {node : Node}, c r → source.spanOf r.shape = .ok node.span →
    node.kind ∈ r.shape.frames → node.Matches source r.shape → node.Composed p f → f node
  join : ∀ {shape : Shape} {parts : Parts} {first last : Reading} {node : Node}, d shape parts →
    shape.form.rolesInOrder? = some (first.shape.field, last.shape.field) →
    parts.find? first.shape.field = some first → parts.find? last.shape.field = some last →
    node.Joins first.shape last.shape → node.Matches source first.shape →
    source.span first.shape.start last.shape.stop = .ok node.span → node.Composed p f → f node
  loosen : ∀ {node : Node}, f node → node.isFree = true → p node
  release : ∀ {node : Node}, node.isFrame = true → p node → ∀ part ∈ node.looseParts, p part

namespace Node.Framable

variable {source : Source} {c : Reading → Prop} {d : Shape → Parts → Prop} {p q f : Node → Prop}
  (hp : Framable source c d p f)

include hp

theorem parts {r : Reading} (h : r.Sits c p q) : Parts.Sit d p q r.shape r.parts :=
  ⟨hp.whole h.origin, h.holds.parts⟩

theorem sits {shape : Shape} {parts : Parts} (h : Parts.Sit d p q shape parts) :
    ∀ part ∈ parts, part.Sits c p q :=
  fun part hPart => ⟨hp.part h.origin part hPart, h.holds part hPart⟩

end Node.Framable

theorem Node.Framed.framable {source : Source} {p : Node → Prop} (hp : Framed p) :
    Framable source (fun _ => True) (fun _ _ => True) p p where
  whole _ := trivial
  part _ _ _ := trivial
  place _ _ hKind _ hParts := (hp _ (isFrame_of_mem_frames hKind)).2 hParts.parts
  join _ _ _ _ hJoins _ _ hParts := (hp _ hJoins.isFrame).2 hParts.parts
  loosen h _ := h
  release hFrame h part hPart := (hp _ hFrame).1 h part (List.mem_append_left _ hPart)

/-- The kinds of nodes that what has the form is read as. -/
def Form.kinds : Form → List Kind
  | .program => [.program]
  | .expressionStatement => [.expressionStatement]
  | .variableDeclaration | .lexicalDeclaration => [.variableDeclaration]
  | .statementBlock => [.blockStatement]
  | .emptyStatement => [.emptyStatement]
  | .debuggerStatement => [.debuggerStatement]
  | .ifStatement => [.ifStatement]
  | .switchStatement => [.switchStatement]
  | .forStatement => [.forStatement]
  | .forInStatement => [.forInStatement, .forOfStatement]
  | .whileStatement => [.whileStatement]
  | .doStatement => [.doWhileStatement]
  | .tryStatement => [.tryStatement]
  | .returnStatement => [.returnStatement]
  | .throwStatement => [.throwStatement]
  | .breakStatement => [.breakStatement]
  | .continueStatement => [.continueStatement]
  | .labeledStatement => [.labeledStatement]
  | .functionDeclaration | .generatorFunctionDeclaration => [FunctionForm.declaration.kind]
  | .functionExpression | .functionKeyword | .generatorFunction => [FunctionForm.expression.kind]
  | .arrowFunction => [FunctionForm.arrow.kind]
  | .classDeclaration => [ClassForm.declaration.kind]
  | .classKeyword => [ClassForm.expression.kind]
  | .identifier | .propertyIdentifier | .shorthandPropertyIdentifier
  | .shorthandPropertyIdentifierPattern | .statementIdentifier | .undefinedName => [.identifier]
  | .privatePropertyIdentifier => [.privateIdentifier]
  | .thisKeyword => [.thisExpression]
  | .superKeyword => [.superReference]
  | .trueKeyword | .falseKeyword | .nullKeyword | .numberLiteral | .stringLiteral
  | .regexLiteral => [.literal]
  | .templateString => [.templateLiteral]
  | .arrayLiteral => [.arrayExpression]
  | .objectLiteral => [.objectExpression]
  | .binaryExpression => [.binaryExpression, .logicalExpression]
  | .unaryExpression => [.unaryExpression]
  | .updateExpression => [.updateExpression]
  | .assignmentExpression | .augmentedAssignmentExpression => [.assignmentExpression]
  | .ternaryExpression => [.conditionalExpression]
  | .callExpression => [.callExpression, .taggedTemplateExpression]
  | .newExpression => [.newExpression]
  | .memberExpression | .subscriptExpression => [.memberExpression]
  | .sequenceExpression => [.sequenceExpression]
  | .awaitExpression => [.awaitExpression]
  | .yieldExpression => [.yieldExpression]
  | .spreadElement => [.spreadElement]
  | .metaProperty => [.metaProperty]
  | .objectPattern => [.objectPattern]
  | .arrayPattern => [.arrayPattern]
  | .assignmentPattern => [.assignmentPattern]
  | .restPattern => [.restElement]
  | _ => []

/-- Only links are read as links, and no form is read as the top of a chain. -/
theorem Node.ends_of_kind {form : Form} {node : Node} (hForm : form.isLink = false)
    (h : node.kind ∈ form.kinds) : node.base? = none ∧ node.isChain = false := by
  have hKinds : Kind.memberExpression ∉ form.kinds ∧ Kind.callExpression ∉ form.kinds ∧
      Kind.chainExpression ∉ form.kinds := by
    cases form
    case memberExpression | subscriptExpression | callExpression => cases hForm
    case other => exact ⟨List.not_mem_nil, List.not_mem_nil, List.not_mem_nil⟩
    all_goals decide
  cases node
  case member => exact absurd h hKinds.1
  case call => exact absurd h hKinds.2.1
  case chain => exact absurd h hKinds.2.2
  all_goals exact ⟨rfl, rfl⟩

namespace Lower

open Node Parts

variable {readings : List Reading}

attribute [local simp] Node.parts looseParts placedParts placedKinds Composed or_imp forall_and

variable {c : Reading → Prop} {d : Shape → Parts → Prop} {p q f : Node → Prop} {source : Source}
  {shape : Shape} {span : Span} {r : Reading} {parts : Parts}

theorem propertyKey_holds (h : r.Holds p q) : (propertyKey r).Gives fun found => p found.1 := by
  unfold propertyKey
  split
  · exact (gives_operand h.parts).bind fun key hKey => .pure hKey
  · exact h.node.bind fun key hKey => .pure hKey

theorem loopClause_holds (h : ∀ part ∈ parts, part.Holds p q) (field : String) :
    (loopClause parts field).Gives fun part => ∀ tree ∈ part, p tree := by
  unfold loopClause
  split
  · simp
  · rename_i r hFind
    have hr := holds_find? h hFind
    split
    · simp
    · split
      · exact (gives_operand hr.parts).bind fun tree hTree => by simpa using hTree
      · exact hr.node.bind fun tree hTree => by simpa using hTree

theorem heritage_holds (h : ∀ r ∈ readings, r.Holds p q) :
    (heritage readings).Gives fun part => ∀ tree ∈ part, p tree := by
  induction readings with
  | nil => simp [heritage]
  | cons r rest ih =>
    obtain ⟨hr, hRest⟩ := List.forall_mem_cons.1 h
    unfold heritage
    split
    · refine (gives_operand hr.parts).bind fun parent hParent => ?_
      refine (ih hRest).bind fun later hLater => ?_
      cases later with
      | none => simpa using hParent
      | some later => simpa using hLater later rfl
    · exact ih hRest

theorem templateParts_holds (stop cursor : Int) (h : ∀ r ∈ readings, r.Holds p q) :
    (templateParts source stop cursor readings).Gives fun found => ∀ tree ∈ found.2, p tree := by
  induction readings generalizing cursor with
  | nil => exact .skip fun fixed => by simp
  | cons r rest ih =>
    obtain ⟨hr, hRest⟩ := List.forall_mem_cons.1 h
    unfold templateParts
    split
    · refine .skip fun fixed => ?_
      refine (gives_operand hr.parts).bind fun expression hExpression => ?_
      refine (ih _ hRest).bind fun found hFound => ?_
      exact .pure (List.forall_mem_cons.2 ⟨hExpression, hFound⟩)
    · exact ih cursor hRest

theorem elements_gives (expecting : Bool) (h : ∀ r ∈ readings, r.node.Gives p) :
    (elements expecting readings).Gives fun found => ∀ part ∈ found, ∀ tree ∈ part, p tree := by
  induction readings generalizing expecting with
  | nil => simp [elements]
  | cons r rest ih =>
    obtain ⟨hr, hRest⟩ := List.forall_mem_cons.1 h
    unfold elements
    split
    · exact ih expecting hRest
    · split
      · split
        · refine (ih true hRest).bind fun found hFound => ?_
          exact .pure (List.forall_mem_cons.2 ⟨by simp, hFound⟩)
        · exact ih true hRest
      · refine hr.bind fun element hElement => ?_
        refine (ih false hRest).bind fun found hFound => ?_
        exact .pure (List.forall_mem_cons.2 ⟨by simpa using hElement, hFound⟩)

theorem function_composed (h : ∀ part ∈ parts, part.Holds p q) (form : FunctionForm) :
    (function form span parts).Gives (Composed p f) := by
  refine (gives_node? h "name").bind fun id hId => ?_
  refine (gives_get h "parameters").bind fun head hHead => ?_
  refine (gives_nodes hHead.parts).bind fun params hParams => ?_
  refine (gives_node h "body").bind fun body hBody => ?_
  exact .pure (by simpa using ⟨hId, hParams, hBody⟩)

theorem arrow_composed (h : ∀ part ∈ parts, part.Holds p q) :
    (arrow span parts).Gives (Composed p f) := by
  have hRest (params : List Node) (hParams : ∀ param ∈ params, p param) :
      Read.Gives (do
        let body ← parts.get "body"
        let tree ← body.node
        return .function .arrow span none params tree (parts.hasToken ["async"]) false
          (body.form != .statementBlock)) (Composed p f) := by
    refine (gives_get h "body").bind fun body hBody => ?_
    refine hBody.node.bind fun tree hTree => ?_
    exact .pure (by simpa using And.intro hParams hTree)
  unfold arrow
  dsimp only
  split
  · rename_i r hFind
    refine (holds_find? h hFind).node.bind fun param hParam => ?_
    exact hRest [param] (by simpa using hParam)
  · refine (gives_get h "parameters").bind fun head hHead => ?_
    exact (gives_nodes hHead.parts).bind hRest

section Frames

variable (hp : Framable source c d p f)

include hp

/-- A frame in a place for nodes of its kind. -/
theorem fills_place {node : Node} {kinds : List Kind} (h : r.Sits c p q)
    (hSpan : source.spanOf r.shape = .ok node.span) (hKinds : kinds ⊆ r.shape.frames)
    (hKind : node.kind ∈ kinds) (hMatches : node.Matches source r.shape)
    (hParts : node.Composed p f) : node.Fills p f kinds :=
  .inr ⟨hp.place h.origin hSpan (hKinds hKind) hMatches hParts, hKind⟩

theorem declarator_fills (h : r.Sits c p q) (hForm : r.form = .variableDeclarator) :
    (declarator source r).Gives (Fills p f [.variableDeclarator]) := by
  have hShape : r.shape.form = .variableDeclarator := hForm
  refine Read.gives_place _ _ _ fun span hSpan => ?_
  refine (gives_node h.holds.parts "name").bind fun name hName => ?_
  refine (gives_node? h.holds.parts "value").bind fun value hValue => ?_
  refine .pure (fills_place hp h hSpan ?_ (by simp [Node.kind]) trivial ?_)
  · simp [Shape.frames, hShape]
  · simpa using And.intro hName hValue

theorem switchCase_fills (h : r.Sits c p q) :
    (switchCase source r).Gives (Fills p f [.switchCase]) := by
  refine Read.gives_place _ _ _ fun span hSpan => ?_
  have hBody : Read.Gives
      ((r.parts.filter fun (part : Reading) => part.shape.field == "body").mapM Reading.node)
      fun trees => ∀ tree ∈ trees, p tree :=
    Read.gives_mapM _ _ fun part hPart => (h.holds.parts part (List.mem_filter.1 hPart).1).node
  refine hBody.bind fun consequent hConsequent => ?_
  have hCase (test : Option Node) (hTest : ∀ tree ∈ test, p tree) :
      (Node.switchCase span test consequent).Fills p f [.switchCase] := by
    refine fills_place hp h hSpan (by simp [Shape.frames]) (by simp [Node.kind]) trivial ?_
    simpa using And.intro hTest hConsequent
  dsimp only
  split
  · exact (gives_node? h.holds.parts "value").bind fun test hTest =>
      .pure (hCase test hTest)
  · exact .pure (hCase none (by simp))

theorem forEach_composed (h : Parts.Sit d p q shape parts) (hForm : shape.form = .forInStatement) :
    (forEach source span parts).Gives (Composed p f) := by
  unfold forEach
  refine (gives_get_find? "left").bind fun target hFind => ?_
  obtain ⟨hTarget, hLeft⟩ := mem_of_find? hFind
  refine (h.holds target hTarget).node.bind fun pattern hPattern => ?_
  have hLoop (left : Node) (hLeft : p left) : Read.Gives (do
      let right ← parts.node "right"
      let body ← parts.node "body"
      let operator ← parts.get "operator"
      if (← source.textOf operator.shape) = ("of" : Text) then
        return .forOfStatement span left right body (parts.hasToken ["await"])
      else return .forInStatement span left right body)
      (Composed p f) := by
    refine (gives_node h.holds "right").bind fun right hRight => ?_
    refine (gives_node h.holds "body").bind fun body hBody => ?_
    refine .skip fun operator => ?_
    refine .skip fun text => ?_
    split
    · exact .pure (by simp [hLeft, hRight, hBody])
    · exact .pure (by simp [hLeft, hRight, hBody])
  dsimp only
  split
  · exact hLoop pattern hPattern
  · rename_i kind hKind
    obtain ⟨-, hField⟩ := mem_of_find? hKind
    have hDeclarator : Read.Gives (source.place target.shape fun span =>
        return Node.variableDeclarator span pattern (← parts.node? "value"))
        (Fills p f [.variableDeclarator]) := by
      refine Read.gives_place _ _ _ fun span hSpan => ?_
      refine (gives_node? h.holds "value").bind fun value hValue => ?_
      refine .pure
        (fills_place hp (hp.sits h target hTarget) hSpan ?_ (by simp [Node.kind]) trivial ?_)
      · simp [Shape.frames, hLeft]
      · simpa using And.intro hPattern hValue
    refine hDeclarator.bind fun declarator hDeclarator => ?_
    rw [Read.gives_bind]
    intro place hPlace
    refine .skip fun word => ?_
    refine hLoop _ (hp.loosen (hp.join h.origin ?_ (hField ▸ hKind) (hLeft ▸ hFind) ⟨hField, hLeft⟩
      trivial hPlace (by simpa using hDeclarator)) rfl)
    rw [hForm, hField, hLeft]
    rfl

theorem tryStatement_composed (h : Parts.Sit d p q shape parts) :
    (tryStatement source span parts).Gives (Composed p f) := by
  have hEnd (handler finalizer : Option Node)
      (hHandler : ∀ tree ∈ handler, tree.Fills p f [.catchClause])
      (hFinalizer : ∀ tree ∈ finalizer, p tree) : Read.Gives (do
        let block ← parts.node "body"
        return .tryStatement span block handler finalizer)
        (Composed p f) := by
    refine (gives_node h.holds "body").bind fun block hBlock => ?_
    exact .pure (by simpa using ⟨⟨hBlock, hFinalizer⟩, hHandler⟩)
  have hClause (r : Reading) (hFind : parts.find? "handler" = some r) :
      Read.Gives (source.place r.shape fun span =>
        return Node.catchClause span (← r.parts.node? "parameter") (← r.parts.node "body"))
        (Fills p f [.catchClause]) := by
    obtain ⟨hMem, hField⟩ := mem_of_find? hFind
    have hr := hp.sits h r hMem
    refine Read.gives_place _ _ _ fun span hSpan => ?_
    refine (gives_node? hr.holds.parts "parameter").bind fun param hParam => ?_
    refine (gives_node hr.holds.parts "body").bind fun body hBody => ?_
    refine .pure (fills_place hp hr hSpan ?_ (by simp [Node.kind]) trivial ?_)
    · simp [Shape.frames, hField]
    · simpa using And.intro hParam hBody
  unfold tryStatement
  cases hFinally : parts.find? "finalizer" with
  | none =>
    cases hCatch : parts.find? "handler" with
    | none => exact hEnd none none (by simp) (by simp)
    | some r =>
      refine (hClause r hCatch).bind fun clause hClause => ?_
      exact hEnd (some clause) none (by simpa using hClause) (by simp)
  | some last =>
    have hLast (handler : Option Node)
        (hHandler : ∀ tree ∈ handler, tree.Fills p f [.catchClause]) : Read.Gives (do
          let body ← last.parts.node "body"
          let block ← parts.node "body"
          return .tryStatement span block handler (some body))
          (Composed p f) := by
      refine (gives_node (holds_find? h.holds hFinally).parts "body").bind fun body hBody => ?_
      exact hEnd handler (some body) hHandler (by simpa using hBody)
    cases hCatch : parts.find? "handler" with
    | none => exact hLast none (by simp)
    | some r =>
      refine (hClause r hCatch).bind fun clause hClause => ?_
      exact hLast (some clause) (by simpa using hClause)

theorem method_holds (h : Parts.Sit d p q shape parts) (hForm : shape.form = .methodDefinition) :
    (method source parts).Gives fun found =>
      p found.key ∧ p found.value ∧ found.value.isFunction = true := by
  refine (gives_get h.holds "name").bind fun name hName => ?_
  refine (propertyKey_holds hName).bind fun key hKey => ?_
  refine (gives_get_find? "parameters").bind fun head hHead => ?_
  refine (gives_get_find? "body").bind fun body hBody => ?_
  obtain ⟨-, hFirst⟩ := mem_of_find? hHead
  obtain ⟨-, hLast⟩ := mem_of_find? hBody
  rw [Read.gives_bind]
  intro span hSpan
  refine (gives_nodes (holds_find? h.holds hHead).parts).bind fun params hParams => ?_
  refine (holds_find? h.holds hBody).node.bind fun block hBlock => ?_
  refine .pure ⟨hKey, hp.loosen (hp.join h.origin ?_ (hFirst ▸ hHead) (hLast ▸ hBody)
    ⟨hFirst, hLast⟩ rfl hSpan (by simpa using And.intro hParams hBlock)) rfl, rfl⟩
  rw [hForm, hFirst, hLast]
  rfl

theorem blockBody_holds {block : Node} (h : p block) :
    (blockBody block).Gives fun body => ∀ tree ∈ body, p tree := by
  unfold blockBody
  split
  · simpa using hp.release rfl h
  · simpa using hp.release rfl h
  · exact Read.gives_error _

theorem classMember_fills (h : r.Sits c p q) : (classMember source r).Gives
    (Fills p f [.methodDefinition, .propertyDefinition, .staticBlock]) := by
  have hPlace {node : Node} (hSpan : source.spanOf r.shape = .ok node.span)
      (hKind : node.kind ∈ r.shape.frames)
      (hKinds : node.kind ∈ [Kind.methodDefinition, .propertyDefinition, .staticBlock])
      (hMatches : node.Matches source r.shape) (hParts : node.Composed p f) :
      node.Fills p f [.methodDefinition, .propertyDefinition, .staticBlock] :=
    .inr ⟨hp.place h.origin hSpan hKind hMatches hParts, hKinds⟩
  refine Read.gives_place _ _ _ fun span hSpan => ?_
  split
  · rename_i hForm
    have hShape : r.shape.form = .methodDefinition := hForm
    refine (method_holds hp (hp.parts h) hShape).bind fun m ⟨hKey, hValue, hFunction⟩ => ?_
    refine .pure (hPlace hSpan ?_ (by simp [Node.kind]) hFunction ?_)
    · simp [Node.kind, Shape.frames, hShape]
    · simpa using And.intro hKey hValue
  · rename_i hForm
    have hShape : r.shape.form = .fieldDefinition := hForm
    refine (gives_get h.holds.parts "property").bind fun name hName => ?_
    refine (propertyKey_holds hName).bind fun key hKey => ?_
    refine (gives_node? h.holds.parts "value").bind fun value hValue => ?_
    refine .pure (hPlace hSpan ?_ (by simp [Node.kind]) trivial ?_)
    · simp [Node.kind, Shape.frames, hShape]
    · simpa using And.intro hKey hValue
  · rename_i hForm
    have hShape : r.shape.form = .classStaticBlock := hForm
    refine (gives_node h.holds.parts "body").bind fun block hBlock => ?_
    refine (blockBody_holds hp hBlock).bind fun body hBody => ?_
    refine .pure
      (hPlace hSpan ?_ (by simp [Node.kind]) trivial (by simpa using hBody))
    simp [Node.kind, Shape.frames, hShape]
  · exact Read.gives_refuse _ _ _

theorem classNode_composed (h : Parts.Sit d p q shape parts) (form : ClassForm) :
    (classNode source form span parts).Gives (Composed p f) := by
  refine (heritage_holds (holds_named h.holds)).bind fun parent hParent => ?_
  refine (gives_get_find? "body").bind fun body hFind => ?_
  obtain ⟨hBody, hField⟩ := mem_of_find? hFind
  have hSits := hp.sits h body hBody
  have hMembers : Read.Gives (body.parts.named.mapM (classMember source)) fun members =>
      ∀ member ∈ members,
        member.Fills p f [.methodDefinition, .propertyDefinition, .staticBlock] :=
    Read.gives_mapM _ _ fun r hr =>
      classMember_fills hp (hp.sits (hp.parts hSits) r (mem_of_named hr))
  refine hMembers.bind fun members hMembers => ?_
  refine (gives_node? h.holds "name").bind fun id hId => ?_
  rw [Read.gives_bind]
  intro place hPlace
  have hClassBody : (Node.classBody place members).Fills p f [.classBody] :=
    fills_place hp hSits hPlace (by simp [Shape.frames, hField]) (by simp [Node.kind]) trivial
      (by simpa using hMembers)
  exact .pure (by simpa using ⟨⟨hId, hParent⟩, hClassBody⟩)

theorem shorthand_fills (h : r.Sits c p q) (hName : r.shape.form.isName = true)
    (hKinds : [Kind.property, .identifier] ⊆ r.shape.frames) :
    (shorthand source r.shape).Gives (Fills p f [.property]) := by
  have hIdentifier : (identifier source r.shape).Gives p := by
    refine Read.gives_place _ _ _ fun span hSpan => ?_
    rw [Read.gives_bind]
    intro name hText
    exact .pure (hp.loosen (hp.place h.origin hSpan (hKinds (by simp [Node.kind]))
      ⟨hName, hText⟩ (by simp)) rfl)
  refine Read.gives_place _ _ _ fun span hSpan => ?_
  refine hIdentifier.bind fun name hName => ?_
  refine .pure (fills_place hp h hSpan (fun kind hKind => hKinds (by simp_all))
    (by simp [Node.kind]) ⟨fun hKind => absurd hKind (by decide), fun _ => rfl⟩ ?_)
  simpa using hName

theorem pair_fills (h : r.Sits c p q) (hKind : [Kind.property] ⊆ r.shape.frames) :
    (pair source r).Gives (Fills p f [.property]) := by
  refine Read.gives_place _ _ _ fun span hSpan => ?_
  refine (gives_get h.holds.parts "key").bind fun name hName => ?_
  refine (propertyKey_holds hName).bind fun key hKey => ?_
  refine (gives_node h.holds.parts "value").bind fun value hValue => ?_
  refine .pure (fills_place hp h hSpan hKind (by simp [Node.kind])
    ⟨fun hKind => absurd hKind (by decide), by simp⟩ ?_)
  simpa using And.intro hKey hValue

theorem objectMember_fills (h : r.Sits c p q) :
    (objectMember source r).Gives (Fills p f [.property]) := by
  unfold objectMember
  split
  all_goals rename_i hForm
  · have hShape : r.shape.form = .pair := hForm
    exact pair_fills hp h (by simp [Shape.frames, hShape])
  · have hShape : r.shape.form = .shorthandPropertyIdentifier := hForm
    exact shorthand_fills hp h (by rw [hShape]; rfl) (by simp [Shape.frames, hShape])
  · have hShape : r.shape.form = .methodDefinition := hForm
    refine Read.gives_place _ _ _ fun span hSpan => ?_
    refine (method_holds hp (hp.parts h) hShape).bind fun m ⟨hKey, hValue, hFunction⟩ => ?_
    refine .pure (fills_place hp h hSpan ?_ (by simp [Node.kind])
      ⟨fun _ => hFunction, by simp⟩ (by simpa using And.intro hKey hValue))
    simp [Shape.frames, hShape]
  · exact fun node hNode => .inl (h.holds.node.of_eq hNode)

theorem patternMember_fills (h : r.Sits c p q) :
    (patternMember source r).Gives (Fills p f [.property]) := by
  unfold patternMember
  split
  all_goals rename_i hForm
  · have hShape : r.shape.form = .pairPattern := hForm
    exact pair_fills hp h (by simp [Shape.frames, hShape])
  · have hShape : r.shape.form = .shorthandPropertyIdentifierPattern := hForm
    exact shorthand_fills hp h (by rw [hShape]; rfl) (by simp [Shape.frames, hShape])
  · have hShape : r.shape.form = .objectAssignmentPattern := hForm
    refine Read.gives_place _ _ _ fun span hSpan => ?_
    refine (gives_node h.holds.parts "left").bind fun left hLeft => ?_
    refine (gives_node h.holds.parts "right").bind fun right hRight => ?_
    have hPattern : p (Node.assignmentPattern span left right) := by
      refine hp.loosen (hp.place h.origin hSpan ?_ trivial ?_) rfl
      · simp [Node.kind, Shape.frames, hShape]
      · simpa using And.intro hLeft hRight
    refine .pure (fills_place hp h hSpan ?_ (by simp [Node.kind])
      ⟨fun hKind => absurd hKind (by decide), fun _ => rfl⟩ (by simpa using And.intro hLeft hPattern))
    simp [Shape.frames, hShape]
  · exact fun node hNode => .inl (h.holds.node.of_eq hNode)

theorem sequenceItems_holds (h : ∀ r ∈ readings, r.Holds p q) :
    (sequenceItems readings).Gives fun trees => ∀ tree ∈ trees, p tree := by
  induction readings with
  | nil => simp [sequenceItems]
  | cons r rest ih =>
    obtain ⟨hr, hRest⟩ := List.forall_mem_cons.1 h
    refine hr.node.bind fun item hItem => ?_
    refine (ih hRest).bind fun others hOthers => ?_
    refine .pure (List.forall_mem_append.2 ⟨?_, hOthers⟩)
    split
    · split
      · simpa using hp.release rfl hItem
      · simpa using hItem
    · simpa using hItem

/-- What is read at a concrete node that is no link of a chain. -/
theorem linkAt_composed (h : Parts.Sit d p q shape parts)
    (hMeta : shape.form = .metaProperty → (metaProperty source shape span).Gives (Composed p f))
    (hForm : shape.form.isLink = false) :
    (linkAt source shape parts span).Gives (Composed p f) := by
  have hNode := gives_node h.holds
  have hOperand := gives_operand h.holds
  have hNodes := gives_nodes h.holds
  have hNode? (field : String) : ∀ part, parts.node? field = .ok part → ∀ tree, part = some tree →
      p tree := gives_node? h.holds field
  have hOperand? : ∀ part, parts.operand? = .ok part → ∀ tree, part = some tree →
      p tree := gives_operand? h.holds
  have hNamed : ∀ r ∈ parts.named, r.Sits c p q := fun r hr => hp.sits h r (mem_of_named hr)
  unfold linkAt
  cases hShape : shape.form
  case callExpression | memberExpression | subscriptExpression =>
    rw [hShape] at hForm
    cases hForm
  case identifier | propertyIdentifier | shorthandPropertyIdentifier
    | shorthandPropertyIdentifierPattern | statementIdentifier | undefinedName =>
    refine Read.gives_place _ _ _ fun place _ => ?_
    exact .skip fun name => .pure (by simp)
  case forInStatement => exact forEach_composed hp h hShape
  case tryStatement => exact tryStatement_composed hp h
  case functionDeclaration | generatorFunctionDeclaration | functionExpression | functionKeyword
    | generatorFunction =>
    exact function_composed h.holds _
  case arrowFunction => exact arrow_composed h.holds
  case classDeclaration | classKeyword => exact classNode_composed hp h _
  case metaProperty => exact hMeta hShape
  case binaryExpression =>
    refine .skip fun operator => ?_
    refine (hNode "left").bind fun left hLeft => ?_
    refine (hNode "right").bind fun right hRight => ?_
    split
    all_goals exact .pure (by simp [hLeft, hRight])
  case assignmentExpression | augmentedAssignmentExpression =>
    refine (hNode "left").bind fun left hLeft => ?_
    refine (hNode "right").bind fun right hRight => ?_
    exact .pure (by simp [hLeft, hRight])
  case updateExpression =>
    refine .skip fun operator => ?_
    dsimp only
    split
    · exact Read.gives_error _
    · refine (hNode "argument").bind fun argument hArgument => ?_
      exact .pure (by simp [hArgument])
  case regexLiteral =>
    refine .skip fun raw => ?_
    refine .skip fun pattern => ?_
    refine .skip fun flags => ?_
    exact .pure (by simp)
  case variableDeclaration | lexicalDeclaration =>
    have hDeclarators : Read.Gives
        ((parts.named.filter (·.form = .variableDeclarator)).mapM (declarator source))
        fun declarators => ∀ part ∈ declarators, part.Fills p f [.variableDeclarator] := by
      refine Read.gives_mapM _ _ fun r hr => ?_
      obtain ⟨hMem, hDeclarator⟩ := List.mem_filter.1 hr
      exact declarator_fills hp (hNamed r hMem) (by simpa using hDeclarator)
    refine hDeclarators.bind fun declarators hDeclarators => ?_
    have hEnd (kind : Text) : (Node.variableDeclaration span kind declarators).Composed p f := by
      simpa using hDeclarators
    dsimp only
    split
    · exact .skip fun kind => .pure (hEnd kind)
    · exact .pure (hEnd _)
  case ifStatement =>
    have hRest (alternate : Option Node)
        (hAlternate : ∀ tree ∈ alternate, p tree) : Read.Gives (do
          let test ← parts.node "condition"
          let consequent ← parts.node "consequence"
          return .ifStatement span test consequent alternate)
          (Composed p f) := by
      refine (hNode "condition").bind fun test hTest => ?_
      refine (hNode "consequence").bind fun consequent hConsequent => ?_
      exact .pure (by simpa using ⟨hTest, hConsequent, hAlternate⟩)
    dsimp only
    split
    · rename_i r hFind
      refine (gives_operand (holds_find? h.holds hFind).parts).bind fun alternate hAlternate => ?_
      exact hRest (some alternate) (by simpa using hAlternate)
    · exact hRest none (by simp)
  case switchStatement =>
    refine (gives_get_find? "body").bind fun body hBody => ?_
    have hSits := hp.sits h body (mem_of_find? hBody).1
    have hCases : Read.Gives (body.parts.named.mapM (switchCase source))
        fun cases => ∀ part ∈ cases, part.Fills p f [.switchCase] :=
      Read.gives_mapM _ _ fun r hr =>
        switchCase_fills hp (hp.sits (hp.parts hSits) r (mem_of_named hr))
    refine hCases.bind fun cases hCases => ?_
    refine (hNode "value").bind fun discriminant hDiscriminant => ?_
    exact .pure (by simpa using And.intro hDiscriminant hCases)
  case forStatement =>
    refine (loopClause_holds h.holds "initializer").bind fun init hInit => ?_
    refine (loopClause_holds h.holds "condition").bind fun test hTest => ?_
    refine (loopClause_holds h.holds "increment").bind fun step hStep => ?_
    refine (hNode "body").bind fun body hBody => ?_
    exact .pure (by simpa using ⟨hInit, hTest, hStep, hBody⟩)
  case numberLiteral =>
    refine .skip fun raw => ?_
    split
    · exact .pure (by simp)
    · exact Read.gives_error _
  case templateString =>
    refine (templateParts_holds _ _ h.holds).bind fun found hFound => ?_
    exact .pure (by simpa using hFound)
  case arrayLiteral | arrayPattern =>
    refine (elements_gives true fun r hr => (h.holds r hr).node).bind fun elements hElements => ?_
    refine .pure ⟨fun part hPart => ?_, by simp⟩
    obtain ⟨element, hElement, hPart⟩ := List.mem_flatMap.1 hPart
    exact hElements element hElement part (Option.mem_toList.1 hPart)
  case objectLiteral =>
    refine (Read.gives_mapM _ _ fun r hr => objectMember_fills hp (hNamed r hr)).bind
      fun members hMembers => ?_
    exact .pure (by simpa using hMembers)
  case objectPattern =>
    refine (Read.gives_mapM _ _ fun r hr => patternMember_fills hp (hNamed r hr)).bind
      fun members hMembers => ?_
    exact .pure (by simpa using hMembers)
  case sequenceExpression =>
    refine (sequenceItems_holds hp (holds_named h.holds)).bind fun items hItems => ?_
    exact .pure (by simpa using hItems)
  case newExpression =>
    refine (hNode "constructor").bind fun callee hCallee => ?_
    have hEnd (items : List Node) (hItems : ∀ tree ∈ items, p tree) :
        (Node.newExpression span callee items).Composed p f := by
      simpa using And.intro hCallee hItems
    dsimp only
    split
    · rename_i r hFind
      exact (gives_nodes (holds_find? h.holds hFind).parts).bind fun items hItems =>
        .pure (hEnd items hItems)
    · exact .pure (hEnd [] (by simp))
  -- The other forms build one node from parts that are read in place.
  all_goals simp only [Read.gives_bind, Read.gives_pure, Read.gives_refuse]
  all_goals
    intros
    simp <;> grind [Read.Gives]

end Frames

/-! ## Roots -/

/-- What is read at a concrete node is of a kind that goes with its form, and it stands there. -/
theorem linkAt_root : (linkAt source shape parts span).Gives fun tree =>
    (source.spanOf shape = .ok span → tree.span = span) ∧ tree.kind ∈ shape.form.kinds := by
  have hRoot {node : Node} (hSpan : node.span = span) (hKind : node.kind ∈ shape.form.kinds) :
      (source.spanOf shape = .ok span → node.span = span) ∧ node.kind ∈ shape.form.kinds :=
    ⟨fun _ => hSpan, hKind⟩
  unfold linkAt
  generalize shape.form = form at hRoot ⊢
  cases form
  case identifier | propertyIdentifier | shorthandPropertyIdentifier
    | shorthandPropertyIdentifierPattern | statementIdentifier | undefinedName =>
    refine Read.gives_place _ _ _ fun place hPlace => ?_
    refine .skip fun name => .pure ⟨fun hSpan => ?_, ?_⟩
    · exact Except.ok.inj (hPlace.symm.trans hSpan)
    · simp [Form.kinds, Node.kind]
  case forInStatement =>
    simp only [forEach, Read.gives_bind]
    intro target _ pattern _
    split <;> simp only [Read.gives_bind] <;> intros <;> split <;>
      exact .pure (hRoot rfl (by simp [Form.kinds, Node.kind]))
  case tryStatement =>
    dsimp only [tryStatement]
    split <;> split <;> simp only [Read.gives_bind, Read.gives_pure] <;> intros <;>
      exact hRoot rfl (by simp [Form.kinds, Node.kind])
  -- The other forms build one node, in some cases after a choice between two ways to read a part.
  all_goals
    simp only [function, arrow, classNode, call, member, binary, update, assignment, regex,
      metaProperty, Read.gives_bind, Read.gives_pure, Read.gives_refuse]
  all_goals intros
  case variableDeclaration | lexicalDeclaration | ifStatement | newExpression | arrowFunction
    | binaryExpression | updateExpression | numberLiteral =>
    split <;> simp only [Read.gives_bind, Read.gives_pure, Read.gives_error] <;> intros <;>
      exact hRoot rfl (by simp [Form.kinds, Node.kind, FunctionForm.kind])
  case callExpression =>
    split
    · exact Read.gives_refuse _ _ _
    · simp only [Read.gives_bind]
      intros
      split <;> simp only [Read.gives_bind, Read.gives_pure] <;> intros <;>
        exact hRoot rfl (by simp [Form.kinds, Node.kind])
  all_goals
    exact hRoot rfl (by simp [Form.kinds, Node.kind, FunctionForm.kind, ClassForm.kind])

theorem metaProperty_framed (hp : Framed p) :
    (metaProperty source shape span).Gives (Composed p p) := by
  have hWord (word : Text) : p (.identifier span word) := (hp _ rfl).2 (by simp)
  exact .skip fun text => .pure (by simp [hWord])

/-- What is read at a concrete node that is no link of a chain, if frames need no place. -/
theorem linkAt_assembled (hp : Framed p) (h : ∀ part ∈ parts, part.Holds p q)
    (hForm : shape.form.isLink = false) :
    (linkAt source shape parts span).Gives (Assembled p) := by
  intro node hNode
  have hParts := (linkAt_composed hp.framable ⟨trivial, h⟩ (fun _ => metaProperty_framed hp)
    hForm).of_eq hNode
  obtain ⟨hBase, hChain⟩ := ends_of_kind hForm (linkAt_root.of_eq hNode).2
  exact ⟨hBase, hChain, hParts.parts⟩

theorem call_extends (h : ∀ part ∈ parts, part.Holds p q) :
    (call source span parts).Gives fun node => node.Assembled p ∨
      ∃ r base, parts.find? "function" = some r ∧ r.link = .ok base ∧ node.Extends p base := by
  refine (gives_get_find? "function").bind fun callee hFind => ?_
  split
  · exact Read.gives_refuse _ _ _
  refine (gives_get h "arguments").bind fun arguments hArguments => ?_
  split
  · refine (holds_find? h hFind).node.bind fun tag hTag => ?_
    refine hArguments.node.bind fun quasi hQuasi => ?_
    refine .pure (.inl ⟨rfl, rfl, ?_⟩)
    simp [hTag, hQuasi]
  · rw [Read.gives_bind]
    intro base hBase
    refine (gives_nodes hArguments.parts).bind fun items hItems => ?_
    refine .pure (.inr ⟨callee, base, hFind, hBase, rfl, items, ?_, hItems⟩)
    simp

theorem member_extends (h : ∀ part ∈ parts, part.Holds p q) (field : String) (computed : Bool) :
    (member span parts field computed).Gives fun node =>
      ∃ r base, parts.find? "object" = some r ∧ r.link = .ok base ∧ node.Extends p base := by
  refine (gives_get_find? "object").bind fun object hFind => ?_
  rw [Read.gives_bind]
  intro base hBase
  refine (gives_node h field).bind fun property hProperty => ?_
  refine .pure ⟨object, base, hFind, hBase, rfl, [property], ?_, ?_⟩
  · simp
  · simpa using hProperty

/-- What is read at a link: it extends what was read before it, or it is a template behind a tag, and
that ends a chain. -/
theorem linkAt_extends (h : ∀ part ∈ parts, part.Holds p q) (hForm : shape.form.isLink = true) :
    (linkAt source shape parts span).Gives fun node => node.Assembled p ∨
      ∃ r base, parts.find? shape.form.baseRole = some r ∧ r.link = .ok base ∧
        node.Extends p base := by
  unfold linkAt
  generalize shape.form = form at hForm
  cases form
  case callExpression => exact call_extends h
  case memberExpression => exact fun node hNode => .inr ((member_extends h _ _).of_eq hNode)
  case subscriptExpression => exact fun node hNode => .inr ((member_extends h _ _).of_eq hNode)
  all_goals cases hForm

/-- What is read at any concrete node, if links are no different from other nodes. -/
theorem linkAt_parts (hp : Framable source c d p f) (h : Parts.Sit d p p shape parts)
    (hMeta : shape.form = .metaProperty → (metaProperty source shape span).Gives (Composed p f)) :
    (linkAt source shape parts span).Gives (Composed p f) := by
  intro node hNode
  cases hLink : shape.form.isLink with
  | false => exact (linkAt_composed hp h hMeta hLink).of_eq hNode
  | true =>
    refine composed_of_parts ?_
    rcases (linkAt_extends h.holds hLink).of_eq hNode with hAssembled |
      ⟨r, base, hFind, hBase, -, others, hParts, hOthers⟩
    · exact hAssembled.parts
    · rw [hParts]
      exact List.forall_mem_cons.2 ⟨(holds_find? h.holds hFind).link.of_eq hBase, hOthers⟩

theorem link_extends (h : ∀ part ∈ parts, part.Holds p q) (hForm : shape.form.isLink = true) :
    (link source shape parts).Gives fun node => node.Assembled p ∨
      ∃ r base, parts.find? shape.form.baseRole = some r ∧ r.link = .ok base ∧
        node.Extends p base := by
  unfold link
  split
  · rename_i hEnclosed
    rw [hEnclosed] at hForm
    cases hForm
  · exact Read.gives_place _ _ _ fun span _ => linkAt_extends h hForm

/-- What is read at a concrete node that is no link: parentheses leave what is in them. -/
theorem link_holds (hp : Compositional p) (h : ∀ part ∈ parts, part.Holds p q)
    (hForm : shape.form.isLink = false) : (link source shape parts).Gives p := by
  unfold link
  split
  · exact gives_operand h
  · refine Read.gives_place _ _ _ fun span _ node hNode => ?_
    exact ((linkAt_assembled hp.framed h hForm).of_eq hNode).of_compositional hp

end Lower

namespace Concrete

open Node

theorem readings_eq_map (source : Source) (trees : List Concrete) :
    readings source trees = trees.map (reading source) := by
  induction trees with
  | nil => rfl
  | cons tree rest ih => simp [readings, ih]

theorem map_shape_readings (source : Source) (trees : List Concrete) :
    (readings source trees).map Reading.shape = trees.map Concrete.shape := by
  rw [readings_eq_map, List.map_map]
  exact List.map_congr_left fun tree _ => shape_reading source tree

theorem forall_readings {source : Source} {trees : List Concrete} {P : Reading → Prop} :
    (∀ r ∈ readings source trees, P r) ↔ ∀ tree ∈ trees, P (reading source tree) := by
  rw [readings_eq_map, List.forall_mem_map]

/-- The first tree is the second one or stands somewhere in it. -/
inductive Within : Concrete → Concrete → Prop
  | self {tree : Concrete} : Within tree tree
  | child {tree child : Concrete} {shape : Shape} {children : List Concrete} :
      child ∈ children → Within tree child → Within tree (.mk shape children)

variable {p q : Node → Prop} {source : Source}

/-- The property of what stands inside of a chain is handed on from each link to the next one. -/
def HandsOn (source : Source) (p q : Node → Prop) (tree : Concrete) : Prop :=
  tree.shape.form.isLink = true → ∀ node base, (reading source tree).link = .ok node →
    node.Extends p base → q base → q node

theorem holds_of_parts (hp : Compositional p) (hOpen : ∀ node, p node → q node)
    (hClose : ∀ node, q node → p (Lower.closeChain node)) {shape : Shape}
    {children : List Concrete} (hLink : HandsOn source p q (.mk shape children))
    (h : ∀ part ∈ readings source children, part.Holds p q) :
    (reading source (.mk shape children)).Holds p q := by
  rw [reading]
  cases hForm : shape.form.isLink with
  | false =>
    have hNode : (Lower.link source shape (readings source children)).Gives p :=
      Lower.link_holds hp h hForm
    exact ⟨_, _, _, _, hNode, fun node hEq => hOpen node (hNode node hEq), h⟩
  | true =>
    have hChain : (Lower.link source shape (readings source children)).Gives q := by
      intro node hNode
      rcases (Lower.link_extends h hForm).of_eq hNode with hAssembled |
        ⟨r, base, hFind, hBase, hExtends⟩
      · exact hOpen node (hAssembled.of_compositional hp)
      · refine hLink hForm node base ?_ hExtends ((Parts.holds_find? h hFind).link.of_eq hBase)
        rw [reading]
        exact hNode
    refine ⟨_, _, _, _, ?_, hChain, h⟩
    cases hEq : Lower.link source shape (readings source children) with
    | error error => exact Read.gives_error error
    | ok link => exact (Read.gives_ok _).2 (hClose link (hChain link hEq))

/-- All that is read in a concrete tree has the property. -/
theorem holds_reading (hp : Compositional p) (hOpen : ∀ node, p node → q node)
    (hClose : ∀ node, q node → p (Lower.closeChain node)) (tree : Concrete)
    (hLink : ∀ part, Within part tree → HandsOn source p q part) :
    (reading source tree).Holds p q := by
  induction tree using Concrete.induction with
  | mk shape children ih =>
    refine holds_of_parts hp hOpen hClose (hLink _ .self) (forall_readings.2 fun child hChild => ?_)
    exact ih child hChild fun part hPart => hLink part (.child hChild hPart)

theorem refuseFault_ne_ok (source : Source) (root : Concrete) (tree : Node) :
    refuseFault source root ≠ .ok tree := by
  have hNone : (refuseFault source root).Gives fun _ : Node => False := by
    unfold refuseFault
    dsimp only
    split
    · exact Read.gives_refuse _ _ _
    · exact .skip fun _ => Read.gives_refuse _ _ _
  exact fun hTree => hNone.of_eq hTree

end Concrete

/-- A program is what is read at the root of its concrete tree. -/
theorem Script.reading_of_parse {script : Script} {program : Node} (h : script.parse = .ok program) :
    (Concrete.reading (.ofText script.code) script.tree).node = .ok program := by
  unfold parse at h
  split at h
  · cases h
  · dsimp only at h
    split at h
    · exact absurd h (Concrete.refuseFault_ne_ok _ _ program)
    · exact h

end Assay
