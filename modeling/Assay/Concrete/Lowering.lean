import Assay.Concrete.Reading
import Assay.Text.Blank

/-!
# From concrete syntax to syntax trees

`Lower.link` gives the syntax tree of one concrete node from the readings of its children,
`Concrete.reading` folds it over a whole concrete tree, and `parse` reads a program: it reports the
first fault of a faulty tree, and otherwise the first construct that has no syntax tree, in the
order in which the parts of each construct are visited.
-/

set_option autoImplicit false

namespace Assay.Lower

/-- The operators that decide whether their right operand is evaluated. -/
def logicalOperators : List String := ["&&", "||", "??"]

/-- Whether a chain of members and calls has an optional link. -/
def hasOptional : Node → Bool
  | .member _ object _ _ optional => optional || hasOptional object
  | .call _ callee _ optional => optional || hasOptional callee
  | _ => false

/-- A chain with an optional link is closed off where it ends. -/
def closeChain (node : Node) : Node :=
  if hasOptional node then .chain node.span node else node

/-- Runs a reader of escapes. -/
def unescape (body : Text) : Read Text :=
  match Escape.resolve body with
  | .ok text => .ok text
  | .error failure => .error (.escape failure)

variable (source : Source)

/-- A name that stands at a shape. -/
def identifier (shape : Shape) : Read Node :=
  source.place shape fun span => return .identifier span (← source.textOf shape)

/-- The key of a property, and whether it is computed. -/
def propertyKey (r : Reading) : Read (Node × Bool) :=
  if r.form = .computedPropertyName then return (← r.parts.operand, true)
  else return (← r.node, false)

/-- The declarator of a variable. -/
def declarator (r : Reading) : Read Node :=
  source.place r.shape fun span =>
    return .variableDeclarator span (← r.parts.node "name") (← r.parts.node? "value")

/-- One case of a switch: its statements are read before its test. -/
def switchCase (r : Reading) : Read Node :=
  source.place r.shape fun span => do
    let consequent ← (r.parts.filter fun p => p.shape.field == "body").mapM (·.node)
    let test ← if r.form = .switchCase then r.parts.node? "value" else pure none
    return .switchCase span test consequent

/-- One of the three clauses in the head of a loop. -/
def loopClause (parts : Parts) (field : String) : Read (Option Node) :=
  match parts.find? field with
  | none => .ok none
  | some r =>
    if r.form = .other ";" || r.form = .emptyStatement then .ok none
    else if r.form = .expressionStatement then return some (← r.parts.operand)
    else return some (← r.node)

/-- A loop over the keys or the items of an object. -/
def forEach (span : Span) (parts : Parts) : Read Node := do
  let target ← parts.get "left"
  let pattern ← target.node
  let left ←
    match parts.find? "kind" with
    | none => pure pattern
    | some kind => do
      let declarator ← source.place target.shape fun span =>
        return Node.variableDeclarator span pattern (← parts.node? "value")
      pure (.variableDeclaration (← source.span kind.shape.start target.shape.stop)
        (← source.textOf kind.shape) [declarator])
  let right ← parts.node "right"
  let body ← parts.node "body"
  let operator ← parts.get "operator"
  if (← source.textOf operator.shape) = ("of" : Text) then
    return .forOfStatement span left right body (parts.hasToken ["await"])
  else return .forInStatement span left right body

/-- A `try` statement: the handlers are read before the block. -/
def tryStatement (span : Span) (parts : Parts) : Read Node := do
  let handler ←
    match parts.find? "handler" with
    | none => pure none
    | some r => do
      let clause ← source.place r.shape fun span =>
        return Node.catchClause span (← r.parts.node? "parameter") (← r.parts.node "body")
      pure (some clause)
  let finalizer ←
    match parts.find? "finalizer" with
    | none => pure none
    | some r => do pure (some (← r.parts.node "body"))
  let block ← parts.node "body"
  return .tryStatement span block handler finalizer

/-- A function with a block as its body. -/
def function (form : FunctionForm) (span : Span) (parts : Parts) : Read Node := do
  let id ← parts.node? "name"
  let params ← (← parts.get "parameters").parts.nodes
  let body ← parts.node "body"
  return .function form span id params body (parts.hasToken ["async"])
    (parts.hasToken ["*"]) false

/-- An arrow function, whose body may be an expression. -/
def arrow (span : Span) (parts : Parts) : Read Node := do
  let params ←
    match parts.find? "parameter" with
    | some r => do pure [← r.node]
    | none => do (← parts.get "parameters").parts.nodes
  let body ← parts.get "body"
  let tree ← body.node
  return .function .arrow span none params tree (parts.hasToken ["async"]) false
    (body.form != .statementBlock)

/-- What a method of a class and a method of an object have in common. -/
structure Method where
  /-- The key. -/
  key : Node
  /-- Whether the key is computed. -/
  computed : Bool
  /-- `get` and `set` for accessors, `init` for others. -/
  kind : Text
  /-- The function, which starts at its parameters. -/
  value : Node

/-- Reads a method. -/
def method (parts : Parts) : Read Method := do
  let (key, computed) ← propertyKey (← parts.get "name")
  let kind : Text :=
    if parts.hasToken ["get", "static get"] then "get"
    else if parts.hasToken ["set"] then "set"
    else "init"
  let head ← parts.get "parameters"
  let body ← parts.get "body"
  let span ← source.span head.shape.start body.shape.stop
  let params ← head.parts.nodes
  let block ← body.node
  return ⟨key, computed, kind,
    .function .expression span none params block (parts.hasToken ["async"])
      (parts.hasToken ["*"]) false⟩

/-- Whether a key is the name `constructor`. -/
def isConstructorName : Node → Bool
  | .identifier _ name => name == ("constructor" : Text)
  | .privateIdentifier _ name => name == ("constructor" : Text)
  | _ => false

/-- The statements of a block. -/
def blockBody : Node → Read (List Node)
  | .blockStatement _ body | .program _ body => .ok body
  | _ => .error .absentPart

/-- A member of a class. -/
def classMember (r : Reading) : Read Node :=
  source.place r.shape fun span => match r.form with
  | .methodDefinition => do
    let m ← method source r.parts
    let static := r.parts.hasToken ["static", "static get"]
    let kind : Text :=
      if m.kind = ("init" : Text) then
        if isConstructorName m.key && !static then "constructor" else "method"
      else m.kind
    return .methodDefinition span m.key m.value kind m.computed static
  | .fieldDefinition => do
    let (key, computed) ← propertyKey (← r.parts.get "property")
    let value ← r.parts.node? "value"
    return .propertyDefinition span key value computed (r.parts.hasToken ["static"])
  | .classStaticBlock => do
    return .staticBlock span (← blockBody (← r.parts.node "body"))
  | form => source.refuse (.unsupportedMember form) r.shape

/-- The class that a class extends: the last one given. -/
def heritage : List Reading → Read (Option Node)
  | [] => .ok none
  | r :: rest =>
    if r.form = .classHeritage then do
      let parent ← r.parts.operand
      return (← heritage rest).getD parent
    else heritage rest

/-- A class: its members are read before its name. -/
def classNode (form : ClassForm) (span : Span) (parts : Parts) : Read Node := do
  let parent ← heritage parts.named
  let body ← parts.get "body"
  let members ← body.parts.named.mapM (classMember source)
  let id ← parts.node? "name"
  return .classNode form span id parent (.classBody (← source.spanOf body.shape) members)

/-- The text of the first child in a role, empty if no child has it. -/
def fieldText (parts : Parts) (field : String) : Read Text :=
  match parts.find? field with
  | some r => source.textOf r.shape
  | none => .ok []

/-- A regular expression with its pattern and its flags. -/
def regex (shape : Shape) (span : Span) (parts : Parts) : Read Node := do
  let raw ← source.textOf shape
  let pattern ← fieldText source parts "pattern"
  let flags ← fieldText source parts "flags"
  return .literal span .null (some raw) (some (pattern, flags))

/-- A fixed part of a template. -/
def quasi (start stop : Int) (tail : Bool) : Read Quasi := do
  let raw ← source.text start stop
  return ⟨← source.span start stop, raw, ← unescape raw, tail⟩

/-- The parts of a template from a byte offset on: a fixed part before each substitution and one at
the end. -/
def templateParts (stop : Int) : Int → List Reading → Read (List Quasi × List Node)
  | cursor, [] => return ([← quasi source cursor (stop - 1) true], [])
  | cursor, r :: rest =>
    if r.shape.named && r.form = .templateSubstitution then do
      let fixed ← quasi source cursor r.shape.start false
      let expression ← r.parts.operand
      let (quasis, expressions) ← templateParts stop r.shape.stop rest
      return (fixed :: quasis, expression :: expressions)
    else templateParts stop cursor rest

/-- The elements of an array: a comma where an element is expected leaves a hole. -/
def elements : Bool → List Reading → Read (List (Option Node))
  | _, [] => .ok []
  | expecting, r :: rest =>
    if r.form.isNoise || r.form = .other "[" || r.form = .other "]" then elements expecting rest
    else if r.form = .other "," then
      if expecting then return none :: (← elements true rest) else elements true rest
    else do
      let element ← r.node
      return some element :: (← elements false rest)

/-- A property whose name is also its value. -/
def shorthand (shape : Shape) : Read Node :=
  source.place shape fun span => do
    let name ← identifier source shape
    return .property span name name "init" false true false

/-- A property with a key and a value. -/
def pair (r : Reading) : Read Node :=
  source.place r.shape fun span => do
    let (key, computed) ← propertyKey (← r.parts.get "key")
    let value ← r.parts.node "value"
    return .property span key value "init" computed false false

/-- A property of an object. -/
def objectMember (r : Reading) : Read Node :=
  match r.form with
  | .pair => pair source r
  | .shorthandPropertyIdentifier => shorthand source r.shape
  | .methodDefinition =>
    source.place r.shape fun span => do
      let m ← method source r.parts
      return .property span m.key m.value m.kind m.computed false (m.kind = ("init" : Text))
  | _ => r.node

/-- A property of an object pattern. -/
def patternMember (r : Reading) : Read Node :=
  match r.form with
  | .pairPattern => pair source r
  | .shorthandPropertyIdentifierPattern => shorthand source r.shape
  | .objectAssignmentPattern =>
    source.place r.shape fun span => do
      let left ← r.parts.node "left"
      let right ← r.parts.node "right"
      return .property span left (.assignmentPattern span left right) "init" false true false
  | _ => r.node

/-- An operator between two operands. -/
def binary (span : Span) (parts : Parts) : Read Node := do
  let operator := (← parts.get "operator").form.name
  let left ← parts.node "left"
  let right ← parts.node "right"
  if logicalOperators.contains operator then
    return .logical span left operator right
  else return .binary span left operator right

/-- An assignment; without an operator it is a plain one. -/
def assignment (span : Span) (parts : Parts) : Read Node := do
  let operator :=
    match parts.find? "operator" with
    | some r => r.form.name
    | none => "="
  let left ← parts.node "left"
  let right ← parts.node "right"
  return .assignment span left operator right

/-- An increment or a decrement. -/
def update (span : Span) (parts : Parts) : Read Node := do
  let operator := (← parts.get "operator").form.name
  let leading ←
    match parts with
    | [] => .error .absentOperand
    | r :: _ => pure (["++", "--"].contains r.form.name)
  let argument ← parts.node "argument"
  return .update span operator leading argument

/-- A call, as a link of its chain; a call with a template is a tagged template. -/
def call (span : Span) (parts : Parts) : Read Node := do
  let callee ← parts.get "function"
  if callee.form = .importKeyword then source.refuse (.unsupported .importKeyword) callee.shape
  else
    let arguments ← parts.get "arguments"
    if arguments.form = .templateString then
      return .taggedTemplate span (← callee.node) (← arguments.node)
    else
      return .call span (← callee.link) (← arguments.parts.nodes) parts.isOptional

/-- A member, as a link of its chain. -/
def member (span : Span) (parts : Parts) (field : String) (computed : Bool) : Read Node := do
  let object ← (← parts.get "object").link
  let property ← parts.node field
  return .member span object property computed parts.isOptional

/-- The expressions of a sequence; a sequence inside of it is spliced in. -/
def sequenceItems : List Reading → Read (List Node)
  | [] => .ok []
  | r :: rest => do
    let items :=
      match ← r.node with
      | .sequence span expressions =>
        if r.form = .sequenceExpression then expressions else [.sequence span expressions]
      | expression => [expression]
    return items ++ (← sequenceItems rest)

/-- A meta property such as `new.target`, cut at its first dot. -/
def metaProperty (shape : Shape) (span : Span) : Read Node := do
  let (head, tail) := (← source.textOf shape).cutAt '.'
  return .metaProperty span (.identifier span (Text.strip head))
    (.identifier span (Text.strip tail))

/-- The syntax tree of one concrete node at a span, chains left open. -/
def linkAt (shape : Shape) (parts : Parts) (span : Span) : Read Node :=
  match shape.form with
  | .program => return .program span (← parts.nodes)
  | .expressionStatement => return .expressionStatement span (← parts.operand)
  | .variableDeclaration | .lexicalDeclaration => do
    let declarators ←
      (parts.named.filter (·.form = .variableDeclarator)).mapM (declarator source)
    let kind ←
      match parts.find? "kind" with
      | some r => source.textOf r.shape
      | none => pure "var"
    return .variableDeclaration span kind declarators
  | .statementBlock => return .blockStatement span (← parts.nodes)
  | .emptyStatement => return .emptyStatement span
  | .debuggerStatement => return .debuggerStatement span
  | .ifStatement => do
    let alternate ←
      match parts.find? "alternative" with
      | some r => do pure (some (← r.parts.operand))
      | none => pure none
    let test ← parts.node "condition"
    let consequent ← parts.node "consequence"
    return .ifStatement span test consequent alternate
  | .switchStatement => do
    let cases ← (← parts.get "body").parts.named.mapM (switchCase source)
    return .switchStatement span (← parts.node "value") cases
  | .forStatement =>
    return .forStatement span (← loopClause parts "initializer") (← loopClause parts "condition")
      (← loopClause parts "increment") (← parts.node "body")
  | .forInStatement => forEach source span parts
  | .whileStatement =>
    return .whileStatement span (← parts.node "condition") (← parts.node "body")
  | .doStatement => return .doWhileStatement span (← parts.node "body") (← parts.node "condition")
  | .tryStatement => tryStatement source span parts
  | .returnStatement => return .returnStatement span (← parts.operand?)
  | .throwStatement => return .throwStatement span (← parts.operand?)
  | .breakStatement => return .breakStatement span (← parts.node? "label")
  | .continueStatement => return .continueStatement span (← parts.node? "label")
  | .labeledStatement =>
    return .labeledStatement span (← parts.node "label") (← parts.node "body")
  | .functionDeclaration | .generatorFunctionDeclaration =>
    function .declaration span parts
  | .classDeclaration => classNode source .declaration span parts
  | .identifier | .propertyIdentifier | .shorthandPropertyIdentifier
  | .shorthandPropertyIdentifierPattern | .statementIdentifier | .undefinedName =>
    identifier source shape
  | .privatePropertyIdentifier => do
    let raw ← source.textOf shape
    return .privateIdentifier span (raw.dropWhile fun (c : CodePoint) => c == '#')
  | .thisKeyword => return .thisExpression span
  | .superKeyword => return .superReference span
  | .trueKeyword => return .literal span (.bool true) (some "true") none
  | .falseKeyword => return .literal span (.bool false) (some "false") none
  | .nullKeyword => return .literal span .null (some "null") none
  | .numberLiteral => do
    let raw ← source.textOf shape
    match Numeral.read raw with
    | .ok value => return .literal span value (some raw) none
    | .error failure => .error (.numeral failure)
  | .stringLiteral => do
    let raw ← source.textOf shape
    return .literal span (.text (← unescape (raw.drop 1).dropLast)) (some raw) none
  | .regexLiteral => regex source shape span parts
  | .templateString => do
    let (quasis, expressions) ← templateParts source shape.stop (shape.start + 1) parts
    return .templateLiteral span quasis expressions
  | .arrayLiteral => return .arrayExpression span (← elements true parts)
  | .objectLiteral => return .objectExpression span (← parts.named.mapM (objectMember source))
  | .binaryExpression => binary span parts
  | .unaryExpression =>
    return .unary span (← parts.get "operator").form.name (← parts.node "argument")
  | .updateExpression => update span parts
  | .assignmentExpression | .augmentedAssignmentExpression => assignment span parts
  | .ternaryExpression =>
    return .conditional span (← parts.node "condition") (← parts.node "consequence")
      (← parts.node "alternative")
  | .callExpression => call source span parts
  | .newExpression => do
    let callee ← parts.node "constructor"
    let arguments ←
      match parts.find? "arguments" with
      | some r => r.parts.nodes
      | none => pure []
    return .newExpression span callee arguments
  | .memberExpression => member span parts "property" false
  | .subscriptExpression => member span parts "index" true
  | .sequenceExpression => return .sequence span (← sequenceItems parts.named)
  | .awaitExpression => return .awaitExpression span (← parts.operand)
  | .yieldExpression =>
    return .yieldExpression span (← parts.operand?) (parts.hasToken ["*"])
  | .spreadElement => return .spreadElement span (← parts.operand)
  | .metaProperty => metaProperty source shape span
  | .arrowFunction => arrow span parts
  | .functionExpression | .functionKeyword | .generatorFunction =>
    function .expression span parts
  | .classKeyword => classNode source .expression span parts
  | .objectPattern => return .objectPattern span (← parts.named.mapM (patternMember source))
  | .arrayPattern => return .arrayPattern span (← elements true parts)
  | .assignmentPattern =>
    return .assignmentPattern span (← parts.node "left") (← parts.node "right")
  | .restPattern => return .restElement span (← parts.operand)
  | form => source.refuse (.unsupported form) shape

/-- The syntax tree of one concrete node, chains left open; parentheses have no place of their own
in it. -/
def link (shape : Shape) (parts : Parts) : Read Node :=
  if shape.form = .parenthesizedExpression then parts.operand
  else source.place shape (linkAt source shape parts)

end Assay.Lower

namespace Assay

mutual

/-- Annotates a concrete tree with the syntax trees of its nodes. -/
def Concrete.reading (source : Source) : Concrete → Reading
  | .mk shape children =>
    let parts := Concrete.readings source children
    let link := Lower.link source shape parts
    let node := if shape.form.isLink then link.map Lower.closeChain else link
    .mk shape node link parts

/-- Annotates the concrete trees of a list. -/
def Concrete.readings (source : Source) : List Concrete → List Reading
  | [] => []
  | tree :: rest => Concrete.reading source tree :: Concrete.readings source rest

end

/-- A program as it comes from the grammar: its text and its concrete tree. -/
structure Script where
  /-- The text. -/
  code : Text
  /-- The concrete tree of the text. -/
  tree : Concrete

/-- The syntax tree of a program. -/
def Script.parse (script : Script) : Read Node :=
  if script.code.hasSurrogate then .error .notEncodable
  else
    let source := Source.ofText script.code
    if script.tree.shape.faulty then Concrete.refuseFault source script.tree
    else (Concrete.reading source script.tree).node

end Assay
