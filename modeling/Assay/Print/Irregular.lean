import Assay.Data.Key
import Assay.Print.Printer
import Assay.Tree.Regular
import Assay.Tree.Walk

/-!
# Printing views of any shape

A view need not be regular: a field may hold nothing where its kind asks for a node, a number where
it asks for a text, or nothing among the items of a list. `View.print` prints such a view as far as
it goes. Nothing among the items of any list leaves a hole, what stands in a running text is
displayed there, and the first thing that cannot stand where it does is the error. A node whose
text is taken from a field, such as a name, has that field for its text whatever it holds, so the
text of a view is a view again. A regular view prints as its syntax tree does.

The text of a node depends on its kind and on the texts of what its fields hold, so a view is
printed from the leaves up: a `Piece` is a view together with the texts of its parts.
-/

set_option autoImplicit false

namespace Assay

namespace Print

/-- A view, its items or the fields of its node, whether a call is at the root of its members, and
its text at each level. -/
inductive Piece where
  | mk (view : View) (items : List Piece) (fields : List (String × Piece)) (hasCall : Bool)
    (text : Nat → Except PrintError View)

namespace Piece

/-- The view. -/
def view : Piece → View
  | .mk view _ _ _ _ => view

/-- Whether a call or an optional chain is at the root of a chain of members. -/
def hasCall : Piece → Bool
  | .mk _ _ _ hasCall _ => hasCall

/-- The text at the given level. -/
def text (level : Nat) : Piece → Except PrintError View
  | .mk _ _ _ _ text => text level

/-- What is no node: it has no text of its own. -/
def ofData (value : Data) : Piece :=
  .mk (.data value) [] [] false fun _ => .error .missingPart

/-- What the named field of a node holds. -/
def field (piece : Piece) (name : String) : Except PrintError Piece :=
  match piece with
  | .mk _ _ fields _ _ =>
    match fields.find? (·.1 == name) with
    | some entry => .ok entry.2
    | none => .error .missingPart

/-- Whether there is nothing. -/
def isNull (piece : Piece) : Bool :=
  match piece.view with
  | .data .null => true
  | _ => false

/-- Whether a piece counts as true; nodes do. -/
def isTruthy (piece : Piece) : Bool :=
  match piece.view with
  | .data value => value.isTruthy
  | .tuple items | .list items => !items.isEmpty
  | .node .. => true

/-- Whether a piece is the given text. -/
def isText (piece : Piece) (word : String) : Bool :=
  match piece.view with
  | .data (.text value) => value == Text.ofString word
  | _ => false

/-- Whether a piece is a node of one of the given kinds. -/
def isOf (piece : Piece) (kinds : List Kind) : Bool :=
  piece.view.kind?.any kinds.contains

/-- What a piece runs through: its items, or the characters of a text. -/
def elements (piece : Piece) : Except PrintError (List Piece) :=
  match piece with
  | .mk (.list _) items _ _ _ | .mk (.tuple _) items _ _ _ => .ok items
  | .mk (.data value) _ _ _ _ =>
    match value.elements? with
    | some elements => .ok (elements.map ofData)
    | none => .error .wrongType
  | _ => .error .wrongType

end Piece

/-- The texts that printing gives and the reasons for which there is none. -/
abbrev Printed (α : Type) := Except PrintError α

/-- A text as a view. -/
def asText (t : Text) : View := .data (.text t)

/-- A view that has to be a text. -/
def needText : View → Printed Text
  | .data (.text value) => .ok value
  | _ => .error .wrongType

/-- A view inside of a running text. -/
def shown (view : View) : Printed Text :=
  match view.plain? with
  | some text => .ok text
  | none => .error .tooManyDigits

/-- The sum of two numbers, which is a float if one of them is. -/
def sum : Data → Data → Data
  | .float a, b => .float (a + b.toFloat)
  | a, .float b => .float (a.toFloat + b)
  | a, b => .int (a.whole?.getD 0 + b.whole?.getD 0)

/-- Two views one after the other: texts and lists are joined, numbers added. -/
def plus : View → View → Printed View
  | .data (.text a), .data (.text b) => .ok (asText (a ++ b))
  | .list a, .list b => .ok (.list (a ++ b))
  | .data a, .data b =>
    if a.isNumber && b.isNumber then .ok (.data (sum a b)) else .error .wrongType
  | _, _ => .error .wrongType

namespace Piece

/-- The text of a piece, which has to be a text. -/
def textOnly (level : Nat) (piece : Piece) : Printed Text := do needText (← piece.text level)

/-- The text of a piece inside of a running text. -/
def shownText (level : Nat) (piece : Piece) : Printed Text := do shown (← piece.text level)

/-- The text of a piece after `lead`, or nothing if there is no piece. -/
def after (level : Nat) (lead : Text) (piece : Piece) : Printed Text :=
  if piece.isNull then .ok [] else return lead ++ (← piece.textOnly level)

/-- The text of a piece, between parentheses if they are needed. -/
def wrapped (level : Nat) (parens : Bool) (piece : Piece) : Printed View := do
  let text ← piece.text level
  if parens then return asText (wrap true (← shown text)) else return text

/-- The pieces that one runs through, each as an indented line. -/
def lines (level : Nat) (piece : Piece) : Printed (List Text) := do
  (← piece.elements).mapM fun item => return indent level ++ (← item.textOnly level)

/-- The lines of a piece between braces; what counts as false has none. -/
def block (level : Nat) (separator : Text) (piece : Piece) : Printed Text := do
  if piece.isTruthy then return braces level separator (← piece.lines (level + 1))
  else return braces level separator []

/-- The pieces that one runs through, with commas between them; nothing leaves a hole. -/
def listed (level : Nat) (piece : Piece) : Printed Text := do
  let items ← piece.elements
  let texts ← items.mapM fun item => if item.isNull then pure (asText []) else item.text level
  let closing : Text := if items.getLast?.any isNull then "," else []
  return commas (← texts.mapM needText) ++ closing

/-- The text of a key, between brackets if it is computed. -/
def key (level : Nat) (piece computed : Piece) : Printed View := do
  if computed.isTruthy then return asText (keyText true (← piece.shownText level))
  else piece.text level

/-- How tightly a piece holds together, which has to be a node. -/
def rank (piece : Piece) : Printed Nat :=
  match piece.view.kind? with
  | some kind => .ok (kindRank kind)
  | none => .error .missingPart

/-- The rank of an operator, which must have one. -/
def operatorRank (operator : Piece) : Printed Nat :=
  match operator.view with
  | .list _ => .error .wrongType
  | .data (.text name) => Print.operatorRank name
  | view => do throw (.unknownOperator (← shown view))

/-- The first element of an operator. -/
def first (operator : Piece) : Printed View := do
  match operator.view with
  | .data (.text _) | .list _ =>
    match ← operator.elements with
    | item :: _ => return item.view
    | [] => throw .emptyOperator
  | _ => throw .wrongType

/-- Whether an operand on the given side of an operator needs parentheses, where `parent` is the
precedence of the whole. -/
def needsParens (operand : Piece) (parent : Nat) (operator : Piece) (side : Side) :
    Printed Bool := do
  let own ← operand.rank
  if own = wrappedRank then return true
  else if own ≠ parent then
    return side = .left && own = 15 && parent = 14 && operator.isText "**" || own < parent
  else
    let inner ← operand.field "operator"
    if inner.isText "**" && operator.isText "**" then return side = .left
    else if own = 13 && (inner.isText "??" || operator.isText "??") then return true
    else
      let innerRank ← inner.operatorRank
      let outerRank ← operator.operatorRank
      return if side = .right then innerRank ≤ outerRank else innerRank < outerRank

/-- Whether a callee or the object of a member needs parentheses. -/
def wrapsAsTarget (target : Piece) : Printed Bool :=
  return (← target.rank) < 19 || target.isOf [.chainExpression]

/-- Whether a piece is the literal of a number. -/
def isNumber (piece : Piece) : Printed Bool := do
  if piece.isOf [.literal] then
    match (← piece.field "value").view with
    | .data (.int _) | .data (.float _) => return true
    | _ => return false
  else return false

/-- Whether a unary operator needs a space before an argument that has no parentheses. -/
def needsSpace (operator argument : Piece) : Printed Bool := do
  match operator.view with
  | .data (.text name) =>
    if name.isAlphabetic then return true
    else if argument.isOf [.unaryExpression, .updateExpression] then
      let inner ← (← argument.field "operator").first
      let outer ← operator.first
      match inner, outer with
      | .data (.text a), .data (.text b) => return a == b
      | _, _ => return false
    else return false
  | _ => throw .missingPart

/-- The parameters and the body of a method behind its key. -/
def method (level : Nat) (lead : Text) (key : View) (function : Piece) : Printed View := do
  let isAsync ← function.field "is_async"
  let isGenerator ← function.field "generator"
  let keyPart ← shown key
  return asText (lead ++ methodLead isAsync.isTruthy isGenerator.isTruthy ++ keyPart ++ "(" ++
    (← (← function.field "params").listed level) ++ ") " ++
    (← (← function.field "body").shownText level))

/-- Whether a piece names one of the two kinds of accessors. -/
def isAccessor (kind : Piece) : Bool := kind.isText "get" || kind.isText "set"

/-- The words before the name of an accessor, if the method is one. -/
def accessorWords (kind : Piece) : Text :=
  if kind.isText "get" then "get " else if kind.isText "set" then "set " else ""

/-- A declaration without the semicolon. -/
def declaration (level : Nat) (piece : Piece) : Printed Text := do
  return (← shown (← piece.field "kind").view) ++ " " ++
    (← (← piece.field "declarations").listed level)

/-- What the head of a loop starts with. -/
def loopHead (level : Nat) (piece : Piece) : Printed View := do
  if piece.isNull then return asText []
  else if piece.isOf [.variableDeclaration] then return asText (← piece.declaration level)
  else piece.text level

/-- The pattern and the flags of a regular expression. -/
def twoParts (regex : Piece) : Printed (Text × Text) := do
  match ← regex.elements with
  | [pattern, flags] => return (← shown pattern.view, ← shown flags.view)
  | parts => throw (.notTwo parts.length)

/-- The text of a literal. -/
def literal (value raw regex : Piece) : Printed View := do
  if !regex.isNull then
    let (pattern, flags) ← regex.twoParts
    return asText ("/" ++ pattern ++ "/" ++ flags)
  else match value.view with
    | .data (.bool flag) => return asText (if flag then "true" else "false")
    | .data .null => return asText "null"
    | view =>
      if !raw.isNull then return raw.view
      else match view with
        | .data (.text t) => return asText (Json.quote t)
        | view =>
          match view.display? with
          | some t => return asText t
          | none => throw .tooManyDigits

/-- The parts of a template: each fixed part is followed by the substitution with its number. -/
def templateParts (level : Nat) (expressions : Piece) : Nat → List Piece → Printed (List View)
  | _, [] => .ok []
  | index, quasi :: rest => do
    let raw ← quasi.field "raw"
    let inside ← expressions.elements
    let substitution ←
      match inside[index]? with
      | some expression => do pure [asText ("$\x7b" ++ (← expression.textOnly level) ++ "\x7d")]
      | none => pure []
    return raw.view :: substitution ++ (← templateParts level expressions (index + 1) rest)

end Piece

/-- The text of a node of the given kind, where `get` gives the piece in a field. -/
def pieceText (kind : Kind) (get : String → Piece) (level : Nat) : Printed View :=
  match kind with
  | .anyNode | .anyStatement | .anyDeclaration | .anyExpression | .anyPattern | .anyFunction
  | .templateElement => .error (.unprintable kind)
  | .program => return asText (Text.join "\n" (← (get "body").lines level))
  | .expressionStatement =>
    return asText (statementText (← (get "expression").textOnly level))
  | .blockStatement | .classBody => return asText (← (get "body").block level "")
  | .staticBlock => return asText ("static " ++ (← (get "body").block level ""))
  | .emptyStatement => return asText ";"
  | .debuggerStatement => return asText "debugger;"
  | .returnStatement => do
    if (get "argument").isNull then return asText "return;"
    else return asText ("return " ++ (← (get "argument").shownText level) ++ ";")
  | .throwStatement => return asText ("throw " ++ (← (get "argument").shownText level) ++ ";")
  | .breakStatement => do
    if (get "label").isNull then return asText "break;"
    else return asText ("break " ++ (← (get "label").shownText level) ++ ";")
  | .continueStatement => do
    if (get "label").isNull then return asText "continue;"
    else return asText ("continue " ++ (← (get "label").shownText level) ++ ";")
  | .labeledStatement =>
    return asText ((← (get "label").shownText level) ++ ": " ++ (← (get "body").shownText level))
  | .ifStatement => do
    let alternate := get "alternate"
    let consequent := get "consequent"
    let consequentText ←
      if alternate.isNull || consequent.isOf [.blockStatement] then consequent.text level
      else do
        let line ← consequent.textOnly (level + 1)
        pure (asText (braces level "" [indent (level + 1) ++ line]))
    let testText ← (get "test").shownText level
    let head := "if (" ++ testText ++ ") " ++ (← shown consequentText)
    if alternate.isNull then return asText head
    else return asText (head ++ " else " ++ (← alternate.shownText level))
  | .switchStatement =>
    return asText ("switch (" ++ (← (get "discriminant").shownText level) ++ ") " ++
      (← (get "cases").block level ""))
  | .switchCase => do
    let head : Text ←
      if (get "test").isNull then pure "default:"
      else do pure ("case " ++ (← (get "test").shownText level) ++ ":")
    return asText (Text.join "\n" (head :: (← (get "consequent").lines (level + 1))))
  | .whileStatement =>
    return asText ("while (" ++ (← (get "test").shownText level) ++ ") " ++
      (← (get "body").shownText level))
  | .doWhileStatement =>
    return asText ("do " ++ (← (get "body").shownText level) ++ " while (" ++
      (← (get "test").shownText level) ++ ");")
  | .forStatement => do
    let head ← needText (← (get "init").loopHead level)
    let test ← (get "test").after level " "
    let update ← (get "update").after level " "
    return asText ("for (" ++ head ++ ";" ++ test ++ ";" ++ update ++ ") " ++
      (← (get "body").shownText level))
  | .forInStatement =>
    return asText ("for (" ++ (← shown (← (get "left").loopHead level)) ++ " in " ++
      (← (get "right").shownText level) ++ ") " ++ (← (get "body").shownText level))
  | .forOfStatement =>
    return asText ((if (get "is_await").isTruthy then "for await" else "for") ++ " (" ++
      (← shown (← (get "left").loopHead level)) ++ " of " ++ (← (get "right").shownText level) ++
      ") " ++ (← (get "body").shownText level))
  | .tryStatement => do
    let block ← (get "block").textOnly level
    let handler ← (get "handler").after level " "
    return asText ("try " ++ block ++ handler ++ (← (get "finalizer").after level " finally "))
  | .catchClause => do
    if (get "param").isNull then return asText ("catch " ++ (← (get "body").textOnly level))
    else
      return asText ("catch (" ++ (← (get "param").shownText level) ++ ") " ++
        (← (get "body").shownText level))
  | .variableDeclaration =>
    return asText ((← shown (get "kind").view) ++ " " ++ (← (get "declarations").listed level) ++
      ";")
  | .variableDeclarator => do
    if (get "init").isNull then (get "id").text level
    else
      return asText ((← (get "id").shownText level) ++ " = " ++ (← (get "init").shownText level))
  | .functionDeclaration | .functionExpression => do
    let name ← (get "id").after level " "
    return asText (functionLead (get "is_async").isTruthy (get "generator").isTruthy ++ name ++
      "(" ++ (← (get "params").listed level) ++ ") " ++ (← (get "body").shownText level))
  | .arrowFunctionExpression => do
    let body ← (get "body").wrapped level
      ((get "expression").isTruthy && (get "body").isOf [.objectExpression])
    return asText ((if (get "is_async").isTruthy then "async " else "") ++ "(" ++
      (← (get "params").listed level) ++ ") => " ++ (← shown body))
  | .anyClass | .classDeclaration | .classExpression => do
    let name ← (get "id").after level " "
    let parent := get "super_class"
    let plain := parent.isOf [.identifier, .memberExpression, .callExpression]
    let parentText : Text ←
      if parent.isNull then pure []
      else do pure (" extends " ++ (← needText (← parent.wrapped level !plain)))
    return asText ("class" ++ name ++ parentText ++ " " ++ (← (get "body").shownText level))
  | .methodDefinition => do
    let keyPart ← (get "key").key level (get "computed")
    (get "value").method level
      (staticLead (get "static").isTruthy ++ (get "kind").accessorWords) keyPart
  | .propertyDefinition => do
    let keyPart ← needText (← (get "key").key level (get "computed"))
    return asText (staticLead (get "static").isTruthy ++ keyPart ++
      (← (get "value").after level " = ") ++ ";")
  | .identifier => return (get "name").view
  | .privateIdentifier => return asText ("#" ++ (← needText (get "name").view))
  | .literal => (get "value").literal (get "raw") (get "regex")
  | .templateLiteral => do
    let parts ← Piece.templateParts level (get "expressions") 0 (← (get "quasis").elements)
    return asText ("`" ++ Text.join [] (← parts.mapM needText) ++ "`")
  | .taggedTemplateExpression => do
    let tag ← (get "tag").wrapped level (← (get "tag").wrapsAsTarget)
    plus tag (← (get "quasi").text level)
  | .thisExpression => return asText "this"
  | .superReference => return asText "super"
  | .metaProperty =>
    return asText ((← (get "meta").shownText level) ++ "." ++
      (← (get "property").shownText level))
  | .arrayExpression | .arrayPattern =>
    return asText ("[" ++ (← (get "elements").listed level) ++ "]")
  | .objectExpression => return asText (← (get "properties").block level ",")
  | .objectPattern => do
    if (get "properties").isTruthy then
      return asText ("\x7b" ++ (← (get "properties").listed level) ++ "\x7d")
    else return asText "\x7b\x7d"
  | .property => do
    let keyPart ← (get "key").key level (get "computed")
    let value := get "value"
    if (get "kind").isAccessor || (get "method").isTruthy then
      value.method level (get "kind").accessorWords keyPart
    else if (get "shorthand").isTruthy then value.text level
    else return asText ((← shown keyPart) ++ ": " ++ (← value.shownText level))
  | .spreadElement | .restElement => return asText ("..." ++ (← (get "argument").textOnly level))
  | .unaryExpression => do
    let argument := get "argument"
    let parens := (← argument.rank) < 15
    let space ← if parens then pure false else (get "operator").needsSpace argument
    let argumentText ← argument.wrapped level parens
    return asText ((← needText (get "operator").view) ++ (if space then " " else "") ++
      (← needText argumentText))
  | .updateExpression => do
    let argument := get "argument"
    let argumentText ← argument.wrapped level ((← argument.rank) < 19)
    if (get "prefix").isTruthy then plus (get "operator").view argumentText
    else plus argumentText (get "operator").view
  | .binaryExpression | .logicalExpression => do
    let operator := get "operator"
    let leftParens ← (get "left").needsParens (kindRank kind) operator .left
    let left ← (get "left").wrapped level leftParens
    let rightParens ← (get "right").needsParens (kindRank kind) operator .right
    let right ← (get "right").wrapped level rightParens
    return asText ((← shown left) ++ " " ++ (← shown operator.view) ++ " " ++ (← shown right))
  | .assignmentExpression =>
    return asText ((← (get "left").shownText level) ++ " " ++ (← shown (get "operator").view) ++
      " " ++ (← (get "right").shownText level))
  | .conditionalExpression => do
    let rank ← (get "test").rank
    let test ← (get "test").wrapped level (rank = wrappedRank || rank ≤ 4)
    return asText ((← shown test) ++ " ? " ++ (← (get "consequent").shownText level) ++ " : " ++
      (← (get "alternate").shownText level))
  | .callExpression => do
    let callee ← (get "callee").wrapped level (← (get "callee").wrapsAsTarget)
    return asText ((← shown callee) ++ (if (get "optional").isTruthy then "?.(" else "(") ++
      (← (get "arguments").listed level) ++ ")")
  | .newExpression => do
    let rank ← (get "callee").rank
    let callee ← (get "callee").wrapped level (rank < 19 || (get "callee").hasCall)
    return asText ("new " ++ (← shown callee) ++ "(" ++ (← (get "arguments").listed level) ++ ")")
  | .memberExpression => do
    let target := get "object"
    let parens := (← target.wrapsAsTarget) || (← target.isNumber)
    let object ← shown (← target.wrapped level parens)
    let property ← (get "property").shownText level
    let optional := (get "optional").isTruthy
    if (get "computed").isTruthy then
      return asText (object ++ (if optional then "?.[" else "[") ++ property ++ "]")
    else return asText (object ++ (if optional then "?." else ".") ++ property)
  | .chainExpression => (get "expression").text level
  | .sequenceExpression => return asText ("(" ++ (← (get "expressions").listed level) ++ ")")
  | .awaitExpression => do
    let parens := (← (get "argument").rank) < 15
    return asText ("await " ++ (← needText (← (get "argument").wrapped level parens)))
  | .yieldExpression =>
    return asText ((if (get "delegate").isTruthy then "yield*" else "yield") ++
      (← (get "argument").after level " "))
  | .assignmentPattern =>
    return asText ((← (get "left").shownText level) ++ " = " ++ (← (get "right").shownText level))

/-- What a field holds among the fields of a node; a field that is not there holds nothing. -/
def fieldPiece (fields : List (String × Piece)) (name : String) : Piece :=
  ((fields.find? (·.1 == name)).map (·.2)).getD (.ofData .null)

/-- Whether a call is at the root of the members of a node of the given kind. -/
def rootCall (kind : Kind) (fields : List (String × Piece)) : Bool :=
  match kind with
  | .memberExpression => (fieldPiece fields "object").hasCall
  | .callExpression | .chainExpression => true
  | _ => false

mutual

/-- A view with the texts of its parts. -/
def piece : View → Piece
  | .data value => .ofData value
  | .tuple items => .mk (.tuple items) (pieceItems items) [] false fun _ => .error .missingPart
  | .list items => .mk (.list items) (pieceItems items) [] false fun _ => .error .missingPart
  | .node kind start stop fields =>
    let parts := pieceFields fields
    .mk (.node kind start stop fields) [] parts (rootCall kind parts)
      (pieceText kind (fieldPiece parts))

/-- The items of a list with the texts of their parts. -/
def pieceItems : List View → List Piece
  | [] => []
  | item :: rest => piece item :: pieceItems rest

/-- The fields of a node with the texts of their parts. -/
def pieceFields : List (String × View) → List (String × Piece)
  | [] => []
  | (name, value) :: rest => (name, piece value) :: pieceFields rest

end

end Print

/-- The text of a view. -/
def View.print (view : View) : Except PrintError View :=
  match view.node? with
  | some tree => return Print.asText (← tree.print)
  | none => (Print.piece view).text 0

end Assay
