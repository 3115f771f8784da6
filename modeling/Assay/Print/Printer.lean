import Assay.Data.Json.Writer
import Assay.Print.Precedence

/-!
# Printing syntax trees

`Node.print` gives the text of any node that has one. Statements take a line each and are indented
by two spaces a level; the level is an argument, so a node prints the same wherever it stands up
to the indentation of its lines. Parts are printed in the order in which they are needed, and the
first part that cannot be printed is the error.
-/

set_option autoImplicit false

namespace Assay

namespace Print

/-- The blanks at the start of a line of the given level. -/
def indent (level : Nat) : Text := Text.fill (2 * level) ' '

/-- Lines between braces, where the closing brace stands at the given level. -/
def braces (level : Nat) (separator : Text) (lines : List Text) : Text :=
  if lines.isEmpty then "\x7b\x7d"
  else "\x7b\n" ++ Text.join (separator ++ "\n") lines ++ "\n" ++ indent level ++ "\x7d"

/-- The text, between parentheses if they are needed. -/
def wrap (parens : Bool) (t : Text) : Text := if parens then "(" ++ t ++ ")" else t

/-- Items with commas between them. -/
def commas (items : List Text) : Text := Text.join ", " items

/-- The comma that keeps a hole at the end of a list. -/
def closingComma {α : Type} (items : List (Option α)) : Text :=
  match items.getLast? with
  | some none => ","
  | _ => []

/-- The text of a key, between brackets if it is computed. -/
def keyText (computed : Bool) (key : Text) : Text := if computed then "[" ++ key ++ "]" else key

/-- The words before the name of a method. -/
def methodLead (isAsync isGenerator : Bool) : Text :=
  (if isAsync then "async " else "") ++ (if isGenerator then "*" else "")

/-- The words before the name of an accessor, if the method is one. -/
def accessorLead (kind : Text) : Text :=
  if kind == "get" || kind == "set" then kind ++ " " else []

/-- The word `static` before a member of the class itself. -/
def staticLead (isStatic : Bool) : Text := if isStatic then "static " else ""

/-- The words that open a function. -/
def functionLead (isAsync isGenerator : Bool) : Text :=
  (if isAsync then "async function" else "function") ++ (if isGenerator then "*" else "")

/-- What a class extends, between parentheses unless it is a plain reference. -/
def extendsText (parent : Node) (t : Text) : Text :=
  " extends " ++ wrap (!isPlainSuper parent) t

/-- The text of a declaration as the head of a loop has it: without the semicolon. -/
def loopHead (head : Node) (t : Text) : Text :=
  match head with
  | .variableDeclaration .. => t.dropLast
  | _ => t

/-- An expression as a statement, between parentheses if it would be read as something else. -/
def statementText (t : Text) : Text := wrap (isAmbiguousStart t) t ++ ";"

/-- The text of a literal. The kept spelling is used for numbers and strings only, and a number
without one must not have more digits than are written. -/
def literalText (value : Data) (raw : Option Text) (regex : Option (Text × Text)) :
    Except PrintError Text :=
  match regex with
  | some (pattern, flags) => .ok ("/" ++ pattern ++ "/" ++ flags)
  | none =>
    match value, raw with
    | .bool value, _ => .ok (if value then "true" else "false")
    | .null, _ => .ok "null"
    | _, some raw => .ok raw
    | .text value, none => .ok (Json.quote value)
    | value, none => if value.hasLongNumber then .error .tooManyDigits else .ok value.display

mutual

/-- The text of a node that stands at the given level. -/
def printAt (level : Nat) : Node → Except PrintError Text
  | .bare category _ => .error (.unprintable category.kind)
  | .program _ body => return Text.join "\n" (← printLines level body)
  | .expressionStatement _ expression => return statementText (← printAt level expression)
  | .blockStatement _ body => return braces level "" (← printLines (level + 1) body)
  | .staticBlock _ body => return "static " ++ braces level "" (← printLines (level + 1) body)
  | .emptyStatement _ => .ok ";"
  | .debuggerStatement _ => .ok "debugger;"
  | .returnStatement _ argument =>
    match argument with
    | none => .ok "return;"
    | some argument => return "return " ++ (← printAt level argument) ++ ";"
  | .throwStatement _ argument =>
    match argument with
    | none => .error .missingPart
    | some argument => return "throw " ++ (← printAt level argument) ++ ";"
  | .breakStatement _ label =>
    match label with
    | none => .ok "break;"
    | some label => return "break " ++ (← printAt level label) ++ ";"
  | .continueStatement _ label =>
    match label with
    | none => .ok "continue;"
    | some label => return "continue " ++ (← printAt level label) ++ ";"
  | .labeledStatement _ label body =>
    return (← printAt level label) ++ ": " ++ (← printAt level body)
  | .ifStatement _ test consequent alternate =>
    match alternate with
    | none => do
      let consequentText ← printAt level consequent
      return "if (" ++ (← printAt level test) ++ ") " ++ consequentText
    | some alternate => do
      -- Without braces the consequent could take the `else` for its own.
      let consequentText ←
        if consequent.isBlock then printAt level consequent
        else do
          let line ← printAt (level + 1) consequent
          pure (braces level "" [indent (level + 1) ++ line])
      return "if (" ++ (← printAt level test) ++ ") " ++ consequentText ++ " else " ++
        (← printAt level alternate)
  | .switchStatement _ discriminant cases =>
    return "switch (" ++ (← printAt level discriminant) ++ ") " ++
      braces level "" (← printLines (level + 1) cases)
  | .switchCase _ test consequent =>
    match test with
    | none => return Text.join "\n" ("default:" :: (← printLines (level + 1) consequent))
    | some test => do
      let testText ← printAt level test
      return Text.join "\n"
        (("case " ++ testText ++ ":") :: (← printLines (level + 1) consequent))
  | .whileStatement _ test body =>
    return "while (" ++ (← printAt level test) ++ ") " ++ (← printAt level body)
  | .doWhileStatement _ body test =>
    return "do " ++ (← printAt level body) ++ " while (" ++ (← printAt level test) ++ ");"
  | .forStatement _ init test update body => do
    let initText ← printOptional level "" init
    let testText ← printOptional level " " test
    let updateText ← printOptional level " " update
    return "for (" ++ init.elim initText (loopHead · initText) ++ ";" ++ testText ++ ";" ++
      updateText ++ ") " ++ (← printAt level body)
  | .forInStatement _ left right body => do
    let leftText ← printAt level left
    return "for (" ++ loopHead left leftText ++ " in " ++ (← printAt level right) ++ ") " ++
      (← printAt level body)
  | .forOfStatement _ left right body isAwait => do
    let leftText ← printAt level left
    return (if isAwait then "for await" else "for") ++ " (" ++ loopHead left leftText ++ " of " ++
      (← printAt level right) ++ ") " ++ (← printAt level body)
  | .tryStatement _ block handler finalizer => do
    let blockText ← printAt level block
    let handlerText ← printOptional level " " handler
    let finalizerText ← printOptional level " finally " finalizer
    return "try " ++ blockText ++ handlerText ++ finalizerText
  | .catchClause _ param body =>
    match param with
    | none => return "catch " ++ (← printAt level body)
    | some param =>
      return "catch (" ++ (← printAt level param) ++ ") " ++ (← printAt level body)
  | .variableDeclaration _ kind declarations =>
    return kind ++ " " ++ commas (← printList level declarations) ++ ";"
  | .variableDeclarator _ id init =>
    match init with
    | none => printAt level id
    | some init => return (← printAt level id) ++ " = " ++ (← printAt level init)
  | .function form _ id params body isAsync isGenerator isExpression =>
    match form with
    | .arrow => do
      let bodyText ← printAt level body
      let paramTexts ← printList level params
      return (if isAsync then "async " else "") ++ "(" ++ commas paramTexts ++ ") => " ++
        wrap (isExpression && isObject body) bodyText
    | _ => do
      let nameText ← printOptional level " " id
      return functionLead isAsync isGenerator ++ nameText ++ "(" ++
        commas (← printList level params) ++ ") " ++ (← printAt level body)
  | .classNode _ _ id superClass body => do
    let nameText ← printOptional level " " id
    let superText ← printOptional level "" superClass
    return "class" ++ nameText ++ superClass.elim [] (extendsText · superText) ++ " " ++
      (← printAt level body)
  | .classBody _ body => return braces level "" (← printLines (level + 1) body)
  | .methodDefinition _ key value kind computed isStatic => do
    let keyPart ← printAt level key
    match value with
    | .function _ _ _ params body isAsync isGenerator _ =>
      return staticLead isStatic ++ accessorLead kind ++ methodLead isAsync isGenerator ++
        keyText computed keyPart ++ "(" ++ commas (← printList level params) ++ ") " ++
        (← printAt level body)
    | _ => .error .missingPart
  | .propertyDefinition _ key value computed isStatic => do
    let keyPart ← printAt level key
    let valueText ← printOptional level " = " value
    return staticLead isStatic ++ keyText computed keyPart ++ valueText ++ ";"
  | .identifier _ name => .ok name
  | .privateIdentifier _ name => .ok ("#" ++ name)
  | .literal _ value raw regex => literalText value raw regex
  | .templateLiteral _ quasis expressions =>
    return "`" ++ (← printTemplate level quasis expressions) ++ "`"
  | .templateElement _ => .error (.unprintable .templateElement)
  | .taggedTemplate _ tag quasi =>
    return wrap (wrapsAsTarget tag) (← printAt level tag) ++ (← printAt level quasi)
  | .thisExpression _ => .ok "this"
  | .superReference _ => .ok "super"
  | .metaProperty _ head property =>
    return (← printAt level head) ++ "." ++ (← printAt level property)
  | .arrayExpression _ elements =>
    return "[" ++ commas (← printHoles level elements) ++ closingComma elements ++ "]"
  | .objectExpression _ properties =>
    return braces level "," (← printLines (level + 1) properties)
  | .property _ key value kind computed shorthand method => do
    let keyPart := keyText computed (← printAt level key)
    if kind == "get" || kind == "set" || method then
      match value with
      | .function _ _ _ params body isAsync isGenerator _ =>
        return accessorLead kind ++ methodLead isAsync isGenerator ++ keyPart ++ "(" ++
          commas (← printList level params) ++ ") " ++ (← printAt level body)
      | _ => .error .missingPart
    else
      let valueText ← printAt level value
      return if shorthand then valueText else keyPart ++ ": " ++ valueText
  | .spreadElement _ argument => return "..." ++ (← printAt level argument)
  | .unary _ operator argument => do
    let parens := precedence argument < 15
    let space ← if parens then pure false else needsSpace operator argument
    return operator ++ (if space then " " else "") ++ wrap parens (← printAt level argument)
  | .update _ operator leading argument => do
    let argumentText := wrap (precedence argument < 19) (← printAt level argument)
    return if leading then operator ++ argumentText else argumentText ++ operator
  | .binary _ left operator right => do
    let leftParens ← needsParens left 14 operator .left
    let leftText := wrap leftParens (← printAt level left)
    let rightParens ← needsParens right 14 operator .right
    return leftText ++ " " ++ operator ++ " " ++ wrap rightParens (← printAt level right)
  | .logical _ left operator right => do
    let leftParens ← needsParens left 13 operator .left
    let leftText := wrap leftParens (← printAt level left)
    let rightParens ← needsParens right 13 operator .right
    return leftText ++ " " ++ operator ++ " " ++ wrap rightParens (← printAt level right)
  | .assignment _ left operator right =>
    return (← printAt level left) ++ " " ++ operator ++ " " ++ (← printAt level right)
  | .conditional _ test consequent alternate => do
    let parens := precedence test = wrappedRank || precedence test ≤ 4
    return wrap parens (← printAt level test) ++ " ? " ++ (← printAt level consequent) ++ " : " ++
      (← printAt level alternate)
  | .call _ callee arguments optional =>
    return wrap (wrapsAsTarget callee) (← printAt level callee) ++
      (if optional then "?.(" else "(") ++ commas (← printList level arguments) ++ ")"
  | .newExpression _ callee arguments =>
    return "new " ++ wrap (precedence callee < 19 || hasCall callee) (← printAt level callee) ++
      "(" ++ commas (← printList level arguments) ++ ")"
  | .member _ object property computed optional => do
    let objectText := wrap (wrapsAsTarget object || isNumber object) (← printAt level object)
    let propertyText ← printAt level property
    return if computed then objectText ++ (if optional then "?.[" else "[") ++ propertyText ++ "]"
      else objectText ++ (if optional then "?." else ".") ++ propertyText
  | .chain _ expression => printAt level expression
  | .sequence _ expressions => return "(" ++ commas (← printList level expressions) ++ ")"
  | .awaitExpression _ argument =>
    return "await " ++ wrap (precedence argument < 15) (← printAt level argument)
  | .yieldExpression _ argument delegate => do
    let argumentText ← printOptional level " " argument
    return (if delegate then "yield*" else "yield") ++ argumentText
  | .objectPattern _ properties =>
    return "\x7b" ++ commas (← printList level properties) ++ "\x7d"
  | .arrayPattern _ elements =>
    return "[" ++ commas (← printHoles level elements) ++ closingComma elements ++ "]"
  | .assignmentPattern _ left right =>
    return (← printAt level left) ++ " = " ++ (← printAt level right)
  | .restElement _ argument => return "..." ++ (← printAt level argument)

/-- The text of a node that may be absent, after `lead` if it is there. -/
def printOptional (level : Nat) (lead : Text) : Option Node → Except PrintError Text
  | none => .ok []
  | some node => return lead ++ (← printAt level node)

/-- Nodes of the given level, each as an indented line. -/
def printLines (level : Nat) : List Node → Except PrintError (List Text)
  | [] => .ok []
  | node :: rest => do
    let line ← printAt level node
    return (indent level ++ line) :: (← printLines level rest)

/-- The texts of several nodes. -/
def printList (level : Nat) : List Node → Except PrintError (List Text)
  | [] => .ok []
  | node :: rest => do
    let item ← printAt level node
    return item :: (← printList level rest)

/-- The texts of the elements of an array; a hole has none. -/
def printHoles (level : Nat) : List (Option Node) → Except PrintError (List Text)
  | [] => .ok []
  | none :: rest => return [] :: (← printHoles level rest)
  | some node :: rest => do
    let item ← printAt level node
    return item :: (← printHoles level rest)

/-- The pieces of a template with the substitutions between them. -/
def printTemplate (level : Nat) : List Quasi → List Node → Except PrintError Text
  | quasis, [] => .ok (quasis.flatMap (·.raw))
  | [], _ :: _ => .ok []
  | quasi :: quasis, expression :: rest => do
    let inside ← printAt level expression
    return quasi.raw ++ "$\x7b" ++ inside ++ "\x7d" ++ (← printTemplate level quasis rest)

end

end Print

/-- The text of a program, a statement or an expression. -/
def Node.print (node : Node) : Except PrintError Text := Print.printAt 0 node

end Assay
