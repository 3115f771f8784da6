import Assay.Print.Printer
import Assay.Proofs.Outcome

/-!
# The level as a state

`Print.visit` prints a node as a generator does that keeps the level of indentation in a variable.
The level goes up before the lines of a block, an object, a case or a braced consequent and down
behind them, and a line is indented by what the variable holds when it is printed. `Print.Keeps`
says that an action ends at the level at which it was started, and with which outcome; the rules for
putting actions together carry this from the parts of a node to the node, so that
`Print.visit_keeps` finds the level balanced in every handler and the outcome that of
`Print.printAt`, which has the level as an argument.
-/

set_option autoImplicit false

namespace Assay

namespace Print

/-- Printing with the level of indentation as a state. -/
abbrev Printer : Type → Type := StateT Nat (Except PrintError)

namespace Printer

/-- The blanks at the start of a line of the current level. -/
def margin : Printer Text := return indent (← get)

/-- The action one level further down. -/
def nested {α : Type} (lines : Printer α) : Printer α := do
  modify (· + 1)
  let texts ← lines
  modify (· - 1)
  return texts

/-- The lines of some nodes between braces. -/
def block (separator : Text) (nodes : List Node) (lines : Printer (List Text)) : Printer Text :=
  if nodes.isEmpty then return "\x7b\x7d"
  else do
    let texts ← nested lines
    return "\x7b\n" ++ Text.join (separator ++ "\n") texts ++ "\n" ++ (← margin) ++ "\x7d"

/-- The operands of an operator of the given rank, each between parentheses if they are needed. -/
def operands (rank : Nat) (operator : Text) (left right : Node)
    (leftText rightText : Printer Text) : Printer Text := do
  let leftParens ← needsParens left rank operator .left
  let leftText := wrap leftParens (← leftText)
  let rightParens ← needsParens right rank operator .right
  return leftText ++ " " ++ operator ++ " " ++ wrap rightParens (← rightText)

end Printer

open Printer Outcome

mutual

/-- The text of a node. -/
def visit : Node → Printer Text
  | .bare category _ => throw (.unprintable category.kind)
  | .program _ body => return Text.join "\n" (← visitLines body)
  | .expressionStatement _ expression => return statementText (← visit expression)
  | .blockStatement _ body | .classBody _ body => block "" body (visitLines body)
  | .staticBlock _ body => return "static " ++ (← block "" body (visitLines body))
  | .emptyStatement _ => return ";"
  | .debuggerStatement _ => return "debugger;"
  | .returnStatement _ none => return "return;"
  | .returnStatement _ (some argument) => return "return " ++ (← visit argument) ++ ";"
  | .throwStatement _ none => throw .missingPart
  | .throwStatement _ (some argument) => return "throw " ++ (← visit argument) ++ ";"
  | .breakStatement _ none => return "break;"
  | .breakStatement _ (some label) => return "break " ++ (← visit label) ++ ";"
  | .continueStatement _ none => return "continue;"
  | .continueStatement _ (some label) => return "continue " ++ (← visit label) ++ ";"
  | .labeledStatement _ label body => return (← visit label) ++ ": " ++ (← visit body)
  | .ifStatement _ test consequent none => do
    let consequentText ← visit consequent
    return "if (" ++ (← visit test) ++ ") " ++ consequentText
  | .ifStatement _ test consequent (some alternate) => do
    let consequentText ←
      if consequent.isBlock then visit consequent
      else block "" [consequent] do return [(← margin) ++ (← visit consequent)]
    return "if (" ++ (← visit test) ++ ") " ++ consequentText ++ " else " ++ (← visit alternate)
  | .switchStatement _ discriminant cases =>
    return "switch (" ++ (← visit discriminant) ++ ") " ++ (← block "" cases (visitLines cases))
  | .switchCase _ none consequent =>
    return Text.join "\n" ("default:" :: (← nested (visitLines consequent)))
  | .switchCase _ (some test) consequent => do
    let testText ← visit test
    return Text.join "\n" (("case " ++ testText ++ ":") :: (← nested (visitLines consequent)))
  | .whileStatement _ test body => return "while (" ++ (← visit test) ++ ") " ++ (← visit body)
  | .doWhileStatement _ body test =>
    return "do " ++ (← visit body) ++ " while (" ++ (← visit test) ++ ");"
  | .forStatement _ init test update body => do
    let initText ← visitOptional "" init
    let testText ← visitOptional " " test
    let updateText ← visitOptional " " update
    return "for (" ++ init.elim initText (loopHead · initText) ++ ";" ++ testText ++ ";" ++
      updateText ++ ") " ++ (← visit body)
  | .forInStatement _ left right body => do
    let leftText ← visit left
    return "for (" ++ loopHead left leftText ++ " in " ++ (← visit right) ++ ") " ++ (← visit body)
  | .forOfStatement _ left right body isAwait => do
    let leftText ← visit left
    return (if isAwait then "for await" else "for") ++ " (" ++ loopHead left leftText ++ " of " ++
      (← visit right) ++ ") " ++ (← visit body)
  | .tryStatement _ block handler finalizer => do
    let blockText ← visit block
    let handlerText ← visitOptional " " handler
    let finalizerText ← visitOptional " finally " finalizer
    return "try " ++ blockText ++ handlerText ++ finalizerText
  | .catchClause _ none body => return "catch " ++ (← visit body)
  | .catchClause _ (some param) body =>
    return "catch (" ++ (← visit param) ++ ") " ++ (← visit body)
  | .variableDeclaration _ kind declarations =>
    return kind ++ " " ++ commas (← visitList declarations) ++ ";"
  | .variableDeclarator _ id none => visit id
  | .variableDeclarator _ id (some init) => return (← visit id) ++ " = " ++ (← visit init)
  | .function .arrow _ _ params body isAsync _ isExpression => do
    let bodyText ← visit body
    let paramTexts ← visitList params
    return (if isAsync then "async " else "") ++ "(" ++ commas paramTexts ++ ") => " ++
      wrap (isExpression && isObject body) bodyText
  | .function _ _ id params body isAsync isGenerator _ => do
    let nameText ← visitOptional " " id
    return functionLead isAsync isGenerator ++ nameText ++ "(" ++ commas (← visitList params) ++
      ") " ++ (← visit body)
  | .classNode _ _ id superClass body => do
    let nameText ← visitOptional " " id
    let superText ← visitOptional "" superClass
    return "class" ++ nameText ++ superClass.elim [] (extendsText · superText) ++ " " ++
      (← visit body)
  | .methodDefinition _ key value kind computed isStatic => do
    let keyPart ← visit key
    visitMethod (staticLead isStatic ++ accessorLead kind) (keyText computed keyPart) value
  | .propertyDefinition _ key value computed isStatic => do
    let keyPart ← visit key
    let valueText ← visitOptional " = " value
    return staticLead isStatic ++ keyText computed keyPart ++ valueText ++ ";"
  | .identifier _ name => return name
  | .privateIdentifier _ name => return "#" ++ name
  | .literal _ value raw regex => literalText value raw regex
  | .templateLiteral _ quasis expressions =>
    return "`" ++ (← visitTemplate quasis expressions) ++ "`"
  | .templateElement _ => throw (.unprintable .templateElement)
  | .taggedTemplate _ tag quasi =>
    return wrap (wrapsAsTarget tag) (← visit tag) ++ (← visit quasi)
  | .thisExpression _ => return "this"
  | .superReference _ => return "super"
  | .metaProperty _ head property => return (← visit head) ++ "." ++ (← visit property)
  | .arrayExpression _ elements | .arrayPattern _ elements =>
    return "[" ++ commas (← visitHoles elements) ++ closingComma elements ++ "]"
  | .objectExpression _ properties => block "," properties (visitLines properties)
  | .property _ key value kind computed shorthand isMethod => do
    let keyPart := keyText computed (← visit key)
    if kind == "get" || kind == "set" || isMethod then visitMethod (accessorLead kind) keyPart value
    else
      let valueText ← visit value
      return if shorthand then valueText else keyPart ++ ": " ++ valueText
  | .spreadElement _ argument | .restElement _ argument => return "..." ++ (← visit argument)
  | .unary _ operator argument => do
    let parens := precedence argument < 15
    let space ← if parens then pure false else needsSpace operator argument
    return operator ++ (if space then " " else "") ++ wrap parens (← visit argument)
  | .update _ operator leading argument => do
    let argumentText := wrap (precedence argument < 19) (← visit argument)
    return if leading then operator ++ argumentText else argumentText ++ operator
  | .binary _ left operator right => operands 14 operator left right (visit left) (visit right)
  | .logical _ left operator right => operands 13 operator left right (visit left) (visit right)
  | .assignment _ left operator right =>
    return (← visit left) ++ " " ++ operator ++ " " ++ (← visit right)
  | .conditional _ test consequent alternate => do
    let parens := precedence test = wrappedRank || precedence test ≤ 4
    return wrap parens (← visit test) ++ " ? " ++ (← visit consequent) ++ " : " ++
      (← visit alternate)
  | .call _ callee arguments optional =>
    return wrap (wrapsAsTarget callee) (← visit callee) ++
      (if optional then "?.(" else "(") ++ commas (← visitList arguments) ++ ")"
  | .newExpression _ callee arguments =>
    return "new " ++ wrap (precedence callee < 19 || hasCall callee) (← visit callee) ++
      "(" ++ commas (← visitList arguments) ++ ")"
  | .member _ object property computed optional => do
    let objectText := wrap (wrapsAsTarget object || isNumber object) (← visit object)
    let propertyText ← visit property
    return if computed then objectText ++ (if optional then "?.[" else "[") ++ propertyText ++ "]"
      else objectText ++ (if optional then "?." else ".") ++ propertyText
  | .chain _ expression => visit expression
  | .sequence _ expressions => return "(" ++ commas (← visitList expressions) ++ ")"
  | .awaitExpression _ argument =>
    return "await " ++ wrap (precedence argument < 15) (← visit argument)
  | .yieldExpression _ argument delegate => do
    let argumentText ← visitOptional " " argument
    return (if delegate then "yield*" else "yield") ++ argumentText
  | .objectPattern _ properties =>
    return "\x7b" ++ commas (← visitList properties) ++ "\x7d"
  | .assignmentPattern _ left right => return (← visit left) ++ " = " ++ (← visit right)

/-- A function as a method, from the words before its key. -/
def visitMethod (lead key : Text) : Node → Printer Text
  | .function _ _ _ params body isAsync isGenerator _ =>
    return lead ++ methodLead isAsync isGenerator ++ key ++ "(" ++ commas (← visitList params) ++
      ") " ++ (← visit body)
  | _ => throw .missingPart

/-- The text of a node that may be absent, after `lead` if it is there. -/
def visitOptional (lead : Text) : Option Node → Printer Text
  | none => return []
  | some node => return lead ++ (← visit node)

/-- Nodes, each as a line of the current level. -/
def visitLines : List Node → Printer (List Text)
  | [] => return []
  | node :: rest => do
    let line := (← margin) ++ (← visit node)
    return line :: (← visitLines rest)

/-- The texts of several nodes. -/
def visitList : List Node → Printer (List Text)
  | [] => return []
  | node :: rest => return (← visit node) :: (← visitList rest)

/-- The texts of the elements of an array; a hole has none. -/
def visitHoles : List (Option Node) → Printer (List Text)
  | [] => return []
  | none :: rest => return [] :: (← visitHoles rest)
  | some node :: rest => return (← visit node) :: (← visitHoles rest)

/-- The pieces of a template with the substitutions between them. -/
def visitTemplate : List Quasi → List Node → Printer Text
  | quasis, [] => return quasis.flatMap (·.raw)
  | [], _ :: _ => return []
  | quasi :: quasis, expression :: rest => do
    let inside ← visit expression
    return quasi.raw ++ "$\x7b" ++ inside ++ "\x7d" ++ (← visitTemplate quasis rest)

end

/-! ## Handlers that leave the level as it was -/

/-- Run at the level, the action has the given outcome and ends at the same level. -/
def Keeps {α : Type} (level : Nat) (action : Printer α) (outcome : Except PrintError α) : Prop :=
  action.run level = (·, level) <$> outcome

namespace Keeps

variable {α β γ δ : Type} {level : Nat} {x : Printer α} {y : Except PrintError α} {u : Printer β}
  {v : Except PrintError β} {s : Printer γ} {t : Except PrintError γ}

/-- A text that is known needs no level. -/
theorem pure (a : α) : Keeps level (pure a) (.ok a) := rfl

/-- After an error there is no level. -/
theorem throw (error : PrintError) : Keeps level (throw error : Printer α) (.error error) := rfl

/-- What does not print does not touch the level. -/
theorem lift (y : Except PrintError α) : Keeps level (liftM y) y := by cases y <;> rfl

/-- An action starts at the level at which the one before it ended. -/
theorem bind {k : α → Printer β} {g : α → Except PrintError β} (hx : Keeps level x y)
    (hk : ∀ a, y = .ok a → Keeps level (k a) (g a)) : Keeps level (x >>= k) (y >>= g) := by
  rw [Keeps, StateT.run_bind, hx]
  cases y with
  | error => rfl
  | ok a => exact hk a rfl

/-- Outcomes in a row may be read from the right. -/
theorem assoc {k : α → Except PrintError β} {g : β → Except PrintError γ} {x : Printer γ}
    (hx : Keeps level x ((y >>= k) >>= g)) : Keeps level x (y >>= fun a => k a >>= g) := by
  rwa [bind_assoc] at hx

/-- Either branch keeps the level. -/
theorem ite {condition : Prop} [Decidable condition] {z : Printer α} {w : Except PrintError α}
    (hx : Keeps level x y) (hz : Keeps level z w) :
    Keeps level (if condition then x else z) (if condition then y else w) := by
  split <;> assumption

/-- A text is put together from one part. -/
theorem one {f : α → δ} (hx : Keeps level x y) :
    Keeps level (return f (← x)) (return f (← y)) :=
  hx.bind fun _ _ => pure _

/-- A text is put together from two parts. -/
theorem two {f : α → β → δ} (hx : Keeps level x y) (hu : Keeps level u v) :
    Keeps level (return f (← x) (← u)) (return f (← y) (← v)) :=
  hx.bind fun _ _ => hu.one

/-- A text is put together from three parts. -/
theorem three {f : α → β → γ → δ} (hx : Keeps level x y) (hu : Keeps level u v)
    (hs : Keeps level s t) :
    Keeps level (return f (← x) (← u) (← s)) (return f (← y) (← v) (← t)) :=
  hx.bind fun _ _ => hu.two hs

/-- The margin is the indentation of the level. -/
theorem margin {k : Text → Printer α} (hk : Keeps level (k (indent level)) y) :
    Keeps level (margin >>= k) y := hk

/-- The level that goes up before the lines goes down behind them. -/
theorem nested (hx : Keeps (level + 1) x y) : Keeps level (nested x) y := by
  have hRun : (Printer.nested x).run level =
      x.run (level + 1) >>= fun (texts, deeper) => .ok (texts, deeper - 1) := rfl
  rw [Keeps, hRun, hx]
  cases y <;> rfl

/-- The lines of a block are one level down, and its closing brace is at the level. -/
theorem block (separator : Text) {nodes : List Node} {lines : Printer (List Text)}
    (hLines : Keeps (level + 1) lines (printLines (level + 1) nodes)) :
    Keeps level (block separator nodes lines)
      (return braces level separator (← printLines (level + 1) nodes)) := by
  cases nodes with
  | nil => rfl
  | cons node rest =>
    refine hLines.nested.bind fun texts hTexts => .margin ?_
    have hSome : texts.isEmpty = false := by
      simp only [printLines, bind_eq_ok, pure_eq_ok] at hTexts
      obtain ⟨line, -, others, -, rfl⟩ := hTexts
      rfl
    rw [braces, hSome]
    exact pure _

/-- The operands of an operator are printed at the level. -/
theorem operands {rank : Nat} {operator : Text} {left right : Node}
    {leftText rightText : Printer Text} (hLeft : Keeps level leftText (printAt level left))
    (hRight : Keeps level rightText (printAt level right)) :
    Keeps level (operands rank operator left right leftText rightText) (do
      let leftParens ← needsParens left rank operator .left
      let leftText := wrap leftParens (← printAt level left)
      let rightParens ← needsParens right rank operator .right
      return leftText ++ " " ++ operator ++ " " ++ wrap rightParens (← printAt level right)) :=
  (lift _).bind fun _ _ => hLeft.bind fun _ _ => (lift _).two hRight

end Keeps

mutual

/-- A handler leaves the level as it was and has the outcome of `printAt` there. -/
theorem visit_keeps (level : Nat) : ∀ node, Keeps level (visit node) (printAt level node)
  | .bare _ _ | .templateElement _ | .throwStatement _ none => .throw _
  | .emptyStatement _ | .debuggerStatement _ | .identifier _ _ | .privateIdentifier _ _
  | .thisExpression _ | .superReference _ | .returnStatement _ none | .breakStatement _ none
  | .continueStatement _ none => .pure _
  | .literal _ _ _ _ => .lift _
  | .chain _ part | .variableDeclarator _ part none => visit_keeps level part
  | .expressionStatement _ part | .returnStatement _ (some part) | .throwStatement _ (some part)
  | .breakStatement _ (some part) | .continueStatement _ (some part) | .catchClause _ none part
  | .spreadElement _ part | .restElement _ part | .update _ _ _ part | .awaitExpression _ part =>
    (visit_keeps level part).one
  | .labeledStatement _ first second | .ifStatement _ second first none
  | .whileStatement _ first second | .doWhileStatement _ first second
  | .catchClause _ (some first) second | .variableDeclarator _ first (some second)
  | .taggedTemplate _ first second | .metaProperty _ first second | .assignment _ first _ second
  | .member _ first second _ _ | .assignmentPattern _ first second =>
    (visit_keeps level first).two (visit_keeps level second)
  | .forInStatement _ first second third | .forOfStatement _ first second third _
  | .conditional _ first second third =>
    (visit_keeps level first).three (visit_keeps level second) (visit_keeps level third)
  | .binary _ left _ right | .logical _ left _ right =>
    .operands (visit_keeps level left) (visit_keeps level right)
  | .unary _ _ argument =>
    .ite ((Keeps.pure _).two (visit_keeps level argument))
      ((Keeps.lift _).two (visit_keeps level argument))
  | .variableDeclaration _ _ nodes | .sequence _ nodes | .objectPattern _ nodes =>
    (visitList_keeps level nodes).one
  | .call _ callee arguments _ | .newExpression _ callee arguments =>
    (visit_keeps level callee).two (visitList_keeps level arguments)
  | .arrayExpression _ elements | .arrayPattern _ elements => (visitHoles_keeps level elements).one
  | .templateLiteral _ quasis expressions => (visitTemplate_keeps level quasis expressions).one
  | .program _ body => (visitLines_keeps level body).one
  | .blockStatement _ body | .classBody _ body | .objectExpression _ body =>
    .block _ (visitLines_keeps (level + 1) body)
  | .staticBlock _ body => (Keeps.block "" (visitLines_keeps (level + 1) body)).one.assoc
  | .switchStatement _ discriminant cases =>
    (visit_keeps level discriminant).bind fun _ _ =>
      (Keeps.block "" (visitLines_keeps (level + 1) cases)).one.assoc
  | .switchCase _ none consequent => (visitLines_keeps (level + 1) consequent).nested.one
  | .switchCase _ (some test) consequent =>
    (visit_keeps level test).two (visitLines_keeps (level + 1) consequent).nested
  | .ifStatement _ test consequent (some alternate) =>
    have hLine : Keeps (level + 1) (do return [(← margin) ++ (← visit consequent)])
        (printLines (level + 1) [consequent]) := .margin (visit_keeps (level + 1) consequent).one
    have hTest := visit_keeps level test
    have hAlternate := visit_keeps level alternate
    .ite ((visit_keeps level consequent).three hTest hAlternate)
      ((Keeps.block "" hLine).three hTest hAlternate).assoc.assoc
  | .forStatement _ init test update body =>
    (visitOptional_keeps level "" init).bind fun _ _ =>
      (visitOptional_keeps level " " test).three (visitOptional_keeps level " " update)
        (visit_keeps level body)
  | .tryStatement _ block handler finalizer =>
    (visit_keeps level block).three (visitOptional_keeps level " " handler)
      (visitOptional_keeps level " finally " finalizer)
  | .function .arrow _ _ params body _ _ _ =>
    (visit_keeps level body).two (visitList_keeps level params)
  | .function .declaration _ id params body _ _ _ | .function .expression _ id params body _ _ _ =>
    (visitOptional_keeps level " " id).three (visitList_keeps level params) (visit_keeps level body)
  | .classNode _ _ id superClass body =>
    (visitOptional_keeps level " " id).three (visitOptional_keeps level "" superClass)
      (visit_keeps level body)
  | .methodDefinition _ key value _ _ _ => by
    cases value
    case function params body _ _ _ =>
      exact (visit_keeps level key).three (visitList_keeps level params) (visit_keeps level body)
    all_goals exact (visit_keeps level key).bind fun _ _ => .throw _
  | .propertyDefinition _ key value _ _ =>
    (visit_keeps level key).two (visitOptional_keeps level " = " value)
  | .property _ key value _ _ _ _ => by
    cases value
    case function params body _ _ _ =>
      exact (visit_keeps level key).bind fun _ _ => .ite
        ((visitList_keeps level params).two (visit_keeps level body)) (visit_keeps level _).one
    all_goals
      exact (visit_keeps level key).bind fun _ _ => .ite (.throw _) (visit_keeps level _).one
  | .yieldExpression _ argument _ => (visitOptional_keeps level " " argument).one

/-- A part that may be absent keeps the level. -/
theorem visitOptional_keeps (level : Nat) (lead : Text) :
    ∀ part, Keeps level (visitOptional lead part) (printOptional level lead part)
  | none => .pure _
  | some node => (visit_keeps level node).one

/-- Lines keep the level, so that all of them have the same margin. -/
theorem visitLines_keeps (level : Nat) :
    ∀ nodes, Keeps level (visitLines nodes) (printLines level nodes)
  | [] => .pure _
  | node :: rest => .margin ((visit_keeps level node).two (visitLines_keeps level rest))

/-- Nodes in a row keep the level. -/
theorem visitList_keeps (level : Nat) :
    ∀ nodes, Keeps level (visitList nodes) (printList level nodes)
  | [] => .pure _
  | node :: rest => (visit_keeps level node).two (visitList_keeps level rest)

/-- Elements and holes in a row keep the level. -/
theorem visitHoles_keeps (level : Nat) :
    ∀ elements, Keeps level (visitHoles elements) (printHoles level elements)
  | [] => .pure _
  | none :: rest => (visitHoles_keeps level rest).one
  | some node :: rest => (visit_keeps level node).two (visitHoles_keeps level rest)

/-- The substitutions of a template keep the level. -/
theorem visitTemplate_keeps (level : Nat) :
    ∀ quasis nodes, Keeps level (visitTemplate quasis nodes) (printTemplate level quasis nodes)
  | _, [] | [], _ :: _ => .pure _
  | _ :: quasis, node :: rest => (visit_keeps level node).two (visitTemplate_keeps level quasis rest)

end

end Print

end Assay
