import Assay.Proofs.Print.Exchange
import Mathlib.Data.List.Forall2

/-!
# The segments of a text

The text of a node is made of tokens of its own and of the texts of its parts, each set in a way
that depends on little of the part. `segments` lists both in the order of the text, and
`spell_segments` says that the printer writes them one after the other. What a part becomes in its
place is its `Setting`.
-/

set_option autoImplicit false

namespace Assay.Print

open Outcome

/-! ## Settings and segments -/

variable {texts : List Text} {t : Text} {nodes : List Node}

/-- Whether a part needs parentheses, from its outline and hints. -/
abbrev Parens := Outline → Hints → Bool

namespace Parens

/-- Parentheses around what holds together less tightly than the given rank. -/
def below (rank : Nat) : Parens := fun outline _ => outline.rank < rank

/-- Parentheses around what a call or a template is taken of. -/
def target : Parens := fun outline _ => outline.rank < 19 || outline.isChain

/-- Parentheses around what a member is taken of. -/
def object : Parens := fun outline hints => target outline hints || hints.isNumber

/-- Parentheses around what is made by `new`. -/
def callee : Parens := fun outline hints => outline.rank < 19 || hints.hasCall

/-- Parentheses around what a class extends. -/
def parent : Parens := fun outline _ => !outline.isPlainSuper

/-- Parentheses around the test of a conditional expression. -/
def test : Parens := fun outline _ => outline.rank = wrappedRank || outline.rank ≤ 4

/-- Parentheses around the body of an arrow function. -/
def body (isExpression : Bool) : Parens := fun outline _ => isExpression && outline.isObject

variable (node : Node)

/-- The outline tells the rank, -/
@[simp]
theorem below_outline (rank : Nat) :
    below rank (outline node) (hints node) = decide (precedence node < rank) := rfl

/-- whether a target needs parentheses, -/
@[simp]
theorem target_outline : target (outline node) (hints node) = wrapsAsTarget node := rfl

/-- and whether an object, -/
@[simp]
theorem object_outline :
    object (outline node) (hints node) = (wrapsAsTarget node || isNumber node) := rfl

/-- a callee, -/
@[simp]
theorem callee_outline :
    callee (outline node) (hints node) = (decide (precedence node < 19) || hasCall node) := rfl

/-- a parent class, -/
@[simp]
theorem parent_outline : parent (outline node) (hints node) = !isPlainSuper node := rfl

/-- the test of a conditional, -/
@[simp]
theorem test_outline : test (outline node) (hints node) =
    (decide (precedence node = wrappedRank) || decide (precedence node ≤ 4)) := rfl

/-- or the body of an arrow function does. -/
@[simp]
theorem body_outline (isExpression : Bool) :
    body isExpression (outline node) (hints node) = (isExpression && isObject node) := rfl

end Parens

/-- How a part is set into the text of a whole. -/
inductive Setting where
  /-- As it is. -/
  | plain
  /-- Between parentheses, if its outline and hints ask for them. -/
  | wrapped (parens : Parens)
  /-- As an operand of a binary or logical expression. -/
  | operand (parent : Nat) (operator : Text) (side : Side)
  /-- Behind a sign or a word that takes it for its argument. -/
  | argument (operator : Text)
  /-- As a statement. -/
  | statement
  /-- In the head of a loop, where a declaration has no semicolon. -/
  | head
  /-- In front of an `else`, where it needs braces. -/
  | arm
  /-- As a method, from its parameters on. -/
  | method

/-- The text of a part in its setting. -/
def Setting.write (level : Nat) (node : Node) : Setting → Except PrintError Text
  | .plain => printAt level node
  | .wrapped parens => return wrap (parens (outline node) (hints node)) (← printAt level node)
  | .operand parent operator side => do
    let parens ← needsParens node parent operator side
    return wrap parens (← printAt level node)
  | .argument operator => do
    let space ← if precedence node < 15 then pure false else needsSpace operator node
    return (if space then Text.ofString " " else "") ++ wrap (precedence node < 15) (← printAt level node)
  | .statement => return statementText (← printAt level node)
  | .head => return loopHead node (← printAt level node)
  | .arm =>
    if node.isBlock then printAt level node
    else return braces level "" [indent (level + 1) ++ (← printAt (level + 1) node)]
  | .method => methodTail level node

/-- A stretch of the text of a node. -/
inductive Segment where
  /-- A token of the node itself. -/
  | token (text : Text)
  /-- A part at the given level. -/
  | part (setting : Setting) (level : Nat) (node : Node)

/-- The text of a segment. -/
def Segment.write : Segment → Except PrintError Text
  | .token text => .ok text
  | .part setting level node => setting.write level node

/-- The text of several segments. -/
def spell : List Segment → Except PrintError Text
  | [] => .ok []
  | segment :: rest => do
    let first ← segment.write
    return first ++ (← spell rest)

/-! ## The segments of a node -/

/-- Items with a separator between them. -/
def series (separator : Text) (items : List (List Segment)) : List Segment :=
  List.intercalate [.token separator] items

/-- A part as an item of a series. -/
def item (level : Nat) (node : Node) : List Segment := [.part .plain level node]

/-- A part as an indented line. -/
def line (level : Nat) (node : Node) : List Segment :=
  [.token (indent level), .part .plain level node]

/-- An element of an array; a hole has no segments. -/
def element (level : Nat) : Option Node → List Segment
  | none => []
  | some node => item level node

/-- Lines between braces. -/
def enclosed (level : Nat) (separator : Text) (lines : List (List Segment)) : List Segment :=
  if lines.isEmpty then [.token "\x7b\x7d"]
  else .token "\x7b\n" :: series (separator ++ "\n") lines ++
    [.token "\n", .token (indent level), .token "\x7d"]

/-- A part that may be absent. -/
def optional (level : Nat) (lead : Text) : Option Node → List Segment
  | none => []
  | some node => [.token lead, .part .plain level node]

/-- A key, between brackets if it is computed. -/
def keySegments (level : Nat) (computed : Bool) (key : Node) : List Segment :=
  if computed then [.token "[", .part .plain level key, .token "]"] else item level key

/-- The words in front of a method. -/
def methodWords (value : Node) : Text :=
  match signature? value with
  | some (isAsync, isGenerator) => methodLead isAsync isGenerator
  | none => []

/-- The pieces of a template with the substitutions between them. -/
def templateSegments (level : Nat) : List Quasi → List Node → List Segment
  | quasis, [] => [.token (quasis.flatMap (·.raw))]
  | [], _ :: _ => []
  | quasi :: quasis, expression :: rest =>
    .token quasi.raw :: .token "$\x7b" :: .part .plain level expression :: .token "\x7d" ::
      templateSegments level quasis rest

/-- The parameters and the body of a function. -/
def methodSegments (level : Nat) (params : List Node) (body : Node) : List Segment :=
  series ", " (params.map (item level)) ++ [.token ") ", .part .plain level body]

/-- The declarations of a declaration of variables, without the semicolon. -/
def headSegments (level : Nat) (kind : Text) (declarations : List Node) : List Segment :=
  .token kind :: .token " " :: series ", " (declarations.map (item level))

/-- The segments of a node. -/
def segments (level : Nat) : Node → List Segment
  | .bare .. | .templateElement .. => []
  | .program _ body => series "\n" (body.map (line level))
  | .expressionStatement _ expression => [.part .statement level expression]
  | .blockStatement _ body | .classBody _ body =>
    enclosed level "" (body.map (line (level + 1)))
  | .staticBlock _ body => .token "static " :: enclosed level "" (body.map (line (level + 1)))
  | .emptyStatement _ => [.token ";"]
  | .debuggerStatement _ => [.token "debugger;"]
  | .returnStatement _ none => [.token "return;"]
  | .returnStatement _ (some argument) =>
    [.token "return ", .part .plain level argument, .token ";"]
  | .throwStatement _ argument =>
    .token "throw " :: argument.elim [] (item level) ++ [.token ";"]
  | .breakStatement _ none => [.token "break;"]
  | .breakStatement _ (some label) => [.token "break ", .part .plain level label, .token ";"]
  | .continueStatement _ none => [.token "continue;"]
  | .continueStatement _ (some label) => [.token "continue ", .part .plain level label, .token ";"]
  | .labeledStatement _ label body =>
    [.part .plain level label, .token ": ", .part .plain level body]
  | .ifStatement _ test consequent none =>
    [.token "if (", .part .plain level test, .token ") ", .part .plain level consequent]
  | .ifStatement _ test consequent (some alternate) =>
    [.token "if (", .part .plain level test, .token ") ", .part .arm level consequent,
      .token " else ", .part .plain level alternate]
  | .switchStatement _ discriminant cases =>
    .token "switch (" :: .part .plain level discriminant :: .token ") " ::
      enclosed level "" (cases.map (line (level + 1)))
  | .switchCase _ none consequent =>
    series "\n" ([.token "default:"] :: consequent.map (line (level + 1)))
  | .switchCase _ (some test) consequent =>
    series "\n" ([.token "case ", .part .plain level test, .token ":"] ::
      consequent.map (line (level + 1)))
  | .whileStatement _ test body =>
    [.token "while (", .part .plain level test, .token ") ", .part .plain level body]
  | .doWhileStatement _ body test =>
    [.token "do ", .part .plain level body, .token " while (", .part .plain level test,
      .token ");"]
  | .forStatement _ init test step body =>
    .token "for (" :: init.elim [] (fun node => [.part .head level node]) ++
      .token ";" :: optional level " " test ++ .token ";" :: optional level " " step ++
      [.token ") ", .part .plain level body]
  | .forInStatement _ left right body =>
    [.token "for (", .part .head level left, .token " in ", .part .plain level right,
      .token ") ", .part .plain level body]
  | .forOfStatement _ left right body isAwait =>
    [.token (Text.ofString (if isAwait then "for await" else "for")), .token " (", .part .head level left,
      .token " of ", .part .plain level right, .token ") ", .part .plain level body]
  | .tryStatement _ block handler finalizer =>
    .token "try " :: .part .plain level block :: optional level " " handler ++
      optional level " finally " finalizer
  | .catchClause _ none body => [.token "catch ", .part .plain level body]
  | .catchClause _ (some param) body =>
    [.token "catch (", .part .plain level param, .token ") ", .part .plain level body]
  | .variableDeclaration _ kind declarations =>
    headSegments level kind declarations ++ [.token ";"]
  | .variableDeclarator _ id none => item level id
  | .variableDeclarator _ id (some init) =>
    [.part .plain level id, .token " = ", .part .plain level init]
  | .function .arrow _ _ params body isAsync _ isExpression =>
    .token (Text.ofString (if isAsync then "async " else "")) :: .token "(" ::
      series ", " (params.map (item level)) ++
      [.token ") => ", .part (.wrapped (.body isExpression)) level body]
  | .function _ _ id params body isAsync isGenerator _ =>
    .token (functionLead isAsync isGenerator) :: optional level " " id ++ .token "(" ::
      methodSegments level params body
  | .classNode _ _ id superClass body =>
    .token "class" :: optional level " " id ++
      superClass.elim [] (fun parent => [.token " extends ",
        .part (.wrapped .parent) level parent]) ++
      [.token " ", .part .plain level body]
  | .methodDefinition _ key value kind computed isStatic =>
    .token (staticLead isStatic) :: .token (accessorLead kind) :: .token (methodWords value) ::
      keySegments level computed key ++ [.token "(", .part .method level value]
  | .propertyDefinition _ key value computed isStatic =>
    .token (staticLead isStatic) :: keySegments level computed key ++
      optional level " = " value ++ [.token ";"]
  | .identifier _ name => [.token name]
  | .privateIdentifier _ name => [.token ("#" ++ name)]
  | .literal _ value raw regex => [.token ((literalText value raw regex).toOption.getD [])]
  | .templateLiteral _ quasis expressions =>
    .token "`" :: templateSegments level quasis expressions ++ [.token "`"]
  | .taggedTemplate _ tag quasi => [.part (.wrapped .target) level tag, .part .plain level quasi]
  | .thisExpression _ => [.token "this"]
  | .superReference _ => [.token "super"]
  | .metaProperty _ head property =>
    [.part .plain level head, .token ".", .part .plain level property]
  | .arrayExpression _ elements | .arrayPattern _ elements =>
    .token "[" :: series ", " (elements.map (element level)) ++
      [.token (closingComma elements), .token "]"]
  | .objectExpression _ properties => enclosed level "," (properties.map (line (level + 1)))
  | .property _ key value kind computed shorthand method =>
    if kind == "get" || kind == "set" || method then
      .token (accessorLead kind) :: .token (methodWords value) :: keySegments level computed key ++
        [.token "(", .part .method level value]
    else if shorthand then item level value
    else keySegments level computed key ++ [.token ": ", .part .plain level value]
  | .spreadElement _ argument | .restElement _ argument =>
    [.token "...", .part .plain level argument]
  | .unary _ operator argument => [.token operator, .part (.argument operator) level argument]
  | .update _ operator leading argument =>
    let argument := Segment.part (.wrapped (.below 19)) level argument
    if leading then [.token operator, argument] else [argument, .token operator]
  | .binary _ left operator right =>
    [.part (.operand 14 operator .left) level left, .token " ", .token operator, .token " ",
      .part (.operand 14 operator .right) level right]
  | .logical _ left operator right =>
    [.part (.operand 13 operator .left) level left, .token " ", .token operator, .token " ",
      .part (.operand 13 operator .right) level right]
  | .assignment _ left operator right =>
    [.part .plain level left, .token " ", .token operator, .token " ", .part .plain level right]
  | .conditional _ test consequent alternate =>
    [.part (.wrapped .test) level test,
      .token " ? ", .part .plain level consequent, .token " : ", .part .plain level alternate]
  | .call _ callee arguments optional =>
    .part (.wrapped .target) level callee :: .token (Text.ofString (if optional then "?.(" else "(")) ::
      series ", " (arguments.map (item level)) ++ [.token ")"]
  | .newExpression _ callee arguments =>
    .token "new " ::
      .part (.wrapped .callee) level callee ::
      .token "(" :: series ", " (arguments.map (item level)) ++ [.token ")"]
  | .member _ object property computed optional =>
    .part (.wrapped .object) level object ::
      if computed then
        [.token (Text.ofString (if optional then "?.[" else "[")), .part .plain level property, .token "]"]
      else [.token (Text.ofString (if optional then "?." else ".")), .part .plain level property]
  | .chain _ expression => item level expression
  | .sequence _ expressions =>
    .token "(" :: series ", " (expressions.map (item level)) ++ [.token ")"]
  | .awaitExpression _ argument =>
    [.token "await ", .part (.wrapped (.below 15)) level argument]
  | .yieldExpression _ argument delegate =>
    .token (Text.ofString (if delegate then "yield*" else "yield")) :: optional level " " argument
  | .objectPattern _ properties =>
    .token "\x7b" :: series ", " (properties.map (item level)) ++ [.token "\x7d"]
  | .assignmentPattern _ left right =>
    [.part .plain level left, .token " = ", .part .plain level right]

/-! ## What segments spell -/

variable {level : Nat} {separator : Text}

/-- No segments, no text. -/
@[simp]
theorem spell_nil : spell [] = .ok [] := rfl

/-- A part is written in its setting. -/
@[simp]
theorem spell_part (setting : Setting) (node : Node) (rest : List Segment) :
    spell (.part setting level node :: rest) =
      setting.write level node >>= fun first => (first ++ ·) <$> spell rest := rfl

/-- A token is its text. -/
@[simp]
theorem spell_token (text : Text) (rest : List Segment) :
    spell (.token text :: rest) = (text ++ ·) <$> spell rest := rfl

/-- Segments are spelled if the first and the others are. -/
theorem spell_cons_eq_ok {segment : Segment} {rest : List Segment} {text : Text} :
    spell (segment :: rest) = .ok text ↔
      ∃ first, segment.write = .ok first ∧ ∃ others, spell rest = .ok others ∧
        text = first ++ others := by
  simp only [spell, bind_eq_ok, pure_eq_ok, @eq_comm _ text]

/-- A separator stands behind each item but the last. -/
theorem series_cons (item : List Segment) (items : List (List Segment)) :
    series separator (item :: items) =
      item ++ if items.isEmpty then [] else .token separator :: series separator items := by
  cases items with
  | nil => simp [series]
  | cons next items => simp [series]

/-- Segments in a row are spelled in a row. -/
theorem spell_append (first second : List Segment) : spell (first ++ second) =
    spell first >>= fun t => (t ++ ·) <$> spell second := by
  induction first with
  | nil => simp
  | cons segment rest ih => simp [spell, ih]

/-- A series is spelled as the joined texts of its items. -/
theorem spell_series {items : List (List Segment)}
    (h : List.Forall₂ (fun item text => spell item = .ok text) items texts) :
    spell (series separator items) = .ok (Text.join separator texts) := by
  unfold series Text.join
  induction h with
  | nil => rfl
  | @cons item text items texts hItem hItems ih =>
    cases hItems with
    | nil => simpa using hItem
    | cons _ _ =>
      simp only [List.intercalate_cons_cons] at ih ⊢
      simp [spell_append, hItem, ih]

/-- The texts belong to the items one by one. -/
theorem forall₂_of_mapM {α : Type} {f : α → Except PrintError Text} {as : List α}
    (h : as.mapM f = .ok texts) : List.Forall₂ (fun a t => f a = .ok t) as texts := by
  induction as generalizing texts with
  | nil =>
    cases h
    exact .nil
  | cons a as ih =>
    simp only [List.mapM_cons, bind_eq_ok, pure_eq_ok] at h
    obtain ⟨t, hT, rest, hRest, rfl⟩ := h
    exact .cons hT (ih hRest)

/-- An item is the text of its node. -/
theorem spell_item {node : Node} (h : printAt level node = .ok t) :
    spell (item level node) = .ok t := by
  simp [item, Setting.write, h]

/-- Nodes with a separator between them. -/
theorem spell_list (h : printList level nodes = .ok texts) :
    spell (series separator (nodes.map (item level))) = .ok (Text.join separator texts) := by
  rw [printList_eq_mapM] at h
  exact spell_series (List.forall₂_map_left_iff.2 ((forall₂_of_mapM h).imp fun _ _ => spell_item))

/-- Nodes with commas between them. -/
theorem spell_commas (h : printList level nodes = .ok texts) :
    spell (series ", " (nodes.map (item level))) = .ok (commas texts) :=
  spell_list h

/-- Each line is spelled. -/
theorem forall₂_lines (h : printLines level nodes = .ok texts) :
    List.Forall₂ (fun item text => spell item = .ok text) (nodes.map (line level)) texts := by
  rw [printLines_eq_mapM] at h
  refine List.forall₂_map_left_iff.2 ((forall₂_of_mapM h).imp ?_)
  intro node t hT
  simp only [bind_eq_ok, pure_eq_ok] at hT
  obtain ⟨inner, hInner, rfl⟩ := hT
  simp [line, Setting.write, hInner]

/-- Lines between braces. -/
theorem spell_enclosed (h : printLines (level + 1) nodes = .ok texts) :
    spell (enclosed level separator (nodes.map (line (level + 1)))) =
      .ok (braces level separator texts) := by
  have hLines := forall₂_lines h
  unfold enclosed braces
  cases nodes with
  | nil =>
    cases hLines
    simp
  | cons node rest =>
    obtain ⟨text, texts, rfl⟩ : ∃ text rest, texts = text :: rest := by
      cases hLines
      exact ⟨_, _, rfl⟩
    simp only [List.map_cons, List.isEmpty_cons, Bool.false_eq_true, if_false] at hLines ⊢
    simp [spell_append, spell_series hLines]

/-- Elements and holes. -/
theorem spell_elements {elements : List (Option Node)} (h : printHoles level elements = .ok texts) :
    spell (series separator (elements.map (element level))) = .ok (Text.join separator texts) := by
  rw [printHoles_eq_mapM] at h
  refine spell_series (List.forall₂_map_left_iff.2 ((forall₂_of_mapM h).imp ?_))
  intro node t hT
  cases node with
  | none =>
    cases hT
    rfl
  | some node => exact spell_item hT

/-- A part that may be missing. -/
theorem spell_optional {lead : Text} {part : Option Node}
    (h : printOptional level lead part = .ok t) : spell (optional level lead part) = .ok t := by
  cases part with
  | none => exact h
  | some node =>
    simp only [printOptional, bind_eq_ok, pure_eq_ok] at h
    obtain ⟨inner, hInner, rfl⟩ := h
    simp [optional, Setting.write, hInner]

/-- Pieces and substitutions. -/
theorem spell_template {quasis : List Quasi} {expressions : List Node}
    (h : printTemplate level quasis expressions = .ok t) :
    spell (templateSegments level quasis expressions) = .ok t := by
  fun_induction templateSegments level quasis expressions generalizing t with
  | case1 quasis =>
    cases h
    simp
  | case2 => exact h
  | case3 quasi quasis expression rest ih =>
    simp only [printTemplate, bind_eq_ok, pure_eq_ok] at h
    obtain ⟨inside, hInside, more, hMore, rfl⟩ := h
    simp [Setting.write, hInside, ih hMore]

/-- A key, between brackets if it is computed. -/
theorem spell_key {computed : Bool} {key : Node} (h : printAt level key = .ok t) :
    spell (keySegments level computed key) = .ok (keyText computed t) := by
  cases computed with
  | false => exact spell_item h
  | true => simp [keySegments, keyText, Setting.write, h]

/-- Parameters and a body. -/
theorem spell_methodSegments {params : List Node} {body : Node} {items : List Text} {inner : Text}
    (hItems : printList level params = .ok items) (hInner : printAt level body = .ok inner) :
    spell (methodSegments level params body) =
      .ok (commas items ++ (Text.ofString ") " ++ inner)) := by
  simp [methodSegments, spell_append, spell_commas hItems, Setting.write, hInner]

/-- A declaration without its semicolon. -/
theorem spell_headSegments {kind : Text} {declarations : List Node} {items : List Text}
    (h : printList level declarations = .ok items) :
    spell (headSegments level kind declarations) = .ok (kind ++ (Text.ofString " " ++ commas items)) := by
  simp [headSegments, spell_commas h]

/-- The first clause of a loop. -/
theorem spell_init {init : Option Node} (h : printOptional level "" init = .ok t) :
    spell (init.elim [] fun node => [.part .head level node]) =
      .ok (init.elim t (loopHead · t)) := by
  cases init with
  | none => exact h
  | some node =>
    simp only [printOptional, bind_eq_ok, pure_eq_ok] at h
    obtain ⟨inner, hInner, rfl⟩ := h
    simp [Setting.write, hInner, Text.ofString]

/-- The parent of a class. -/
theorem spell_extends {superClass : Option Node} (h : printOptional level "" superClass = .ok t) :
    spell (superClass.elim [] fun parent => [.token " extends ",
      .part (.wrapped .parent) level parent]) = .ok (superClass.elim [] (extendsText · t)) := by
  cases superClass with
  | none => rfl
  | some node =>
    simp only [printOptional, bind_eq_ok, pure_eq_ok] at h
    obtain ⟨inner, hInner, rfl⟩ := h
    simp [Setting.write, hInner, extendsText, Text.ofString]

/-- A member of a class, from what is printed of its value as a method. -/
theorem printAt_definition (level : Nat) (span : Span) (key value : Node) (kind : Text)
    (computed isStatic : Bool) :
    printAt level (.methodDefinition span key value kind computed isStatic) = do
      let name ← printAt level key
      let tail ← methodTail level value
      return staticLead isStatic ++ accessorLead kind ++ methodWords value ++
        keyText computed name ++ "(" ++ tail := by
  cases value
  case function => simp [printAt, methodTail, methodWords, signature?]
  all_goals rfl

/-- A property of an object. -/
theorem printAt_property (level : Nat) (span : Span) (key value : Node) (kind : Text)
    (computed shorthand method : Bool) :
    printAt level (.property span key value kind computed shorthand method) = do
      let name ← printAt level key
      if kind == "get" || kind == "set" || method then
        let tail ← methodTail level value
        return accessorLead kind ++ methodWords value ++ keyText computed name ++ "(" ++ tail
      else
        let valueText ← printAt level value
        return if shorthand then valueText else keyText computed name ++ ": " ++ valueText := by
  cases value
  case function => simp [printAt, methodTail, methodWords, signature?]
  all_goals rfl

/-- The text of a node is that of its segments. -/
theorem spell_segments {node : Node} (h : printAt level node = .ok t) :
    spell (segments level node) = .ok t := by
  cases node
  case bare | templateElement => cases h
  case literal =>
    rw [printAt] at h
    simp [segments, h, Except.toOption]
  case program =>
    simp only [printAt, bind_eq_ok, pure_eq_ok] at h
    obtain ⟨lines, hLines, rfl⟩ := h
    exact spell_series (forall₂_lines hLines)
  case chain => exact spell_item h
  case switchCase test _ =>
    cases test <;> simp only [printAt, bind_eq_ok, pure_eq_ok] at h
    · obtain ⟨lines, hLines, rfl⟩ := h
      refine spell_series (.cons ?_ (forall₂_lines hLines))
      simp
    · obtain ⟨first, hFirst, lines, hLines, rfl⟩ := h
      refine spell_series (.cons ?_ (forall₂_lines hLines))
      simp [Setting.write, hFirst]
  case unary argument =>
    by_cases hRank : precedence argument < 15 <;>
      simp only [printAt_unary, hRank, if_true, if_false, bind_eq_ok, pure_eq_ok] at h
    all_goals
      repeat obtain ⟨_, _, h⟩ := h
      simp [segments, Setting.write, *]
  case methodDefinition =>
    simp only [printAt_definition, bind_eq_ok, pure_eq_ok] at h
    obtain ⟨name, hName, tail, hTail, rfl⟩ := h
    simp [segments, spell_append, spell_key hName, Setting.write, hTail]
  case property kind _ shorthand method =>
    rw [printAt_property] at h
    by_cases hKind : (kind == "get" || kind == "set" || method) = true
    · simp only [hKind, if_true, bind_eq_ok, pure_eq_ok] at h
      obtain ⟨name, hName, tail, hTail, rfl⟩ := h
      rw [segments, if_pos hKind]
      simp [spell_append, spell_key hName, Setting.write, hTail]
    · simp only [hKind, Bool.false_eq_true, if_false, bind_eq_ok, pure_eq_ok] at h
      obtain ⟨name, hName, inner, hInner, rfl⟩ := h
      rw [segments, if_neg hKind]
      cases shorthand with
      | true => exact spell_item hInner
      | false => simp [spell_append, spell_key hName, Setting.write, hInner]
  -- Any other node is printed part by part, up to what is absent.
  case' returnStatement span part | breakStatement span part | continueStatement span part |
    throwStatement span part => cases part
  case' ifStatement span test consequent alternate =>
    rcases alternate with _ | alternate <;> by_cases hBlock : consequent.isBlock = true
  case' catchClause span param body => cases param
  case' update span operator leading argument => cases leading
  case' member span object property computed optional => cases computed
  case' variableDeclarator span id init => cases init
  case' function form span id params body isAsync isGenerator isExpression => cases form
  all_goals
    simp only [printAt, bind_eq_ok, pure_eq_ok, if_true, if_false, Bool.false_eq_true,
      exists_eq_left', *] at h
    repeat obtain ⟨_, _, h⟩ := h
  all_goals
    simp (disch := assumption) [segments, Setting.write, spell_append, spell_enclosed,
      spell_optional, spell_commas, spell_elements, spell_template, spell_key, spell_headSegments,
      spell_methodSegments, spell_init, spell_extends, item, commas, *]

end Assay.Print
